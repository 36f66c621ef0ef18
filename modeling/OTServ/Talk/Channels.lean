import OTServ.Library.OrderedMap
import Mathlib.Data.Nat.Basic

/-!
# Chat channels

The channels of `chat.cpp`.  There are fixed normal channels, one channel for each guild which has
asked for one, and private channels owned by a player.

A `Player*` is represented by the creature id of the player object, and a
`ChatChannel*` by the place where the channel is stored.  What a client is sent
is collected as a list of deliveries.
-/

namespace OTServ.Talk.Channels

open Library

/-- The fields of a player which the chat reads. -/
structure Player where
  id : Nat
  guid : Nat
  name : String
  isFemale : Bool
  guildId : Nat
  guildName : String
  isPremium : Bool
  /-- `PlayerFlag_CanAnswerRuleViolations` -/
  canAnswerRuleViolations : Bool
  /-- `PlayerFlag_CannotBeMuted` -/
  cannotBeMuted : Bool
  /-- `PlayerFlag_TalkOrangeHelpChannel` -/
  talkOrangeHelpChannel : Bool
  /-- `PlayerFlag_CanTalkRedChannel` -/
  canTalkRedChannel : Bool
  /-- `PlayerFlag_CanTalkRedChannelAnonymous` -/
  canTalkRedChannelAnonymous : Bool
  /-- `hasCondition(CONDITION_TRADE_MUTED)` -/
  tradeMuted : Bool
deriving DecidableEq

/-- The players in the game by creature id: `Player::listPlayer`. -/
abbrev PlayerTable := OrderedMap Nat Player

/-- `SpeakClasses`, as far as channels distinguish them. -/
inductive SpeakClass where
  | channelY
  | channelR1
  | channelR2
  | channelO
  | other (code : Nat)
deriving DecidableEq

inductive Delivery where
  | textMessage (receiver : Nat) (text : String)
  | cancel (receiver : Nat) (text : String)
  | closePrivate (receiver channelId : Nat)
  | createPrivateChannel (receiver channelId : Nat) (name : String)
  | channel (receiver channelId : Nat) (name : String)
  | ruleViolationsChannel (receiver channelId : Nat)
  | channelsDialog (receiver : Nat) (list : List (Nat × String))
  | toChannel
      (receiver speaker : Nat) (type : SpeakClass) (text : String)
      (channelId : Nat)
deriving DecidableEq

/-- `CHANNEL_GUILD` -/
def channelGuild : Nat := 0x00

/-- `CHANNEL_RULE_REP` -/
def channelRuleRep : Nat := 0x03

/-- `CHANNEL_GAME_CHAT` -/
def channelGameChat : Nat := 0x04

/-- `CHANNEL_TRADE` -/
def channelTrade : Nat := 0x05

/-- `CHANNEL_RL_CHAT` -/
def channelRlChat : Nat := 0x07

/-- `CHANNEL_HELP` -/
def channelHelp : Nat := 0x09

/-- `CHANNEL_PRIVATE` -/
def channelPrivate : Nat := 0xFFFF

/-- A channel; `m_users` maps creature ids to the players with these ids. -/
structure ChatChannel where
  id : Nat
  name : String
  users : OrderedMap Nat Unit

/-- A private channel; the owner and the invited players are known by guid. -/
structure PrivateChatChannel extends ChatChannel where
  owner : Nat
  invites : OrderedMap Nat Unit

/-- A `ChatChannel*`: where the channel is stored. -/
inductive ChannelRef where
  | guild (guildId : Nat)
  | normal (channelId : Nat)
  | priv (channelId : Nat)
  | dummyPrivate
deriving DecidableEq

def ChatChannel.new (channelId : Nat) (channelName : String) : ChatChannel :=
  ⟨channelId, channelName, .empty⟩

/-- A new private channel has owner 0 until `setOwner`. -/
def PrivateChatChannel.new (channelId : Nat) (channelName : String) : PrivateChatChannel :=
  { ChatChannel.new channelId channelName with owner := 0, invites := .empty }

/-- `PrivateChatChannel::isInvited` for a player which is not null. -/
def PrivateChatChannel.isInvited (channel : PrivateChatChannel) (player : Player) : Bool :=
  if player.guid = channel.owner then
    true
  else
    channel.invites.contains player.guid

/-- `PrivateChatChannel::addInvited`; `none` when already invited. -/
def PrivateChatChannel.addInvited
  (channel : PrivateChatChannel) (player : Player) : Option PrivateChatChannel :=
  if channel.invites.contains player.guid then
    none
  else
    some { channel with invites := channel.invites.insert player.guid () }

/-- `PrivateChatChannel::removeInvited`; `none` when not invited. -/
def PrivateChatChannel.removeInvited
  (channel : PrivateChatChannel) (player : Player) : Option PrivateChatChannel :=
  if channel.invites.contains player.guid then
    some { channel with invites := channel.invites.erase player.guid }
  else
    none

/-- `ChatChannel::addUser`; `none` when refused. -/
def ChatChannel.addUser (channel : ChatChannel) (player : Player) : Option ChatChannel :=
  if channel.users.contains player.id then
    none
  else if channel.id = channelRuleRep ∧ ¬player.canAnswerRuleViolations then
    none
  else
    some { channel with users := channel.users.insert player.id () }

/-- `ChatChannel::removeUser`; `none` when the player is not a user. -/
def ChatChannel.removeUser (channel : ChatChannel) (player : Player) : Option ChatChannel :=
  if channel.users.contains player.id then
    some { channel with users := channel.users.erase player.id }
  else
    none

/-- `PrivateChatChannel::invitePlayer`. -/
def PrivateChatChannel.invitePlayer (channel : PrivateChatChannel) (player invited : Player) :
  PrivateChatChannel × List Delivery :=
  if player.id = invited.id then
    (channel, [])
  else
    match channel.addInvited invited with
    | none => (channel, [])
    | some channel =>
      (channel,
        [.textMessage invited.id
            (player.name ++ " invites you to " ++
              (if player.isFemale then "her" else "his") ++
              " private chat channel."),
          .textMessage player.id (invited.name ++ " has been invited.")])

/-- `PrivateChatChannel::excludePlayer`. -/
def PrivateChatChannel.excludePlayer (channel : PrivateChatChannel) (player excluded : Player) :
  PrivateChatChannel × List Delivery :=
  if player.id = excluded.id then
    (channel, [])
  else
    match channel.removeInvited excluded with
    | none => (channel, [])
    | some channel =>
      -- `removeUser` is called for its effect only
      let remaining := (channel.toChatChannel.removeUser excluded).getD channel.toChatChannel
      ({ channel with toChatChannel := remaining },
        [.textMessage player.id (excluded.name ++ " has been excluded."),
          .closePrivate excluded.id channel.id])

/-- `PrivateChatChannel::closeChannel`. -/
def PrivateChatChannel.closeChannel (channel : PrivateChatChannel) : List Delivery :=
  channel.users.entries.map fun user => .closePrivate user.1 channel.id

/-- `ChatChannel::talk`: every user is sent the text; `none` for someone who is not a user. -/
def ChatChannel.talk (channel : ChatChannel) (fromPlayer : Player) (type : SpeakClass)
  (text : String) : Option (List Delivery) :=
  if channel.users.contains fromPlayer.id then
    some
      (channel.users.entries.map fun user => .toChannel user.1 fromPlayer.id type text channel.id)
  else
    none

/-! ## The chat -/

/-- `Chat`: the three maps of channels and the channel listed to those who may open one. -/
structure Chat where
  normalChannels : OrderedMap Nat ChatChannel
  guildChannels : OrderedMap Nat ChatChannel
  privateChannels : OrderedMap Nat PrivateChatChannel
  dummyPrivate : PrivateChatChannel

/-- `Chat::Chat`: the default channels. -/
def Chat.initial : Chat where
  normalChannels :=
    [(channelRuleRep, "Rule Violations"), (channelGameChat, "Game-Chat"),
      (channelTrade, "Trade"), (channelRlChat, "RL-Chat"),
      (channelHelp, "Help")].foldl
        (fun channels channel => channels.insert channel.1 (ChatChannel.new channel.1 channel.2))
        .empty
  guildChannels := .empty
  privateChannels := .empty
  dummyPrivate := PrivateChatChannel.new channelPrivate "Private Chat Channel"

def Chat.deref (chat : Chat) : ChannelRef → Option ChatChannel
  | .guild guildId => chat.guildChannels.find? guildId
  | .normal channelId => chat.normalChannels.find? channelId
  | .priv channelId =>
    (chat.privateChannels.find? channelId).map (·.toChatChannel)
  | .dummyPrivate => some chat.dummyPrivate.toChatChannel

/-- `getOwner` of the channel a pointer leads to: 0 unless it is private. -/
def Chat.getOwner (chat : Chat) : ChannelRef → Nat
  | .guild _ => 0
  | .normal _ => 0
  | .priv channelId =>
    ((chat.privateChannels.find? channelId).map (·.owner)).getD 0
  | .dummyPrivate => chat.dummyPrivate.owner

/-- Write back the users of the channel a pointer leads to. -/
def Chat.store (chat : Chat) (ref : ChannelRef) (channel : ChatChannel) : Chat :=
  match ref with
  | .guild guildId =>
    { chat with guildChannels := chat.guildChannels.insert guildId channel }
  | .normal channelId =>
    { chat with normalChannels := chat.normalChannels.insert channelId channel }
  | .priv channelId =>
    match chat.privateChannels.find? channelId with
    | none => chat
    | some privateChannel =>
      { chat with
        privateChannels :=
          chat.privateChannels.insert channelId { privateChannel with toChatChannel := channel } }
  | .dummyPrivate =>
    { chat with
      dummyPrivate := { chat.dummyPrivate with toChatChannel := channel } }

/-- `Chat::getFreePrivateChannelId`; 0 when none is free. -/
def Chat.getFreePrivateChannelId (chat : Chat) : Nat :=
  ((List.range' 100 9900).find? fun channelId => !chat.privateChannels.contains channelId).getD 0

/-- `Chat::getPrivateChannel`: the first private channel of the player. -/
def Chat.getPrivateChannel (chat : Chat) (player : Player) : Option (Nat × PrivateChatChannel) :=
  chat.privateChannels.entries.find? fun entry => entry.2.owner = player.guid

/-- `Chat::getChannel`. -/
def Chat.getChannel (chat : Chat) (player : Player) (channelId : Nat) : Option ChannelRef :=
  if channelId = channelGuild then
    if chat.guildChannels.contains player.guildId then
      some (.guild player.guildId)
    else
      none
  else if chat.normalChannels.contains channelId then
    if channelId = channelRuleRep ∧ ¬player.canAnswerRuleViolations then
      none
    else
      some (.normal channelId)
  else if chat.privateChannels.contains channelId then
    some (.priv channelId)
  else
    none

/-- `Chat::createChannel`. -/
def Chat.createChannel
  (chat : Chat) (player : Player) (channelId : Nat) : Chat × Option ChannelRef :=
  if (chat.getChannel player channelId).isSome then
    (chat, none)
  else if channelId = channelGuild then
    ({ chat with
        guildChannels :=
          chat.guildChannels.insert player.guildId (ChatChannel.new channelId player.guildName) },
      some (.guild player.guildId))
  else if channelId = channelPrivate then
    -- only one private channel for each player
    if (chat.getPrivateChannel player).isSome then
      (chat, none)
    else
      let free := chat.getFreePrivateChannelId
      if free ≠ 0 then
        ({ chat with
            privateChannels :=
              chat.privateChannels.insert free
                { PrivateChatChannel.new free
                    (player.name ++ "'s Channel") with
                  owner := player.guid } },
          some (.priv free))
      else
        (chat, none)
  else
    (chat, none)

/-- `Chat::deleteChannel`. -/
def Chat.deleteChannel (chat : Chat) (player : Player) (channelId : Nat) : Chat × List Delivery :=
  if channelId = channelGuild then
    ({ chat with guildChannels := chat.guildChannels.erase player.guildId }, [])
  else
    match chat.privateChannels.find? channelId with
    | none => (chat, [])
    | some channel =>
      ({ chat with
          privateChannels := chat.privateChannels.erase channelId },
        channel.closeChannel)

/-- `Chat::addUserToChannel`; `none` when refused. -/
def Chat.addUserToChannel (chat : Chat) (player : Player) (channelId : Nat) : Option Chat := do
  let ref ← chat.getChannel player channelId
  let channel ← chat.deref ref
  let channel ← channel.addUser player
  some (chat.store ref channel)

/-- `Chat::removeUserFromChannel`; an owner who was a user takes the channel away. -/
def Chat.removeUserFromChannel
  (chat : Chat) (player : Player) (channelId : Nat) : Chat × List Delivery :=
  match chat.getChannel player channelId with
  | none => (chat, [])
  | some ref =>
    match (chat.deref ref).bind (·.removeUser player) with
    | none => (chat, [])
    | some remaining =>
      let left := chat.store ref remaining
      if left.getOwner ref = player.guid then
        left.deleteChannel player channelId
      else
        (left, [])

/-- One turn of the loop of `removeUserFromAllChannels`. -/
def Chat.removeUserFromListed
  (chat : Chat) (player : Player) (ref : ChannelRef) : Chat × List Delivery :=
  match chat.deref ref with
  | none => (chat, [])
  | some channel =>
    let left := chat.store ref ((channel.removeUser player).getD channel)
    if left.getOwner ref = player.guid then
      left.deleteChannel player channel.id
    else
      (left, [])

/-- The private channels as `getChannelList` goes through them. -/
def Chat.listedPrivate (chat : Chat) (player : Player) : List ChannelRef :=
  (chat.privateChannels.entries.filter fun entry =>
    entry.2.isInvited player).map fun entry => .priv entry.1

/-- `Chat::getChannelList`; asking for the list creates the guild's channel. -/
def Chat.getChannelList (chat : Chat) (player : Player) : Chat × List ChannelRef :=
  let guild : Chat × List ChannelRef :=
    if player.guildId ≠ 0 ∧ player.guildName.length ≠ 0 then
      match chat.getChannel player channelGuild with
      | some ref => (chat, [ref])
      | none =>
        let created := chat.createChannel player channelGuild
        (created.1, created.2.toList)
    else
      (chat, [])
  let normal : List ChannelRef :=
    (guild.1.normalChannels.entries.filter fun entry =>
      ¬(entry.1 = channelRuleRep ∧ ¬player.canAnswerRuleViolations)).map
        fun entry => .normal entry.1
  let gotPrivate := guild.1.privateChannels.entries.any fun entry => entry.2.owner = player.guid
  let list := guild.2 ++ normal ++ guild.1.listedPrivate player
  (guild.1, if !gotPrivate && player.isPremium then .dummyPrivate :: list else list)

/-- `Chat::removeUserFromAllChannels`. -/
def Chat.removeUserFromAllChannels (chat : Chat) (player : Player) : Chat × List Delivery :=
  let listed := chat.getChannelList player
  listed.2.foldl
    (fun done ref =>
      let left := done.1.removeUserFromListed player ref
      (left.1, done.2 ++ left.2))
    (listed.1, [])

/-- `Chat::talkToChannel`; the flag tells that the speaker becomes trade muted. -/
def Chat.talkToChannel (chat : Chat) (player : Player) (type : SpeakClass) (text : String)
  (channelId : Nat) : List Delivery × Bool :=
  match (chat.getChannel player channelId).bind chat.deref with
  | none => ([], false)
  | some channel =>
    if channelId = channelTrade ∧ player.tradeMuted ∧
        ¬player.cannotBeMuted then
      ([.cancel player.id "You may only place one offer in two minutes."], false)
    else
      let type :=
        if channelId = channelHelp ∧ type = .channelY ∧
            player.talkOrangeHelpChannel then
          .channelO
        else
          type
      match channel.talk player type text with
      | none => ([], false)
      | some deliveries => (deliveries, channel.id = channelTrade)

end OTServ.Talk.Channels
