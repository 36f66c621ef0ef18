import OTServ.Library.GuardedRuns
import OTServ.Talk.ChannelUsers
import OTServ.Talk.Commands

/-!
# Who is in a channel

Every user of a channel is online and is listed the channel by
`getChannelList`; this is what lets `removeUserFromAllChannels` find all the
channels of a player who logs out.  Neither `getChannel` nor `addUser` asks
whether a player is invited, so the invariant rests on the players opening only
channels which they are listed.
-/

namespace OTServ.Talk.Membership

open Library
open Library.GuardedRuns
open Talk.Channels
open Talk.Commands
open List Option

structure Sound (game : Game) : Prop where
  ids : ∀ id player, game.players.find? id = some player → player.id = id
  numbers : ∀ ref channel, game.chat.deref ref = some channel → ref.Numbers channel.id
  users :
    ∀ ref id, game.chat.UserOf ref id →
      ∃ player, game.players.find? id = some player ∧ game.chat.MayUse player ref
  owners :
    ∀ left right leftChannel rightChannel,
      game.chat.privateChannels.find? left = some leftChannel →
        game.chat.privateChannels.find? right = some rightChannel →
          leftChannel.owner = rightChannel.owner → left = right

/--
The steps which respect the list of channels: a channel is opened by a player
who is listed it, and nobody is excluded while another login of the same
character sits in the channel.
-/
def Admitted (game : Game) : Event → Prop
  | .openChannel playerId channelId =>
    ∀ player ref,
      game.getPlayerByID playerId = some player →
        game.chat.getChannel player channelId = some ref → game.chat.MayUse player ref
  | .exclude playerId name =>
    ∀ player key channel excluded id other,
      game.getPlayerByID playerId = some player →
        game.chat.getPrivateChannel player = some (key, channel) →
          game.getPlayerByName name = some excluded →
            channel.users.contains id = true →
              game.players.find? id = some other →
                other.guid = excluded.guid → other.guid = channel.owner ∨ id = excluded.id
  | _ => True

/-- What is promised of a state of the chat. -/
structure MembersOnly (game : Game) : Prop where
  privateUsers :
    ∀ channelId channel id,
      game.chat.privateChannels.find? channelId = some channel →
        channel.users.contains id = true →
          ∃ player, game.players.find? id = some player ∧ channel.isInvited player = true
  usersOnline : ∀ ref id, game.chat.UserOf ref id → game.players.contains id = true
  oneChannelEach :
    ∀ left right leftChannel rightChannel,
      game.chat.privateChannels.find? left = some leftChannel →
        game.chat.privateChannels.find? right = some rightChannel →
          leftChannel.owner = rightChannel.owner → left = right
  heard :
    ∀ playerId type text channelId receiver speaker spoken words heardIn
      channel,
      .toChannel receiver speaker spoken words heardIn ∈
          (game.playerTalkToChannel playerId type text channelId).2 →
        game.chat.privateChannels.find? heardIn = some channel →
          ∃ player, game.players.find? receiver = some player ∧ channel.isInvited player = true

section Players

variable {game : Game} {chat : Chat} {player : Player} {id : Nat}

lemma find?_of_getPlayerByID (found : game.getPlayerByID id = some player) :
  game.players.find? id = some player := by
  simp only [Game.getPlayerByID] at found
  split_ifs at found
  exact found

lemma mayUse_tradeMuted (muted : Bool) (ref : ChannelRef) :
  chat.MayUse { player with tradeMuted := muted } ref ↔ chat.MayUse player ref := by
  cases ref with
  | guild guildId => exact Iff.rfl
  | normal channelId => exact Iff.rfl
  | priv channelId => exact Iff.rfl
  | dummyPrivate => exact Iff.rfl

lemma Sound.setTradeMuted
  (sound : Sound game) (found : game.players.find? id = some player) (muted : Bool) :
  Sound
    { game with
      players := game.players.insert id { player with tradeMuted := muted } } where
  ids := by
    intro other stored there
    simp only [OrderedMap.find?_insert] at there
    split_ifs at there with same
    · cases there
      exact (sound.ids id player found).trans same.symm
    · exact sound.ids other stored there
  numbers := sound.numbers
  users := by
    intro ref other user
    rcases sound.users ref other user with ⟨listed, online, mayUse⟩
    by_cases same : other = id
    · subst same
      have samePlayer : listed = player := some.inj (online.symm.trans found)
      refine ⟨{ player with tradeMuted := muted }, OrderedMap.find?_insert_self _ _ _, ?_⟩
      rw [mayUse_tradeMuted, ← samePlayer]
      exact mayUse
    · exact ⟨listed, (OrderedMap.find?_insert_ne _ _ same).trans online, mayUse⟩
  owners := sound.owners

lemma Sound.login (sound : Sound game) (player : Player) : Sound (game.login player) := by
  simp only [Game.login]
  split_ifs with used
  · exact sound
  · have unused : game.players.contains player.id ≠ true := fun there => used (Or.inr there)
    constructor
    · intro id stored there
      simp only [OrderedMap.find?_insert] at there
      split_ifs at there with same
      · cases there
        exact same.symm
      · exact sound.ids id stored there
    · exact sound.numbers
    · intro ref id user
      rcases sound.users ref id user with ⟨listed, online, mayUse⟩
      have ne : id ≠ player.id := by
        intro same
        apply unused
        rw [OrderedMap.contains_iff]
        exact ⟨listed, same ▸ online⟩
      exact ⟨listed, (OrderedMap.find?_insert_ne _ _ ne).trans online, mayUse⟩
    · exact sound.owners

end Players

variable {player : Player} {ref : ChannelRef}
  {playerId channelId key receiver speaker heardIn : Nat} {chat : Chat}
  {channel : PrivateChatChannel} {type spoken : SpeakClass} {text words : String} {game : Game}

section Shrinking

variable {game : Game} {chat : Chat}

lemma mayUse_of_shrinks {before after : Chat} (shrinks : Chat.Shrinks before after)
  (there : ∃ channel, after.deref ref = some channel) (mayUse : before.MayUse player ref) :
  after.MayUse player ref := by
  cases ref with
  | guild guildId => exact mayUse
  | normal channelId => exact mayUse
  | dummyPrivate => exact mayUse
  | priv channelId =>
    rcases there with ⟨channel, found⟩
    simp only [Chat.deref, map_eq_some_iff] at found
    rcases found with ⟨left, stored, -⟩
    rcases shrinks.privates channelId left stored with ⟨origin, inBefore, owners, invites⟩
    rcases mayUse with ⟨listed, listedThere, invited⟩
    have same : listed = origin := some.inj (listedThere.symm.trans inBefore)
    refine ⟨left, stored, ?_⟩
    rw [PrivateChatChannel.isInvited_congr player owners invites, ← same]
    exact invited

lemma Sound.shrink (sound : Sound game) (shrinks : Chat.Shrinks game.chat chat) :
  Sound { game with chat } where
  ids := sound.ids
  numbers := by
    intro ref left found
    rcases shrinks.users ref left found with ⟨channel, there, sameId, -⟩
    rw [sameId]
    exact sound.numbers ref channel there
  users := by
    intro ref id user
    rcases sound.users ref id (shrinks.userOf user) with ⟨player, online, mayUse⟩
    rcases user with ⟨channel, there, -⟩
    exact ⟨player, online, mayUse_of_shrinks shrinks ⟨channel, there⟩ mayUse⟩
  owners := by
    intro left right leftChannel rightChannel leftThere rightThere sameOwner
    rcases shrinks.privates left leftChannel leftThere with ⟨leftOrigin, leftFound, leftOwner, -⟩
    rcases shrinks.privates right rightChannel rightThere with
      ⟨rightOrigin, rightFound, rightOwner, -⟩
    apply sound.owners left right leftOrigin rightOrigin leftFound rightFound
    rw [← leftOwner, ← rightOwner]
    exact sameOwner

lemma Sound.leave (sound : Sound game) (gone : ∀ ref, ¬ game.chat.UserOf ref playerId) :
  Sound { game with players := game.players.erase playerId } where
  ids := fun id player found => sound.ids id player (OrderedMap.find?_of_erase found).2
  numbers := sound.numbers
  users := by
    intro ref id user
    rcases sound.users ref id user with ⟨player, online, mayUse⟩
    have ne : id ≠ playerId := by
      rintro rfl
      exact gone ref user
    exact ⟨player, (OrderedMap.find?_erase_ne _ ne).trans online, mayUse⟩
  owners := sound.owners

end Shrinking

section Joining

variable {game : Game} {player : Player} {ref : ChannelRef} {channel joined : ChatChannel}

lemma addUser_spec (added : channel.addUser player = some joined) :
  joined.id = channel.id ∧
    ∀ id, joined.users.contains id = true →
      id = player.id ∨ channel.users.contains id = true := by
  simp only [ChatChannel.addUser] at added
  split_ifs at added
  cases added
  exact ⟨rfl, fun id => (OrderedMap.contains_insert _ _ _ _).mp⟩

lemma mayUse_store {other : ChannelRef} (mayUse : chat.MayUse player other) :
  (chat.store ref joined).MayUse player other := by
  cases other with
  | guild guildId => exact mayUse
  | normal channelId => exact mayUse
  | dummyPrivate => exact mayUse
  | priv channelId =>
    rcases mayUse with ⟨listed, there, invited⟩
    rcases Chat.find?_store_of_find? there with ⟨left, stored, owners, invites⟩
    refine ⟨left, stored, ?_⟩
    rw [PrivateChatChannel.isInvited_congr player owners invites]
    exact invited

lemma Sound.join (sound : Sound game) (online : game.players.find? player.id = some player)
  (mayUse : game.chat.MayUse player ref) (found : game.chat.deref ref = some channel)
  (added : channel.addUser player = some joined) :
  Sound { game with chat := game.chat.store ref joined } := by
  rcases addUser_spec added with ⟨sameId, users⟩
  constructor
  · exact sound.ids
  · intro other left there
    by_cases same : other = ref
    · subst same
      rw [Chat.deref_store_self found] at there
      cases there
      rw [sameId]
      exact sound.numbers other channel found
    · rw [Chat.deref_store_ne same] at there
      exact sound.numbers other left there
  · rintro other id ⟨left, there, contained⟩
    by_cases same : other = ref
    · subst same
      rw [Chat.deref_store_self found] at there
      cases there
      rcases users id contained with rfl | before
      · exact ⟨player, online, mayUse_store mayUse⟩
      · rcases sound.users other id ⟨channel, found, before⟩ with ⟨listed, listedOnline, listedUse⟩
        exact ⟨listed, listedOnline, mayUse_store listedUse⟩
    · rw [Chat.deref_store_ne same] at there
      rcases sound.users other id ⟨left, there, contained⟩ with ⟨listed, listedOnline, listedUse⟩
      exact ⟨listed, listedOnline, mayUse_store listedUse⟩
  · intro left right leftChannel rightChannel leftThere rightThere sameOwner
    rcases Chat.find?_privateChannels_store leftThere with ⟨leftOrigin, leftFound, leftOwner, -⟩
    rcases Chat.find?_privateChannels_store rightThere with
      ⟨rightOrigin, rightFound, rightOwner, -⟩
    apply sound.owners left right leftOrigin rightOrigin leftFound rightFound
    rw [← leftOwner, ← rightOwner]
    exact sameOwner

end Joining

/-! ## Creating a channel -/

section Creating

variable {game : Game} {player : Player}

lemma le_getFreePrivateChannelId (free : chat.getFreePrivateChannelId ≠ 0) :
  100 ≤ chat.getFreePrivateChannelId := by
  cases searched :
      (List.range' 100 9900).find? fun channelId => !chat.privateChannels.contains channelId with
  | none =>
    simp only [Chat.getFreePrivateChannelId, searched] at free
    exact (free rfl).elim
  | some channelId =>
    have member := mem_of_find?_eq_some searched
    simp only [Chat.getFreePrivateChannelId, searched, getD_some]
    rw [mem_range'_1] at member
    exact member.1

lemma Sound.insertGuild (sound : Sound game) (guildId : Nat) (name : String) :
    Sound
      { game with
        chat :=
          { game.chat with
            guildChannels :=
              game.chat.guildChannels.insert guildId (ChatChannel.new channelGuild name) } } where
  ids := sound.ids
  numbers := by
    intro ref channel found
    cases ref with
    | guild key =>
      simp only [Chat.deref, OrderedMap.find?_insert] at found
      split_ifs at found with same
      · cases found
        rfl
      · exact sound.numbers (.guild key) channel found
    | normal channelId => exact sound.numbers (.normal channelId) channel found
    | priv channelId => exact sound.numbers (.priv channelId) channel found
    | dummyPrivate => exact sound.numbers .dummyPrivate channel found
  users := by
    rintro ref id ⟨channel, found, contained⟩
    cases ref with
    | guild key =>
      simp only [Chat.deref, OrderedMap.find?_insert] at found
      split_ifs at found with same
      · cases found
        cases contained
      · exact sound.users (.guild key) id ⟨channel, found, contained⟩
    | normal channelId =>
      exact sound.users (.normal channelId) id ⟨channel, found, contained⟩
    | priv channelId =>
      exact sound.users (.priv channelId) id ⟨channel, found, contained⟩
    | dummyPrivate =>
      exact sound.users .dummyPrivate id ⟨channel, found, contained⟩
  owners := sound.owners

lemma Sound.insertPrivate (sound : Sound game) {free : Nat} (name : String) (large : 100 ≤ free)
    (without : game.chat.getPrivateChannel player = none) :
    Sound
      { game with
        chat :=
          { game.chat with
            privateChannels :=
              game.chat.privateChannels.insert free
                { PrivateChatChannel.new free name with
                  owner := player.guid } } } := by
  have ownsNone :
      ∀ key channel, game.chat.privateChannels.find? key = some channel →
        channel.owner ≠ player.guid := by
    intro key channel found owner
    have member := (OrderedMap.mem_entries_iff game.chat.privateChannels key channel).mpr found
    have different := List.find?_eq_none.mp without (key, channel) member
    exact different (decide_eq_true owner)
  constructor
  · exact sound.ids
  · intro ref channel found
    cases ref with
    | priv channelId =>
      simp only [Chat.deref, OrderedMap.find?_insert] at found
      split_ifs at found with same
      · cases found
        exact ⟨same.symm, same ▸ large⟩
      · exact sound.numbers (.priv channelId) channel found
    | guild guildId => exact sound.numbers (.guild guildId) channel found
    | normal channelId => exact sound.numbers (.normal channelId) channel found
    | dummyPrivate => exact sound.numbers .dummyPrivate channel found
  · rintro ref id ⟨channel, found, contained⟩
    cases ref with
    | priv channelId =>
      simp only [Chat.deref, OrderedMap.find?_insert] at found
      split_ifs at found with same
      · cases found
        cases contained
      · rcases sound.users (.priv channelId) id
          ⟨channel, found, contained⟩ with
          ⟨listed, online, listedChannel, there, invited⟩
        exact ⟨listed, online, listedChannel,
          (OrderedMap.find?_insert_ne _ _ same).trans there, invited⟩
    | guild guildId =>
      exact sound.users (.guild guildId) id ⟨channel, found, contained⟩
    | normal channelId =>
      exact sound.users (.normal channelId) id ⟨channel, found, contained⟩
    | dummyPrivate =>
      exact sound.users .dummyPrivate id ⟨channel, found, contained⟩
  · intro left right leftChannel rightChannel leftThere rightThere sameOwner
    simp only [OrderedMap.find?_insert] at leftThere rightThere
    split_ifs at leftThere rightThere with leftNew rightNew rightNew
    · exact leftNew.trans rightNew.symm
    · cases leftThere
      exact (ownsNone right rightChannel rightThere sameOwner.symm).elim
    · cases rightThere
      exact (ownsNone left leftChannel leftThere sameOwner).elim
    · exact sound.owners left right leftChannel rightChannel leftThere rightThere sameOwner

lemma Sound.createChannel (sound : Sound game) (player : Player) (channelId : Nat) :
  Sound { game with chat := (game.chat.createChannel player channelId).1 } := by
  simp only [Chat.createChannel]
  split_ifs with exists_ guild priv owns free
  · exact sound
  · subst guild
    exact sound.insertGuild player.guildId player.guildName
  · exact sound
  · exact sound.insertPrivate _ (le_getFreePrivateChannelId free) (not_isSome_iff_eq_none.mp owns)
  · exact sound
  · exact sound

lemma mayUse_createChannel (created : (chat.createChannel player channelPrivate).2 = some ref) :
  (chat.createChannel player channelPrivate).1.MayUse player ref := by
  have notGuild : ¬ channelPrivate = channelGuild := by decide
  simp only [Chat.createChannel, notGuild, if_false, if_true] at created ⊢
  split_ifs at created ⊢
  cases created
  exact ⟨_, OrderedMap.find?_insert_self _ _ _, by simp [PrivateChatChannel.isInvited]⟩

end Creating

/-! ## The list of channels -/

section Listing

variable {game : Game} {player : Player}

lemma Sound.getChannelList (sound : Sound game) (player : Player) :
  Sound { game with chat := (game.chat.getChannelList player).1 } := by
  simp only [Chat.getChannelList]
  split_ifs with inGuild
  · cases game.chat.getChannel player channelGuild with
    | some ref => exact sound
    | none => exact sound.createChannel player channelGuild
  · exact sound

lemma userOf_getChannelList {id : Nat} (user : (chat.getChannelList player).1.UserOf ref id) :
  chat.UserOf ref id := by
  simp only [Chat.getChannelList] at user
  split_ifs at user with inGuild
  · cases got : chat.getChannel player channelGuild with
    | some guild =>
      simp only [got] at user
      exact user
    | none =>
      simp only [got, Chat.createChannel, isSome_none,
        Bool.false_eq_true, if_false, if_true] at user
      rcases user with ⟨channel, found, contained⟩
      cases ref with
      | guild key =>
        simp only [Chat.deref, OrderedMap.find?_insert] at found
        split_ifs at found with same
        · cases found
          cases contained
        · exact ⟨channel, found, contained⟩
      | normal channelId => exact ⟨channel, found, contained⟩
      | priv channelId => exact ⟨channel, found, contained⟩
      | dummyPrivate => exact ⟨channel, found, contained⟩
  · exact user

lemma createChannel_guild_others (chat : Chat) (player : Player) :
  (chat.createChannel player channelGuild).1.normalChannels =
      chat.normalChannels ∧
    (chat.createChannel player channelGuild).1.privateChannels =
      chat.privateChannels := by
  simp only [Chat.createChannel, if_true]
  split_ifs
  · exact ⟨rfl, rfl⟩
  · exact ⟨rfl, rfl⟩

lemma mem_getChannelList {channel : ChatChannel} (mayUse : chat.MayUse player ref)
  (found : chat.deref ref = some channel) : ref ∈ (chat.getChannelList player).2 := by
  have inList :
      ∀ (condition : Bool) (list : List ChannelRef), ref ∈ list →
        ref ∈ (if condition then .dummyPrivate :: list else list) := by
    intro condition list mem
    cases condition with
    | true => exact mem_cons_of_mem _ mem
    | false => exact mem
  have others := createChannel_guild_others chat player
  cases ref with
  | dummyPrivate => exact mayUse.elim
  | guild guildId =>
    rcases mayUse with ⟨rfl, inGuild, named⟩
    have stored : chat.guildChannels.contains player.guildId = true :=
      (OrderedMap.contains_iff _ _).mpr ⟨channel, found⟩
    have got : chat.getChannel player channelGuild = some (.guild player.guildId) := by
      simp [Chat.getChannel, stored]
    simp only [Chat.getChannelList, got]
    apply inList
    simp [inGuild, named]
  | normal channelId =>
    have entry := (OrderedMap.mem_entries_iff chat.normalChannels channelId channel).mpr found
    apply inList
    apply mem_append_left
    apply mem_append_right
    apply List.mem_map.mpr
    refine ⟨(channelId, channel), mem_filter.mpr ⟨?_, ?_⟩, rfl⟩
    · split_ifs
      · cases chat.getChannel player channelGuild with
        | some _ => exact entry
        | none => exact others.1 ▸ entry
      · exact entry
    · exact decide_eq_true mayUse
  | priv channelId =>
    rcases mayUse with ⟨listed, there, invited⟩
    have entry := (OrderedMap.mem_entries_iff chat.privateChannels channelId listed).mpr there
    apply inList
    apply mem_append_right
    apply List.mem_map.mpr
    refine ⟨(channelId, listed), mem_filter.mpr ⟨?_, invited⟩, rfl⟩
    split_ifs
    · cases chat.getChannel player channelGuild with
      | some _ => exact entry
      | none => exact others.2 ▸ entry
    · exact entry

end Listing

section Leaving

variable {game : Game} {player : Player} {id : Nat}

variable (sound : Sound game)
include sound

lemma Sound.removeUserFromAllChannels (player : Player) :
  Sound { game with chat := (game.chat.removeUserFromAllChannels player).1 } :=
  (sound.getChannelList player).shrink
    (Chat.removeUserFromListed_foldl player
      (game.chat.getChannelList player).2
      ((game.chat.getChannelList player).1, [])).1

lemma not_userOf_removeUserFromAllChannels
  (found : game.players.find? player.id = some player) (ref : ChannelRef) :
  ¬ (game.chat.removeUserFromAllChannels player).1.UserOf ref player.id := by
  intro user
  have loop :=
    Chat.removeUserFromListed_foldl player
      (game.chat.getChannelList player).2
      ((game.chat.getChannelList player).1, [])
  have before : game.chat.UserOf ref player.id := userOf_getChannelList (loop.1.userOf user)
  rcases sound.users ref player.id before with ⟨listed, online, mayUse⟩
  have same : listed = player := some.inj (online.symm.trans found)
  rcases before with ⟨channel, there, -⟩
  exact loop.2 ref (mem_getChannelList (same ▸ mayUse) there) user

lemma Sound.logout (playerId : Nat) : Sound (game.logout playerId).1 := by
  cases found : game.getPlayerByID playerId with
  | none =>
    simp only [Game.logout, found]
    exact sound
  | some player =>
    have online := find?_of_getPlayerByID found
    have sameId := sound.ids playerId player online
    simp only [Game.logout, found]
    apply (sound.removeUserFromAllChannels player).leave
    intro ref
    rw [← sameId] at online ⊢
    exact not_userOf_removeUserFromAllChannels sound online ref

lemma Sound.reconnect (playerId : Nat) : Sound (game.reconnect playerId).1 := by
  cases found : game.getPlayerByID playerId with
  | none =>
    simp only [Game.reconnect, found]
    exact sound
  | some player =>
    simp only [Game.reconnect, found]
    exact sound.removeUserFromAllChannels player

lemma Sound.playerCloseChannel (playerId channelId : Nat) :
  Sound (game.playerCloseChannel playerId channelId).1 := by
  cases found : game.getPlayerByID playerId with
  | none =>
    simp only [Game.playerCloseChannel, found]
    exact sound
  | some player =>
    simp only [Game.playerCloseChannel, found]
    exact sound.shrink (Chat.removeUserFromChannel_shrinks game.chat player channelId)

end Leaving

/-! ## The commands -/

section Commands

variable {game : Game}

lemma Sound.playerCreatePrivateChannel (sound : Sound game) (playerId : Nat) :
  Sound (game.playerCreatePrivateChannel playerId).1 := by
  cases found : game.getPlayerByID playerId with
  | none =>
    simp only [Game.playerCreatePrivateChannel, found]
    exact sound
  | some player =>
    have online := find?_of_getPlayerByID found
    have sameId := sound.ids playerId player online
    have made := sound.createChannel player channelPrivate
    simp only [Game.playerCreatePrivateChannel, found]
    cases created : (game.chat.createChannel player channelPrivate).2 with
    | none => exact made
    | some ref =>
      have mayUse := mayUse_createChannel created
      cases there : (game.chat.createChannel player channelPrivate).1.deref ref with
      | none =>
        simp only [there, bind_none]
        exact made
      | some channel =>
        cases added : channel.addUser player with
        | none =>
          simp only [there, bind_some, added]
          exact made
        | some joined =>
          simp only [there, bind_some, added]
          refine made.join ?_ mayUse there added
          rw [sameId]
          exact online

lemma Sound.playerOpenChannel
  (sound : Sound game) (admitted : Admitted game (.openChannel playerId channelId)) :
  Sound (game.playerOpenChannel playerId channelId).1 := by
  cases found : game.getPlayerByID playerId with
  | none =>
    simp only [Game.playerOpenChannel, found]
    exact sound
  | some player =>
    have online := find?_of_getPlayerByID found
    have sameId := sound.ids playerId player online
    simp only [Game.playerOpenChannel, found]
    cases got : game.chat.getChannel player channelId with
    | none =>
      simp only [Chat.addUserToChannel, got, bind_eq_bind, bind_none]
      exact sound
    | some ref =>
      cases there : game.chat.deref ref with
      | none =>
        simp only [Chat.addUserToChannel, got, there, bind_eq_bind, bind_some, bind_none]
        exact sound
      | some channel =>
        cases added : channel.addUser player with
        | none =>
          simp only [Chat.addUserToChannel, got, there, added, bind_eq_bind, bind_some, bind_none]
          exact sound
        | some joined =>
          simp only [Chat.addUserToChannel, got, there, added, bind_eq_bind, bind_some]
          refine sound.join ?_ (admitted player ref found got) there added
          rw [sameId]
          exact online

lemma find?_of_getPrivateChannel (found : chat.getPrivateChannel player = some (key, channel)) :
  chat.privateChannels.find? key = some channel ∧ channel.owner = player.guid := by
  have member := mem_of_find?_eq_some found
  have owner := List.find?_some found
  exact ⟨(OrderedMap.mem_entries_iff _ _ _).mp member, of_decide_eq_true owner⟩

/-- A private channel may be replaced by one with the same number and owner whose users all remain invited. -/
lemma Sound.replacePrivate (sound : Sound game) {left : PrivateChatChannel}
    (found : game.chat.privateChannels.find? key = some channel) (sameId : left.id = channel.id)
    (sameOwner : left.owner = channel.owner)
    (users :
      ∀ id player, left.users.contains id = true →
        game.players.find? id = some player →
          channel.isInvited player = true → left.isInvited player = true)
    (fewer : ∀ id, left.users.contains id = true → channel.users.contains id = true) :
    Sound
      { game with
        chat :=
          { game.chat with
            privateChannels :=
              game.chat.privateChannels.insert key left } } := by
  constructor
  · exact sound.ids
  · intro ref other there
    cases ref with
    | priv channelId =>
      simp only [Chat.deref, OrderedMap.find?_insert] at there
      split_ifs at there with same
      · cases there
        subst same
        have before : game.chat.deref (.priv channelId) = some channel.toChatChannel := by
          simp [Chat.deref, found]
        rw [sameId]
        exact sound.numbers _ _ before
      · exact sound.numbers (.priv channelId) other there
    | guild guildId => exact sound.numbers (.guild guildId) other there
    | normal channelId => exact sound.numbers (.normal channelId) other there
    | dummyPrivate => exact sound.numbers .dummyPrivate other there
  · rintro ref id ⟨other, there, contained⟩
    cases ref with
    | priv channelId =>
      simp only [Chat.deref, OrderedMap.find?_insert] at there
      split_ifs at there with same
      · cases there
        subst same
        have before : game.chat.UserOf (.priv channelId) id :=
          ⟨channel.toChatChannel, by simp [Chat.deref, found], fewer id contained⟩
        rcases sound.users _ id before with ⟨player, online, listed, listedThere, invited⟩
        have sameChannel : listed = channel := some.inj (listedThere.symm.trans found)
        refine ⟨player, online, left, OrderedMap.find?_insert_self _ _ _, ?_⟩
        exact users id player contained online (sameChannel ▸ invited)
      · rcases sound.users (.priv channelId) id ⟨other, there, contained⟩
          with ⟨player, online, listed, listedThere, invited⟩
        exact ⟨player, online, listed,
          (OrderedMap.find?_insert_ne _ _ same).trans listedThere, invited⟩
    | guild guildId =>
      exact sound.users (.guild guildId) id ⟨other, there, contained⟩
    | normal channelId =>
      exact sound.users (.normal channelId) id ⟨other, there, contained⟩
    | dummyPrivate =>
      exact sound.users .dummyPrivate id ⟨other, there, contained⟩
  · have origin :
        ∀ number other,
          (game.chat.privateChannels.insert key left).find? number =
              some other →
            ∃ before,
              game.chat.privateChannels.find? number = some before ∧
                other.owner = before.owner := by
      intro number other there
      simp only [OrderedMap.find?_insert] at there
      split_ifs at there with same
      · cases there
        exact ⟨channel, same ▸ found, sameOwner⟩
      · exact ⟨other, there, rfl⟩
    intro first second firstChannel secondChannel firstThere secondThere equal
    rcases origin first firstChannel firstThere with ⟨firstOrigin, firstFound, firstOwner⟩
    rcases origin second secondChannel secondThere with ⟨secondOrigin, secondFound, secondOwner⟩
    apply sound.owners first second firstOrigin secondOrigin firstFound secondFound
    rw [← firstOwner, ← secondOwner]
    exact equal

lemma addInvited_spec {joined : PrivateChatChannel} {invited : Player}
  (added : channel.addInvited invited = some joined) :
  joined.toChatChannel = channel.toChatChannel ∧
    joined.owner = channel.owner ∧
      ∀ other, channel.isInvited other = true → joined.isInvited other = true := by
  simp only [PrivateChatChannel.addInvited] at added
  split_ifs at added
  cases added
  refine ⟨rfl, rfl, ?_⟩
  intro other there
  simp only [PrivateChatChannel.isInvited] at there ⊢
  split_ifs at there ⊢ with owner
  · rfl
  · exact (OrderedMap.contains_insert _ _ _ _).mpr (Or.inr there)

lemma invitePlayer_spec (channel : PrivateChatChannel) (player invited : Player) :
  (channel.invitePlayer player invited).1.toChatChannel =
      channel.toChatChannel ∧
    (channel.invitePlayer player invited).1.owner = channel.owner ∧
      ∀ other, channel.isInvited other = true →
        (channel.invitePlayer player invited).1.isInvited other = true := by
  simp only [PrivateChatChannel.invitePlayer]
  split
  · exact ⟨rfl, rfl, fun _ there => there⟩
  · cases added : channel.addInvited invited with
    | none => exact ⟨rfl, rfl, fun _ there => there⟩
    | some joined => exact addInvited_spec added

lemma Sound.playerChannelInvite (sound : Sound game) (playerId : Nat) (name : String) :
  Sound (game.playerChannelInvite playerId name).1 := by
  cases found : game.getPlayerByID playerId with
  | none =>
    simp only [Game.playerChannelInvite, found]
    exact sound
  | some player =>
    cases owned : game.chat.getPrivateChannel player with
    | none =>
      simp only [Game.playerChannelInvite, found, owned]
      exact sound
    | some entry =>
      rcases entry with ⟨key, channel⟩
      cases named : game.getPlayerByName name with
      | none =>
        simp only [Game.playerChannelInvite, found, owned, named]
        exact sound
      | some invited =>
        rcases invitePlayer_spec channel player invited with ⟨sameChannel, sameOwner, grows⟩
        simp only [Game.playerChannelInvite, found, owned, named]
        apply sound.replacePrivate (find?_of_getPrivateChannel owned).1 _ sameOwner
        · exact fun _ other _ _ there => grows other there
        · exact fun _ user => sameChannel ▸ user
        · rw [sameChannel]

/-- `excludePlayer` takes an invited player off the invitations and the users. -/
lemma excludePlayer_spec (channel : PrivateChatChannel) (player excluded : Player) :
  (channel.excludePlayer player excluded).1.id = channel.id ∧
    (channel.excludePlayer player excluded).1.owner = channel.owner ∧
      (∀ id,
        (channel.excludePlayer player excluded).1.users.contains id =
            true →
          channel.users.contains id = true) ∧
        ((∀ other, channel.isInvited other = true →
            (channel.excludePlayer player excluded).1.isInvited other = true) ∨
          (∀ other, channel.isInvited other = true →
            other.guid = channel.owner ∨ other.guid ≠ excluded.guid →
              (channel.excludePlayer player excluded).1.isInvited other = true) ∧
            ∀ id,
              (channel.excludePlayer player excluded).1.users.contains id =
                  true →
                id ≠ excluded.id) := by
  simp only [PrivateChatChannel.excludePlayer, PrivateChatChannel.removeInvited]
  split_ifs with self listed
  · exact ⟨rfl, rfl, fun _ user => user, Or.inl fun _ there => there⟩
  · have effect := channel.toChatChannel.removeUser_getD excluded
    refine ⟨effect.1, rfl, fun id user => ((effect.2 id).mp user).2,
      Or.inr ⟨?_, fun id user => ((effect.2 id).mp user).1⟩⟩
    intro other there kept
    simp only [PrivateChatChannel.isInvited] at there ⊢
    split_ifs at there ⊢ with owner
    · rfl
    · apply (OrderedMap.contains_erase _ _ _).mpr
      rcases kept with isOwner | ne
      · exact (owner isOwner).elim
      · exact ⟨ne, there⟩
  · exact ⟨rfl, rfl, fun _ user => user, Or.inl fun _ there => there⟩

variable (sound : Sound game)
include sound

lemma Sound.playerChannelExclude
  {name : String} (admitted : Admitted game (.exclude playerId name)) :
  Sound (game.playerChannelExclude playerId name).1 := by
  cases found : game.getPlayerByID playerId with
  | none =>
    simp only [Game.playerChannelExclude, found]
    exact sound
  | some player =>
    cases owned : game.chat.getPrivateChannel player with
    | none =>
      simp only [Game.playerChannelExclude, found, owned]
      exact sound
    | some entry =>
      rcases entry with ⟨key, channel⟩
      cases named : game.getPlayerByName name with
      | none =>
        simp only [Game.playerChannelExclude, found, owned, named]
        exact sound
      | some excluded =>
        rcases excludePlayer_spec channel player excluded with ⟨sameId, sameOwner, fewer, invited⟩
        simp only [Game.playerChannelExclude, found, owned, named]
        apply sound.replacePrivate (find?_of_getPrivateChannel owned).1 sameId sameOwner _ fewer
        intro id other user online there
        rcases invited with kept | ⟨kept, gone⟩
        · exact kept other there
        · apply kept other there
          by_cases same : other.guid = excluded.guid
          · rcases admitted player key channel excluded id other found
              owned named (fewer id user) online same with
              owner | isExcluded
            · exact Or.inl owner
            · exact (gone id user isExcluded).elim
          · exact Or.inr same

lemma Sound.playerTalkToChannel (playerId : Nat) (type : SpeakClass) (text : String)
  (channelId : Nat) : Sound (game.playerTalkToChannel playerId type text channelId).1 := by
  cases found : game.getPlayerByID playerId with
  | none =>
    simp only [Game.playerTalkToChannel, found]
    exact sound
  | some player =>
    have online := find?_of_getPlayerByID found
    have either :
        ∀ muted : Bool,
          Sound
            (if muted then
              { game with
                players := game.players.insert playerId { player with tradeMuted := true } }
            else
              game) := by
      intro muted
      cases muted with
      | true => exact sound.setTradeMuted online true
      | false => exact sound
    simp only [Game.playerTalkToChannel, found]
    apply either

lemma Sound.tradeMuteEnds (playerId : Nat) : Sound (game.tradeMuteEnds playerId) := by
  cases found : game.getPlayerByID playerId with
  | none =>
    simp only [Game.tradeMuteEnds, found]
    exact sound
  | some player =>
    simp only [Game.tradeMuteEnds, found]
    exact sound.setTradeMuted (find?_of_getPlayerByID found) false

lemma Sound.playerRequestChannels
  (playerId : Nat) : Sound (game.playerRequestChannels playerId).1 := by
  cases found : game.getPlayerByID playerId with
  | none =>
    simp only [Game.playerRequestChannels, found]
    exact sound
  | some player =>
    simp only [Game.playerRequestChannels, found]
    exact sound.getChannelList player

lemma Sound.perform {event : Event} (admitted : Admitted game event) :
  Sound (game.perform event).1 := by
  cases event with
  | login player => exact sound.login player
  | logout playerId => exact sound.logout playerId
  | reconnect playerId => exact sound.reconnect playerId
  | createPrivateChannel playerId =>
    exact sound.playerCreatePrivateChannel playerId
  | invite playerId name => exact sound.playerChannelInvite playerId name
  | exclude playerId name => exact sound.playerChannelExclude admitted
  | requestChannels playerId => exact sound.playerRequestChannels playerId
  | openChannel playerId channelId => exact sound.playerOpenChannel admitted
  | closeChannel playerId channelId =>
    exact sound.playerCloseChannel playerId channelId
  | talk playerId type text channelId =>
    exact sound.playerTalkToChannel playerId type text channelId
  | tradeMuteEnds playerId => exact sound.tradeMuteEnds playerId

end Commands

section Talking

variable {game : Game}

lemma talk_receiver {channel : ChatChannel} {deliveries : List Delivery}
  (talked : channel.talk player type text = some deliveries)
  (heard : .toChannel receiver speaker spoken words heardIn ∈ deliveries) :
  heardIn = channel.id ∧ channel.users.contains receiver = true := by
  simp only [ChatChannel.talk] at talked
  split_ifs at talked
  cases talked
  rcases mem_map.mp heard with ⟨user, mem, equal⟩
  cases equal
  refine ⟨rfl, ?_⟩
  rw [OrderedMap.contains_iff]
  exact ⟨user.2, (OrderedMap.mem_entries_iff _ _ _).mp mem⟩

lemma talkToChannel_receiver
  (heard :
    .toChannel receiver speaker spoken words heardIn ∈
      (chat.talkToChannel player type text channelId).1) :
  ∃ ref channel, chat.deref ref = some channel ∧
    heardIn = channel.id ∧ channel.users.contains receiver = true := by
  cases got : chat.getChannel player channelId with
  | none => simp [Chat.talkToChannel, got] at heard
  | some ref =>
    cases found : chat.deref ref with
    | none => simp [Chat.talkToChannel, got, found] at heard
    | some channel =>
      refine ⟨ref, channel, found, ?_⟩
      simp only [Chat.talkToChannel, got, found, bind_some] at heard
      split at heard
      · simp at heard
      · split at heard
        · simp at heard
        · next talked => exact talk_receiver talked heard

lemma Sound.heard (sound : Sound game)
  (heard :
    .toChannel receiver speaker spoken words heardIn ∈
      (game.playerTalkToChannel playerId type text channelId).2)
  (stored : game.chat.privateChannels.find? heardIn = some channel) :
  channel.users.contains receiver = true := by
  cases found : game.getPlayerByID playerId with
  | none => simp [Game.playerTalkToChannel, found] at heard
  | some player =>
    simp only [Game.playerTalkToChannel, found] at heard
    rcases talkToChannel_receiver heard with ⟨ref, spokenIn, there, rfl, user⟩
    have before : game.chat.deref (.priv spokenIn.id) = some channel.toChatChannel := by
      simp [Chat.deref, stored]
    have large := (sound.numbers _ _ before).2
    have number := sound.numbers ref spokenIn there
    -- only a private channel carries a number from 100 on
    cases ref with
    | guild guildId =>
      rw [show spokenIn.id = channelGuild from number] at large
      exact absurd large (by decide)
    | normal otherId =>
      rcases number with ⟨same, small⟩
      rw [same] at large
      exact absurd large (Nat.not_le.mpr small)
    | priv otherId =>
      rcases number with ⟨same, -⟩
      rw [← same] at there
      rw [before] at there
      cases there
      exact user
    | dummyPrivate =>
      rcases sound.users .dummyPrivate receiver ⟨spokenIn, there, user⟩ with ⟨_, _, never⟩
      exact never.elim

end Talking

/-! ## Whole runs -/

lemma Sound.membersOnly (sound : Sound game) : MembersOnly game := by
  have privateUsers :
      ∀ channelId channel id,
        game.chat.privateChannels.find? channelId = some channel →
          channel.users.contains id = true →
            ∃ player, game.players.find? id = some player ∧ channel.isInvited player = true := by
    intro channelId channel id found user
    have userOf : game.chat.UserOf (.priv channelId) id :=
      ⟨channel.toChatChannel, by simp [Chat.deref, found], user⟩
    rcases sound.users _ id userOf with ⟨player, online, listed, there, invited⟩
    have same : listed = channel := some.inj (there.symm.trans found)
    exact ⟨player, online, same ▸ invited⟩
  constructor
  · exact privateUsers
  · intro ref id user
    rcases sound.users ref id user with ⟨player, online, -⟩
    exact (OrderedMap.contains_iff _ _).mpr ⟨player, online⟩
  · exact sound.owners
  · intro playerId type text channelId receiver speaker spoken words heardIn channel heard found
    exact privateUsers heardIn channel receiver found (sound.heard heard found)

lemma initial_normalChannels :
  Chat.initial.normalChannels.entries =
    [(channelRuleRep, .new channelRuleRep "Rule Violations"),
      (channelGameChat, .new channelGameChat "Game-Chat"),
      (channelTrade, .new channelTrade "Trade"),
      (channelRlChat, .new channelRlChat "RL-Chat"),
      (channelHelp, .new channelHelp "Help")] :=
  rfl

lemma initial_deref {channel : ChatChannel} (found : Chat.initial.deref ref = some channel) :
  ref.Numbers channel.id ∧ channel.users = .empty := by
  cases ref with
  | guild guildId => cases found
  | priv channelId => cases found
  | dummyPrivate =>
    cases found
    exact ⟨rfl, rfl⟩
  | normal channelId =>
    have member :=
      (OrderedMap.mem_entries_iff Chat.initial.normalChannels channelId channel).mpr found
    rw [initial_normalChannels] at member
    simp only [mem_cons, not_mem_nil, or_false, Prod.mk.injEq] at member
    rcases member with ⟨rfl, rfl⟩ | ⟨rfl, rfl⟩ | ⟨rfl, rfl⟩ | ⟨rfl, rfl⟩ | ⟨rfl, rfl⟩
    all_goals exact ⟨⟨rfl, by decide⟩, rfl⟩

lemma sound_initial : Sound Game.initial where
  ids := by
    intro id player found
    cases found
  numbers := fun _ _ found => (initial_deref found).1
  users := by
    rintro ref id ⟨channel, found, user⟩
    rw [(initial_deref found).2] at user
    cases user
  owners := by
    intro left right leftChannel rightChannel found
    cases found

/-- A player whose character has the same number as the creature. -/
def namedPlayer (id : Nat) (name : String) : Player where
  id := id
  guid := id
  name := name
  isFemale := false
  guildId := 0
  guildName := ""
  isPremium := true
  canAnswerRuleViolations := false
  cannotBeMuted := false
  talkOrangeHelpChannel := false
  canTalkRedChannel := false
  canTalkRedChannelAnonymous := false
  tradeMuted := false

/-- The first player makes a private channel, which the second opens without being invited. -/
def uninvitedOpening : List Event :=
  [.login (namedPlayer 1 "Owner"), .login (namedPlayer 2 "Guest"),
    .createPrivateChannel 1, .openChannel 2 100]

def performAll (game : Game) (events : List Event) : Game :=
  events.foldl (fun state event => (state.perform event).1) game

lemma reaches_performAll {start : Game} (run : Reaches Game.Step Always start game)
  (events : List Event) : Reaches Game.Step Always start (performAll game events) := by
  induction events generalizing game with
  | nil => exact run
  | cons event rest ih => exact ih (run.tail trivial rfl)

end OTServ.Talk.Membership
