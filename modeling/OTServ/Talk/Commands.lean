import OTServ.Talk.Channels

/-!
# The chat commands of a player

The entry points of `game.cpp` through which the clients reach the chat, with
the players who are in the game.  Each takes the creature id of the player and
does nothing for an id which is not in the game.
-/

namespace OTServ.Talk.Commands

open Library
open Talk.Channels

structure Game where
  players : PlayerTable
  chat : Chat

def Game.initial : Game :=
  ⟨.empty, Chat.initial⟩

/-- `upchar`, on the codes of a one-byte character set. -/
def upchar (letter : Char) : Char :=
  if (97 ≤ letter.toNat ∧ letter.toNat ≤ 122) ∨
      (224 ≤ letter.toNat ∧ letter.toNat ≤ 255) then
    Char.ofNat (letter.toNat - 32)
  else
    letter

/-- `asUpperCaseString`. -/
def asUpperCaseString (source : String) : String :=
  source.map upchar

/-- `Game::getPlayerByID`; the id 0 is never in use. -/
def Game.getPlayerByID (game : Game) (id : Nat) : Option Player :=
  if id = 0 then none else game.players.find? id

/-- `Game::getPlayerByName`. -/
def Game.getPlayerByName (game : Game) (name : String) : Option Player :=
  (game.players.entries.find? fun entry =>
    asUpperCaseString name = asUpperCaseString entry.2.name).map (·.2)

/-- `Game::playerCreatePrivateChannel`. -/
def Game.playerCreatePrivateChannel (game : Game) (playerId : Nat) : Game × List Delivery :=
  match game.getPlayerByID playerId with
  | none => (game, [])
  | some player =>
    let created := game.chat.createChannel player channelPrivate
    match created.2 with
    | none => ({ game with chat := created.1 }, [])
    | some ref =>
      match (created.1.deref ref).bind (·.addUser player) with
      | none => ({ game with chat := created.1 }, [])
      | some channel =>
        ({ game with chat := created.1.store ref channel },
          [.createPrivateChannel player.id channel.id channel.name])

/-- `Game::playerChannelInvite`. -/
def Game.playerChannelInvite
  (game : Game) (playerId : Nat) (name : String) : Game × List Delivery :=
  match game.getPlayerByID playerId with
  | none => (game, [])
  | some player =>
    match game.chat.getPrivateChannel player with
    | none => (game, [])
    | some (key, channel) =>
      match game.getPlayerByName name with
      | none => (game, [])
      | some invited =>
        let left := channel.invitePlayer player invited
        ({ game with
            chat :=
              { game.chat with
                privateChannels :=
                  game.chat.privateChannels.insert key left.1 } },
          left.2)

/-- `Game::playerChannelExclude`. -/
def Game.playerChannelExclude
  (game : Game) (playerId : Nat) (name : String) : Game × List Delivery :=
  match game.getPlayerByID playerId with
  | none => (game, [])
  | some player =>
    match game.chat.getPrivateChannel player with
    | none => (game, [])
    | some (key, channel) =>
      match game.getPlayerByName name with
      | none => (game, [])
      | some excluded =>
        let left := channel.excludePlayer player excluded
        ({ game with
            chat :=
              { game.chat with
                privateChannels :=
                  game.chat.privateChannels.insert key left.1 } },
          left.2)

/-- `Game::playerRequestChannels`, which sends the list of `Chat::getChannelList`. -/
def Game.playerRequestChannels (game : Game) (playerId : Nat) : Game × List Delivery :=
  match game.getPlayerByID playerId with
  | none => (game, [])
  | some player =>
    let listed := game.chat.getChannelList player
    ({ game with chat := listed.1 },
      [.channelsDialog player.id
        (listed.2.filterMap fun ref =>
          (listed.1.deref ref).map fun channel => (channel.id, channel.name))])

/-- `Game::playerOpenChannel`. -/
def Game.playerOpenChannel (game : Game) (playerId channelId : Nat) : Game × List Delivery :=
  match game.getPlayerByID playerId with
  | none => (game, [])
  | some player =>
    match game.chat.addUserToChannel player channelId with
    | none => (game, [])
    | some chat =>
      ({ game with chat },
        match (chat.getChannel player channelId).bind chat.deref with
        | none => []
        | some channel =>
          if channel.id ≠ channelRuleRep then
            [.channel player.id channel.id channel.name]
          else
            [.ruleViolationsChannel player.id channel.id])

/-- `Game::playerCloseChannel`. -/
def Game.playerCloseChannel (game : Game) (playerId channelId : Nat) : Game × List Delivery :=
  match game.getPlayerByID playerId with
  | none => (game, [])
  | some player =>
    let left := game.chat.removeUserFromChannel player channelId
    ({ game with chat := left.1 }, left.2)

/-- `Game::playerTalkToChannel`, with the trade mute which `ChatChannel::talk` adds. -/
def Game.playerTalkToChannel (game : Game) (playerId : Nat) (type : SpeakClass) (text : String)
  (channelId : Nat) : Game × List Delivery :=
  match game.getPlayerByID playerId with
  | none => (game, [])
  | some player =>
    let type :=
      if type = .channelR1 ∧ ¬player.canTalkRedChannel then
        .channelY
      else if type = .channelR2 ∧ ¬player.canTalkRedChannelAnonymous then
        .channelY
      else
        type
    let spoken := game.chat.talkToChannel player type text channelId
    (if spoken.2 then
        { game with
          players := game.players.insert playerId { player with tradeMuted := true } }
      else
        game,
      spoken.1)

def Game.tradeMuteEnds (game : Game) (playerId : Nat) : Game :=
  match game.getPlayerByID playerId with
  | none => game
  | some player =>
    { game with
      players := game.players.insert playerId { player with tradeMuted := false } }

/-- A player is loaded and placed under a creature id which is not in use. -/
def Game.login (game : Game) (player : Player) : Game :=
  if player.id = 0 ∨ game.players.contains player.id then
    game
  else
    { game with players := game.players.insert player.id player }

/-- A second connection takes the player over: `ProtocolGame::login`. -/
def Game.reconnect (game : Game) (playerId : Nat) : Game × List Delivery :=
  match game.getPlayerByID playerId with
  | none => (game, [])
  | some player =>
    let left := game.chat.removeUserFromAllChannels player
    ({ game with chat := left.1 }, left.2)

/--
A player leaves the game by logout, kick or death: `Player::onCreatureDisappear`
takes the player out of the channels, then the player is removed.
-/
def Game.logout (game : Game) (playerId : Nat) : Game × List Delivery :=
  match game.getPlayerByID playerId with
  | none => (game, [])
  | some player =>
    let left := game.chat.removeUserFromAllChannels player
    (⟨game.players.erase playerId, left.1⟩, left.2)

inductive Event where
  | login (player : Player)
  | logout (playerId : Nat)
  | reconnect (playerId : Nat)
  | createPrivateChannel (playerId : Nat)
  | invite (playerId : Nat) (name : String)
  | exclude (playerId : Nat) (name : String)
  | requestChannels (playerId : Nat)
  | openChannel (playerId channelId : Nat)
  | closeChannel (playerId channelId : Nat)
  | talk (playerId : Nat) (type : SpeakClass) (text : String) (channelId : Nat)
  | tradeMuteEnds (playerId : Nat)

def Game.perform (game : Game) : Event → Game × List Delivery
  | .login player => (game.login player, [])
  | .logout playerId => game.logout playerId
  | .reconnect playerId => game.reconnect playerId
  | .createPrivateChannel playerId => game.playerCreatePrivateChannel playerId
  | .invite playerId name => game.playerChannelInvite playerId name
  | .exclude playerId name => game.playerChannelExclude playerId name
  | .requestChannels playerId => game.playerRequestChannels playerId
  | .openChannel playerId channelId =>
    game.playerOpenChannel playerId channelId
  | .closeChannel playerId channelId =>
    game.playerCloseChannel playerId channelId
  | .talk playerId type text channelId =>
    game.playerTalkToChannel playerId type text channelId
  | .tradeMuteEnds playerId => (game.tradeMuteEnds playerId, [])

def Game.Step (game : Game) (event : Event) (next : Game) : Prop :=
  next = (game.perform event).1

end OTServ.Talk.Commands
