import OTServ.Network.Connection

/-!
# Players and the protocols they play through

A protocol of the game logs a character in.  When no player of that name is online it
makes one, which has the protocol as its `client`; otherwise it takes over the player,
after a second when that has a client still, whose connection is closed first.  A
connection that closes takes itself away from its protocol and adds a task for
`releaseProtocol`, which makes the player forget the protocol and deletes the protocol
when nothing refers to it.

Connections and their protocols have the same numbers.  The tasks of the dispatcher are
run in their order, the events of the scheduler at any time.  The answers of checks,
scripts and the map are given.
-/

namespace OTServ.Login.Pairing

open Network
open Function

/-! ## The state -/

/-- A connection, and the `ProtocolGame` that it gets with its first packet. -/
structure ProtocolGame where
  m_closeState : CloseState
  /-- the first packet has come -/
  created : Bool
  /-- the protocol has its connection, and not a null pointer -/
  m_connection : Bool
  player : Option Nat
  eventConnect : Bool
  m_acceptPackets : Bool
  m_refCount : Nat
  /-- the value which the constructor left in `m_refCount` -/
  leftover : Nat
  /-- the output messages that refer to it -/
  messages : Nat
  /-- the calls of `addRef` without one of `unRef` -/
  references : Nat
  deleted : Bool
  /-- how often it has taken and given up a reference to a player -/
  uses : Nat
  frees : Nat
deriving DecidableEq

/-- A connection that has been accepted, which all later ones are beforehand. -/
def ProtocolGame.accepted : ProtocolGame where
  m_closeState := .CLOSE_STATE_NONE
  created := false
  m_connection := false
  player := none
  eventConnect := false
  m_acceptPackets := false
  m_refCount := 0
  leftover := 0
  messages := 0
  references := 0
  deleted := false
  uses := 0
  frees := 0

structure Player where
  name : List Char
  client : Option Nat
  isConnecting : Bool
  placed : Bool
  isInternalRemoved : Bool
  useCount : Int
  /-- the references of others than protocols and the game -/
  holds : Nat
  destroyed : Bool
deriving DecidableEq

/-- `Player::Player` -/
def Player.new (name : List Char) (client : Option Nat) : Player where
  name := name
  client := client
  isConnecting := false
  placed := false
  isInternalRemoved := false
  useCount := 0
  holds := 0
  destroyed := false

def Player.online (player : Player) : Bool :=
  player.placed && !player.isInternalRemoved

inductive Task where
  | login (q : Nat) (name : List Char)
  | connect (q playerId : Nat)
  | logout (q : Nat)
  | closeConnectionTask (q : Nat)
  | releaseProtocol (q : Nat)
deriving DecidableEq

structure Game where
  protocols : Nat → ProtocolGame
  nextProtocol : Nat
  players : Nat → Player
  nextPlayer : Nat
  listPlayer : List Nat
  ToReleaseThings : List Nat
  /-- the tasks of the dispatcher -/
  tasks : List Task
  /-- the events of the scheduler -/
  events : List Task
  KICK_ON_LOGIN : Bool

namespace Game

def initial (KICK_ON_LOGIN : Bool) : Game where
  protocols _ := .accepted
  nextProtocol := 0
  players _ := .new [] none
  nextPlayer := 0
  listPlayer := []
  ToReleaseThings := []
  tasks := []
  events := []
  KICK_ON_LOGIN := KICK_ON_LOGIN

def setProtocol (game : Game) (q : Nat) (change : ProtocolGame → ProtocolGame) : Game :=
  { game with protocols := update game.protocols q (change (game.protocols q)) }

def setPlayer (game : Game) (p : Nat) (change : Player → Player) : Game :=
  { game with players := update game.players p (change (game.players p)) }

structure Scene where
  /-- both loads and all checks of `login` are passed -/
  accepted : Bool
  placedAtLogin : Bool
  placedAtTemple : Bool
  /-- the script of `onLogIn` agrees -/
  loggedIn : Bool
  /-- the tile, the conditions and the script of `onLogOut` agree -/
  mayLogout : Bool
deriving DecidableEq

/-- `Connection::closeConnection` -/
def closeConnection (game : Game) (q : Nat) : Game :=
  if (game.protocols q).m_closeState ≠ .CLOSE_STATE_NONE then game
  else
    { game.setProtocol q fun protocol =>
        { protocol with m_closeState := .CLOSE_STATE_REQUESTED } with
      tasks := game.tasks ++ [.closeConnectionTask q] }

/-- `Connection::closeConnectionTask`, as far as the protocol goes. -/
def closeConnectionTask (game : Game) (q : Nat) : Game :=
  if (game.protocols q).m_closeState ≠ .CLOSE_STATE_REQUESTED then game
  else
    { game.setProtocol q fun protocol =>
        { protocol with m_closeState := .CLOSE_STATE_CLOSING, m_connection := false } with
      tasks :=
        if (game.protocols q).created then game.tasks ++ [.releaseProtocol q]
        else game.tasks }

/-- `ProtocolGame::disconnect`, which `disconnectClient` calls. -/
def disconnect (game : Game) (q : Nat) : Game :=
  if (game.protocols q).m_connection then game.closeConnection q else game

/-- `addRef` and `unRef` of a protocol. -/
def addRefTo (game : Game) (q : Nat) : Game :=
  game.setProtocol q fun protocol =>
    { protocol with
      m_refCount := addRef protocol.m_refCount
      references := protocol.references + 1 }

def unRefFrom (game : Game) (q : Nat) : Game :=
  game.setProtocol q fun protocol =>
    { protocol with
      m_refCount := unRef protocol.m_refCount
      references := protocol.references - 1 }

def asUpperCaseString (source : List Char) : List Char :=
  source.map Char.toUpper

def getPlayerByName (game : Game) (name : List Char) : Option Nat :=
  game.listPlayer.find? fun p =>
    !(game.players p).isInternalRemoved &&
      asUpperCaseString (game.players p).name == asUpperCaseString name

def getPlayerByID (game : Game) (playerId : Nat) : Option Nat :=
  game.listPlayer.find? fun p => p == playerId && !(game.players p).isInternalRemoved

/-- `Game::removeCreature`; a player that was never placed has no tile. -/
def removeCreature (game : Game) (p : Nat) : Game :=
  if (game.players p).isInternalRemoved || !(game.players p).placed then game
  else
    { game.setPlayer p fun player => { player with isInternalRemoved := true } with
      listPlayer := game.listPlayer.erase p
      ToReleaseThings := game.ToReleaseThings ++ [p] }

/-- `releaseThing2` -/
def releaseThing2 (game : Game) (p : Nat) : Game :=
  game.setPlayer p fun player =>
    { player with
      useCount := player.useCount - 1
      destroyed := player.destroyed || player.useCount - 1 ≤ 0 }

def cleanup (game : Game) : Game :=
  { game.ToReleaseThings.foldl releaseThing2 game with ToReleaseThings := [] }

def logout (game : Game) (q : Nat) (forced : Bool) (scene : Scene) : Game :=
  match (game.protocols q).player with
  | none => game
  | some p =>
    if !(game.players p).isInternalRemoved && !forced && !scene.mayLogout then game
    else (game.disconnect q).removeCreature p

/-- `Player::kickPlayer` -/
def kickPlayer (game : Game) (p : Nat) (scene : Scene) : Game :=
  match (game.players p).client with
  | some q => game.logout q true scene
  | none => game.removeCreature p

/-- The player of `login`, with its protocol as the client, and `useThing2`. -/
def newPlayer (game : Game) (q : Nat) (name : List Char) : Game :=
  { game.setProtocol q fun protocol =>
      { protocol with
        player := some game.nextPlayer
        uses := protocol.uses + 1 } with
    players := update game.players game.nextPlayer { Player.new name (some q) with useCount := 1 }
    nextPlayer := game.nextPlayer + 1 }

/-- `placeCreature` of a player that has not been placed, and `onPlacedCreature`. -/
def placeCreature (game : Game) (p : Nat) (scene : Scene) : Game :=
  let game :=
    { game.setPlayer p fun player =>
        { player with placed := true, useCount := player.useCount + 1 } with
      listPlayer := game.listPlayer ++ [p] }
  if scene.loggedIn then game else game.kickPlayer p scene

def acceptPackets (game : Game) (q : Nat) : Game :=
  game.setProtocol q fun protocol => { protocol with m_acceptPackets := true }

def takePlayer (game : Game) (q p : Nat) : Game :=
  (game.setProtocol q fun protocol =>
    { protocol with
      player := some p
      uses := protocol.uses + 1 }).setPlayer p fun player =>
    { player with
      useCount := player.useCount + 1
      isConnecting := false
      client := some q }

def connect (game : Game) (q playerId : Nat) : Game :=
  let game :=
    (game.unRefFrom q).setProtocol q fun protocol => { protocol with eventConnect := false }
  match game.getPlayerByID playerId with
  | none => game.disconnect q
  | some p =>
    if (game.players p).client ≠ none then game.disconnect q
    else (game.takePlayer q p).acceptPackets q

def login (game : Game) (q : Nat) (name : List Char) (scene : Scene) : Game :=
  match game.getPlayerByName name with
  | none =>
    let p := game.nextPlayer
    let game := game.newPlayer q name
    if !scene.accepted then
      game.disconnect q
    else if !(scene.placedAtLogin || scene.placedAtTemple) then
      game.disconnect q
    else
      (game.placeCreature p scene).acceptPackets q
  | some p =>
    if (game.protocols q).eventConnect || game.KICK_ON_LOGIN then
      game.disconnect q
    else
      match (game.players p).client with
      | some client =>
        let game :=
          ((game.disconnect client).setPlayer p fun player =>
            { player with isConnecting := true }).addRefTo q
        { game.setProtocol q fun protocol => { protocol with eventConnect := true } with
          events := game.events ++ [.connect q p] }
      | none => (game.addRefTo q).connect q p

/-- `Protocol::deleteProtocolTask` behind that of `ProtocolGame`. -/
def deleteProtocolTask (game : Game) (q : Nat) : Game :=
  let game :=
    match (game.protocols q).player with
    | some p =>
      { game.setProtocol q fun protocol =>
          { protocol with player := none, frees := protocol.frees + 1 } with
        ToReleaseThings := game.ToReleaseThings ++ [p] }
    | none => game
  game.setProtocol q fun protocol => { protocol with m_connection := false, deleted := true }

/-- The first part of `ProtocolGame::releaseProtocol`. -/
def forgetClient (game : Game) (q : Nat) : Game :=
  match (game.protocols q).player with
  | some p =>
    if (game.players p).client = some q then
      game.setPlayer p fun player => { player with client := none }
    else
      game
  | none => game

def releaseProtocol (game : Game) (q : Nat) : Game :=
  let game := game.forgetClient q
  if 0 < (game.protocols q).m_refCount then
    { game with events := game.events ++ [.releaseProtocol q] }
  else
    game.deleteProtocolTask q

def runTask (game : Game) (scene : Scene) : Task → Game
  | .login q name => game.login q name scene
  | .connect q playerId => game.connect q playerId
  | .logout q => game.logout q false scene
  | .closeConnectionTask q => game.closeConnectionTask q
  | .releaseProtocol q => game.releaseProtocol q

inductive Operation where
  | acceptConnection
  /-- the first packet, with a name when its login is to be tried -/
  | parseFirstPacket (q leftover : Nat) (name : Option (List Char))
  | parseLogout (q : Nat)
  | closeConnection (q : Nat)
  | getOutputMessage (q : Nat)
  | internalReleaseMessage (q : Nat)
  /-- the dispatcher runs its first task -/
  | dispatch (scene : Scene)
  /-- an event of the scheduler is run -/
  | executeEvent (index : Nat) (scene : Scene)
  | kickPlayer (p : Nat) (scene : Scene)
  | removeCreature (p : Nat)
  | useThing2 (p : Nat)
  | releaseThing2 (p : Nat)
  | cleanup
deriving DecidableEq

def reads (game : Game) (q : Nat) : Prop :=
  q < game.nextProtocol ∧ (game.protocols q).m_closeState ≠ .CLOSE_STATE_CLOSING

instance (game : Game) (q : Nat) : Decidable (game.reads q) :=
  inferInstanceAs (Decidable (_ ∧ _))

def step (game : Game) : Operation → Game
  | .acceptConnection => { game with nextProtocol := game.nextProtocol + 1 }
  | .parseFirstPacket q leftover name =>
    if game.reads q ∧ (game.protocols q).created = false then
      let created :=
        game.setProtocol q fun protocol =>
          { protocol with
            created := true
            m_connection := true
            m_refCount := leftover % 2 ^ 32
            leftover := leftover }
      match name with
      | some name => { created with tasks := created.tasks ++ [.login q name] }
      | none => created.disconnect q
    else
      game
  | .parseLogout q =>
    if game.reads q ∧ (game.protocols q).created ∧ (game.protocols q).player ≠ none ∧
        (game.protocols q).m_acceptPackets then
      { game with tasks := game.tasks ++ [.logout q] }
    else
      game
  | .closeConnection q => if q < game.nextProtocol then game.closeConnection q else game
  | .getOutputMessage q =>
    if (game.protocols q).m_connection then
      (game.addRefTo q).setProtocol q fun protocol =>
        { protocol with messages := protocol.messages + 1 }
    else
      game
  | .internalReleaseMessage q =>
    if 0 < (game.protocols q).messages then
      (game.unRefFrom q).setProtocol q fun protocol =>
        { protocol with messages := protocol.messages - 1 }
    else
      game
  | .dispatch scene =>
    match game.tasks with
    | task :: rest => { game with tasks := rest }.runTask scene task
    | [] => game
  | .executeEvent index scene =>
    match game.events[index]? with
    | some event => { game with events := game.events.eraseIdx index }.runTask scene event
    | none => game
  | .kickPlayer p scene => if (game.players p).online then game.kickPlayer p scene else game
  | .removeCreature p => game.removeCreature p
  | .useThing2 p =>
    if p < game.nextPlayer ∧ (game.players p).destroyed = false then
      game.setPlayer p fun player =>
        { player with useCount := player.useCount + 1, holds := player.holds + 1 }
    else
      game
  | .releaseThing2 p =>
    if 0 < (game.players p).holds then
      (game.setPlayer p fun player => { player with holds := player.holds - 1 }).releaseThing2 p
    else
      game
  | .cleanup => game.cleanup

end Game

end OTServ.Login.Pairing
