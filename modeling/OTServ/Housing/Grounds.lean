import OTServ.Game.ReturnValue
import OTServ.Housing.Access
import OTServ.Map.Position

/-!
# Houses on the map

The tiles with their houses, the players standing on them, and the ways in
which a player gets from one tile to another: a step with the redirections by
house doors and stairs, a teleport, and the Teleport items a player comes upon.
Over these stand the operations of `house.cpp` which change who is invited.

Teleport items can lead to each other in circles, so moves take fuel and give
nothing when it runs out; the source does not return then either.
-/

namespace OTServ.Housing

open Map
open Function

/-- What `Tile::__queryAdd` and the Teleport items need of an item on a tile. -/
structure TileItem where
  blockSolid : Bool
  moveable : Bool
  uniqueId : Nat
  teleport : Option Position
deriving DecidableEq

structure Furniture where
  ground : Option TileItem
  topItems : List TileItem
  downItems : List TileItem
  floorChange : Bool
  floorChangeDown : Bool
  floorChangeNorth : Bool
  floorChangeSouth : Bool
  floorChangeEast : Bool
  floorChangeWest : Bool
  positionChange : Bool
  noLogout : Bool
  pvpZone : Bool
  noPvpZone : Bool
  protectionZone : Bool
deriving DecidableEq

/--
What stays as it is: the tiles and the houses they belong to, the players in the
game in the order of the player list, and the lookups in the database.  The
entry of each house is a tile outside it.
-/
structure Realm where
  isTile : Position → Bool
  house? : Position → Option Nat
  houseTiles : Nat → List Position
  posEntry : Nat → Position
  player : Nat → Player
  listPlayer : List Nat
  parseList : String → AccessList
  getNameByGuid : Nat → Option String
  mem_houseTiles : ∀ house position, position ∈ houseTiles house ↔ house? position = some house
  isTile_posEntry : ∀ house, isTile (posEntry house)
  posEntry_outside : ∀ house, house? (posEntry house) ≠ some house

/--
What changes: the items of the tiles, the players standing on each tile and the
number of other creatures there, the tile of each player, and the houses.
-/
structure State where
  furniture : Position → Furniture
  creatures : Position → List Nat
  others : Position → Nat
  parent : Nat → Option Position
  pzLocked : Nat → Bool
  houses : Nat → House

structure Flags where
  noLimit : Bool
  pathfinding : Bool
  ignoreBlockItem : Bool
  ignoreBlockCreature : Bool
deriving DecidableEq

def Flags.none : Flags :=
  ⟨false, false, false, false⟩

variable (realm : Realm)

/-- Whether the player may stay where it stands: outside or invited. -/
def Welcome (state : State) (player : Nat) (position : Position) : Prop :=
  ∀ house,
    realm.house? position = some house → (state.houses house).isInvited (realm.player player)

/-- The first blocking item decides whether a creature can enter. -/
def queryItems (flags : Flags) : List TileItem → ReturnValue
  | [] => .noError
  | item :: rest =>
    if item.blockSolid then
      if flags.ignoreBlockItem then
        if !item.moveable || item.uniqueId != 0 then .notPossible
        else queryItems flags rest
      else .notEnoughRoom
    else queryItems flags rest

def State.inPvpZone (state : State) (player : Nat) : Bool :=
  (state.parent player).any fun position => (state.furniture position).pvpZone

/-- `Tile::__queryAdd` for a player. -/
def tileQueryAdd (state : State) (player : Nat) (position : Position) (flags : Flags) :
  ReturnValue :=
  let tile := state.furniture position
  let locked := state.pzLocked player
  let creatures := !(state.creatures position).isEmpty || state.others position != 0
  if flags.noLimit then .noError
  else if flags.pathfinding && (tile.floorChange || tile.positionChange) then
    .notPossible
  else if tile.ground.isNone then .notPossible
  else if creatures && !flags.ignoreBlockCreature then .notEnoughRoom
  else if (state.parent player).isNone && tile.noLogout then .notPossible
  else if locked && !state.inPvpZone player && tile.pvpZone then
    .playerIsPzLockedEnterPvpZone
  else if locked && state.inPvpZone player && !tile.pvpZone then
    .playerIsPzLockedLeavePvpZone
  else if tile.noPvpZone && locked then .playerIsPzLocked
  else if tile.protectionZone && locked then .playerIsPzLocked
  else
    queryItems flags (tile.ground.toList ++ tile.topItems ++ tile.downItems)

/-- `HouseTile::__queryAdd`, or `Tile::__queryAdd` outside of houses. -/
def queryAdd (state : State) (player : Nat) (position : Position) (flags : Flags) : ReturnValue :=
  match realm.house? position with
  | some house =>
    if !(state.houses house).isInvited (realm.player player) &&
        !(realm.player player).canEditHouses then
      .playerIsNotInvited
    else tileQueryAdd state player position flags
  | none => tileQueryAdd state player position flags

def getTile (position : Position) : Option Position :=
  if realm.isTile position then some position else none

/-- The tile below a hole, a step away from the stairs that stand there. -/
def belowHole (state : State) (position : Position) : Option Position :=
  let below : Position := { position with z := position.z + 1 }
  (getTile realm below).bind fun downTile =>
    let down := state.furniture downTile
    let dy := if down.floorChangeNorth then below.y + 1 else below.y
    let dy := if down.floorChangeSouth then dy - 1 else dy
    let dx := if down.floorChangeEast then below.x - 1 else below.x
    let dx := if down.floorChangeWest then dx + 1 else dx
    getTile realm { below with x := dx, y := dy }

/-- The tile above stairs, a step away in the direction they lead. -/
def aboveStairs (state : State) (position : Position) : Option Position :=
  let tile := state.furniture position
  let dy := if tile.floorChangeNorth then position.y - 1 else position.y
  let dy := if tile.floorChangeSouth then dy + 1 else dy
  let dx := if tile.floorChangeEast then position.x + 1 else position.x
  let dx := if tile.floorChangeWest then dx - 1 else dx
  getTile realm { x := dx, y := dy, z := position.z - 1 }

/-- `Tile::__queryDestination` for a player. -/
def tileQueryDestination (state : State) (position : Position) : Position :=
  let tile := state.furniture position
  let destTile :=
    if tile.floorChangeDown then belowHole realm state position
    else if tile.floorChange then aboveStairs realm state position
    else none
  destTile.getD position

/-- `HouseTile::__queryDestination`, or `Tile::__queryDestination` outside. -/
def queryDestination (state : State) (player : Nat) (position : Position) : Position :=
  match realm.house? position with
  | some house =>
    if (state.houses house).isInvited (realm.player player) then
      tileQueryDestination realm state position
    else realm.posEntry house
  | none => tileQueryDestination realm state position

/-- `Tile::getTeleportItem` -/
def Furniture.getTeleportItem (tile : Furniture) : Option Position :=
  tile.topItems.findSome? TileItem.teleport

def teleportTile (furniture : Position → Furniture) (position : Position) : Option Position :=
  (furniture position).getTeleportItem.bind (getTile realm)

/-- Takes the player off one tile and puts it first onto another one. -/
def State.relocate (state : State) (player : Nat) (origin target : Position) : State :=
  let taken := update state.creatures origin ((state.creatures origin).erase player)
  { state with
    creatures := update taken target (player :: taken target)
    parent := update state.parent player (some target) }

/-- `Tile::moveCreature` with the Teleport items it sets off. -/
def moveCreature : Nat → State → Nat → Position → Position → Option State
  | 0, _, _, _, _ => none
  | fuel + 1, state, player, origin, target =>
    match teleportTile realm state.furniture target with
    | none => some (state.relocate player origin target)
    | some next =>
      moveCreature fuel (state.relocate player origin target) player target next

/-- The loop of `internalMoveCreature` which follows redirections. -/
def followRedirections (fuel : Nat) : Nat → State → Nat → Position → Option State
  | 0, state, _, _ => some state
  | rounds + 1, state, player, position =>
    let subCylinder := queryDestination realm state player position
    if subCylinder = position then some state
    else
      (moveCreature realm fuel state player position subCylinder).bind
        fun moved => followRedirections fuel rounds moved player subCylinder

/-- `MAP_MAX_LAYERS` -/
def mapMaxLayers : Nat := 16

/-- `Game::internalMoveCreature` for a player on the map. -/
def internalMoveCreature (fuel : Nat) (state : State) (player : Nat) (target : Position)
  (flags : Flags) : Option (ReturnValue × State) :=
  (state.parent player).bind fun origin =>
    match queryAdd realm state player target flags with
    | .noError =>
      (moveCreature realm fuel state player origin target).bind fun moved =>
        if moved.parent player = some target then
          (followRedirections realm fuel mapMaxLayers moved player target).map
            fun finished => (.noError, finished)
        else some (.noError, moved)
    | refusal => some (refusal, state)

/-- `Game::internalTeleport` for a player on the map. -/
def internalTeleport (fuel : Nat) (state : State) (player : Nat) (newPos : Position) :
  Option (ReturnValue × State) :=
  (state.parent player).bind fun position =>
    if newPos = position then some (.noError, state)
    else if realm.isTile newPos then
      -- the house asked is the one of the tile being left
      match realm.house? position with
      | some house =>
        if (state.houses house).isInvited (realm.player player) then
          (moveCreature realm fuel state player position newPos).map fun moved => (.noError, moved)
        else some (.notPossible, state)
      | none =>
        (moveCreature realm fuel state player position newPos).map fun moved => (.noError, moved)
    else some (.notPossible, state)

/-! ## Operations of houses -/

def playersInside (state : State) (house : Nat) : List Nat :=
  (realm.houseTiles house).flatMap state.creatures

/-- `Game::getPlayerByName`: the first player of the list with the name. -/
def getPlayerByName (state : State) (name : String) : Option Nat :=
  realm.listPlayer.find? fun player =>
    (state.parent player).isSome && (realm.player player).name.toUpper == name.toUpper

def standsIn (state : State) (player : Nat) : Option Nat :=
  (state.parent player).bind realm.house?

/-- `House::kickPlayer` -/
def kickPlayer (fuel : Nat) (state : State) (house : Nat) (kicker : Option Nat) (name : String) :
  Option State :=
  match getPlayerByName realm state name with
  | none => some state
  | some kicked =>
    let level (who : Option Player) : Nat := ((state.houses house).getHouseAccessLevel who).rank
    if standsIn realm state kicked = some house ∧
        level (some (realm.player kicked)) ≤ level (kicker.map realm.player) ∧
        (realm.player kicked).canEditHouses = false then
      (internalTeleport realm fuel state kicked (realm.posEntry house)).map Prod.snd
    else some state

def State.setList (state : State) (house : Nat) (listId : ListId) (list : AccessList) : State :=
  { state with
    houses := update state.houses house ((state.houses house).setList list listId) }

/-- Teleports the players of a list to the entry of the house. -/
def kickAll (fuel : Nat) (house : Nat) : List Nat → State → Option State
  | [], state => some state
  | kicked :: rest, state =>
    (internalTeleport realm fuel state kicked (realm.posEntry house)).bind
      fun answer => kickAll fuel house rest answer.2

/-- `House::setAccessList` for the guest and the subowner list. -/
def setAccessList
  (fuel : Nat) (state : State) (house : Nat) (listId : ListId)
  (textlist : String) : Option State :=
  let edited := state.setList house listId (realm.parseList textlist)
  let kickList :=
    (playersInside realm edited house).filter fun player =>
      !(edited.houses house).isInvited (realm.player player)
  kickAll realm fuel house kickList edited

/-- Kicks the players of a list one by one, each looked up by name. -/
def kickByName (fuel : Nat) (house : Nat) : List Nat → State → Option State
  | [], state => some state
  | kicked :: rest, state =>
    (kickPlayer realm fuel state house none (realm.player kicked).name).bind
      (kickByName fuel house rest)

def State.setHouse (state : State) (house : Nat) (fields : House) : State :=
  { state with houses := update state.houses house fields }

/--
What is left on the tiles of a house after its moveable items have been sent
to the depot.
-/
def State.transferToDepot (state : State) (house : Nat) (left : Position → Furniture) : State :=
  { state with
    furniture := fun position =>
      if position ∈ realm.houseTiles house then left position
      else state.furniture position }

/-- The part of `House::setHouseOwner` that puts out the people of an owner. -/
def evict (fuel : Nat) (state : State) (house : Nat) (left : Position → Furniture) :
  Option State :=
  let emptied := state.transferToDepot realm house left
  (kickByName realm fuel house
      (playersInside realm emptied house).reverse emptied).bind fun kicked =>
    let unowned := kicked.setHouse house ((kicked.houses house).setOwner 0)
    (setAccessList realm fuel unowned house .subownerList "").bind
      fun cleared => setAccessList realm fuel cleared house .guestList ""

/-- The last part of `House::setHouseOwner`: the new owner is entered. -/
def enterOwner (state : State) (house guid : Nat) : State :=
  if guid ≠ 0 ∧ (realm.getNameByGuid guid).isSome then
    state.setHouse house ((state.houses house).setOwner guid)
  else state

/-- `House::setHouseOwner`; `left` is what the depot transfer leaves behind. -/
def setHouseOwner (fuel : Nat) (state : State) (house guid : Nat) (left : Position → Furniture) :
  Option State :=
  let fields := state.houses house
  if fields.isLoaded ∧ fields.houseOwner = guid then some state
  else
    let loaded := state.setHouse house { fields with isLoaded := true }
    if fields.houseOwner ≠ 0 then
      (evict realm fuel loaded house left).map fun evicted => enterOwner realm evicted house guid
    else some (enterOwner realm loaded house guid)

end OTServ.Housing
