import OTServ.Game.ReturnValue
import OTServ.Library.Shifts
import OTServ.Map.Spectators

/-!
# The walk cache of a monster

A monster keeps for the tiles around it whether it could walk onto them.  The
window moves with the monster; what happens on the tiles is told to the monster,
which asks the tile again where it thinks that the answer may have changed.
-/

namespace OTServ.WalkCache

open Library.Shifts
open Map
open Spectators
open Function

/-! ## Tiles -/

structure ItemType where
  isGroundTile : Bool
  isAlwaysOnTop : Bool
  alwaysOnTopOrder : Int
  isSplash : Bool
  isMagicField : Bool
  replaceable : Bool
  combatType : Nat
  blockSolid : Bool
  blockPathFind : Bool
  moveable : Bool
  floorChangeDown : Bool
  floorChangeNorth : Bool
  floorChangeSouth : Bool
  floorChangeEast : Bool
  floorChangeWest : Bool
deriving DecidableEq

/--
An item with a number that tells it from others.  Whether it is a `MagicField`
or a `Teleport` has been settled when it was made, and not by its type now.
-/
structure Item where
  number : Nat
  type : ItemType
  uniqueId : Nat
  isField : Bool
  isTeleport : Bool
deriving DecidableEq

namespace Item

variable (item : Item)

def changesFloor : Bool :=
  item.type.floorChangeDown || item.type.floorChangeNorth ||
    item.type.floorChangeSouth || item.type.floorChangeEast || item.type.floorChangeWest

/-- `hasProperty(IMMOVABLEBLOCKSOLID)` -/
def immovableBlockSolid : Bool :=
  item.type.blockSolid && (!item.type.moveable || item.uniqueId ≠ 0)

/-- `hasProperty(NOFIELDBLOCKPATH)` -/
def noFieldBlockPath : Bool :=
  !item.type.isMagicField && item.type.blockPathFind

/-- `hasProperty(IMMOVABLENOFIELDBLOCKPATH)` -/
def immovableNoFieldBlockPath : Bool :=
  !item.type.isMagicField && item.type.blockPathFind && (!item.type.moveable || item.uniqueId ≠ 0)

end Item

/-- The flags of a tile which a monster asks for and items change. -/
structure Flags where
  floorChange : Bool
  positionChange : Bool
  magicField : Bool
  blockSolid : Bool
  immovableBlockSolid : Bool
  noFieldBlockPath : Bool
  immovableNoFieldBlockPath : Bool
deriving DecidableEq

structure Tile where
  ground : Option Item
  topItems : List Item
  downItems : List Item
  creatures : List Nat
  protectionZone : Bool
  flags : Flags

namespace Tile

variable (tile : Tile)

def items : List Item :=
  tile.ground.toList ++ tile.topItems ++ tile.downItems

/-- `hasProperty` of a tile without one of its items. -/
def hasProperty (exclude : Item) (property : Item → Bool) : Bool :=
  (tile.items.filter (·.number ≠ exclude.number)).any property

/-- `updateTileFlags(item, false)` -/
def addFlags (item : Item) : Tile :=
  let flags := tile.flags
  { tile with
    flags :=
      { floorChange := flags.floorChange || item.changesFloor
        positionChange := flags.positionChange || item.isTeleport
        magicField := flags.magicField || item.isField
        blockSolid := flags.blockSolid || item.type.blockSolid
        immovableBlockSolid := flags.immovableBlockSolid || item.immovableBlockSolid
        noFieldBlockPath := flags.noFieldBlockPath || item.noFieldBlockPath
        immovableNoFieldBlockPath :=
          flags.immovableNoFieldBlockPath || item.immovableNoFieldBlockPath } }

def resets (item : Item) (property : Item → Bool) : Bool :=
  property item && !tile.hasProperty item property

/-- `updateTileFlags(item, true)` -/
def removeFlags (item : Item) : Tile :=
  let flags := tile.flags
  { tile with
    flags :=
      { floorChange := flags.floorChange && !item.changesFloor
        positionChange := flags.positionChange && !item.isTeleport
        magicField := flags.magicField && !item.isField
        blockSolid := flags.blockSolid && !tile.resets item (·.type.blockSolid)
        immovableBlockSolid :=
          flags.immovableBlockSolid && !tile.resets item Item.immovableBlockSolid
        noFieldBlockPath := flags.noFieldBlockPath && !tile.resets item Item.noFieldBlockPath
        immovableNoFieldBlockPath :=
          flags.immovableNoFieldBlockPath && !tile.resets item Item.immovableNoFieldBlockPath } }

/-- `getFieldItem` -/
def getFieldItem : Option Item :=
  if tile.flags.magicField then tile.downItems.find? Item.isField else none

def exchangeItem (oldItem newItem : Item) : Tile :=
  let put (item : Item) : Item := if item = oldItem then newItem else item
  { tile with
    ground := tile.ground.map put
    topItems := tile.topItems.map put
    downItems := tile.downItems.map put }

def takeItem (item : Item) : Tile :=
  { tile with
    ground := tile.ground.filter (· ≠ item)
    topItems := tile.topItems.filter (· ≠ item)
    downItems := tile.downItems.filter (· ≠ item) }

/-- An item goes before the first top item whose order is not smaller. -/
def insertTop (item : Item) : List Item → List Item
  | [] => [item]
  | first :: rest =>
    if item.type.alwaysOnTopOrder ≤ first.type.alwaysOnTopOrder then
      item :: first :: rest
    else first :: insertTop item rest

end Tile

/--
What makes a monster fit to enter a tile: it pushes creatures and is no summon,
it pushes items, and what it can bear; and which creatures make way for it.
-/
structure Traits where
  pushesCreatures : Bool
  canPushItems : Bool
  isImmune : Nat → Bool
  hasCondition : Nat → Bool
  makesWay : Nat → Bool

/--
`Tile::__queryAdd` for the monster, with `FLAG_PATHFINDING` and
`FLAG_IGNOREFIELDDAMAGE`.
-/
def queryAdd (traits : Traits) (tile : Tile) : ReturnValue :=
  let flags := tile.flags
  if flags.floorChange || flags.positionChange then .notPossible
  else if tile.ground.isNone then .notPossible
  else if tile.protectionZone then .notPossible
  else if
    traits.pushesCreatures && tile.creatures.any (!traits.makesWay ·) then
    .notPossible
  else if !traits.pushesCreatures && !tile.creatures.isEmpty then
    .notEnoughRoom
  else if flags.immovableBlockSolid then .notPossible
  else if flags.immovableNoFieldBlockPath then .notPossible
  else if
    (flags.blockSolid || flags.noFieldBlockPath) && !traits.canPushItems then
    .notPossible
  else
    match tile.getFieldItem with
    | some field =>
      if !field.type.blockSolid && !traits.isImmune field.type.combatType &&
          !(traits.canPushItems || traits.hasCondition field.type.combatType) then
        .notPossible
      else .noError
    | none => .noError

/-- `(mapWalkWidth - 1) / 2`, and the same for the height. -/
def mapWalkReach : Int := 11

def window : List Int :=
  (List.range 23).map fun (index : Nat) => (index : Int) - mapWalkReach

/-- A position at a distance, in numbers of 16 bits. -/
def offset (position : Position) (dx dy : Int) : Position :=
  { position with
    x := UInt16.ofInt (position.x.toNat + dx)
    y := UInt16.ofInt (position.y.toNat + dy) }

structure State where
  tile : Position → Option Tile
  place : Nat → Position
  placed : Nat → Bool
  onMap : Nat → Bool
  isMapLoaded : Bool
  localMapCache : Nat → Nat → Bool

namespace State

variable (self : Nat) (traits : Traits) (state : State)

/-- `Map::getTile` -/
def getTile (position : Position) : Option Tile :=
  if position.z < 16 then state.tile position else none

def walkable (position : Position) : Bool :=
  match state.getTile position with
  | some tile => queryAdd traits tile = .noError
  | none => false

def myPos : Position := state.place self

def setCell (y x : Nat) (value : Bool) : State :=
  { state with
    localMapCache := update state.localMapCache y (update (state.localMapCache y) x value) }

def reaches (dx dy : Int) : Bool :=
  dx.natAbs ≤ mapWalkReach && dy.natAbs ≤ mapWalkReach

/-- `updateTileCache` for the tile at a position, by distances. -/
def updateCell (position : Position) (dx dy : Int) : State :=
  if reaches dx dy then
    state.setCell (mapWalkReach + dy).toNat (mapWalkReach + dx).toNat
      (state.walkable traits position)
  else state

/-- `updateTileCache` for the tile at a position. -/
def updateTileCache (position : Position) : State :=
  let myPos := state.myPos self
  if position.z = myPos.z then
    state.updateCell traits position
      (position.x.toNat - myPos.x.toNat) (position.y.toNat - myPos.y.toNat)
  else state

/-- `updateMapCache` -/
def updateMapCache : State :=
  window.foldl
    (fun state dy =>
      window.foldl
        (fun state dx => state.updateTileCache self traits (offset (state.myPos self) dx dy))
        state)
    state

/-- `getWalkCache` -/
def getWalkCache (pos : Position) : Nat :=
  let myPos := state.myPos self
  let dx : Int := pos.x.toNat - myPos.x.toNat
  let dy : Int := pos.y.toNat - myPos.y.toNat
  if myPos.z ≠ pos.z then 0
  else if pos = myPos then 1
  else if reaches dx dy then
    if state.localMapCache (mapWalkReach + dy).toNat (mapWalkReach + dx).toNat
    then 1
    else 0
  else 2

def updateRow (dy : Int) : State :=
  window.foldl
    (fun state dx => state.updateCell traits (offset (state.myPos self) dx dy) dx dy)
    state

def updateColumn (dx : Int) : State :=
  window.foldl
    (fun state dy => state.updateCell traits (offset (state.myPos self) dx dy) dx dy)
    state

def withCache (localMapCache : Nat → Nat → Bool) : State :=
  { state with localMapCache := localMapCache }

def shiftRows (oldPos newPos : Position) : State :=
  if newPos.y < oldPos.y then
    (state.withCache (shiftUp 22 state.localMapCache)).updateRow self traits (-mapWalkReach)
  else if oldPos.y < newPos.y then
    (state.withCache (shiftDown 22 state.localMapCache)).updateRow self traits mapWalkReach
  else state

def keptRow (oldPos newPos : Position) (y : Nat) : Bool :=
  let dy : Int := oldPos.y.toNat - newPos.y.toNat
  let starty := if 0 < dy then dy else 0
  let endy := if dy < 0 then 22 + dy else 22
  starty ≤ y && (y : Int) ≤ endy

def shiftColumns (oldPos newPos : Position) : State :=
  let shift (shiftRow : (Nat → Bool) → Nat → Bool) : Nat → Nat → Bool :=
    fun y =>
      if keptRow oldPos newPos y then shiftRow (state.localMapCache y)
      else state.localMapCache y
  if oldPos.x < newPos.x then
    (state.withCache (shift (shiftDown 22))).updateColumn self traits mapWalkReach
  else if newPos.x < oldPos.x then
    (state.withCache (shift (shiftUp 22))).updateColumn self traits (-mapWalkReach)
  else state

/-- Whether the monster is among the spectators of a position. -/
def told (position : Position) : Bool :=
  state.onMap self && Map.inRange position (state.myPos self) (Map.cachedRange position)

def hear (position : Position) : State :=
  if state.told self position && state.isMapLoaded then
    state.updateTileCache self traits position
  else state

/-- `Creature::onAddTileItem`, if the monster is told. -/
def onAddTileItem (position : Position) : State :=
  state.hear self traits position

/-- `Creature::onUpdateTileItem`, if the monster is told. -/
def onUpdateTileItem (position : Position) (oldType newType : ItemType) : State :=
  if oldType.blockSolid || oldType.blockPathFind || newType.blockPathFind ||
      newType.blockSolid then
    state.hear self traits position
  else state

/-- `Creature::onRemoveTileItem`, if the monster is told. -/
def onRemoveTileItem (position : Position) (iType : ItemType) : State :=
  if iType.blockSolid || iType.blockPathFind || iType.isGroundTile then
    state.hear self traits position
  else state

/-! ## Events -/

def setTile (position : Position) (tile : Tile) : State :=
  { state with tile := update state.tile position (some tile) }

/-- `Tile::__removeThing` of a whole item, with what the monster is told. -/
def removeItem (position : Position) (tile : Tile) (item : Item) : State :=
  (state.setTile position
    ((tile.takeItem item).removeFlags item)).onRemoveTileItem self traits position item.type

def insertItem (position : Position) (tile : Tile) (item : Item) : State :=
  if item.type.isGroundTile then
    match tile.ground with
    | none =>
      (state.setTile position
        ({ tile with ground := some item }.addFlags item)).onAddTileItem self traits position
    | some ground =>
      (state.setTile position
        (({ tile with ground := some item }.removeFlags ground).addFlags
          item)).onUpdateTileItem self traits position ground.type item.type
  else if item.type.isAlwaysOnTop then
    (state.setTile position
      ({ tile with topItems := Tile.insertTop item tile.topItems }.addFlags
        item)).onAddTileItem self traits position
  else
    (state.setTile position
      ({ tile with downItems := item :: tile.downItems }.addFlags
        item)).onAddTileItem self traits position

/-- What an item takes the place of on a tile: an old splash or field. -/
def replaced (tile : Tile) (item : Item) : Option Item :=
  if item.type.isGroundTile then none
  else if item.type.isAlwaysOnTop then
    if item.type.isSplash then tile.topItems.find? (·.type.isSplash) else none
  else if item.type.isMagicField then tile.downItems.find? Item.isField
  else none

/-- `Tile::__addThing` for an item. -/
def addItem (position : Position) (item : Item) : State :=
  match state.getTile position with
  | none => state
  | some tile =>
    match replaced tile item with
    | none => state.insertItem self traits position tile item
    | some old =>
      if item.type.isAlwaysOnTop || old.type.replaceable then
        let removed := state.removeItem self traits position tile old
        match removed.getTile position with
        | none => removed
        | some rest => removed.insertItem self traits position rest item
      else state

/--
`Tile::__updateThing`: an item of the tile gets another type.  It gets the same
type again when a part of it is taken away.
-/
def updateItem (position : Position) (item : Item) (type : ItemType) : State :=
  match state.getTile position with
  | none => state
  | some tile =>
    if item ∈ tile.items then
      let newItem := { item with type := type }
      (state.setTile position
        ((((tile.removeFlags item).exchangeItem item newItem).removeFlags
          newItem).addFlags newItem)).onUpdateTileItem self traits position item.type type
    else state

/-- `Tile::__replaceThing`: an item of the tile makes place for a new one. -/
def replaceItem (position : Position) (item newItem : Item) : State :=
  match state.getTile position with
  | none => state
  | some tile =>
    if item ∈ tile.items then
      (state.setTile position
        (((tile.exchangeItem item newItem).removeFlags item).addFlags
          newItem)).onUpdateTileItem self traits position item.type newItem.type
    else state

def setCreatures (position : Position) (creatures : List Nat → List Nat) : State :=
  match state.getTile position with
  | none => state
  | some tile =>
    state.setTile position { tile with creatures := creatures tile.creatures }

def enterTile (creature : Nat) (position : Position) : State :=
  { state.setCreatures position (creature :: ·) with
    place := update state.place creature position }

/-- `Game::placeCreature`, with `onCreatureAppear` if the monster is told. -/
def appear (creature : Nat) (position : Position) : Option State :=
  if state.placed creature || (state.getTile position).isNone then none
  else
    let entered :=
      { state.enterTile creature position with
        placed := update state.placed creature true
        onMap := update state.onMap creature true }
    some <|
      if creature = self then
        State.updateMapCache self traits { entered with isMapLoaded := true }
      else entered.hear self traits position

/-- `Game::removeCreature`, with `onCreatureDisappear` if it is told. -/
def disappear (creature : Nat) : Option State :=
  if state.onMap creature then
    let position := state.place creature
    let gone :=
      { state.setCreatures position (·.erase creature) with
        onMap := update state.onMap creature false }
    some (if creature = self then gone else gone.hear self traits position)
  else none

def follow (oldPos newPos : Position) (teleport : Bool) : State :=
  if state.isMapLoaded then
    if teleport || oldPos.z ≠ newPos.z then state.updateMapCache self traits
    else
      ((state.shiftRows self traits oldPos newPos).shiftColumns self traits
        oldPos newPos).updateTileCache self traits oldPos
  else state

def watch (oldPos newPos : Position) : State :=
  if (state.told self oldPos || state.told self newPos) &&
      state.isMapLoaded then
    (state.updateTileCache self traits newPos).updateTileCache self traits oldPos
  else state

/-- `Tile::moveCreature`, with `onCreatureMove` if the monster is told. -/
def move (creature : Nat) (newPos : Position) (teleport : Bool) : Option State :=
  if state.onMap creature && (state.getTile newPos).isSome then
    let oldPos := state.place creature
    let moved := (state.setCreatures oldPos (·.erase creature)).enterTile creature newPos
    some <|
      if creature = self then moved.follow self traits oldPos newPos teleport
      else moved.watch self traits oldPos newPos
  else none

/-- What happens on the tiles; an update of a tile does nothing. -/
inductive Event where
  | appear (creature : Nat) (position : Position)
  | disappear (creature : Nat)
  | move (creature : Nat) (newPos : Position) (teleport : Bool)
  | addItem (position : Position) (item : Item)
  | updateItem (position : Position) (item : Item) (type : ItemType)
  | replaceItem (position : Position) (item newItem : Item)
  | removeItem (position : Position) (item : Item)
  | updateTile (position : Position)

def perform : Event → Option State
  | .appear creature position => state.appear self traits creature position
  | .disappear creature => state.disappear self traits creature
  | .move creature newPos teleport =>
    state.move self traits creature newPos teleport
  | .addItem position item => some (state.addItem self traits position item)
  | .updateItem position item type =>
    some (state.updateItem self traits position item type)
  | .replaceItem position item newItem =>
    some (state.replaceItem self traits position item newItem)
  | .removeItem position item =>
    (state.getTile position).bind fun tile =>
      if item ∈ tile.items then
        some (state.removeItem self traits position tile item)
      else none
  | .updateTile _ => some state

end State

end OTServ.WalkCache
