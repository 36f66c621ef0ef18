import OTServ.Items.Transforming

/-!
# Tiles

A tile holds its ground, the items that are always on top, the creatures and the other
items, counts them, and keeps flags that follow from the items.  Its things have
indices through all four parts.

Items are known by numbers, since they are told apart by their addresses; the class of an
object stays what it was when the object was created.  What clients and scripts are told
is left out.
-/

namespace OTServ.Tiles

open Items

/-- The rest of `ItemType` at which tiles look. -/
structure TileItemType extends ItemType where
  blockPathFind : Bool
  /-- minus one without a type to decay to -/
  decayTo : Int

abbrev TileItemTable := Nat → TileItemType

def itemTable (items : TileItemTable) : ItemTable :=
  fun id => (items id).toItemType

structure TileItem extends Matter where
  number : Nat
  uniqueId : Nat
deriving DecidableEq

namespace TileItem

variable (items : TileItemTable) (item : TileItem)

def type : TileItemType := items item.id

def isGroundTile : Bool := (item.type items).group = .ground

def isSplash : Bool := (item.type items).group = .splash

def isMagicField : Bool := (item.type items).type = .magicField

/-- `getTeleport() != nullptr` -/
def getTeleport : Bool := item.itemClass = .teleport

/-- `getMagicField() != nullptr` -/
def getMagicField : Bool := item.itemClass = .magicField

/-- The item cannot be moved, as `hasProperty` asks for it. -/
def isImmovable : Bool := !(item.type items).moveable || item.uniqueId ≠ 0

end TileItem

/-- `ITEMPROPERTY`, as far as there are flags. -/
inductive ItemProperty where
  | BLOCKSOLID
  | BLOCKPATH
  | NOFIELDBLOCKPATH
  | IMMOVABLEBLOCKSOLID
  | IMMOVABLEBLOCKPATH
  | IMMOVABLENOFIELDBLOCKPATH
deriving DecidableEq

/-- `Item::hasProperty` -/
def TileItem.hasProperty (items : TileItemTable) (item : TileItem) : ItemProperty → Bool
  | .BLOCKSOLID => (item.type items).blockSolid
  | .BLOCKPATH => (item.type items).blockPathFind
  | .NOFIELDBLOCKPATH => !item.isMagicField items && (item.type items).blockPathFind
  | .IMMOVABLEBLOCKSOLID => (item.type items).blockSolid && item.isImmovable items
  | .IMMOVABLEBLOCKPATH => (item.type items).blockPathFind && item.isImmovable items
  | .IMMOVABLENOFIELDBLOCKPATH =>
    !item.isMagicField items && (item.type items).blockPathFind && item.isImmovable items

/-! ## Flags -/

inductive FloorDirection where
  | down
  | north
  | south
  | east
  | west
deriving DecidableEq

/-- `floorChangeDown` and its like. -/
def TileItem.floorChange (items : TileItemTable) (item : TileItem) : FloorDirection → Bool
  | .down => (item.type items).floorChangeDown
  | .north => (item.type items).floorChangeNorth
  | .south => (item.type items).floorChangeSouth
  | .east => (item.type items).floorChangeEast
  | .west => (item.type items).floorChangeWest

/-- The flags `TILESTATE_` that follow from the items. -/
inductive TileFlag where
  | FLOORCHANGE
  | floor (direction : FloorDirection)
  | POSITIONCHANGE
  | MAGICFIELD
  | property (property : ItemProperty)
deriving DecidableEq

inductive Thing where
  | item (matter : TileItem)
  | creature (id : Nat)
deriving DecidableEq

inductive ThingPointer where
  | item (number : Nat)
  | creature (id : Nat)
deriving DecidableEq

def Thing.pointer : Thing → ThingPointer
  | .item matter => .item matter.number
  | .creature id => .creature id

structure Tile where
  ground : Option TileItem
  topItems : List TileItem
  creatures : List Nat
  downItems : List TileItem
  thingCount : Nat
  m_flags : TileFlag → Bool

namespace Tile

def empty : Tile where
  ground := none
  topItems := []
  creatures := []
  downItems := []
  thingCount := 0
  m_flags _ := false

variable (items : TileItemTable) (tile : Tile)

def hasFlag (flag : TileFlag) : Bool := tile.m_flags flag

def setFlag (flag : TileFlag) : Tile :=
  { tile with m_flags := Function.update tile.m_flags flag true }

def resetFlag (flag : TileFlag) : Tile :=
  { tile with m_flags := Function.update tile.m_flags flag false }

/-- A statement under an `if`. -/
def when (condition : Bool) (change : Tile → Tile) : Tile :=
  if condition then change tile else tile

def itemList : List TileItem :=
  tile.ground.toList ++ tile.topItems ++ tile.downItems

/-- `Tile::hasProperty` with an item that is not looked at. -/
def hasProperty (exclude : Nat) (property : ItemProperty) : Bool :=
  (tile.ground.any fun ground =>
      exclude ≠ ground.number && ground.hasProperty items property) ||
    (tile.topItems.any fun item => item.number ≠ exclude && item.hasProperty items property) ||
    tile.downItems.any fun item => item.number ≠ exclude && item.hasProperty items property

def directions : List FloorDirection := [.down, .north, .south, .east, .west]

/-- `updateTileFlags` of an item that is added. -/
def addTileFlags (item : TileItem) : Tile :=
  let tile :=
    if tile.hasFlag .FLOORCHANGE then tile
    else
      directions.foldl
        (fun tile direction =>
          tile.when (item.floorChange items direction) fun tile =>
            (tile.setFlag .FLOORCHANGE).setFlag (.floor direction))
        tile
  let tile := tile.when item.getTeleport fun tile => tile.setFlag .POSITIONCHANGE
  let tile := tile.when item.getMagicField fun tile => tile.setFlag .MAGICFIELD
  [ItemProperty.BLOCKSOLID, .IMMOVABLEBLOCKSOLID, .BLOCKPATH, .NOFIELDBLOCKPATH,
      .IMMOVABLENOFIELDBLOCKPATH].foldl
    (fun tile property =>
      tile.when (item.hasProperty items property) fun tile => tile.setFlag (.property property))
    tile

/-- `updateTileFlags` of an item that is removed. -/
def removeTileFlags (item : TileItem) : Tile :=
  let tile :=
    directions.foldl
      (fun tile direction =>
        tile.when (item.floorChange items direction) fun tile =>
          (tile.resetFlag .FLOORCHANGE).resetFlag (.floor direction))
      tile
  let tile := tile.when item.getTeleport fun tile => tile.resetFlag .POSITIONCHANGE
  let tile := tile.when item.getMagicField fun tile => tile.resetFlag .MAGICFIELD
  [ItemProperty.BLOCKSOLID, .IMMOVABLEBLOCKSOLID, .BLOCKPATH, .NOFIELDBLOCKPATH,
      .IMMOVABLEBLOCKPATH, .IMMOVABLENOFIELDBLOCKPATH].foldl
    (fun tile property =>
      tile.when
        (item.hasProperty items property && !tile.hasProperty items item.number property)
        fun tile => tile.resetFlag (.property property))
    tile

def updateTileFlags (item : TileItem) (removing : Bool) : Tile :=
  if removing then tile.removeTileFlags items item else tile.addTileFlags items item

/-- `onUpdateTileItem`, as far as the tile is changed. -/
def onUpdateTileItem (oldItem newItem : TileItem) : Tile :=
  (tile.updateTileFlags items oldItem true).updateTileFlags items newItem false

def indexIn (pointer : ThingPointer) (things : List Thing) (n : Int) : Option Int :=
  (things.findIdx? fun thing => thing.pointer = pointer).map fun place : Nat =>
    n + 1 + (place : Int)

def getIndexOfThing (pointer : ThingPointer) : Int :=
  let n : Int := -1
  match tile.ground with
  | some ground =>
    if ThingPointer.item ground.number = pointer then 0 else go (n + 1)
  | none => go n
where
  /-- The loops over the other parts. -/
  go (n : Int) : Int :=
    match indexIn pointer (tile.topItems.map .item) n with
    | some index => index
    | none =>
      let n := n + tile.topItems.length
      match indexIn pointer (tile.creatures.map .creature) n with
      | some index => index
      | none =>
        let n := n + tile.creatures.length
        match indexIn pointer (tile.downItems.map .item) n with
        | some index => index
        | none => -1

def getThing (index : Nat) : Option Thing :=
  match tile.ground with
  | some ground => if index = 0 then some (.item ground) else go (index - 1)
  | none => go index
where
  /-- The parts behind the ground. -/
  go (index : Nat) : Option Thing :=
    if index < tile.topItems.length then (tile.topItems.map Thing.item)[index]?
    else
      let index := index - tile.topItems.length
      if index < tile.creatures.length then (tile.creatures.map Thing.creature)[index]?
      else (tile.downItems.map Thing.item)[index - tile.creatures.length]?

/-- An item with a number is found and changed, wherever it is. -/
def modifyItem (number : Nat) (change : TileItem → TileItem) : Tile :=
  let each (item : TileItem) : TileItem := if item.number = number then change item else item
  { tile with
    ground := tile.ground.map each
    topItems := tile.topItems.map each
    downItems := tile.downItems.map each }

def findItem (number : Nat) : Option TileItem :=
  tile.itemList.find? fun item => item.number = number

/-- `removeThing` of an item. -/
def removeItem (number count : Nat) : Tile :=
  match tile.findItem number with
  | none => tile
  | some item =>
    if tile.ground.any fun ground => ground.number = number then
      { tile with ground := none, thingCount := tile.thingCount - 1 }.updateTileFlags items
        item true
    else if (item.type items).alwaysOnTop then
      if tile.topItems.any fun other => other.number = number then
        { tile with
          topItems := tile.topItems.eraseP fun other => other.number = number
          thingCount := tile.thingCount - 1 }.updateTileFlags items item true
      else
        tile
    else if tile.downItems.any fun other => other.number = number then
      if (item.type items).stackable && count ≠ item.count then
        let less := { item with toMatter := item.toMatter.setItemCount (lowered item.count count) }
        (tile.modifyItem number fun _ => less).onUpdateTileItem items less less
      else
        { tile with
          downItems := tile.downItems.eraseP fun other => other.number = number
          thingCount := tile.thingCount - 1 }.updateTileFlags items item true
    else
      tile

def removeThing (pointer : ThingPointer) (count : Nat) : Tile :=
  match pointer with
  | .creature creature =>
    if creature ∈ tile.creatures then
      { tile with
        creatures := tile.creatures.erase creature
        thingCount := tile.thingCount - 1 }
    else
      tile
  | .item number => tile.removeItem items number count

def topOrder (item : TileItem) : Int := (item.type items).alwaysOnTopOrder

def insertTop (item : TileItem) (topItems : List TileItem) : List TileItem :=
  topItems.orderedInsert (fun new old => topOrder items new ≤ topOrder items old) item

def internalInsertTop (item : TileItem) (topItems : List TileItem) : List TileItem :=
  topItems.orderedInsert (fun new old => topOrder items new < topOrder items old) item

/-- The old splash, or the old field that can be replaced, goes. -/
def addItem (item : TileItem) : Tile :=
  if item.isGroundTile items then
    match tile.ground with
    | none =>
      { tile with
        ground := some item, thingCount := tile.thingCount + 1 }.updateTileFlags items item false
    | some oldGround => { tile with ground := some item }.onUpdateTileItem items oldGround item
  else if (item.type items).alwaysOnTop then
    let tile :=
      if item.isSplash items then
        match tile.topItems.find? (TileItem.isSplash items) with
        | some oldSplash => tile.removeItem items oldSplash.number 1
        | none => tile
      else
        tile
    { tile with
      topItems := insertTop items item tile.topItems
      thingCount := tile.thingCount + 1 }.updateTileFlags items item false
  else
    let place (tile : Tile) : Tile :=
      { tile with
        downItems := item :: tile.downItems
        thingCount := tile.thingCount + 1 }.updateTileFlags items item false
    if item.isMagicField items then
      match tile.downItems.find? TileItem.getMagicField with
      | some oldField =>
        if (oldField.type items).replaceable then
          place (tile.removeItem items oldField.number 1)
        else
          tile
      | none => place tile
    else
      place tile

def addThing : Thing → Tile
  | .creature creature =>
    { tile with
      creatures := creature :: tile.creatures
      thingCount := tile.thingCount + 1 }
  | .item item => tile.addItem items item

def internalAddThing : Thing → Tile
  | .creature creature =>
    { tile with
      creatures := creature :: tile.creatures
      thingCount := tile.thingCount + 1 }
  | .item item =>
    let tile :=
      if item.isGroundTile items then
        match tile.ground with
        | none => { tile with ground := some item, thingCount := tile.thingCount + 1 }
        | some _ => tile
      else if (item.type items).alwaysOnTop then
        { tile with
          topItems := internalInsertTop items item tile.topItems
          thingCount := tile.thingCount + 1 }
      else
        { tile with
          downItems := item :: tile.downItems
          thingCount := tile.thingCount + 1 }
    tile.updateTileFlags items item false

/-- `setID` and `setSubType` of an item. -/
def updated (item : TileItem) (itemId count : Nat) : TileItem :=
  { item with toMatter := (item.toMatter.setID itemId).setSubType (itemTable items) count }

def updateThing (number itemId count : Nat) : Tile :=
  match tile.findItem number with
  | none => tile
  | some item =>
    -- the old and the new item are the same object
    let tile := tile.updateTileFlags items item true
    let tile := tile.modifyItem number fun _ => updated items item itemId count
    tile.onUpdateTileItem items (updated items item itemId count) (updated items item itemId count)

def replaceThing (index : Nat) (item : TileItem) : Tile :=
  match tile.ground with
  | some ground =>
    if index = 0 then { tile with ground := some item }.onUpdateTileItem items ground item
    else go (index - 1)
  | none => go index
where
  /-- The parts behind the ground. -/
  go (pos : Nat) : Tile :=
    match tile.topItems[pos]? with
    | some oldItem =>
      { tile with topItems := tile.topItems.set pos item }.onUpdateTileItem items oldItem item
    | none =>
      let pos := pos - tile.topItems.length
      if pos < tile.creatures.length then tile
      else
        let pos := pos - tile.creatures.length
        match tile.downItems[pos]? with
        | some oldItem =>
          { tile with downItems := tile.downItems.set pos item }.onUpdateTileItem items
            oldItem item
        | none => tile

/-- `Item::setDefaultSubtype` of an item on the tile. -/
def setDefaultSubtype (number : Nat) : Tile :=
  tile.modifyItem number fun item =>
    { item with toMatter := item.toMatter.setDefaultSubtype (itemTable items) }

/-! ## Transforming -/

inductive Operation where
  | addThing (thing : Thing)
  | internalAddThing (thing : Thing)
  | updateThing (number itemId count : Nat)
  | replaceThing (index : Nat) (item : TileItem)
  | removeThing (pointer : ThingPointer) (count : Nat)
  | setDefaultSubtype (number : Nat)

def operate : Operation → Tile
  | .addThing thing => tile.addThing items thing
  | .internalAddThing thing => tile.internalAddThing items thing
  | .updateThing number itemId count => tile.updateThing items number itemId count
  | .replaceThing index item => tile.replaceThing items index item
  | .removeThing pointer count => tile.removeThing items pointer count
  | .setDefaultSubtype number => tile.setDefaultSubtype items number

/--
What `transformItem` meets: whether the item can become another one, whether it may be
removed, the numbers of the objects that are made, and whether `internalAddItem` puts the
new item on this tile, with the item to which it is added then.
-/
structure Scene where
  canTransform : Bool
  removable : Bool
  newNumber : Nat
  restNumber : Nat
  accepted : Bool
  toItem : Option TileItem

/-- `Item::CreateItem` -/
def createItem (number id count : Nat) : Option TileItem :=
  if (items id).known then
    some
      { toMatter := World.newMatter (itemTable items) id count
        number := number
        uniqueId := 0 }
  else none

/-- `internalRemoveItem` -/
def internalRemoveItem (scene : Scene) (item : TileItem) : List Operation :=
  if scene.removable then [.removeThing (.item item.number) item.count] else []

/-- `internalAddItem`, which finds room for all of the item. -/
def internalAddItem (scene : Scene) (item : TileItem) : List Operation :=
  if !scene.accepted then []
  else
    let m := if (item.type items).stackable then item.count else 1
    match scene.toItem with
    | some toItem =>
      if (item.type items).stackable ∧ toItem.id = item.id then
        let n := if toItem.count ≤ 100 then min (100 - toItem.count) m else m
        .updateThing toItem.number toItem.id (toItem.count + n) ::
          if m = n then []
          else if m - n ≠ item.count then
            (createItem items scene.restNumber item.id (m - n)).toList.map fun rest =>
              .addThing (.item rest)
          else [.addThing (.item item)]
      else [.addThing (.item item)]
    | none => [.addThing (.item item)]

/-- `Game::transformItem` of an item on the tile, without the call of itself. -/
def transformKind (scene : Scene) (item : TileItem) (newId : Nat) (newCount : Option Nat) :
  List Operation :=
  let curType := item.type items
  let newType := items newId
  let newItem := createItem items scene.newNumber newId (newCount.getD 0)
  if curType.alwaysOnTop ≠ newType.alwaysOnTop then
    if scene.removable then
      internalRemoveItem scene item ++
        -- nothing more is done on this tile without an item
        newItem.elim [] (internalAddItem items scene)
    else []
  else if curType.type = newType.type then
    let regrouped :=
      if item.id ≠ newId ∧ newType.group ≠ curType.group then
        [Operation.setDefaultSubtype item.number]
      else []
    let count :=
      match newCount with
      | some newCount =>
        if newType.group = .fluid ∨ newType.group = .splash ∨ newType.stackable ∨
            newType.charges ≠ 0 then
          newCount
        else item.toMatter.getSubType (itemTable items)
      | none => item.toMatter.getSubType (itemTable items)
    regrouped ++ [.updateThing item.number newId count]
  else
    newItem.elim [] fun newItem =>
      [.replaceThing (tile.getIndexOfThing (.item item.number)).toNat newItem]

/-- `Game::transformItem` of an item on the tile, as the operations on the tile. -/
def transformItem (scene : Scene) (item : TileItem) (newId : Nat) (newCount : Option Nat) :
  List Operation :=
  let curType := item.type items
  let newType := items newId
  let unchanged (id : Nat) (count : Option Nat) : Bool :=
    item.id = id ∧ count.all fun count => count = item.toMatter.getSubType (itemTable items)
  if unchanged newId newCount ∨ !scene.canTransform then []
  else if curType.alwaysOnTop = newType.alwaysOnTop ∧ curType.type = newType.type ∧
      newCount = some 0 ∧ (curType.stackable ∨ curType.charges ≠ 0) then
    if curType.stackable then internalRemoveItem scene item
    else
      let newItemId := if item.id = newId then curType.decayTo else newId
      if newItemId = -1 then internalRemoveItem scene item
      else
        let newItemId := (newItemId % 65536).toNat
        if unchanged newItemId none then []
        else tile.transformKind items scene item newItemId none
  else tile.transformKind items scene item newId newCount

inductive Event where
  | operation (operation : Operation)
  | transformItem (scene : Scene) (number newId : Nat) (newCount : Option Nat)

def operations : Event → List Operation
  | .operation operation => [operation]
  | .transformItem scene number newId newCount =>
    match tile.findItem number with
    | some item => tile.transformItem items scene item newId newCount
    | none => []

def step (event : Event) : Tile :=
  (tile.operations items event).foldl (operate items) tile

end Tile

end OTServ.Tiles
