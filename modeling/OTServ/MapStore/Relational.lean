import OTServ.Library.LevelOrder
import OTServ.MapStore.Tiles

/-!
# The rows of `tile_items`

`saveItems` writes a row for every item of a house tile that is saved and for all
that is in them, with a running number, the number of the container it is in, its
own number and count, and its attributes.  The containers are gone through in the
order in which they were met.

`loadItems` goes through the rows of a tile by descending number.  An item that is
moveable or in a container is made anew, for any other one the tile is searched as
`loadItem` does.  Afterwards every item whose row names a container is put into
it, again from the highest number to the lowest.
-/

namespace OTServ.MapStore

open Items
open Library
open Library.ByteStreams
open List Function

section Store

variable (types : UInt16 → ItemType)

namespace Relational

/-- A row of `tile_items`. -/
structure Row where
  sid : Nat
  pid : Nat
  itemtype : UInt16
  count : UInt16
  attributes : Stream

def row (numbered : LevelOrder.Numbered Item) : Row where
  sid := numbered.number
  pid := numbered.parent
  itemtype := numbered.thing.id
  count := getSubType (types numbered.thing.id) numbered.thing.attributes
  attributes := (numbered.thing.attrs types).flatMap Attr.bytes

/-- `getContainer()` -/
def holdsItems (item : Item) : Bool := (classOf types item.id).isContainer

mutual

def itemWeight : Item → Nat
  | .mk _ _ items => 1 + itemsWeight items

def itemsWeight : List Item → Nat
  | [] => 0
  | item :: items => itemWeight item + itemsWeight items

end

def savedItems (tile : SavedTile) : List Item :=
  (tile.things.filter (isSaved types)).map Placed.item

/-- The items with their `runningID` and the `parentid`. -/
def numberedItems (tile : SavedTile) : List (LevelOrder.Numbered Item) :=
  let queue := [(savedItems types tile, 0)]
  LevelOrder.rows Item.items (holdsItems types) (LevelOrder.queueWeight itemWeight queue) 0 queue

/-- `IOMapSerialize::saveItems` -/
def saveItems (tile : SavedTile) : List Row :=
  (numberedItems types tile).map (row types)

end Relational

def Loaded.number (item : Loaded) : Nat :=
  (item.readings.head?.map Prod.fst).getD 0

def Loaded.fill (contents : Nat → List Loaded) : Loaded → Loaded
  | .mk id itemClass count readings items =>
    .mk id itemClass count readings
      (match readings.head? with
        | some (number, _) => contents number ++ items
        | none => items)

def Tile.map (f : Loaded → Loaded) (tile : Tile) : Tile where
  ground := tile.ground.map f
  topItems := tile.topItems.map f
  downItems := tile.downItems.map f

namespace Relational

/--
What `itemMap` has for a number: the object as it was when its row was read, and
the number of the one it is in.  An object on the tile is found by its number.
-/
structure Mapped where
  item : Loaded
  pid : Nat
  onTile : Bool

/--
The tile and `itemMap`.  The items that were put into an object are kept by the
number of the object; `started` tells for which of them `startDecay` was called
while they were on the map.
-/
structure State where
  tile : Tile
  itemMap : Nat → Option Mapped
  contents : Nat → List Loaded
  started : Nat → Bool
  gone : Bool

/--
A row of which an item is made.  Its attributes are read twice; the second time
there is nothing left of them.  The container is still empty when it is put on the
tile, so that nothing in it starts to decay.
-/
def createItem (state : State) (row : Row) : State :=
  let itemClass := classOf types row.itemtype
  let read := unserializeAttr itemClass row.attributes
  let again := unserializeAttr itemClass read.rest
  let item : Loaded := .mk row.itemtype itemClass 0 [(row.sid, read.attrs ++ again.attrs)] []
  let onTile := read.ok && row.pid = 0
  let decays := onTile && !itemClass.isContainer
  { state with
    tile := if onTile then state.tile.internalAddThing types item else state.tile
    started :=
      if decays then update state.started row.sid true
      else state.started
    gone := state.gone || (decays && decaysAtOnce (types row.itemtype) read.attrs)
    itemMap :=
      if again.ok then
        update state.itemMap row.sid (some ⟨item, row.pid, onTile⟩)
      else state.itemMap }

def findItem (state : State) (row : Row) : State :=
  match state.tile.things.find? (isFor types row.itemtype) with
  | some item =>
    let read := unserializeAttr item.itemClass row.attributes
    let handed : Loaded :=
      .mk item.id item.itemClass item.serializationCount
        (item.readings ++ [(row.sid, read.attrs)]) item.items
    if read.ok then
      let changed := state.tile.transformItem types (isFor types row.itemtype) handed row.itemtype
      { state with
        tile := changed.1
        gone := state.gone || changed.2
        itemMap := update state.itemMap row.sid (some ⟨handed, row.pid, true⟩) }
    else
      { state with
        tile := state.tile.replaceFirst (isFor types row.itemtype) handed }
  -- the map changed, and the attributes are read for nothing
  | none => state

/-- The first loop of `IOMapSerialize::loadItems`. -/
def loadRow (state : State) (row : Row) : State :=
  if (types row.itemtype).moveable || row.pid ≠ 0 then
    if (types row.itemtype).known then createItem types state row else state
  else findItem types state row

/--
The second loop, for the item of a row.  Only in a container on the tile it can
start to decay; any other one is put there later.
-/
def linkRow (state : State) (row : Row) : State :=
  match state.itemMap row.sid with
  | none => state
  | some mapped =>
    match state.itemMap mapped.pid with
    | none => state
    | some up =>
      if up.item.itemClass.isContainer then
        let item := mapped.item.fill state.contents
        { state with
          contents := update state.contents up.item.number (item :: state.contents up.item.number)
          started :=
            if up.onTile then
              update state.started item.number true
            else state.started
          gone :=
            state.gone ||
              (up.onTile && decaysAtOnce (types item.id) (item.readings.flatMap Prod.snd)) }
      else state

structure Result where
  tile : Tile
  started : Nat → Bool
  gone : Bool

/--
`IOMapSerialize::loadItems` for a tile; the rows come by descending number, and
`itemMap` is gone through in the same order.
-/
def loadItems (tile : Tile) (rows : List Row) : Result :=
  let read := rows.foldl (loadRow types) ⟨tile, fun _ => none, fun _ => [], fun _ => false, false⟩
  let linked := rows.foldl (linkRow types) read
  ⟨linked.tile.map (Loaded.fill linked.contents), linked.started, linked.gone⟩

/-- `SELECT * FROM tile_items ... ORDER BY sid DESC` -/
def stored (tile : SavedTile) : List Row := (saveItems types tile).reverse

end Relational

section Numbers

open Relational

lemma itemsWeight_eq (items : List Item) : itemsWeight items = (items.map itemWeight).sum := by
  induction items with
  | nil => rfl
  | cons item items ih => rw [itemsWeight, ih, map_cons, sum_cons]

lemma itemWeight_lighter (item : Item) : (item.items.map itemWeight).sum < itemWeight item := by
  cases item with
  | mk id attributes items =>
    rw [itemWeight, itemsWeight_eq]
    exact Nat.lt_one_add_iff.2 (Nat.le_refl _)

lemma numberedItems_inLevelOrder (tile : SavedTile) :
  LevelOrder.InLevelOrder Item.items (holdsItems types) 0
    [(savedItems types tile, 0)] (numberedItems types tile) := by
  refine LevelOrder.rows_inLevelOrder itemWeight_lighter (Nat.le_refl _) ?_ (nodup_singleton 0)
  intro entry mem
  rw [mem_singleton.1 mem]

end Numbers

end Store

end OTServ.MapStore
