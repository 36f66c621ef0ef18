import OTServ.MapStore.Items

/-!
# Tiles in the map store

`saveTile` writes the items of a house tile which pass a filter, from the last
thing of the tile to the first.  `loadMapBinary` reads as many items as were
written and loads each onto the tile as the map file has it.  A moveable item is
made anew and put on the tile by `__internalAddThing`.  For any other one the
tile is searched, from the first thing on, for an item of its number, or for a
door or a bed if it is one; the item found is handed the attributes.
-/

namespace OTServ.MapStore

open Items
open Library.ByteStreams

namespace Loaded

def id : Loaded → UInt16
  | mk id _ _ _ _ => id

def itemClass : Loaded → ItemClass
  | mk _ itemClass _ _ _ => itemClass

def serializationCount : Loaded → Nat
  | mk _ _ count _ _ => count

def readings : Loaded → List (Nat × List Attr)
  | mk _ _ _ readings _ => readings

def items : Loaded → List Loaded
  | mk _ _ _ _ items => items

end Loaded

structure Tile where
  ground : Option Loaded
  topItems : List Loaded
  downItems : List Loaded

/-- The things of a tile in the order of `Tile::__getThing`. -/
def Tile.things (tile : Tile) : List Loaded :=
  tile.ground.toList ++ (tile.topItems ++ tile.downItems)

section Store

variable (types : UInt16 → ItemType)

/-- The duration after the attributes were handed to a new item. -/
def durationOf (it : ItemType) (attrs : List Attr) : Int32 :=
  attrs.foldl
    (fun duration attr =>
      match attr with
      | .duration n => if n.toInt32 < 0 then 0 else n.toInt32
      | _ => duration)
    (it.decayTime * 1000).toInt32

/--
`Game::startDecay` lets an item decay at once: it can decay and has no time left.
An action or a unique id keeps it from decaying.
-/
def decaysAtOnce (it : ItemType) (attrs : List Attr) : Bool :=
  it.decayTo ≠ -1 &&
    attrs.all (fun attr => attr.type ≠ .actionId && attr.type ≠ .uniqueId) &&
      durationOf it attrs ≤ 0

mutual

/-- `Item::__startDecaying` and `Container::__startDecaying` -/
def Loaded.startDecaying : Loaded → Bool
  | .mk id itemClass _ readings items =>
    if itemClass.isContainer then startDecayingAll items
    else decaysAtOnce (types id) (readings.flatMap (·.2))

def startDecayingAll : List Loaded → Bool
  | [] => false
  | item :: items => item.startDecaying || startDecayingAll items

end

/-! ## Loading onto a tile -/

/-- An item among the top items, in front of the first one of a higher order. -/
def insertTop (item : Loaded) : List Loaded → List Loaded
  | [] => [item]
  | top :: rest =>
    if (types item.id).alwaysOnTopOrder < (types top.id).alwaysOnTopOrder then
      item :: top :: rest
    else top :: insertTop item rest

/-- `Tile::__internalAddThing`; a second ground is not kept. -/
def Tile.internalAddThing (tile : Tile) (item : Loaded) : Tile :=
  if (types item.id).group = .ground then
    { tile with ground := tile.ground.or (some item) }
  else if (types item.id).alwaysOnTop then
    { tile with topItems := insertTop types item tile.topItems }
  else { tile with downItems := item :: tile.downItems }

/-- The item of the map file which is taken for a stored one of the number. -/
def isFor (id : UInt16) (findItem : Loaded) : Bool :=
  findItem.id = id ||
    ((types id).type = .door && findItem.itemClass = .door) ||
      ((types id).type = .bed && findItem.itemClass = .bed)

/-- The first item of which the property holds becomes another one. -/
def replaceFirst (holds : Loaded → Bool) (item : Loaded) : List Loaded → List Loaded
  | [] => []
  | first :: rest =>
    if holds first then item :: rest
    else first :: replaceFirst holds item rest

def Tile.replaceFirst (holds : Loaded → Bool) (item : Loaded) (tile : Tile) : Tile :=
  if tile.ground.any holds then { tile with ground := some item }
  else if tile.topItems.any holds then
    { tile with topItems := MapStore.replaceFirst holds item tile.topItems }
  else
    { tile with downItems := MapStore.replaceFirst holds item tile.downItems }

/-- The first thing of which the property holds is taken away. -/
def Tile.removeFirst (holds : Loaded → Bool) (tile : Tile) : Tile :=
  if tile.ground.any holds then { tile with ground := none }
  else if tile.topItems.any holds then
    { tile with topItems := tile.topItems.eraseP holds }
  else { tile with downItems := tile.downItems.eraseP holds }

/--
The tile and the stream.  `gone` says that an item which was read is no longer
the item it was: it decayed at once, or another one was made in its place.
-/
structure LoadState where
  tile : Tile
  rest : Stream
  gone : Bool

structure Found where
  ok : Bool
  item : Loaded
  rest : Stream
  gone : Bool

/-- An item which was found is handed its attributes and its items. -/
def loadFound (number : Nat) (item : Loaded) (propStream : Stream) : Found :=
  let read := unserializeAttr item.itemClass propStream
  let readings := item.readings ++ [(number, read.attrs)]
  let count := (read.serializationCount.map UInt32.toNat).getD item.serializationCount
  if read.ok && item.itemClass.isContainer then
    let loading := loadContainer (loadInside types number) count [] read.rest
    ⟨loading.ok,
      .mk item.id item.itemClass loading.left readings (loading.items ++ item.items),
      loading.rest, startDecayingAll types loading.items⟩
  else
    ⟨read.ok, .mk item.id item.itemClass count readings item.items, read.rest, false⟩

/-- A trash holder of the tile takes what is added, if no teleport does. -/
def Tile.trashes (tile : Tile) : Bool :=
  !tile.topItems.any (·.itemClass = .teleport) && tile.things.any (·.itemClass = .trashHolder)

/--
`Game::transformItem` for an item that was found first and now has this form.  It
is a door or a bed like the new one, and its number is changed in place.  The
tile is then told that it was added; a teleport does not move it and a mailbox
does not send it, but a trash holder removes it.  Where the two numbers differ in
`alwaysOnTop`, the item is removed and a new one added.  A bed of a house cannot
be removed.
-/
def Tile.transformItem (holds : Loaded → Bool) (item : Loaded) (newId : UInt16) (tile : Tile) :
  Tile × Bool :=
  if item.id = newId then (tile.replaceFirst holds item, false)
  else if (types item.id).alwaysOnTop = (types newId).alwaysOnTop then
    let changed := tile.replaceFirst holds
      (.mk newId item.itemClass item.serializationCount item.readings item.items)
    if changed.trashes && item.itemClass ≠ .bed then
      (tile.removeFirst holds, true)
    else (changed, false)
  else if item.itemClass = .bed then (tile.replaceFirst holds item, false)
  else
    ((tile.removeFirst holds).internalAddThing types
      (.mk newId (classOf types newId) 0 [] []), true)

/-- An item that is no longer on the map: its bytes are read for nothing. -/
def loadDummy (number : Nat) (id : UInt16) (propStream : Stream) : Stream :=
  if (types id).known then
    let read := unserializeAttr (classOf types id) propStream
    if (classOf types id).isContainer then
      let count := (read.serializationCount.getD 0).toNat
      (loadContainer (loadInside types number) count [] read.rest).rest
    else read.rest
  else propStream

/-- `IOMapSerialize::loadItem` for a tile -/
def loadItem (number : Nat) (state : LoadState) : LoadState :=
  let id := (getId state.rest).1
  let propStream := (getId state.rest).2
  if (types id).moveable then
    let loading := loadNew types number (loadInside types number) id propStream
    match loading.item with
    | some item =>
      ⟨state.tile.internalAddThing types item, loading.rest,
        state.gone || item.startDecaying types⟩
    | none => { state with rest := loading.rest }
  else
    match state.tile.things.find? (isFor types id) with
    | some item =>
      let found := loadFound types number item propStream
      if found.ok then
        let changed := state.tile.transformItem types (isFor types id) found.item id
        ⟨changed.1, found.rest, state.gone || found.gone || changed.2⟩
      else
        ⟨state.tile.replaceFirst (isFor types id) found.item, found.rest, state.gone || found.gone⟩
    | none => { state with rest := loadDummy types number id propStream }

/--
The state after so many rounds of `while (item_count--)`.  The items are numbered
by what is left of the `item_count`.
-/
def afterRounds (itemCount : Nat) (state : LoadState) : Nat → LoadState
  | 0 => state
  | rounds + 1 =>
    loadItem types (itemCount - (rounds + 1)) (afterRounds itemCount state rounds)

/--
One tile of `IOMapSerialize::loadMapBinary`; where there is none, the rest of the
bytes is given up.
-/
def loadTile (getTile : UInt16 → UInt16 → UInt8 → Option Tile)
  (propStream : Stream) : Option LoadState :=
  let x := getId propStream
  let y := getId x.2
  let z := getUInt8 y.2
  match getTile x.1 y.1 (z.1.getD 0) with
  | some tile =>
    let itemCount := getUInt32 z.2
    let count := (itemCount.1.getD 0).toNat
    some (afterRounds types count ⟨tile, itemCount.2, false⟩ count)
  | none => none

/-- An item on a tile, with the number it has in the map file if it is there. -/
structure Placed where
  item : Item
  mapId : UInt16

structure SavedTile where
  x : UInt16
  y : UInt16
  z : UInt8
  ground : Option Placed
  topItems : List Placed
  downItems : List Placed

def SavedTile.things (tile : SavedTile) : List Placed :=
  tile.ground.toList ++ (tile.topItems ++ tile.downItems)

def isSaved (thing : Placed) : Bool :=
  let it := types thing.item.id
  let itemClass := classOf types thing.item.id
  it.moveable || itemClass = .door ||
    (itemClass.isContainer && !thing.item.items.isEmpty) || it.canWriteText || itemClass = .bed

/-- The first so many of the saved items, written from the last to the first. -/
def saveItems (tile : SavedTile) (count : Nat) : Stream :=
  ((tile.things.filter (isSaved types)).take count).reverse.flatMap
    fun thing => saveItem types thing.item

/-- `items.size()` -/
def SavedTile.itemCount (tile : SavedTile) : Nat :=
  (tile.things.filter (isSaved types)).length

/-- `IOMapSerialize::saveTile` -/
def saveTile (tile : SavedTile) : Stream :=
  if tile.itemCount types = 0 then []
  else
    addUInt16 tile.x ++ (addUInt16 tile.y ++ (addUInt8 tile.z ++
      (addUInt32 (UInt32.ofNat (tile.itemCount types)) ++
        saveItems types tile (tile.itemCount types))))

end Store

end OTServ.MapStore
