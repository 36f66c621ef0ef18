import OTServ.Movement.Events

/-!
# The cache of step events

`MoveEvents` remembers the tile on which it last looked for events together with
the items there that have some.  The memory is filled by `onCreatureMove` and
`onItemMove` when they come to another tile, and patched by `onAddTileItem` and
`onRemoveTileItem`, which the tiles call when items come and go.

An event that fires runs a script, which may do anything; what the scripts do
is an argument.  The loop over the cache runs to its current size, which a
script may change, so it takes fuel.
-/

namespace OTServ.Movement

open Map
open Function

inductive Thing where
  | item (number : Nat)
  | creature (id : Nat)
deriving DecidableEq

/-- An event that fired for a thing that moved, with the item it belongs to. -/
structure Fired where
  event : Nat
  mover : Thing
  tileItem : Option Nat
deriving DecidableEq

/--
The things on each tile in the order of their indices, the ids of the items,
the cache, and the events fired so far.
-/
structure State where
  things : Position → List Thing
  key : Nat → ItemKey
  lastCacheTile : Option Position
  lastCacheItemVector : List (Option Nat)
  fired : List Fired

abbrev Scripts : Type :=
  Fired → State → State

def quiet : Scripts :=
  fun _ state => state

variable (registry : Registry) (scripts : Scripts)

def State.fire (state : State) (event : Fired) : State :=
  scripts event { state with fired := state.fired ++ [event] }

def State.fireFound (state : State) (event : Option Nat) (mover : Thing) (tileItem : Option Nat) :
  State :=
  match event with
  | none => state
  | some event => state.fire scripts ⟨event, mover, tileItem⟩

def State.remember (state : State) (item : Nat) : State :=
  { state with lastCacheItemVector := state.lastCacheItemVector ++ [some item] }

/-! ## Looking for events -/

/-- The loop over the cache, which leaves the moved item itself out. -/
def fireCached (eventType : MoveEventType) (mover : Thing) : Nat → Nat → State → Option State
  | 0, _, _ => none
  | fuel + 1, index, state =>
    match state.lastCacheItemVector[index]? with
    | none => some state
    | some none => fireCached eventType mover fuel (index + 1) state
    | some (some tileItem) =>
      if mover = .item tileItem then
        fireCached eventType mover fuel (index + 1) state
      else
        fireCached eventType mover fuel (index + 1)
          (state.fireFound scripts
            (registry.getEvent (state.key tileItem) eventType) mover
            (some tileItem))

/-- The loop over the things of a tile, which fills the cache as it goes. -/
def scanTile (tile : Position) (eventType : MoveEventType) (mover : Thing) :
  Nat → Nat → State → State
  | 0, _, state => state
  | left + 1, index, state =>
    match (state.things tile)[index]? with
    | some (.item tileItem) =>
      if mover = .item tileItem then
        scanTile tile eventType mover left (index + 1) state
      else
        match registry.getEvent (state.key tileItem) eventType with
        | some event =>
          scanTile tile eventType mover left (index + 1)
            ((state.remember tileItem).fire scripts ⟨event, mover, some tileItem⟩)
        | none =>
          if registry.hasTileEvent (state.key tileItem) then
            scanTile tile eventType mover left (index + 1) (state.remember tileItem)
          else scanTile tile eventType mover left (index + 1) state
    | _ => scanTile tile eventType mover left (index + 1) state

/-- Fires the events of the items on a tile, by the cache or by a scan. -/
def fireTileItems (fuel : Nat) (state : State) (tile : Position) (eventType : MoveEventType)
  (mover : Thing) : Option State :=
  if state.lastCacheTile = some tile then
    fireCached registry scripts eventType mover fuel 0 state
  else
    some
      (scanTile registry scripts tile eventType mover
        (state.things tile).length 0
        { state with lastCacheTile := some tile, lastCacheItemVector := [] })

/-- `MoveEvents::onCreatureMove` -/
def onCreatureMove (fuel : Nat) (state : State) (creature : Nat) (tile : Position) (isIn : Bool) :
  Option State :=
  let eventType : MoveEventType := if isIn then .stepIn else .stepOut
  fireTileItems registry scripts fuel
    (state.fireFound scripts (registry.positionMap tile eventType) (.creature creature) none)
    tile eventType (.creature creature)

/-- `MoveEvents::onItemMove` -/
def onItemMove (fuel : Nat) (state : State) (item : Nat) (tile : Position) (isAdd : Bool) :
  Option State :=
  let eventType1 : MoveEventType := if isAdd then .addItem else .removeItem
  let eventType2 : MoveEventType := if isAdd then .addItemItemTile else .removeItemItemTile
  let state := state.fireFound scripts (registry.positionMap tile eventType1) (.item item) none
  let state :=
    state.fireFound scripts (registry.getEvent (state.key item) eventType1) (.item item) none
  fireTileItems registry scripts fuel state tile eventType2 (.item item)

/-- `MoveEvents::onAddTileItem` -/
def onAddTileItem (state : State) (tile : Position) (item : Nat) : State :=
  if state.lastCacheTile = some tile then
    if some item ∈ state.lastCacheItemVector then state
    else if registry.hasTileEvent (state.key item) then state.remember item
    else state
  else state

def forget (item : Nat) : List (Option Nat) → List (Option Nat)
  | [] => []
  | entry :: rest =>
    if entry = some item then none :: rest else entry :: forget item rest

/-- `MoveEvents::onRemoveTileItem` -/
def onRemoveTileItem (state : State) (tile : Position) (item : Nat) : State :=
  if state.lastCacheTile = some tile then
    { state with lastCacheItemVector := forget item state.lastCacheItemVector }
  else state

/-- The part of `Tile::postAddNotification` for an item. -/
def postAddItem (fuel : Nat) (state : State) (tile : Position) (item : Nat) : Option State :=
  onItemMove registry scripts fuel (onAddTileItem registry state tile item) item tile true

/-- The part of `Tile::postRemoveNotification` for an item. -/
def postRemoveItem (fuel : Nat) (state : State) (tile : Position) (item : Nat) : Option State :=
  onItemMove registry scripts fuel (onRemoveTileItem state tile item) item tile false

def State.place (state : State) (tile : Position) (index : Nat) (thing : Thing) : State :=
  { state with
    things :=
      update state.things tile
        ((state.things tile).take index ++ thing :: (state.things tile).drop index) }

def State.take (state : State) (tile : Position) (thing : Thing) : State :=
  { state with
    things := update state.things tile ((state.things tile).erase thing) }

/-- Takes off the item which a new ground, splash or field replaces. -/
def State.displace (state : State) (tile : Position) : Option Nat → State
  | none => state
  | some old => state.take tile (.item old)

def State.relabel (state : State) (item : Nat) (key : ItemKey) : State :=
  { state with key := update state.key item key }

def State.replace (state : State) (tile : Position) (old new : Nat) : State :=
  { state with
    things :=
      update state.things tile
        ((state.things tile).map fun thing => if thing = .item old then .item new else thing) }

/--
What happens on tiles.  `displaced` is the ground, splash or magic field which
`Tile::__addThing` removes in favour of a new one.  Of a stack, a part can be
removed (`shrink`) or moved as a new item, and a stack can take in other items
(`grow`).  `inside` is the removal of an item from a container on the tile.
-/
inductive Operation where
  | appear (creature : Nat) (tile : Position) (index : Nat)
  | vanish (creature : Nat) (tile : Position)
  | walk (creature : Nat) (origin target : Position) (index : Nat)
  | add (tile : Position) (index item : Nat) (displaced : Option Nat)
  | remove (tile : Position) (item : Nat)
  | shrink (tile : Position) (item : Nat)
  | grow (tile : Position) (item : Nat)
  | inside (tile : Position) (item : Nat)
  | move (origin target : Position) (item : Nat) (complete : Bool)
      (index moved : Nat) (displaced : Option Nat)
  | transform (tile : Position) (item : Nat) (key : ItemKey)
  | replace (tile : Position) (old new : Nat)

/-- The state with an item moved from tile to tile, before anybody is told. -/
def State.shift (state : State) (origin target : Position) (item : Nat) (complete : Bool)
  (index moved : Nat) (displaced : Option Nat) : State :=
  let left := if complete then state.take origin (.item item) else state
  (left.displace target displaced).place target index (.item moved)

/-- The changes and notifications of an operation in the order of the source. -/
def perform (fuel : Nat) (state : State) : Operation → Option State
  | .appear creature tile index =>
    onCreatureMove registry scripts fuel
      (state.place tile index (.creature creature)) creature tile true
  | .vanish creature tile =>
    onCreatureMove registry scripts fuel (state.take tile (.creature creature)) creature tile false
  | .walk creature origin target index =>
    (onCreatureMove registry scripts fuel
      ((state.take origin (.creature creature)).place target index (.creature creature))
      creature origin false).bind fun left =>
        onCreatureMove registry scripts fuel left creature target true
  | .add tile index item displaced =>
    postAddItem registry scripts fuel
      ((state.displace tile displaced).place tile index (.item item))
      tile item
  | .remove tile item =>
    postRemoveItem registry scripts fuel (state.take tile (.item item)) tile item
  | .shrink tile item => postRemoveItem registry scripts fuel state tile item
  | .grow tile item => postAddItem registry scripts fuel state tile item
  | .inside tile item => postRemoveItem registry scripts fuel state tile item
  | .move origin target item complete index moved displaced =>
    (postRemoveItem registry scripts fuel
      (state.shift origin target item complete index moved displaced)
      origin item).bind fun told => postAddItem registry scripts fuel told target moved
  | .transform tile item key =>
    (postRemoveItem registry scripts fuel state tile item).bind fun told =>
      postAddItem registry scripts fuel (told.relabel item key) tile item
  | .replace tile old new =>
    (postAddItem registry scripts fuel (state.replace tile old new)
      tile new).bind fun told => postRemoveItem registry scripts fuel told tile old

end OTServ.Movement
