import OTServ.Map.Position

/-!
# Spectators

The map keeps the creatures on each tile, and once more in the leaves of its
quadtree, which `Map::getSpectatorsInternal` scans for the creatures in a range.
`Map::getSpectators` remembers what a scan with the usual range has found at a
position until a creature comes to a tile or leaves one.
-/

namespace OTServ.Spectators

open OTServ.Map
open Function

/-- A leaf of the quadtree, by its place among the squares of `FLOOR_SIZE`. -/
structure Leaf where
  x : Nat
  y : Nat
deriving DecidableEq

/-- `Tile::qt_node` -/
def qtNode (position : Position) : Leaf where
  x := position.x.toNat / 8
  y := position.y.toNat / 8

/--
The map as far as spectators are concerned: the creatures of each tile, the
creatures of each leaf (none where there is no leaf), the position of each
creature that has a parent, and the cache.
-/
structure Map where
  creatures : Position → Option (List Nat)
  creatureList : Leaf → List Nat
  position : Nat → Option Position
  spectatorCache : Position → Option (List Nat)

namespace Map

/-- `Map::clearSpectatorCache` -/
def clearSpectatorCache (map : Map) : Map :=
  { map with spectatorCache := fun _ => none }

/-- `QTreeLeafNode::addCreature` -/
def nodeAddCreature (map : Map) (node : Leaf) (creature : Nat) : Map :=
  { map with
    creatureList := update map.creatureList node (map.creatureList node ++ [creature]) }

/--
A creature list without the creature: it is swapped with the last one, which is
popped.  The assertion fails if it is not there.
-/
def swapRemove (creature : Nat) (list : List Nat) : Option (List Nat) :=
  match list.getLast? with
  | none => none
  | some back =>
    if creature ∈ list then
      some (list.set (list.idxOf creature) back).dropLast
    else none

/-- `QTreeLeafNode::removeCreature` -/
def nodeRemoveCreature (map : Map) (node : Leaf) (creature : Nat) : Option Map :=
  (swapRemove creature (map.creatureList node)).map fun list =>
    { map with creatureList := update map.creatureList node list }

/-- `Tile::__addThing` and `Tile::__internalAddThing` for a creature. -/
def tileAddThing (map : Map) (position : Position) (creature : Nat) : Option Map :=
  (map.creatures position).map fun creatures =>
    { map.clearSpectatorCache with
      position := update map.position creature (some position)
      creatures := update map.creatures position (some (creature :: creatures)) }

/-- `Tile::__removeThing` for a creature. -/
def tileRemoveThing (map : Map) (position : Position) (creature : Nat) : Option Map :=
  (map.creatures position).map fun creatures =>
    if creature ∈ creatures then
      { map.clearSpectatorCache with
        creatures := update map.creatures position (some (creatures.erase creature)) }
    else map

/--
The end of `Map::placeCreature`.  On which tile the creature is placed depends
on chance and on what the tiles around answer, so it is given.  A creature that
has a parent is not placed by `Game::internalPlaceCreature`.
-/
def placeCreature (map : Map) (creature : Nat) (position : Position) : Option Map :=
  if (map.position creature).isSome then none
  else
    (map.tileAddThing position creature).map fun placed =>
      placed.nodeAddCreature (qtNode position) creature

/-- `Map::removeCreature` -/
def removeCreature (map : Map) (creature : Nat) : Option Map :=
  match map.position creature with
  | none => some map
  | some position =>
    (map.nodeRemoveCreature (qtNode position) creature).bind fun left =>
      left.tileRemoveThing position creature

structure Range where
  minX : Int
  maxX : Int
  minY : Int
  maxY : Int
  minZ : Int
  maxZ : Int
deriving DecidableEq

/-- A coordinate of the map that is next to the given number. -/
def clamp (value : Int) : Nat := (min 0xFFFF (max 0 value)).toNat

/-- The leaves in one direction from the first to the last coordinate. -/
def leavesBetween (first last : Nat) : List Nat :=
  List.range' (first / 8) (last / 8 + 1 - first / 8)

def inRange (centerPos cpos : Position) (range : Range) : Bool :=
  let offsetZ : Int := centerPos.z.toNat - cpos.z.toNat
  let cx : Int := cpos.x.toNat
  let cy : Int := cpos.y.toNat
  let cz : Int := cpos.z.toNat
  !(cz < range.minZ || range.maxZ < cz) &&
    !(cy < centerPos.y.toNat + range.minY + offsetZ ||
        centerPos.y.toNat + range.maxY + offsetZ < cy) &&
      !(cx < centerPos.x.toNat + range.minX + offsetZ ||
          centerPos.x.toNat + range.maxX + offsetZ < cx)

def spots (map : Map) (centerPos : Position) (range : Range) (creature : Nat) : Bool :=
  match map.position creature with
  | none => false
  | some cpos => inRange centerPos cpos range

def spot (map : Map) (centerPos : Position) (checkforduplicate : Bool) (range : Range)
  (list : List Nat) (creature : Nat) : List Nat :=
  if map.spots centerPos range creature then
    if checkforduplicate && list.contains creature then list
    else list ++ [creature]
  else list

def columns (centerPos : Position) (range : Range) : List Nat :=
  leavesBetween
    (clamp (centerPos.x.toNat + range.minX + (centerPos.z.toNat - range.maxZ)))
    (clamp (centerPos.x.toNat + range.maxX + (centerPos.z.toNat - range.minZ)))

def rows (centerPos : Position) (range : Range) : List Nat :=
  leavesBetween
    (clamp (centerPos.y.toNat + range.minY + (centerPos.z.toNat - range.maxZ)))
    (clamp (centerPos.y.toNat + range.maxY + (centerPos.z.toNat - range.minZ)))

/-- `Map::getSpectatorsInternal` -/
def getSpectatorsInternal (map : Map) (list : List Nat) (centerPos : Position)
  (checkforduplicate : Bool) (range : Range) : List Nat :=
  (rows centerPos range).foldl
    (fun list ny =>
      (columns centerPos range).foldl
        (fun list nx =>
          (map.creatureList ⟨nx, ny⟩).foldl (map.spot centerPos checkforduplicate range) list)
        list)
    list

/-! ## Queries -/

/-- The floors that are seen from a position, with `multifloor` or without. -/
def floors (centerPos : Position) (multifloor : Bool) : Int × Int :=
  let z : Int := centerPos.z.toNat
  if multifloor then
    if 7 < z then (max (z - 2) 0, min (z + 2) 15)
    else if z = 6 then (0, 8)
    else if z = 7 then (0, 9)
    else (0, 7)
  else (z, z)

/-- `maxViewportX` and `maxViewportY` -/
def maxViewport : Int := 11

/-- The range of a query, where 0 stands for that of the viewport. -/
def queryRange (centerPos : Position) (multifloor : Bool)
  (minRangeX maxRangeX minRangeY maxRangeY : Int) : Range where
  minX := if minRangeX = 0 then -maxViewport else -minRangeX
  maxX := if maxRangeX = 0 then maxViewport else maxRangeX
  minY := if minRangeY = 0 then -maxViewport else -minRangeY
  maxY := if maxRangeY = 0 then maxViewport else maxRangeY
  minZ := (floors centerPos multifloor).1
  maxZ := (floors centerPos multifloor).2

def cachedRange (centerPos : Position) : Range :=
  queryRange centerPos true 0 0 0 0

/--
The arguments of the longer `getSpectators`.  All its callers give an empty list
or ask for no duplicates.
-/
structure Query where
  list : List Nat
  centerPos : Position
  checkforduplicate : Bool
  multifloor : Bool
  minRangeX : Int
  maxRangeX : Int
  minRangeY : Int
  maxRangeY : Int
  fresh : checkforduplicate = false → list = []

def Query.range (query : Query) : Range :=
  queryRange query.centerPos query.multifloor query.minRangeX query.maxRangeX
    query.minRangeY query.maxRangeY

def Query.cacheable (query : Query) : Bool :=
  query.minRangeX = 0 && query.maxRangeX = 0 && query.minRangeY = 0 &&
    query.maxRangeY = 0 && query.multifloor && !query.checkforduplicate

def remember (map : Map) (centerPos : Position) (list : List Nat) : Map :=
  { map with
    spectatorCache := update map.spectatorCache centerPos (some list) }

/-- The longer `Map::getSpectators`. -/
def getSpectators (map : Map) (query : Query) : List Nat × Map :=
  let found := map.getSpectatorsInternal query.list query.centerPos true query.range
  if query.cacheable then
    match map.spectatorCache query.centerPos with
    | some list => (list, map)
    | none => (found, map.remember query.centerPos found)
  else (found, map)

/-- The shorter `Map::getSpectators`. -/
def getCachedSpectators (map : Map) (centerPos : Position) : List Nat × Map :=
  match map.spectatorCache centerPos with
  | some list => (list, map)
  | none =>
    let list := map.getSpectatorsInternal [] centerPos false (cachedRange centerPos)
    (list, map.remember centerPos list)

/-- A query over several floors for the viewport, into an empty list. -/
def Query.around (centerPos : Position) : Query where
  list := []
  centerPos := centerPos
  checkforduplicate := false
  multifloor := true
  minRangeX := 0
  maxRangeX := 0
  minRangeY := 0
  maxRangeY := 0
  fresh _ := rfl

def Query.further (list : List Nat) (centerPos : Position) : Query where
  list := list
  centerPos := centerPos
  checkforduplicate := true
  multifloor := true
  minRangeX := 0
  maxRangeX := 0
  minRangeY := 0
  maxRangeY := 0
  fresh impossible := by cases impossible

/-- `Tile::moveCreature`, whether the creature is on that tile or not. -/
def moveCreature (map : Map) (tile : Position) (creature : Nat) (toTile : Position) : Option Map :=
  (map.tileRemoveThing tile creature).bind fun removed =>
    let switched :=
      -- switch the node ownership
      if qtNode tile ≠ qtNode toTile then
        (removed.nodeRemoveCreature (qtNode tile) creature).map fun left =>
          left.nodeAddCreature (qtNode toTile) creature
      else some removed
    switched.bind fun switched =>
      (switched.tileAddThing toTile creature).map fun added =>
        let first := added.getSpectators (Query.around tile)
        (first.2.getSpectators (Query.further first.1 toTile)).2

end Map

end OTServ.Spectators
