import OTServ.Library.DigitTrees
import OTServ.Map.Spectators
import Mathlib.Data.Nat.Bitwise

/-!
# The quadtree of the map

The tiles of a map lie in floors of eight by eight, and the floors of one place in
a leaf of a quadtree, whose branches go by the bits of the coordinates.  A leaf
points to the leaves to the east and to the south of it, and lists the creatures
on its tiles; `Map::getSpectatorsInternal` walks along these pointers.

Leaves are named by the order in which they were made, tiles by their positions.
-/

namespace OTServ.Spectators

open Library.DigitTrees
open OTServ.Map
open Function

/-- `QTreeNode`; the leaves are kept apart. -/
abbrev QTreeNode := Tree (Fin 4) Nat

/-- `FLOOR_BITS` -/
def floorBits : Nat := 3

def childIndex (x y : UInt32) : Fin 4 :=
  Fin.ofNat 4 (((x &&& 0x8000) >>> 15) ||| ((y &&& 0x8000) >>> 14)).toNat

/-- `QTreeNode::getLeaf` -/
def getLeaf : QTreeNode → UInt32 → UInt32 → Option Nat
  | .missing, _, _ => none
  | .leaf id, _, _ => some id
  | .node child, x, y => getLeaf (child (childIndex x y)) (x * 2) (y * 2)

/--
`QTreeNode::createLeaf`: the tree, the leaf, and whether it is a new one.  It is
called on nodes and leaves only, and never gets below the level of the leaves.
-/
def createLeaf (fresh : Nat) : Nat → QTreeNode → UInt32 → UInt32 → QTreeNode × Nat × Bool
  | _, .leaf id, _, _ => (.leaf id, id, false)
  | 0, tree, _, _ => (tree, fresh, false)
  | _ + 1, .missing, _, _ => (.missing, fresh, false)
  | level + 1, .node child, x, y =>
    let index := childIndex x y
    let made : QTreeNode × Bool :=
      match child index with
      | .missing =>
        if level + 1 ≠ floorBits then (.node fun _ => .missing, false)
        else (.leaf fresh, true)
      | existing => (existing, false)
    let below := createLeaf fresh level made.1 (x * 2) (y * 2)
    (.node (update child index below.1), below.2.1, made.2 || below.2.2)

/-! ## The map -/

/-- `Floor`: which tiles there are. -/
abbrev Floor := Nat → Nat → Option Position

/-- `QTreeLeafNode` -/
structure QTreeLeafNode where
  leafS : Option Nat
  leafE : Option Nat
  array : Nat → Option Floor
  creatureList : List Nat

def QTreeLeafNode.new : QTreeLeafNode :=
  ⟨none, none, fun _ => none, []⟩

structure Tile where
  qtNode : Nat
  creatures : List Nat

/--
The map with its leaves and tiles.  `leaves` is the number of leaves made so far;
`position` is that of the tile which is the parent of a creature.
-/
structure QuadMap where
  root : QTreeNode
  leaves : Nat
  node : Nat → QTreeLeafNode
  tile : Position → Tile
  position : Nat → Option Position
  spectatorCache : Position → Option (List Nat)

namespace QuadMap

/-- `Map::getLeaf` -/
def getLeaf (map : QuadMap) (x y : UInt16) : Option Nat :=
  Spectators.getLeaf map.root x.toUInt32 y.toUInt32

/-- `Map::getTile` -/
def getTile (map : QuadMap) (position : Position) : Option Position :=
  if position.z.toNat < 16 then
    match Spectators.getLeaf map.root position.x.toUInt32 position.y.toUInt32 with
    | some leaf =>
      match (map.node leaf).array position.z.toNat with
      | some floor => floor (position.x &&& 7).toNat (position.y &&& 7).toNat
      | none => none
    | none => none
  else
    none

section Links

variable (map : QuadMap)

/-- One leaf becomes the southern neighbour of another, if there are both. -/
def setLeafS (leaf south : Option Nat) : QuadMap :=
  match leaf, south with
  | some leaf, some south =>
    { map with
      node := update map.node leaf { map.node leaf with leafS := some south } }
  | _, _ => map

/-- One leaf becomes the eastern neighbour of another, if there are both. -/
def setLeafE (leaf east : Option Nat) : QuadMap :=
  match leaf, east with
  | some leaf, some east =>
    { map with
      node := update map.node leaf { map.node leaf with leafE := some east } }
  | _, _ => map

/-- The part of `Map::setTile` which links a new leaf with those around it. -/
def linkLeaf (x y : UInt32) (leaf : Nat) : QuadMap :=
  let northLeaf := Spectators.getLeaf map.root x (y - 8)
  let westLeaf := Spectators.getLeaf map.root (x - 8) y
  let southLeaf := Spectators.getLeaf map.root x (y + 8)
  let eastLeaf := Spectators.getLeaf map.root (x + 8) y
  (((map.setLeafS northLeaf (some leaf)).setLeafE westLeaf (some leaf)).setLeafS
    (some leaf) southLeaf).setLeafE (some leaf) eastLeaf

def putTile (leaf : Nat) (position : Position) : QuadMap :=
  let floor := ((map.node leaf).array position.z.toNat).getD fun _ _ => none
  let offsetX := (position.x &&& 7).toNat
  let offsetY := (position.y &&& 7).toNat
  let keep (floor : Floor) : QTreeLeafNode :=
    { map.node leaf with
      array := update (map.node leaf).array position.z.toNat (some floor) }
  match floor offsetX offsetY with
  | none =>
    { map with
      node := update map.node leaf
        (keep fun x y => if x = offsetX ∧ y = offsetY then some position else floor x y)
      tile := update map.tile position ⟨leaf, []⟩ }
  | some _ => { map with node := update map.node leaf (keep floor) }

/-- `Map::setTile` for a new tile. -/
def setTile (position : Position) : QuadMap :=
  if 16 ≤ position.z.toNat then
    map
  else
    let x := position.x.toUInt32
    let y := position.y.toUInt32
    let created := createLeaf map.leaves 15 map.root x y
    let leaf := created.2.1
    let map :=
      if created.2.2 then
        { map with
          root := created.1
          leaves := map.leaves + 1
          node := update map.node leaf .new }.linkLeaf x y leaf
      else
        { map with root := created.1 }
    map.putTile leaf position

end Links

section Creatures

variable (map : QuadMap)

def setCreatureList (leaf : Nat) (list : List Nat) : QuadMap :=
  { map with
    node := update map.node leaf { map.node leaf with creatureList := list } }

/-- `QTreeLeafNode::addCreature` -/
def nodeAddCreature (leaf creature : Nat) : QuadMap :=
  map.setCreatureList leaf ((map.node leaf).creatureList ++ [creature])

/-- `QTreeLeafNode::removeCreature`; the assertion fails if it is not there. -/
def nodeRemoveCreature (leaf creature : Nat) : Option QuadMap :=
  (Map.swapRemove creature (map.node leaf).creatureList).map (map.setCreatureList leaf)

/-- The creatures of a tile become others, and the cache is cleared. -/
def setCreatures (tile : Position) (list : List Nat) : QuadMap :=
  { map with
    tile := update map.tile tile { map.tile tile with creatures := list }
    spectatorCache := fun _ => none }

/-- `Tile::__addThing` and `Tile::__internalAddThing` for a creature. -/
def tileAddThing (tile : Position) (creature : Nat) : QuadMap :=
  { map.setCreatures tile (creature :: (map.tile tile).creatures) with
    position := update map.position creature (some tile) }

/-- `Tile::__removeThing` for a creature. -/
def tileRemoveThing (tile : Position) (creature : Nat) : QuadMap :=
  if creature ∈ (map.tile tile).creatures then
    map.setCreatures tile ((map.tile tile).creatures.erase creature)
  else
    map

/--
The end of `Map::placeCreature`.  The tile is one which the map has; which one
depends on chance and on what the tiles around answer, so it is given.
-/
def placeCreature (creature : Nat) (position : Position) : Option QuadMap :=
  if (map.position creature).isSome then
    none
  else
    (map.getTile position).map fun tile =>
      (map.tileAddThing tile creature).nodeAddCreature (map.tile tile).qtNode creature

/-- `Map::removeCreature` -/
def removeCreature (creature : Nat) : Option QuadMap :=
  match map.position creature with
  | none => some map
  | some tile =>
    (map.nodeRemoveCreature (map.tile tile).qtNode creature).map fun left =>
      left.tileRemoveThing tile creature

end Creatures

/-! ## Scanning -/

section Scanning

variable (map : QuadMap)

def spots (centerPos : Position) (range : Map.Range) (creature : Nat) : Bool :=
  match map.position creature with
  | none => false
  | some cpos => Map.inRange centerPos cpos range

def spot (centerPos : Position) (checkforduplicate : Bool) (range : Map.Range) (list : List Nat)
  (creature : Nat) : List Nat :=
  if map.spots centerPos range creature then
    if checkforduplicate && list.contains creature then list
    else list ++ [creature]
  else list

def loopValues (start last : Nat) : List Nat :=
  List.range' start ((last + 8 - start) / 8) 8

/-- `value - (value % FLOOR_SIZE)` -/
def floorStart (value : Nat) : Nat := value - value % 8

/-- One leaf of the scan, and the step to the next one to the east. -/
def scanLeaf (centerPos : Position) (checkforduplicate : Bool) (range : Map.Range) (ny : Nat)
  (state : List Nat × Option Nat) (nx : Nat) : List Nat × Option Nat :=
  match state.2 with
  | some leafE =>
    ((map.node leafE).creatureList.foldl
        (map.spot centerPos checkforduplicate range) state.1,
      (map.node leafE).leafE)
  | none => (state.1, map.getLeaf (UInt16.ofNat (nx + 8)) (UInt16.ofNat ny))

/-- One row of the scan, and the step to the next one to the south. -/
def scanRow (centerPos : Position) (checkforduplicate : Bool) (range : Map.Range)
  (startx1 endx2 : Nat) (state : List Nat × Option Nat) (ny : Nat) : List Nat × Option Nat :=
  let row :=
    (loopValues startx1 endx2).foldl
      (map.scanLeaf centerPos checkforduplicate range ny) (state.1, state.2)
  match state.2 with
  | some leafS => (row.1, (map.node leafS).leafS)
  | none =>
    (row.1, map.getLeaf (UInt16.ofNat startx1) (UInt16.ofNat (ny + 8)))

/-- `Map::getSpectatorsInternal` -/
def getSpectatorsInternal (list : List Nat) (centerPos : Position) (checkforduplicate : Bool)
  (range : Map.Range) : List Nat :=
  let minoffset : Int := centerPos.z.toNat - range.maxZ
  let x1 := Map.clamp (centerPos.x.toNat + range.minX + minoffset)
  let y1 := Map.clamp (centerPos.y.toNat + range.minY + minoffset)
  let maxoffset : Int := centerPos.z.toNat - range.minZ
  let x2 := Map.clamp (centerPos.x.toNat + range.maxX + maxoffset)
  let y2 := Map.clamp (centerPos.y.toNat + range.maxY + maxoffset)
  let startx1 := floorStart x1
  let starty1 := floorStart y1
  let endx2 := floorStart x2
  let endy2 := floorStart y2
  let startLeaf := map.getLeaf (UInt16.ofNat startx1) (UInt16.ofNat starty1)
  ((loopValues starty1 endy2).foldl
    (map.scanRow centerPos checkforduplicate range startx1 endx2)
    (list, startLeaf)).1

def remember (centerPos : Position) (list : List Nat) : QuadMap :=
  { map with
    spectatorCache := update map.spectatorCache centerPos (some list) }

/-- The longer `Map::getSpectators`. -/
def getSpectators (query : Map.Query) : List Nat × QuadMap :=
  let found := map.getSpectatorsInternal query.list query.centerPos true query.range
  if query.cacheable then
    match map.spectatorCache query.centerPos with
    | some list => (list, map)
    | none => (found, map.remember query.centerPos found)
  else (found, map)

/-- The shorter `Map::getSpectators`. -/
def getCachedSpectators (centerPos : Position) : List Nat × QuadMap :=
  match map.spectatorCache centerPos with
  | some list => (list, map)
  | none =>
    let list := map.getSpectatorsInternal [] centerPos false (Map.cachedRange centerPos)
    (list, map.remember centerPos list)

/--
`Tile::moveCreature` of a tile of the map, whether the creature is there or not.
The notices at its end ask for the spectators of both tiles.
-/
def moveCreature (position : Position) (creature : Nat) (toPosition : Position) : Option QuadMap :=
  match map.getTile position, map.getTile toPosition with
  | some tile, some toTile =>
    let removed := map.tileRemoveThing tile creature
    let switched :=
      -- switch the node ownership
      if (map.tile tile).qtNode ≠ (map.tile toTile).qtNode then
        (removed.nodeRemoveCreature (map.tile tile).qtNode creature).map
          fun left => left.nodeAddCreature (map.tile toTile).qtNode creature
      else
        some removed
    switched.map fun switched =>
      let added := switched.tileAddThing toTile creature
      let first := added.getSpectators (Map.Query.around tile)
      (first.2.getSpectators (Map.Query.further first.1 toTile)).2
  | _, _ => none

end Scanning

end QuadMap

def leafCoord (value : UInt32) : Nat :=
  value.toNat / 8 % 8192

def digits : Nat → UInt32 → UInt32 → List (Fin 4)
  | 0, _, _ => []
  | count + 1, x, y => childIndex x y :: digits count (x * 2) (y * 2)

lemma digits_length (count : Nat) (x y : UInt32) : (digits count x y).length = count := by
  induction count generalizing x y with
  | zero => rfl
  | succ count ih => rw [digits, List.length_cons, ih]

lemma childIndex_val (x y : UInt32) :
  (childIndex x y).val = (x.toNat.testBit 15).toNat + 2 * (y.toNat.testBit 15).toNat := by
  have bitX : (x &&& 0x8000).toNat = (x.toNat.testBit 15).toNat * 2 ^ 15 := by
    exact Nat.and_two_pow x.toNat 15
  have bitY : (y &&& 0x8000).toNat = (y.toNat.testBit 15).toNat * 2 ^ 15 := by
    rw [UInt32.toNat_and]
    exact Nat.and_two_pow y.toNat 15
  rw [childIndex, Fin.val_ofNat, UInt32.toNat_or, UInt32.toNat_shiftRight,
    UInt32.toNat_shiftRight, bitX, bitY]
  cases x.toNat.testBit 15 <;> cases y.toNat.testBit 15 <;> rfl

lemma childIndex_eq_iff (x y x' y' : UInt32) :
  childIndex x y = childIndex x' y' ↔
    x.toNat.testBit 15 = x'.toNat.testBit 15 ∧ y.toNat.testBit 15 = y'.toNat.testBit 15 := by
  rw [← Fin.val_inj, childIndex_val, childIndex_val]
  cases x.toNat.testBit 15 <;> cases y.toNat.testBit 15 <;>
    cases x'.toNat.testBit 15 <;> cases y'.toNat.testBit 15 <;> decide

lemma testBit_double (value : UInt32) {index : Nat} (small : index < 31) :
  (value * 2).toNat.testBit (index + 1) = value.toNat.testBit index := by
  have doubled : (value * 2).toNat = value.toNat * 2 % 2 ^ 32 := by
    rfl
  have inside : index + 1 < 32 := by omega
  rw [doubled, Nat.testBit_mod_two_pow, decide_eq_true inside, Bool.true_and,
    Nat.testBit_succ, Nat.mul_div_cancel _ (by decide)]

lemma digits_eq_iff {count : Nat} (small : count ≤ 16) (x y x' y' : UInt32) :
  digits count x y = digits count x' y' ↔
    ∀ index < count,
      x.toNat.testBit (15 - index) = x'.toNat.testBit (15 - index) ∧
        y.toNat.testBit (15 - index) = y'.toNat.testBit (15 - index) := by
  induction count generalizing x y x' y' with
  | zero => simp [digits]
  | succ count ih =>
    have later (value : UInt32) {index : Nat} (inside : index < count) :
        (value * 2).toNat.testBit (15 - index) = value.toNat.testBit (15 - (index + 1)) := by
      have below : 15 - index = 15 - (index + 1) + 1 := by omega
      rw [below, testBit_double value (by omega)]
    rw [digits, digits, List.cons.injEq, childIndex_eq_iff, ih (by omega)]
    constructor
    · rintro ⟨first, rest⟩ index inside
      cases index with
      | zero => exact first
      | succ index =>
        have bits := rest index (by omega)
        rwa [later x (by omega), later y (by omega), later x' (by omega),
          later y' (by omega)] at bits
    · intro bits
      refine ⟨bits 0 (by omega), fun index inside => ?_⟩
      rw [later x inside, later y inside, later x' inside, later y' inside]
      exact bits (index + 1) (by omega)

lemma leafCoord_eq_iff (value value' : UInt32) :
  leafCoord value = leafCoord value' ↔
    ∀ index < 13, value.toNat.testBit (15 - index) = value'.toNat.testBit (15 - index) := by
  have bit (value : UInt32) (index : Nat) :
      (leafCoord value).testBit index =
        (decide (index < 13) && value.toNat.testBit (index + 3)) := by
    have powers : leafCoord value = value.toNat / 2 ^ 3 % 2 ^ 13 := rfl
    rw [powers, Nat.testBit_mod_two_pow, Nat.testBit_div_two_pow]
  constructor
  · intro same index inside
    have bits := congrArg (fun number => number.testBit (12 - index)) same
    simp only [bit] at bits
    have place : 12 - index + 3 = 15 - index := by omega
    have in_leaf : 12 - index < 13 := by omega
    rw [place, decide_eq_true in_leaf, Bool.true_and, Bool.true_and] at bits
    exact bits
  · intro bits
    apply Nat.eq_of_testBit_eq
    intro index
    rw [bit, bit]
    by_cases inside : index < 13
    · have place : 15 - (12 - index) = index + 3 := by omega
      have same := bits (12 - index) (by omega)
      rw [place] at same
      rw [same]
    · rw [decide_eq_false inside, Bool.false_and, Bool.false_and]

lemma digits_leaf_iff (x y x' y' : UInt32) :
  digits 13 x y = digits 13 x' y' ↔ leafCoord x = leafCoord x' ∧ leafCoord y = leafCoord y' := by
  rw [digits_eq_iff (by omega), leafCoord_eq_iff, leafCoord_eq_iff]
  constructor
  · intro bits
    exact ⟨fun index inside => (bits index inside).1, fun index inside => (bits index inside).2⟩
  · rintro ⟨first, second⟩ index inside
    exact ⟨first index inside, second index inside⟩

lemma getLeaf_eq {depth : Nat} {tree : QTreeNode} (even : Tree.Even depth tree) (x y : UInt32) :
  getLeaf tree x y = tree.find (digits depth x y) := by
  induction even generalizing x y with
  | missing depth => rw [getLeaf, Tree.find_missing]
  | leaf value => rfl
  | @node depth child _ ih =>
    exact ih _ _ _

def Present (tree : QTreeNode) : Prop :=
  tree ≠ .missing

lemma createLeaf_eq (fresh : Nat) {depth : Nat} {tree : QTreeNode} (even : Tree.Even depth tree)
  (present : Present tree) (x y : UInt32) :
  createLeaf fresh (depth + 2) tree x y =
    (tree.plant fresh (digits depth x y),
      (tree.find (digits depth x y)).getD fresh,
      (tree.find (digits depth x y)).isNone) := by
  induction depth generalizing tree x y with
  | zero =>
    cases even with
    | missing => exact absurd rfl present
    | leaf value => rfl
  | succ depth ih =>
    cases even with
    | missing => exact absurd rfl present
    | @node _ child children =>
      have below := children (childIndex x y)
      rw [createLeaf, digits, Tree.plant, Tree.find_node]
      generalize child (childIndex x y) = branch at below
      cases branch with
      | missing =>
        rw [Tree.find_missing]
        simp only
        cases depth with
        | zero => rfl
        | succ depth =>
          have higher : depth + 1 + 2 + 1 ≠ floorBits := by
            unfold floorBits
            omega
          rw [if_pos higher]
          simp only
          have made := ih (Tree.even_bare depth)
            (fun impossible => by cases impossible) (x * 2) (y * 2)
          rw [show (.node fun _ => .missing : QTreeNode) =
            Tree.bare from rfl, made, Tree.find_bare, digits,
            Tree.plant_bare]
          rfl
      | leaf value =>
        simp only
        rw [ih below (fun impossible => by cases impossible)]
        rfl
      | node grandchild =>
        simp only
        rw [ih below (fun impossible => by cases impossible)]
        rfl

end OTServ.Spectators
