import OTServ.Map.QuadTree

/-!
# The links of the leaves

In every map the leaf to the east of a leaf is the one which the tree has there,
and so is the leaf to the south; at the border of the coordinates both go round to
the other side.  Setting a tile keeps this up.  Forgetting the tree then leaves
the map as spectators see it, with one list of creatures for each leaf.
-/

namespace OTServ.Spectators

open Library.DigitTrees
open OTServ.Map
open Function Option

namespace Leaf

def Valid (place : Leaf) : Prop :=
  place.x < 8192 ∧ place.y < 8192

instance (place : Leaf) : Decidable place.Valid :=
  inferInstanceAs (Decidable (place.x < 8192 ∧ place.y < 8192))

def east (place : Leaf) : Leaf := ⟨(place.x + 1) % 8192, place.y⟩

def south (place : Leaf) : Leaf := ⟨place.x, (place.y + 1) % 8192⟩

def west (place : Leaf) : Leaf := ⟨(place.x + 8191) % 8192, place.y⟩

def north (place : Leaf) : Leaf := ⟨place.x, (place.y + 8191) % 8192⟩

def ofCoords (x y : UInt32) : Leaf := ⟨leafCoord x, leafCoord y⟩

def digits (place : Leaf) : List (Fin 4) :=
  Spectators.digits 13 (UInt32.ofNat (8 * place.x)) (UInt32.ofNat (8 * place.y))

variable {place other : Leaf}

lemma ext_iff : place = other ↔ place.x = other.x ∧ place.y = other.y := by
  cases place
  cases other
  simp

lemma valid_ofCoords (x y : UInt32) : (ofCoords x y).Valid := by
  unfold Valid ofCoords leafCoord
  simp only
  omega

section

variable (valid : place.Valid)
include valid

lemma Valid.east : place.east.Valid := by
  unfold Valid at valid ⊢
  unfold Leaf.east
  simp only
  omega

lemma Valid.south : place.south.Valid := by
  unfold Valid at valid ⊢
  unfold Leaf.south
  simp only
  omega

lemma Valid.west : place.west.Valid := by
  unfold Valid at valid ⊢
  unfold Leaf.west
  simp only
  omega

lemma Valid.north : place.north.Valid := by
  unfold Valid at valid ⊢
  unfold Leaf.north
  simp only
  omega

lemma east_eq_iff (also : other.Valid) : place.east = other ↔ place = other.west := by
  unfold Valid at valid also
  rw [ext_iff, ext_iff, Leaf.east, Leaf.west]
  simp only
  omega

lemma south_eq_iff (also : other.Valid) : place.south = other ↔ place = other.north := by
  unfold Valid at valid also
  rw [ext_iff, ext_iff, Leaf.south, Leaf.north]
  simp only
  omega

end

lemma west_ne (place : Leaf) : place.west ≠ place := by
  rw [Ne, ext_iff, Leaf.west]
  simp only
  omega

lemma north_ne (place : Leaf) : place.north ≠ place := by
  rw [Ne, ext_iff, Leaf.north]
  simp only
  omega

lemma leafCoord_ofNat (number : Nat) :
  leafCoord (UInt32.ofNat (8 * number)) = number % 8192 := by
  rw [leafCoord, UInt32.toNat_ofNat']
  omega

lemma digits_ofCoords (x y : UInt32) : Spectators.digits 13 x y = (ofCoords x y).digits := by
  rw [Leaf.digits, digits_leaf_iff, leafCoord_ofNat, leafCoord_ofNat, ofCoords]
  simp only
  unfold leafCoord
  omega

lemma digits_inj (valid : place.Valid) (also : other.Valid) :
  place.digits = other.digits ↔ place = other := by
  unfold Valid at valid also
  rw [Leaf.digits, Leaf.digits, digits_leaf_iff, ext_iff, leafCoord_ofNat,
    leafCoord_ofNat, leafCoord_ofNat, leafCoord_ofNat]
  omega

lemma digits_length (place : Leaf) : place.digits.length = 13 :=
  Spectators.digits_length 13 _ _

lemma leafCoord_sub (value : UInt16) :
  leafCoord (value.toUInt32 - 8) = (leafCoord value.toUInt32 + 8191) % 8192 := by
  have eight : (8 : UInt32).toNat = 8 := rfl
  rw [leafCoord, leafCoord, UInt32.toNat_sub, UInt16.toNat_toUInt32, eight]
  omega

lemma leafCoord_add (value : UInt16) :
  leafCoord (value.toUInt32 + 8) = (leafCoord value.toUInt32 + 1) % 8192 := by
  have eight : (8 : UInt32).toNat = 8 := rfl
  rw [leafCoord, leafCoord, UInt32.toNat_add, UInt16.toNat_toUInt32, eight]
  omega

lemma ofCoords_north (x y : UInt16) :
  ofCoords x.toUInt32 (y.toUInt32 - 8) = (ofCoords x.toUInt32 y.toUInt32).north := by
  rw [ofCoords, leafCoord_sub]
  rfl

lemma ofCoords_south (x y : UInt16) :
  ofCoords x.toUInt32 (y.toUInt32 + 8) = (ofCoords x.toUInt32 y.toUInt32).south := by
  rw [ofCoords, leafCoord_add]
  rfl

lemma ofCoords_west (x y : UInt16) :
  ofCoords (x.toUInt32 - 8) y.toUInt32 = (ofCoords x.toUInt32 y.toUInt32).west := by
  rw [ofCoords, leafCoord_sub]
  rfl

lemma ofCoords_east (x y : UInt16) :
  ofCoords (x.toUInt32 + 8) y.toUInt32 = (ofCoords x.toUInt32 y.toUInt32).east := by
  rw [ofCoords, leafCoord_add]
  rfl

end Leaf

lemma leafCoord_toUInt32 (value : UInt16) : leafCoord value.toUInt32 = value.toNat / 8 := by
  have small := value.toNat_lt
  rw [leafCoord, UInt16.toNat_toUInt32]
  omega

lemma ofCoords_position (position : Position) :
  Leaf.ofCoords position.x.toUInt32 position.y.toUInt32 = qtNode position := by
  rw [Leaf.ofCoords, leafCoord_toUInt32, leafCoord_toUInt32]
  rfl

lemma valid_qtNode (position : Position) : (qtNode position).Valid := by
  rw [← ofCoords_position]
  exact Leaf.valid_ofCoords _ _

variable {position : Position} {place : Leaf} {leaf : Nat}

namespace QuadMap

def leafOf (map : QuadMap) (place : Leaf) : Option Nat :=
  map.root.find place.digits

variable {map next : QuadMap}

structure Linked (map : QuadMap) : Prop where
  even : Tree.Even 13 map.root
  present : Present map.root
  made : ∀ {place leaf}, place.Valid → map.leafOf place = some leaf → leaf < map.leaves
  apart :
    ∀ {place other leaf}, place.Valid → other.Valid →
      map.leafOf place = some leaf → map.leafOf other = some leaf → place = other
  east :
    ∀ {place leaf}, place.Valid → map.leafOf place = some leaf →
      (map.node leaf).leafE = map.leafOf place.east
  south :
    ∀ {place leaf}, place.Valid → map.leafOf place = some leaf →
      (map.node leaf).leafS = map.leafOf place.south
  tiles :
    ∀ {position tile}, map.getTile position = some tile →
      tile = position ∧ map.leafOf (qtNode position) = some (map.tile position).qtNode

lemma getLeaf_leafOf (even : Tree.Even 13 map.root) (x y : UInt32) :
  Spectators.getLeaf map.root x y = map.leafOf (Leaf.ofCoords x y) := by
  rw [getLeaf_eq even, Leaf.digits_ofCoords, leafOf]

lemma getTile_eq (even : Tree.Even 13 map.root) (position : Position) :
  map.getTile position =
    if position.z.toNat < 16 then
      (map.leafOf (qtNode position)).bind fun leaf =>
        ((map.node leaf).array position.z.toNat).bind fun floor =>
          floor (position.x &&& 7).toNat (position.y &&& 7).toNat
    else
      none := by
  rw [getTile, getLeaf_leafOf even, ofCoords_position]
  split
  · cases map.leafOf (qtNode position) with
    | none => rfl
    | some leaf =>
      simp only [bind_some]
      cases (map.node leaf).array position.z.toNat with
      | none => rfl
      | some floor => rfl
  · rfl

/-! ## A tile is set -/

section Setting

variable (leaf id : Nat) (first second : Option Nat)

lemma setLeafS_node :
  (map.setLeafS first second).node id =
    if first = some id then
      { map.node id with leafS := second.or (map.node id).leafS }
    else map.node id := by
  cases first with
  | none => rfl
  | some first =>
    cases second with
    | none => simp [setLeafS]
    | some second =>
      by_cases same : id = first
      · subst same
        simp [setLeafS]
      · have other : ¬ some first = some id := fun equal => same (some.inj equal).symm
        rw [if_neg other, setLeafS]
        exact update_of_ne same _ _

lemma setLeafE_node :
  (map.setLeafE first second).node id =
    if first = some id then
      { map.node id with leafE := second.or (map.node id).leafE }
    else map.node id := by
  cases first with
  | none => rfl
  | some first =>
    cases second with
    | none => simp [setLeafE]
    | some second =>
      by_cases same : id = first
      · subst same
        simp [setLeafE]
      · have other : ¬ some first = some id := fun equal => same (some.inj equal).symm
        rw [if_neg other, setLeafE]
        exact update_of_ne same _ _

end Setting

structure Relinked (map next : QuadMap) : Prop where
  root : next.root = map.root
  leaves : next.leaves = map.leaves
  array : ∀ id, (next.node id).array = (map.node id).array
  creatureList : ∀ id, (next.node id).creatureList = (map.node id).creatureList
  tile : next.tile = map.tile
  position : next.position = map.position
  spectatorCache : next.spectatorCache = map.spectatorCache

lemma Relinked.trans {last : QuadMap} (first : Relinked map next) (second : Relinked next last) :
  Relinked map last where
  root := second.root.trans first.root
  leaves := second.leaves.trans first.leaves
  array id := (second.array id).trans (first.array id)
  creatureList id := (second.creatureList id).trans (first.creatureList id)
  tile := second.tile.trans first.tile
  position := second.position.trans first.position
  spectatorCache := second.spectatorCache.trans first.spectatorCache

lemma setLeafS_relinked (map : QuadMap) (first second : Option Nat) :
  Relinked map (map.setLeafS first second) := by
  constructor
  case array | creatureList =>
    intro id
    rw [setLeafS_node]
    split <;> rfl
  all_goals cases first <;> cases second <;> rfl

lemma setLeafE_relinked (map : QuadMap) (first second : Option Nat) :
  Relinked map (map.setLeafE first second) := by
  constructor
  case array | creatureList =>
    intro id
    rw [setLeafE_node]
    split <;> rfl
  all_goals cases first <;> cases second <;> rfl

section Linking

variable (map : QuadMap) (x y : UInt32) (leaf id : Nat)

lemma linkLeaf_relinked : Relinked map (map.linkLeaf x y leaf) := by
  exact (((setLeafS_relinked _ _ _).trans (setLeafE_relinked _ _ _)).trans
    (setLeafS_relinked _ _ _)).trans (setLeafE_relinked _ _ _)

lemma linkLeaf_leafS :
  ((map.linkLeaf x y leaf).node id).leafS =
    if some leaf = some id then
      (Spectators.getLeaf map.root x (y + 8)).or
        (if Spectators.getLeaf map.root x (y - 8) = some id then some leaf
          else (map.node id).leafS)
    else if Spectators.getLeaf map.root x (y - 8) = some id then some leaf
    else (map.node id).leafS := by
  simp only [linkLeaf, setLeafS_node, setLeafE_node]
  split_ifs <;> rfl

lemma linkLeaf_leafE :
  ((map.linkLeaf x y leaf).node id).leafE =
    if some leaf = some id then
      (Spectators.getLeaf map.root (x + 8) y).or
        (if Spectators.getLeaf map.root (x - 8) y = some id then some leaf
          else (map.node id).leafE)
    else if Spectators.getLeaf map.root (x - 8) y = some id then some leaf
    else (map.node id).leafE := by
  simp only [linkLeaf, setLeafS_node, setLeafE_node]
  split_ifs <;> rfl

end Linking

/-- Leaves, links and tiles are the same; creatures may be others. -/
structure SameTree (map next : QuadMap) : Prop where
  even : Tree.Even 13 next.root
  present : Present next.root
  leafOf : ∀ place, place.Valid → next.leafOf place = map.leafOf place
  leaves : next.leaves = map.leaves
  leafE : ∀ id, (next.node id).leafE = (map.node id).leafE
  leafS : ∀ id, (next.node id).leafS = (map.node id).leafS
  array : ∀ id, (next.node id).array = (map.node id).array
  qtNode : ∀ position, (next.tile position).qtNode = (map.tile position).qtNode

lemma SameTree.getTile (same : SameTree map next) (linked : Linked map) (position : Position) :
  next.getTile position = map.getTile position := by
  rw [getTile_eq same.even, getTile_eq linked.even, same.leafOf _ (valid_qtNode position)]
  simp only [same.array]

lemma Linked.sameTree (linked : Linked map) (same : SameTree map next) : Linked next where
  even := same.even
  present := same.present
  made valid there := by
    rw [same.leafOf _ valid] at there
    rw [same.leaves]
    exact linked.made valid there
  apart valid also here there := by
    rw [same.leafOf _ valid] at here
    rw [same.leafOf _ also] at there
    exact linked.apart valid also here there
  east valid there := by
    rw [same.leafOf _ valid] at there
    rw [same.leafOf _ valid.east, same.leafE]
    exact linked.east valid there
  south valid there := by
    rw [same.leafOf _ valid] at there
    rw [same.leafOf _ valid.south, same.leafS]
    exact linked.south valid there
  tiles {position} _ there := by
    rw [same.getTile linked] at there
    rw [same.leafOf _ (valid_qtNode position), same.qtNode]
    exact linked.tiles there

/-! ## A leaf is made -/

def planted (map : QuadMap) (position : Position) : QTreeNode :=
  map.root.plant map.leaves (qtNode position).digits

/-- A leaf that is there already is the leaf of the position. -/
def rerooted (map : QuadMap) (position : Position) : QuadMap :=
  { map with root := map.planted position }

def sprouted (map : QuadMap) (position : Position) : QuadMap :=
  { map with
    root := map.planted position
    leaves := map.leaves + 1
    node := update map.node map.leaves .new }

lemma setTile_eq (linked : Linked map) (floor : position.z.toNat < 16) :
  map.setTile position =
    match map.leafOf (qtNode position) with
    | some leaf => (map.rerooted position).putTile leaf position
    | none =>
      ((map.sprouted position).linkLeaf position.x.toUInt32
        position.y.toUInt32 map.leaves).putTile map.leaves position := by
  have created :=
    createLeaf_eq map.leaves linked.even linked.present position.x.toUInt32 position.y.toUInt32
  rw [Leaf.digits_ofCoords, ofCoords_position] at created
  rw [setTile, if_neg (by omega)]
  simp only
  rw [created]
  unfold leafOf
  cases map.root.find (qtNode position).digits with
  | some leaf => rfl
  | none => rfl

lemma plant_present {tree : QTreeNode} (present : Present tree) (even : Tree.Even 13 tree)
  (fresh : Nat) (place : Leaf) : Present (tree.plant fresh place.digits) := by
  have length := place.digits_length
  cases even with
  | missing => exact absurd rfl present
  | node children =>
    generalize place.digits = digits at length
    cases digits with
    | nil => cases length
    | cons digit digits => exact fun impossible => by cases impossible

lemma find_planted (linked : Linked map) (valid : place.Valid) :
  (map.planted position).find place.digits =
    if place = qtNode position then
      some ((map.leafOf (qtNode position)).getD map.leaves)
    else
      map.leafOf place := by
  rw [planted]
  split
  · rename_i same
    rw [same]
    exact Tree.find_plant_self linked.even (Leaf.digits_length _)
  · rename_i ne
    exact Tree.find_plant_of_ne linked.even (Leaf.digits_length _)
      (Leaf.digits_length _) fun equal =>
        ne ((Leaf.digits_inj valid (valid_qtNode position)).mp equal)

lemma rerooted_sameTree
  (linked : Linked map) (there : map.leafOf (qtNode position) = some leaf) :
  SameTree map (map.rerooted position) where
  even := linked.even.plant (Leaf.digits_length _)
  present := plant_present linked.present linked.even _ _
  leafOf place valid := by
    show (map.planted position).find place.digits = _
    rw [find_planted linked valid]
    split
    · rename_i same
      rw [same, there]
      rfl
    · rfl
  leaves := rfl
  leafE _ := rfl
  leafS _ := rfl
  array _ := rfl
  qtNode _ := rfl

section Sprouting

variable {position : Position}

def grown (map : QuadMap) (position : Position) : QuadMap :=
  (map.sprouted position).linkLeaf position.x.toUInt32 position.y.toUInt32 map.leaves

lemma grown_relinked (map : QuadMap) (position : Position) :
  Relinked (map.sprouted position) (map.grown position) :=
  linkLeaf_relinked _ _ _ _

lemma grown_leafOf
  (linked : Linked map) (new : map.leafOf (qtNode position) = none) (valid : place.Valid) :
  (map.grown position).leafOf place =
    if place = qtNode position then some map.leaves
    else map.leafOf place := by
  show (map.grown position).root.find place.digits = _
  rw [(grown_relinked map position).root]
  show (map.planted position).find place.digits = _
  rw [find_planted linked valid, new]
  rfl

lemma sprouted_node_of_ne (map : QuadMap) (position : Position) {id : Nat}
  (old : id ≠ map.leaves) : (map.sprouted position).node id = map.node id :=
  update_of_ne old _ _

lemma sprouted_node_new (map : QuadMap) (position : Position) :
  (map.sprouted position).node map.leaves = .new :=
  update_self _ _ _

variable (linked : Linked map)
include linked

lemma getLeaf_grown (x y : UInt32) :
  Spectators.getLeaf (map.sprouted position).root x y =
    (map.grown position).leafOf (Leaf.ofCoords x y) := by
  have even : Tree.Even 13 (map.sprouted position).root := linked.even.plant (Leaf.digits_length _)
  rw [getLeaf_leafOf even]
  show _ = (map.grown position).root.find _
  rw [(grown_relinked map position).root]
  rfl

variable (new : map.leafOf (qtNode position) = none)
include new

lemma grown_apart {other : Leaf} (valid : place.Valid) (also : other.Valid)
  (here : (map.grown position).leafOf place = some leaf)
  (there : (map.grown position).leafOf other = some leaf) : place = other := by
  rw [grown_leafOf linked new valid] at here
  rw [grown_leafOf linked new also] at there
  split at here
  · rename_i first
    split at there
    · rename_i second
      rw [first, second]
    · cases here
      exact absurd (linked.made also there) (Nat.lt_irrefl _)
  · split at there
    · cases there
      exact absurd (linked.made valid here) (Nat.lt_irrefl _)
    · exact linked.apart valid also here there

lemma grown_new : (map.grown position).leafOf (qtNode position) = some map.leaves := by
  rw [grown_leafOf linked new (valid_qtNode position), if_pos rfl]

/--
One of the two directions.  The new leaf points to the leaf which is a step on;
the leaf a step back points to the new one; all others keep their link.
-/
lemma grown_neighbour {step back : Leaf → Leaf} {link : QTreeLeafNode → Option Nat}
  (valid_step : ∀ {place : Leaf}, place.Valid → (step place).Valid)
  (valid_back : ∀ {place : Leaf}, place.Valid → (back place).Valid)
  (step_eq_iff :
    ∀ {place other : Leaf}, place.Valid → other.Valid →
      (step place = other ↔ place = back other)) (moves : ∀ place : Leaf, back place ≠ place)
  (unlinked : link .new = none)
  (written :
    ∀ id,
      link ((map.grown position).node id) =
        if some map.leaves = some id then
          ((map.grown position).leafOf (step (qtNode position))).or
            (if (map.grown position).leafOf (back (qtNode position)) = some id
              then some map.leaves
              else link ((map.sprouted position).node id))
        else if (map.grown position).leafOf (back (qtNode position)) = some id
          then some map.leaves
          else link ((map.sprouted position).node id))
  (before :
    ∀ {place : Leaf} {leaf : Nat}, place.Valid →
      map.leafOf place = some leaf → link (map.node leaf) = map.leafOf (step place))
  (valid : place.Valid) (there : (map.grown position).leafOf place = some leaf) :
  link ((map.grown position).node leaf) = (map.grown position).leafOf (step place) := by
  have key := valid_qtNode position
  have atKey := grown_new linked new
  rw [written]
  by_cases here : place = qtNode position
  · subst here
    rw [atKey] at there
    cases there
    have other :
        ¬ (map.grown position).leafOf (back (qtNode position)) = some map.leaves := fun equal =>
      moves _ (grown_apart linked new (valid_back key) key equal atKey)
    rw [if_pos rfl, if_neg other, sprouted_node_new, unlinked]
    exact or_none
  · have old := there
    rw [grown_leafOf linked new valid, if_neg here] at old
    have less := linked.made valid old
    have ne : ¬ some map.leaves = some leaf := by
      rw [some.injEq]
      omega
    rw [if_neg ne]
    by_cases behind : (map.grown position).leafOf (back (qtNode position)) = some leaf
    · have same := grown_apart linked new (valid_back key) valid behind there
      have next := (step_eq_iff valid key).mpr same.symm
      rw [if_pos behind, next, atKey]
    · have elsewhere : ¬ step place = qtNode position := by
        intro next
        rw [step_eq_iff valid key] at next
        rw [← next] at behind
        exact behind there
      rw [if_neg behind, sprouted_node_of_ne _ _ (by omega), before valid old,
        grown_leafOf linked new (valid_step valid), if_neg elsewhere]

lemma grown_getTile
  (other : Position) : (map.grown position).getTile other = map.getTile other := by
  have relinked := grown_relinked map position
  have even : Tree.Even 13 (map.grown position).root := by
    rw [relinked.root]
    exact linked.even.plant (Leaf.digits_length _)
  have valid := valid_qtNode other
  rw [getTile_eq even, getTile_eq linked.even, grown_leafOf linked new valid]
  by_cases here : qtNode other = qtNode position
  · rw [if_pos here, here, new, bind_some, relinked.array, sprouted_node_new]
    rfl
  · rw [if_neg here]
    cases old : map.leafOf (qtNode other) with
    | none => rfl
    | some leaf =>
      have less := linked.made valid old
      rw [bind_some, bind_some, relinked.array, sprouted_node_of_ne _ _ (by omega)]

lemma grown_linked : Linked (map.grown position) := by
  have relinked := grown_relinked map position
  refine ⟨?_, ?_, ?_, grown_apart linked new, ?_, ?_, ?_⟩
  · rw [relinked.root]
    exact linked.even.plant (Leaf.digits_length _)
  · rw [relinked.root]
    exact plant_present linked.present linked.even _ _
  · intro place leaf valid there
    rw [relinked.leaves]
    rw [grown_leafOf linked new valid] at there
    split at there
    · cases there
      exact Nat.lt_succ_self _
    · exact Nat.lt_succ_of_lt (linked.made valid there)
  · intro place leaf valid there
    refine grown_neighbour linked new Leaf.Valid.east Leaf.Valid.west
      Leaf.east_eq_iff Leaf.west_ne rfl (fun id => ?_) linked.east valid there
    have link := linkLeaf_leafE (map.sprouted position) position.x.toUInt32
      position.y.toUInt32 map.leaves id
    rwa [getLeaf_grown linked, getLeaf_grown linked, Leaf.ofCoords_east,
      Leaf.ofCoords_west, ofCoords_position] at link
  · intro place leaf valid there
    refine grown_neighbour linked new Leaf.Valid.south Leaf.Valid.north
      Leaf.south_eq_iff Leaf.north_ne rfl (fun id => ?_) linked.south valid there
    have link := linkLeaf_leafS (map.sprouted position) position.x.toUInt32
      position.y.toUInt32 map.leaves id
    rwa [getLeaf_grown linked, getLeaf_grown linked, Leaf.ofCoords_south,
      Leaf.ofCoords_north, ofCoords_position] at link
  · intro other tile there
    rw [grown_getTile linked new] at there
    have ⟨same, leaf⟩ := linked.tiles there
    refine ⟨same, ?_⟩
    rw [grown_leafOf linked new (valid_qtNode other), relinked.tile]
    split
    · rename_i here
      rw [here, new] at leaf
      cases leaf
    · exact leaf

end Sprouting

/-! ## A tile is put into its leaf -/

section Putting

variable {position : Position} {leaf : Nat}

lemma offset_toNat (value : UInt16) : (value &&& 7).toNat = value.toNat % 8 := by
  exact Nat.and_two_pow_sub_one_eq_mod value.toNat 3

lemma position_eq {other : Position} (leaves : qtNode other = qtNode position)
  (offsetX : (other.x &&& 7).toNat = (position.x &&& 7).toNat)
  (offsetY : (other.y &&& 7).toNat = (position.y &&& 7).toNat)
  (floor : other.z.toNat = position.z.toNat) : other = position := by
  rw [Leaf.ext_iff] at leaves
  unfold qtNode at leaves
  rw [offset_toNat, offset_toNat] at offsetX offsetY
  cases other
  cases position
  rw [Position.mk.injEq, ← UInt16.toNat_inj, ← UInt16.toNat_inj, ← UInt16.toNat_inj]
  simp only at leaves offsetX offsetY floor
  omega

section

variable (even : Tree.Even 13 map.root)
include even

variable (there : map.leafOf (qtNode position) = some leaf)
include there

lemma getTile_slot (level : position.z.toNat < 16) :
  map.getTile position =
    (((map.node leaf).array position.z.toNat).getD fun _ _ => none)
      (position.x &&& 7).toNat (position.y &&& 7).toNat := by
  rw [getTile_eq even, if_pos level, there, bind_some]
  cases (map.node leaf).array position.z.toNat with
  | none => rfl
  | some floor => rfl

lemma putTile_old (level : position.z.toNat < 16) {tile : Position}
  (found : map.getTile position = some tile) : map.putTile leaf position = map := by
  have slot := getTile_slot even there level
  rw [found] at slot
  rw [putTile]
  rw [← slot]
  simp only
  cases floors : (map.node leaf).array position.z.toNat with
  | none =>
    rw [floors] at slot
    cases slot
  | some floor =>
    have same :
        update (map.node leaf).array position.z.toNat (some floor) = (map.node leaf).array := by
      rw [← floors, update_eq_self]
    rw [getD_some, same, update_eq_self]

lemma putTile_new (level : position.z.toNat < 16) (free : map.getTile position = none) :
  map.putTile leaf position =
    { map with
      node := update map.node leaf
        { map.node leaf with
          array := update (map.node leaf).array position.z.toNat
            (some fun x y =>
              if x = (position.x &&& 7).toNat ∧ y = (position.y &&& 7).toNat
              then some position
              else
                (((map.node leaf).array position.z.toNat).getD fun _ _ => none) x y) }
      tile := update map.tile position ⟨leaf, []⟩ } := by
  have slot := getTile_slot even there level
  rw [free] at slot
  rw [putTile]
  simp only
  rw [← slot]

/-- What a new tile leaves as it was. -/
lemma putTile_frame (level : position.z.toNat < 16) (free : map.getTile position = none) :
  (map.putTile leaf position).root = map.root ∧
    (map.putTile leaf position).leaves = map.leaves ∧
      (∀ id,
        ((map.putTile leaf position).node id).leafE = (map.node id).leafE ∧
          ((map.putTile leaf position).node id).leafS = (map.node id).leafS ∧
            ((map.putTile leaf position).node id).creatureList = (map.node id).creatureList) ∧
        (map.putTile leaf position).tile =
          update map.tile position ⟨leaf, []⟩ ∧
          (map.putTile leaf position).position = map.position ∧
            (map.putTile leaf position).spectatorCache = map.spectatorCache := by
  rw [putTile_new even there level free]
  refine ⟨rfl, rfl, fun id => ?_, rfl, rfl, rfl⟩
  by_cases same : id = leaf
  · subst same
    simp only [update_self]
    exact ⟨trivial, trivial, trivial⟩
  · simp only [update_of_ne same]
    exact ⟨trivial, trivial, trivial⟩

end

lemma putTile_getTile (linked : Linked map) (there : map.leafOf (qtNode position) = some leaf)
  (level : position.z.toNat < 16) (free : map.getTile position = none) (other : Position) :
  (map.putTile leaf position).getTile other =
    if other = position then some position else map.getTile other := by
  have even : Tree.Even 13 (map.putTile leaf position).root := by
    rw [(putTile_frame linked.even there level free).1]
    exact linked.even
  have leafOf (place : Leaf) : (map.putTile leaf position).leafOf place = map.leafOf place := by
    show (map.putTile leaf position).root.find place.digits = _
    rw [(putTile_frame linked.even there level free).1]
    rfl
  rw [getTile_eq even, leafOf, putTile_new linked.even there level free]
  by_cases same : other = position
  · subst same
    rw [if_pos level, if_pos rfl, there, bind_some]
    simp only [update_self, bind_some, and_self, if_true]
  · rw [if_neg same, getTile_eq linked.even]
    split
    · cases old : map.leafOf (qtNode other) with
      | none => rfl
      | some id =>
        rw [bind_some, bind_some]
        simp only
        by_cases leaves : id = leaf
        · subst leaves
          have places := linked.apart (valid_qtNode other) (valid_qtNode position) old there
          rw [update_self]
          simp only
          by_cases floor : other.z.toNat = position.z.toNat
          · have offsets :
                ¬ ((other.x &&& 7).toNat = (position.x &&& 7).toNat ∧
                  (other.y &&& 7).toNat = (position.y &&& 7).toNat) :=
              fun both => same (position_eq places both.1 both.2 floor)
            rw [floor, update_self, bind_some]
            simp only
            rw [if_neg offsets]
            cases (map.node id).array position.z.toNat with
            | none => rfl
            | some floor => rfl
          · rw [update_of_ne floor]
        · rw [update_of_ne leaves]
    · rfl

lemma putTile_linked (linked : Linked map) (there : map.leafOf (qtNode position) = some leaf)
  (level : position.z.toNat < 16) (free : map.getTile position = none) :
  Linked (map.putTile leaf position) := by
  have ⟨root, leaves, nodes, tile, _⟩ := putTile_frame linked.even there level free
  have leafOf (place : Leaf) : (map.putTile leaf position).leafOf place = map.leafOf place := by
    show (map.putTile leaf position).root.find place.digits = _
    rw [root]
    rfl
  refine ⟨?_, ?_, ?_, ?_, ?_, ?_, ?_⟩
  · rw [root]
    exact linked.even
  · rw [root]
    exact linked.present
  · intro place id valid here
    rw [leafOf] at here
    rw [leaves]
    exact linked.made valid here
  · intro place other id valid also here also_here
    rw [leafOf] at here also_here
    exact linked.apart valid also here also_here
  · intro place id valid here
    rw [leafOf] at here ⊢
    rw [(nodes id).1]
    exact linked.east valid here
  · intro place id valid here
    rw [leafOf] at here ⊢
    rw [(nodes id).2.1]
    exact linked.south valid here
  · intro other found here
    rw [putTile_getTile linked there level free] at here
    rw [leafOf, tile]
    split at here
    · rename_i same
      cases here
      rw [same, update_self]
      exact ⟨rfl, there⟩
    · rename_i ne
      rw [update_of_ne ne]
      exact linked.tiles here

end Putting

end QuadMap

end OTServ.Spectators
