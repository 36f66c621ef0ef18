import OTServ.Map.QuadTreeLinks
import OTServ.Map.SpectatorCache

/-!
# The scan along the links

Without its tree the map is the one of `Spectators`, with a list of creatures for
each leaf.  The walk along the links goes over the same lists as the scan of that
map, and what happens to creatures is the same there and here.
-/

namespace OTServ.Spectators

open Library.DigitTrees
open OTServ.Map

def Map.addTile (map : Map) (position : Position) : Map :=
  if position.z.toNat < 16 ∧ (map.creatures position).isNone then
    { map with creatures := Function.update map.creatures position (some []) }
  else
    map

lemma Map.eq_of
  {map other : Map} (creatures : ∀ position, map.creatures position = other.creatures position)
  (creatureList : ∀ place, map.creatureList place = other.creatureList place)
  (position : map.position = other.position)
  (cache : map.spectatorCache = other.spectatorCache) : map = other := by
  rw [Map.mk.injEq]
  exact ⟨funext creatures, funext creatureList, position, cache⟩

variable {place : Leaf} {leaf y : Nat} {position : Position}

namespace QuadMap

def toMap (map : QuadMap) : Map where
  creatures position := (map.getTile position).map fun tile => (map.tile tile).creatures
  creatureList place :=
    if place.Valid then
      ((map.leafOf place).map fun leaf => (map.node leaf).creatureList).getD []
    else
      []
  __ := map

variable {map next : QuadMap}

lemma toMap_creatureList (valid : place.Valid) (there : map.leafOf place = some leaf) :
  map.toMap.creatureList place = (map.node leaf).creatureList := by
  rw [toMap]
  simp only
  rw [if_pos valid, there]
  rfl

lemma toMap_creatureList_none (valid : place.Valid) (there : map.leafOf place = none) :
  map.toMap.creatureList place = [] := by
  rw [toMap]
  simp only
  rw [if_pos valid, there]
  rfl

lemma toMap_creatureList_invalid
  (invalid : ¬ place.Valid) : map.toMap.creatureList place = [] := by
  rw [toMap]
  simp only
  rw [if_neg invalid]

/-! ## The walk -/

section Walking

variable (centerPos : Position) (checkforduplicate : Bool) (range : Map.Range)

lemma floorStart_eq (value : Nat) : floorStart value = 8 * (value / 8) := by
  unfold floorStart
  omega

lemma range'_eight (start count : Nat) :
  List.range' (8 * start) count 8 = (List.range' start count).map fun value => 8 * value := by
  induction count generalizing start with
  | zero => rfl
  | succ count ih =>
    have next : 8 * start + 8 = 8 * (start + 1) := by omega
    rw [List.range'_succ, List.range'_succ, List.map_cons, next, ih]

lemma loopValues_eq (first last : Nat) :
  loopValues (floorStart first) (floorStart last) =
    (Map.leavesBetween first last).map fun value => 8 * value := by
  have count : (8 * (last / 8) + 8 - 8 * (first / 8)) / 8 = last / 8 + 1 - first / 8 := by
    omega
  rw [loopValues, Map.leavesBetween, floorStart_eq, floorStart_eq, range'_eight, count]

section

variable (linked : Linked map)
include linked

lemma getLeaf_eight (x y : Nat) :
  map.getLeaf (UInt16.ofNat (8 * x)) (UInt16.ofNat (8 * y)) =
    map.leafOf ⟨x % 8192, y % 8192⟩ := by
  rw [QuadMap.getLeaf, getLeaf_leafOf linked.even, Leaf.ofCoords,
    leafCoord_toUInt32, leafCoord_toUInt32, UInt16.toNat_ofNat',
    UInt16.toNat_ofNat']
  congr 2
  · omega
  · omega

lemma scanLeaf_eq {x : Nat} (column : x < 8192) (row : y < 8192) (list : List Nat) :
  map.scanLeaf centerPos checkforduplicate range (8 * y)
      (list, map.leafOf ⟨x, y⟩) (8 * x) =
    ((map.toMap.creatureList ⟨x, y⟩).foldl
        (map.toMap.spot centerPos checkforduplicate range) list,
      map.leafOf ⟨(x + 1) % 8192, y⟩) := by
  have valid : Leaf.Valid ⟨x, y⟩ := ⟨column, row⟩
  rw [scanLeaf]
  cases there : map.leafOf ⟨x, y⟩ with
  | some leaf =>
    simp only
    rw [toMap_creatureList valid there, linked.east valid there]
    rfl
  | none =>
    have next : 8 * x + 8 = 8 * (x + 1) := by omega
    simp only
    rw [toMap_creatureList_none valid there, next, getLeaf_eight linked, Nat.mod_eq_of_lt row]
    rfl

lemma scanLeaves_eq
  (row : y < 8192) (first count : Nat) (inside : first + count ≤ 8192) (list : List Nat) :
  (((List.range' first count).map fun value => 8 * value).foldl
      (map.scanLeaf centerPos checkforduplicate range (8 * y))
      (list, map.leafOf ⟨first % 8192, y⟩)).1 =
    (List.range' first count).foldl
      (fun list nx =>
        (map.toMap.creatureList ⟨nx, y⟩).foldl
          (map.toMap.spot centerPos checkforduplicate range) list)
      list := by
  induction count generalizing first list with
  | zero => rfl
  | succ count ih =>
    have column : first < 8192 := by omega
    rw [List.range'_succ, List.map_cons, List.foldl_cons, List.foldl_cons,
      Nat.mod_eq_of_lt column,
      scanLeaf_eq centerPos checkforduplicate range linked column row]
    exact ih (first + 1) (by omega) _

lemma scanRow_eq (row : y < 8192) {first last : Nat} (east : last < 65536) (west : first < 65536)
  (list : List Nat) :
  map.scanRow centerPos checkforduplicate range (floorStart first)
      (floorStart last) (list, map.leafOf ⟨first / 8, y⟩) (8 * y) =
    ((Map.leavesBetween first last).foldl
        (fun list nx =>
          (map.toMap.creatureList ⟨nx, y⟩).foldl
            (map.toMap.spot centerPos checkforduplicate range) list)
        list,
      map.leafOf ⟨first / 8, (y + 1) % 8192⟩) := by
  have column : first / 8 < 8192 := by omega
  have valid : Leaf.Valid ⟨first / 8, y⟩ := ⟨column, row⟩
  have leaves :=
    scanLeaves_eq centerPos checkforduplicate range linked row (first / 8)
      (last / 8 + 1 - first / 8) (by omega) list
  rw [Nat.mod_eq_of_lt column] at leaves
  rw [scanRow, loopValues_eq]
  rw [Map.leavesBetween, leaves]
  cases there : map.leafOf ⟨first / 8, y⟩ with
  | some leaf =>
    simp only
    rw [linked.south valid there]
    rfl
  | none =>
    have next : 8 * y + 8 = 8 * (y + 1) := by omega
    rw [floorStart_eq, next, getLeaf_eight linked, Nat.mod_eq_of_lt column]

lemma scanRows_eq {first last : Nat} (east : last < 65536) (west : first < 65536)
  (start count : Nat) (inside : start + count ≤ 8192) (list : List Nat) :
  (((List.range' start count).map fun value => 8 * value).foldl
      (map.scanRow centerPos checkforduplicate range (floorStart first) (floorStart last))
      (list, map.leafOf ⟨first / 8, start % 8192⟩)).1 =
    (List.range' start count).foldl
      (fun list ny =>
        (Map.leavesBetween first last).foldl
          (fun list nx =>
            (map.toMap.creatureList ⟨nx, ny⟩).foldl
              (map.toMap.spot centerPos checkforduplicate range) list)
          list)
      list := by
  induction count generalizing start list with
  | zero => rfl
  | succ count ih =>
    have row : start < 8192 := by omega
    rw [List.range'_succ, List.map_cons, List.foldl_cons, List.foldl_cons,
      Nat.mod_eq_of_lt row,
      scanRow_eq centerPos checkforduplicate range linked row east west]
    exact ih (start + 1) (by omega) _

end

lemma clamp_lt (value : Int) : Map.clamp value < 65536 := by
  rw [Map.clamp]
  omega

lemma getSpectatorsInternal_eq (linked : Linked map) (list : List Nat) :
  map.getSpectatorsInternal list centerPos checkforduplicate range =
    map.toMap.getSpectatorsInternal list centerPos checkforduplicate range := by
  rw [QuadMap.getSpectatorsInternal, Map.getSpectatorsInternal, Map.rows, Map.columns]
  generalize first_def :
    Map.clamp (centerPos.x.toNat + range.minX + (centerPos.z.toNat - range.maxZ)) = first
  generalize last_def :
    Map.clamp (centerPos.x.toNat + range.maxX + (centerPos.z.toNat - range.minZ)) = last
  generalize top_def :
    Map.clamp (centerPos.y.toNat + range.minY + (centerPos.z.toNat - range.maxZ)) = top
  generalize bottom_def :
    Map.clamp (centerPos.y.toNat + range.maxY + (centerPos.z.toNat - range.minZ)) = bottom
  have west : first < 65536 := first_def ▸ clamp_lt _
  have east : last < 65536 := last_def ▸ clamp_lt _
  have north : top < 65536 := top_def ▸ clamp_lt _
  have south : bottom < 65536 := bottom_def ▸ clamp_lt _
  have column : first / 8 < 8192 := by omega
  rw [loopValues_eq, floorStart_eq first, floorStart_eq top,
    getLeaf_eight linked, Nat.mod_eq_of_lt column, ← floorStart_eq first]
  exact scanRows_eq centerPos checkforduplicate range linked east west (top / 8)
    (bottom / 8 + 1 - top / 8) (by omega) list

end Walking

section

variable (linked : Linked map)
include linked

lemma rerooted_toMap (there : map.leafOf (qtNode position) = some leaf) :
  (map.rerooted position).toMap = map.toMap := by
  have same := rerooted_sameTree linked there
  apply Map.eq_of
  · intro other
    simp only [toMap]
    rw [same.getTile linked]
    rfl
  · intro place
    simp only [toMap]
    split
    · rename_i valid
      rw [same.leafOf place valid]
      rfl
    · rfl
  · rfl
  · rfl

lemma grown_toMap (new : map.leafOf (qtNode position) = none) :
  (map.grown position).toMap = map.toMap := by
  have relinked := grown_relinked map position
  apply Map.eq_of
  · intro other
    simp only [toMap]
    rw [grown_getTile linked new, relinked.tile]
    rfl
  · intro place
    by_cases valid : place.Valid
    · have leafOf := grown_leafOf linked new valid
      by_cases here : place = qtNode position
      · rw [if_pos here] at leafOf
        rw [toMap_creatureList valid leafOf, relinked.creatureList,
          sprouted_node_new, here,
          toMap_creatureList_none (valid_qtNode position) new]
        rfl
      · rw [if_neg here] at leafOf
        cases old : map.leafOf place with
        | none =>
          rw [old] at leafOf
          rw [toMap_creatureList_none valid leafOf, toMap_creatureList_none valid old]
        | some leaf =>
          have less := linked.made valid old
          rw [old] at leafOf
          rw [toMap_creatureList valid leafOf, toMap_creatureList valid old,
            relinked.creatureList, sprouted_node_of_ne _ _ (by omega)]
    · rw [toMap_creatureList_invalid valid, toMap_creatureList_invalid valid]
  · exact relinked.position
  · exact relinked.spectatorCache

lemma putTile_toMap
  (there : map.leafOf (qtNode position) = some leaf) (level : position.z.toNat < 16) :
  Linked (map.putTile leaf position) ∧
    (map.putTile leaf position).toMap = map.toMap.addTile position := by
  cases found : map.getTile position with
  | some tile =>
    have occupied : ¬ (position.z.toNat < 16 ∧ (map.toMap.creatures position).isNone = true) := by
      rw [toMap]
      simp only
      rw [found]
      exact fun both => by cases both.2
    rw [putTile_old linked.even there level found, Map.addTile, if_neg occupied]
    exact ⟨linked, rfl⟩
  | none =>
    have free : position.z.toNat < 16 ∧ (map.toMap.creatures position).isNone = true := by
      rw [toMap]
      simp only
      rw [found]
      exact ⟨level, rfl⟩
    have ⟨root, _, nodes, tile, positions, cache⟩ := putTile_frame linked.even there level found
    refine ⟨putTile_linked linked there level found, ?_⟩
    rw [Map.addTile, if_pos free]
    apply Map.eq_of
    · intro other
      simp only [toMap]
      rw [putTile_getTile linked there level found, tile]
      by_cases same : other = position
      · subst same
        rw [if_pos rfl, Function.update_self, Option.map_some, Function.update_self]
      · rw [if_neg same, Function.update_of_ne same]
        cases there : map.getTile other with
        | none => rfl
        | some pointer =>
          have pointed := (linked.tiles there).1
          rw [Option.map_some, Option.map_some, pointed, Function.update_of_ne same]
    · intro place
      simp only [toMap, leafOf]
      rw [root]
      simp only [(nodes _).2.2]
    · exact positions
    · exact cache

lemma setTile_toMap (position : Position) :
  Linked (map.setTile position) ∧ (map.setTile position).toMap = map.toMap.addTile position := by
  by_cases level : position.z.toNat < 16
  · rw [setTile_eq linked level]
    cases there : map.leafOf (qtNode position) with
    | some leaf =>
      have same := rerooted_sameTree linked there
      have leafOf := same.leafOf _ (valid_qtNode position)
      rw [there] at leafOf
      have ⟨put, without⟩ := putTile_toMap (linked.sameTree same) leafOf level
      rw [rerooted_toMap linked there] at without
      exact ⟨put, without⟩
    | none =>
      have ⟨put, without⟩ :=
        putTile_toMap (grown_linked linked there) (grown_new linked there) level
      rw [grown_toMap linked there] at without
      exact ⟨put, without⟩
  · have outside : ¬ (position.z.toNat < 16 ∧ (map.toMap.creatures position).isNone = true) :=
      fun both => level both.1
    rw [setTile, if_pos (by omega), Map.addTile, if_neg outside]
    exact ⟨linked, rfl⟩

/-! ## Creatures -/

lemma setCreatureList_toMap
  (valid : place.Valid) (there : map.leafOf place = some leaf) (list : List Nat) :
  SameTree map (map.setCreatureList leaf list) ∧
    (map.setCreatureList leaf list).toMap =
      { map.toMap with
        creatureList := Function.update map.toMap.creatureList place list } := by
  have field {α : Type} (read : QTreeLeafNode → α) (id : Nat)
      (kept : read { map.node leaf with creatureList := list } = read (map.node leaf)) :
      read ((map.setCreatureList leaf list).node id) = read (map.node id) := by
    rw [setCreatureList]
    simp only
    by_cases same : id = leaf
    · subst same
      rw [Function.update_self]
      exact kept
    · rw [Function.update_of_ne same]
  have same : SameTree map (map.setCreatureList leaf list) :=
    { linked with
      leafOf := fun _ _ => rfl
      leaves := rfl
      leafE := fun id => field (·.leafE) id rfl
      leafS := fun id => field (·.leafS) id rfl
      array := fun id => field (·.array) id rfl
      qtNode := fun _ => rfl }
  refine ⟨same, ?_⟩
  apply Map.eq_of
  · intro position
    simp only [toMap]
    rw [same.getTile linked]
    rfl
  · intro other
    by_cases also : other.Valid
    · cases leafOf : map.leafOf other with
      | none =>
        have ne : other ≠ place := by
          intro equal
          rw [equal, there] at leafOf
          cases leafOf
        have after : (map.setCreatureList leaf list).leafOf other = none := leafOf
        rw [toMap_creatureList_none also after]
        simp only
        rw [Function.update_of_ne ne, toMap_creatureList_none also leafOf]
      | some id =>
        have after : (map.setCreatureList leaf list).leafOf other = some id := leafOf
        rw [toMap_creatureList also after]
        simp only
        by_cases equal : other = place
        · subst equal
          rw [there] at leafOf
          cases leafOf
          rw [Function.update_self, setCreatureList]
          simp only
          rw [Function.update_self]
        · have ne : id ≠ leaf := by
            intro same_leaf
            subst same_leaf
            exact equal (linked.apart also valid leafOf there)
          rw [Function.update_of_ne equal, toMap_creatureList also leafOf, setCreatureList]
          simp only
          rw [Function.update_of_ne ne]
    · have ne : other ≠ place := by
        intro equal
        rw [equal] at also
        exact also valid
      rw [toMap_creatureList_invalid also]
      simp only
      rw [Function.update_of_ne ne, toMap_creatureList_invalid also]
  · rfl
  · rfl

end

section Leaves

variable
  (linked : Linked map) {place : Leaf} {leaf : Nat} (valid : place.Valid)
  (there : map.leafOf place = some leaf) (creature : Nat)

include linked valid there

lemma nodeAddCreature_toMap :
  SameTree map (map.nodeAddCreature leaf creature) ∧
    (map.nodeAddCreature leaf creature).toMap = map.toMap.nodeAddCreature place creature := by
  have ⟨same, without⟩ :=
    setCreatureList_toMap linked valid there ((map.node leaf).creatureList ++ [creature])
  refine ⟨same, without.trans ?_⟩
  rw [Map.nodeAddCreature, toMap_creatureList valid there]

lemma nodeRemoveCreature_toMap :
  (∀ next, map.nodeRemoveCreature leaf creature = some next →
    SameTree map next) ∧
    (map.nodeRemoveCreature leaf creature).map toMap =
      map.toMap.nodeRemoveCreature place creature := by
  constructor
  · intro next done
    rcases Option.map_eq_some_iff.mp done with ⟨list, _, rfl⟩
    exact (setCreatureList_toMap linked valid there list).1
  · rw [nodeRemoveCreature, Map.nodeRemoveCreature, toMap_creatureList valid there, Option.map_map]
    congr 1
    funext list
    exact (setCreatureList_toMap linked valid there list).2

end Leaves

section Tiles

variable
  (linked : Linked map) {tile : Position}
  (there : map.getTile tile = some tile) (creature : Nat)

include linked there

lemma toMap_creatures : map.toMap.creatures tile = some (map.tile tile).creatures := by
  simp only [toMap]
  rw [there]
  rfl

lemma setCreatures_toMap (list : List Nat) :
  SameTree map (map.setCreatures tile list) ∧
    (map.setCreatures tile list).toMap =
      { map.toMap.clearSpectatorCache with
        creatures := Function.update map.toMap.creatures tile (some list) } := by
  have same : SameTree map (map.setCreatures tile list) :=
    { linked with
      leafOf := fun _ _ => rfl
      leaves := rfl
      leafE := fun _ => rfl
      leafS := fun _ => rfl
      array := fun _ => rfl
      qtNode := fun position => by
        rw [setCreatures]
        simp only
        by_cases equal : position = tile
        · subst equal
          rw [Function.update_self]
        · rw [Function.update_of_ne equal] }
  refine ⟨same, ?_⟩
  apply Map.eq_of
  · intro position
    simp only [toMap]
    rw [same.getTile linked, setCreatures]
    simp only
    by_cases equal : position = tile
    · subst equal
      rw [Function.update_self, there, Option.map_some, Function.update_self]
    · rw [Function.update_of_ne equal]
      cases found : map.getTile position with
      | none => rfl
      | some pointer =>
        have pointed := (linked.tiles found).1
        rw [Option.map_some, Option.map_some, pointed, Function.update_of_ne equal]
  · intro place
    rfl
  · rfl
  · rfl

lemma tileAddThing_toMap :
  SameTree map (map.tileAddThing tile creature) ∧
    map.toMap.tileAddThing tile creature = some (map.tileAddThing tile creature).toMap := by
  have ⟨same, without⟩ := setCreatures_toMap linked there (creature :: (map.tile tile).creatures)
  refine ⟨⟨same.even, same.present, same.leafOf, same.leaves, same.leafE,
    same.leafS, same.array, same.qtNode⟩, ?_⟩
  rw [Map.tileAddThing, toMap_creatures linked there, Option.map_some]
  have placed :
      (map.tileAddThing tile creature).toMap =
        { (map.setCreatures tile
            (creature :: (map.tile tile).creatures)).toMap with
          position := Function.update map.position creature (some tile) } :=
    rfl
  rw [placed, without]
  rfl

lemma tileRemoveThing_toMap :
  SameTree map (map.tileRemoveThing tile creature) ∧
    map.toMap.tileRemoveThing tile creature =
      some (map.tileRemoveThing tile creature).toMap := by
  rw [Map.tileRemoveThing, toMap_creatures linked there, Option.map_some, tileRemoveThing]
  by_cases mem : creature ∈ (map.tile tile).creatures
  · rw [if_pos mem, if_pos mem]
    rcases setCreatures_toMap linked there ((map.tile tile).creatures.erase creature) with ⟨same, without⟩
    exact ⟨same, congrArg some without.symm⟩
  · rw [if_neg mem, if_neg mem]
    exact ⟨⟨linked.even, linked.present, fun _ _ => rfl, rfl, fun _ => rfl,
      fun _ => rfl, fun _ => rfl, fun _ => rfl⟩, rfl⟩

end Tiles

end QuadMap

end OTServ.Spectators
