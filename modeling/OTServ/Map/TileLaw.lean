import OTServ.Map.QuadTreeRuns

/-!
# Tiles that are set are found again

`Map::setTile` keeps the first tile of a position.  The loop of `getLeafStatic` finds
the same leaves as `getLeaf`, and the leaves are linked in a circle: the neighbour of
the last one in a row or column is the first one.
-/

namespace OTServ.Spectators

open OTServ.Map
open List Function

/-- `QTreeNode::getLeafStatic`, with at most so many turns of its loop. -/
def getLeafStatic : Nat → QTreeNode → UInt32 → UInt32 → Option (Option Nat)
  | 0, _, _, _ => none
  | _ + 1, .missing, _, _ => some none
  | _ + 1, .leaf id, _, _ => some (some id)
  | turns + 1, .node child, x, y =>
    match child (childIndex x y) with
    | .missing => some none
    | currentNode => getLeafStatic turns currentNode (x * 2) (y * 2)

lemma getLeafStatic_eq (tree : QTreeNode) (x y : UInt32) :
  ∃ turns, getLeafStatic turns tree x y = some (getLeaf tree x y) := by
  induction tree generalizing x y with
  | missing => exact ⟨1, rfl⟩
  | leaf id => exact ⟨1, rfl⟩
  | node child ih =>
    rcases ih (childIndex x y) (x * 2) (y * 2) with ⟨turns, found⟩
    refine ⟨turns + 1, ?_⟩
    rw [getLeafStatic, getLeaf]
    split
    · rename_i missing
      rw [missing, getLeaf]
    · exact found

structure TileMap where
  map : QuadMap
  object : Position → Nat

namespace TileMap

/-- `Map::setTile`, which keeps a tile that is there. -/
def setTile (tiles : TileMap) (call : Position × Nat) : TileMap where
  map := tiles.map.setTile call.1
  object :=
    if tiles.map.getTile call.1 = none then update tiles.object call.1 call.2
    else tiles.object

/-- `Map::getTile` -/
def getTile (tiles : TileMap) (position : Position) : Option Nat :=
  (tiles.map.getTile position).map tiles.object

def run (calls : List (Position × Nat)) : TileMap :=
  calls.foldl setTile ⟨.empty, fun _ => 0⟩

def firstSet (calls : List (Position × Nat)) (position : Position) : Option Nat :=
  if position.z.toNat < 16 then (calls.find? (·.1 = position)).map (·.2) else none

lemma firstSet_concat (calls : List (Position × Nat)) (call : Position × Nat) (pos : Position) :
  firstSet (calls ++ [call]) pos =
    (firstSet calls pos).or
      (if pos = call.1 ∧ call.1.z.toNat < 16 then some call.2 else none) := by
  rw [firstSet, firstSet]
  by_cases level : pos.z.toNat < 16
  · rw [if_pos level, if_pos level, find?_append, Option.map_or]
    by_cases same : pos = call.1
    · rw [if_pos ⟨same, same ▸ level⟩, same]
      simp
    · rw [if_neg (fun both => same both.1), find?_cons_of_neg (by simpa using Ne.symm same)]
      rfl
  · have outside : ¬ (pos = call.1 ∧ call.1.z.toNat < 16) := fun both =>
      level (both.1 ▸ both.2)
    rw [if_neg level, if_neg level, if_neg outside]
    rfl

variable {map : QuadMap}

lemma getTile_of_linked (linked : QuadMap.Linked map) (pos : Position) :
  map.getTile pos =
    if (map.toMap.creatures pos).isSome then some pos else none := by
  simp only [QuadMap.toMap, Option.isSome_map]
  cases found : map.getTile pos with
  | none => rfl
  | some tile => exact congrArg some (linked.tiles found).1

lemma setTile_getTile (linked : QuadMap.Linked map) (pos other : Position) :
  (map.setTile pos).getTile other =
    if other = pos ∧ pos.z.toNat < 16 then some other
    else map.getTile other := by
  have ⟨next, without⟩ := QuadMap.setTile_toMap linked pos
  rw [getTile_of_linked next, getTile_of_linked linked, without, Map.addTile]
  by_cases free : pos.z.toNat < 16 ∧ (map.toMap.creatures pos).isNone
  · rw [if_pos free]
    by_cases same : other = pos
    · simp only [same, update_self, free.1, and_self, Option.isSome_some, if_true]
    · simp only [update_of_ne same, same, false_and, if_false]
  · rw [if_neg free]
    by_cases both : other = pos ∧ pos.z.toNat < 16
    · rw [if_pos both, both.1]
      have there : (map.toMap.creatures pos).isNone ≠ true := fun none => free ⟨both.2, none⟩
      rw [if_pos (Option.isSome_iff_ne_none.2 fun none => there (by rw [none]; rfl))]
    · rw [if_neg both]

lemma run_kept (calls : List (Position × Nat)) :
  QuadMap.Linked (run calls).map ∧
    ∀ position, (run calls).getTile position = firstSet calls position := by
  induction calls using List.reverseRecOn with
  | nil =>
    refine ⟨QuadMap.empty_kept.charted.linked, fun position => ?_⟩
    rw [getTile, run, foldl_nil, QuadMap.empty_getTile, firstSet]
    split <;> rfl
  | append_singleton calls call ih =>
    rcases ih with ⟨linked, before⟩
    have step : run (calls ++ [call]) = (run calls).setTile call := foldl_concat ..
    rw [step]
    refine ⟨(QuadMap.setTile_toMap linked call.1).1, fun position => ?_⟩
    have here := before position
    rw [getTile] at here ⊢
    rw [firstSet_concat, ← here]
    dsimp only [setTile]
    rw [setTile_getTile linked]
    cases found : (run calls).map.getTile position with
    | some tile =>
      have same : tile = position := (linked.tiles found).1
      have kept : (if (run calls).map.getTile call.1 = none then
          update (run calls).object call.1 call.2 else (run calls).object) position =
          (run calls).object position := by
        split_ifs with free
        · rw [update_of_ne]
          rintro rfl
          cases free.symm.trans found
        · rfl
      rw [same, ite_self, Option.map_some, kept]
      rfl
    | none =>
      by_cases both : position = call.1 ∧ call.1.z.toNat < 16
      · rw [if_pos both, if_pos both, Option.map_some, both.1, if_pos (both.1 ▸ found),
          update_self]
        rfl
      · rw [if_neg both, if_neg both]
        rfl

structure Lawful (tiles : TileMap) (calls : List (Position × Nat)) : Prop where
  tile (position : Position) : tiles.getTile position = firstSet calls position
  leaf (x y : UInt32) : ∃ turns,
    getLeafStatic turns tiles.map.root x y = some (getLeaf tiles.map.root x y)
  east (x y : UInt16) (leaf : Nat) :
    getLeaf tiles.map.root x.toUInt32 y.toUInt32 = some leaf →
      (tiles.map.node leaf).leafE = getLeaf tiles.map.root (x.toUInt32 + 8) y.toUInt32
  south (x y : UInt16) (leaf : Nat) :
    getLeaf tiles.map.root x.toUInt32 y.toUInt32 = some leaf →
      (tiles.map.node leaf).leafS = getLeaf tiles.map.root x.toUInt32 (y.toUInt32 + 8)

/-- After any calls a position has the tile that was set there first, both searches find
the same leaves, and every leaf is linked with its neighbours modulo 2^16. -/
theorem run_lawful (calls : List (Position × Nat)) : Lawful (run calls) calls := by
  have ⟨linked, tile⟩ := run_kept calls
  refine ⟨tile, getLeafStatic_eq _, fun x y leaf there => ?_, fun x y leaf there => ?_⟩
  · rw [QuadMap.getLeaf_leafOf linked.even] at there ⊢
    rw [linked.east (Leaf.valid_ofCoords _ _) there, Leaf.ofCoords_east]
  · rw [QuadMap.getLeaf_leafOf linked.even] at there ⊢
    rw [linked.south (Leaf.valid_ofCoords _ _) there, Leaf.ofCoords_south]

/-- The leaf at the end of a row is linked with the first one, and a second tile is not
set. -/
theorem edge_not_lawful :
  (getLeaf (run [(⟨65535, 100, 7⟩, 1), (⟨0, 100, 7⟩, 2)]).map.root 65535 100 = some 0 ∧
    ((run [(⟨65535, 100, 7⟩, 1), (⟨0, 100, 7⟩, 2)]).map.node 0).leafE ≠ none) ∧
    (run [(⟨100, 100, 7⟩, 1), (⟨100, 100, 7⟩, 2)]).getTile ⟨100, 100, 7⟩ ≠ some 2 := by
  decide +kernel

end TileMap

end OTServ.Spectators
