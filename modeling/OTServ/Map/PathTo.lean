import OTServ.Map.PathSearch

/-!
# The search for the way to a position

`getPathTo` searches from the destination for the position of the creature, and the
directions are read along the parents.  Only the neighbours of nodes are asked whether
they are near enough, so that the destination itself may be too far away.
-/

namespace OTServ.Map.PathTo

open PathSearch
open Housing (Direction)
open List

section Searching

-- the creature stands at `startPos`, `targetPos` is where it wants to go
variable (scene : Scene)

/--
The neighbours of a node are gone through as in the other search when it begins at the
destination, with the creature in the middle of the range.
-/
def backwards : Scene :=
  { scene with
    startPos := scene.targetPos
    targetPos := scene.startPos
    fpp := ⟨true, false, true, scene.fpp.maxSearchDist ≠ -1, -1, 0, scene.fpp.maxSearchDist⟩ }

/-- `getEstimatedDistance` -/
def getEstimatedDistance (x y xGoal yGoal : UInt16) : Nat :=
  let h_diagonal := min (distance x xGoal).natAbs (distance y yGoal).natAbs
  let h_straight := (distance x xGoal).natAbs + (distance y yGoal).natAbs
  25 * h_diagonal + 10 * (h_straight - 2 * h_diagonal)

/-- The nodes carry `g`; here `h` is added to it. -/
def estimated (nodes : AStarNodes) : AStarNodes :=
  { nodes with
    nodes := fun i =>
      let node := nodes.nodes i
      { node with
        f := node.f + getEstimatedDistance node.x node.y scene.startPos.x scene.startPos.y } }

inductive Turn where
  | again (nodes : AStarNodes)
  | left (found : Option Nat)

def turn (nodes : AStarNodes) : Turn :=
  if scene.fpp.maxSearchDist ≠ -1 || nodes.countClosedNodes < 100 then
    match (estimated scene nodes).getBestNode with
    | none => .left none
    | some n =>
      if (nodes.nodes n).x = scene.startPos.x && (nodes.nodes n).y = scene.startPos.y then
        .left (some n)
      else
        match visit (backwards scene) n false (neighbourOrderList (backwards scene)) nodes with
        | none => .left none
        | some nodes => .again (nodes.closeNode n)
  else .left none

def run : Nat → AStarNodes → Option (Option Nat × AStarNodes)
  | 0, _ => none
  | turns + 1, nodes =>
    match turn scene nodes with
    | .again next => run turns next
    | .left found => some (found, nodes)

def follow (nodes : AStarNodes) : Nat → Position → Option Nat → Option (List Direction)
  | 0, _, _ => none
  | _ + 1, _, none => some []
  | turns + 1, prev, some found =>
    let pos := nodes.pos (backwards scene) found
    (follow nodes turns pos (nodes.nodes found).parent).map ((directionOf prev pos).toList ++ ·)

/-- `Map::getPathTo`, with at most so many turns of both loops. -/
def getPathTo (turns steps : Nat) : Option (Bool × List Direction) :=
  if (canWalkTo scene scene.targetPos).isNone || scene.targetPos.z ≠ scene.startPos.z then
    some (false, [])
  else
    match run scene turns (begin (backwards scene)).nodes with
    | none => none
    | some (found, nodes) =>
      (follow scene nodes steps scene.startPos found).map
        fun listDir => (!listDir.isEmpty, listDir)

/-- What is promised of the directions. -/
structure LeadsTo (listDir : List Direction) : Prop where
  walks : ∀ pos ∈ visited scene.startPos listDir, (canWalkTo scene pos).isSome
  near : scene.fpp.maxSearchDist ≠ -1 → ∀ pos ∈ visited scene.startPos listDir,
    pos ≠ scene.targetPos →
      |distance scene.startPos.x pos.x| ≤ scene.fpp.maxSearchDist ∧
        |distance scene.startPos.y pos.y| ≤ scene.fpp.maxSearchDist
  ends : listDir.foldl Direction.next scene.startPos = scene.targetPos

end Searching

variable {scene : Scene} {nodes : AStarNodes} {expanded : List Nat} {listDir : List Direction}
  {n turns : Nat} {pos : Position}

lemma inRange_backwards :
  inRange (backwards scene) pos = true ↔ (scene.fpp.maxSearchDist ≠ -1 →
    |distance scene.startPos.x pos.x| ≤ scene.fpp.maxSearchDist ∧
      |distance scene.startPos.y pos.y| ≤ scene.fpp.maxSearchDist) := by
  have axis (start target test : UInt16) :
      inAxisRange (backwards scene).fpp start target test = true ↔
        |distance target test| ≤ scene.fpp.maxSearchDist := by
    rw [distance_comm, abs_neg, abs_le', neg_le]
    simp [inAxisRange, backwards]
  have keeps : (backwards scene).fpp.keepDistance = decide (scene.fpp.maxSearchDist ≠ -1) := rfl
  have anywhere : (backwards scene).fpp.maxSearchDist = -1 := rfl
  have middle : (backwards scene).targetPos = scene.startPos := rfl
  rw [inRange, isInRange, ← or_iff_not_imp_left]
  simp [keeps, anywhere, middle, axis]

lemma opposite_listed :
  ∀ offset ∈ neighbourOrderList (backwards scene),
    (-offset.1, -offset.2) ∈ neighbourOrderList (backwards scene) := by
  have all : neighbourOrderList (backwards scene) =
      [(-1, 0), (0, 1), (1, 0), (0, -1), (-1, -1), (1, -1), (1, 1), (-1, 1)] := rfl
  rw [all]
  decide

def TurnFine (scene : Scene) (nodes : AStarNodes) : Turn → Prop
  | .again next => (∃ expanded, Kept (backwards scene) expanded next) ∧
      Prod.Lex (· < ·) (Prod.Lex (· < ·) (· < ·)) next.measure nodes.measure
  | .left found => ∀ n ∈ found, n < nodes.curNode ∧
      (nodes.nodes n).x = scene.startPos.x ∧ (nodes.nodes n).y = scene.startPos.y

lemma turn_fine (kept : Kept (backwards scene) expanded nodes) :
  TurnFine scene nodes (turn scene nodes) := by
  unfold turn
  split
  · split
    · exact nofun
    · rename_i n best
      have spec := getBestNode_spec best
      split
      · rename_i here
        rw [Bool.and_eq_true, decide_eq_true_eq, decide_eq_true_eq] at here
        rintro m ⟨⟩
        exact ⟨spec.1, here⟩
      · split
        · exact nofun
        · rename_i after visited
          rcases kept.grow.visit spec.1 (mem_append_right _ (mem_singleton_self n))
            (fun _ listed => listed) visited with ⟨keptAfter, improves⟩
          exact ⟨⟨_, keptAfter.root, keptAfter.start, keptAfter.reached, keptAfter.parent⟩,
            improves.measure_lt spec.1 spec.2⟩
  · exact nofun

lemma run_ends {nodes : AStarNodes} (kept : ∃ expanded, Kept (backwards scene) expanded nodes) :
  ∃ turns, (run scene turns nodes).isSome := by
  have fine := kept.elim fun _ kept => turn_fine kept
  cases turned : turn scene nodes with
  | left found => exact ⟨1, by rw [run, turned]; rfl⟩
  | again next =>
    rw [turned] at fine
    have less := fine.2
    rcases run_ends fine.1 with ⟨turns, ends⟩
    exact ⟨turns + 1, by simpa only [run, turned] using ends⟩
termination_by nodes.measure
decreasing_by exact less

lemma run_fine {found : Option Nat} {last : AStarNodes}
  (kept : ∃ expanded, Kept (backwards scene) expanded nodes)
  (ran : run scene turns nodes = some (found, last)) :
  (∃ expanded, Kept (backwards scene) expanded last) ∧ TurnFine scene last (.left found) := by
  induction turns generalizing nodes with
  | zero => cases ran
  | succ turns ih =>
    have fine := kept.elim fun _ kept => turn_fine kept
    rw [run] at ran
    cases turned : turn scene nodes with
    | left found =>
      rw [turned] at ran fine
      cases ran
      exact ⟨kept, fine⟩
    | again next =>
      rw [turned] at ran fine
      exact ih fine.1 ran

lemma follow_ends (kept : Kept (backwards scene) expanded nodes) (isNode : n < nodes.curNode)
  (enough : (nodes.nodes n).f < turns) :
  (follow scene nodes turns (nodes.pos (backwards scene) n) (nodes.nodes n).parent).isSome := by
  induction turns generalizing n with
  | zero => cases enough
  | succ turns ih =>
    by_cases isStart : n = 0
    · rw [isStart, kept.start]
      rfl
    · rcases kept.parent n isNode isStart with ⟨up, -, isUp, isParent, less, -⟩
      rw [isParent, follow, Option.isSome_map]
      exact ih isUp (by omega)

lemma follow_leads (inside : StaysInside (backwards scene))
  (kept : Kept (backwards scene) expanded nodes) (isNode : n < nodes.curNode)
  (followed : follow scene nodes turns (nodes.pos (backwards scene) n)
    (nodes.nodes n).parent = some listDir) :
  listDir.foldl Direction.next (nodes.pos (backwards scene) n) = scene.targetPos ∧
    ∀ pos ∈ visited (nodes.pos (backwards scene) n) listDir,
      pos = scene.targetPos ∨ Walkable (backwards scene) pos := by
  have start : nodes.pos (backwards scene) 0 = scene.targetPos := by
    rw [AStarNodes.pos, kept.start]
    rfl
  induction turns generalizing n listDir with
  | zero => cases followed
  | succ turns ih =>
    by_cases isStart : n = 0
    · subst isStart
      rw [kept.start] at followed
      cases followed
      exact ⟨start, fun _ mem => absurd mem not_mem_nil⟩
    · rcases kept.parent n isNode isStart with
        ⟨up, -, isUp, isParent, -, offset, listed, beside, walkable⟩
      have steps := inside _ offset listed (kept.reached up isUp) (beside ▸ walkable)
      rw [← beside] at steps
      -- the way leads back over the step that was taken
      have back (x y : UInt16) {one : Int} (there : distance x y = one) : distance y x = -one := by
        rw [distance_comm, there]
      have level : (nodes.pos (backwards scene) up).z = (nodes.pos (backwards scene) n).z := rfl
      rcases directionOf_neighbour (opposite_listed offset listed) level
        (back _ _ steps.1) (back _ _ steps.2) with ⟨direction, isDirection, isNext, -⟩
      rw [isParent, follow] at followed
      rcases Option.map_eq_some_iff.1 followed with ⟨rest, isRest, rfl⟩
      rcases ih isUp isRest with ⟨ends, walks⟩
      rw [isDirection]
      refine ⟨?_, forall_mem_cons.2 ⟨?_, ?_⟩⟩
      · change rest.foldl Direction.next (direction.next _) = _
        rw [isNext, ends]
      · rw [isNext]
        by_cases isEnd : up = 0
        · exact .inl (isEnd ▸ start)
        · rcases kept.parent up isUp isEnd with ⟨-, -, -, -, -, -, -, -, walkableUp⟩
          exact .inr walkableUp
      · rw [isNext]
        exact walks

/-! ## The path -/

lemma follow_found (level : scene.targetPos.z = scene.startPos.z)
  (x : (nodes.nodes n).x = scene.startPos.x) (y : (nodes.nodes n).y = scene.startPos.y) :
  nodes.pos (backwards scene) n = scene.startPos ∧
    follow scene nodes (turns + 1) scene.startPos (some n) =
      follow scene nodes turns (nodes.pos (backwards scene) n) (nodes.nodes n).parent := by
  have here : nodes.pos (backwards scene) n = scene.startPos := by
    rw [AStarNodes.pos, x, y]
    exact congrArg (Position.mk _ _) level
  have stays : directionOf scene.startPos scene.startPos = none := by
    simp [directionOf, distance]
  refine ⟨here, ?_⟩
  rw [follow, here, stays]
  exact Option.map_id'

lemma begin_kept : ∃ expanded, Kept (backwards scene) expanded (begin (backwards scene)).nodes :=
  ⟨_, begin_fine.kept⟩

lemma getPathTo_ends (scene : Scene) : ∃ turns steps, (getPathTo scene turns steps).isSome := by
  rcases run_ends (@begin_kept scene) with ⟨turns, ends⟩
  rcases Option.isSome_iff_exists.1 ends with ⟨⟨found, nodes⟩, ran⟩
  rcases run_fine begin_kept ran with ⟨⟨expanded, kept⟩, isFound⟩
  unfold getPathTo
  split
  · exact ⟨0, 0, rfl⟩
  · rename_i allowed
    rw [Bool.or_eq_true, decide_eq_true_eq, not_or, not_not] at allowed
    cases found with
    | none => exact ⟨turns, 1, by rw [ran]; rfl⟩
    | some n =>
      rcases isFound n rfl with ⟨isNode, x, y⟩
      refine ⟨turns, (nodes.nodes n).f + 2, ?_⟩
      simp only [ran, Option.isSome_map]
      rw [(follow_found allowed.2 x y).2]
      exact follow_ends kept isNode (Nat.lt_succ_self _)

lemma leadsTo_of_returned {steps : Nat} (inside : StaysInside (backwards scene))
  (got : getPathTo scene turns steps = some (true, listDir)) : LeadsTo scene listDir := by
  unfold getPathTo at got
  split at got
  · cases got
  · rename_i allowed
    rw [Bool.or_eq_true, decide_eq_true_eq, not_or, not_not] at allowed
    split at got
    · cases got
    · rename_i found nodes ran
      rcases run_fine begin_kept ran with ⟨⟨expanded, kept⟩, isFound⟩
      rcases Option.map_eq_some_iff.1 got with ⟨list, isList, same⟩
      rcases Prod.mk.inj same with ⟨notEmpty, rfl⟩
      cases steps with
      | zero => cases isList
      | succ steps =>
        cases found with
        | none =>
          cases isList
          cases notEmpty
        | some n =>
          rcases isFound n rfl with ⟨isNode, x, y⟩
          rcases follow_found allowed.2 x y with ⟨here, follows⟩
          rw [follows] at isList
          rcases follow_leads inside kept isNode isList with ⟨ends, walks⟩
          rw [here] at ends walks
          refine ⟨fun pos mem => ?_, fun bounded pos mem other => ?_, ends⟩
          · rcases walks pos mem with rfl | walkable
            · exact Option.isSome_iff_ne_none.2 (mt Option.isNone_iff_eq_none.2 allowed.1)
            · exact walkable.2
          · exact inRange_backwards.1 ((walks pos mem).resolve_left other).1 bounded

/-- Three tiles in a row; the creature wants to go from one end to the other. -/
def hall : Scene where
  startPos := ⟨100, 100, 7⟩
  targetPos := ⟨102, 100, 7⟩
  fpp := ⟨true, false, true, false, 1, 0, 0⟩
  isSightClear _ := true
  getWalkCache pos :=
    if pos ∈ ([⟨100, 100, 7⟩, ⟨101, 100, 7⟩, ⟨102, 100, 7⟩] : List Position) then 1 else 0
  getTile _ := some 0
  ownTile := none
  queryAdd _ := true
  hasCreatures _ := false
  fieldType _ := none
  isImmune _ := false

lemma hall_inside : StaysInside (backwards hall) := by
  have isTile {pos : Position} (walkable : Walkable (backwards hall) pos) :
      pos ∈ ([⟨100, 100, 7⟩, ⟨101, 100, 7⟩, ⟨102, 100, 7⟩] : List Position) := by
    by_contra other
    have walks := walkable.2
    rw [canWalkTo, show (backwards hall).getWalkCache pos = 0 from if_neg other] at walks
    cases walks
  intro pos offset listed reached walkable
  have place : pos ∈ ([⟨100, 100, 7⟩, ⟨101, 100, 7⟩, ⟨102, 100, 7⟩] : List Position) := by
    cases reached with
    | start => decide
    | step _ _ walks => exact isTile walks
  clear reached walkable isTile
  revert offset
  revert pos
  decide

end OTServ.Map.PathTo
