import OTServ.Map.PathSearch

/-!
# The path that is found is a cheapest one

No node whose turn has come meets the condition exactly, and all its neighbours have
nodes that cost at most a step more.  A path to where the condition is met exactly
comes to an open node, therefore, and the search takes the cheapest of these.
-/

namespace OTServ.Map.PathSearch

open Housing (Direction)
open List Function

section Costs

variable (scene : Scene)

def enter (pos : Position) : Nat := (canWalkTo scene pos).elim 0 (getTileWalkCost scene)

def cost : Position → List Direction → Nat
  | _, [] => 0
  | pos, direction :: directions =>
    (if direction.canChangeFloor then 10 else 25) + enter scene (direction.next pos) +
      cost (direction.next pos) directions

def Exact (pos : Position) : Prop := pathCondition scene pos 0 = (true, 0)

/-- These neighbours have nodes which cost at most a step more. -/
def Covers (nodes : AStarNodes) (n : Nat) (offsets : List (Int × Int)) : Prop :=
  ∀ offset ∈ offsets, Walkable scene (neighbour scene (nodes.pos scene n) offset) →
    ∃ i < nodes.curNode, nodes.pos scene i = neighbour scene (nodes.pos scene n) offset ∧
      (nodes.nodes i).f ≤ (nodes.nodes n).f +
        getMapWalkCost (nodes.pos scene n) (nodes.pos scene i) + enter scene (nodes.pos scene i)

/-- A node costs at least what its parent and the step from there cost. -/
def Parents (nodes : AStarNodes) : Prop :=
  ∀ i < nodes.curNode, ∀ n ∈ (nodes.nodes i).parent, n < nodes.curNode ∧
    (nodes.nodes n).f + getMapWalkCost (nodes.pos scene n) (nodes.pos scene i) +
        enter scene (nodes.pos scene i) ≤ (nodes.nodes i).f

/-- Nodes whose turn has come are not where the condition is met, and are left. -/
structure Settled (nodes : AStarNodes) : Prop where
  closed : ∀ i < nodes.curNode, nodes.openNodes i = false →
    ¬ Exact scene (nodes.pos scene i) ∧ Covers scene nodes i (neighbourOrderList scene)
  parents : Parents scene nodes

structure Spreads (n : Nat) (offsets : List (Int × Int)) (nodes after : AStarNodes) : Prop where
  covers : Covers scene after n offsets
  same : after.nodes n = nodes.nodes n
  closed : ∀ i < after.curNode, after.openNodes i = false →
    i < nodes.curNode ∧ nodes.openNodes i = false ∧ after.nodes i = nodes.nodes i
  parents : Parents scene nodes → Parents scene after

end Costs

variable {scene : Scene} {nodes mid after : AStarNodes} {search next : Search}
  {expanded : List Nat} {n place newf : Nat} {pos : Position} {offset : Int × Int}
  {offsets more : List (Int × Int)} {found : Bool}

/-! ## The nodes -/

lemma Covers.mono (covers : Covers scene nodes n offsets) (improves : Improves scene nodes after)
  (isNode : n < nodes.curNode) (same : after.nodes n = nodes.nodes n) :
  Covers scene after n offsets := by
  have samePos : after.pos scene n = nodes.pos scene n := improves.pos n isNode
  intro offset listed walkable
  rw [samePos] at walkable
  rcases covers offset listed walkable with ⟨i, isThere, at', few⟩
  have stays := improves.pos i isThere
  refine ⟨i, isThere.trans_le improves.room, ?_, ?_⟩
  · rw [stays, samePos, at']
  · rw [stays, samePos, same]
    exact (improves.cheaper i isThere).trans few

lemma Spreads.trans (first : Spreads scene n offsets nodes mid)
  (second : Spreads scene n more mid after) (improves : Improves scene mid after)
  (isNode : n < mid.curNode) : Spreads scene n (offsets ++ more) nodes after where
  covers := forall_mem_append.2 ⟨first.covers.mono improves isNode second.same, second.covers⟩
  same := second.same.trans first.same
  closed i less isClosed := by
    rcases second.closed i less isClosed with ⟨lessMid, closedMid, same⟩
    rcases first.closed i lessMid closedMid with ⟨lessFirst, closedFirst, sameFirst⟩
    exact ⟨lessFirst, closedFirst, same.trans sameFirst⟩
  parents := second.parents ∘ first.parents

lemma Spreads.of_cheap (isNode : place < nodes.curNode)
  (isThere : nodes.pos scene place = neighbour scene (nodes.pos scene n) offset)
  (cheap : (nodes.nodes place).f ≤ (nodes.nodes n).f +
    getMapWalkCost (nodes.pos scene n) (nodes.pos scene place) +
      enter scene (nodes.pos scene place)) : Spreads scene n [offset] nodes nodes :=
  ⟨forall_mem_singleton.2 fun _ => ⟨place, isNode, isThere, cheap⟩, rfl,
    fun _ less closed => ⟨less, closed, rfl⟩, id⟩

lemma Fits.spreads (isNext : pos = neighbour scene (nodes.pos scene n) offset)
  (cost : newf = (nodes.nodes n).f + getMapWalkCost (nodes.pos scene n) pos + enter scene pos)
  (isNode : n < nodes.curNode) (fits : Fits scene nodes place pos newf) :
  Spreads scene n [offset] nodes (nodes.put place ⟨pos.x, pos.y, some n, newf⟩) := by
  have improves := fits.improves (n := n)
  obtain ⟨own, ownPos, others, old⟩ := fits.put_spec (n := n)
  -- the node itself is not dearer than the step from it
  have notSelf : n ≠ place := by
    rintro rfl
    rcases fits.2 with ⟨atEnd, -⟩ | ⟨-, -, less⟩
    · omega
    · have paid : 0 < getMapWalkCost (nodes.pos scene n) pos := by
        unfold getMapWalkCost
        split <;> decide
      omega
  have samePos := improves.pos n isNode
  refine ⟨forall_mem_singleton.2 fun _ => ⟨place, ?_, ?_, ?_⟩, others n notSelf,
    fun i less isClosed => ?_, fun parents i less up isParent => ?_⟩
  · exact Nat.lt_of_succ_le (le_max_right _ _)
  · rw [ownPos, samePos, isNext]
  · rw [own, ownPos, samePos, others n notSelf, cost]
  · have other : i ≠ place := by
      rintro rfl
      exact absurd isClosed (by simp [AStarNodes.put])
    have open' : (nodes.put place ⟨pos.x, pos.y, some n, newf⟩).openNodes i =
        nodes.openNodes i :=
      update_of_ne other _ _
    exact ⟨old i other less, open' ▸ isClosed, others i other⟩
  · by_cases same : i = place
    · rw [same, own] at isParent
      cases isParent
      refine ⟨isNode.trans_le improves.room, ?_⟩
      rw [same, own, ownPos, samePos, others n notSelf, cost]
    · rw [others i same] at isParent ⊢
      rcases parents i (old i same less) up isParent with ⟨isUp, paid⟩
      rw [improves.pos up isUp, improves.pos i (old i same less)]
      have sinks := improves.cheaper up isUp
      exact ⟨isUp.trans_le improves.room, by omega⟩

lemma Kept.visit_spreads (kept : Kept scene expanded nodes) (isNode : n < nodes.curNode)
  (mem : n ∈ expanded) (listed : ∀ offset ∈ offsets, offset ∈ neighbourOrderList scene)
  (visited : PathSearch.visit scene n found offsets nodes = some after)
  (room : after.curNode < maxNodes) : Spreads scene n offsets nodes after := by
  induction offsets generalizing nodes with
  | nil =>
    cases visited
    exact ⟨fun _ mem => absurd mem not_mem_nil, rfl,
      fun _ less closed => ⟨less, closed, rfl⟩, id⟩
  | cons offset offsets ih =>
    have later := fun one isThere => listed one (mem_cons_of_mem offset isThere)
    rcases visit_cons visited with ⟨blocked, visited⟩ | ⟨tile, walkable, walks, turn⟩
    · have none : Spreads scene n [offset] nodes nodes :=
        ⟨forall_mem_singleton.2 fun walkable => absurd walkable blocked, rfl,
          fun _ less closed => ⟨less, closed, rfl⟩, id⟩
      exact none.trans (ih kept isNode later visited)
        (kept.visit isNode mem later visited).2 isNode
    · have tileCost : getTileWalkCost scene tile =
          enter scene (neighbour scene (nodes.pos scene n) offset) := by
        rw [enter, walks]
        rfl
      dsimp only at turn
      rw [tileCost] at turn
      rcases turn with ⟨place, isThere, here, cheap, visited⟩ | ⟨place, fits, visited⟩ | ⟨full, rfl⟩
      · rw [← here] at cheap
        exact (Spreads.of_cheap isThere here cheap).trans (ih kept isNode later visited)
          (kept.visit isNode mem later visited).2 isNode
      · have isNodeMid := isNode.trans_le (fits.improves (n := n)).room
        have keptMid :=
          kept.put isNode mem (listed offset mem_cons_self) rfl walkable (lt_newf ..) fits
        exact (Fits.spreads rfl rfl isNode fits).trans (ih keptMid isNodeMid later visited)
          (keptMid.visit isNodeMid mem later visited).2 isNodeMid
      · exact absurd room (Nat.not_lt.mpr full)

lemma getBestNode_least
  (best : nodes.getBestNode = some n) (i : Nat) (isNode : i < nodes.curNode)
  (isOpen : nodes.openNodes i) : (nodes.nodes n).f ≤ (nodes.nodes i).f := by
  suffices all : ∀ (list : List Nat) (best last : Option Nat),
      list.foldl
        (fun best i =>
          if (nodes.nodes i).f < best.elim 100000 (fun n => (nodes.nodes n).f) ∧
              nodes.openNodes i then some i
          else best) best = last →
      last.elim 100000 (fun n => (nodes.nodes n).f) ≤
        best.elim 100000 (fun n => (nodes.nodes n).f) ∧
      ∀ i ∈ list, nodes.openNodes i →
        last.elim 100000 (fun n => (nodes.nodes n).f) ≤ (nodes.nodes i).f from
    (all _ _ _ best).2 i (mem_range.2 isNode) isOpen
  intro list
  induction list with
  | nil => exact fun _ _ same => ⟨same ▸ le_rfl, nofun⟩
  | cons first list ih =>
    intro best last folded
    rcases ih _ _ folded with ⟨less, rest⟩
    rw [forall_mem_cons]
    dsimp only at less
    split at less
    · rename_i better
      exact ⟨less.trans better.1.le, fun _ => less, rest⟩
    · rename_i worse
      exact ⟨less, fun isOpen => less.trans (Nat.le_of_not_lt fun lower =>
        worse ⟨lower, isOpen⟩), rest⟩

lemma Settled.close (settled : Settled scene nodes) (improves : Improves scene nodes after)
  (isNode : n < nodes.curNode) (notExact : ¬ Exact scene (nodes.pos scene n))
  (spreads : Spreads scene n (neighbourOrderList scene) nodes after) :
  Settled scene (after.closeNode n) where
  closed i less isClosed := by
    by_cases same : i = n
    · subst same
      have stays : after.pos scene i = nodes.pos scene i := improves.pos i isNode
      exact ⟨fun exact => notExact (stays ▸ exact), spreads.covers⟩
    · have closedAfter : after.openNodes i = false := (update_of_ne same _ _).symm.trans isClosed
      rcases spreads.closed i less closedAfter with ⟨lessBefore, closedBefore, sameNode⟩
      rcases settled.closed i lessBefore closedBefore with ⟨notExact, covers⟩
      have stays : after.pos scene i = nodes.pos scene i := improves.pos i lessBefore
      have covered : Covers scene after i _ := covers.mono improves lessBefore sameNode
      exact ⟨fun exact => notExact (stays ▸ exact), covered⟩
  parents := spreads.parents settled.parents

/-! ## The search -/

lemma exact_iff {best : Int} (start : 0 ≤ best) (near : scene.fpp.maxTargetDist = 1 → best = 0) :
  (pathCondition scene pos best).1 ∧ (pathCondition scene pos best).2 = 0 ↔ Exact scene pos := by
  unfold Exact pathCondition
  dsimp only
  split_ifs <;> simp <;> omega

structure Settling (scene : Scene) (search : Search) : Prop where
  fine : Fine scene search
  settled : Settled scene search.nodes
  near : scene.fpp.maxTargetDist = 1 → search.bestMatch = 0
  notYet : ∀ n ∈ search.found, ¬ Exact scene search.endPos

lemma begin_settling : Settling scene (begin scene) where
  fine := begin_fine
  settled :=
    { closed := fun i less isClosed => by
        rw [Nat.lt_one_iff.1 less] at isClosed
        cases isClosed
      parents := fun _ _ _ isParent => by cases isParent }
  near _ := rfl
  notYet := nofun

lemma Settling.ask (settling : Settling scene search) (isNode : n < search.nodes.curNode)
  (notExact : ¬ Exact scene (search.nodes.pos scene n)) :
  Settling scene (ask scene search n) where
  fine := settling.fine.ask isNode
  settled := settling.settled
  near far := by
    have best := settling.near far
    dsimp only [PathSearch.ask, pathCondition]
    split_ifs <;> exact best
  notYet m isFound := by
    dsimp only [PathSearch.ask] at isFound ⊢
    split_ifs at isFound ⊢
    · exact notExact
    · exact settling.notYet m isFound

lemma turn_left {answer : Bool} (left : turn scene search = .left answer next) :
  next.nodes = search.nodes := by
  unfold turn expand at left
  dsimp only at left
  split at left
  · split at left
    · cases left
      rfl
    · split at left
      · cases left
        rfl
      · split at left
        · cases left
          rfl
        · cases left
  · cases left
    rfl

lemma Fine.run_room {turns : Nat} {answer : Bool}
  (fine : Fine scene search) (ran : PathSearch.run scene turns search = some (answer, next))
  (room : next.nodes.curNode < maxNodes) : search.nodes.curNode < maxNodes := by
  induction turns generalizing search with
  | zero => cases ran
  | succ turns ih =>
    have turnFine := fine.turn
    rw [PathSearch.run] at ran
    cases turned : PathSearch.turn scene search with
    | left answer last =>
      rw [turned] at ran
      cases ran
      rwa [← turn_left turned]
    | again last =>
      rw [turned] at ran turnFine
      have roomLast := ih turnFine.1 ran
      have measures := turnFine.2
      rw [AStarNodes.measure, AStarNodes.measure, Prod.lex_def] at measures
      omega

lemma Settling.left {answer : Bool}
  (settling : Settling scene search) (left : turn scene search = .left answer next)
  (isFound : n ∈ next.found) (exact : Exact scene next.endPos) :
  Settled scene next.nodes ∧ next.nodes.getBestNode = some n := by
  unfold turn at left
  split at left
  · split at left
    · cases left
      exact absurd exact (settling.notYet n isFound)
    · rename_i m best
      have isNode := (getBestNode_spec best).1
      unfold expand at left
      by_cases isExact : Exact scene (search.nodes.pos scene m)
      · have met := (exact_iff settling.fine.best settling.near).2 isExact
        rw [if_pos met] at left
        cases left
        dsimp only [PathSearch.ask] at isFound
        rw [if_pos met.1] at isFound
        cases isFound
        exact ⟨settling.settled, best⟩
      · dsimp only at left
        rw [if_neg (mt (exact_iff settling.fine.best settling.near).1 isExact)] at left
        split at left
        · cases left
          exact absurd exact ((settling.ask isNode isExact).notYet n isFound)
        · cases left
  · cases left
    exact absurd exact (settling.notYet n isFound)

lemma Settling.again (settling : Settling scene search) (again : turn scene search = .again next)
  (room : next.nodes.curNode < maxNodes) : Settling scene next := by
  have turnFine := settling.fine.turn
  rw [again] at turnFine
  unfold turn at again
  split at again
  · split at again
    · cases again
    · rename_i m best
      have isNode := (getBestNode_spec best).1
      unfold expand at again
      dsimp only at again
      split at again
      · cases again
      · rename_i notMet
        have notExact : ¬ Exact scene (search.nodes.pos scene m) :=
          fun isExact => notMet ((exact_iff settling.fine.best settling.near).2 isExact)
        have asked := settling.ask isNode notExact
        have isExpanded : m ∈ (PathSearch.ask scene search m).expanded :=
          mem_append_right _ (mem_singleton_self m)
        split at again
        · cases again
        · rename_i nodes visited
          cases again
          have kept := asked.fine.kept
          have improves := (kept.visit isNode isExpanded (fun _ listed => listed) visited).2
          have spreads := kept.visit_spreads isNode isExpanded (fun _ listed => listed)
            visited room
          exact ⟨turnFine.1, asked.settled.close improves isNode notExact spreads,
            asked.near, asked.notYet⟩
  · cases again

lemma Settling.run {turns : Nat} {answer : Bool} (settling : Settling scene search)
  (ran : run scene turns search = some (answer, next)) (room : next.nodes.curNode < maxNodes)
  (isFound : n ∈ next.found) (exact : Exact scene next.endPos) :
  Settled scene next.nodes ∧ next.nodes.getBestNode = some n := by
  induction turns generalizing search with
  | zero => cases ran
  | succ turns ih =>
    have turnFine := settling.fine.turn
    rw [PathSearch.run] at ran
    cases turned : PathSearch.turn scene search with
    | left answer last =>
      rw [turned] at ran
      cases ran
      exact settling.left turned isFound exact
    | again last =>
      rw [turned] at ran turnFine
      exact ih (settling.again turned (turnFine.1.run_room ran room)) ran

def towards : Direction → Int × Int
  | .north => (0, -1)
  | .south => (0, 1)
  | .west => (-1, 0)
  | .east => (1, 0)
  | .southwest => (-1, 1)
  | .northwest => (-1, -1)
  | .northeast => (1, -1)
  | .southeast => (1, 1)

lemma towards_listed {direction : Direction}
  (diagonal : direction.canChangeFloor = false → scene.fpp.allowDiagonal) :
  towards direction ∈ neighbourOrderList scene := by
  unfold neighbourOrderList
  cases direction <;> simp [towards]
  all_goals exact diagonal rfl

lemma neighbour_towards (direction : Direction) (level : pos.z = scene.startPos.z) :
  neighbour scene pos (towards direction) = direction.next pos := by
  have same (x : UInt16) : UInt16.ofInt x.toNat = x := by
    have bound := x.toNat_lt
    rw [← UInt16.toNat_inj]
    simp only [UInt16.ofInt, UInt16.toNat_ofNat']
    omega
  unfold neighbour
  cases direction <;>
    simp only [towards, Direction.next, UInt16.ofInt_add, same, ← level, add_zero,
      UInt16.ofInt_one, UInt16.ofInt_neg_one, ← UInt16.sub_eq_add_neg]

lemma getMapWalkCost_next {direction : Direction}
  (inside : StaysInside scene) (reached : Reached scene pos) (level : pos.z = scene.startPos.z)
  (diagonal : direction.canChangeFloor = false → scene.fpp.allowDiagonal)
  (walkable : Walkable scene (direction.next pos)) :
  getMapWalkCost pos (direction.next pos) = if direction.canChangeFloor then 10 else 25 := by
  have isNext := neighbour_towards direction level
  have steps := inside pos _ (towards_listed diagonal) reached (isNext.symm ▸ walkable)
  rw [isNext] at steps
  rw [getMapWalkCost, distance_comm pos.x, distance_comm pos.y, steps.1, steps.2]
  cases direction <;> rfl

lemma cost_append (pos : Position) (directions : List Direction) (last : Direction) :
  cost scene pos (directions ++ [last]) =
    cost scene pos directions + ((if last.canChangeFloor then 10 else 25) +
      enter scene (last.next (directions.foldl Direction.next pos))) := by
  induction directions generalizing pos with
  | nil => simp [cost]
  | cons direction directions ih =>
    rw [cons_append, cost, ih, cost, foldl_cons]
    exact (Nat.add_assoc _ _ _).symm

/-- Any path from a node to an exact match costs as much as the cheapest open node. -/
lemma Settled.least (settled : Settled scene nodes) (kept : Kept scene expanded nodes)
  (inside : StaysInside scene) (best : nodes.getBestNode = some n) {directions : List Direction}
  {i : Nat} (isNode : i < nodes.curNode)
  (ends : Exact scene (directions.foldl Direction.next (nodes.pos scene i)))
  (walkable : ∀ one ∈ PathSearch.visited (nodes.pos scene i) directions, Walkable scene one)
  (diagonal : ∀ direction ∈ directions, direction.canChangeFloor = false →
    scene.fpp.allowDiagonal) :
  (nodes.nodes n).f ≤ (nodes.nodes i).f + cost scene (nodes.pos scene i) directions := by
  induction directions generalizing i with
  | nil =>
    by_cases isOpen : nodes.openNodes i
    · exact getBestNode_least best i isNode isOpen
    · exact absurd ends (settled.closed i isNode (Bool.eq_false_of_not_eq_true isOpen)).1
  | cons direction directions ih =>
    by_cases isOpen : nodes.openNodes i
    · exact (getBestNode_least best i isNode isOpen).trans (Nat.le_add_right _ _)
    · have covers := (settled.closed i isNode (Bool.eq_false_of_not_eq_true isOpen)).2
      have allowed := diagonal direction mem_cons_self
      have here := walkable _ mem_cons_self
      have isNext : neighbour scene (nodes.pos scene i) (towards direction) =
          direction.next (nodes.pos scene i) :=
        neighbour_towards direction rfl
      rcases covers _ (towards_listed allowed) (isNext ▸ here) with ⟨j, isThere, at', few⟩
      rw [isNext] at at'
      have paid := getMapWalkCost_next inside (kept.reached i isNode) rfl allowed here
      rw [at', paid] at few
      have rest := ih isThere (at' ▸ ends)
        (fun one mem => walkable one (mem_cons_of_mem _ (at' ▸ mem)))
        fun one mem => diagonal one (mem_cons_of_mem _ mem)
      rw [at'] at rest
      rw [cost]
      omega

lemma Kept.trace_cost (kept : Kept scene expanded nodes) (parents : Parents scene nodes)
  (inside : StaysInside scene) {steps : Nat} {rest list : List Direction}
  (isNode : n < nodes.curNode)
  (traced : PathSearch.trace scene nodes steps (nodes.pos scene n) (nodes.nodes n).parent
    rest = some list) :
  ∃ dirList, list = dirList ++ rest ∧ Leads scene dirList (nodes.pos scene n) ∧
    cost scene scene.startPos dirList ≤ (nodes.nodes n).f := by
  induction steps generalizing n rest with
  | zero => cases traced
  | succ steps ih =>
    by_cases isStart : n = 0
    · subst isStart
      rw [kept.start] at traced
      cases traced
      refine ⟨[], rfl, ⟨?_, nofun, nofun⟩, Nat.zero_le _⟩
      rw [AStarNodes.pos, kept.start]
      rfl
    · rcases kept.parent n isNode isStart with
        ⟨up, -, isUp, isParent, -, offset, listed, beside, walkable⟩
      have paid := (parents n isNode up isParent).2
      rw [isParent, PathSearch.trace] at traced
      rcases ih isUp traced with ⟨dirList, rfl, leads, few⟩
      have level : (nodes.pos scene n).z = (nodes.pos scene up).z := rfl
      rcases leads.step inside (kept.reached up isUp) level listed beside walkable with
        ⟨direction, isDirection, leadsOn⟩
      have isNext : direction.next (nodes.pos scene up) = nodes.pos scene n := by
        rw [← leads.ends, ← leadsOn.ends, foldl_append]
        rfl
      have allowed := leadsOn.diagonal direction (mem_append_right _ mem_cons_self)
      rw [← isNext, getMapWalkCost_next inside (kept.reached up isUp) rfl allowed
        (isNext ▸ walkable)] at paid
      refine ⟨dirList ++ [direction], ?_, leadsOn, ?_⟩
      · rw [isDirection, append_assoc]
        rfl
      · rw [cost_append, leads.ends]
        omega

/-- The search comes to an exact match while there is room for more nodes. -/
def findsExactly (scene : Scene) (turns : Nat) : Bool :=
  (run scene turns (begin scene)).any fun (answer, search) =>
    answer && search.found.isSome && pathCondition scene search.endPos 0 = (true, 0) &&
      search.nodes.curNode < maxNodes

/-- A creature in a corner of the map, with a way to the east and one over the edge. -/
def corner : Scene where
  startPos := ⟨0, 100, 7⟩
  targetPos := ⟨32769, 100, 7⟩
  fpp := ⟨true, false, true, false, -1, 0, 32766⟩
  isSightClear _ := true
  getWalkCache pos :=
    if pos ∈ ([⟨65535, 99, 7⟩, ⟨0, 99, 7⟩, ⟨1, 100, 7⟩, ⟨2, 100, 7⟩, ⟨3, 100, 7⟩] :
      List Position) then 1 else 0
  getTile pos := some pos.x.toNat
  ownTile := none
  queryAdd _ := true
  hasCreatures tile := tile = 0
  fieldType _ := none
  isImmune _ := false

end OTServ.Map.PathSearch
