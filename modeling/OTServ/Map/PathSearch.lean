import Mathlib.Algebra.Order.BigOperators.Group.Finset
import OTServ.Housing.Walking

/-!
# The search for a path

`getPathMatching` searches from the position of a creature.  The node with the
lowest cost is expanded: each of its neighbours that can be walked to gets a node,
or a better parent if it has a dearer one, and is opened again.  At the end the
directions are read back along the parents.

The search ends, since there are only so many nodes and costs only sink.  Parents
are cheaper than their children, so that what is read back leads from the start to
the node that was found.  This holds unless a step leads over the edge of the
coordinates, which have sixteen bits: then the difference of two neighbours is
not one, and no direction or a wrong one is taken.
-/

namespace OTServ.Map.PathSearch

open Housing (Direction)
open List Function Option

/-- `FindPathParams` -/
structure FindPathParams where
  fullPathSearch : Bool
  clearSight : Bool
  allowDiagonal : Bool
  keepDistance : Bool
  maxSearchDist : Int
  minTargetDist : Int
  maxTargetDist : Int

/--
What a search is asked for, and the map as the creature finds it.  Tiles are given
by their addresses; `queryAdd` tells whether `__queryAdd` lets the creature in.
-/
structure Scene where
  startPos : Position
  targetPos : Position
  fpp : FindPathParams
  isSightClear : Position → Bool
  getWalkCache : Position → Nat
  getTile : Position → Option Nat
  ownTile : Option Nat
  queryAdd : Nat → Bool
  hasCreatures : Nat → Bool
  fieldType : Nat → Option Nat
  isImmune : Nat → Bool

def distance (left right : UInt16) : Int := left.toNat - right.toNat

section Searching

variable (scene : Scene)

/-- `FrozenPathingConditionCall::isInRange` for one coordinate. -/
def inAxisRange (fpp : FindPathParams) (start target test : UInt16) : Bool :=
  let lower :=
    if fpp.fullPathSearch ∨ distance start target ≤ 0 then fpp.maxTargetDist
    else 0
  let upper :=
    if fpp.fullPathSearch ∨ distance start target ≥ 0 then fpp.maxTargetDist
    else 0
  distance test target ≤ upper && distance test target ≥ -lower

/-- `FrozenPathingConditionCall::isInRange` -/
def isInRange (testPos : Position) : Bool :=
  inAxisRange scene.fpp scene.startPos.x scene.targetPos.x testPos.x &&
    inAxisRange scene.fpp scene.startPos.y scene.targetPos.y testPos.y

/-- `FrozenPathingConditionCall::operator()`, with the new `bestMatchDist`. -/
def pathCondition (testPos : Position) (bestMatchDist : Int) : Bool × Int :=
  let fpp := scene.fpp
  let testDist := max |distance scene.targetPos.x testPos.x| |distance scene.targetPos.y testPos.y|
  if !isInRange scene testPos then (false, bestMatchDist)
  else if fpp.clearSight && !scene.isSightClear testPos then (false, bestMatchDist)
  else if fpp.maxTargetDist = 1 then
    (!(testDist < fpp.minTargetDist || testDist > fpp.maxTargetDist), bestMatchDist)
  else if testDist ≤ fpp.maxTargetDist then
    if testDist < fpp.minTargetDist then (false, bestMatchDist)
    else if testDist = fpp.maxTargetDist then (true, 0)
    -- not quite what we want, but the best so far
    else if testDist > bestMatchDist then (true, testDist)
    else (false, bestMatchDist)
  else (false, bestMatchDist)

/-- `Map::canWalkTo` -/
def canWalkTo (pos : Position) : Option Nat :=
  match scene.getWalkCache pos with
  | 0 => none
  | 1 => scene.getTile pos
  | _ =>
    let tile := scene.getTile pos
    if scene.ownTile ≠ tile ∧ !tile.any scene.queryAdd then none else tile

/-- The first `dirCount` entries of `neighbourOrderList`. -/
def neighbourOrderList : List (Int × Int) :=
  [(-1, 0), (0, 1), (1, 0), (0, -1)] ++
    if scene.fpp.allowDiagonal then [(-1, -1), (1, -1), (1, 1), (-1, 1)] else []

/-- The neighbour of a position; coordinates have sixteen bits. -/
def neighbour (pos : Position) (offset : Int × Int) : Position where
  x := UInt16.ofInt (pos.x.toNat + offset.1)
  y := UInt16.ofInt (pos.y.toNat + offset.2)
  z := scene.startPos.z

def inRange (pos : Position) : Bool :=
  let fpp := scene.fpp
  !(fpp.maxSearchDist ≠ -1 &&
      (|distance scene.startPos.x pos.x| > fpp.maxSearchDist ||
        |distance scene.startPos.y pos.y| > fpp.maxSearchDist)) &&
    !(fpp.keepDistance && !isInRange scene pos)

/-! ## The nodes -/

/-- `AStarNode`; parents are given by their place in the array. -/
structure AStarNode where
  x : UInt16
  y : UInt16
  parent : Option Nat
  f : Nat

/-- `AStarNodes` -/
structure AStarNodes where
  nodes : Nat → AStarNode
  openNodes : Nat → Bool
  curNode : Nat

/-- `MAX_NODES` -/
def maxNodes : Nat := 512

namespace AStarNodes

/-- `getBestNode` -/
def getBestNode (nodes : AStarNodes) : Option Nat :=
  (range nodes.curNode).foldl
    (fun best i =>
      if (nodes.nodes i).f < best.elim 100000 (fun n => (nodes.nodes n).f) ∧
          nodes.openNodes i then some i
      else best)
    none

/-- `closeNode` -/
def closeNode (nodes : AStarNodes) (node : Nat) : AStarNodes :=
  { nodes with openNodes := update nodes.openNodes node false }

/-- `countClosedNodes` -/
def countClosedNodes (nodes : AStarNodes) : Nat :=
  (range nodes.curNode).countP fun i => !nodes.openNodes i

/-- `getNodeInList` -/
def getNodeInList (nodes : AStarNodes) (pos : Position) : Option Nat :=
  (range nodes.curNode).find? fun i => (nodes.nodes i).x = pos.x && (nodes.nodes i).y = pos.y

/-- `openNode` or `createOpenNode`, and the assignments to the node. -/
def put (nodes : AStarNodes) (place : Nat) (node : AStarNode) : AStarNodes where
  nodes := update nodes.nodes place node
  openNodes := update nodes.openNodes place true
  curNode := max nodes.curNode (place + 1)

def pos (nodes : AStarNodes) (node : Nat) : Position :=
  ⟨(nodes.nodes node).x, (nodes.nodes node).y, scene.startPos.z⟩

end AStarNodes

/-- `getMapWalkCost` -/
def getMapWalkCost (pos neighbourPos : Position) : Nat :=
  if |distance pos.x neighbourPos.x| = |distance pos.y neighbourPos.y| then 25
  else 10

/-- `getTileWalkCost` -/
def getTileWalkCost (tile : Nat) : Nat :=
  (if scene.hasCreatures tile then 30 else 0) +
    if (scene.fieldType tile).any (!scene.isImmune ·) then 30 else 0

/--
The loop over the neighbours of a node.  Without an answer there were no nodes
left, and nothing had been found.
-/
def visit (n : Nat) (found : Bool) : List (Int × Int) → AStarNodes → Option AStarNodes
  | [], nodes => some nodes
  | offset :: offsets, nodes =>
    let pos := neighbour scene (nodes.pos scene n) offset
    match if inRange scene pos then canWalkTo scene pos else none with
    | none => visit n found offsets nodes
    | some tile =>
      let newf :=
        (nodes.nodes n).f + getMapWalkCost (nodes.pos scene n) pos + getTileWalkCost scene tile
      let node : AStarNode := ⟨pos.x, pos.y, some n, newf⟩
      match nodes.getNodeInList pos with
      | some neighbourNode =>
        if (nodes.nodes neighbourNode).f ≤ newf then
          visit n found offsets nodes
        else visit n found offsets (nodes.put neighbourNode node)
      | none =>
        if nodes.curNode < maxNodes then
          visit n found offsets (nodes.put nodes.curNode node)
        else if found then some nodes
        else none

/-! ## The search -/

/-- The local variables of the search; `expanded` records the nodes in turn. -/
structure Search where
  nodes : AStarNodes
  found : Option Nat
  endPos : Position
  bestMatch : Int
  expanded : List Nat

/-- The search goes on, or the loop is left; `false` is the answer at once. -/
inductive Turn where
  | again (search : Search)
  | left (answer : Bool) (search : Search)

/-- The loop runs on while few nodes are closed, unless the distance is bounded. -/
def goesOn (search : Search) : Bool :=
  scene.fpp.maxSearchDist ≠ -1 || search.nodes.countClosedNodes < 100

def ask (search : Search) (n : Nat) : Search :=
  let here := search.nodes.pos scene n
  let answer := pathCondition scene here search.bestMatch
  { search with
    found := if answer.1 then some n else search.found
    endPos := if answer.1 then here else search.endPos
    bestMatch := answer.2
    expanded := search.expanded ++ [n] }

/-- Unless the node is the best one of all, its neighbours follow. -/
def expand (search : Search) (n : Nat) : Turn :=
  let answer := pathCondition scene (search.nodes.pos scene n) search.bestMatch
  let asked := ask scene search n
  if answer.1 ∧ answer.2 = 0 then .left true asked
  else
    match visit scene n asked.found.isSome (neighbourOrderList scene) asked.nodes with
    | none => .left false asked
    | some nodes => .again { asked with nodes := nodes.closeNode n }

def turn (search : Search) : Turn :=
  if goesOn scene search then
    match search.nodes.getBestNode with
    | none => .left search.found.isSome search
    | some n => expand scene search n
  else .left true search

def run : Nat → Search → Option (Bool × Search)
  | 0, _ => none
  | turns + 1, search =>
    match turn scene search with
    | .again next => run turns next
    | .left answer search => some (answer, search)

def begin : Search where
  nodes := ⟨fun _ => ⟨scene.startPos.x, scene.startPos.y, none, 0⟩, fun n => n = 0, 1⟩
  found := none
  endPos := ⟨0, 0, 0⟩
  bestMatch := 0
  expanded := []

def directionOf (pos prev : Position) : Option Direction :=
  let dx := distance pos.x prev.x
  let dy := distance pos.y prev.y
  if dx = 1 ∧ dy = 1 then some .northwest
  else if dx = -1 ∧ dy = 1 then some .northeast
  else if dx = 1 ∧ dy = -1 then some .southwest
  else if dx = -1 ∧ dy = -1 then some .southeast
  else if dx = 1 then some .west
  else if dx = -1 then some .east
  else if dy = 1 then some .north
  else if dy = -1 then some .south
  else none

def trace (nodes : AStarNodes) :
  Nat → Position → Option Nat → List Direction → Option (List Direction)
  | 0, _, _, _ => none
  | _ + 1, _, none, dirList => some dirList
  | turns + 1, prev, some node, dirList =>
    let pos := nodes.pos scene node
    trace nodes turns pos (nodes.nodes node).parent ((directionOf pos prev).toList ++ dirList)

/-- The answer with the list of directions, and the nodes that were expanded. -/
structure Answer where
  returned : Bool
  dirList : List Direction
  expanded : List Nat
deriving DecidableEq

/-- `Map::getPathMatching`, with at most so many turns of both loops. -/
def getPathMatching (turns steps : Nat) : Option Answer :=
  match run scene turns (begin scene) with
  | none => none
  | some (answer, search) =>
    match answer, search.found with
    | true, some n =>
      (trace scene search.nodes steps search.endPos
          (search.nodes.nodes n).parent []).map
        fun dirList => ⟨true, dirList, search.expanded⟩
    | _, _ => some ⟨false, [], search.expanded⟩

/-- A position may be taken into the search, and the creature can walk to it. -/
def Walkable (pos : Position) : Prop :=
  inRange scene pos ∧ (canWalkTo scene pos).isSome

inductive Reached : Position → Prop
  | start : Reached scene.startPos
  | step {pos : Position} {offset : Int × Int}
      (reached : Reached pos)
      (listed : offset ∈ neighbourOrderList scene)
      (walkable : Walkable scene (neighbour scene pos offset)) :
      Reached (neighbour scene pos offset)

/-- No step that can be taken leads over the edge of the coordinates. -/
def StaysInside : Prop :=
  ∀ pos, ∀ offset ∈ neighbourOrderList scene, Reached scene pos →
    Walkable scene (neighbour scene pos offset) →
      distance (neighbour scene pos offset).x pos.x = offset.1 ∧
        distance (neighbour scene pos offset).y pos.y = offset.2

/-- The positions that are come to by following the directions. -/
def visited : Position → List Direction → List Position
  | _, [] => []
  | pos, direction :: directions =>
    direction.next pos :: visited (direction.next pos) directions

structure Leads (dirList : List Direction) (pos : Position) : Prop where
  ends : dirList.foldl Direction.next scene.startPos = pos
  walkable : ∀ one ∈ visited scene.startPos dirList, Walkable scene one
  diagonal : ∀ direction ∈ dirList, direction.canChangeFloor = false → scene.fpp.allowDiagonal

structure Sound (dirList : List Direction) (expanded : List Nat) : Prop where
  walks : ∀ pos ∈ visited scene.startPos dirList, (canWalkTo scene pos).isSome
  near : scene.fpp.maxSearchDist ≠ -1 → ∀ pos ∈ visited scene.startPos dirList,
    |distance scene.startPos.x pos.x| ≤ scene.fpp.maxSearchDist ∧
      |distance scene.startPos.y pos.y| ≤ scene.fpp.maxSearchDist
  diagonal : ∀ direction ∈ dirList, direction.canChangeFloor = false → scene.fpp.allowDiagonal
  ends : (pathCondition scene (dirList.foldl Direction.next scene.startPos) 0).1
  short : dirList.length < expanded.length

end Searching

variable {scene : Scene} {nodes after : AStarNodes} {search next : Search} {expanded : List Nat}
  {n place newf : Nat} {pos : Position} {offset : Int × Int} {offsets : List (Int × Int)}
  {found : Bool}

lemma next_coordinate {x y : UInt16} (up : distance y x = 1) : x + 1 = y := by
  rw [← UInt16.toNat_inj, UInt16.toNat_add]
  have bound := y.toNat_lt
  unfold distance at up
  rw [Nat.mod_eq_of_lt]
  · have one : (1 : UInt16).toNat = 1 := rfl
    omega
  · have one : (1 : UInt16).toNat = 1 := rfl
    omega

lemma same_coordinate {x y : UInt16} (same : distance y x = 0) : x = y := by
  rw [← UInt16.toNat_inj]
  unfold distance at same
  omega

lemma previous_coordinate {x y : UInt16} (down : distance y x = -1) : x - 1 = y := by
  have up : distance x y = 1 := by
    unfold distance at down ⊢
    omega
  rw [← next_coordinate up, UInt16.add_sub_cancel]

lemma distance_comm (x y : UInt16) : distance x y = -distance y x :=
  (neg_sub _ _).symm

lemma directionOf_neighbour
  {next : Position} (listed : offset ∈ neighbourOrderList scene) (level : next.z = pos.z)
  (x : distance next.x pos.x = offset.1) (y : distance next.y pos.y = offset.2) :
  ∃ direction, directionOf pos next = some direction ∧
    direction.next pos = next ∧
    (direction.canChangeFloor = false → scene.fpp.allowDiagonal) := by
  rcases pos with ⟨posX, posY, posZ⟩
  dsimp only at level x y
  subst level
  rw [directionOf, distance_comm posX, distance_comm posY, x, y]
  rcases mem_append.1 listed with straight | diagonal
  · simp only [mem_cons, not_mem_nil, or_false] at straight
    rcases straight with rfl | rfl | rfl | rfl
    · exact ⟨.west, rfl, by
        simp [Direction.next, previous_coordinate x, same_coordinate y], nofun⟩
    · exact ⟨.south, rfl, by
        simp [Direction.next, same_coordinate x, next_coordinate y], nofun⟩
    · exact ⟨.east, rfl, by
        simp [Direction.next, next_coordinate x, same_coordinate y], nofun⟩
    · exact ⟨.north, rfl, by
        simp [Direction.next, same_coordinate x, previous_coordinate y], nofun⟩
  · by_cases allowed : scene.fpp.allowDiagonal
    · rw [if_pos allowed] at diagonal
      simp only [mem_cons, not_mem_nil, or_false] at diagonal
      rcases diagonal with rfl | rfl | rfl | rfl
      · exact ⟨.northwest, rfl, by
          simp [Direction.next, previous_coordinate x, previous_coordinate y],
          fun _ => allowed⟩
      · exact ⟨.northeast, rfl, by
          simp [Direction.next, next_coordinate x, previous_coordinate y],
          fun _ => allowed⟩
      · exact ⟨.southeast, rfl, by
          simp [Direction.next, next_coordinate x, next_coordinate y],
          fun _ => allowed⟩
      · exact ⟨.southwest, rfl, by
          simp [Direction.next, previous_coordinate x, next_coordinate y],
          fun _ => allowed⟩
    · rw [if_neg allowed] at diagonal
      cases diagonal

lemma pathCondition_nonneg
  {best : Int} (start : 0 ≤ best) : 0 ≤ (pathCondition scene pos best).2 := by
  unfold pathCondition
  dsimp only
  split_ifs <;> omega

lemma pathCondition_zero {best : Int} (start : 0 ≤ best)
  (holds : (pathCondition scene pos best).1) : (pathCondition scene pos 0).1 := by
  unfold pathCondition at holds ⊢
  dsimp only at holds ⊢
  split_ifs at holds ⊢ <;> first | exact holds | rfl | omega

lemma getBestNode_spec
  (best : nodes.getBestNode = some n) : n < nodes.curNode ∧ nodes.openNodes n := by
  suffices all : ∀ (list : List Nat) (best : Option Nat),
      (∀ i ∈ list, i < nodes.curNode) →
      (∀ i ∈ best, i < nodes.curNode ∧ nodes.openNodes i) →
      ∀ i ∈ list.foldl
        (fun best i =>
          if (nodes.nodes i).f < best.elim 100000 (fun n => (nodes.nodes n).f) ∧
              nodes.openNodes i then some i
          else best) best,
        i < nodes.curNode ∧ nodes.openNodes i from
    all _ none (fun i mem => mem_range.1 mem) nofun n best
  intro list
  induction list with
  | nil => exact fun _ _ start => start
  | cons i list ih =>
    intro best below start
    refine ih _ (fun j mem => below j (mem_cons_of_mem _ mem)) ?_
    intro j isBest
    dsimp only at isBest
    split at isBest
    · rename_i better
      cases isBest
      exact ⟨below i mem_cons_self, better.2⟩
    · exact start j isBest

lemma getNodeInList_spec (listed : nodes.getNodeInList pos = some n)
  (level : pos.z = scene.startPos.z) : n < nodes.curNode ∧ nodes.pos scene n = pos := by
  have same := find?_some listed
  rw [Bool.and_eq_true, decide_eq_true_eq, decide_eq_true_eq] at same
  refine ⟨mem_range.1 (mem_of_find?_eq_some listed), ?_⟩
  rw [AStarNodes.pos, same.1, same.2, ← level]

/-- Nodes stay where they are, costs sink, and something changes if anything does. -/
structure Improves (scene : Scene) (nodes after : AStarNodes) : Prop where
  room : nodes.curNode ≤ after.curNode
  bounded : after.curNode = nodes.curNode ∨ after.curNode ≤ maxNodes
  pos : ∀ i < nodes.curNode, after.pos scene i = nodes.pos scene i
  cheaper : ∀ i < nodes.curNode, (after.nodes i).f ≤ (nodes.nodes i).f
  progress : after = nodes ∨ nodes.curNode < after.curNode ∨
    ∃ i < nodes.curNode, (after.nodes i).f < (nodes.nodes i).f

lemma Improves.refl (nodes : AStarNodes) : Improves scene nodes nodes :=
  ⟨Nat.le_refl _, .inl rfl, fun _ _ => rfl, fun _ _ => Nat.le_refl _, .inl rfl⟩

lemma Improves.trans {last : AStarNodes} (first : Improves scene nodes after)
  (second : Improves scene after last) : Improves scene nodes last where
  room := Nat.le_trans first.room second.room
  bounded := by
    rcases second.bounded with same | bounded
    · rw [same]
      exact first.bounded
    · exact .inr bounded
  pos i less := (second.pos i (Nat.lt_of_lt_of_le less first.room)).trans (first.pos i less)
  cheaper i less :=
    Nat.le_trans (second.cheaper i (Nat.lt_of_lt_of_le less first.room)) (first.cheaper i less)
  progress := by
    rcases first.progress with rfl | more | ⟨i, isNode, less⟩
    · exact second.progress
    · exact .inr (.inl (Nat.lt_of_lt_of_le more second.room))
    · have lower := second.cheaper i (Nat.lt_of_lt_of_le isNode first.room)
      exact .inr (.inr ⟨i, isNode, Nat.lt_of_le_of_lt lower less⟩)

/-- A node may be put there: it is a new one, or one at the position gets cheaper. -/
def Fits (scene : Scene) (nodes : AStarNodes) (place : Nat) (pos : Position) (newf : Nat) : Prop :=
  pos.z = scene.startPos.z ∧
    (place = nodes.curNode ∧ nodes.curNode < maxNodes ∨
      place < nodes.curNode ∧ nodes.pos scene place = pos ∧ newf < (nodes.nodes place).f)

lemma Fits.put_spec (fits : Fits scene nodes place pos newf) :
  let after := nodes.put place ⟨pos.x, pos.y, some n, newf⟩
  after.nodes place = ⟨pos.x, pos.y, some n, newf⟩ ∧ after.pos scene place = pos ∧
    (∀ i ≠ place, after.nodes i = nodes.nodes i) ∧
      ∀ i ≠ place, i < after.curNode → i < nodes.curNode := by
  have own : (nodes.put place ⟨pos.x, pos.y, some n, newf⟩).nodes place = _ := update_self ..
  refine ⟨own, ?_, fun i other => update_of_ne other _ _, fun i other less => ?_⟩
  · rw [AStarNodes.pos, own, ← fits.1]
  · have less : i < max nodes.curNode (place + 1) := less
    rcases fits.2 with ⟨atEnd, -⟩ | ⟨below, -⟩ <;> omega

lemma Fits.improves (fits : Fits scene nodes place pos newf) :
  Improves scene nodes (nodes.put place ⟨pos.x, pos.y, some n, newf⟩) := by
  obtain ⟨own, ownPos, others, -⟩ := fits.put_spec (n := n)
  rcases fits with ⟨level, ⟨rfl, room⟩ | ⟨isNode, isThere, less⟩⟩
  · refine ⟨le_max_left _ _, .inr (max_le (Nat.le_of_lt room) room),
      fun i less => ?_, fun i less => ?_, .inr (.inl (Nat.lt_of_succ_le (le_max_right _ _)))⟩
    · rw [AStarNodes.pos, others i (Nat.ne_of_lt less), AStarNodes.pos]
    · rw [others i (Nat.ne_of_lt less)]
  · refine ⟨le_max_left _ _, .inl (max_eq_left isNode), fun i _ => ?_, fun i _ => ?_,
      .inr (.inr ⟨place, isNode, by rwa [own]⟩)⟩
    · by_cases same : i = place
      · rw [same, ownPos, isThere]
      · rw [AStarNodes.pos, others i same, AStarNodes.pos]
    · by_cases same : i = place
      · rw [same, own]
        exact Nat.le_of_lt less
      · rw [others i same]

/-! ## Parents are cheaper -/

/--
The start has no parent; any other node has one that was expanded, is cheaper and
lies beside it.
-/
structure Kept (scene : Scene) (expanded : List Nat) (nodes : AStarNodes) : Prop where
  root : 0 < nodes.curNode
  start : nodes.nodes 0 = ⟨scene.startPos.x, scene.startPos.y, none, 0⟩
  reached : ∀ i < nodes.curNode, Reached scene (nodes.pos scene i)
  parent : ∀ i < nodes.curNode, i ≠ 0 → ∃ n ∈ expanded, n < nodes.curNode ∧
    (nodes.nodes i).parent = some n ∧ (nodes.nodes n).f < (nodes.nodes i).f ∧
    ∃ offset ∈ neighbourOrderList scene,
      nodes.pos scene i = neighbour scene (nodes.pos scene n) offset ∧
        Walkable scene (nodes.pos scene i)

lemma Kept.grow (kept : Kept scene expanded nodes) : Kept scene (expanded ++ [n]) nodes where
  root := kept.root
  start := kept.start
  reached := kept.reached
  parent i less other := by
    rcases kept.parent i less other with ⟨n, mem, rest⟩
    exact ⟨n, mem_append_left _ mem, rest⟩

lemma Kept.put (kept : Kept scene expanded nodes) (isNode : n < nodes.curNode)
  (mem : n ∈ expanded) (listed : offset ∈ neighbourOrderList scene)
  (isNext : pos = neighbour scene (nodes.pos scene n) offset) (walkable : Walkable scene pos)
  (dearer : (nodes.nodes n).f < newf) (fits : Fits scene nodes place pos newf) :
  Kept scene expanded (nodes.put place ⟨pos.x, pos.y, some n, newf⟩) := by
  have improves := fits.improves (n := n)
  obtain ⟨own, ownPos, others, old⟩ := fits.put_spec (n := n)
  -- neither the start nor the node itself gets a parent
  have notStart : 0 ≠ place := by
    rintro rfl
    rcases fits.2 with ⟨atEnd, -⟩ | ⟨-, -, less⟩
    · exact absurd kept.root (atEnd ▸ Nat.lt_irrefl 0)
    · rw [kept.start] at less
      cases less
  have notSelf : n ≠ place := by
    rintro rfl
    rcases fits.2 with ⟨atEnd, -⟩ | ⟨-, -, less⟩ <;> omega
  refine ⟨Nat.lt_of_lt_of_le kept.root improves.room, ?_, ?_, ?_⟩
  · rw [others 0 notStart, kept.start]
  · intro i less
    by_cases same : i = place
    · rw [same, ownPos, isNext]
      exact .step (kept.reached n isNode) listed (isNext ▸ walkable)
    · rw [improves.pos i (old i same less)]
      exact kept.reached i (old i same less)
  · intro i less notZero
    by_cases same : i = place
    · subst same
      refine ⟨n, mem, Nat.lt_of_lt_of_le isNode improves.room, by rw [own], ?_,
        offset, listed, ?_, ownPos.symm ▸ walkable⟩
      · rw [own, others n notSelf]
        exact dearer
      · rw [ownPos, improves.pos n isNode, isNext]
    · have isOld := old i same less
      rcases kept.parent i isOld notZero with
        ⟨up, isThere, isUp, isParent, cheaper, offset, listed, beside, walks⟩
      refine ⟨up, isThere, Nat.lt_of_lt_of_le isUp improves.room, ?_, ?_, offset, listed, ?_, ?_⟩
      · rw [others i same, isParent]
      · rw [others i same]
        exact Nat.lt_of_le_of_lt (improves.cheaper up isUp) cheaper
      · rw [improves.pos i isOld, improves.pos up isUp, beside]
      · rw [improves.pos i isOld]
        exact walks

/-- What a turn of the loop over the neighbours does. -/
lemma visit_cons (visited : visit scene n found (offset :: offsets) nodes = some after) :
    let pos := neighbour scene (nodes.pos scene n) offset
    ¬ Walkable scene pos ∧ visit scene n found offsets nodes = some after ∨
      ∃ tile, Walkable scene pos ∧ canWalkTo scene pos = some tile ∧
        let newf :=
          (nodes.nodes n).f + getMapWalkCost (nodes.pos scene n) pos + getTileWalkCost scene tile
        (∃ place < nodes.curNode, nodes.pos scene place = pos ∧ (nodes.nodes place).f ≤ newf ∧
            visit scene n found offsets nodes = some after) ∨
          (∃ place, Fits scene nodes place pos newf ∧
            visit scene n found offsets (nodes.put place ⟨pos.x, pos.y, some n, newf⟩) =
              some after) ∨
          maxNodes ≤ nodes.curNode ∧ after = nodes := by
  rw [visit] at visited
  split at visited
  · rename_i blocked
    refine .inl ⟨fun walkable => ?_, visited⟩
    rw [if_pos walkable.1] at blocked
    exact absurd walkable.2 (by rw [blocked]; exact Bool.false_ne_true)
  · rename_i tile walks
    split at walks
    · rename_i inside
      refine .inr ⟨tile, ⟨inside, isSome_of_eq_some walks⟩, walks, ?_⟩
      dsimp only at visited ⊢
      split at visited
      · rename_i place isThere
        have spec : place < nodes.curNode ∧ nodes.pos scene place = _ :=
          getNodeInList_spec isThere rfl
        split at visited
        · rename_i cheap
          exact .inl ⟨place, spec.1, spec.2, cheap, visited⟩
        · rename_i better
          exact .inr (.inl
            ⟨place, ⟨rfl, .inr ⟨spec.1, spec.2, Nat.lt_of_not_le better⟩⟩, visited⟩)
      · split at visited
        · rename_i room
          exact .inr (.inl ⟨_, ⟨rfl, .inl ⟨rfl, room⟩⟩, visited⟩)
        · rename_i full
          split at visited
          · cases visited
            exact .inr (.inr ⟨Nat.le_of_not_lt full, rfl⟩)
          · cases visited
    · cases walks

lemma lt_newf (pos next : Position) (f enter : Nat) :
  f < f + getMapWalkCost pos next + enter := by
  unfold getMapWalkCost
  split <;> omega

lemma Kept.visit (kept : Kept scene expanded nodes) (isNode : n < nodes.curNode)
  (mem : n ∈ expanded) (listed : ∀ offset ∈ offsets, offset ∈ neighbourOrderList scene)
  (visited : visit scene n found offsets nodes = some after) :
  Kept scene expanded after ∧ Improves scene nodes after := by
  induction offsets generalizing nodes with
  | nil =>
    cases visited
    exact ⟨kept, .refl _⟩
  | cons offset offsets ih =>
    have later := fun one isThere => listed one (mem_cons_of_mem offset isThere)
    rcases visit_cons visited with ⟨-, visited⟩ | ⟨tile, walkable, -, turn⟩
    · exact ih kept isNode later visited
    · rcases turn with ⟨_, -, -, -, visited⟩ | ⟨place, fits, visited⟩ | ⟨-, rfl⟩
      · exact ih kept isNode later visited
      · have improves := fits.improves (n := n)
        have put :=
          kept.put isNode mem (listed offset mem_cons_self) rfl walkable (lt_newf ..) fits
        rcases ih put (Nat.lt_of_lt_of_le isNode improves.room) later visited with
          ⟨keptAfter, improvesAfter⟩
        exact ⟨keptAfter, improves.trans improvesAfter⟩
      · exact ⟨kept, .refl _⟩

/-! ## The run -/

structure Fine (scene : Scene) (search : Search) : Prop where
  kept : Kept scene search.expanded search.nodes
  best : 0 ≤ search.bestMatch
  found : ∀ n ∈ search.found, n < search.nodes.curNode ∧ n ∈ search.expanded ∧
    search.endPos = search.nodes.pos scene n ∧ (pathCondition scene search.endPos 0).1

lemma begin_fine : Fine scene (begin scene) where
  kept :=
    ⟨Nat.one_pos, rfl, fun _ _ => .start, fun _ less other => absurd (Nat.lt_one_iff.1 less) other⟩
  best := Int.le_refl 0
  found := nofun

/-- What is left to be done: nodes to be made, costs to sink, nodes to be closed. -/
def AStarNodes.measure (nodes : AStarNodes) : Nat × Nat × Nat :=
  (maxNodes - nodes.curNode, ∑ i ∈ Finset.range nodes.curNode, (nodes.nodes i).f,
    ((Finset.range nodes.curNode).filter (nodes.openNodes ·)).card)

lemma Improves.measure_lt (improves : Improves scene nodes after) (isNode : n < nodes.curNode)
  (isOpen : nodes.openNodes n) :
  Prod.Lex (· < ·) (Prod.Lex (· < ·) (· < ·)) (after.closeNode n).measure nodes.measure := by
  rcases Nat.lt_or_ge nodes.curNode after.curNode with more | few
  · refine .left _ _ ?_
    have bounded := improves.bounded
    change maxNodes - after.curNode < maxNodes - nodes.curNode
    omega
  rcases improves.progress with rfl | more | ⟨i, isThere, less⟩
  · refine .right _ (.right _ (Finset.card_lt_card ?_))
    have closed : (after.closeNode n).openNodes n = false := update_self _ _ _
    refine (Finset.ssubset_iff_of_subset fun i mem => ?_).2 ⟨n, ?_, ?_⟩
    · rw [Finset.mem_filter] at mem ⊢
      by_cases same : i = n
      · rw [same, closed] at mem
        cases mem.2
      · have others : (after.closeNode n).openNodes i = after.openNodes i := update_of_ne same _ _
        exact ⟨mem.1, others ▸ mem.2⟩
    · exact Finset.mem_filter.2 ⟨Finset.mem_range.2 isNode, isOpen⟩
    · rw [Finset.mem_filter, closed]
      exact fun mem => nomatch mem.2
  · exact absurd more (Nat.not_lt_of_le few)
  · have equal : after.curNode = nodes.curNode := Nat.le_antisymm few improves.room
    unfold AStarNodes.measure AStarNodes.closeNode
    rw [equal]
    refine .right _ (.left _ _ (Finset.sum_lt_sum (fun j mem => ?_) ⟨i, ?_, less⟩))
    · exact improves.cheaper j (Finset.mem_range.1 mem)
    · exact Finset.mem_range.2 isThere

/-- The search after a turn, and that less is left to do if it goes on. -/
def TurnFine (scene : Scene) (search : Search) : Turn → Prop
  | .again next => Fine scene next ∧
      Prod.Lex (· < ·) (Prod.Lex (· < ·) (· < ·)) next.nodes.measure search.nodes.measure
  | .left _ next => Fine scene next

lemma Fine.ask (fine : Fine scene search) (isNode : n < search.nodes.curNode) :
  Fine scene (ask scene search n) := by
  refine ⟨fine.kept.grow, pathCondition_nonneg fine.best, fun m isFound => ?_⟩
  dsimp only [PathSearch.ask] at isFound ⊢
  split at isFound
  · rename_i holds
    cases isFound
    rw [if_pos holds]
    exact ⟨isNode, mem_append_right _ (mem_singleton_self n), rfl,
      pathCondition_zero fine.best holds⟩
  · rename_i fails
    rcases fine.found m isFound with ⟨isThere, mem, rest⟩
    rw [if_neg fails]
    exact ⟨isThere, mem_append_left _ mem, rest⟩

lemma Fine.expand (fine : Fine scene search) (isNode : n < search.nodes.curNode)
  (isOpen : search.nodes.openNodes n) : TurnFine scene search (expand scene search n) := by
  have asked := fine.ask isNode
  have isExpanded : n ∈ (PathSearch.ask scene search n).expanded :=
    mem_append_right _ (mem_singleton_self n)
  unfold PathSearch.expand
  dsimp only
  split
  · exact asked
  · split
    · exact asked
    · rename_i nodes visited
      rcases asked.kept.visit isNode isExpanded (fun _ listed => listed) visited with
        ⟨kept, improves⟩
      refine ⟨⟨⟨kept.root, kept.start, kept.reached, kept.parent⟩, asked.best,
        fun m isFound => ?_⟩, improves.measure_lt isNode isOpen⟩
      rcases asked.found m isFound with ⟨isThere, mem, ends, holds⟩
      exact ⟨Nat.lt_of_lt_of_le isThere improves.room, mem,
        ends.trans (improves.pos m isThere).symm, holds⟩

lemma Fine.turn (fine : Fine scene search) : TurnFine scene search (turn scene search) := by
  unfold PathSearch.turn
  split
  · split
    · exact fine
    · rename_i best
      have spec := getBestNode_spec best
      exact fine.expand spec.1 spec.2
  · exact fine

lemma Fine.run_ends {search : Search} (fine : Fine scene search) :
  ∃ turns, (run scene turns search).isSome := by
  have turnFine := fine.turn
  cases turned : PathSearch.turn scene search with
  | left answer last => exact ⟨1, by rw [run, turned]; rfl⟩
  | again next =>
    rw [turned] at turnFine
    have less := turnFine.2
    rcases turnFine.1.run_ends with ⟨turns, ends⟩
    exact ⟨turns + 1, by simpa only [run, turned] using ends⟩
termination_by search.nodes.measure
decreasing_by exact less

lemma Fine.run {turns : Nat} {answer : Bool} (fine : Fine scene search)
  (ran : run scene turns search = some (answer, next)) : Fine scene next := by
  induction turns generalizing search with
  | zero => cases ran
  | succ turns ih =>
    have turnFine := fine.turn
    rw [PathSearch.run] at ran
    cases turned : PathSearch.turn scene search with
    | left answer last =>
      rw [turned] at ran turnFine
      cases ran
      exact turnFine
    | again last =>
      rw [turned] at ran turnFine
      exact ih turnFine.1 ran

def cheaper (expanded : List Nat) (nodes : AStarNodes) (n : Nat) : Finset Nat :=
  expanded.toFinset.filter fun i => (nodes.nodes i).f < (nodes.nodes n).f

lemma visited_append (pos : Position) (directions : List Direction) (last : Direction) :
  visited pos (directions ++ [last]) =
    visited pos directions ++ [last.next (directions.foldl Direction.next pos)] := by
  induction directions generalizing pos with
  | nil => rfl
  | cons direction directions ih => rw [cons_append, visited, ih]; rfl

lemma Leads.step {dirList : List Direction} {next : Position} (leads : Leads scene dirList pos)
  (inside : StaysInside scene) (reached : Reached scene pos) (level : next.z = pos.z)
  (listed : offset ∈ neighbourOrderList scene) (beside : next = neighbour scene pos offset)
  (walkable : Walkable scene next) :
  ∃ direction, directionOf pos next = some direction ∧
    Leads scene (dirList ++ [direction]) next := by
  have steps := inside pos offset listed reached (beside ▸ walkable)
  rw [← beside] at steps
  rcases directionOf_neighbour listed level steps.1 steps.2 with
    ⟨direction, isDirection, isNext, diagonal⟩
  refine ⟨direction, isDirection, ?_, ?_, ?_⟩
  · rw [foldl_append, leads.ends]
    exact isNext
  · rw [visited_append, leads.ends, isNext, forall_mem_append, forall_mem_singleton]
    exact ⟨leads.walkable, walkable⟩
  · rw [forall_mem_append, forall_mem_singleton]
    exact ⟨leads.diagonal, diagonal⟩

/--
The directions that are read back from a node lead to it, and there are no more of
them than expanded nodes which are cheaper.
-/
lemma Kept.trace (kept : Kept scene expanded nodes) (isNode : n < nodes.curNode) :
  ∃ dirList : List Direction,
    (StaysInside scene → Leads scene dirList (nodes.pos scene n)) ∧
    dirList.length ≤ (cheaper expanded nodes n).card ∧
    ∀ steps rest, ∃ read ∈ [none, some (dirList ++ rest)],
      ((nodes.nodes n).f < steps → read.isSome) ∧
      trace scene nodes steps (nodes.pos scene n) (nodes.nodes n).parent rest =
        read := by
  induction cost : (nodes.nodes n).f using Nat.strongRecOn generalizing n with
  | ind cost ih =>
    subst cost
    by_cases isStart : n = 0
    · subst isStart
      refine ⟨[], fun _ => ⟨?_, nofun, nofun⟩, Nat.zero_le _, fun steps rest => ?_⟩
      · rw [AStarNodes.pos, kept.start]
        rfl
      · rw [kept.start]
        cases steps with
        | zero => exact ⟨none, mem_cons_self, nofun, rfl⟩
        | succ steps => exact ⟨some rest, by simp, fun _ => rfl, rfl⟩
    · rcases kept.parent n isNode isStart with
        ⟨up, isExpanded, isUp, isParent, less, offset, listed, beside, walkable⟩
      rcases ih _ less isUp rfl with ⟨dirList, leads, short, traced⟩
      -- the parent is cheaper, and not cheaper than itself
      have strict : cheaper expanded nodes up ⊂ cheaper expanded nodes n := by
        refine (Finset.ssubset_iff_of_subset fun i mem => ?_).2 ⟨up, ?_, ?_⟩
        · have both := Finset.mem_filter.1 mem
          exact Finset.mem_filter.2 ⟨both.1, both.2.trans less⟩
        · exact Finset.mem_filter.2 ⟨mem_toFinset.2 isExpanded, less⟩
        · exact fun mem => Nat.lt_irrefl _ (Finset.mem_filter.1 mem).2
      let direction := directionOf (nodes.pos scene up) (nodes.pos scene n)
      refine ⟨dirList ++ direction.toList, fun inside => ?_, ?_, fun steps rest => ?_⟩
      · have level : (nodes.pos scene n).z = (nodes.pos scene up).z := rfl
        rcases (leads inside).step inside (kept.reached up isUp) level listed beside
          walkable with ⟨found, isFound, leadsOn⟩
        rw [show direction = some found from isFound]
        exact leadsOn
      · have one : direction.toList.length ≤ 1 := length_toList_le
        have room := Finset.card_lt_card strict
        rw [length_append]
        omega
      · cases steps with
        | zero => exact ⟨none, mem_cons_self, nofun, rfl⟩
        | succ steps =>
          rcases traced steps (direction.toList ++ rest) with ⟨read, mem, ends, isRead⟩
          rw [isParent, PathSearch.trace, append_assoc]
          exact ⟨read, mem, fun more => ends (less.trans_le (Nat.le_of_lt_succ more)), isRead⟩

lemma getPathMatching_ends (scene : Scene) :
  ∃ turns steps, (getPathMatching scene turns steps).isSome := by
  rcases (begin_fine : Fine scene _).run_ends with ⟨turns, ends⟩
  rcases isSome_iff_exists.1 ends with ⟨⟨answer, search⟩, ran⟩
  have fine := begin_fine.run ran
  cases found : search.found with
  | none =>
    refine ⟨turns, 0, ?_⟩
    unfold getPathMatching
    rw [ran]
    cases answer <;> simp only [found] <;> rfl
  | some n =>
    rcases fine.found n found with ⟨isNode, -, atEnd, -⟩
    rcases fine.kept.trace isNode with ⟨dirList, -, -, traced⟩
    refine ⟨turns, (search.nodes.nodes n).f + 1, ?_⟩
    unfold getPathMatching
    rw [ran]
    cases answer with
    | false => rfl
    | true =>
      rcases traced ((search.nodes.nodes n).f + 1) [] with ⟨read, -, ends, isRead⟩
      simp only [found, atEnd, isRead, isSome_map]
      exact ends (Nat.lt_succ_self _)

lemma sound_of_returned {turns steps : Nat} {answer : Answer} (inside : StaysInside scene)
  (got : getPathMatching scene turns steps = some answer) (returned : answer.returned) :
  Sound scene answer.dirList answer.expanded := by
  unfold getPathMatching at got
  split at got
  · cases got
  · rename_i search ran
    have fine := begin_fine.run ran
    split at got
    · rename_i n isFound
      rcases fine.found n isFound with ⟨isNode, isExpanded, atEnd, holds⟩
      rcases fine.kept.trace isNode with ⟨dirList, leads, short, traced⟩
      rcases map_eq_some_iff.1 got with ⟨path, isPath, rfl⟩
      rcases traced steps [] with ⟨read, mem, -, isRead⟩
      rw [atEnd, isRead] at isPath
      rw [isPath, append_nil, mem_cons, mem_singleton] at mem
      have isDirList := some.inj (mem.resolve_left nofun)
      subst isDirList
      have path := leads inside
      refine ⟨fun pos mem => (path.walkable pos mem).2,
        fun bounded pos mem => ?_, path.diagonal, ?_, ?_⟩
      · have inRange := (path.walkable pos mem).1
        simp only [PathSearch.inRange, Bool.and_eq_true, Bool.not_eq_true',
          Bool.and_eq_false_iff, Bool.or_eq_false_iff, decide_eq_false_iff_not, not_lt,
          not_not, bounded, false_or, gt_iff_lt] at inRange
        exact inRange.1
      · rw [path.ends, ← atEnd]
        exact holds
      · -- the node itself is not cheaper
        have strict : cheaper search.expanded search.nodes n ⊂
            search.expanded.toFinset :=
          (Finset.ssubset_iff_of_subset (Finset.filter_subset _ _)).2
            ⟨n, mem_toFinset.2 isExpanded,
              fun mem => Nat.lt_irrefl _ (Finset.mem_filter.1 mem).2⟩
        exact (short.trans_lt (Finset.card_lt_card strict)).trans_le (toFinset_card_le _)
    · cases got
      cases returned

def beside (startPos tile : Position) : Scene where
  startPos := startPos
  targetPos := tile
  fpp := ⟨true, true, true, false, -1, 0, 0⟩
  isSightClear _ := true
  getWalkCache pos := if pos = tile then 1 else 0
  getTile _ := some 0
  ownTile := none
  queryAdd _ := true
  hasCreatures _ := false
  fieldType _ := none
  isImmune _ := false

lemma beside_inside : StaysInside (beside ⟨100, 100, 7⟩ ⟨101, 100, 7⟩) := by
  intro pos offset listed reached walkable
  have isTile {pos : Position}
      (walkable : Walkable (beside ⟨100, 100, 7⟩ ⟨101, 100, 7⟩) pos) :
      pos = ⟨101, 100, 7⟩ := by
    by_contra other
    have walks := walkable.2
    simp [canWalkTo, beside, other] at walks
  have places : pos = ⟨100, 100, 7⟩ ∨ pos = ⟨101, 100, 7⟩ := by
    cases reached with
    | start => exact .inl rfl
    | step _ _ walks => exact .inr (isTile walks)
  clear reached walkable isTile
  revert offset
  rcases places with rfl | rfl <;> decide

end OTServ.Map.PathSearch
