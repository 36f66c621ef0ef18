import OTServ.Map.Position
import Mathlib.Algebra.Order.Ring.Int
import Mathlib.Tactic.Linarith
import Mathlib.Tactic.Ring

/-!
# Sight lines

`checkSightLine` permutes the axes, so that the longest one comes first, and steps
along it.  Each of the others has an accumulator, which says how far the cell is from
the line; it stays within half a cell, and therefore the cells are the nearest ones.
-/

namespace OTServ.Sight

open Map List

/-- The coordinates of a cell, as `int`. -/
structure Cell where
  x : Int
  y : Int
  z : Int
deriving DecidableEq

def cellOf (position : Position) : Cell :=
  ⟨position.x.toNat, position.y.toNat, position.z.toNat⟩

/-- `ItemType`, as far as it matters here. -/
structure ItemType where
  blockProjectile : Bool

structure Tile where
  ground : Option ItemType
  topItems : List ItemType
  downItems : List ItemType

/-- `Tile::hasProperty(BLOCKPROJECTILE)` -/
def Tile.hasProperty (tile : Tile) : Bool :=
  tile.ground.any ItemType.blockProjectile ||
    tile.topItems.any ItemType.blockProjectile || tile.downItems.any ItemType.blockProjectile

def MAP_MAX_LAYERS : UInt16 := 16

structure Tiles where
  tiles : UInt16 → UInt16 → UInt16 → Option Tile

/-- `Map::getTile`, whose parameters are `uint16_t`. -/
def Tiles.getTile (map : Tiles) (cell : Cell) : Option Tile :=
  if UInt16.ofInt cell.z < MAP_MAX_LAYERS then
    map.tiles (UInt16.ofInt cell.x) (UInt16.ofInt cell.y) (UInt16.ofInt cell.z)
  else none

def Tiles.blocks (map : Tiles) (cell : Cell) : Bool :=
  (map.getTile cell).any Tile.hasProperty

/-- The axis which the loop goes along, `dir`. -/
inductive Axis where
  | x
  | y
  | z

def Axis.swap (dir : Axis) (cell : Cell) : Cell :=
  match dir with
  | .x => cell
  | .y => ⟨cell.y, cell.x, cell.z⟩
  | .z => ⟨cell.z, cell.y, cell.x⟩

def distances (start target : Cell) : Cell :=
  ⟨(start.x - target.x).natAbs, (start.y - target.y).natAbs, (start.z - target.z).natAbs⟩

def direction (d : Cell) : Axis :=
  let (max, dir) := if d.y > d.x then (d.y, Axis.y) else (d.x, Axis.x)
  if d.z > max then .z else dir

def sign (start target : Int) : Int :=
  if start < target then 1 else -1

/-- What the loop does not change; the axes have been permuted. -/
structure Ray where
  dir : Axis
  start : Cell
  target : Cell
  d : Cell
  s : Cell

def rayBetween (fromPos toPos : Position) : Ray :=
  let dir := direction (distances (cellOf fromPos) (cellOf toPos))
  let start := dir.swap (cellOf fromPos)
  let target := dir.swap (cellOf toPos)
  { dir := dir
    start := start
    target := target
    d := dir.swap (distances (cellOf fromPos) (cellOf toPos))
    s := ⟨sign start.x target.x, sign start.y target.y, sign start.z target.z⟩ }

/-- Where the loop is: two of the coordinates have an accumulator, `ey` or `ez`. -/
structure Cursor where
  x : Int
  y : Int × Int
  z : Int × Int

/-- `ey += dy`, and the step of a coordinate that follows from it. -/
def carry (dx d s : Int) (axis : Int × Int) : Int × Int :=
  let e := axis.2 + d
  if 2 * e ≥ dx then (axis.1 + s, e - dx) else (axis.1, e)

def Ray.advance (ray : Ray) (cursor : Cursor) : Cursor where
  x := cursor.x + ray.s.x
  y := carry ray.d.x ray.d.y ray.s.y cursor.y
  z := carry ray.d.x ray.d.z ray.s.z cursor.z

/-- `rx`, `ry` and `rz` -/
def Ray.cell (ray : Ray) (cursor : Cursor) : Cell :=
  ray.dir.swap ⟨cursor.x, cursor.y.1, cursor.z.1⟩

/-- What is asked of a cell: `none` where the line is blocked, else the last cell. -/
def visit (map : Tiles) (fromPos toPos : Position) (last r : Cell) : Option Cell :=
  if r ≠ cellOf toPos ∧ r ≠ cellOf fromPos then
    if last.z ≠ r.z ∧ (map.getTile ⟨last.x, last.y, min last.z r.z⟩).isSome then none
    else if map.blocks r then none
    else some r
  else some last

/-- The loop, with the cells that it visits; `none` where it has not ended. -/
def sightLoop (map : Tiles) (fromPos toPos : Position) (ray : Ray) :
  Nat → Cursor → Cell → Option (List Cell × Bool)
  | 0, _, _ => none
  | fuel + 1, cursor, last =>
    if cursor.x = ray.target.x + ray.s.x then some ([], true)
    else
      match visit map fromPos toPos last (ray.cell cursor) with
      | none => some ([ray.cell cursor], false)
      | some last =>
        (sightLoop map fromPos toPos ray fuel (ray.advance cursor) last).map fun (cells, answer) =>
          (ray.cell cursor :: cells, answer)

/-- `Map::checkSightLine`, with the cells that it visits. -/
def checkSightLine (map : Tiles) (fromPos toPos : Position) (fuel : Nat) :
  Option (List Cell × Bool) :=
  let ray := rayBetween fromPos toPos
  let start := ray.start
  sightLoop map fromPos toPos ray fuel ⟨start.x, (start.y, 0), (start.z, 0)⟩ start

/-- The nearest whole number to `k * d / n`, and the larger one of two. -/
def nearest (n d k : Int) : Int := (2 * k * d + n) / (2 * n)

/-- A coordinate after `k` cells. -/
def along (n start target : Int) (k : Nat) : Int :=
  start + sign start target * nearest n (start - target).natAbs k

def maxDistance (fromPos toPos : Position) : Nat :=
  max (axisDistance fromPos.x toPos.x)
    (max (axisDistance fromPos.y toPos.y) (axisDistance fromPos.z toPos.z))

/-- The cell of the line after `k` cells. -/
def lineCell (fromPos toPos : Position) (k : Nat) : Cell :=
  let n := maxDistance fromPos toPos
  ⟨along n fromPos.x.toNat toPos.x.toNat k, along n fromPos.y.toNat toPos.y.toNat k,
    along n fromPos.z.toNat toPos.z.toNat k⟩

def sightLine (fromPos toPos : Position) : List Cell :=
  (range (maxDistance fromPos toPos + 1)).map (lineCell fromPos toPos)

section Accumulators

variable {n d k : Int}

lemma nearest_zero (size : 0 ≤ n) (still : k * d = 0) : nearest n d k = 0 := by
  unfold nearest
  rw [mul_assoc, still]
  rcases size.eq_or_lt with rfl | positive
  · rfl
  · apply Int.ediv_eq_zero_of_lt <;> omega

lemma nearest_self (positive : 0 < n) : nearest n n k = k := by
  unfold nearest
  rw [show 2 * k * n + n = n + k * (2 * n) by ring, Int.add_mul_ediv_right _ _ (by omega),
    Int.ediv_eq_zero_of_lt (by omega) (by omega), zero_add]

lemma nearest_bounds (positive : 0 < n) :
  2 * (nearest n d k * n) ≤ 2 * (k * d) + n ∧
    2 * (k * d) + n < 2 * (nearest n d k * n) + 2 * n := by
  have split := Int.mul_ediv_add_emod (2 * k * d + n) (2 * n)
  have low := Int.emod_nonneg (2 * k * d + n) (show 2 * n ≠ 0 by omega)
  have high := Int.emod_lt_of_pos (2 * k * d + n) (show 0 < 2 * n by omega)
  unfold nearest
  constructor <;> linarith

/-- The accumulator tells the next nearest number. -/
lemma nearest_succ (positive : 0 < n) (low : 0 ≤ d) (high : d ≤ n) :
  nearest n d (k + 1) =
    if 2 * (k * d - nearest n d k * n + d) ≥ n then nearest n d k + 1 else nearest n d k := by
  obtain ⟨below, above⟩ := @nearest_bounds n d k positive
  have next : nearest n d (k + 1) = (2 * (k * d) + 2 * d + n) / (2 * n) := by
    unfold nearest
    congr 1
    ring
  rw [next]
  split_ifs with carries
  all_goals
    rw [Int.ediv_eq_iff_of_pos (by omega)]
    constructor <;> linarith

lemma carry_nearest (positive : 0 < n) (low : 0 ≤ d) (high : d ≤ n) (start s : Int) :
  carry n d s (start + s * nearest n d k, k * d - nearest n d k * n) =
    (start + s * nearest n d (k + 1), (k + 1) * d - nearest n d (k + 1) * n) := by
  rw [nearest_succ positive low high, carry]
  split_ifs <;> ring_nf

lemma sign_cases (start target : Int) :
  (sign start target = 1 ∨ sign start target = -1) ∧
    target = start + sign start target * (start - target).natAbs := by
  unfold sign
  split_ifs <;> omega

lemma along_succ
  {n k : Nat} {start target : Int} (positive : 0 < n) (near : (start - target).natAbs ≤ n) :
  (along n start target k - along n start target (k + 1)).natAbs ≤ 1 := by
  have next := @nearest_succ n (start - target).natAbs k (by omega) (by omega) (by omega)
  unfold along
  push_cast at next ⊢
  rw [next]
  rcases (sign_cases start target).1 with positive | negative
  · rw [positive]
    split_ifs <;> omega
  · rw [negative]
    split_ifs <;> omega

lemma along_zero (n : Nat) (start target : Int) : along n start target 0 = start := by
  unfold along
  rw [Int.natCast_zero, nearest_zero n.cast_nonneg (Int.zero_mul _), mul_zero, add_zero]

lemma along_last {n : Nat} {start target : Int} (near : (start - target).natAbs ≤ n) :
  along n start target n = target := by
  unfold along
  rcases Nat.eq_zero_or_pos n with rfl | positive
  · rw [Int.natCast_zero, nearest_zero le_rfl (Int.zero_mul _)]
    omega
  · have whole : nearest n (start - target).natAbs n = (start - target).natAbs := by
      unfold nearest
      rw [Int.ediv_eq_iff_of_pos (by omega)]
      constructor <;> linarith
    rw [whole, ← (sign_cases start target).2]

end Accumulators

/-! ## The loop follows the line -/

section Rays

variable {map : Tiles} {fromPos toPos : Position}

lemma swap_swap (dir : Axis) (cell : Cell) : dir.swap (dir.swap cell) = cell := by
  cases dir <;> rfl

lemma swap_distances (dir : Axis) (start target : Cell) :
  dir.swap (distances start target) = distances (dir.swap start) (dir.swap target) := by
  cases dir <;> rfl

lemma direction_cases (d : Cell) :
  (direction d = .x ∧ d.y ≤ d.x ∧ d.z ≤ d.x) ∨
    (direction d = .y ∧ d.x ≤ d.y ∧ d.z ≤ d.y) ∨ direction d = .z ∧ d.x < d.z ∧ d.y < d.z := by
  unfold direction
  by_cases second : d.y > d.x
  · by_cases third : d.z > d.y
    · rw [if_pos second]
      exact .inr (.inr ⟨if_pos third, by omega, by omega⟩)
    · rw [if_pos second]
      exact .inr (.inl ⟨if_neg third, by omega, by omega⟩)
  · by_cases third : d.z > d.x
    · rw [if_neg second]
      exact .inr (.inr ⟨if_pos third, by omega, by omega⟩)
    · rw [if_neg second]
      exact .inl ⟨if_neg third, by omega, by omega⟩

/-- What is needed of the constants of the loop. -/
lemma rayBetween_spec (fromPos toPos : Position) :
  let ray := rayBetween fromPos toPos
  ray.d.x = maxDistance fromPos toPos ∧ (0 ≤ ray.d.y ∧ ray.d.y ≤ ray.d.x) ∧
    (0 ≤ ray.d.z ∧ ray.d.z ≤ ray.d.x) ∧ (ray.s.x = 1 ∨ ray.s.x = -1) ∧
    ray.target.x = ray.start.x + ray.s.x * ray.d.x := by
  rcases direction_cases (distances (cellOf fromPos) (cellOf toPos)) with
      ⟨dir, second, third⟩ | ⟨dir, second, third⟩ | ⟨dir, second, third⟩
  all_goals
    simp only [rayBetween, dir, Axis.swap, maxDistance, axisDistance]
    simp only [distances, cellOf] at second third ⊢
    exact ⟨by omega, by omega, by omega, sign_cases _ _⟩

lemma along_longest {start target : Int} {n k : Nat} (longest : (start - target).natAbs = n)
  (within : k ≤ n) : along n start target k = start + sign start target * k := by
  unfold along
  rw [longest]
  rcases Nat.eq_zero_or_pos n with rfl | positive
  · obtain rfl : k = 0 := Nat.le_zero.mp within
    simp [nearest]
  · rw [nearest_self (by omega)]

/-- The first axis is gone along by a cell each time. -/
lemma swap_lineCell {k : Nat} (within : k ≤ maxDistance fromPos toPos) :
  let ray := rayBetween fromPos toPos
  ray.dir.swap (lineCell fromPos toPos k) =
    ⟨ray.start.x + ray.s.x * k, ray.start.y + ray.s.y * nearest ray.d.x ray.d.y k,
      ray.start.z + ray.s.z * nearest ray.d.x ray.d.z k⟩ := by
  obtain ⟨longest, -⟩ := rayBetween_spec fromPos toPos
  intro ray
  rw [longest]
  change (direction _).swap _ = _
  rcases direction_cases (distances (cellOf fromPos) (cellOf toPos)) with
      ⟨dir, second, third⟩ | ⟨dir, second, third⟩ | ⟨dir, second, third⟩
  all_goals
    simp only [rayBetween, dir, Axis.swap] at longest
    simp only [ray, rayBetween, dir, Axis.swap, lineCell]
    rw [Cell.mk.injEq]
    exact ⟨along_longest (Int.ofNat_inj.mp longest) within, rfl, rfl⟩

/-- The loop is at the `k`-th cell. -/
def Ray.At (ray : Ray) (k : Nat) (cursor : Cursor) : Prop :=
  cursor.x = ray.start.x + ray.s.x * k ∧
    (k ≤ ray.d.x →
      cursor.y =
          (ray.start.y + ray.s.y * nearest ray.d.x ray.d.y k,
            k * ray.d.y - nearest ray.d.x ray.d.y k * ray.d.x) ∧
        cursor.z =
          (ray.start.z + ray.s.z * nearest ray.d.x ray.d.z k,
            k * ray.d.z - nearest ray.d.x ray.d.z k * ray.d.x))

lemma Ray.At.advance
  {k : Nat} {cursor : Cursor} (here : (rayBetween fromPos toPos).At k cursor) :
  (rayBetween fromPos toPos).At (k + 1) ((rayBetween fromPos toPos).advance cursor) := by
  obtain ⟨-, second, third, -⟩ := rayBetween_spec fromPos toPos
  obtain ⟨first, others⟩ := here
  unfold Ray.advance
  constructor
  · dsimp only
    rw [first]
    push_cast
    ring
  · intro within
    push_cast at within ⊢
    have positive : 0 < (rayBetween fromPos toPos).d.x := by omega
    obtain ⟨y, z⟩ := others (by omega)
    rw [y, z]
    exact
      ⟨carry_nearest positive second.1 second.2 _ _, carry_nearest positive third.1 third.2 _ _⟩

lemma Ray.At.cell {k : Nat} {cursor : Cursor} (within : k ≤ maxDistance fromPos toPos)
  (here : (rayBetween fromPos toPos).At k cursor) :
  (rayBetween fromPos toPos).cell cursor = lineCell fromPos toPos k := by
  obtain ⟨longest, -⟩ := rayBetween_spec fromPos toPos
  obtain ⟨first, others⟩ := here
  obtain ⟨y, z⟩ := others (by rw [longest]; exact_mod_cast within)
  unfold Ray.cell
  rw [first, y, z, ← swap_lineCell within, swap_swap]

def scan (map : Tiles) (fromPos toPos : Position) : Cell → List Cell → List Cell × Bool
  | _, [] => ([], true)
  | last, r :: rest =>
    match visit map fromPos toPos last r with
    | none => ([r], false)
    | some last =>
      let (cells, answer) := scan map fromPos toPos last rest
      (r :: cells, answer)

/-- The loop goes through the line. -/
lemma sightLoop_scan (left : Nat) {fuel k : Nat} {cursor : Cursor} (last : Cell)
  (remaining : k + left = maxDistance fromPos toPos + 1) (enough : left < fuel)
  (here : (rayBetween fromPos toPos).At k cursor) :
  sightLoop map fromPos toPos (rayBetween fromPos toPos) fuel cursor last =
    some (scan map fromPos toPos last ((range' k left).map (lineCell fromPos toPos))) := by
  obtain ⟨longest, -, -, signs, target⟩ := rayBetween_spec fromPos toPos
  induction left generalizing fuel k cursor last with
  | zero =>
    obtain ⟨fuel, rfl⟩ := Nat.exists_eq_succ_of_ne_zero (Nat.ne_of_gt enough)
    have done :
        cursor.x = (rayBetween fromPos toPos).target.x + (rayBetween fromPos toPos).s.x := by
      rw [here.1, target, longest, show k = maxDistance fromPos toPos + 1 from remaining]
      push_cast
      ring
    rw [sightLoop, if_pos done]
    rfl
  | succ left ih =>
    obtain ⟨fuel, rfl⟩ := Nat.exists_eq_succ_of_ne_zero (Nat.ne_of_gt (Nat.zero_lt_of_lt enough))
    have going :
        cursor.x ≠ (rayBetween fromPos toPos).target.x + (rayBetween fromPos toPos).s.x := by
      rw [here.1, target, longest]
      rcases signs with positive | negative
      · rw [positive]
        omega
      · rw [negative]
        omega
    rw [sightLoop, if_neg going, here.cell (by omega), range'_succ, map_cons, scan]
    cases visit map fromPos toPos last (lineCell fromPos toPos k) with
    | none => rfl
    | some last =>
      dsimp only
      rw [ih last (by omega) (by omega) here.advance]
      rfl

/-- The last cell is the start at first, with its axes permuted. -/
lemma checkSightLine_scan {fuel : Nat} (enough : maxDistance fromPos toPos + 1 < fuel) :
  checkSightLine map fromPos toPos fuel =
    some (scan map fromPos toPos (rayBetween fromPos toPos).start (sightLine fromPos toPos)) := by
  unfold sightLine
  rw [range_eq_range']
  refine sightLoop_scan _ _ (Nat.zero_add _) enough ⟨by simp, fun size => ?_⟩
  simp [nearest_zero size (Int.zero_mul _)]

/-! ## What is asked of the cells -/

lemma scan_cells (last : Cell) (cells : List Cell) :
  (scan map fromPos toPos last cells).1 <+: cells ∧
    ((scan map fromPos toPos last cells).2 = true →
      (scan map fromPos toPos last cells).1 = cells) := by
  induction cells generalizing last with
  | nil => simp [scan]
  | cons r rest ih =>
    rw [scan]
    cases visit map fromPos toPos last r with
    | none => simp
    | some last => simpa using ih last

/-- On one floor only the tiles in between matter. -/
lemma scan_flat {last : Cell} {cells : List Cell} (flat : ∀ r ∈ cells, r.z = last.z) :
  (scan map fromPos toPos last cells).2 = true ↔
    ∀ r ∈ cells, r ≠ cellOf toPos → r ≠ cellOf fromPos → map.blocks r = false := by
  induction cells generalizing last with
  | nil => simp [scan]
  | cons r rest ih =>
    have same := flat r mem_cons_self
    rw [forall_mem_cons, scan, visit]
    split_ifs with inner passes blocked
    · exact absurd same.symm passes.1
    · simp [inner, blocked]
    · dsimp only
      rw [ih fun other mem => (flat other (mem_cons_of_mem r mem)).trans same.symm]
      simp [inner, blocked]
    · dsimp only
      rw [ih fun other mem => flat other (mem_cons_of_mem r mem)]
      constructor
      · intro rest
        exact ⟨fun one two => absurd ⟨one, two⟩ inner, rest⟩
      · exact And.right

/-- Between positions on one floor the line stays there. -/
lemma sightLine_floor (sameFloor : fromPos.z = toPos.z) :
  ∀ r ∈ sightLine fromPos toPos, r.z = (rayBetween fromPos toPos).start.z := by
  intro r mem
  obtain ⟨k, -, rfl⟩ := mem_map.mp mem
  have still : (lineCell fromPos toPos k).z = (cellOf fromPos).z := by
    simp only [lineCell, cellOf, along, sameFloor, Int.sub_self, Int.natAbs_zero, Int.natCast_zero]
    rw [nearest_zero (Int.natCast_nonneg _) (Int.mul_zero _), mul_zero, add_zero]
  rw [still]
  rcases direction_cases (distances (cellOf fromPos) (cellOf toPos)) with
      ⟨dir, -⟩ | ⟨dir, -⟩ | ⟨-, upright, -⟩
  · simp only [rayBetween, dir, Axis.swap]
  · simp only [rayBetween, dir, Axis.swap]
  · simp only [distances, cellOf, sameFloor] at upright
    omega

lemma lineCell_injective
  {k j : Nat} (here : k ≤ maxDistance fromPos toPos) (there : j ≤ maxDistance fromPos toPos)
  (same : lineCell fromPos toPos k = lineCell fromPos toPos j) : k = j := by
  obtain ⟨-, -, -, signs, -⟩ := rayBetween_spec fromPos toPos
  have first :=
    (swap_lineCell here).symm.trans ((congrArg _ same).trans (swap_lineCell there))
  rw [Cell.mk.injEq] at first
  rcases signs with positive | negative
  · rw [positive] at first
    omega
  · rw [negative] at first
    omega

lemma maxDistance_bounds (fromPos toPos : Position) :
  ((fromPos.x.toNat : Int) - toPos.x.toNat).natAbs ≤ maxDistance fromPos toPos ∧
    ((fromPos.y.toNat : Int) - toPos.y.toNat).natAbs ≤ maxDistance fromPos toPos ∧
    ((fromPos.z.toNat : Int) - toPos.z.toNat).natAbs ≤ maxDistance fromPos toPos :=
  ⟨le_max_left .., (le_max_left ..).trans (le_max_right ..),
    (le_max_right ..).trans (le_max_right ..)⟩

end Rays

def Adjacent (one other : Cell) : Prop :=
  (one.x - other.x).natAbs ≤ 1 ∧ (one.y - other.y).natAbs ≤ 1 ∧ (one.z - other.z).natAbs ≤ 1

/-- The loop ends, and it visits the nearest cells, as far as the line is clear. -/
theorem checkSightLine_line (map : Tiles) (fromPos toPos : Position) :
  let n := maxDistance fromPos toPos
  let cell := lineCell fromPos toPos
  (cell 0 = cellOf fromPos ∧ cell n = cellOf toPos ∧ ∀ k < n, Adjacent (cell k) (cell (k + 1))) ∧
    ∃ cells answer,
      (∀ fuel, n + 1 < fuel → checkSightLine map fromPos toPos fuel = some (cells, answer)) ∧
        cells <+: (range (n + 1)).map cell ∧
        (answer = true → cells = (range (n + 1)).map cell) ∧
        (fromPos.z = toPos.z →
          (answer = true ↔ ∀ k, 0 < k → k < n → map.blocks (cell k) = false)) := by
  intro n cell
  obtain ⟨x, y, z⟩ := maxDistance_bounds fromPos toPos
  have first : cell 0 = cellOf fromPos := by
    simp only [cell, lineCell, along_zero]
    rfl
  have last : cell n = cellOf toPos := by
    simp only [cell, n, lineCell, along_last x, along_last y, along_last z]
    rfl
  refine ⟨⟨first, last, ?_⟩, ?_⟩
  · intro k inside
    have positive := Nat.zero_lt_of_lt inside
    exact ⟨along_succ positive x, along_succ positive y, along_succ positive z⟩
  · let start := (rayBetween fromPos toPos).start
    let line := sightLine fromPos toPos
    refine ⟨(scan map fromPos toPos start line).1, (scan map fromPos toPos start line).2,
      fun fuel enough => checkSightLine_scan enough, (scan_cells start line).1,
      (scan_cells start line).2, ?_⟩
    intro sameFloor
    have flat : ∀ r ∈ line, r.z = start.z := sightLine_floor sameFloor
    rw [scan_flat flat]
    constructor
    · intro clear k positive inside
      refine clear (cell k) (mem_map_of_mem (mem_range.mpr (Nat.lt_succ_of_lt inside))) ?_ ?_
      · intro same
        exact inside.ne (lineCell_injective inside.le le_rfl (same.trans last.symm))
      · intro same
        exact positive.ne' (lineCell_injective inside.le (Nat.zero_le _) (same.trans first.symm))
    · intro clear r member notLast notFirst
      obtain ⟨k, inside, rfl⟩ := mem_map.mp member
      refine clear k (Nat.pos_of_ne_zero ?_) ((Nat.le_of_lt_succ (mem_range.mp inside)).lt_of_ne ?_)
      · rintro rfl
        exact notFirst first
      · rintro rfl
        exact notLast last

end OTServ.Sight
