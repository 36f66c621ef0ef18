import OTServ.Library.GuardedRuns
import OTServ.Monsters.WalkCache

/-!
# The walk cache in a run

In every state of a run the cache agrees, for each position around the monster
but its own, with what the tile there would answer now.  This needs that what
changes floors, teleports or harms is of a type of which the monster is told
when it is changed or goes, and that steps go to tiles nearby.
-/

namespace OTServ.WalkCache

open Library.GuardedRuns
open Library.Shifts
open Map
open Spectators
open List Function

variable {first second third before after : State} {my oldPos newPos : Position}
  {left : Position → Prop} {tile : Tile} {item newItem : Item} {creature : Nat} {teleport : Bool}

namespace State

variable {self : Nat} {traits : Traits} {state next : State} {position other : Position}

def dx (my position : Position) : Int :=
  position.x.toNat - my.x.toNat

def dy (my position : Position) : Int :=
  position.y.toNat - my.y.toNat

def Near (my position : Position) : Prop :=
  position.z = my.z ∧ reaches (dx my position) (dy my position) = true

def entry (self : Nat) (state : State) (position : Position) : Bool :=
  state.localMapCache
    (mapWalkReach + dy (state.myPos self) position).toNat
    (mapWalkReach + dx (state.myPos self) position).toNat

lemma reaches_iff (x y : Int) : reaches x y = true ↔ (-11 ≤ x ∧ x ≤ 11) ∧ -11 ≤ y ∧ y ≤ 11 := by
  simp only [reaches, Bool.and_eq_true, decide_eq_true_eq]
  simp only [mapWalkReach]
  omega

lemma position_ext {first second : Position} (x : first.x.toNat = second.x.toNat)
  (y : first.y.toNat = second.y.toNat) (z : first.z = second.z) : first = second := by
  cases first
  cases second
  simp only [Position.mk.injEq]
  exact ⟨UInt16.toNat_inj.mp x, UInt16.toNat_inj.mp y, z⟩

lemma cell_injective (near : Near my position) (near' : Near my other)
  (row : (mapWalkReach + dy my position).toNat = (mapWalkReach + dy my other).toNat)
  (column : (mapWalkReach + dx my position).toNat = (mapWalkReach + dx my other).toNat) :
  position = other := by
  rcases near with ⟨floor, reach⟩
  rcases near' with ⟨floor', reach'⟩
  rw [reaches_iff] at reach reach'
  simp only [mapWalkReach, dx, dy] at row column reach reach'
  apply position_ext
  · omega
  · omega
  · rw [floor, floor']

lemma inRange_of_near (floor : position.z < 16) (near : Near my position) :
  Map.inRange position my (Map.cachedRange position) = true := by
  rcases near with ⟨sameFloor, reach⟩
  have level := congrArg UInt16.toNat sameFloor
  have below : position.z.toNat < 16 := UInt16.lt_iff_toNat_lt.mp floor
  rw [reaches_iff] at reach
  simp only [dx, dy] at reach
  simp only [Map.inRange, Map.cachedRange, Map.queryRange, Map.floors,
    Map.maxViewport, if_true, Bool.and_eq_true, Bool.not_eq_true',
    Bool.or_eq_false_iff, decide_eq_false_iff_not, not_lt]
  refine ⟨⟨⟨?_, ?_⟩, ?_, ?_⟩, ?_, ?_⟩
  · split_ifs <;> omega
  · split_ifs <;> omega
  all_goals omega

/-! ## Asking again -/

def OnlyCache (before after : State) : Prop :=
  ∃ cache, after = before.withCache cache

lemma OnlyCache.refl (state : State) : OnlyCache state state :=
  ⟨state.localMapCache, rfl⟩

lemma OnlyCache.trans (early : OnlyCache first second) (late : OnlyCache second third) :
  OnlyCache first third := by
  rcases early with ⟨cache, rfl⟩
  rcases late with ⟨cache', rfl⟩
  exact ⟨cache', rfl⟩

lemma OnlyCache.myPos (same : OnlyCache before after) (self : Nat) :
  after.myPos self = before.myPos self := by
  rcases same with ⟨cache, rfl⟩
  rfl

lemma OnlyCache.walkable
  (same : OnlyCache before after) (traits : Traits) (position : Position) :
  after.walkable traits position = before.walkable traits position := by
  rcases same with ⟨cache, rfl⟩
  rfl

lemma updateCell_only (position : Position) (x y : Int) :
  OnlyCache state (state.updateCell traits position x y) := by
  rw [updateCell]
  split
  · exact ⟨_, rfl⟩
  · exact .refl state

lemma updateTileCache_spec (self : Nat) (traits : Traits) (state : State) (position : Position) :
  OnlyCache state (state.updateTileCache self traits position) ∧
    ∀ other,
      Near (state.myPos self) other →
        (state.updateTileCache self traits position).entry self other =
          if other = position then state.walkable traits other
          else state.entry self other := by
  have only : OnlyCache state (state.updateTileCache self traits position) := by
    simp only [updateTileCache]
    split
    · exact updateCell_only _ _ _
    · exact .refl state
  refine ⟨only, ?_⟩
  intro other near
  by_cases same : other = position
  · subst same
    rcases near with ⟨floor, reach⟩
    simp only [dx, dy] at reach
    simp only [updateTileCache, floor, if_true, updateCell, reach]
    simp only [entry, myPos, setCell, dx, dy, update_self]
  · rw [if_neg same]
    simp only [updateTileCache]
    split
    · rename_i floor
      rw [updateCell]
      split
      · rename_i reach
        have near' : Near (state.myPos self) position := ⟨floor, reach⟩
        simp only [entry, setCell, myPos]
        by_cases row :
            (mapWalkReach + dy (state.place self) other).toNat =
              (mapWalkReach + ((position.y.toNat : Int) - (state.place self).y.toNat)).toNat
        · rw [row, update_self, update_of_ne]
          intro column
          exact same (cell_injective near near' row column)
        · rw [update_of_ne row]
      · rfl
    · rfl

lemma mem_window (distance : Int) : distance ∈ window ↔ -11 ≤ distance ∧ distance ≤ 11 := by
  simp only [window, mapWalkReach, mem_map, mem_range]
  constructor
  · rintro ⟨index, below, rfl⟩
    omega
  · intro bounds
    exact ⟨(distance + 11).toNat, by omega, by omega⟩

lemma offset_dx_dy (floor : position.z = my.z) :
  offset my (dx my position) (dy my position) = position := by
  have x := position.x.toNat_lt
  have y := position.y.toNat_lt
  apply position_ext
  · simp only [offset, dx, UInt16.ofInt, UInt16.toNat_ofNat']
    omega
  · simp only [offset, dy, UInt16.ofInt, UInt16.toNat_ofNat']
    omega
  · exact floor.symm

/-- The cells of some positions, and perhaps more, are asked again. -/
def Asks (self : Nat) (traits : Traits) (asked : Position → Prop) (before after : State) : Prop :=
  OnlyCache before after ∧
    ∀ position,
      Near (before.myPos self) position →
        after.entry self position = before.walkable traits position ∨
          ¬ asked position ∧ after.entry self position = before.entry self position

lemma Asks.trans {asked asked' : Position → Prop} (early : Asks self traits asked first second)
  (late : Asks self traits asked' second third) :
  Asks self traits (fun position => asked position ∨ asked' position) first
    third := by
  refine ⟨early.1.trans late.1, ?_⟩
  intro position near
  have near' : Near (second.myPos self) position := by
    rw [early.1.myPos]
    exact near
  rcases late.2 position near' with fresh | ⟨other', kept'⟩
  · rw [early.1.walkable] at fresh
    exact .inl fresh
  · rcases early.2 position near with fresh | ⟨other, kept⟩
    · exact .inl (kept'.trans fresh)
    · exact .inr ⟨not_or.mpr ⟨other, other'⟩, kept'.trans kept⟩

/-- A loop asks again what its rounds ask again. -/
lemma Asks.foldl {Index : Type} {asked : Index → Position → Prop} {round : State → Index → State}
  (indices : List Index)
  (asks :
    ∀ state index,
      State.myPos self state = my → Asks self traits (asked index) state (round state index))
  (here : state.myPos self = my) :
  Asks self traits
    (fun position => ∃ index ∈ indices, asked index position) state
    (indices.foldl round state) := by
  induction indices generalizing state with
  | nil =>
    refine ⟨.refl state, fun _ _ => .inr ⟨?_, rfl⟩⟩
    rintro ⟨index, listed, _⟩
    cases listed
  | cons index rest ih =>
    have first := asks state index here
    have later := ih (first.1.myPos self ▸ here)
    rcases first.trans later with ⟨only, cells⟩
    refine ⟨only, fun position near => ?_⟩
    rcases cells position near with fresh | ⟨others, kept⟩
    · exact .inl fresh
    · refine .inr ⟨?_, kept⟩
      rintro ⟨chosen, listed, this⟩
      rcases mem_cons.mp listed with rfl | later
      · exact others (.inl this)
      · exact others (.inr ⟨chosen, later, this⟩)

lemma updateTileCache_asks (self : Nat) (traits : Traits) (state : State) (position : Position) :
  Asks self traits (fun other => other = position) state
    (state.updateTileCache self traits position) := by
  rcases updateTileCache_spec self traits state position with ⟨only, cells⟩
  refine ⟨only, fun other near => ?_⟩
  have cell := cells other near
  split at cell
  · exact .inl cell
  · rename_i away
    exact .inr ⟨away, cell⟩

lemma updateMapCache_spec (self : Nat) (traits : Traits) (state : State) :
  OnlyCache state (state.updateMapCache self traits) ∧
    ∀ position,
      Near (state.myPos self) position →
        (state.updateMapCache self traits).entry self position =
          state.walkable traits position := by
  have row : ∀ (begun : State) (y : Int),
      begun.myPos self = state.myPos self →
        Asks self traits
          (fun position => ∃ x ∈ window, position = offset (state.myPos self) x y)
          begun
          (window.foldl
            (fun state x => state.updateTileCache self traits (offset (state.myPos self) x y))
            begun) := by
    intro begun y here
    apply Asks.foldl window _ here
    intro current x there
    rw [← there]
    exact updateTileCache_asks self traits current _
  have rows :
      Asks self traits
        (fun position => ∃ y ∈ window, ∃ x ∈ window, position = offset (state.myPos self) x y)
        state (state.updateMapCache self traits) :=
    Asks.foldl window row rfl
  refine ⟨rows.1, ?_⟩
  intro position near
  rcases rows.2 position near with fresh | ⟨others, _⟩
  · exact fresh
  · exfalso
    have reach := (reaches_iff _ _).mp near.2
    exact others
      ⟨dy (state.myPos self) position, (mem_window _).mpr reach.2,
        dx (state.myPos self) position, (mem_window _).mpr reach.1,
        (offset_dx_dy near.1).symm⟩

/-! ## Own steps -/

lemma updateCell_asks (self : Nat) (traits : Traits) (state : State) (x y : Int) :
  Asks self traits
    (fun position => dx (state.myPos self) position = x ∧ dy (state.myPos self) position = y)
    state
    (state.updateCell traits (offset (state.myPos self) x y) x y) := by
  refine ⟨updateCell_only _ _ _, ?_⟩
  intro position near
  by_cases there : dx (state.myPos self) position = x ∧ dy (state.myPos self) position = y
  · left
    rcases there with ⟨rfl, rfl⟩
    rw [offset_dx_dy near.1, updateCell, if_pos near.2]
    simp only [entry, myPos, setCell, update_self]
  · right
    refine ⟨there, ?_⟩
    rw [updateCell]
    split
    · rename_i reach
      have reach' := near.2
      rw [reaches_iff] at reach reach'
      simp only [entry, setCell, myPos]
      simp only [myPos] at reach' there
      by_cases row :
          (mapWalkReach + dy (state.place self) position).toNat = (mapWalkReach + y).toNat
      · rw [row, update_self, update_of_ne]
        intro column
        simp only [mapWalkReach] at row column
        exact there ⟨by omega, by omega⟩
      · rw [update_of_ne row]
    · rfl

lemma updateRow_asks (self : Nat) (traits : Traits) (state : State) (y : Int) :
  Asks self traits
    (fun position =>
      ∃ x ∈ window, dx (state.myPos self) position = x ∧ dy (state.myPos self) position = y)
    state (state.updateRow self traits y) := by
  apply Asks.foldl window _ rfl
  intro current x here
  rw [← here]
  exact updateCell_asks self traits current x y

lemma updateColumn_asks (self : Nat) (traits : Traits) (state : State) (x : Int) :
  Asks self traits
    (fun position =>
      ∃ y ∈ window, dx (state.myPos self) position = x ∧ dy (state.myPos self) position = y)
    state (state.updateColumn self traits x) := by
  apply Asks.foldl window _ rfl
  intro current y here
  rw [← here]
  exact updateCell_asks self traits current x y

lemma updateRow_others (self : Nat) (traits : Traits) (state : State) (y : Int) (row : Nat)
  (away : row ≠ (mapWalkReach + y).toNat) :
  (state.updateRow self traits y).localMapCache row = state.localMapCache row := by
  have cells : ∀ (xs : List Int) (begun : State),
      (xs.foldl
          (fun state x => state.updateCell traits (offset (state.myPos self) x y) x y)
          begun).localMapCache row =
        begun.localMapCache row := by
    intro xs
    induction xs with
    | nil => exact fun _ => rfl
    | cons x rest ih =>
      intro begun
      rw [foldl_cons, ih, updateCell]
      split
      · rw [setCell]
        exact update_of_ne away _ _
      · rfl
  exact cells window state

/-- The row was in the window before the step, by the distance of the step. -/
def Overlaps (distance : Int) (index : Nat) : Prop :=
  0 ≤ (index : Int) + distance ∧ (index : Int) + distance ≤ 22

instance (distance : Int) (index : Nat) : Decidable (Overlaps distance index) :=
  inferInstanceAs (Decidable (_ ∧ _))

lemma keptRow_iff {row : Nat} (inside : row ≤ 22) :
  keptRow oldPos newPos row = true ↔ Overlaps (dy oldPos newPos) row := by
  simp only [keptRow, Overlaps, Bool.and_eq_true, decide_eq_true_eq]
  simp only [dy]
  split_ifs <;> omega

/-- A shift moves all cells by the distance, up to an edge which is asked again. -/
def Shifts {Value : Type} (shift : (Nat → Value) → Nat → Value) (distance edge : Int) : Prop :=
  ∀ cells index,
    index ≤ 22 →
      index = (mapWalkReach + edge).toNat ∨
        Overlaps distance index ∧ shift cells index = cells (index + distance).toNat

lemma shiftDown_shifts {Value : Type} : Shifts (@shiftDown Value 22) 1 mapWalkReach := by
  intro cells index inside
  by_cases last : index = 22
  · exact .inl last
  · right
    refine ⟨⟨by omega, by omega⟩, ?_⟩
    rw [shiftDown_apply, if_pos (by omega)]
    rfl

lemma shiftUp_shifts {Value : Type} : Shifts (@shiftUp Value 22) (-1) (-mapWalkReach) := by
  intro cells index inside
  by_cases first : index = 0
  · exact .inl first
  · right
    refine ⟨⟨by omega, by omega⟩, ?_⟩
    rw [shiftUp_apply, if_pos (by omega)]
    congr 1
    omega

/-- Rows get the cells of the row that was there, or are asked again. -/
def RowsMove (self : Nat) (traits : Traits) (newPos : Position) (distance : Int)
  (before after : State) : Prop :=
  OnlyCache before after ∧
    (∀ row,
      row ≤ 22 → Overlaps distance row →
        after.localMapCache row = before.localMapCache (row + distance).toNat) ∧
      ∀ position,
        Near newPos position → ¬ Overlaps distance (mapWalkReach + dy newPos position).toNat →
          after.entry self position = before.walkable traits position

lemma shiftRows_spec (self : Nat) (traits : Traits) (state : State) (oldPos newPos : Position)
  (here : state.myPos self = newPos) (nearby : (dy oldPos newPos).natAbs ≤ 1) :
  RowsMove self traits newPos (dy oldPos newPos) state
    (state.shiftRows self traits oldPos newPos) := by
  -- the edge that is asked again is all that has not been there
  have edge : ∀ (shift : (Nat → Nat → Bool) → Nat → Nat → Bool) (y : Int),
      -11 ≤ y → ¬ Overlaps (dy oldPos newPos) (mapWalkReach + y).toNat →
      Shifts shift (dy oldPos newPos) y →
        RowsMove self traits newPos (dy oldPos newPos) state
          ((state.withCache (shift state.localMapCache)).updateRow self traits y) := by
    intro shift y bound outer shifts
    rcases updateRow_asks self traits (state.withCache (shift state.localMapCache)) y with
      ⟨only, cells⟩
    have only' : OnlyCache state (state.withCache (shift state.localMapCache)) := ⟨_, rfl⟩
    have centre : (state.withCache (shift state.localMapCache)).myPos self = newPos := by
      rw [only'.myPos, here]
    rw [centre] at cells
    refine ⟨only'.trans only, ?_, ?_⟩
    · intro row inside overlaps
      have away : row ≠ (mapWalkReach + y).toNat := by
        rintro rfl
        exact outer overlaps
      rcases shifts state.localMapCache row inside with edge | ⟨-, moved⟩
      · exact (away edge).elim
      · exact (updateRow_others self traits _ y row away).trans moved
    · intro position near outside
      rcases cells position near with fresh | ⟨others, _⟩
      · exact fresh
      · exfalso
        have reach := (reaches_iff _ _).mp near.2
        rcases shifts state.localMapCache (mapWalkReach + dy newPos position).toNat
            (by simp only [mapWalkReach]; omega) with edge | ⟨overlaps, -⟩
        · apply others
          refine ⟨dx newPos position, (mem_window _).mpr reach.1, rfl, ?_⟩
          simp only [mapWalkReach] at edge
          omega
        · exact outside overlaps
  rw [shiftRows]
  split
  · rename_i north
    have step : dy oldPos newPos = -1 := by
      simp only [dy, UInt16.lt_iff_toNat_lt] at north nearby ⊢
      omega
    rw [step] at edge ⊢
    exact edge (shiftUp 22) (-mapWalkReach) (by decide) (by decide) shiftUp_shifts
  · split
    · rename_i south
      have step : dy oldPos newPos = 1 := by
        simp only [dy, UInt16.lt_iff_toNat_lt] at south nearby ⊢
        omega
      rw [step] at edge ⊢
      exact edge (shiftDown 22) mapWalkReach (by decide) (by decide) shiftDown_shifts
    · rename_i notNorth notSouth
      have step : dy oldPos newPos = 0 := by
        simp only [dy, UInt16.lt_iff_toNat_lt] at notNorth notSouth ⊢
        omega
      refine ⟨.refl state, ?_, ?_⟩
      · intro row _ _
        rw [step, Int.add_zero, Int.toNat_natCast]
      · intro position near outside
        exfalso
        have reach := (reaches_iff _ _).mp near.2
        apply outside
        simp only [Overlaps, mapWalkReach]
        omega

/-- Columns get the cells of the column that was there, or are asked again. -/
def ColumnsMove (self : Nat) (traits : Traits) (newPos : Position) (dx' dy' : Int)
  (before after : State) : Prop :=
  OnlyCache before after ∧
    ∀ position,
      Near newPos position →
        let row := (mapWalkReach + dy newPos position).toNat
        let column := (mapWalkReach + dx newPos position).toNat
        after.entry self position = before.walkable traits position ∨
          ¬ Overlaps dy' row ∧ after.entry self position = before.entry self position ∨
          Overlaps dy' row ∧
            Overlaps dx' column ∧
            after.entry self position = before.localMapCache row (column + dx').toNat

lemma shiftColumns_spec (self : Nat) (traits : Traits) (state : State) (oldPos newPos : Position)
  (here : state.myPos self = newPos) (nearby : (dx oldPos newPos).natAbs ≤ 1) :
  ColumnsMove self traits newPos (dx oldPos newPos) (dy oldPos newPos) state
    (state.shiftColumns self traits oldPos newPos) := by
  have small : ∀ position,
      Near newPos position →
        (mapWalkReach + dy newPos position).toNat ≤ 22 ∧
          (mapWalkReach + dx newPos position).toNat ≤ 22 := by
    intro position near
    have reach := (reaches_iff _ _).mp near.2
    simp only [mapWalkReach]
    omega
  -- a column that is asked again, over rows of which some are shifted
  have edge : ∀ (shiftRow : (Nat → Bool) → Nat → Bool) (x : Int),
      -11 ≤ x → Shifts shiftRow (dx oldPos newPos) x →
        let cache : Nat → Nat → Bool := fun y =>
          if keptRow oldPos newPos y then shiftRow (state.localMapCache y)
          else state.localMapCache y
        ColumnsMove self traits newPos (dx oldPos newPos) (dy oldPos newPos) state
          ((state.withCache cache).updateColumn self traits x) := by
    intro shiftRow x bound shifts cache
    rcases updateColumn_asks self traits (state.withCache cache) x with ⟨only, cells⟩
    have only' : OnlyCache state (state.withCache cache) := ⟨cache, rfl⟩
    have centre : (state.withCache cache).myPos self = newPos := by
      rw [only'.myPos, here]
    rw [centre] at cells
    refine ⟨only'.trans only, ?_⟩
    intro position near
    rcases cells position near with fresh | ⟨others, kept⟩
    · exact .inl fresh
    · right
      rcases small position near with ⟨rowSmall, columnSmall⟩
      have cell :
          (state.withCache cache).entry self position =
            cache (mapWalkReach + dy newPos position).toNat
              (mapWalkReach + dx newPos position).toNat := by
        rw [entry, centre]
        rfl
      by_cases row : keptRow oldPos newPos (mapWalkReach + dy newPos position).toNat = true
      · right
        rcases shifts
            (state.localMapCache (mapWalkReach + dy newPos position).toNat)
            (mapWalkReach + dx newPos position).toNat columnSmall with
          edge | ⟨overlaps, moved⟩
        · exfalso
          have reach := (reaches_iff _ _).mp near.2
          apply others
          refine ⟨dy newPos position, (mem_window _).mpr reach.2, ?_, rfl⟩
          simp only [mapWalkReach] at edge
          omega
        · refine ⟨(keptRow_iff rowSmall).mp row, overlaps, ?_⟩
          rw [kept, cell]
          simp only [cache, row, if_true]
          exact moved
      · left
        refine ⟨fun overlaps => row ((keptRow_iff rowSmall).mpr overlaps), ?_⟩
        rw [kept, cell, entry, here]
        simp only [cache, row, if_false, Bool.false_eq_true]
  simp only [shiftColumns]
  split
  · rename_i toEast
    have step : dx oldPos newPos = 1 := by
      simp only [dx, UInt16.lt_iff_toNat_lt] at toEast nearby ⊢
      omega
    rw [step] at edge ⊢
    exact edge (shiftDown 22) mapWalkReach (by decide) shiftDown_shifts
  · split
    · rename_i toWest
      have step : dx oldPos newPos = -1 := by
        simp only [dx, UInt16.lt_iff_toNat_lt] at toWest nearby ⊢
        omega
      rw [step] at edge ⊢
      exact edge (shiftUp 22) (-mapWalkReach) (by decide) shiftUp_shifts
    · rename_i notEast notWest
      have step : dx oldPos newPos = 0 := by
        simp only [dx, UInt16.lt_iff_toNat_lt] at notEast notWest ⊢
        omega
      refine ⟨.refl state, ?_⟩
      intro position near
      right
      by_cases row : Overlaps (dy oldPos newPos) (mapWalkReach + dy newPos position).toNat
      · right
        rcases small position near with ⟨_, columnSmall⟩
        rw [step, Int.add_zero, Int.toNat_natCast, entry, here]
        exact ⟨row, ⟨by omega, by omega⟩, rfl⟩
      · exact .inl ⟨row, rfl⟩

/--
While the monster is on the map its cache is in use, and agrees with the tiles
around but its own and those that are left out.
-/
def SoundBut (self : Nat) (traits : Traits) (left : Position → Prop) (state : State) : Prop :=
  state.onMap self = true →
    state.isMapLoaded = true ∧
      ∀ position,
        Near (state.myPos self) position → position ≠ state.myPos self →
          ¬ left position → state.entry self position = state.walkable traits position

def Sound (self : Nat) (traits : Traits) (state : State) : Prop :=
  SoundBut self traits (fun _ => False) state

/-- The monster and its cache are the same, and tiles outside of some. -/
structure Touches
  (monster : Nat) (traits : Traits) (left : Position → Prop)
  (before after : State) : Prop where
  myPos : after.myPos monster = before.myPos monster
  onMap : after.onMap monster = before.onMap monster
  isMapLoaded : after.isMapLoaded = before.isMapLoaded
  localMapCache : after.localMapCache = before.localMapCache
  walkable :
    ∀ position, ¬ left position → after.walkable traits position = before.walkable traits position

lemma SoundBut.touches {left' : Position → Prop} (sound : SoundBut self traits left before)
  (touches : Touches self traits left' before after)
  (more : ∀ position, left position → left' position) : SoundBut self traits left' after := by
  intro there
  rw [touches.onMap] at there
  rcases sound there with ⟨loaded, cells⟩
  rw [touches.isMapLoaded, touches.myPos]
  refine ⟨loaded, ?_⟩
  intro position near away kept
  rw [touches.walkable position kept, entry, touches.localMapCache, touches.myPos]
  exact cells position near away fun this => kept (more position this)

lemma SoundBut.asks {asked : Position → Prop} (sound : SoundBut self traits left before)
  (asks : Asks self traits asked before after) :
  SoundBut self traits (fun position => left position ∧ ¬ asked position)
    after := by
  rcases asks with ⟨only, cells⟩
  intro there
  have walkable := only.walkable traits
  rcases only with ⟨cache, rfl⟩
  rcases sound there with ⟨loaded, agree⟩
  refine ⟨loaded, ?_⟩
  intro position near away kept
  rcases cells position near with fresh | ⟨other, same'⟩
  · exact fresh
  · rw [same']
    exact agree position near away fun this => kept ⟨this, other⟩

def At (position other : Position) : Prop :=
  other = position ∧ other.z < 16

lemma SoundBut.hear (sound : SoundBut self traits (At position) state) :
  Sound self traits (state.hear self traits position) := by
  rw [State.hear]
  split
  · have asked := sound.asks (updateTileCache_asks self traits state position)
    intro there
    rcases asked there with ⟨loaded, agree⟩
    exact ⟨loaded, fun other near away _ => agree other near away fun both => both.2 both.1.1⟩
  · rename_i deaf
    intro there
    rcases sound there with ⟨loaded, agree⟩
    refine ⟨loaded, fun other near away _ => agree other near away ?_⟩
    rintro ⟨rfl, floor⟩
    apply deaf
    rw [Bool.and_eq_true, told, Bool.and_eq_true]
    exact ⟨⟨there, inRange_of_near floor near⟩, loaded⟩

lemma Sound.but (sound : Sound self traits state) (left : Position → Prop) :
  SoundBut self traits left state := by
  intro there
  rcases sound there with ⟨loaded, agree⟩
  exact ⟨loaded, fun other near away _ => agree other near away id⟩

lemma Touches.trans {left' : Position → Prop} (early : Touches self traits left first second)
  (late : Touches self traits left' second third) :
  Touches self traits (fun position => left position ∨ left' position) first third where
  myPos := late.myPos.trans early.myPos
  onMap := late.onMap.trans early.onMap
  isMapLoaded := late.isMapLoaded.trans early.isMapLoaded
  localMapCache := late.localMapCache.trans early.localMapCache
  walkable position kept := by
    rw [not_or] at kept
    exact (late.walkable position kept.2).trans (early.walkable position kept.1)

lemma Touches.sound (touches : Touches self traits left before after)
  (sound : Sound self traits before) : SoundBut self traits left after :=
  SoundBut.touches sound touches fun _ impossible => impossible.elim

/-! ## Items -/

lemma floor_of_getTile (found : state.getTile position = some tile) : position.z < 16 := by
  by_contra high
  rw [getTile, if_neg high] at found
  cases found

lemma setTile_touches (self : Nat) (traits : Traits) (state : State) (position : Position)
  (tile : Tile) : Touches self traits (At position) state (state.setTile position tile) where
  myPos := rfl
  onMap := rfl
  isMapLoaded := rfl
  localMapCache := rfl
  walkable other kept := by
    by_cases floor : other.z < 16
    · have away : other ≠ position := fun same => kept ⟨same, floor⟩
      simp only [walkable, getTile, setTile, update_of_ne away]
    · simp only [walkable, getTile, if_neg floor]

lemma setTile_same {tile' : Tile} (found : state.getTile position = some tile)
  (same : queryAdd traits tile' = queryAdd traits tile) :
  Touches self traits (fun _ => False) state (state.setTile position tile') where
  myPos := rfl
  onMap := rfl
  isMapLoaded := rfl
  localMapCache := rfl
  walkable other _ := by
    by_cases here : other = position
    · subst here
      simp only [walkable, found]
      simp only [getTile, setTile, update_self, if_pos (floor_of_getTile found), same]
    · simp only [walkable, getTile, setTile, update_of_ne here]

/-- The item changes no floor, and is no Teleport and no field. -/
structure Plain (item : Item) : Prop where
  changesFloor : item.changesFloor = false
  isTeleport : item.isTeleport = false
  isField : item.isField = false

def Blocks (type : ItemType) : Prop :=
  type.blockSolid = true ∨ type.blockPathFind = true

instance (type : ItemType) : Decidable (Blocks type) :=
  inferInstanceAs (Decidable (_ ∨ _))

lemma removeFlags_plain (plain : Plain item) (open' : ¬ Blocks item.type) :
  tile.removeFlags item = tile := by
  rw [Blocks, not_or, Bool.not_eq_true, Bool.not_eq_true] at open'
  simp only [Tile.removeFlags, Tile.resets, Item.immovableBlockSolid,
    Item.noFieldBlockPath, Item.immovableNoFieldBlockPath,
    plain.changesFloor, plain.isTeleport, plain.isField, open'.1, open'.2,
    Bool.not_false, Bool.and_true, Bool.and_false, Bool.false_and]

lemma addFlags_plain (plain : Plain item) (open' : ¬ Blocks item.type) :
  tile.addFlags item = tile := by
  rw [Blocks, not_or, Bool.not_eq_true, Bool.not_eq_true] at open'
  simp only [Tile.addFlags, Item.immovableBlockSolid,
    Item.noFieldBlockPath, Item.immovableNoFieldBlockPath,
    plain.changesFloor, plain.isTeleport, plain.isField, open'.1, open'.2,
    Bool.or_false, Bool.and_false, Bool.false_and]

section

variable (old : item.isField = false)
include old

lemma find_field_map (new : newItem.isField = false) (items : List Item) :
  (items.map fun other => if other = item then newItem else other).find?
      Item.isField =
    items.find? Item.isField := by
  induction items with
  | nil => rfl
  | cons first rest ih =>
    rw [map_cons, List.find?_cons, List.find?_cons, ih]
    by_cases same : first = item
    · rw [if_pos same, same, old, new]
    · rw [if_neg same]

lemma find_field_filter (items : List Item) :
  (items.filter (· ≠ item)).find? Item.isField = items.find? Item.isField := by
  induction items with
  | nil => rfl
  | cons first rest ih =>
    rw [filter_cons, List.find?_cons]
    by_cases same : first = item
    · rw [if_neg (by simp [same]), ih, same, old]
    · rw [if_pos (by simp [same]), List.find?_cons, ih]

lemma queryAdd_exchangeItem (new : newItem.isField = false) :
  queryAdd traits (tile.exchangeItem item newItem) = queryAdd traits tile := by
  have field : (tile.exchangeItem item newItem).getFieldItem = tile.getFieldItem := by
    simp only [Tile.getFieldItem, Tile.exchangeItem]
    rw [find_field_map old new]
    rfl
  simp only [queryAdd, field]
  simp only [Tile.exchangeItem, Option.isNone_map]
  rfl

lemma queryAdd_takeItem (ground : tile.ground ≠ some item) :
  queryAdd traits (tile.takeItem item) = queryAdd traits tile := by
  have field : (tile.takeItem item).getFieldItem = tile.getFieldItem := by
    simp only [Tile.getFieldItem, Tile.takeItem]
    rw [find_field_filter old]
    rfl
  have kept : (tile.takeItem item).ground.isNone = tile.ground.isNone := by
    rw [Tile.takeItem]
    cases found : tile.ground with
    | none => rfl
    | some under =>
      have other : under ≠ item := by
        rintro rfl
        exact ground found
      rw [Option.filter_some, if_pos (by simp [other])]
  simp only [queryAdd, field, kept]
  rfl

end

/-- The monster is told of the change, or it makes no difference. -/
def Changes (oldItem newItem : Item) : Prop :=
  Blocks oldItem.type ∨ Blocks newItem.type ∨ Plain oldItem ∧ Plain newItem

lemma onUpdateTileItem_hears
  {oldType newType : ItemType} (blocks : Blocks oldType ∨ Blocks newType) :
  state.onUpdateTileItem self traits position oldType newType =
    state.hear self traits position := by
  rw [onUpdateTileItem, if_pos]
  rcases blocks with (solid | path) | (solid | path)
  · simp only [solid, Bool.true_or]
  · simp only [path, Bool.true_or, Bool.or_true]
  · simp only [solid, Bool.or_true]
  · simp only [path, Bool.true_or, Bool.or_true]

lemma Sound.hear_setTile (sound : Sound self traits state) (position : Position) (tile : Tile) :
  Sound self traits ((state.setTile position tile).hear self traits position) :=
  ((setTile_touches self traits state position tile).sound sound).hear

/-- An item that is changed or exchanged leaves the cache sound. -/
lemma Sound.onUpdateTileItem {tile' : Tile} {oldItem : Item} (sound : Sound self traits state)
  (found : state.getTile position = some tile) (changes : Changes oldItem newItem)
  (same :
    ¬ Blocks oldItem.type → ¬ Blocks newItem.type → Plain oldItem →
      Plain newItem → queryAdd traits tile' = queryAdd traits tile) :
  Sound self traits
    ((state.setTile position tile').onUpdateTileItem self traits position
      oldItem.type newItem.type) := by
  by_cases blocks : Blocks oldItem.type ∨ Blocks newItem.type
  · rw [onUpdateTileItem_hears blocks]
    exact sound.hear_setTile position tile'
  · rw [not_or] at blocks
    rcases changes with old | new | ⟨plain, plain'⟩
    · exact absurd old blocks.1
    · exact absurd new blocks.2
    · have untouched : Sound self traits (state.setTile position tile') :=
        (setTile_same found (same blocks.1 blocks.2 plain plain')).sound sound
      rw [State.onUpdateTileItem]
      split
      · exact (untouched.but (At position)).hear
      · exact untouched

/-- The monster is told of the removal, or it makes no difference. -/
def Removes (tile : Tile) (item : Item) : Prop :=
  Blocks item.type ∨ item.type.isGroundTile = true ∨ Plain item ∧ tile.ground ≠ some item

lemma removeItem_but
  (sound : Sound self traits state) (position : Position) (tile : Tile) (item : Item) :
  SoundBut self traits (At position) (state.removeItem self traits position tile item) := by
  have touched :=
    (setTile_touches self traits state position
      ((tile.takeItem item).removeFlags item)).sound sound
  rw [removeItem, onRemoveTileItem]
  split
  · exact touched.hear.but _
  · exact touched

lemma Sound.removeItem (sound : Sound self traits state)
  (found : state.getTile position = some tile) (removes : Removes tile item) :
  Sound self traits (state.removeItem self traits position tile item) := by
  rw [State.removeItem, onRemoveTileItem]
  split
  · exact sound.hear_setTile position _
  · rename_i deaf
    simp only [Bool.or_eq_true, not_or] at deaf
    rcases removes with (solid | path) | ground | ⟨plain, other⟩
    · exact absurd solid deaf.1.1
    · exact absurd path deaf.1.2
    · exact absurd ground deaf.2
    · refine (setTile_same found ?_).sound sound
      rw [removeFlags_plain plain fun blocks => blocks.elim deaf.1.1 deaf.1.2]
      exact queryAdd_takeItem plain.isField other

lemma insertItem_sound (sound : SoundBut self traits (At position) state)
  (item_ne_ground : item.type.isGroundTile = false) :
  Sound self traits (state.insertItem self traits position tile item) := by
  have told : ∀ tile',
      Sound self traits ((state.setTile position tile').hear self traits position) :=
    fun tile' =>
      (sound.touches (setTile_touches self traits state position tile') (fun _ => id)).hear
  rw [insertItem, item_ne_ground, if_neg Bool.false_ne_true]
  split
  · exact told _
  · exact told _

/-- A ground that takes the place of another one changes as it may. -/
def Grounds (state : State) (position : Position) (item : Item) : Prop :=
  item.type.isGroundTile = true →
    ∀ tile ground,
      state.getTile position = some tile → tile.ground = some ground → Changes ground item

lemma Sound.insertItem (sound : Sound self traits state)
  (found : state.getTile position = some tile) (grounds : Grounds state position item) :
  Sound self traits (state.insertItem self traits position tile item) := by
  by_cases isGround : item.type.isGroundTile = true
  · rw [State.insertItem, if_pos isGround]
    split
    · exact sound.hear_setTile position _
    · rename_i ground under
      apply sound.onUpdateTileItem found (grounds isGround tile ground found under)
      intro open' open'' plain plain'
      rw [removeFlags_plain plain open', addFlags_plain plain' open'']
      simp only [queryAdd, under, Option.isNone_some]
      rfl
  · exact insertItem_sound (sound.but _) (Bool.eq_false_iff.mpr isGround)

lemma hear_only (position : Position) : OnlyCache state (state.hear self traits position) := by
  rw [hear]
  split
  · exact (updateTileCache_spec self traits state position).1
  · exact .refl state

section

variable (sound : Sound self traits state)
include sound

lemma Sound.addItem (grounds : Grounds state position item) :
  Sound self traits (state.addItem self traits position item) := by
  rw [State.addItem]
  split
  · exact sound
  · rename_i tile found
    split
    · exact sound.insertItem found grounds
    · rename_i old replaces
      have notGround : item.type.isGroundTile = false := by
        rw [replaced] at replaces
        split at replaces
        · cases replaces
        · rename_i other
          exact Bool.eq_false_iff.mpr other
      have removed := removeItem_but sound position tile old
      have still :
          (state.removeItem self traits position tile old).getTile position =
            some ((tile.takeItem old).removeFlags old) := by
        have only :
            OnlyCache
              (state.setTile position ((tile.takeItem old).removeFlags old))
              (state.removeItem self traits position tile old) := by
          rw [State.removeItem, onRemoveTileItem]
          split
          · exact hear_only position
          · exact .refl _
        rcases only with ⟨cache, same⟩
        rw [same]
        simp only [withCache, getTile, setTile, update_self, if_pos (floor_of_getTile found)]
      split
      · simp only [still]
        exact insertItem_sound removed notGround
      · exact sound

lemma Sound.updateItem {type : ItemType} (changes : Changes item { item with type := type }) :
  Sound self traits (state.updateItem self traits position item type) := by
  rw [State.updateItem]
  split
  · exact sound
  · rename_i tile found
    split
    · apply sound.onUpdateTileItem found changes
      intro open' open'' plain plain'
      rw [removeFlags_plain plain open', removeFlags_plain plain' open'',
        addFlags_plain plain' open'']
      exact queryAdd_exchangeItem plain.isField plain'.isField
    · exact sound

lemma Sound.replaceItem (changes : Changes item newItem) :
  Sound self traits (state.replaceItem self traits position item newItem) := by
  rw [State.replaceItem]
  split
  · exact sound
  · rename_i tile found
    split
    · apply sound.onUpdateTileItem found changes
      intro open' open'' plain plain'
      rw [removeFlags_plain plain open', addFlags_plain plain' open'']
      exact queryAdd_exchangeItem plain.isField plain'.isField
    · exact sound

end

/-! ## Creatures -/

lemma setCreatures_touches (self : Nat) (traits : Traits) (state : State) (position : Position)
  (creatures : List Nat → List Nat) :
  Touches self traits (At position) state (state.setCreatures position creatures) := by
  rw [setCreatures]
  split
  · exact ⟨rfl, rfl, rfl, rfl, fun _ _ => rfl⟩
  · exact setTile_touches self traits state position _

lemma enterTile_touches
  (another : creature ≠ self) (traits : Traits) (state : State) (position : Position) :
  Touches self traits (At position) state (state.enterTile creature position) := by
  have entered := setCreatures_touches self traits state position (creature :: ·)
  refine ⟨?_, entered.onMap, entered.isMapLoaded, entered.localMapCache, entered.walkable⟩
  simp only [enterTile, myPos, update_of_ne (Ne.symm another)]

lemma Sound.updateMapCache (self : Nat) (traits : Traits) (state : State)
  (loaded : state.onMap self = true → state.isMapLoaded = true) :
  Sound self traits (state.updateMapCache self traits) := by
  rcases updateMapCache_spec self traits state with ⟨only, cells⟩
  have same := only.myPos self
  have walkable := only.walkable traits
  rcases only with ⟨cache, equal⟩
  intro there
  rw [equal] at there
  refine ⟨?_, ?_⟩
  · rw [equal]
    exact loaded there
  · intro position near _ _
    rw [walkable]
    rw [same] at near
    exact cells position near

lemma Sound.appear (sound : Sound self traits state)
  (done : state.appear self traits creature position = some next) : Sound self traits next := by
  simp only [State.appear] at done
  split at done
  · cases done
  · cases done
    split
    · exact Sound.updateMapCache self traits _ fun _ => rfl
    · rename_i another
      have entered := enterTile_touches another traits state position
      have touches :
          Touches self traits (At position) state
            { state.enterTile creature position with
              placed := update state.placed creature true
              onMap := update state.onMap creature true } := by
        refine ⟨entered.myPos, ?_, entered.isMapLoaded, entered.localMapCache, entered.walkable⟩
        exact update_of_ne (Ne.symm another) _ _
      exact (touches.sound sound).hear

lemma Sound.disappear (sound : Sound self traits state)
  (done : state.disappear self traits creature = some next) : Sound self traits next := by
  simp only [State.disappear] at done
  split at done
  · cases done
    split
    · rename_i itself
      intro there
      subst itself
      simp only [update_self] at there
      cases there
    · rename_i another
      have left := setCreatures_touches self traits state (state.place creature) (·.erase creature)
      have touches :
          Touches self traits (At (state.place creature)) state
            { state.setCreatures (state.place creature)
                (·.erase creature) with
              onMap := update state.onMap creature false } := by
        refine ⟨left.myPos, ?_, left.isMapLoaded, left.localMapCache, left.walkable⟩
        exact update_of_ne (Ne.symm another) _ _
      exact (touches.sound sound).hear
  · cases done

lemma SoundBut.watch
  (sound :
    SoundBut self traits (fun position => At oldPos position ∨ At newPos position) state) :
  Sound self traits (state.watch self traits oldPos newPos) := by
  rw [State.watch]
  split
  · have asked :=
      sound.asks ((updateTileCache_asks self traits state newPos).trans
        (updateTileCache_asks self traits _ oldPos))
    intro there
    rcases asked there with ⟨loaded, agree⟩
    refine ⟨loaded, fun position near away _ => agree position near away ?_⟩
    rintro ⟨(⟨rfl, _⟩ | ⟨rfl, _⟩), unasked⟩
    · exact unasked (.inr rfl)
    · exact unasked (.inl rfl)
  · rename_i deaf
    intro there
    rcases sound there with ⟨loaded, agree⟩
    refine ⟨loaded, fun position near away _ => agree position near away ?_⟩
    have hears : ∀ place,
        At place position → state.told self place = true := by
      rintro place ⟨rfl, floor⟩
      rw [told, Bool.and_eq_true]
      exact ⟨there, inRange_of_near floor near⟩
    rw [loaded, Bool.and_true, Bool.or_eq_true, not_or] at deaf
    rintro (old | new)
    · exact deaf.1 (hears oldPos old)
    · exact deaf.2 (hears newPos new)

/-- A step without a teleport, on the floor, goes to a tile nearby. -/
def StepsNearby (oldPos newPos : Position) (teleport : Bool) : Prop :=
  teleport = false → oldPos.z = newPos.z →
    (dx oldPos newPos).natAbs ≤ 1 ∧ (dy oldPos newPos).natAbs ≤ 1

/-- The cache of a monster that has moved follows it. -/
lemma follow_sound (sound : Sound self traits before) (there : before.onMap self = true)
  (old : before.myPos self = oldPos) (new : state.myPos self = newPos)
  (loaded : state.isMapLoaded = before.isMapLoaded)
  (cache : state.localMapCache = before.localMapCache)
  (tiles :
    ∀ position,
      position ≠ oldPos → position ≠ newPos →
        state.walkable traits position = before.walkable traits position)
  (nearby : StepsNearby oldPos newPos teleport) :
  Sound self traits (state.follow self traits oldPos newPos teleport) := by
  rcases sound there with ⟨isLoaded, agree⟩
  rw [isLoaded] at loaded
  rw [follow, loaded, if_pos rfl]
  split
  · exact Sound.updateMapCache self traits state fun _ => loaded
  · rename_i step
    rw [Bool.or_eq_true, not_or, Bool.not_eq_true, decide_eq_true_eq, Classical.not_not] at step
    rcases step with ⟨walks, floor⟩
    rcases nearby walks floor with ⟨nearX, nearY⟩
    rcases shiftRows_spec self traits state oldPos newPos new nearY with ⟨rowsOnly, rows, rowEdge⟩
    have centre : (state.shiftRows self traits oldPos newPos).myPos self = newPos := by
      rw [rowsOnly.myPos, new]
    rcases shiftColumns_spec self traits
        (state.shiftRows self traits oldPos newPos) oldPos newPos centre nearX
      with ⟨columnsOnly, columns⟩
    have only := rowsOnly.trans columnsOnly
    rcases updateTileCache_asks self traits
        ((state.shiftRows self traits oldPos newPos).shiftColumns self traits
          oldPos newPos) oldPos with ⟨lastOnly, cells⟩
    have whole := only.trans lastOnly
    have place := whole.myPos self
    have walkable := whole.walkable traits
    have middle := only.walkable traits
    have middlePlace := only.myPos self
    intro _
    refine ⟨?_, ?_⟩
    · rcases whole with ⟨_, same⟩
      rw [same]
      exact loaded
    · intro position near away _
      rw [place, new] at near away
      rw [walkable]
      have near' := near
      rw [← new, ← middlePlace] at near'
      rcases cells position near' with fresh | ⟨elsewhere, kept⟩
      · rw [fresh, middle]
      · rw [kept]
        rcases columns position near with fresh | ⟨outside, same⟩ | ⟨rowIn, columnIn, same⟩
        · rw [fresh, rowsOnly.walkable]
        · rw [same, rowEdge position near outside]
        · -- the tile has been around before, and its cell has moved
          have reach := (reaches_iff _ _).mp near.2
          have reach' : reaches (dx oldPos position) (dy oldPos position) = true := by
            rw [reaches_iff]
            simp only [Overlaps, mapWalkReach, dx, dy] at rowIn columnIn reach ⊢
            omega
          have before' : Near (before.myPos self) position := by
            rw [old]
            exact ⟨near.1.trans floor.symm, reach'⟩
          have elsewhere' : position ≠ before.myPos self := by
            rw [old]
            exact elsewhere
          have row :
              ((mapWalkReach + dy newPos position).toNat +
                  dy oldPos newPos).toNat =
                (mapWalkReach + dy oldPos position).toNat := by
            simp only [mapWalkReach, dx, dy] at reach ⊢
            omega
          have column :
              ((mapWalkReach + dx newPos position).toNat +
                  dx oldPos newPos).toNat =
                (mapWalkReach + dx oldPos position).toNat := by
            simp only [mapWalkReach, dx, dy] at reach ⊢
            omega
          have small : (mapWalkReach + dy newPos position).toNat ≤ 22 := by
            simp only [mapWalkReach]
            omega
          rw [same, rows _ small rowIn, row, column, cache,
            tiles position elsewhere away,
            ← agree position before' elsewhere' id, entry, old]

lemma Sound.move (sound : Sound self traits state)
  (nearby : creature = self → StepsNearby (state.myPos self) newPos teleport)
  (done : state.move self traits creature newPos teleport = some next) :
  Sound self traits next := by
  simp only [State.move] at done
  split at done
  · rename_i possible
    rw [Bool.and_eq_true] at possible
    have left := setCreatures_touches self traits state (state.place creature) (·.erase creature)
    cases done
    split
    · rename_i itself
      subst itself
      have entered :=
        setCreatures_touches creature traits
          (state.setCreatures (state.place creature) (·.erase creature))
          newPos (creature :: ·)
      have both := left.trans entered
      refine follow_sound sound possible.1 rfl ?_ both.isMapLoaded
        both.localMapCache ?_ (nearby rfl)
      · simp only [enterTile, myPos, update_self]
      · intro position notOld notNew
        apply both.walkable position
        rintro (⟨same, _⟩ | ⟨same, _⟩)
        · exact notOld same
        · exact notNew same
    · rename_i another
      have entered :=
        enterTile_touches another traits
          (state.setCreatures (state.place creature) (·.erase creature))
          newPos
      exact ((left.trans entered).sound sound).watch
  · cases done

/-! ## Runs -/

def Step (self : Nat) (traits : Traits) (state : State) (event : Event) (next : State) : Prop :=
  state.perform self traits event = some next

/--
The monster is told of what is changed or goes, if that could make a difference
to it; and it steps to tiles nearby.
-/
def Noticed (self : Nat) (state : State) : Event → Prop
  | .move creature newPos teleport =>
    creature = self → StepsNearby (state.myPos self) newPos teleport
  | .addItem position item => Grounds state position item
  | .updateItem _ item type => Changes item { item with type := type }
  | .replaceItem _ item newItem => Changes item newItem
  | .removeItem position item =>
    ∀ tile, state.getTile position = some tile → Removes tile item
  | _ => True

lemma Sound.step {event : Event} (sound : Sound self traits state)
  (noticed : Noticed self state event) (taken : Step self traits state event next) :
  Sound self traits next := by
  cases event with
  | appear creature position => exact sound.appear taken
  | disappear creature => exact sound.disappear taken
  | move creature newPos teleport => exact sound.move noticed taken
  | addItem position item =>
    cases taken
    exact sound.addItem noticed
  | updateItem position item type =>
    cases taken
    exact sound.updateItem noticed
  | replaceItem position item newItem =>
    cases taken
    exact sound.replaceItem noticed
  | removeItem position item =>
    rcases Option.bind_eq_some_iff.mp taken with ⟨tile, found, removed⟩
    split at removed
    · cases removed
      exact sound.removeItem found (noticed tile found)
    · cases removed
  | updateTile position =>
    cases taken
    exact sound

/-- What a fresh query would have `getWalkCache` answer. -/
def freshWalkCache (self : Nat) (traits : Traits) (state : State) (pos : Position) : Nat :=
  let myPos := state.myPos self
  if myPos.z ≠ pos.z then 0
  else if pos = myPos then 1
  else if reaches (dx myPos pos) (dy myPos pos) then
    if state.walkable traits pos then 1 else 0
  else 2

/--
In every run of a monster that has not been on the map yet, in which it is told
of what makes a difference, the cache agrees with every tile around but the one
on which the monster is, and answers as a fresh query would.
-/
theorem walk_cache_fresh (self : Nat) (traits : Traits) (start state : State)
  (away : start.onMap self = false) (run : Reaches (Step self traits) (Noticed self) start state)
  (there : state.onMap self = true) :
  (∀ position,
      Near (state.myPos self) position → position ≠ state.myPos self →
        state.entry self position = state.walkable traits position) ∧
    ∀ position,
      state.getWalkCache self position = state.freshWalkCache self traits position := by
  have sound : Sound self traits state := by
    apply run.invariant
    · intro here
      rw [away] at here
      cases here
    · intro before event after held noticed taken
      exact held.step noticed taken
  rcases sound there with ⟨_, agree⟩
  have cells : ∀ position,
      Near (state.myPos self) position → position ≠ state.myPos self →
        state.entry self position = state.walkable traits position :=
    fun position near other => agree position near other id
  refine ⟨cells, ?_⟩
  intro position
  simp only [getWalkCache, freshWalkCache]
  split
  · rfl
  · rename_i floor
    split
    · rfl
    · rename_i other
      have reached :
          reaches
              ((position.x.toNat : Int) - (state.myPos self).x.toNat)
              ((position.y.toNat : Int) - (state.myPos self).y.toNat) =
            reaches (dx (state.myPos self) position) (dy (state.myPos self) position) :=
        rfl
      rw [reached]
      split
      · rename_i reach
        have near : Near (state.myPos self) position := ⟨(Classical.not_not.mp floor).symm, reach⟩
        rw [← cells position near other]
        rfl
      · rfl

def grass : Tile where
  ground :=
    some
      { number := 0
        type :=
          ⟨true, false, 0, false, false, false, 0, false, false, false, false,
            false, false, false, false⟩
        uniqueId := 0
        isField := false
        isTeleport := false }
  topItems := []
  downItems := []
  creatures := []
  protectionZone := false
  flags := ⟨false, false, false, false, false, false, false⟩

def meadow : State where
  tile _ := some grass
  place _ := ⟨0, 0, 0⟩
  placed _ := false
  onMap _ := false
  isMapLoaded := false
  localMapCache _ _ := false

def sheep : Traits :=
  ⟨false, false, fun _ => false, fun _ => false, fun _ => true⟩

def arrival : State :=
  { meadow.enterTile 1 ⟨100, 100, 7⟩ with
    placed := update meadow.placed 1 true
    onMap := update meadow.onMap 1 true
    isMapLoaded := true }

def grazing : State :=
  arrival.updateMapCache 1 sheep

lemma grazing_reached (guard : State → Event → Prop)
  (allowed : guard meadow (.appear 1 ⟨100, 100, 7⟩)) :
  Reaches (Step 1 sheep) guard meadow grazing :=
  .tail .refl allowed rfl

/-- The cache has the tile beside the monster as one to walk onto. -/
theorem walk_cache_fresh_grazing :
  grazing.entry 1 ⟨101, 100, 7⟩ = grazing.walkable sheep ⟨101, 100, 7⟩ := by
  have here : grazing.myPos 1 = ⟨100, 100, 7⟩ := by decide +kernel
  have run : Reaches (Step 1 sheep) (Noticed 1) meadow grazing := grazing_reached _ trivial
  apply (walk_cache_fresh 1 sheep meadow grazing rfl run (by decide +kernel)).1
  · rw [here]
    exact ⟨rfl, rfl⟩
  · rw [here]
    decide

def beside : State :=
  ((grazing.setCreatures ⟨100, 100, 7⟩ (·.erase 1)).enterTile 1 ⟨101, 100, 7⟩).follow 1 sheep
    ⟨100, 100, 7⟩ ⟨101, 100, 7⟩ false

/-- The tile to which a monster has stepped is still one to walk onto. -/
theorem own_tile_stale :
  ¬ ∀ (self : Nat) (traits : Traits) (start state : State),
      start.onMap self = false →
        Reaches (Step self traits) Always start state →
          state.onMap self = true →
            ∀ position,
              Near (state.myPos self) position →
                state.entry self position = state.walkable traits position := by
  intro all
  have possible : (grazing.onMap 1 && (grazing.getTile ⟨101, 100, 7⟩).isSome) = true := by
    decide +kernel
  have here : grazing.place 1 = ⟨100, 100, 7⟩ := by decide +kernel
  have step : Step 1 sheep grazing (.move 1 ⟨101, 100, 7⟩ false) beside := by
    show grazing.move 1 sheep 1 ⟨101, 100, 7⟩ false = some beside
    unfold State.move beside
    rw [if_pos possible, here]
    exact congrArg some (if_pos rfl)
  have fresh :=
    all 1 sheep meadow beside rfl ((grazing_reached _ trivial).tail trivial step)
      (by decide +kernel) ⟨101, 100, 7⟩ ⟨by decide +kernel, by decide +kernel⟩
  have stale : beside.entry 1 ⟨101, 100, 7⟩ = true := by decide +kernel
  have taken : beside.walkable sheep ⟨101, 100, 7⟩ = false := by decide +kernel
  rw [stale, taken] at fresh
  cases fresh

end State

end OTServ.WalkCache
