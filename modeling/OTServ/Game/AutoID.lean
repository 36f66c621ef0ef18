import OTServ.Library.GuardedRuns
import Mathlib.Order.Interval.Finset.Nat

/-!
# The ids of creatures

A new creature gets the next id that no living creature has.  The search goes
around the end of the range, so that it ends as long as one id of the range is
free, and the id it ends with is one of these.
-/

namespace OTServ.AutoID

open Library.GuardedRuns
open Finset

/--
The shared fields of `AutoID`, and the ids of the objects that live.  The count
never leaves the range of 24 bits, so that it does not wrap as a `uint32_t`.
-/
structure State where
  count : Nat
  list : Finset Nat
  living : List Nat

def initial : State := ⟨1000, ∅, []⟩

def search (list : Finset Nat) : Nat → Nat → Option Nat
  | 0, _ => none
  | fuel + 1, count =>
    if count ∈ list then search list fuel (if 0xFFFFFF ≤ count then 1000 else count + 1)
    else some count

inductive Event where
  | construct
  | destruct (auto_id : Nat)

namespace State

/-- The id which the constructor gives, if the loop ends in so many rounds. -/
def construct (state : State) (fuel : Nat) : Option Nat :=
  search state.list fuel (if 0xFFFFFF ≤ state.count + 1 then 1000 else state.count + 1)

def Step (state : State) : Event → State → Prop
  | .construct, next =>
    ∃ fuel auto_id,
      state.construct fuel = some auto_id ∧
        next = ⟨auto_id, insert auto_id state.list, auto_id :: state.living⟩
  | .destruct auto_id, next =>
    auto_id ∈ state.living ∧
      next = ⟨state.count, state.list.erase auto_id, state.living.erase auto_id⟩

/-- The set holds the ids of the objects, each of which has its own. -/
structure Kept (state : State) : Prop where
  inRange : 1000 ≤ state.count ∧ state.count ≤ 0xFFFFFF
  listed : ∀ auto_id, auto_id ∈ state.list ↔ auto_id ∈ state.living
  nodup : state.living.Nodup

end State

variable {state next : State} {list : Finset Nat} {fuel count auto_id : Nat}

lemma search_spec (low : 1000 ≤ count) (high : count ≤ 0xFFFFFF)
  (found : search list fuel count = some auto_id) :
  auto_id ∉ list ∧ 1000 ≤ auto_id ∧ auto_id ≤ 0xFFFFFF := by
  induction fuel generalizing count with
  | zero => cases found
  | succ fuel ih =>
    rw [search] at found
    split at found
    · apply ih _ _ found
      · split <;> omega
      · split <;> omega
    · rename_i free
      cases found
      exact ⟨free, low, high⟩

/-- The search needs no more rounds than there are to a free id, around the end. -/
lemma search_ends {free distance : Nat} (unused : free ∉ list) (low : 1000 ≤ free)
  (high : free ≤ 0xFFFFFF) (inRange : count ≤ 0xFFFFFF)
  (near : distance = if count ≤ free then free - count else 0xFFFFFF - count + free - 999) :
  ∃ auto_id, ∀ fuel, distance < fuel → search list fuel count = some auto_id := by
  induction distance generalizing count with
  | zero =>
    have here : count = free := by
      split at near <;> omega
    refine ⟨count, fun fuel enough => ?_⟩
    obtain ⟨fuel, rfl⟩ := Nat.exists_eq_succ_of_ne_zero enough.ne'
    rw [search, if_neg (here ▸ unused)]
  | succ distance ih =>
    by_cases used : count ∈ list
    · have nearer :
          distance =
            let next := if 0xFFFFFF ≤ count then 1000 else count + 1
            if next ≤ free then free - next else 0xFFFFFF - next + free - 999 := by
        dsimp only
        split_ifs at near ⊢ <;> omega
      obtain ⟨auto_id, found⟩ := ih (by split <;> omega) nearer
      refine ⟨auto_id, fun fuel enough => ?_⟩
      obtain ⟨fuel, rfl⟩ := Nat.exists_eq_succ_of_ne_zero (Nat.zero_lt_of_lt enough).ne'
      rw [search, if_pos used]
      exact found fuel (Nat.lt_of_succ_lt_succ enough)
    · refine ⟨count, fun fuel enough => ?_⟩
      obtain ⟨fuel, rfl⟩ := Nat.exists_eq_succ_of_ne_zero (Nat.zero_lt_of_lt enough).ne'
      rw [search, if_neg used]

namespace State

lemma Kept.begins (kept : Kept state) :
  let first := if 0xFFFFFF ≤ state.count + 1 then 1000 else state.count + 1
  1000 ≤ first ∧ first ≤ 0xFFFFFF := by
  have := kept.inRange
  dsimp only
  split <;> omega

lemma Kept.construct_spec (kept : Kept state) (made : state.construct fuel = some auto_id) :
  auto_id ∉ state.living ∧ 1000 ≤ auto_id ∧ auto_id ≤ 0xFFFFFF := by
  rw [← kept.listed]
  exact search_spec kept.begins.1 kept.begins.2 made

lemma Kept.step {event : Event} (kept : Kept state) (taken : state.Step event next) :
  Kept next := by
  cases event with
  | construct =>
    obtain ⟨fuel, auto_id, made, rfl⟩ := taken
    obtain ⟨fresh, inRange⟩ := kept.construct_spec made
    refine ⟨inRange, fun other => ?_, List.nodup_cons.mpr ⟨fresh, kept.nodup⟩⟩
    rw [mem_insert, kept.listed, List.mem_cons]
  | destruct auto_id =>
    obtain ⟨-, rfl⟩ := taken
    refine ⟨kept.inRange, fun other => ?_, kept.nodup.erase auto_id⟩
    rw [mem_erase, kept.listed, kept.nodup.mem_erase_iff]

end State

end OTServ.AutoID
