import Mathlib.Data.List.Range

/-!
# Shifting a window

The cells of an array are moved by one place, in a loop that copies one cell
after another.  The order of the loop is the one in which no cell is overwritten
before it has been copied, so that every cell gets the old value of its
neighbour.
-/

namespace OTServ.Library.Shifts

open List Function

variable {Value : Type}

/-- Each of the first cells gets the value of the next one, from the first. -/
def shiftDown (count : Nat) (cells : Nat → Value) : Nat → Value :=
  (List.range count).foldl
    (fun cells index => update cells index (cells (index + 1)))
    cells

/-- Each cell after the first gets the value of the one before, from the last. -/
def shiftUp (count : Nat) (cells : Nat → Value) : Nat → Value :=
  (List.range count).reverse.foldl
    (fun cells index => update cells (index + 1) (cells index))
    cells

lemma shiftDown_apply (count : Nat) (cells : Nat → Value) (index : Nat) :
  shiftDown count cells index = if index < count then cells (index + 1) else cells index := by
  rw [shiftDown]
  induction count generalizing index with
  | zero =>
    rfl
  | succ count ih =>
    rw [range_succ, foldl_append, foldl_cons, foldl_nil]
    by_cases last : index = count
    · subst last
      rw [update_self, ih, if_neg (by omega), if_pos (Nat.lt_succ_self index)]
    · rw [update_of_ne last, ih]
      have same : index < count ↔ index < count + 1 := by omega
      simp only [same]

lemma shiftUp_apply (count : Nat) (cells : Nat → Value) (index : Nat) :
  shiftUp count cells index =
    if 0 < index ∧ index ≤ count then cells (index - 1)
    else cells index := by
  rw [shiftUp]
  induction count generalizing cells with
  | zero =>
    rw [if_neg (by omega)]
    rfl
  | succ count ih =>
    rw [range_succ, reverse_append, reverse_singleton, singleton_append, foldl_cons, ih]
    by_cases last : index = count + 1
    · subst last
      rw [if_neg (by omega), update_self, if_pos (by omega)]
      rfl
    · have before : index - 1 = count + 1 → ¬ (0 < index ∧ index ≤ count) := by
        omega
      by_cases inside : 0 < index ∧ index ≤ count
      · have other : index - 1 ≠ count + 1 := fun same => before same inside
        rw [if_pos inside, update_of_ne other, if_pos (by omega)]
      · rw [if_neg inside, update_of_ne last, if_neg (by omega)]

end OTServ.Library.Shifts
