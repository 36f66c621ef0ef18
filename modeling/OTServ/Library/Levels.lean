import Mathlib.Algebra.BigOperators.Group.Finset.Basic
import Mathlib.Algebra.BigOperators.Intervals

/-!
# Levels and what they take

Each level takes a requirement.  A level with what there is beyond it has a total:
the requirements of all levels up to it, and the rest.

Climbing takes requirements off the rest while it can, and going down takes a loss
off the rest and, where that is not enough, off the requirements of the levels
below.  Both go by the total.
-/

namespace OTServ.Library.Levels

open Finset

variable (req : Nat → Nat)

/-- What was needed for the levels above the lowest one, and the rest. -/
def total (lowest level rest : Nat) : Nat :=
  ∑ i ∈ Ioc lowest level, req i + rest

def next (level count : Nat) : Nat := ∑ i ∈ range count, req (level + 1 + i)

def climb : Nat → Nat → Nat → Option (Nat × Nat)
  | 0, _, _ => none
  | turns + 1, level, rest =>
    if req (level + 1) ≤ rest then climb turns (level + 1) (rest - req (level + 1))
    else some (level, rest)

/-- Going down to the lowest level at most, where nothing is left. -/
def descend (lowest level rest lost : Nat) : Nat × Nat :=
  if rest < lost then
    if lowest < level then descend lowest (level - 1) (req level) (lost - rest)
    else (lowest, 0)
  else (level, rest - lost)
termination_by level

variable {req : Nat → Nat} {lowest level rest lost turns : Nat} {after : Nat × Nat}

lemma next_succ (req : Nat → Nat) (level count : Nat) :
  next req level (count + 1) = req (level + 1) + next req (level + 1) count := by
  rw [next, sum_range_succ', Nat.add_comm, next]
  refine congrArg (req (level + 1) + ·) (sum_congr rfl fun i _ => congrArg req ?_)
  omega

/-- The rest and what was taken stay the same, and the rest is too little. -/
lemma climb_spec (climbed : climb req turns level rest = some after) :
  level ≤ after.1 ∧ after.2 < req (after.1 + 1) ∧
    next req level (after.1 - level) + after.2 = rest := by
  induction turns generalizing level rest with
  | zero => cases climbed
  | succ turns ih =>
    rw [climb] at climbed
    split at climbed
    · rename_i enough
      rcases ih climbed with ⟨up, little, same⟩
      have one : after.1 - level = after.1 - (level + 1) + 1 := by omega
      refine ⟨Nat.le_of_succ_le up, little, ?_⟩
      rw [one, next_succ]
      omega
    · rename_i little
      cases climbed
      refine ⟨le_rfl, Nat.lt_of_not_le little, ?_⟩
      rw [Nat.sub_self, next, sum_range_zero, Nat.zero_add]

/-- Climbing ends where the levels that may be tried take more than there is. -/
lemma climb_isSome_iff : (climb req turns level rest).isSome ↔ rest < next req level turns := by
  induction turns generalizing level rest with
  | zero => exact iff_of_false Bool.false_ne_true (Nat.not_lt_zero _)
  | succ turns ih =>
    rw [next_succ, climb]
    by_cases enough : req (level + 1) ≤ rest
    · rw [if_pos enough, ih]
      omega
    · rw [if_neg enough]
      exact iff_of_true rfl (by omega)

lemma total_pred (above : lowest < level) :
  total req lowest (level - 1) (req level) = total req lowest level 0 := by
  cases level with
  | zero => exact absurd above (Nat.not_lt_zero _)
  | succ level =>
    rw [total, total, sum_Ioc_succ_top (Nat.le_of_lt_succ above)]
    rfl

/-- What is lost is taken off the total. -/
lemma descend_total (enough : lost ≤ total req lowest level rest) :
  total req lowest (descend req lowest level rest lost).1
      (descend req lowest level rest lost).2 + lost =
    total req lowest level rest := by
  fun_induction descend req lowest level rest lost with
  | case1 level rest lost more above ih =>
    have same := (total_pred above : total req _ _ _ = _)
    simp only [total] at enough same ih ⊢
    omega
  | case2 level rest lost more atBottom =>
    rw [total, Ioc_eq_empty_of_le (Nat.le_of_not_lt atBottom), sum_empty] at enough
    omega
  | case3 level rest lost little =>
    simp only [total]
    omega

/-- What is left is too little for the next level, as it was before. -/
lemma descend_little (enough : lost ≤ total req lowest level rest)
  (little : rest ≤ req (level + 1)) (less : rest < req (level + 1) ∨ 0 < lost) :
  (descend req lowest level rest lost).2 < req ((descend req lowest level rest lost).1 + 1) := by
  fun_induction descend req lowest level rest lost with
  | case1 level rest lost more above ih =>
    have same := (total_pred above : total req _ _ _ = _)
    have pred : level - 1 + 1 = level := by omega
    rw [pred] at ih
    refine ih ?_ le_rfl (.inr (Nat.sub_pos_of_lt more))
    simp only [total] at enough same ⊢
    omega
  | case2 level rest lost more atBottom =>
    rw [total, Ioc_eq_empty_of_le (Nat.le_of_not_lt atBottom), sum_empty] at enough
    omega
  | case3 level rest lost few =>
    dsimp only
    omega

end OTServ.Library.Levels
