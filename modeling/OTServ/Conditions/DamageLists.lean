import Mathlib.Algebra.Order.Field.Basic
import Mathlib.Algebra.Order.Field.Rat
import Mathlib.Tactic.Linarith
import Mathlib.Tactic.FieldSimp
import Mathlib.Tactic.Ring

/-!
# Damage over time

The damage that a condition is to do in all is split into single hits.  These sink
from the start value to one, and each value is repeated while that brings the sum
closer to what should have been done by then.

Every value is taken at least once, so that the hits come to more than the amount
when it is large for its start value.
-/

namespace OTServ.Conditions.DamageLists

open List

/-- The value of a number that is kept as an `int32_t`. -/
def int32 (value : Int) : Int := value.bmod (2 ^ 32)

/-- `x1 < x2`: another hit brings the sum closer to what should have been done. -/
def Closer (med i sum : Int) : Prop :=
  |1 - ((sum : ℚ) + i) / med| < |1 - (sum : ℚ) / med|

lemma closer_iff (med i sum : Int) :
  Closer med i sum ↔ med ≠ 0 ∧ i * (i - 2 * (med - sum)) < 0 := by
  by_cases zero : med = 0
  · simp [Closer, zero]
  have nonzero : (med : ℚ) ≠ 0 := Int.cast_ne_zero.2 zero
  have first : 1 - ((sum : ℚ) + i) / med = (med - sum - i) / med := by
    field_simp
    ring
  have second : 1 - (sum : ℚ) / med = (med - sum) / med := by
    field_simp
  have positive : 0 < |(med : ℚ)| := abs_pos.2 nonzero
  rw [Closer, first, second, abs_div, abs_div, div_lt_div_iff_of_pos_right positive,
    ← sq_lt_sq, and_iff_right zero]
  constructor
  · intro less
    have both : ((i * (i - 2 * (med - sum)) : Int) : ℚ) < 0 := by
      push_cast
      nlinarith
    exact_mod_cast both
  · intro less
    have both : ((i * (i - 2 * (med - sum)) : Int) : ℚ) < 0 := by
      exact_mod_cast less
    push_cast at both
    nlinarith

instance (med i sum : Int) : Decidable (Closer med i sum) :=
  decidable_of_iff _ (closer_iff med i sum).symm

/-- The inner loop for a value, with at most so many turns: the sum and the hits. -/
def hits (med i : Int) : Nat → Int → Option (Int × List Int)
  | 0, _ => none
  | turns + 1, sum =>
    let sum := int32 (sum + i)
    if Closer med i sum then
      (hits med i turns sum).map fun rest => (rest.1, i :: rest.2)
    else some (sum, [i])

def values (amount start : Int) (turns : Nat) : Nat → Int → Option (List Int)
  | 0, _ => some []
  | i + 1, sum =>
    let n := start + 1 - (i + 1)
    let med := (int32 (n * amount)).tdiv start
    match hits med (i + 1) turns sum with
    | none => none
    | some (sum, list) => (values amount start turns i sum).map (list ++ ·)

def generateDamageList (turns : Nat) (amount : Int) (start : Nat) : Option (List Int) :=
  values |amount| start turns start 0

/-- The start value that `ConditionDamage::init` takes when none is configured. -/
def startOf (amount : Nat) : Nat := max 1 ((amount + 19) / 20)

/-- What is promised of the hits. -/
structure Splits (amount start : Nat) (list : List Int) : Prop where
  sorted : list.Pairwise (· ≥ ·)
  bounds : ∀ hit ∈ list, 1 ≤ hit ∧ hit ≤ start
  total : list.sum = amount

variable {amount med i sum last start : Int} {turns count : Nat} {list : List Int}

lemma hits_spec (got : hits med i turns sum = some (last, list)) :
  ∃ more, list = replicate (more + 1) i := by
  induction turns generalizing sum list with
  | zero => cases got
  | succ turns ih =>
    rw [hits] at got
    split at got
    · rcases Option.map_eq_some_iff.1 got with ⟨⟨last, rest⟩, further, same⟩
      cases same
      rcases ih further with ⟨more, rfl⟩
      exact ⟨more + 1, rfl⟩
    · cases got
      exact ⟨0, rfl⟩

lemma values_spec (got : values amount start turns count sum = some list) :
  list.Pairwise (· ≥ ·) ∧ (∀ hit ∈ list, 1 ≤ hit ∧ hit ≤ count) ∧
    count * (count + 1) ≤ 2 * list.sum := by
  induction count generalizing sum list with
  | zero =>
    cases got
    exact ⟨.nil, nofun, Int.le_refl 0⟩
  | succ count ih =>
    rw [values] at got
    split at got
    · cases got
    · rename_i first isFirst
      rcases Option.map_eq_some_iff.1 got with ⟨rest, isRest, rfl⟩
      rcases hits_spec isFirst with ⟨more, rfl⟩
      rcases ih isRest with ⟨sorted, bounds, enough⟩
      refine ⟨pairwise_append.2 ⟨pairwise_replicate.2 (.inr le_rfl), sorted, ?_⟩, ?_, ?_⟩
      · intro hit mem later isLater
        rw [eq_of_mem_replicate mem]
        have bound := (bounds later isLater).2
        omega
      · intro hit mem
        rcases mem_append.1 mem with mem | mem
        · rw [eq_of_mem_replicate mem]
          push_cast
          omega
        · have bound := bounds hit mem
          push_cast
          omega
      · rw [sum_append, sum_replicate, nsmul_eq_mul]
        push_cast
        nlinarith

/-! ## The total -/

def sumOfHits (med i : Nat) : Nat → Nat → Option Nat
  | 0, _ => none
  | turns + 1, sum =>
    if sum + i < 2147483648 then
      if 2 * (sum + i) + i < 2 * med then sumOfHits med i turns (sum + i)
      else some (sum + i)
    else none

def sumOfValues (amount start turns : Nat) : Nat → Nat → Option Nat
  | 0, sum => some sum
  | i + 1, sum =>
    if (start - i) * amount < 2147483648 then
      (sumOfHits ((start - i) * amount / start) (i + 1) turns sum).bind
        (sumOfValues amount start turns i)
    else none

lemma int32_of_lt {value : Nat} (fits : value < 2147483648) : int32 value = value := by
  rw [int32, Int.bmod_def]
  omega

lemma sumOfHits_spec
  {med i sum after : Nat} (positive : 0 < i) (got : sumOfHits med i turns sum = some after) :
  ∃ list, hits med i turns sum = some ((after : Int), list) ∧ sum + list.sum = after := by
  induction turns generalizing sum with
  | zero => cases got
  | succ turns ih =>
    rw [sumOfHits] at got
    split at got
    · rename_i fits
      have kept : int32 ((sum : Int) + i) = (sum + i : Nat) := by
        rw [← int32_of_lt fits, Int.natCast_add]
      -- between zero and the next hit the sum comes closer
      have closer : Closer med i (sum + i : Nat) ↔ 2 * (sum + i) + i < 2 * med := by
        rw [closer_iff, Int.mul_neg_iff]
        omega
      rw [hits, kept]
      split at got
      · rename_i less
        rcases ih got with ⟨list, isList, total⟩
        refine ⟨i :: list, ?_, ?_⟩
        · rw [if_pos (closer.2 less), isList]
          rfl
        · rw [sum_cons]
          omega
      · rename_i enough
        cases got
        refine ⟨[(i : Int)], if_neg fun less => enough (closer.1 less), ?_⟩
        rfl
    · cases got

lemma sumOfValues_spec {amount start sum after : Nat} (below : count ≤ start)
  (got : sumOfValues amount start turns count sum = some after) :
  ∃ list, values amount start turns count sum = some list ∧ sum + list.sum = after := by
  induction count generalizing sum with
  | zero =>
    cases got
    exact ⟨[], rfl, Int.add_zero _⟩
  | succ i ih =>
    rw [sumOfValues] at got
    split at got
    · rename_i fits
      rcases Option.bind_eq_some_iff.1 got with ⟨next, isNext, further⟩
      rcases sumOfHits_spec (Nat.succ_pos i) isNext with ⟨first, isFirst, one⟩
      rcases ih (Nat.le_of_succ_le below) further with ⟨rest, isRest, all⟩
      have n : ((start : Int) + 1 - (i + 1)) * amount = ((start - i) * amount : Nat) := by
        rw [Int.natCast_mul, Int.ofNat_sub (Nat.le_of_succ_le below)]
        ring
      refine ⟨first ++ rest, ?_, ?_⟩
      · rw [values, n, int32_of_lt fits, ← Int.ofNat_tdiv]
        push_cast at isFirst ⊢
        rw [isFirst]
        dsimp only
        rw [isRest]
        rfl
      · rw [sum_append]
        omega
    · cases got

lemma sumOfValues_small :
  ∀ amount ∈ range 781, 1 ≤ amount ∧ (amount ≤ 760 ∨ amount = 780) →
    sumOfValues amount (startOf amount) 64 (startOf amount) 0 = some amount := by
  decide +kernel

lemma startOf_large {amount : Nat} (large : ¬(amount ≤ 760 ∨ amount = 780)) :
  2 * amount < startOf amount * (startOf amount + 1) := by
  have start : startOf amount = (amount + 19) / 20 := by
    unfold startOf
    omega
  rw [start]
  rcases Nat.lt_or_ge amount 781 with small | huge
  · have same : (amount + 19) / 20 = 39 := by omega
    rw [same]
    omega
  · have forty : 40 ≤ (amount + 19) / 20 := by omega
    have enough : amount ≤ 20 * ((amount + 19) / 20) := by omega
    nlinarith

/--
An amount is split exactly when it is at most 760, or 780.  For any other one each
value from the start to one is too much already.
-/
theorem splits_iff (amount : Nat) (positive : 1 ≤ amount) :
  (∃ turns list, generateDamageList turns amount (startOf amount) = some list ∧
    Splits amount (startOf amount) list) ↔ amount ≤ 760 ∨ amount = 780 := by
  constructor
  · rintro ⟨turns, list, got, splits⟩
    by_contra large
    have less := startOf_large large
    have enough := (values_spec got).2.2
    rw [splits.total] at enough
    norm_cast at enough
    omega
  · intro small
    have isSmall : amount ∈ range 781 := mem_range.2 (by omega)
    rcases sumOfValues_spec le_rfl
      (sumOfValues_small amount isSmall ⟨positive, small⟩) with ⟨list, got, total⟩
    rcases values_spec got with ⟨sorted, bounds, -⟩
    refine ⟨64, list, ?_, sorted, bounds, (zero_add _).symm.trans total⟩
    rw [generateDamageList, Nat.abs_cast]
    exact got

theorem hundred_splits :
  ∃ turns list, generateDamageList turns 100 (startOf 100) = some list ∧
    Splits 100 (startOf 100) list :=
  (splits_iff 100 (by decide)).2 (.inl (by decide))

theorem eightHundred_not_splits :
  ¬∃ turns list, generateDamageList turns 800 (startOf 800) = some list ∧
    Splits 800 (startOf 800) list := by
  rintro ⟨turns, list, got, splits⟩
  have enough := (values_spec got).2.2
  rw [splits.total] at enough
  exact absurd enough (by decide)

end OTServ.Conditions.DamageLists
