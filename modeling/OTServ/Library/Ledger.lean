import Mathlib.Algebra.BigOperators.Group.Finset.Piecewise
import Mathlib.Data.Fintype.Basic
import Mathlib.Tactic.Abel

/-!
# Ledgers

A ledger has at most one entry under each of finitely many keys, and each entry
stands for an amount.  The total follows entering and striking out, so that a
running sum which is kept by adding and subtracting can be compared with it.
-/

namespace OTServ.Library.Ledger

open scoped BigOperators
open Function

universe u v w

variable {Key : Type u} {Entry : Type v} {Amount : Type w} [Fintype Key] [AddCommGroup Amount]

def total (amount : Entry → Amount) (ledger : Key → Option Entry) : Amount :=
  ∑ key, (ledger key).elim 0 amount

variable {ledger : Key → Option Entry} {key : Key}

lemma total_eq_zero (amount : Entry → Amount) (empty : ∀ key, ledger key = none) :
  total amount ledger = 0 := by
  apply Finset.sum_eq_zero
  intro key _
  rw [empty key]
  rfl

/-- The total depends on the amounts of the entries only. -/
lemma total_congr {amount other : Entry → Amount}
  (same : ∀ key entry, ledger key = some entry → amount entry = other entry) :
  total amount ledger = total other ledger := by
  apply Finset.sum_congr rfl
  intro key _
  cases held : ledger key with
  | none => rfl
  | some entry => exact same key entry held

variable [DecidableEq Key]

variable (amount : Entry → Amount)
include amount

/-- What stands under a key and what stands under the others. -/
lemma total_update (ledger : Key → Option Entry) (key : Key) (entry : Option Entry) :
  total amount (update ledger key entry) + (ledger key).elim 0 amount =
    total amount ledger + entry.elim 0 amount := by
  have others :
      ∑ other ∈ Finset.univ.erase key,
          (update ledger key entry other).elim 0 amount =
        ∑ other ∈ Finset.univ.erase key, (ledger other).elim 0 amount := by
    apply Finset.sum_congr rfl
    intro other mem
    rw [update_of_ne (Finset.ne_of_mem_erase mem)]
  unfold total
  rw [← Finset.add_sum_erase _ _ (Finset.mem_univ key),
    ← Finset.add_sum_erase Finset.univ
      (fun other => (ledger other).elim 0 amount) (Finset.mem_univ key),
    others, update_self]
  abel

/-- An entry under a free key adds its amount. -/
lemma total_enter (free : ledger key = none) (entry : Entry) :
  total amount (update ledger key (some entry)) = total amount ledger + amount entry := by
  have balance := total_update amount ledger key (some entry)
  rw [free] at balance
  simpa using balance

/-- Striking an entry out takes its amount away. -/
lemma total_strike {entry : Entry} (held : ledger key = some entry) :
  total amount (update ledger key none) = total amount ledger - amount entry := by
  have balance := total_update amount ledger key none
  rw [held] at balance
  rw [eq_sub_iff_add_eq]
  simpa using balance

end OTServ.Library.Ledger
