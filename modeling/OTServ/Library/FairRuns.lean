import OTServ.Library.GuardedRuns
import Mathlib.Order.Basic

/-!
# Infinite runs

What must happen at last is said about infinite runs of a labelled transition
system.  One property leads to another one along a run if a state with the first is
followed, sooner or later, by a state with the second.

Two rules give such facts.  A property that lasts until the other one holds, and is
helped by some later event, leads to the other one; and a property which always
leads to the other one or to a smaller rank leads to the other one.
-/

namespace OTServ.Library.FairRuns

open Library.GuardedRuns

universe u v

variable {State : Type u} {Event : Type v}

/-- An infinite run whose steps all meet the guard. -/
structure InfiniteRun
  (step : State → Event → State → Prop)
  (guard : State → Event → Prop)
  (start : State) where
  state : Nat → State
  event : Nat → Event
  first : state 0 = start
  allowed : ∀ index, guard (state index) (event index)
  taken : ∀ index, step (state index) (event index) (state (index + 1))

namespace InfiniteRun

variable {step : State → Event → State → Prop} {guard : State → Event → Prop} {start : State}

lemma reaches (run : InfiniteRun step guard start) (index : Nat) :
  Reaches step guard start (run.state index) := by
  induction index with
  | zero =>
    rw [run.first]
    exact Reaches.refl
  | succ index ih =>
    exact Reaches.tail ih (run.allowed index) (run.taken index)

/-- What every step keeps holds from a state on. -/
lemma lasts (run : InfiniteRun step guard start) (holds : State → Prop)
  (kept : ∀ index, holds (run.state index) → holds (run.state (index + 1))) {index later : Nat}
  (after : index ≤ later) (now : holds (run.state index)) : holds (run.state later) := by
  induction after with
  | refl => exact now
  | step _ ih => exact kept _ ih

/-- A state with one property is followed by a state with the other one. -/
def LeadsTo (run : InfiniteRun step guard start) (here there : State → Prop) : Prop :=
  ∀ index, here (run.state index) → ∃ later, index ≤ later ∧ there (run.state later)

namespace LeadsTo

variable {run : InfiniteRun step guard start} {here middle there : State → Prop}

lemma of_implies (implied : ∀ state, here state → there state) : run.LeadsTo here there :=
  fun index now => ⟨index, Nat.le_refl index, implied _ now⟩

lemma trans (first : run.LeadsTo here middle) (second : run.LeadsTo middle there) :
  run.LeadsTo here there := by
  intro index now
  rcases first index now with ⟨between, after, atMiddle⟩
  rcases second between atMiddle with ⟨later, afterMiddle, atThere⟩
  exact ⟨later, Nat.le_trans after afterMiddle, atThere⟩

/-- A property which lasts until it is helped leads on. -/
lemma of_helped
  (lasts :
    ∀ index, here (run.state index) →
      here (run.state (index + 1)) ∨ there (run.state (index + 1)))
  (helped :
    ∀ index, here (run.state index) →
      ∃ later, index ≤ later ∧ (here (run.state later) → there (run.state (later + 1)))) :
  run.LeadsTo here there := by
  intro index now
  by_contra never
  rw [not_exists] at never
  have still : ∀ later, index ≤ later → here (run.state later) := by
    intro later after
    induction after with
    | refl => exact now
    | step after ih =>
      rcases lasts _ ih with kept | reached
      · exact kept
      · exact absurd ⟨Nat.le_succ_of_le after, reached⟩ (never _)
  rcases helped index now with ⟨later, after, helps⟩
  exact never (later + 1) ⟨Nat.le_succ_of_le after, helps (still later after)⟩

/-- A rank cannot go down for ever. -/
lemma of_rank (rank : State → Nat)
  (descends :
    ∀ bound,
      run.LeadsTo (fun state => here state ∧ rank state = bound)
        (fun state => there state ∨ here state ∧ rank state < bound)) :
  run.LeadsTo here there := by
  intro index now
  generalize isBound : rank (run.state index) = bound
  induction bound using Nat.strongRecOn generalizing index with
  | ind bound ih =>
    rcases descends bound index ⟨now, isBound⟩ with ⟨later, after, reached | ⟨still, lower⟩⟩
    · exact ⟨later, after, reached⟩
    · rcases ih _ lower later still rfl with ⟨last, afterLater, atThere⟩
      exact ⟨last, Nat.le_trans after afterLater, atThere⟩

end LeadsTo

end InfiniteRun

end OTServ.Library.FairRuns
