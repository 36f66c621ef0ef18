import Mathlib.Logic.Basic

/-!
# Guarded runs of a labelled transition system

A system is given by a step relation between states, labelled by events.  A
guard restricts which event may be taken in which state; the guard that is
always true gives the ordinary runs of the system.

Two rules are used throughout: an invariant which holds initially and is
preserved by every guarded step holds in every state reached, and a run that
respects a strong guard is also a run for a weaker one.
-/

namespace OTServ.Library.GuardedRuns

universe u v w

variable {State : Type u} {Event : Type v}

/-- The states reached from `start` by steps which all meet the guard. -/
inductive Reaches (step : State → Event → State → Prop) (guard : State → Event → Prop)
  (start : State) : State → Prop where
  | refl : Reaches step guard start start
  | tail
      (run : Reaches step guard start middle)
      (allowed : guard middle event)
      (taken : step middle event next) :
      Reaches step guard start next

/-- The guard which allows every event in every state. -/
def Always : State → Event → Prop :=
  fun _ _ => True

namespace Reaches

variable {step : State → Event → State → Prop} {guard : State → Event → Prop}
  {start finish : State}

variable (run : Reaches step guard start finish)
include run

/-- Invariant rule: initial truth and preservation give truth along the run. -/
lemma invariant {holds : State → Prop} (initially : holds start)
  (preserved :
    ∀ state event next, holds state → guard state event → step state event next → holds next) :
  holds finish := by
  induction run with
  | refl => exact initially
  | tail run allowed taken ih =>
    exact preserved _ _ _ ih allowed taken

/-- A run respecting a guard respects every weaker guard. -/
lemma mono {weaker : State → Event → Prop}
  (implied : ∀ state event, guard state event → weaker state event) :
  Reaches step weaker start finish := by
  induction run with
  | refl => exact refl
  | tail run allowed taken ih =>
    exact tail ih (implied _ _ allowed) taken

/-- Forgetting the guard leaves an ordinary run. -/
lemma always : Reaches step Always start finish :=
  run.mono fun _ _ _ => trivial

end Reaches

section Functions

variable {step : State → Event → State} {guard : State → Event → Prop}

/-- Every event of a list meets the guard in the state to which it comes. -/
def Allowed
  (step : State → Event → State)
  (guard : State → Event → Prop) : State → List Event → Prop
  | _, [] => True
  | state, event :: events =>
    guard state event ∧ Allowed step guard (step state event) events

/-- Whether a list of events is allowed can be computed. -/
def decideAllowed [∀ state event, Decidable (guard state event)] :
  (state : State) → (events : List Event) → Decidable (Allowed step guard state events)
  | _, [] => isTrue trivial
  | state, event :: events =>
    have := decideAllowed (step state event) events
    inferInstanceAs (Decidable (guard state event ∧ _))

instance [∀ state event, Decidable (guard state event)]
  (state : State) (events : List Event) :
  Decidable (Allowed step guard state events) :=
  decideAllowed state events

/-- A list of allowed events is a run. -/
lemma Reaches.of_allowed {start state : State}
  (run : Reaches (fun state event next => next = step state event) guard start state)
  (events : List Event) (allowed : Allowed step guard state events) :
  Reaches (fun state event next => next = step state event) guard start
    (events.foldl step state) := by
  induction events generalizing state with
  | nil => exact run
  | cons event events ih => exact ih (run.tail allowed.1 rfl) allowed.2

/-- Any list of events is an ordinary run. -/
lemma Reaches.of_list (start : State) (events : List Event) :
  Reaches (fun state event next => next = step state event) Always start
    (events.foldl step start) := by
  refine Reaches.refl.of_allowed events ?_
  induction events generalizing start with
  | nil => trivial
  | cons event events ih => exact ⟨trivial, ih (step start event)⟩

end Functions

end OTServ.Library.GuardedRuns
