import Mathlib.Data.List.Basic

/-!
# What the answers of a run depend on

A machine answers calls from a memory which it never changes and from a control
part which it does.  Two memories that look alike may still be told apart by the
answers.  Where an answer decides how the control part goes on, the answers of a
whole run are the same for two memories as long as those of every call are, so
that the runs which tell memories apart are found one call at a time.

A run may raise an alarm, after which its answers do not count.
-/

namespace OTServ.Library.Dependence

open List

universe u v w x

variable {Memory : Type u} {Control : Type v} {Call : Type w} {Answer : Type x}

section Runs

variable (step : Call → Memory → Control → Answer × Control)

/-- The answers of the calls, made one after another. -/
def answers : List Call → Memory → Control → List Answer
  | [], _, _ => []
  | call :: calls, memory, control =>
    (step call memory control).1 :: answers calls memory (step call memory control).2

def after : List Call → Memory → Control → Control
  | [], _, control => control
  | call :: calls, memory, control =>
    after calls memory (step call memory control).2

/-- Every call is made in a state which meets the condition. -/
def Each (condition : Control → Call → Prop) : List Call → Memory → Control → Prop
  | [], _, _ => True
  | call :: calls, memory, control =>
    condition control call ∧ Each condition calls memory (step call memory control).2

/-- The control part goes on as the answer of the call says. -/
def Told : Prop :=
  ∀ call memory other control,
    (step call memory control).1 = (step call other control).1 →
      (step call memory control).2 = (step call other control).2

def Lasting (alarm : Control → Prop) : Prop :=
  ∀ call memory control, alarm control → alarm (step call memory control).2

/-- There is an alarm, or none of the memories alike gives other answers. -/
def Quiet (alarm : Control → Prop) (alike : Memory → Prop) (calls : List Call) (memory : Memory)
  (control : Control) : Prop :=
  alarm (after step calls memory control) ∨
    ∀ other, alike other → answers step calls memory control = answers step calls other control

def QuietCall (alarm : Control → Prop) (alike : Memory → Prop) (memory : Memory)
  (control : Control) (call : Call) : Prop :=
  alarm (step call memory control).2 ∨
    ∀ other, alike other → (step call memory control).1 = (step call other control).1

end Runs

variable {step : Call → Memory → Control → Answer × Control} {alarm : Control → Prop}
  {alike : Memory → Prop} {condition stronger : Control → Call → Prop} {memory : Memory}
  {control : Control} {call : Call} {calls : List Call}

lemma answers_append (more : List Call) :
  answers step (calls ++ more) memory control =
    answers step calls memory control ++
      answers step more memory (after step calls memory control) := by
  induction calls generalizing control with
  | nil => rfl
  | cons call calls ih =>
    rw [cons_append, answers, ih]
    rfl

lemma after_append (more : List Call) :
  after step (calls ++ more) memory control =
    after step more memory (after step calls memory control) := by
  induction calls generalizing control with
  | nil => rfl
  | cons call calls ih => exact ih

lemma Lasting.after (lasting : Lasting step alarm) (raised : alarm control) :
  alarm (after step calls memory control) := by
  induction calls generalizing control with
  | nil => exact raised
  | cons call calls ih => exact ih (lasting call memory control raised)

lemma Each.congr (invariant : Control → Prop) (initially : invariant control)
  (kept : ∀ control call, invariant control → invariant (step call memory control).2)
  (same : ∀ control call, invariant control → (stronger control call ↔ condition control call)) :
  Each step stronger calls memory control ↔ Each step condition calls memory control := by
  induction calls generalizing control with
  | nil => exact Iff.rfl
  | cons call calls ih =>
    exact and_congr (same control call initially) (ih (kept control call initially))

lemma each_and :
  Each step (fun control call =>
      condition control call ∧ stronger control call) calls memory
      control ↔
    Each step condition calls memory control ∧ Each step stronger calls memory control := by
  induction calls generalizing control with
  | nil => exact (and_iff_left trivial).symm
  | cons call calls ih =>
    rw [Each, ih]
    exact and_and_and_comm

/-- A condition of every call holds for all the fronts of the calls. -/
lemma each_iff_prefixes (holds : List Call → Control → Prop)
  (single : ∀ control call, condition control call ↔ holds [call] control)
  (empty : ∀ control, holds [] control)
  (split :
    ∀ control call rest, holds [call] control →
      (holds (call :: rest) control ↔ holds rest (step call memory control).2)) :
  Each step condition calls memory control ↔ ∀ front, front <+: calls → holds front control := by
  induction calls generalizing control with
  | nil =>
    constructor
    · intro _ front isFront
      rw [prefix_nil.1 isFront]
      exact empty control
    · exact fun _ => trivial
  | cons call calls ih =>
    constructor
    · rintro ⟨now, later⟩ front isFront
      have held := (single control call).1 now
      rcases prefix_cons_iff.1 isFront with rfl | ⟨rest, rfl, isRest⟩
      · exact empty control
      · exact (split control call rest held).2 (ih.1 later rest isRest)
    · intro all
      have held : holds [call] control := all [call] (prefix_cons_inj call |>.2 nil_prefix)
      refine ⟨(single control call).2 held, ih.2 ?_⟩
      intro rest isRest
      exact (split control call rest held).1 (all (call :: rest) ((prefix_cons_inj call).2 isRest))

lemma quiet_nil : Quiet step alarm alike [] memory control :=
  Or.inr fun _ _ => rfl

lemma quiet_single :
  Quiet step alarm alike [call] memory control ↔
    QuietCall step alarm alike memory control call := by
  simp only [Quiet, QuietCall, after, answers, List.cons.injEq, and_true]

/-- Behind a call which tells nothing the rest is judged by itself. -/
lemma quiet_cons (told : Told step) (lasting : Lasting step alarm)
  (now : QuietCall step alarm alike memory control call) :
  Quiet step alarm alike (call :: calls) memory control ↔
    Quiet step alarm alike calls memory (step call memory control).2 := by
  rcases now with raised | same
  · have stays : alarm (after step calls memory (step call memory control).2) :=
      lasting.after raised
    exact iff_of_true (Or.inl stays) (Or.inl stays)
  · refine or_congr Iff.rfl (forall_congr' fun other => ?_)
    refine imp_congr_right fun isAlike => ?_
    have sameAnswer := same other isAlike
    have sameControl := told call memory other control sameAnswer
    simp only [answers, sameAnswer, List.cons.injEq, true_and, sameControl]

/--
All the fronts of a run tell nothing exactly when no single call of it does.
-/
lemma quiet_prefixes_iff (told : Told step) (lasting : Lasting step alarm) :
  (∀ front, front <+: calls →
      Quiet step alarm alike front memory control) ↔
    Each step (QuietCall step alarm alike memory) calls memory control := by
  refine
    (each_iff_prefixes
      (fun calls control => Quiet step alarm alike calls memory control)
      ?_ ?_ ?_).symm
  · exact fun _ _ => quiet_single.symm
  · exact fun _ => quiet_nil
  · intro control call rest now
    exact quiet_cons told lasting (quiet_single.1 now)

end OTServ.Library.Dependence
