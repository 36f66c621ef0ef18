import Mathlib.Data.List.Induction
import Mathlib.Data.List.Nodup
import Mathlib.Logic.Relation
import OTServ.Library.Histories

/-!
# Lifecycles

A registry holds objects, no two of one key.  An object is made and waits until it is
accepted, refused or merged into a held one; an accepted object is held until it is
ended and then deleted, one which is refused or merged is deleted without being
ended.  What is done to an object takes it from phase to phase, and a deed which does
not fit the phase leads astray: so an object which is not astray was deleted at most
once and never used afterwards.

A sound registry has each object in the phase which its place says, and each move of
a registry keeps it sound.
-/

namespace OTServ.Library.Lifecycles

open Library.Histories
open List Function

universe u

inductive Deed
  | used
  | accepted
  | refused
  | merged
  | renewed
  | ended
  | deleted
deriving DecidableEq, Repr

/-- An object has something done to it, or the objects held become others. -/
inductive Occurrence
  | deed (object : Nat) (deed : Deed)
  | holding (objects : List Nat)
deriving DecidableEq, Repr

inductive Phase
  | made
  | held
  | ended
  | rejected
  | released
  | dropped
  | astray
deriving DecidableEq, Repr

namespace Phase

def after : Phase → Deed → Phase
  | .made, .used => .made
  | .made, .accepted => .held
  | .made, .refused => .rejected
  | .made, .merged => .rejected
  | .held, .used => .held
  | .held, .renewed => .held
  | .held, .ended => .ended
  | .ended, .used => .ended
  | .ended, .deleted => .released
  | .rejected, .deleted => .dropped
  | _, _ => .astray

/-- How often an object was accepted, ended, rejected and deleted by this phase. -/
def acceptances : Phase → Nat
  | .held | .ended | .released => 1
  | _ => 0

def endings : Phase → Nat
  | .ended | .released => 1
  | _ => 0

def rejections : Phase → Nat
  | .rejected | .dropped => 1
  | _ => 0

def deletions : Phase → Nat
  | .released | .dropped => 1
  | _ => 0

end Phase

/-! ## Deeds -/

def Occurrence.deedTo (object : Nat) : Occurrence → Option Deed
  | .deed other done => if other = object then some done else none
  | .holding _ => none

/-- What was done to an object in the course of a history. -/
def deedsOf (object : Nat) (history : List Occurrence) : List Deed :=
  history.filterMap (Occurrence.deedTo object)

def phaseOf (object : Nat) (history : List Occurrence) : Phase :=
  (deedsOf object history).foldl Phase.after .made

section Deeds

variable {object other : Nat} {deed : Deed} {history later : List Occurrence}

lemma deedsOf_append :
  deedsOf object (history ++ later) = deedsOf object history ++ deedsOf object later :=
  filterMap_append

lemma phaseOf_append :
  phaseOf object (history ++ later) =
    (deedsOf object later).foldl Phase.after (phaseOf object history) := by
  rw [phaseOf, deedsOf_append, foldl_append, phaseOf]

@[simp]
lemma deedTo_self : (Occurrence.deed object deed).deedTo object = some deed := if_pos rfl

lemma deedTo_of_ne (ne : other ≠ object) :
  (Occurrence.deed other deed).deedTo object = none := if_neg ne

@[simp]
lemma deedTo_holding (objects : List Nat) :
  (Occurrence.holding objects).deedTo object = none := rfl

lemma phaseOf_snoc_self :
  phaseOf object (history ++ [.deed object deed]) = (phaseOf object history).after deed := by
  rw [phaseOf_append, deedsOf, filterMap_cons_some deedTo_self]
  rfl

lemma phaseOf_snoc_of_ne (ne : other ≠ object) :
  phaseOf object (history ++ [.deed other deed]) = phaseOf object history := by
  rw [phaseOf_append, deedsOf, filterMap_cons_none (deedTo_of_ne ne)]
  rfl

@[simp]
lemma phaseOf_snoc_holding (objects : List Nat) :
  phaseOf object (history ++ [.holding objects]) = phaseOf object history := by
  rw [phaseOf_append, deedsOf, filterMap_cons_none (deedTo_holding objects)]
  rfl

/-- What does nothing to an object leaves it in its phase. -/
lemma phaseOf_append_of_quiet (quiet : ∀ deed, .deed object deed ∉ later) :
  phaseOf object (history ++ later) = phaseOf object history := by
  have nothing : deedsOf object later = [] := by
    refine filterMap_eq_nil_iff.2 ?_
    intro occurrence mem
    cases occurrence with
    | deed found done =>
      refine deedTo_of_ne ?_
      rintro rfl
      exact quiet done mem
    | holding objects => rfl
  rw [phaseOf_append, nothing]
  rfl

/-- A deed which fits the phase and does not change it. -/
lemma phaseOf_snoc_of_stays
  (stays : (phaseOf other history).after deed = phaseOf other history) :
  phaseOf object (history ++ [.deed other deed]) = phaseOf object history := by
  by_cases same : other = object
  · subst same
    rw [phaseOf_snoc_self, stays]
  · exact phaseOf_snoc_of_ne same

lemma count_deedsOf :
  (deedsOf object history).count deed = history.count (.deed object deed) := by
  induction history with
  | nil => rfl
  | cons occurrence history inductionHypothesis =>
    cases occurrence with
    | deed found done =>
      by_cases here : found = object
      · subst here
        rw [deedsOf, filterMap_cons_some deedTo_self, count_cons,
          count_cons, ← deedsOf, inductionHypothesis]
        simp only [beq_iff_eq, Occurrence.deed.injEq, true_and]
      · rw [deedsOf, filterMap_cons_none (deedTo_of_ne here), ← deedsOf, inductionHypothesis]
        refine (count_cons_of_ne ?_).symm
        exact fun same => here (Occurrence.deed.inj same).1
    | holding objects =>
      rw [deedsOf, filterMap_cons_none (deedTo_holding objects), ← deedsOf, inductionHypothesis]
      exact (count_cons_of_ne Occurrence.noConfusion).symm

/-- Once astray, an object stays so. -/
lemma foldl_astray (deeds : List Deed) : deeds.foldl Phase.after .astray = .astray := by
  induction deeds with
  | nil => rfl
  | cons deed deeds inductionHypothesis => exact inductionHypothesis

lemma phaseOf_before_ne_astray (onCourse : phaseOf object (history ++ later) ≠ .astray) :
  phaseOf object history ≠ .astray := by
  intro strayed
  rw [phaseOf_append, strayed, foldl_astray] at onCourse
  exact onCourse rfl

/-- In each phase but astray, the deeds add up to what the phase says. -/
structure Counted (deeds : List Deed) (phase : Phase) : Prop where
  acceptances : deeds.count .accepted = phase.acceptances
  endings : deeds.count .ended = phase.endings
  rejections : deeds.count .refused + deeds.count .merged = phase.rejections
  deletions : deeds.count .deleted = phase.deletions

variable {phase : Phase}

lemma Counted.after {deeds : List Deed} (counted : Counted deeds phase)
  (onCourse : phase.after deed ≠ .astray) : Counted (deeds ++ [deed]) (phase.after deed) := by
  rcases counted with ⟨acceptances, endings, rejections, deletions⟩
  constructor
  · rw [count_append, acceptances]
    cases phase <;> cases deed <;> first | rfl | exact absurd rfl onCourse
  · rw [count_append, endings]
    cases phase <;> cases deed <;> first | rfl | exact absurd rfl onCourse
  · rw [count_append, count_append, Nat.add_add_add_comm, rejections]
    cases phase <;> cases deed <;> first | rfl | exact absurd rfl onCourse
  · rw [count_append, deletions]
    cases phase <;> cases deed <;> first | rfl | exact absurd rfl onCourse

lemma counted_foldl (deeds : List Deed) (onCourse : deeds.foldl Phase.after .made ≠ .astray) :
  Counted deeds (deeds.foldl Phase.after .made) := by
  induction deeds using List.reverseRecOn with
  | nil => exact ⟨rfl, rfl, rfl, rfl⟩
  | append_singleton deeds deed inductionHypothesis =>
    rw [foldl_append, foldl_cons, foldl_nil] at onCourse ⊢
    refine (inductionHypothesis ?_).after onCourse
    intro strayed
    rw [strayed] at onCourse
    exact onCourse rfl

lemma counted_phaseOf (onCourse : phaseOf object history ≠ .astray) :
  Counted (deedsOf object history) (phaseOf object history) :=
  counted_foldl _ onCourse

/-- What is done to an object, is done before it is deleted. -/
def BeforeDeletion (before : List Occurrence) (occurrence : Occurrence) : Prop :=
  ∀ object deed, occurrence = .deed object deed → .deed object .deleted ∉ before

/-- Nothing fits an object which was deleted. -/
lemma Phase.after_eq_astray_of_deleted
  (deleted : phase.deletions ≠ 0) : phase.after deed = .astray := by
  cases phase <;> cases deed <;> first | rfl | exact absurd rfl deleted

lemma lawful_of_onCourse (onCourse : ∀ object, phaseOf object history ≠ .astray) :
  Lawful BeforeDeletion history := by
  intro before occurrence after split object deed same deleted
  subst same
  rw [split, ← singleton_append, ← append_assoc] at onCourse
  have goesOn := phaseOf_before_ne_astray (onCourse object)
  have before_onCourse := phaseOf_before_ne_astray goesOn
  have once := (counted_phaseOf before_onCourse).deletions
  have present : 0 < (deedsOf object before).count .deleted := by
    rw [count_deedsOf]
    exact count_pos_iff.2 deleted
  refine goesOn ?_
  rw [phaseOf_snoc_self]
  refine Phase.after_eq_astray_of_deleted ?_
  rw [← once]
  exact Nat.ne_of_gt present

end Deeds

/-! ## Registries -/

/-- `pending` are the objects made and not yet decided upon, the latest first. -/
structure Registry (Key : Type u) where
  held : List Nat
  key : Nat → Key
  next : Nat
  pending : List Nat
  history : List Occurrence

namespace Registry

variable {Key : Type u}

/-- A deed which leaves the objects in their places. -/
def note (registry : Registry Key) (object : Nat) (deed : Deed) : Registry Key :=
  { registry with history := registry.history ++ [.deed object deed] }

def make (registry : Registry Key) (key : Key) : Registry Key :=
  { registry with
    key := update registry.key registry.next key
    next := registry.next + 1
    pending := registry.next :: registry.pending }

def accept (registry : Registry Key) (object : Nat) : Registry Key :=
  { registry with
    held := registry.held ++ [object]
    pending := registry.pending.tail
    history := registry.history ++ [.deed object .accepted, .holding (registry.held ++ [object])] }

/-- The object is refused or merged, as the deed says, and deleted. -/
def reject (registry : Registry Key) (object : Nat) (deed : Deed) : Registry Key :=
  { registry with
    pending := registry.pending.tail
    history := registry.history ++ [.deed object deed, .deed object .deleted] }

/-- The object is let go, ended, used again or not, and deleted. -/
def release (registry : Registry Key) (object : Nat) (again : Bool) : Registry Key :=
  { registry with
    held := registry.held.erase object
    history :=
      registry.history ++
        ([.holding (registry.held.erase object), .deed object .ended] ++
          (if again then [.deed object .used] else []) ++ [.deed object .deleted]) }

inductive Move : Registry Key → Registry Key → Prop
  | use
      (registry : Registry Key)
      (object : Nat)
      (alive : object ∈ registry.held ∨ object ∈ registry.pending) :
      Move registry (registry.note object .used)
  | make (registry : Registry Key) (key : Key) : Move registry (registry.make key)
  | accept
      (registry : Registry Key)
      (object : Nat)
      (waiting : registry.pending.head? = some object)
      (free : registry.key object ∉ registry.held.map registry.key) :
      Move registry (registry.accept object)
  | reject
      (registry : Registry Key)
      (object : Nat)
      (deed : Deed)
      (waiting : registry.pending.head? = some object)
      (rejecting : deed = .refused ∨ deed = .merged) :
      Move registry (registry.reject object deed)
  | renew
      (registry : Registry Key)
      (object : Nat)
      (member : object ∈ registry.held) :
      Move registry (registry.note object .renewed)
  | release
      (registry : Registry Key)
      (object : Nat)
      (again : Bool)
      (member : object ∈ registry.held) :
      Move registry (registry.release object again)

abbrev Moves : Registry Key → Registry Key → Prop := Relation.ReflTransGen Move

/-! ## Soundness -/

/-- Each object is in the phase which its place says, and the objects held had
distinct keys at every point. -/
structure Sound (registry : Registry Key) : Prop where
  distinct : (registry.held.map registry.key).Nodup
  pending_distinct : registry.pending.Nodup
  apart : ∀ object ∈ registry.pending, object ∉ registry.held
  held_made : ∀ object ∈ registry.held, object < registry.next
  pending_made : ∀ object ∈ registry.pending, object < registry.next
  held_phase : ∀ object ∈ registry.held, phaseOf object registry.history = .held
  pending_phase : ∀ object ∈ registry.pending, phaseOf object registry.history = .made
  unmade_phase : ∀ object, registry.next ≤ object → phaseOf object registry.history = .made
  gone_phase :
    ∀ object, object < registry.next → object ∉ registry.held →
      object ∉ registry.pending →
        phaseOf object registry.history = .released ∨ phaseOf object registry.history = .dropped
  holdings :
    ∀ objects, .holding objects ∈ registry.history →
      (objects.map registry.key).Nodup ∧ ∀ object ∈ objects, object < registry.next

/-- The registry in which nothing was made yet. -/
def empty (key : Nat → Key) : Registry Key :=
  { held := [], key := key, next := 0, pending := [], history := [] }

lemma sound_empty (key : Nat → Key) : (empty key).Sound where
  distinct := nodup_nil
  pending_distinct := nodup_nil
  apart := fun _ mem => absurd mem not_mem_nil
  held_made := fun _ mem => absurd mem not_mem_nil
  pending_made := fun _ mem => absurd mem not_mem_nil
  held_phase := fun _ mem => absurd mem not_mem_nil
  pending_phase := fun _ mem => absurd mem not_mem_nil
  unmade_phase := fun _ _ => rfl
  gone_phase := fun object made => absurd made (Nat.not_lt_zero object)
  holdings := fun _ mem => absurd mem not_mem_nil

section Moves

variable {registry after : Registry Key} {object : Nat}

lemma Sound.nodup (sound : registry.Sound) : registry.held.Nodup :=
  List.Nodup.of_map registry.key sound.distinct

variable {deed : Deed} {key : Key} {objects rest : List Nat} {again : Bool}

/-- A deed which changes no phase. -/
lemma Sound.note (sound : registry.Sound)
  (stays : (phaseOf object registry.history).after deed = phaseOf object registry.history) :
  (registry.note object deed).Sound := by
  have same (other : Nat) :
      phaseOf other (registry.note object deed).history = phaseOf other registry.history :=
    phaseOf_snoc_of_stays stays
  exact { sound with
    held_phase := fun other mem => (same other).trans (sound.held_phase other mem)
    pending_phase := fun other mem => (same other).trans (sound.pending_phase other mem)
    unmade_phase := fun other unmade => (same other).trans (sound.unmade_phase other unmade)
    gone_phase := fun other made notHeld notPending => by
      rw [same other]
      exact sound.gone_phase other made notHeld notPending
    holdings := fun objects mem => by
      refine sound.holdings objects ?_
      rcases mem_append.1 mem with old | new
      · exact old
      · cases mem_singleton.1 new }

lemma Sound.use
  (sound : registry.Sound) (alive : object ∈ registry.held ∨ object ∈ registry.pending) :
  (registry.note object .used).Sound := by
  refine sound.note ?_
  rcases alive with mem | mem
  · rw [sound.held_phase object mem]
    rfl
  · rw [sound.pending_phase object mem]
    rfl

lemma Sound.renew (sound : registry.Sound) (mem : object ∈ registry.held) :
  (registry.note object .renewed).Sound := by
  refine sound.note ?_
  rw [sound.held_phase object mem]
  rfl

lemma make_key (made : object < registry.next) :
  (registry.make key).key object = registry.key object :=
  update_of_ne (Nat.ne_of_lt made) _ _

lemma map_make_key (made : ∀ object ∈ objects, object < registry.next) :
  objects.map (registry.make key).key = objects.map registry.key :=
  map_congr_left fun object mem => make_key (made object mem)

lemma Sound.make (sound : registry.Sound) (key : Key) : (registry.make key).Sound where
  distinct := by
    rw [show (registry.make key).held = registry.held from rfl, map_make_key sound.held_made]
    exact sound.distinct
  pending_distinct := by
    refine nodup_cons.2 ⟨fun mem => ?_, sound.pending_distinct⟩
    exact Nat.lt_irrefl _ (sound.pending_made _ mem)
  apart := fun other mem held => by
    rcases mem_cons.1 mem with rfl | older
    · exact Nat.lt_irrefl _ (sound.held_made _ held)
    · exact sound.apart other older held
  held_made := fun other mem => Nat.lt_succ_of_lt (sound.held_made other mem)
  pending_made := fun other mem => by
    rcases mem_cons.1 mem with rfl | older
    · exact Nat.lt_succ_self _
    · exact Nat.lt_succ_of_lt (sound.pending_made other older)
  held_phase := sound.held_phase
  pending_phase := fun other mem => by
    rcases mem_cons.1 mem with rfl | older
    · exact sound.unmade_phase _ (Nat.le_refl _)
    · exact sound.pending_phase other older
  unmade_phase := fun other unmade => sound.unmade_phase other (Nat.le_of_succ_le unmade)
  gone_phase := fun other made notHeld notPending => by
    rw [show (registry.make key).pending = registry.next :: registry.pending from rfl,
      mem_cons, not_or] at notPending
    have older : other < registry.next := Nat.lt_of_le_of_ne (Nat.le_of_lt_succ made) notPending.1
    exact sound.gone_phase other older notHeld notPending.2
  holdings := fun objects mem => by
    rcases sound.holdings objects mem with ⟨distinct, made⟩
    refine ⟨?_, fun other listed => Nat.lt_succ_of_lt (made other listed)⟩
    rw [map_make_key made]
    exact distinct

section Waiting

variable
  {rest : List Nat}
  (sound : registry.Sound)
  (waiting : registry.pending = object :: rest)

include sound waiting

lemma Sound.waiting_notMem_rest : object ∉ rest := by
  have distinct := sound.pending_distinct
  rw [waiting] at distinct
  exact (nodup_cons.1 distinct).1

lemma Sound.waiting_notHeld : object ∉ registry.held := by
  refine sound.apart object ?_
  rw [waiting]
  exact mem_cons_self

lemma Sound.waiting_made : object < registry.next := by
  refine sound.pending_made object ?_
  rw [waiting]
  exact mem_cons_self

lemma Sound.waiting_phase : phaseOf object registry.history = .made := by
  refine sound.pending_phase object ?_
  rw [waiting]
  exact mem_cons_self

lemma Sound.mem_pending_of_mem_rest {other : Nat} (mem : other ∈ rest) :
  other ∈ registry.pending ∧ other ≠ object := by
  refine ⟨?_, fun same => ?_⟩
  · rw [waiting]
    exact mem_cons_of_mem object mem
  · rw [same] at mem
    exact sound.waiting_notMem_rest waiting mem

end Waiting

/-- One object is held from now on or gone, and the others stay as they are. -/
lemma Sound.change (sound : registry.Sound) (made : object < registry.next)
  (next : after.next = registry.next) (key : after.key = registry.key)
  (distinct : (after.held.map registry.key).Nodup) (pending_distinct : after.pending.Nodup)
  (held : ∀ other, other ≠ object → (other ∈ after.held ↔ other ∈ registry.held))
  (pending : ∀ other, other ∈ after.pending ↔ other ∈ registry.pending ∧ other ≠ object)
  (held_self : object ∈ after.held → phaseOf object after.history = .held)
  (gone_self :
    object ∉ after.held →
      phaseOf object after.history = .released ∨ phaseOf object after.history = .dropped)
  (others :
    ∀ other, other ≠ object → phaseOf other after.history = phaseOf other registry.history)
  (holdings :
    ∀ objects, .holding objects ∈ after.history →
      .holding objects ∈ registry.history ∨ objects = after.held) : after.Sound := by
  have held_made : ∀ other ∈ after.held, other < after.next := by
    intro other mem
    rw [next]
    by_cases same : other = object
    · exact same ▸ made
    · exact sound.held_made other ((held other same).1 mem)
  rw [← key] at distinct
  constructor
  case distinct => exact distinct
  case pending_distinct => exact pending_distinct
  case apart =>
    intro other mem
    rcases (pending other).1 mem with ⟨earlier, ne⟩
    rw [held other ne]
    exact sound.apart other earlier
  case held_made => exact held_made
  case pending_made =>
    intro other mem
    rw [next]
    exact sound.pending_made other ((pending other).1 mem).1
  case held_phase =>
    intro other mem
    by_cases same : other = object
    · rw [same] at mem ⊢
      exact held_self mem
    · rw [others other same]
      exact sound.held_phase other ((held other same).1 mem)
  case pending_phase =>
    intro other mem
    rcases (pending other).1 mem with ⟨earlier, ne⟩
    rw [others other ne]
    exact sound.pending_phase other earlier
  case unmade_phase =>
    intro other unmade
    rw [next] at unmade
    rw [others other (Nat.ne_of_gt (Nat.lt_of_lt_of_le made unmade))]
    exact sound.unmade_phase other unmade
  case gone_phase =>
    intro other isMade notHeld notPending
    by_cases same : other = object
    · rw [same] at notHeld ⊢
      exact gone_self notHeld
    · rw [held other same] at notHeld
      rw [pending] at notPending
      rw [others other same]
      exact sound.gone_phase other (next ▸ isMade) notHeld fun waits => notPending ⟨waits, same⟩
  case holdings =>
    intro objects mem
    rcases holdings objects mem with old | rfl
    · rw [key, next]
      exact sound.holdings objects old
    · exact ⟨distinct, held_made⟩

/-- The first of the waiting objects waits no longer. -/
lemma Sound.mem_rest_iff (sound : registry.Sound) (waiting : registry.pending = object :: rest)
  (other : Nat) : other ∈ rest ↔ other ∈ registry.pending ∧ other ≠ object := by
  refine ⟨sound.mem_pending_of_mem_rest waiting, ?_⟩
  rintro ⟨mem, ne⟩
  rw [waiting] at mem
  exact (mem_cons.1 mem).resolve_left ne

lemma Sound.rest_nodup (sound : registry.Sound) (waiting : registry.pending = object :: rest) :
  rest.Nodup := by
  have whole := sound.pending_distinct
  rw [waiting] at whole
  exact (nodup_cons.1 whole).2

lemma Sound.accept (sound : registry.Sound) (waiting : registry.pending = object :: rest)
  (free : registry.key object ∉ registry.held.map registry.key) :
  (registry.accept object).Sound := by
  have pending : (registry.accept object).pending = rest := by
    rw [show (registry.accept object).pending = registry.pending.tail from rfl, waiting]
    rfl
  have history :
      (registry.accept object).history =
        (registry.history ++ [.deed object .accepted]) ++ [.holding (registry.held ++ [object])] :=
    (append_assoc _ [_] [_]).symm
  have held (other : Nat) (ne : other ≠ object) :
      other ∈ registry.held ++ [object] ↔ other ∈ registry.held := by
    simp [ne]
  have listed : object ∈ registry.held ++ [object] := mem_append_right _ mem_cons_self
  refine sound.change (sound.waiting_made waiting) rfl rfl ?_ ?_ held ?_ ?_
    (fun gone => absurd listed gone) ?_ ?_
  · show ((registry.held ++ [object]).map registry.key).Nodup
    rw [map_append]
    refine nodup_append'.2 ⟨sound.distinct, nodup_singleton _, ?_⟩
    exact disjoint_singleton.2 free
  · rw [pending]
    exact sound.rest_nodup waiting
  · intro other
    rw [pending]
    exact sound.mem_rest_iff waiting other
  · intro _
    rw [history, phaseOf_snoc_holding, phaseOf_snoc_self, sound.waiting_phase waiting]
    rfl
  · intro other ne
    rw [history, phaseOf_snoc_holding, phaseOf_snoc_of_ne ne.symm]
  · intro objects mem
    rw [history, mem_append, mem_append] at mem
    rcases mem with (old | new) | new
    · exact .inl old
    · cases mem_singleton.1 new
    · exact .inr (Occurrence.holding.inj (mem_singleton.1 new))

lemma Sound.reject (sound : registry.Sound) (waiting : registry.pending = object :: rest)
  (rejecting : deed = .refused ∨ deed = .merged) : (registry.reject object deed).Sound := by
  have pending : (registry.reject object deed).pending = rest := by
    rw [show (registry.reject object deed).pending = registry.pending.tail from rfl, waiting]
    rfl
  have history :
      (registry.reject object deed).history =
        (registry.history ++ [.deed object deed]) ++ [.deed object .deleted] :=
    (append_assoc _ [_] [_]).symm
  refine sound.change (sound.waiting_made waiting) rfl rfl sound.distinct ?_
    (fun _ _ => Iff.rfl) ?_ (fun held => absurd held (sound.waiting_notHeld waiting)) ?_ ?_
    ?_
  · rw [pending]
    exact sound.rest_nodup waiting
  · intro other
    rw [pending]
    exact sound.mem_rest_iff waiting other
  · intro _
    right
    rw [history, phaseOf_snoc_self, phaseOf_snoc_self, sound.waiting_phase waiting]
    rcases rejecting with rfl | rfl <;> rfl
  · intro other ne
    rw [history, phaseOf_snoc_of_ne ne.symm, phaseOf_snoc_of_ne ne.symm]
  · intro objects mem
    rw [history, mem_append, mem_append] at mem
    rcases mem with (old | new) | new
    · exact .inl old
    · cases mem_singleton.1 new
    · cases mem_singleton.1 new

lemma release_phase_self (sound : registry.Sound) (mem : object ∈ registry.held) :
  phaseOf object (registry.release object again).history = .released := by
  rw [release, phaseOf_append, sound.held_phase object mem]
  cases again
  · simp [deedsOf, filterMap_cons, Phase.after]
  · simp [deedsOf, filterMap_cons, Phase.after]

lemma release_phase_of_ne {other : Nat} (ne : other ≠ object) :
  phaseOf other (registry.release object again).history = phaseOf other registry.history := by
  refine phaseOf_append_of_quiet ?_
  intro deed mem
  cases again
  · simp [ne] at mem
  · simp [ne] at mem

lemma holding_mem_release (mem : .holding objects ∈ (registry.release object again).history) :
  .holding objects ∈ registry.history ∨ objects = registry.held.erase object := by
  rcases mem_append.1 mem with old | new
  · exact .inl old
  · right
    cases again
    · simpa using new
    · simpa using new

lemma Sound.release (sound : registry.Sound) (mem : object ∈ registry.held) :
  (registry.release object again).Sound := by
  refine sound.change (sound.held_made object mem) rfl rfl
    ((List.Sublist.map registry.key erase_sublist).nodup sound.distinct)
    sound.pending_distinct (fun other ne => mem_erase_of_ne ne) ?_
    (fun held => absurd held sound.nodup.not_mem_erase)
    (fun _ => .inl (release_phase_self sound mem))
    (fun other ne => release_phase_of_ne ne)
    (fun objects listed => holding_mem_release listed)
  intro other
  refine (and_iff_left_of_imp ?_).symm
  rintro waiting rfl
  exact sound.apart other waiting mem

lemma Move.sound (move : Move registry after) (sound : registry.Sound) : after.Sound := by
  cases move with
  | use object alive => exact sound.use alive
  | make key => exact sound.make key
  | accept object waiting free =>
    rcases List.head?_eq_some_iff.1 waiting with ⟨rest, split⟩
    exact sound.accept split free
  | reject object deed waiting rejecting =>
    rcases List.head?_eq_some_iff.1 waiting with ⟨rest, split⟩
    exact sound.reject split rejecting
  | renew object mem => exact sound.renew mem
  | release object again mem => exact sound.release mem

lemma Moves.sound (moves : Moves registry after) (sound : registry.Sound) : after.Sound := by
  induction moves with
  | refl => exact sound
  | tail _ move inductionHypothesis => exact move.sound inductionHypothesis

/-- Objects keep their keys. -/
lemma Move.kept (move : Move registry after) (made : object < registry.next) :
  object < after.next ∧ after.key object = registry.key object := by
  cases move with
  | make key => exact ⟨Nat.lt_succ_of_lt made, make_key made⟩
  | use | accept | reject | renew | release => exact ⟨made, rfl⟩

lemma Moves.kept (moves : Moves registry after) (made : object < registry.next) :
  object < after.next ∧ after.key object = registry.key object := by
  induction moves with
  | refl => exact ⟨made, rfl⟩
  | tail _ move inductionHypothesis =>
    rcases move.kept inductionHypothesis.1 with ⟨stillMade, same⟩
    exact ⟨stillMade, same.trans inductionHypothesis.2⟩

variable (sound : registry.Sound)
include sound

lemma Sound.onCourse (object : Nat) : phaseOf object registry.history ≠ .astray := by
  intro strayed
  by_cases unmade : registry.next ≤ object
  · rw [sound.unmade_phase object unmade] at strayed
    cases strayed
  by_cases held : object ∈ registry.held
  · rw [sound.held_phase object held] at strayed
    cases strayed
  by_cases waiting : object ∈ registry.pending
  · rw [sound.pending_phase object waiting] at strayed
    cases strayed
  rcases sound.gone_phase object (Nat.lt_of_not_le unmade) held waiting with gone | gone
  · rw [gone] at strayed
    cases strayed
  · rw [gone] at strayed
    cases strayed

lemma Sound.lawful : Lawful BeforeDeletion registry.history :=
  lawful_of_onCourse sound.onCourse

lemma Sound.counted (object : Nat) :
  Counted (deedsOf object registry.history) (phaseOf object registry.history) :=
  counted_phaseOf (sound.onCourse object)

/-- An accepted object which is held was neither ended nor deleted. -/
lemma Sound.held_counts (mem : object ∈ registry.held) :
  registry.history.count (.deed object .ended) = 0 ∧
    registry.history.count (.deed object .deleted) = 0 := by
  have counted := sound.counted object
  rw [sound.held_phase object mem] at counted
  exact ⟨count_deedsOf ▸ counted.endings, count_deedsOf ▸ counted.deletions⟩

/-- One which is not held any more was ended once and deleted once. -/
lemma Sound.accepted_counts
  (accepted : .deed object .accepted ∈ registry.history) (notHeld : object ∉ registry.held) :
  registry.history.count (.deed object .ended) = 1 ∧
    registry.history.count (.deed object .deleted) = 1 := by
  have counted := sound.counted object
  have taken : (phaseOf object registry.history).acceptances ≠ 0 := by
    rw [← counted.acceptances, count_deedsOf]
    exact Nat.ne_of_gt (count_pos_iff.2 accepted)
  have isMade : object < registry.next := by
    refine Nat.lt_of_not_le fun unmade => taken ?_
    rw [sound.unmade_phase object unmade]
    rfl
  have notPending : object ∉ registry.pending := by
    intro waiting
    refine taken ?_
    rw [sound.pending_phase object waiting]
    rfl
  rcases sound.gone_phase object isMade notHeld notPending with gone | gone
  · rw [gone] at counted
    exact ⟨count_deedsOf ▸ counted.endings, count_deedsOf ▸ counted.deletions⟩
  · rw [gone] at taken
    exact absurd rfl taken

/-- One which was refused or merged was deleted once and never ended. -/
lemma Sound.rejected_counts (rejecting : deed = .refused ∨ deed = .merged)
  (rejected : .deed object deed ∈ registry.history) :
  registry.history.count (.deed object .ended) = 0 ∧
    registry.history.count (.deed object .deleted) = 1 := by
  have counted := sound.counted object
  have turnedDown : (phaseOf object registry.history).rejections ≠ 0 := by
    rw [← counted.rejections, count_deedsOf, count_deedsOf]
    have present := count_pos_iff.2 rejected
    rcases rejecting with rfl | rfl
    · exact Nat.ne_of_gt (Nat.add_pos_left present _)
    · exact Nat.ne_of_gt (Nat.add_pos_right _ present)
  have dropped : phaseOf object registry.history = .dropped := by
    by_cases unmade : registry.next ≤ object
    · rw [sound.unmade_phase object unmade] at turnedDown
      exact absurd rfl turnedDown
    by_cases held : object ∈ registry.held
    · rw [sound.held_phase object held] at turnedDown
      exact absurd rfl turnedDown
    by_cases waiting : object ∈ registry.pending
    · rw [sound.pending_phase object waiting] at turnedDown
      exact absurd rfl turnedDown
    rcases sound.gone_phase object (Nat.lt_of_not_le unmade) held waiting with gone | gone
    · rw [gone] at turnedDown
      exact absurd rfl turnedDown
    · exact gone
  rw [dropped] at counted
  exact ⟨count_deedsOf ▸ counted.endings, count_deedsOf ▸ counted.deletions⟩

/-- An object which does not wait was accepted, refused or merged. -/
lemma Sound.decided (isMade : object < registry.next) (notPending : object ∉ registry.pending) :
  .deed object .accepted ∈ registry.history ∨
    .deed object .refused ∈ registry.history ∨ .deed object .merged ∈ registry.history := by
  have counted := sound.counted object
  have decides (phase : Phase) (known : phaseOf object registry.history = phase)
      (decided : phase.acceptances ≠ 0 ∨ phase.rejections ≠ 0) :
      .deed object .accepted ∈ registry.history ∨
        .deed object .refused ∈ registry.history ∨ .deed object .merged ∈ registry.history := by
    rw [known] at counted
    rw [← counted.acceptances, ← counted.rejections, count_deedsOf, count_deedsOf,
      count_deedsOf] at decided
    rcases decided with taken | rejected
    · exact .inl (count_pos_iff.1 (Nat.pos_of_ne_zero taken))
    · right
      rcases Nat.eq_zero_or_pos (registry.history.count (.deed object .refused)) with none | some
      · rw [none, Nat.zero_add] at rejected
        exact .inr (count_pos_iff.1 (Nat.pos_of_ne_zero rejected))
      · exact .inl (count_pos_iff.1 some)
  by_cases held : object ∈ registry.held
  · exact decides .held (sound.held_phase object held) (.inl Nat.one_ne_zero)
  · rcases sound.gone_phase object isMade held notPending with gone | gone
    · exact decides .released gone (.inl Nat.one_ne_zero)
    · exact decides .dropped gone (.inr Nat.one_ne_zero)

end Moves

end Registry

end OTServ.Library.Lifecycles
