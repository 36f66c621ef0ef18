import OTServ.Library.GuardedRuns
import Mathlib.Data.List.Nodup
import Mathlib.Data.List.Perm.Basic

/-!
# The creatures that are checked

Every creature that is to think stands in one of ten vectors, whose number it
remembers.  A pass of `checkCreatures` goes through one vector by its slots, and the
creatures whose turn it is may add and remove others or themselves; the slot of a
creature that is removed gets the last one of the vector.

A pass is cut into its turns, since what a creature does in its turn depends on the
state.  The records of a pass are kept beside it.
-/

namespace OTServ.Scheduling

open Library.GuardedRuns
open List Function Option

/-! ## The vectors -/

def EVENT_CREATURECOUNT : Nat := 10

/-- A pass of `checkCreatures`, and what is recorded of it. -/
structure CheckPass where
  /-- the slots that have had their turn -/
  i : Nat
  /-- the creatures that have been in the vector since the pass began -/
  belonging : List Nat
  thought : List Nat
  /-- those that were found without health -/
  dying : List Nat
deriving DecidableEq

def CheckPass.remove (pass : CheckPass) (creature : Nat) : CheckPass :=
  { pass with belonging := pass.belonging.erase creature }

structure CreatureChecks where
  checkCreatureVectors : Nat → List Nat
  checkCreatureLastIndex : Nat
  checkCreatureVectorIndex : Nat → Nat
  /-- the pass that is running -/
  pass : Option CheckPass
  /-- the pass that has ended last -/
  ended : Option CheckPass

variable {creature : Nat} {before vector : List Nat}

namespace CreatureChecks

def initial : CreatureChecks where
  checkCreatureVectors _ := []
  checkCreatureLastIndex := 0
  checkCreatureVectorIndex _ := 0
  pass := none
  ended := none

def addCreatureCheck (checks : CreatureChecks) (creature : Nat) : CreatureChecks :=
  if checks.checkCreatureVectorIndex creature ≠ 0 then checks
  else
    let next_vector := (checks.checkCreatureLastIndex + 1) % EVENT_CREATURECOUNT
    { checks with
      checkCreatureVectors :=
        update checks.checkCreatureVectors next_vector
          (checks.checkCreatureVectors next_vector ++ [creature])
      checkCreatureVectorIndex :=
        update checks.checkCreatureVectorIndex creature (next_vector + 1) }

def swapPop (creature : Nat) (vector : List Nat) : List Nat :=
  match vector.getLast? with
  | some back =>
    if creature ∈ vector then (vector.set (vector.idxOf creature) back).dropLast
    else vector
  | none => vector

def removeCreatureCheck (checks : CreatureChecks) (creature : Nat) : CreatureChecks :=
  if checks.checkCreatureVectorIndex creature = 0 then checks
  else
    let vector := checks.checkCreatureVectorIndex creature - 1
    { checks with
      checkCreatureVectors :=
        update checks.checkCreatureVectors vector
          (swapPop creature (checks.checkCreatureVectors vector))
      checkCreatureVectorIndex := update checks.checkCreatureVectorIndex creature 0
      pass := checks.pass.map fun pass => pass.remove creature }

/-- `checkCreatures` up to its loop. -/
def checkCreatures (checks : CreatureChecks) : CreatureChecks :=
  let last :=
    if checks.checkCreatureLastIndex + 1 = EVENT_CREATURECOUNT then 0
    else checks.checkCreatureLastIndex + 1
  { checks with
    checkCreatureLastIndex := last
    pass := some ⟨0, checks.checkCreatureVectors last, [], []⟩ }

def checkCreatureVector (checks : CreatureChecks) : List Nat :=
  checks.checkCreatureVectors checks.checkCreatureLastIndex

def turn (checks : CreatureChecks) (getHealth : Int) : CreatureChecks :=
  match checks.pass with
  | none => checks
  | some pass =>
    match checks.checkCreatureVector[pass.i]? with
    | some creature =>
      { checks with
        pass := some
          (if 0 < getHealth then
            { pass with i := pass.i + 1, thought := pass.thought ++ [creature] }
          else
            { pass with i := pass.i + 1, dying := pass.dying ++ [creature] }) }
    | none => { checks with pass := none, ended := some pass }

inductive Operation where
  | addCreatureCheck (creature : Nat)
  | removeCreatureCheck (creature : Nat)
  | checkCreatures
  | turn (getHealth : Int)
deriving DecidableEq

def step (checks : CreatureChecks) : Operation → CreatureChecks
  | .addCreatureCheck creature => checks.addCreatureCheck creature
  | .removeCreatureCheck creature => checks.removeCreatureCheck creature
  | .checkCreatures => if checks.pass.isSome then checks else checks.checkCreatures
  | .turn getHealth => checks.turn getHealth

lemma swapPop_last (first : creature ∉ before) :
  swapPop creature (before ++ [creature]) = before := by
  have place : (before ++ [creature]).idxOf creature = before.length := by
    rw [idxOf_append_of_notMem first, idxOf_cons_self, Nat.add_zero]
  unfold swapPop
  rw [List.getLast?_concat]
  dsimp only
  rw [if_pos (mem_append_right _ (mem_singleton_self _)), place,
    set_append_right _ _ (Nat.le_refl _), Nat.sub_self, set_cons_zero,
    dropLast_concat]

lemma swapPop_concat {back : Nat} {after : List Nat} (first : creature ∉ before) :
  swapPop creature (before ++ creature :: (after ++ [back])) = before ++ back :: after := by
  have place : (before ++ creature :: (after ++ [back])).idxOf creature = before.length := by
    rw [idxOf_append_of_notMem first, idxOf_cons_self, Nat.add_zero]
  have concat : before ++ creature :: (after ++ [back]) =
      (before ++ creature :: after) ++ [back] := by
    simp
  have inside : creature ∈ before ++ creature :: (after ++ [back]) :=
    mem_append_right _ mem_cons_self
  unfold swapPop
  rw [show (before ++ creature :: (after ++ [back])).getLast? = some back by
    rw [concat, List.getLast?_concat]]
  dsimp only
  rw [if_pos inside, place, set_append_right _ _ (Nat.le_refl _), Nat.sub_self,
    set_cons_zero, ← cons_append, ← append_assoc, dropLast_concat]

lemma swapPop_absent (absent : creature ∉ vector) : swapPop creature vector = vector := by
  unfold swapPop
  cases vector.getLast? with
  | none => rfl
  | some back => exact if_neg absent

lemma swapPop_perm (creature : Nat) (vector : List Nat) :
  (swapPop creature vector).Perm (vector.erase creature) := by
  by_cases inside : creature ∈ vector
  · obtain ⟨before, rest, rfl, first⟩ := eq_append_cons_of_mem inside
    rw [erase_append_right _ first, erase_cons_head]
    rcases eq_nil_or_concat rest with rfl | ⟨after, back, rfl⟩
    · rw [swapPop_last first, append_nil]
    · rw [concat_eq_append, swapPop_concat first]
      exact (perm_append_singleton back after).symm.append_left before
  · rw [swapPop_absent inside, erase_of_not_mem inside]

lemma swapPop_take {i : Nat} (inside : creature ∈ vector) (ahead : i ≤ vector.idxOf creature) :
  (swapPop creature vector).take i = vector.take i := by
  obtain ⟨before, rest, rfl, first⟩ := eq_append_cons_of_mem inside
  rw [idxOf_append_of_notMem first, idxOf_cons_self, Nat.add_zero] at ahead
  rw [take_append_of_le_length ahead]
  rcases eq_nil_or_concat rest with rfl | ⟨after, back, rfl⟩
  · rw [swapPop_last first]
  · rw [concat_eq_append, swapPop_concat first, take_append_of_le_length ahead]

lemma swapPop_drop {i : Nat} (inside : creature ∈ vector) (ahead : i ≤ vector.idxOf creature) :
  (swapPop creature vector).drop i ⊆ vector.drop i := by
  obtain ⟨before, rest, rfl, first⟩ := eq_append_cons_of_mem inside
  rw [idxOf_append_of_notMem first, idxOf_cons_self, Nat.add_zero] at ahead
  intro other mem
  rw [drop_append_of_le_length ahead, mem_append]
  rcases eq_nil_or_concat rest with rfl | ⟨after, back, rfl⟩
  · rw [swapPop_last first] at mem
    exact Or.inl mem
  · rw [concat_eq_append] at mem ⊢
    rw [swapPop_concat first, drop_append_of_le_length ahead, mem_append] at mem
    rcases mem with early | late
    · exact Or.inl early
    · refine Or.inr (mem_cons_of_mem _ ?_)
      rw [mem_append, mem_singleton]
      rcases mem_cons.mp late with same | later
      · exact Or.inr same
      · exact Or.inl later

/-! ## The invariant -/

structure Turns (pass : CheckPass) (vector : List Nat) : Prop where
  belongs : pass.belonging.Perm vector
  taken : ∀ c ∈ vector.take pass.i, (pass.thought ++ pass.dying).count c = 1
  waiting : ∀ c ∈ vector.drop pass.i, (pass.thought ++ pass.dying).count c = 0

/-- What is promised of the vectors and of the pass that has ended last. -/
structure Checked (checks : CreatureChecks) : Prop where
  /-- a creature has the number of a vector iff it stands in it -/
  listed :
    ∀ creature k, checks.checkCreatureVectorIndex creature = k + 1 ↔
      creature ∈ checks.checkCreatureVectors k
  /-- and stands there once -/
  once : ∀ k, (checks.checkCreatureVectors k).Nodup
  /-- a creature that was in the vector all the time had one turn -/
  turned :
    ∀ pass, checks.ended = some pass →
      ∀ creature ∈ pass.belonging, pass.thought.count creature + pass.dying.count creature = 1

/--
While a pass runs, no creature is removed from a slot that has had its turn, unless all
have.
-/
def RemovesAhead (checks : CreatureChecks) : Operation → Prop
  | .removeCreatureCheck creature =>
    ∀ pass, checks.pass = some pass → creature ∈ checks.checkCreatureVector →
      pass.i ≤ checks.checkCreatureVector.idxOf creature ∨
        checks.checkCreatureVector.length ≤ pass.i
  | _ => True

structure Kept (checks : CreatureChecks) : Prop extends Checked checks where
  running : ∀ pass, checks.pass = some pass → Turns pass checks.checkCreatureVector

section Steps

variable {checks : CreatureChecks}

lemma next_vector_ne :
  (checks.checkCreatureLastIndex + 1) % EVENT_CREATURECOUNT ≠
    checks.checkCreatureLastIndex := by
  unfold EVENT_CREATURECOUNT
  omega

lemma Kept.addCreatureCheck (kept : Kept checks) (creature : Nat) :
  Kept (checks.addCreatureCheck creature) := by
  unfold CreatureChecks.addCreatureCheck
  split_ifs with checked
  · exact kept
  · rw [not_not] at checked
    have absent : ∀ k, creature ∉ checks.checkCreatureVectors k := by
      intro k mem
      have index := (kept.listed creature k).mpr mem
      rw [checked] at index
      cases index
    refine
      { turned := kept.turned
        listed := ?_
        once := ?_
        running := ?_ }
    · intro other k
      dsimp only
      by_cases same : other = creature
      · rw [same, update_self, Nat.add_right_cancel_iff]
        by_cases vector : k = (checks.checkCreatureLastIndex + 1) % EVENT_CREATURECOUNT
        · rw [vector, update_self]
          exact iff_of_true rfl (mem_append_right _ (mem_singleton_self _))
        · rw [update_of_ne vector]
          exact iff_of_false (Ne.symm vector) (absent k)
      · rw [update_of_ne same, kept.listed]
        by_cases vector : k = (checks.checkCreatureLastIndex + 1) % EVENT_CREATURECOUNT
        · rw [vector, update_self, mem_append, mem_singleton, or_iff_left same]
        · rw [update_of_ne vector]
    · intro k
      dsimp only
      by_cases vector : k = (checks.checkCreatureLastIndex + 1) % EVENT_CREATURECOUNT
      · rw [vector, update_self]
        refine (kept.once _).append (nodup_singleton _) ?_
        intro other old new
        rw [mem_singleton] at new
        exact absent _ (new ▸ old)
      · rw [update_of_ne vector]
        exact kept.once k
    · intro pass running
      have turns := kept.running pass running
      unfold checkCreatureVector at turns ⊢
      dsimp only
      rw [update_of_ne (Ne.symm next_vector_ne)]
      exact turns

lemma Turns.remove {pass : CheckPass} (turns : Turns pass vector) (inside : creature ∈ vector)
  (ahead : pass.i ≤ vector.idxOf creature ∨ vector.length ≤ pass.i) :
  Turns (pass.remove creature) (swapPop creature vector) where
  belongs := (turns.belongs.erase creature).trans (swapPop_perm creature vector).symm
  taken := by
    intro other mem
    rcases ahead with waits | through
    · have same := swapPop_take inside waits
      exact turns.taken other (same ▸ mem)
    · refine turns.taken other ?_
      rw [take_of_length_le through]
      exact mem_of_mem_erase ((swapPop_perm creature vector).mem_iff.mp (mem_of_mem_take mem))
  waiting := by
    intro other mem
    rcases ahead with waits | through
    · exact turns.waiting other (swapPop_drop inside waits mem)
    · have shorter : (swapPop creature vector).length ≤ pass.i := by
        rw [(swapPop_perm creature vector).length_eq]
        exact Nat.le_trans length_erase_le through
      have nothing : (swapPop creature vector).drop pass.i = [] := drop_eq_nil_of_le shorter
      have inNothing : other ∈ (swapPop creature vector).drop pass.i := mem
      rw [nothing] at inNothing
      cases inNothing

variable (kept : Kept checks)
include kept

lemma Kept.removeCreatureCheck (ahead : RemovesAhead checks (.removeCreatureCheck creature)) :
  Kept (checks.removeCreatureCheck creature) := by
  unfold CreatureChecks.removeCreatureCheck
  split_ifs with unchecked
  · exact kept
  · obtain ⟨vector, index⟩ := Nat.exists_eq_succ_of_ne_zero unchecked
    rw [Nat.succ_eq_add_one] at index
    have inside := (kept.listed creature vector).mp index
    rw [index, Nat.add_sub_cancel]
    have elsewhere : ∀ k, k ≠ vector → creature ∉ checks.checkCreatureVectors k := by
      intro k ne mem
      have other := (kept.listed creature k).mpr mem
      rw [index, Nat.add_right_cancel_iff] at other
      exact ne other.symm
    refine
      { turned := kept.turned
        listed := ?_
        once := ?_
        running := ?_ }
    · intro other k
      dsimp only
      by_cases same : other = creature
      · rw [same, update_self]
        refine iff_of_false nofun ?_
        by_cases here : k = vector
        · rw [here, update_self, (swapPop_perm _ _).mem_iff, (kept.once vector).mem_erase_iff]
          exact fun both => both.1 rfl
        · rw [update_of_ne here]
          exact elsewhere k here
      · rw [update_of_ne same, kept.listed]
        by_cases here : k = vector
        · rw [here, update_self, (swapPop_perm _ _).mem_iff, mem_erase_of_ne same]
        · rw [update_of_ne here]
    · intro k
      dsimp only
      by_cases here : k = vector
      · rw [here, update_self, (swapPop_perm _ _).nodup_iff]
        exact (kept.once vector).erase creature
      · rw [update_of_ne here]
        exact kept.once k
    · intro removed running
      rw [map_eq_some_iff] at running
      obtain ⟨pass, running, rfl⟩ := running
      have turns := kept.running pass running
      have guarded := ahead pass running
      unfold checkCreatureVector at turns guarded ⊢
      dsimp only
      by_cases here : checks.checkCreatureLastIndex = vector
      · rw [here] at turns guarded ⊢
        rw [update_self]
        exact turns.remove inside (guarded inside)
      · rw [update_of_ne here]
        have absent := elsewhere _ here
        have kept : pass.belonging.erase creature = pass.belonging :=
          erase_of_not_mem fun mem => absent (turns.belongs.mem_iff.mp mem)
        unfold CheckPass.remove
        rw [kept]
        exact turns

lemma Kept.checkCreatures : Kept checks.checkCreatures where
  __ := kept
  running := by
    rintro pass ⟨⟩
    exact ⟨List.Perm.refl _, nofun, fun _ _ => count_nil⟩

lemma Kept.turn (getHealth : Int) : Kept (checks.turn getHealth) := by
  unfold CreatureChecks.turn
  cases running : checks.pass with
  | none => exact kept
  | some pass =>
    have turns := kept.running pass running
    dsimp only
    cases found : checks.checkCreatureVector[pass.i]? with
    | none =>
      have through : checks.checkCreatureVector.length ≤ pass.i := List.getElem?_eq_none_iff.mp found
      refine { kept with turned := ?_, running := nofun }
      rintro _ ⟨⟩ creature belongs
      have inside := turns.belongs.mem_iff.mp belongs
      rw [← take_of_length_le through] at inside
      have once := turns.taken creature inside
      rw [count_append] at once
      exact once
    | some creature =>
      dsimp only
      obtain ⟨within, value⟩ := List.getElem?_eq_some_iff.mp found
      have split : checks.checkCreatureVector.drop pass.i =
          creature :: checks.checkCreatureVector.drop (pass.i + 1) := by
        rw [← value, getElem_cons_drop]
      have front : checks.checkCreatureVector.take (pass.i + 1) =
          checks.checkCreatureVector.take pass.i ++ [creature] := by
        rw [take_add_one, found, toList_some]
      have distinct := kept.once checks.checkCreatureLastIndex
      have whole : checks.checkCreatureVector =
          checks.checkCreatureVector.take pass.i ++
            creature :: checks.checkCreatureVector.drop (pass.i + 1) := by
        rw [← split, take_append_drop]
      rw [show checks.checkCreatureVectors checks.checkCreatureLastIndex =
        checks.checkCreatureVector from rfl, whole, nodup_middle,
        nodup_cons, mem_append, not_or] at distinct
      have none_ := turns.waiting creature (split ▸ mem_cons_self)
      have stepped : ∀ records : List Nat,
          (∀ other, records.count other = (pass.thought ++ pass.dying).count other +
            [creature].count other) →
          (∀ c ∈ checks.checkCreatureVector.take (pass.i + 1), records.count c = 1) ∧
            ∀ c ∈ checks.checkCreatureVector.drop (pass.i + 1), records.count c = 0 := by
        intro records counts
        refine ⟨?_, ?_⟩
        · intro other mem
          rw [front, mem_append, mem_singleton] at mem
          rw [counts]
          rcases mem with early | rfl
          · have ne : other ≠ creature := by
              rintro rfl
              exact distinct.1.1 early
            rw [turns.taken other early, count_eq_zero.mpr (by simpa using ne)]
          · rw [none_, count_singleton_self]
        · intro other mem
          have ne : other ≠ creature := by
            rintro rfl
            exact distinct.1.2 mem
          rw [counts, turns.waiting other (split ▸ mem_cons_of_mem _ mem),
            count_eq_zero.mpr (by simpa using ne)]
      refine { kept with running := ?_ }
      rintro _ ⟨⟩
      split_ifs
      · obtain ⟨taken, waiting⟩ := stepped
          ((pass.thought ++ [creature]) ++ pass.dying) fun other => by
            rw [count_append, count_append, count_append]
            omega
        exact ⟨turns.belongs, taken, waiting⟩
      · obtain ⟨taken, waiting⟩ := stepped
          (pass.thought ++ (pass.dying ++ [creature])) fun other => by
            rw [count_append, count_append, count_append]
            omega
        exact ⟨turns.belongs, taken, waiting⟩

lemma Kept.step {operation : Operation} (ahead : RemovesAhead checks operation) :
  Kept (checks.step operation) := by
  cases operation with
  | addCreatureCheck creature => exact kept.addCreatureCheck creature
  | removeCreatureCheck creature => exact kept.removeCreatureCheck ahead
  | checkCreatures =>
    unfold CreatureChecks.step
    split_ifs
    · exact kept
    · exact kept.checkCreatures
  | turn getHealth => exact kept.turn getHealth

end Steps

lemma initial_kept : Kept initial where
  listed _ _ := ⟨nofun, nofun⟩
  once _ := nodup_nil
  turned := nofun
  running := nofun

/-- In every run that removes ahead, vectors and numbers agree, and nobody is skipped. -/
theorem checked_of_removesAhead {checks : CreatureChecks}
  (run :
    Reaches (fun checks operation next => next = CreatureChecks.step checks operation)
      RemovesAhead initial checks) : checks.Checked := by
  have kept : Kept checks :=
    run.invariant initial_kept fun state operation next kept ahead taken => taken ▸ kept.step ahead
  exact kept.toChecked

instance (checks : CreatureChecks) (operation : Operation) :
  Decidable (RemovesAhead checks operation) :=
  match operation, running : checks.pass with
  | .removeCreatureCheck creature, some pass =>
    decidable_of_iff
      (creature ∈ checks.checkCreatureVector →
        pass.i ≤ checks.checkCreatureVector.idxOf creature ∨
          checks.checkCreatureVector.length ≤ pass.i)
      ⟨fun holds _ same => by
          rw [running] at same
          cases same
          exact holds,
        fun holds => holds pass running⟩
  | .removeCreatureCheck _, none =>
    isTrue fun _ same => by
      rw [running] at same
      cases same
  | .addCreatureCheck _, _ | .checkCreatures, _ | .turn _, _ => isTrue trivial

/-- Two creatures are in the vector whose turn it is, and the second one is removed. -/
def removedAhead : List Operation :=
  [.addCreatureCheck 0, .addCreatureCheck 1, .checkCreatures, .turn 100,
    .removeCreatureCheck 1, .turn 0]

theorem checked_removedAhead : (removedAhead.foldl CreatureChecks.step initial).Checked :=
  checked_of_removesAhead (Reaches.refl.of_allowed removedAhead (by decide))

def removedItself : List Operation :=
  [.addCreatureCheck 0, .addCreatureCheck 1, .checkCreatures, .turn 100,
    .removeCreatureCheck 0, .turn 100]

/-- The last creature takes the slot of one that removes itself, and has no turn. -/
theorem removedItself_skips :
  ¬ ∀ checks,
    Reaches (fun checks operation next => next = CreatureChecks.step checks operation)
      Always initial checks → checks.Checked := by
  intro always
  have ends := always _ (Reaches.of_list initial removedItself)
  have ended : (removedItself.foldl CreatureChecks.step initial).ended =
      some ⟨1, [1], [0], []⟩ := by
    decide
  have turned := ends.turned _ ended 1 (mem_singleton_self 1)
  cases turned

end CreatureChecks

end OTServ.Scheduling
