import Mathlib.Data.List.Basic

/-!
# Mirrors of an edited list

A list is edited by insertions at its front and by overwriting and deleting
entries.  A mirror that was given the front of the list holds the front of it at
every later time, if it makes the same edits and those of entries which it does
not hold do not hit an entry which it holds.
-/

namespace OTServ.Library.Mirrors

open List

universe u

inductive Edit (Entry : Type u) where
  | insert (entry : Entry)
  | overwrite (index : Nat) (entry : Entry)
  | delete (index : Nat)

variable {Entry : Type u}

namespace Edit

def apply : Edit Entry → List Entry → List Entry
  | insert entry, list => entry :: list
  | overwrite index entry, list => list.set index entry
  | delete index, list => list.eraseIdx index

def index : Edit Entry → Option Nat
  | insert _ => none
  | overwrite index _ => some index
  | delete index => some index

def reindex (index : Nat → Nat) : Edit Entry → Edit Entry
  | insert entry => insert entry
  | overwrite old entry => overwrite (index old) entry
  | delete old => delete (index old)

end Edit

/-- The window is the front of the list, up to a number of entries. -/
structure IsFront (hidden : Nat) (list window : List Entry) : Prop where
  front : ∃ unseen, list = window ++ unseen ∧ unseen.length ≤ hidden

namespace IsFront

variable {hidden : Nat} {list window : List Entry}

/-- As many entries as the window has are those of the window. -/
lemma window_eq (isFront : IsFront hidden list window) : window = list.take window.length := by
  rcases isFront.front with ⟨unseen, rfl, _⟩
  exact take_left.symm

lemma length_le (isFront : IsFront hidden list window) :
  list.length ≤ window.length + hidden := by
  rcases isFront.front with ⟨unseen, rfl, few⟩
  rw [length_append]
  omega

/-- The first entries of a list are a front of it. -/
lemma take (list : List Entry) (limit : Nat) :
  IsFront (list.length - limit) list (list.take limit) where
  front := ⟨list.drop limit, (take_append_drop limit list).symm, Nat.le_of_eq length_drop⟩

/-- Beyond its end nothing is overwritten or deleted. -/
lemma edit_outside {edit : Edit Entry} {index : Nat} (at_index : edit.index = some index)
  (outside : window.length ≤ index) : edit.apply window = window := by
  cases edit with
  | insert entry => cases at_index
  | overwrite other entry =>
    cases at_index
    exact set_eq_of_length_le outside
  | delete other =>
    cases at_index
    exact eraseIdx_of_length_le outside

/-- An edit of an unseen entry leaves the window as the front. -/
lemma edit_unseen (isFront : IsFront hidden list window) {edit : Edit Entry} {index : Nat}
  (at_index : edit.index = some index) (outside : window.length ≤ index) :
  IsFront hidden (edit.apply list) window := by
  rcases isFront.front with ⟨unseen, rfl, few⟩
  cases edit with
  | insert entry => cases at_index
  | overwrite other entry =>
    cases at_index
    refine ⟨⟨unseen.set (index - window.length) entry, ?_, ?_⟩⟩
    · exact set_append_right index entry outside
    · rw [length_set]
      exact few
  | delete other =>
    cases at_index
    refine ⟨⟨unseen.eraseIdx (index - window.length), ?_, ?_⟩⟩
    · exact eraseIdx_append_of_length_le outside unseen
    · exact Nat.le_trans (length_eraseIdx_le unseen _) few

/-- The same edit of the list and of the window leaves the window a front. -/
lemma edit_seen (isFront : IsFront hidden list window) {edit : Edit Entry}
  (inside : ∀ index, edit.index = some index → index < window.length) :
  IsFront hidden (edit.apply list) (edit.apply window) := by
  rcases isFront.front with ⟨unseen, rfl, few⟩
  refine ⟨⟨unseen, ?_, few⟩⟩
  cases edit with
  | insert entry => rfl
  | overwrite index entry =>
    exact set_append_left index entry (inside index rfl)
  | delete index =>
    exact eraseIdx_append_of_lt_length (inside index rfl) unseen

/--
The window follows an edit which it makes at another index, if that is the same
one or neither of them is an index of the window.
-/
lemma edit_reindexed
  (isFront : IsFront hidden list window) (edit : Edit Entry) (reindex : Nat → Nat)
  (right :
    ∀ index,
      edit.index = some index →
        reindex index = index ∨ window.length ≤ index ∧ window.length ≤ reindex index) :
  IsFront hidden (edit.apply list) ((edit.reindex reindex).apply window) := by
  cases at_index : edit.index with
  | none =>
    cases edit with
    | insert entry =>
      apply isFront.edit_seen
      intro _ impossible
      cases impossible
    | overwrite index entry => cases at_index
    | delete index => cases at_index
  | some index =>
    have moved : (edit.reindex reindex).index = some (reindex index) := by
      cases edit with
      | insert entry => cases at_index
      | overwrite other entry =>
        cases at_index
        rfl
      | delete other =>
        cases at_index
        rfl
    by_cases outside : window.length ≤ index ∧ window.length ≤ reindex index
    · rw [edit_outside moved outside.2]
      exact isFront.edit_unseen at_index outside.1
    · have same : reindex index = index := (right index at_index).resolve_right outside
      have inside : index < window.length := by
        by_contra beyond
        apply outside
        rw [same]
        exact ⟨Nat.le_of_not_lt beyond, Nat.le_of_not_lt beyond⟩
      have unchanged : edit.reindex reindex = edit := by
        cases edit with
        | insert entry => rfl
        | overwrite other entry =>
          cases at_index
          rw [Edit.reindex, same]
        | delete other =>
          cases at_index
          rw [Edit.reindex, same]
      rw [unchanged]
      apply isFront.edit_seen
      intro other also
      rw [at_index] at also
      cases also
      exact inside

end IsFront

end OTServ.Library.Mirrors
