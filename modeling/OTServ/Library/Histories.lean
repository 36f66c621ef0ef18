import Mathlib.Data.List.Basic

/-!
# Histories

A history is the list of what has happened, the latest last.  A rule judges every
occurrence by what had happened before it; a history is lawful if the rule holds of
all of its occurrences.  Appending an occurrence which meets the rule keeps the
history lawful.
-/

namespace OTServ.Library.Histories

open List

universe u

variable {Occurrence : Type u}

/-- Every occurrence meets the rule with what was before it. -/
def Lawful (rule : List Occurrence → Occurrence → Prop) (history : List Occurrence) : Prop :=
  ∀ before occurrence after, history = before ++ occurrence :: after → rule before occurrence

section Rules

variable {rule : List Occurrence → Occurrence → Prop} {history : List Occurrence}
  {occurrence other : Occurrence}

lemma lawful_nil : Lawful rule [] := by
  intro before occurrence after split
  exact absurd split.symm (append_ne_nil_of_right_ne_nil before (cons_ne_nil occurrence after))

/-- A later history is judged by the occurrence which is new. -/
lemma lawful_snoc_iff :
  Lawful rule (history ++ [occurrence]) ↔ Lawful rule history ∧ rule history occurrence := by
  constructor
  · intro lawful
    refine ⟨fun before other after split => ?_, ?_⟩
    · refine lawful before other (after ++ [occurrence]) ?_
      rw [split, append_assoc, cons_append]
    · exact lawful history occurrence [] rfl
  · rintro ⟨lawful, now⟩ before other after split
    rcases eq_nil_or_concat after with rfl | ⟨rest, last, rfl⟩
    · rcases append_inj' split rfl with ⟨rfl, same⟩
      rw [List.cons.injEq] at same
      rw [← same.1]
      exact now
    · have regrouped : history ++ [occurrence] = (before ++ other :: rest) ++ [last] := by
        rw [split, append_assoc, cons_append, concat_eq_append]
      rcases append_inj' regrouped rfl with ⟨same, -⟩
      exact lawful before other rest same

/-- Of two occurrences one was before the other. -/
lemma mem_before_or {before after otherBefore otherAfter : List Occurrence}
  (split : history = before ++ occurrence :: after)
  (otherSplit : history = otherBefore ++ other :: otherAfter) (ne : occurrence ≠ other) :
  other ∈ before ∨ occurrence ∈ otherBefore := by
  rw [split] at otherSplit
  rcases append_eq_append_iff.1 otherSplit with ⟨between, rfl, same⟩ | ⟨between, rfl, same⟩
  · rcases cons_eq_append_iff.1 same with ⟨rfl, starts⟩ | ⟨rest, rfl, -⟩
    · exact absurd (List.cons.inj starts).1.symm ne
    · exact Or.inr (mem_append_right _ mem_cons_self)
  · rcases cons_eq_append_iff.1 same with ⟨rfl, starts⟩ | ⟨rest, rfl, -⟩
    · exact absurd (List.cons.inj starts).1 ne
    · exact Or.inl (mem_append_right _ mem_cons_self)

/-- What may not happen again happens at most once. -/
lemma Lawful.countP_le_one (lawful : Lawful rule history) (such : Occurrence → Bool)
  (single :
    ∀ before occurrence, such occurrence = true →
      rule before occurrence → ∀ other ∈ before, ¬ such other = true) :
  history.countP such ≤ 1 := by
  by_contra more
  have some : 0 < history.countP such := by omega
  rcases countP_pos_iff.1 some with ⟨first, happened, isSuch⟩
  rcases append_of_mem happened with ⟨before, after, rfl⟩
  have noneBefore : before.countP such = 0 :=
    countP_eq_zero.2 (single before first isSuch (lawful before first after rfl))
  rw [countP_append, countP_cons_of_pos isSuch, noneBefore] at more
  have again : 0 < after.countP such := by omega
  rcases countP_pos_iff.1 again with ⟨second, later, isSuch'⟩
  rcases append_of_mem later with ⟨between, rest, rfl⟩
  have regrouped :
      before ++ first :: (between ++ second :: rest) =
        (before ++ first :: between) ++ second :: rest := by
    rw [append_assoc, cons_append]
  exact single _ second isSuch' (lawful _ second rest regrouped) first
    (mem_append_right before mem_cons_self) isSuch

end Rules

end OTServ.Library.Histories
