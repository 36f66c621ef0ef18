import Mathlib.Data.List.Basic

/-!
# Escaped texts

In a text some letters are stops: they end a stretch of letters.  A stretch may
hold any letter all the same, when an escape letter stands before it.  The escape
letter is no stop, and it is itself escaped.

`Marks.escaped` writes a stretch and `Marks.unescaped` undoes it.  `Marks.Body` are
the stretches which a reader takes as a whole: every escape letter has a letter
behind it, and no stop stands open.  In a text the first stop which stands open
divides it in one way only (`Marks.Body.split_unique`).
-/

namespace OTServ.Library.Escaping

open List Option

universe u

variable {α : Type u} [DecidableEq α]

structure Marks (α : Type u) where
  escape : α
  stops : α → Bool
  escape_open : stops escape = false

variable {letter : α} {letters : List α}

namespace Marks

variable (marks : Marks α)

def special (letter : α) : Bool :=
  letter == marks.escape || marks.stops letter

def escaped : List α → List α
  | [] => []
  | letter :: letters =>
    if marks.special letter then marks.escape :: letter :: escaped letters
    else letter :: escaped letters

/-- The letters which were written; nothing where a last escape stands alone. -/
def unescaped : List α → Option (List α)
  | [] => some []
  | letter :: letters =>
    if letter = marks.escape then
      match letters with
      | [] => none
      | next :: letters => (unescaped letters).map (next :: ·)
    else (unescaped letters).map (letter :: ·)

/-- What a reader takes before it comes to a stop. -/
inductive Body : List α → Prop
  | nil : Body []
  | pair (letter : α) {letters : List α} :
      Body letters → Body (marks.escape :: letter :: letters)
  | plain {letter : α} {letters : List α} :
      marks.special letter = false → Body letters → Body (letter :: letters)

/--
The first letter which is not the escape letter exists and is no stop: then one
escape letter more in front is read as part of it.
-/
def Absorbs : List α → Bool
  | [] => false
  | letter :: letters =>
    if letter = marks.escape then Absorbs letters
    else !marks.stops letter

variable {marks}

lemma special_eq_false :
  marks.special letter = false ↔ letter ≠ marks.escape ∧ marks.stops letter = false := by
  rw [special, Bool.or_eq_false_iff, beq_eq_false_iff_ne]

lemma special_escape : marks.special marks.escape = true := by
  simp [special]

lemma special_of_stops (stops : marks.stops letter = true) : marks.special letter = true := by
  simp [special, stops]

omit [DecidableEq α] in
lemma ne_escape_of_stops (stops : marks.stops letter = true) : letter ≠ marks.escape := by
  rintro rfl
  rw [marks.escape_open] at stops
  exact Bool.noConfusion stops

@[simp]
lemma escaped_nil : marks.escaped [] = [] := rfl

lemma escaped_special (special : marks.special letter = true) (letters : List α) :
  marks.escaped (letter :: letters) = marks.escape :: letter :: marks.escaped letters := by
  rw [escaped, if_pos special]

lemma escaped_plain (plain : marks.special letter = false) (letters : List α) :
  marks.escaped (letter :: letters) = letter :: marks.escaped letters := by
  rw [escaped, plain, if_neg Bool.false_ne_true]

lemma escaped_append (first second : List α) :
  marks.escaped (first ++ second) = marks.escaped first ++ marks.escaped second := by
  induction first with
  | nil => rfl
  | cons letter letters ih =>
    cases special : marks.special letter with
    | true =>
      rw [cons_append, escaped_special special, ih,
        escaped_special special, cons_append, cons_append]
    | false =>
      rw [cons_append, escaped_plain special, ih, escaped_plain special, cons_append]

@[simp]
lemma unescaped_nil : marks.unescaped [] = some [] := by
  rw [unescaped]

@[simp]
lemma unescaped_pair (letter : α) (letters : List α) :
  marks.unescaped (marks.escape :: letter :: letters) =
    (marks.unescaped letters).map (letter :: ·) := by
  rw [unescaped, if_pos rfl]

lemma unescaped_other (other : letter ≠ marks.escape) (letters : List α) :
  marks.unescaped (letter :: letters) = (marks.unescaped letters).map (letter :: ·) := by
  rw [unescaped.eq_def]
  exact if_neg other

lemma unescaped_escaped (letters : List α) :
  marks.unescaped (marks.escaped letters) = some letters := by
  induction letters with
  | nil => rw [escaped_nil, unescaped_nil]
  | cons letter letters ih =>
    cases special : marks.special letter with
    | true => rw [escaped_special special, unescaped_pair, ih, map_some]
    | false =>
      have other := (special_eq_false.1 special).1
      rw [escaped_plain special, unescaped_other other, ih, map_some]

/-! ## Bodies -/

lemma Body.append {first second : List α} (body : marks.Body first) (next : marks.Body second) :
  marks.Body (first ++ second) := by
  induction body with
  | nil => exact next
  | pair letter _ ih => exact .pair letter ih
  | plain ordinary _ ih => exact .plain ordinary ih

lemma body_escaped (letters : List α) : marks.Body (marks.escaped letters) := by
  induction letters with
  | nil => exact .nil
  | cons letter letters ih =>
    cases special : marks.special letter with
    | true =>
      rw [escaped_special special]
      exact .pair letter ih
    | false =>
      rw [escaped_plain special]
      exact .plain special ih

lemma Body.unescaped_some
  (body : marks.Body letters) : ∃ read, marks.unescaped letters = some read := by
  induction body with
  | nil => exact ⟨[], unescaped_nil⟩
  | pair letter _ ih =>
    rcases ih with ⟨read, found⟩
    exact ⟨letter :: read, by rw [unescaped_pair, found, map_some]⟩
  | @plain letter _ ordinary _ ih =>
    rcases ih with ⟨read, found⟩
    have other := (special_eq_false.1 ordinary).1
    exact ⟨letter :: read, by rw [unescaped_other other, found, map_some]⟩

/-- The stop which ends a stretch is found in one place only. -/
lemma Body.split_unique {first second : List α} (body : marks.Body first)
  (other : marks.Body second) {stop stop' : α} {rest rest' : List α}
  (stops : marks.stops stop = true) (stops' : marks.stops stop' = true)
  (same : first ++ stop :: rest = second ++ stop' :: rest') :
  first = second ∧ stop = stop' ∧ rest = rest' := by
  induction body generalizing second with
  | nil =>
    cases other with
    | nil =>
      rcases List.cons.inj same with ⟨heads, tails⟩
      exact ⟨rfl, heads, tails⟩
    | pair letter _ =>
      have heads := (List.cons.inj same).1
      exact absurd heads (ne_escape_of_stops stops)
    | plain ordinary _ =>
      have heads := (List.cons.inj same).1
      rw [← heads, special_of_stops stops] at ordinary
      exact Bool.noConfusion ordinary
  | pair letter _ ih =>
    cases other with
    | nil =>
      have heads := (List.cons.inj same).1
      exact absurd heads.symm (ne_escape_of_stops stops')
    | pair letter' others =>
      rcases List.cons.inj same with ⟨_, tails⟩
      rcases List.cons.inj tails with ⟨letters, tails⟩
      rcases ih others tails with ⟨equal, stop_equal, rest_equal⟩
      exact ⟨by rw [letters, equal], stop_equal, rest_equal⟩
    | plain ordinary _ =>
      have heads := (List.cons.inj same).1
      rw [← heads, special_escape] at ordinary
      exact Bool.noConfusion ordinary
  | plain ordinary _ ih =>
    cases other with
    | nil =>
      have heads := (List.cons.inj same).1
      rw [heads, special_of_stops stops'] at ordinary
      exact Bool.noConfusion ordinary
    | pair letter' _ =>
      have heads := (List.cons.inj same).1
      rw [heads, special_escape] at ordinary
      exact Bool.noConfusion ordinary
    | plain _ others =>
      rcases List.cons.inj same with ⟨heads, tails⟩
      rcases ih others tails with ⟨equal, stop_equal, rest_equal⟩
      exact ⟨by rw [heads, equal], stop_equal, rest_equal⟩

/-- A text has a first stop which stands open, or it is one open stretch. -/
lemma split_or_open (letters : List α) :
  ∃ body, marks.Body body ∧
    (letters = body ∨ letters = body ++ [marks.escape] ∨
      ∃ stop rest, marks.stops stop = true ∧ letters = body ++ stop :: rest) := by
  induction length : letters.length using Nat.strongRecOn generalizing letters with
  | _ size ih =>
    cases letters with
    | nil => exact ⟨[], .nil, .inl rfl⟩
    | cons letter letters =>
      by_cases escape : letter = marks.escape
      · subst escape
        cases letters with
        | nil => exact ⟨[], .nil, .inr (.inl rfl)⟩
        | cons next letters =>
          have shorter : letters.length < size := by
            rw [← length, length_cons, length_cons]
            omega
          rcases ih _ shorter letters rfl with ⟨body, whole, found⟩
          refine ⟨_, .pair next whole, ?_⟩
          rcases found with rfl | rfl | ⟨stop, rest, stops, rfl⟩
          · exact .inl rfl
          · exact .inr (.inl rfl)
          · exact .inr (.inr ⟨stop, rest, stops, rfl⟩)
      cases stops : marks.stops letter with
      | true => exact ⟨[], .nil, .inr (.inr ⟨letter, letters, stops, rfl⟩)⟩
      | false =>
        have shorter : letters.length < size := by
          rw [← length, length_cons]
          omega
        rcases ih _ shorter letters rfl with ⟨body, whole, found⟩
        refine ⟨_, .plain (special_eq_false.2 ⟨escape, stops⟩) whole, ?_⟩
        rcases found with rfl | rfl | ⟨stop, rest, stops, rfl⟩
        · exact .inl rfl
        · exact .inr (.inl rfl)
        · exact .inr (.inr ⟨stop, rest, stops, rfl⟩)

lemma absorbs_escape (letters : List α) :
  marks.Absorbs (marks.escape :: letters) = marks.Absorbs letters := by
  rw [Absorbs, if_pos rfl]

lemma absorbs_other (other : letter ≠ marks.escape) (letters : List α) :
  marks.Absorbs (letter :: letters) = !marks.stops letter := by
  rw [Absorbs, if_neg other]

lemma Absorbs.body (absorbs : marks.Absorbs letters = true) :
  marks.Body (marks.escape :: marks.escaped letters) ∧
    marks.unescaped (marks.escape :: marks.escaped letters) = some letters := by
  induction letters with
  | nil => exact Bool.noConfusion absorbs
  | cons letter letters ih =>
    by_cases escape : letter = marks.escape
    · subst escape
      rw [absorbs_escape] at absorbs
      rcases ih absorbs with ⟨body, read⟩
      rw [escaped_special special_escape, unescaped_pair, read]
      exact ⟨.pair _ body, rfl⟩
    · rw [absorbs_other escape, Bool.not_eq_true'] at absorbs
      have plain := special_eq_false.2 ⟨escape, absorbs⟩
      rw [escaped_plain plain, unescaped_pair, unescaped_escaped]
      exact ⟨.pair _ (body_escaped letters), rfl⟩

/-- Where the letters do not absorb the escape, something else is read. -/
lemma absorbs_of_read {read : List α} (body : marks.Body read) {stop stop' : α}
  {rest rest' : List α} (stops' : marks.stops stop' = true)
  (same : marks.escape :: marks.escaped letters ++ stop :: rest = read ++ stop' :: rest')
  (means : marks.unescaped read = some letters) : marks.Absorbs letters = true := by
  induction letters generalizing read with
  | nil =>
    cases body with
    | nil =>
      have heads := (List.cons.inj same).1
      exact absurd heads.symm (ne_escape_of_stops stops')
    | pair letter _ =>
      rw [unescaped_pair, map_eq_some_iff] at means
      rcases means with ⟨_, _, impossible⟩
      cases impossible
    | plain ordinary _ =>
      have heads := (List.cons.inj same).1
      rw [← heads, special_escape] at ordinary
      exact Bool.noConfusion ordinary
  | cons letter letters ih =>
    cases body with
    | nil =>
      have heads := (List.cons.inj same).1
      exact absurd heads.symm (ne_escape_of_stops stops')
    | @pair next tail tail_body =>
      rw [unescaped_pair, map_eq_some_iff] at means
      rcases means with ⟨tail_read, tail_means, both⟩
      rcases List.cons.inj both with ⟨rfl, rfl⟩
      cases special : marks.special next with
      | false =>
        rw [special_eq_false] at special
        rw [absorbs_other special.1, special.2]
        rfl
      | true =>
        rw [escaped_special special] at same
        rcases List.cons.inj same with ⟨_, tails⟩
        rcases List.cons.inj tails with ⟨escape, tails⟩
        subst escape
        rw [absorbs_escape]
        exact ih tail_body tails tail_means
    | plain ordinary _ =>
      have heads := (List.cons.inj same).1
      rw [← heads, special_escape] at ordinary
      exact Bool.noConfusion ordinary

end Marks

end OTServ.Library.Escaping
