import Mathlib.Data.List.TakeWhile
import Mathlib.Tactic.Lemma

/-!
# Texts in queries for SQLite

Names stand between backticks in the queries of the server, and between double quotes in
those for SQLite.  `_parse` replaces the backticks outside of texts, and it takes a quote
which is doubled in a text for the end of it.  What is behind such a quote is treated as if
it stood outside, and often what is behind the text as if it stood inside.
-/

namespace OTServ.QuotedTexts

open List

abbrev Text : Type := List Char

def quote : Char := '\''

/-- `DatabaseSQLite::_parse`, from a letter on. -/
def parse : Bool → Text → Text
  | _, [] => []
  | inString, ch :: rest =>
    let inString :=
      if ch = quote then !(inString && rest.head? != some quote) else inString
    (if ch = '`' ∧ inString = false then '"' else ch) :: parse inString rest

def c_str (s : Text) : Text :=
  s.takeWhile fun ch => ch != '\x00'

def doubled (s : Text) : Text :=
  s.flatMap fun ch => if ch = quote then [ch, ch] else [ch]

/-- `DatabaseSQLite::escapeString`: the format `%Q`. -/
def escapeString (s : Text) : Text :=
  quote :: doubled (c_str s) ++ [quote]

/-- A part of a query without quotes, and a text behind it. -/
structure Piece where
  before : Text
  text : Text
  apart : before ≠ []
  plain : quote ∉ before

structure Query where
  pieces : List Piece
  last : Text
  plain : quote ∉ last

/-- Every name between double quotes. -/
def named (s : Text) : Text :=
  s.map fun ch => if ch = '`' then '"' else ch

def assembled (pieces : List Piece) (last : Text) : Text :=
  (pieces.flatMap fun piece => piece.before ++ escapeString piece.text) ++ last

/-- The query with its names translated and its texts as they were. -/
def translated (pieces : List Piece) (last : Text) : Text :=
  (pieces.flatMap fun piece => named piece.before ++ escapeString piece.text) ++ named last

/--
No backtick stands where the wrong side of a quote is assumed: in a text behind its first
quote, and on to the end of a text which ends with a quote, or of the query.
-/
def Harmless : Bool → List Piece → Text → Prop
  | astray, [], last => astray = true → '`' ∉ last
  | astray, piece :: pieces, last =>
    (astray = true → '`' ∉ piece.before) ∧
      '`' ∉ (if astray then c_str piece.text
        else (c_str piece.text).dropWhile fun ch => ch != quote) ∧
        Harmless
          ((astray || (c_str piece.text).contains quote) &&
            (c_str piece.text).getLast?.any fun ch => ch != quote)
          pieces last

variable {rest s : Text}

lemma parse_plain (plain : quote ∉ s) (inString : Bool) :
  parse inString (s ++ rest) = (if inString then s else named s) ++ parse inString rest := by
  induction s with
  | nil => cases inString <;> rfl
  | cons ch s ih =>
    rw [mem_cons, not_or] at plain
    rw [cons_append, parse, if_neg (Ne.symm plain.1), ih plain.2]
    cases inString <;> simp [named]

lemma doubled_plain (plain : quote ∉ s) : doubled s = s := by
  induction s with
  | nil => rfl
  | cons ch s ih =>
    rw [mem_cons, not_or] at plain
    have same := ih plain.2
    simp only [doubled] at same
    rw [doubled, flatMap_cons, if_neg (Ne.symm plain.1), same]
    rfl

lemma named_eq_iff : named s = s ↔ '`' ∉ s := by
  induction s with
  | nil => simp [named]
  | cons ch s ih =>
    simp only [named] at ih
    by_cases tick : ch = '`'
    · simp [named, tick]
    · simp [named, tick, ih, Ne.symm tick]

lemma mem_doubled {ch : Char} : ch ∈ doubled s ↔ ch ∈ s := by
  simp only [doubled, mem_flatMap]
  constructor
  · rintro ⟨other, mem, there⟩
    split at there <;> simp_all
  · intro mem
    exact ⟨ch, mem, by split <;> simp⟩

lemma doubled_split (s : Text) :
  doubled s = s.takeWhile (fun ch => ch != quote) ++
    doubled (s.dropWhile fun ch => ch != quote) := by
  have plain : quote ∉ s.takeWhile fun ch => ch != quote := fun mem => by
    simpa using mem_takeWhile_imp mem
  calc
    doubled s = doubled (s.takeWhile (fun ch => ch != quote) ++
        s.dropWhile fun ch => ch != quote) := by rw [takeWhile_append_dropWhile]
    _ = _ := by rw [doubled, flatMap_append, ← doubled, ← doubled, doubled_plain plain]

lemma doubled_quote (s : Text) : doubled (quote :: s) = quote :: quote :: doubled s := by
  simp [doubled]

lemma doubled_other {ch : Char} (other : ch ≠ quote) (s : Text) :
  doubled (ch :: s) = ch :: doubled s := by
  simp [doubled, other]

lemma parse_quote (inString : Bool) :
  parse inString (quote :: rest) =
    quote :: parse (!(inString && rest.head? != some quote)) rest := by
  have tick : quote ≠ '`' := by decide
  simp [parse, tick]

lemma parse_other {ch : Char} (other : ch ≠ quote) (inString : Bool) :
  parse inString (ch :: rest) =
    (if ch = '`' ∧ inString = false then '"' else ch) :: parse inString rest := by
  rw [parse, if_neg other]

lemma named_quote (s : Text) : named (quote :: s) = quote :: named s := by
  have tick : quote ≠ '`' := by decide
  simp [named, tick]

/-- The next letter is a quote: the text is over, or goes on with one. -/
def AtQuote (s : Text) : Prop :=
  s = [] ∨ s.head? = some quote

lemma head_doubled (s : Text) :
  (doubled s ++ quote :: rest).head? = some quote ↔ AtQuote s := by
  cases s with
  | nil => simp [doubled, AtQuote]
  | cons ch s =>
    by_cases same : ch = quote
    · simp [doubled, AtQuote, same]
    · simp [doubled, AtQuote, same]

/-- The state behind a quote, on which a quote or another letter of a text follows. -/
lemma not_next (s : Text) :
  (!((doubled s ++ quote :: rest).head? != some quote)) = true → AtQuote s := by
  intro next
  rw [Bool.not_eq_true', bne_eq_false_iff_eq] at next
  exact (head_doubled s).mp next

/--
From where the end of the text is assumed to have been, its backticks are replaced up to
the quote at its end.
-/
lemma parse_lost (separate : rest.head? ≠ some quote) (s : Text) (inString : Bool)
  (lost : inString = true → AtQuote s) :
  parse inString (doubled s ++ quote :: rest) =
    named (doubled s) ++ quote ::
      parse (if s = [] then !inString else s.getLast?.any fun ch => ch != quote) rest := by
  have apart : (rest.head? != some quote) = true := bne_iff_ne.mpr separate
  induction s generalizing inString with
  | nil =>
    change parse inString (quote :: rest) = _
    rw [parse_quote, apart, Bool.and_true]
    rfl
  | cons ch s ih =>
    by_cases same : ch = quote
    · -- the second of the two quotes ends the text, unless a quote follows
      subst same
      rw [doubled_quote, cons_append, cons_append, parse_quote, parse_quote, named_quote,
        named_quote]
      simp only [head?_cons, bne_self_eq_false, Bool.and_false, Bool.not_false, Bool.true_and]
      rw [ih _ (not_next s)]
      cases s with
      | nil => simp [doubled]
      | cons other s => simp
    · have outside : inString = false := by
        cases inString with
        | false => rfl
        | true =>
          rcases lost rfl with none | first
          · cases none
          · exact absurd (Option.some.inj first) same
      rw [doubled_other same, cons_append, parse_other same, outside,
        ih false fun impossible => by cases impossible]
      cases s with
      | nil => simp [named, doubled, bne_iff_ne.mpr same]
      | cons other s => simp [named]

/-- A text whose beginning is taken for its beginning, and one where it is not. -/
lemma parse_text (separate : rest.head? ≠ some quote) (s : Text) (astray : Bool) :
  parse astray (quote :: doubled s ++ quote :: rest) =
    quote ::
      ((if astray then named (doubled s)
        else s.takeWhile (fun ch => ch != quote) ++
          named (doubled (s.dropWhile fun ch => ch != quote))) ++
      quote ::
        parse ((astray || s.contains quote) && s.getLast?.any fun ch => ch != quote) rest) := by
  rw [cons_append, parse_quote]
  cases astray with
  | true =>
    rw [Bool.true_and, parse_lost separate s _ (not_next s)]
    cases s with
    | nil => simp [doubled]
    | cons ch s => simp
  | false =>
    rw [Bool.false_and, Bool.not_false]
    by_cases mem : quote ∈ s
    · obtain ⟨front, behind, rfl, plain⟩ := eq_append_cons_of_mem mem
      have others : ∀ ch ∈ front, (ch != quote) = true := fun ch there =>
        bne_iff_ne.mpr fun same => plain (same ▸ there)
      rw [doubled_split, takeWhile_append_of_pos others, dropWhile_append_of_pos others]
      simp only [takeWhile_cons, dropWhile_cons, bne_self_eq_false, Bool.false_eq_true, if_false,
        append_nil]
      rw [append_assoc, parse_plain plain,
        parse_lost separate (quote :: behind) true fun _ => .inr rfl]
      simp [getLast?_cons]
    · have others : ∀ ch ∈ s, (ch != quote) = true := fun ch there =>
        bne_iff_ne.mpr fun same => mem (same ▸ there)
      have apart : (rest.head? != some quote) = true := bne_iff_ne.mpr separate
      rw [doubled_plain mem, parse_plain mem, parse_quote, apart,
        takeWhile_eq_self_iff.mpr others, dropWhile_eq_nil_iff.mpr others]
      simp [mem, doubled, named]

lemma assembled_head (pieces : List Piece) {last : Text} (plain : quote ∉ last) :
  (assembled pieces last).head? ≠ some quote := by
  intro first
  cases pieces with
  | nil => exact plain (mem_of_head? first)
  | cons piece pieces =>
    have ⟨ch, rest, before⟩ := exists_cons_of_ne_nil piece.apart
    have plain := piece.plain
    simp only [assembled, flatMap_cons, before, cons_append, head?_cons, Option.some.injEq] at first
    simp [before, first] at plain

lemma append_eq_iff {front other back rest : Text} (same : front.length = other.length) :
  front ++ back = other ++ rest ↔ front = other ∧ back = rest :=
  ⟨fun all => append_inj all same, fun both => by rw [both.1, both.2]⟩

lemma named_length (s : Text) : (named s).length = s.length :=
  length_map _

lemma kept_iff (s : Text) (astray : Bool) :
  (if astray then named (doubled s)
    else s.takeWhile (fun ch => ch != quote) ++
      named (doubled (s.dropWhile fun ch => ch != quote))) = doubled s ↔
    '`' ∉ (if astray then s else s.dropWhile fun ch => ch != quote) := by
  cases astray with
  | true => simp only [if_true, named_eq_iff, mem_doubled]
  | false =>
    rw [doubled_split s]
    simp only [Bool.false_eq_true, if_false, append_cancel_left_eq, named_eq_iff, mem_doubled]

lemma outside_iff (s : Text) (astray : Bool) :
  (if astray then s else named s) = named s ↔ (astray = true → '`' ∉ s) := by
  cases astray with
  | true => rw [if_pos rfl, eq_comm, named_eq_iff, imp_iff_right rfl]
  | false => simp

lemma parse_assembled (pieces : List Piece) {last : Text} (plain : quote ∉ last)
  (astray : Bool) :
  parse astray (assembled pieces last) = translated pieces last ↔
    Harmless astray pieces last := by
  induction pieces generalizing astray with
  | nil =>
    have whole : parse astray (last ++ []) = _ := parse_plain plain astray
    rw [append_nil, parse, append_nil] at whole
    change parse astray last = named last ↔ _
    rw [whole, outside_iff]
    rfl
  | cons piece pieces ih =>
    have separate := assembled_head pieces plain
    have first : assembled (piece :: pieces) last =
        piece.before ++ (quote :: doubled (c_str piece.text) ++
          quote :: assembled pieces last) := by
      simp [assembled, escapeString]
    have wanted : translated (piece :: pieces) last =
        named piece.before ++ (quote :: (doubled (c_str piece.text) ++
          quote :: translated pieces last)) := by
      simp [translated, escapeString]
    rw [first, wanted, parse_plain piece.plain, parse_text separate, append_eq_iff, outside_iff,
      cons_inj_right, append_eq_iff, kept_iff, cons_inj_right, ih, Harmless]
    · cases astray with
      | true => exact named_length _
      | false =>
        rw [doubled_split (c_str piece.text)]
        simp [named_length]
    · cases astray with
      | true => exact (named_length _).symm
      | false => rfl

end OTServ.QuotedTexts
