import OTServ.Library.ByteStreams

/-!
# Runs of missing cells

A row of cells is sent cell by cell.  A cell which is there is the bytes of its
things; cells that are missing are counted, and the count `k` is sent as the pair
`(k, 0xFF)`, which ends the cell before it as well.  The count begins at `-1`: a
run of missing cells in front has no cell to end, and its first cell takes the
part of it.

The reader takes things up to a pair, then as many empty cells as the pair says.
It gives back the cells of any row, provided that no thing begins like a pair.
-/

namespace OTServ.Library.SkipRuns

open Library.ByteStreams
open List Option

universe u

variable {α : Type u}

/-- The pair which ends a cell and stands for so many missing ones. -/
def pair (count : Nat) : Stream :=
  [UInt8.ofNat count, 0xFF]

/-- A pair is sent once there is a cell to end. -/
def flush (skip : Int) : Stream :=
  if 0 ≤ skip then pair skip.toNat else []

/-- The bytes of one cell and the count after it. -/
def put (skip : Int) : Option Stream → Stream × Int
  | some bytes => (flush skip ++ bytes, 0)
  | none =>
    if skip + 1 = 0xFF then
      (pair 0xFF, -1)
    else
      ([], skip + 1)

def encode (skip : Int) : List (Option Stream) → Stream
  | [] => flush skip
  | cell :: cells => (put skip cell).1 ++ encode (put skip cell).2 cells

variable {skip : Int} {bytes rest stream : Stream} {thing : α} {things : List α}
  {count rounds : Nat} {cells : List (Option Stream)} {seen : List (List α)}

lemma put_none_next (small : skip + 1 ≠ 0xFF) : put skip none = ([], skip + 1) := by
  rw [put, if_neg small]

lemma put_none_full (full : skip + 1 = 0xFF) : put skip none = (pair 0xFF, -1) := by
  rw [put, if_pos full]

lemma flush_start : flush (-1) = [] := rfl

lemma flush_natCast (count : Nat) : flush count = pair count := by
  rw [flush, if_pos (Int.natCast_nonneg count), Int.toNat_natCast]

/-- The count never exceeds what fits into the first byte of a pair. -/
lemma put_bounds (bounds : -1 ≤ skip ∧ skip < 0xFF) (cell : Option Stream) :
  -1 ≤ (put skip cell).2 ∧ (put skip cell).2 < 0xFF := by
  cases cell with
  | some bytes => simp only [put]; omega
  | none =>
    rw [put]
    split
    · simp only; omega
    · simp only; omega

section Reading

variable (read : Reader α)

def AtPair (stream : Stream) : Prop :=
  stream[1]? = some 0xFF

instance (stream : Stream) : Decidable (AtPair stream) :=
  inferInstanceAs (Decidable (stream[1]? = some 0xFF))

/-- The things up to the next pair and its count, in a bounded number of rounds. -/
def readCell : Nat → Stream → Option (List α × Nat) × Stream
  | 0, stream => (none, stream)
  | rounds + 1, stream =>
    if AtPair stream then
      (some ([], (stream.headD 0).toNat), stream.drop 2)
    else
      match read stream with
      | (none, rest) => (none, rest)
      | (some thing, rest) =>
        match readCell rounds rest with
        | (none, last) => (none, last)
        | (some (things, count), last) => (some (thing :: things, count), last)

/-- So many cells, the first of which are empty. -/
def decode : Nat → Nat → Stream → Option (List (List α) × Stream)
  | 0, 0, stream => some ([], stream)
  | 0, _ + 1, _ => none
  | cells + 1, empty + 1, stream =>
    (decode cells empty stream).map fun read => ([] :: read.1, read.2)
  | cells + 1, 0, stream =>
    match readCell read (stream.length + 1) stream with
    | (none, _) => none
    | (some (things, count), rest) =>
      (decode cells count rest).map fun read => (things :: read.1, read.2)

lemma decode_empty (cells empty : Nat) (stream : Stream) :
  decode read (empty + cells) empty stream =
    (decode read cells 0 stream).map fun read =>
      (List.replicate empty [] ++ read.1, read.2) := by
  induction empty with
  | zero => simp
  | succ empty ih =>
    have unfolded :
        decode read (empty + 1 + cells) (empty + 1) stream =
          (decode read (empty + cells) empty stream).map fun read => ([] :: read.1, read.2) := by
      rw [Nat.add_right_comm]
      rfl
    rw [unfolded, ih, Option.map_map]
    rfl

/-! ## Things -/

/--
The bytes are these things, one behind the other, and none of them begins like a
pair.
-/
inductive Spelt : Stream → List α → Prop
  | nil : Spelt [] []
  | cons
      {bytes more : Stream} {thing : α} {things : List α}
      (reads : Reads read bytes thing)
      (long : 2 ≤ bytes.length)
      (apart : ¬ AtPair bytes)
      (tail : Spelt more things) :
      Spelt (bytes ++ more) (thing :: things)

variable {read}

lemma Spelt.one (reads : Reads read bytes thing) (long : 2 ≤ bytes.length)
  (apart : ¬ AtPair bytes) : Spelt read bytes [thing] := by
  have spelt := Spelt.cons reads long apart Spelt.nil
  rwa [append_nil] at spelt

lemma Spelt.append {more : Stream} {others : List α} (spelt : Spelt read bytes things)
  (then_spelt : Spelt read more others) : Spelt read (bytes ++ more) (things ++ others) := by
  induction spelt with
  | nil => exact then_spelt
  | cons reads long apart _ ih =>
    rw [append_assoc]
    exact Spelt.cons reads long apart ih

lemma Spelt.length_le (spelt : Spelt read bytes things) : 2 * things.length ≤ bytes.length := by
  induction spelt with
  | nil => exact Nat.le_refl _
  | cons _ long _ _ ih =>
    rw [length_append, length_cons]
    omega

lemma atPair_append (long : 2 ≤ bytes.length) (rest : Stream) :
  AtPair (bytes ++ rest) ↔ AtPair bytes := by
  rw [AtPair, AtPair, List.getElem?_append_left (by omega)]

lemma atPair_pair (count : Nat) (rest : Stream) : AtPair (pair count ++ rest) :=
  rfl

lemma readCell_pair (small : count < 256) (rounds : Nat) (rest : Stream) :
  readCell read (rounds + 1) (pair count ++ rest) = (some ([], count), rest) := by
  have byte : ((pair count ++ rest).headD 0).toNat = count := by
    rw [pair, cons_append, headD_cons, UInt8.toNat_ofNat', Nat.mod_eq_of_lt small]
  rw [readCell, if_pos (atPair_pair count rest), byte]
  rfl

lemma readCell_cons {more : Stream} (reads : Reads read bytes thing) (long : 2 ≤ bytes.length)
  (apart : ¬ AtPair bytes) (rounds : Nat)
  (others : readCell read rounds more = (some (things, count), rest)) :
  readCell read (rounds + 1) (bytes ++ more) = (some (thing :: things, count), rest) := by
  rw [readCell, if_neg (fun found => apart ((atPair_append long more).mp found)), reads more]
  simp only
  rw [others]

lemma Spelt.readCell (spelt : Spelt read bytes things) (small : count < 256) (rest : Stream)
  (enough : things.length < rounds) :
  readCell read rounds (bytes ++ (pair count ++ rest)) = (some (things, count), rest) := by
  induction spelt generalizing rounds with
  | nil =>
    cases rounds with
    | zero => cases enough
    | succ rounds => exact readCell_pair small rounds rest
  | cons reads long apart tail ih =>
    cases rounds with
    | zero => cases enough
    | succ rounds =>
      rw [append_assoc]
      exact readCell_cons reads long apart rounds (ih (Nat.lt_of_succ_lt_succ enough))

/-- A cell and the run of missing ones behind it. -/
lemma Spelt.decode
  (spelt : Spelt read bytes things) (small : count < 256) (cells : Nat) (rest : Stream) :
  SkipRuns.decode read (count + cells + 1) 0
      (bytes ++ (pair count ++ rest)) =
    (SkipRuns.decode read cells 0 rest).map fun read =>
      (things :: (List.replicate count [] ++ read.1), read.2) := by
  have enough : things.length < (bytes ++ (pair count ++ rest)).length + 1 := by
    have := spelt.length_le
    rw [length_append]
    omega
  rw [SkipRuns.decode, spelt.readCell small rest enough]
  simp only
  rw [decode_empty, Option.map_map]
  rfl

/-- What is sent for a cell is what it shows; a missing cell shows nothing. -/
abbrev Shows (read : Reader α) (cell : Option Stream) (things : List α) : Prop :=
  Spelt read (cell.getD []) things

lemma Shows.none_eq (shows : Shows read none things) : things = [] := by
  have short := Spelt.length_le shows
  rw [getD_none, length_nil] at short
  exact eq_nil_of_length_eq_zero (by omega)

/--
The induction goes over the cells that are left: before the first pair the count
is `-1`, later there is an open cell with `count` missing cells behind it.
-/
lemma decode_encode_from (shows : List.Forall₂ (Shows read) cells seen) (rest : Stream) :
  decode read seen.length 0 (encode (-1) cells ++ rest) = some (seen, rest) ∧
    ∀ {bytes : Stream} {things : List α} {count : Nat},
      Spelt read bytes things → count < 0xFF →
        decode read (count + seen.length + 1) 0
            (bytes ++ encode count cells ++ rest) =
          some (things :: (List.replicate count [] ++ seen), rest) := by
  induction shows with
  | nil =>
    constructor
    · rfl
    · intro bytes things count spelt small
      rw [encode, flush_natCast, append_assoc, spelt.decode (Nat.lt_succ_of_lt small)]
      rfl
  | @cons cell things cells seen first _ ih =>
    rcases ih with ⟨fresh, opened⟩
    cases cell with
    | some sent =>
      have next :
          decode read (seen.length + 1) 0
              (sent ++ encode 0 cells ++ rest) =
            some (things :: seen, rest) := by
        have after := @opened sent things 0 first (by omega)
        rwa [Nat.zero_add] at after
      constructor
      · rw [encode, put, flush_start, nil_append]
        exact next
      · intro bytes open_things count spelt small
        have split :
            bytes ++ encode count (some sent :: cells) ++ rest =
              bytes ++ (pair count ++ (sent ++ encode 0 cells ++ rest)) := by
          rw [encode, put, flush_natCast]
          simp only [append_assoc]
        rw [split, spelt.decode (Nat.lt_succ_of_lt small), length_cons, next]
        rfl
    | none =>
      have nothing : things = [] := first.none_eq
      subst nothing
      constructor
      · have after := @opened [] [] 0 Spelt.nil (by omega)
        rw [Nat.zero_add] at after
        rw [encode, put_none_next (by decide)]
        exact after
      · intro bytes open_things count spelt small
        rcases Nat.lt_or_ge (count + 1) 0xFF with more | full
        · have after := @opened bytes open_things (count + 1) spelt more
          rw [encode, put_none_next (by omega), nil_append,
            length_cons, ← Nat.add_assoc, Nat.add_right_comm count,
            append_cons, ← replicate_succ']
          exact after
        · have last : count + 1 = 0xFF := by omega
          have split :
              bytes ++ encode count (none :: cells) ++ rest =
                bytes ++ (pair (count + 1) ++ (encode (-1) cells ++ rest)) := by
            rw [encode, put_none_full (by omega), last]
            simp only [append_assoc]
          rw [split, length_cons, ← Nat.add_assoc,
            Nat.add_right_comm count, spelt.decode (by omega), fresh,
            append_cons, ← replicate_succ']
          rfl

/-- The reader gives back the cells and takes exactly the bytes that were sent. -/
lemma decode_encode (shows : List.Forall₂ (Shows read) cells seen) (rest : Stream) :
  decode read seen.length 0 (encode (-1) cells ++ rest) = some (seen, rest) :=
  (decode_encode_from shows rest).1

end Reading

end OTServ.Library.SkipRuns
