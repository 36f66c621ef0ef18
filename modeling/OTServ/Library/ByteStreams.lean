import Mathlib.Algebra.GroupWithZero.Nat
import Mathlib.Data.List.Basic

/-!
# Readers of byte streams

A reader takes a value from the front of a stream of bytes and leaves the rest.
It may fail, and a failed reader may have taken some bytes all the same.  Numbers
stand in a stream with their lowest byte first, texts behind their length.

`Reads` is the law of a reader and a writer: the bytes written are read back,
none more and none less, whatever follows them.
-/

namespace OTServ.Library.ByteStreams

open List

universe u v

variable {α : Type u} {β : Type v}

abbrev Stream := List UInt8

/-- What was read, if anything, and the rest of the stream. -/
abbrev Reader (α : Type u) := Stream → Option α × Stream

/-- The reader takes exactly these bytes and makes the value of them. -/
def Reads (read : Reader α) (bytes : Stream) (value : α) : Prop :=
  ∀ rest, read (bytes ++ rest) = (some value, rest)

/-- The rest is never longer than the stream was. -/
def Shrinks (read : Reader α) : Prop :=
  ∀ stream, (read stream).2.length ≤ stream.length

namespace Reader

def map (f : α → β) (read : Reader α) : Reader β := fun stream =>
  ((read stream).1.map f, (read stream).2)

/-- Where the first reader fails, the second is not asked. -/
def andThen (read : Reader α) (next : α → Reader β) : Reader β := fun stream =>
  match read stream with
  | (some value, rest) => next value rest
  | (none, rest) => (none, rest)

def give (value : α) : Reader α := fun stream => (some value, stream)

end Reader

section Rules

variable {read : Reader α} {bytes : Stream} {value : α}

lemma Reads.map (reads : Reads read bytes value) (f : α → β) :
  Reads (read.map f) bytes (f value) := by
  intro rest
  simp only [Reader.map]
  rw [reads rest, Option.map_some]

lemma Reads.andThen {next : α → Reader β} {more : Stream} {result : β}
  (reads : Reads read bytes value) (then_reads : Reads (next value) more result) :
  Reads (read.andThen next) (bytes ++ more) result := by
  intro rest
  simp only [Reader.andThen, append_assoc]
  rw [reads (more ++ rest)]
  exact then_reads rest

lemma give_reads (value : α) : Reads (Reader.give value) [] value :=
  fun _ => rfl

lemma Shrinks.map (shrinks : Shrinks read) (f : α → β) : Shrinks (read.map f) :=
  shrinks

lemma Shrinks.andThen {next : α → Reader β} (shrinks : Shrinks read)
  (then_shrinks : ∀ value, Shrinks (next value)) : Shrinks (read.andThen next) := by
  intro stream
  have first := shrinks stream
  simp only [Reader.andThen]
  split
  · rename_i value rest taken
    rw [taken] at first
    exact Nat.le_trans (then_shrinks value rest) first
  · rename_i rest taken
    rw [taken] at first
    exact first

end Rules

/-- A number in so many bytes, the lowest one first. -/
def littleEndian : Nat → Nat → Stream
  | 0, _ => []
  | width + 1, number =>
    UInt8.ofNat number :: littleEndian width (number / 256)

def ofLittleEndian : Stream → Nat
  | [] => 0
  | byte :: bytes => byte.toNat + 256 * ofLittleEndian bytes

variable (width : Nat)

@[simp]
lemma littleEndian_length (number : Nat) : (littleEndian width number).length = width := by
  induction width generalizing number with
  | zero => rfl
  | succ width ih => rw [littleEndian, length_cons, ih]

lemma ofLittleEndian_littleEndian (number : Nat) :
  ofLittleEndian (littleEndian width number) = number % 256 ^ width := by
  induction width generalizing number with
  | zero => rw [littleEndian, ofLittleEndian, Nat.pow_zero, Nat.mod_one]
  | succ width ih =>
    have lowest : (UInt8.ofNat number).toNat = number % 256 := UInt8.toNat_ofNat'
    rw [littleEndian, ofLittleEndian, ih, lowest, Nat.pow_succ', Nat.mod_mul]

lemma ofLittleEndian_lt (bytes : Stream) : ofLittleEndian bytes < 256 ^ bytes.length := by
  induction bytes with
  | nil => exact Nat.one_pos
  | cons byte bytes ih =>
    have small := byte.toNat_lt
    rw [ofLittleEndian, length_cons, Nat.pow_succ]
    omega

/-- As many bytes which make the same number are the same bytes. -/
lemma ofLittleEndian_inj {bytes others : Stream} (sameLength : bytes.length = others.length)
  (same : ofLittleEndian bytes = ofLittleEndian others) : bytes = others := by
  induction bytes generalizing others with
  | nil => exact (length_eq_zero_iff.1 sameLength.symm).symm
  | cons byte bytes ih =>
    cases others with
    | nil => cases sameLength
    | cons other others =>
      rw [ofLittleEndian, ofLittleEndian] at same
      have below := byte.toNat_lt
      have otherBelow := other.toNat_lt
      have lowest : byte = other := UInt8.toNat_inj.1 (by omega)
      have rest : bytes = others := ih (Nat.succ.inj sameLength) (by omega)
      rw [lowest, rest]

/-- A number of so many bytes; a stream which is too short stays as it is. -/
def number (width : Nat) : Reader Nat := fun stream =>
  if stream.length < width then (none, stream)
  else (some (ofLittleEndian (stream.take width)), stream.drop width)

lemma number_reads {width value : Nat} (fits : value < 256 ^ width) :
  Reads (number width) (littleEndian width value) value := by
  intro rest
  have enough : ¬ (littleEndian width value ++ rest).length < width := by
    rw [length_append, littleEndian_length]
    omega
  rw [number, if_neg enough,
    take_left' (littleEndian_length width value),
    drop_left' (littleEndian_length width value),
    ofLittleEndian_littleEndian, Nat.mod_eq_of_lt fits]

lemma number_shrinks : Shrinks (number width) := by
  intro stream
  rw [number]
  split
  · exact Nat.le_refl _
  · rw [length_drop]
    exact Nat.sub_le _ _

lemma number_taken {width value : Nat} {stream rest : Stream}
  (taken : number width stream = (some value, rest)) : stream.length = width + rest.length := by
  rw [number] at taken
  split at taken
  · cases taken
  · cases taken
    rw [length_drop]
    omega

def text (length : Nat) : Reader Stream := fun stream =>
  if stream.length < length then (none, stream)
  else (some (stream.take length), stream.drop length)

lemma text_reads (bytes : Stream) : Reads (text bytes.length) bytes bytes := by
  intro rest
  have enough : ¬ (bytes ++ rest).length < bytes.length := by
    rw [length_append]
    omega
  rw [text, if_neg enough, take_left' rfl, drop_left' rfl]

lemma text_shrinks (length : Nat) : Shrinks (text length) := by
  intro stream
  rw [text]
  split
  · exact Nat.le_refl _
  · rw [length_drop]
    exact Nat.sub_le _ _

def prefixed (width : Nat) : Reader Stream :=
  (number width).andThen text

lemma prefixed_reads {width : Nat} {bytes : Stream} (fits : bytes.length < 256 ^ width) :
  Reads (prefixed width) (littleEndian width bytes.length ++ bytes) bytes :=
  (number_reads fits).andThen (text_reads bytes)

lemma prefixed_shrinks : Shrinks (prefixed width) :=
  (number_shrinks width).andThen text_shrinks

end OTServ.Library.ByteStreams
