import OTServ.Library.ByteStreams
import Mathlib.Data.List.Infix

/-!
# Property streams

`PropStream` reads a buffer behind a pointer, `PropWriteStream` appends to one that it
enlarges when it is full.  Lengths are compared as signed numbers when a text is read, and
the size of the buffer is a number of 32 bits when it is written: each is right as long as
the numbers are small enough.
-/

namespace OTServ.NodeFiles.PropStreams

open Library.ByteStreams
open List

/-! ## Reading -/

/-- The numbers of `GET_VALUE`. -/
inductive Kind where
  | UINT8 | INT8 | CHAR | UINT16 | INT16 | UINT32 | INT32 | FLOAT

def Kind.sizeof : Kind → Nat
  | .UINT8 | .INT8 | .CHAR => 1
  | .UINT16 | .INT16 => 2
  | .UINT32 | .INT32 | .FLOAT => 4

/-- The calls of a loader. -/
inductive Call where
  | GET (kind : Kind)
  | GET_STRING
  | GET_LSTRING
  | GET_NSTRING (str_len : UInt16)
  | GET_RAWSTRING (str_len : UInt16)
  | SKIP_N (n : Int32)

/--
The bytes which a call returns, none where it returns false, the places and lengths of
what it reads, and the pointer then.
-/
structure Outcome where
  ret : Option Stream
  accesses : List (Int × Nat)
  p : Int

section Reading

variable (buffer : Stream) (p : Int)

/-- `size()`, what is left before the end. -/
def size : Int := buffer.length - p

/-- The bytes at the pointer. -/
def bytesAt (count : Nat) : Stream := (buffer.drop p.toNat).take count

/-- A copy of so many bytes, with the number that is compared with the size. -/
def copy (count : Nat) (compared : Int) : Outcome :=
  if size buffer p < compared then ⟨none, [], p⟩
  else ⟨some (bytesAt buffer p count), [(p, count)], p + count⟩

def GET_VALUE (sizeof : Nat) : Outcome := copy buffer p sizeof sizeof

/-- A text behind its length. -/
def prefixed (sizeof : Nat) (compared : Nat → Int) : Outcome :=
  let length := GET_VALUE buffer p sizeof
  match length.ret with
  | none => length
  | some bytes =>
    let str_len := ofLittleEndian bytes
    let text := copy buffer length.p str_len (compared str_len)
    { text with accesses := length.accesses ++ text.accesses }

/-- A number of 32 bits as an `int32_t`. -/
def int32 (number : Nat) : Int :=
  if number < 2 ^ 31 then number else number - (2 ^ 32 : Nat)

def call : Call → Outcome
  | .GET kind => GET_VALUE buffer p kind.sizeof
  | .GET_STRING => prefixed buffer p 2 Nat.cast
  | .GET_LSTRING => prefixed buffer p 4 int32
  | .GET_NSTRING str_len | .GET_RAWSTRING str_len => copy buffer p str_len.toNat str_len.toNat
  | .SKIP_N n =>
    if size buffer p < n.toInt then ⟨none, [], p⟩ else ⟨some [], [], p + n.toInt⟩

/-- The pointer stays in the buffer, and nothing outside of it is read. -/
def Outcome.Inside (outcome : Outcome) : Prop :=
  (0 ≤ outcome.p ∧ outcome.p ≤ buffer.length) ∧
    ∀ access ∈ outcome.accesses, 0 ≤ access.1 ∧ access.1 + access.2 ≤ buffer.length

def InBounds (taken : Call) : Prop := (call buffer p taken).Inside buffer

/--
The length of a long text is a positive `int32_t`, or the buffer has that many bytes, and
no more is skipped backwards than there is before the pointer.
-/
def Sensible : Call → Prop
  | .GET_LSTRING =>
    4 ≤ size buffer p →
      let str_len := ofLittleEndian (bytesAt buffer p 4)
      str_len < 2 ^ 31 ∨ str_len + 4 ≤ size buffer p
  | .SKIP_N n => 0 ≤ p + n.toInt
  | _ => True

/-- It holds of each call, with the pointer where the calls before have left it. -/
def Throughout (holds : Int → Call → Prop) : Int → List Call → Prop
  | _, [] => True
  | p, taken :: rest => holds p taken ∧ Throughout holds (call buffer p taken).p rest

variable {buffer p}

/-- A copy is in bounds if the number compared is the length, or there is enough. -/
lemma copy_inBounds {count : Nat} {compared : Int} (low : 0 ≤ p) (high : p ≤ buffer.length) :
  (copy buffer p count compared).Inside buffer ↔
    size buffer p < compared ∨ count ≤ size buffer p := by
  unfold Outcome.Inside copy size
  split
  · simp only [not_mem_nil, false_imp_iff, implies_true, and_true]
    omega
  · simp only [mem_singleton, forall_eq]
    omega

lemma prefixed_inBounds {sizeof : Nat} {compared : Nat → Int} (low : 0 ≤ p)
  (high : p ≤ buffer.length) :
  (prefixed buffer p sizeof compared).Inside buffer ↔
    (sizeof ≤ size buffer p →
      let str_len := ofLittleEndian (bytesAt buffer p sizeof)
      size buffer p < compared str_len + sizeof ∨ str_len + sizeof ≤ size buffer p) := by
  unfold Outcome.Inside prefixed GET_VALUE
  by_cases enough : size buffer p < sizeof
  · simp only [copy, if_pos enough, not_mem_nil, false_imp_iff, implies_true, and_true]
    omega
  · have shorter : size buffer (p + sizeof) = size buffer p - sizeof := by
      unfold size
      omega
    have text :=
      @copy_inBounds buffer (p + sizeof) (ofLittleEndian (bytesAt buffer p sizeof))
        (compared (ofLittleEndian (bytesAt buffer p sizeof))) (by omega)
        (by unfold size at enough; omega)
    rw [shorter] at text
    have first : p + sizeof ≤ buffer.length := by
      unfold size at enough
      omega
    rw [copy, if_neg enough]
    simp only [Outcome.Inside, mem_append, mem_singleton, or_imp, forall_and, forall_eq] at text ⊢
    constructor
    · intro inside _
      have := text.mp ⟨inside.1, inside.2.1.2, inside.2.2.2⟩
      omega
    · intro sensible
      have := text.mpr (by have := sensible (by omega); omega)
      exact ⟨this.1, ⟨low, this.2.1⟩, first, this.2.2⟩

lemma call_inBounds_iff (low : 0 ≤ p) (high : p ≤ buffer.length) (taken : Call) :
  InBounds buffer p taken ↔ Sensible buffer p taken := by
  cases taken with
  | GET kind =>
    refine (copy_inBounds low high).trans (iff_of_true ?_ trivial)
    omega
  | GET_STRING =>
    refine (prefixed_inBounds low high).trans (iff_of_true ?_ trivial)
    intro _
    dsimp only
    omega
  | GET_LSTRING =>
    refine (prefixed_inBounds low high).trans ?_
    have small := ofLittleEndian_lt (bytesAt buffer p 4)
    have four : (bytesAt buffer p 4).length ≤ 4 := length_take_le ..
    have below := small.trans_le (Nat.pow_le_pow_right (by decide) four)
    unfold Sensible int32
    constructor
    · intro inside enough
      have := inside enough
      dsimp only at this ⊢
      split at this <;> omega
    · intro sensible enough
      have := sensible enough
      dsimp only at this ⊢
      split <;> omega
  | GET_NSTRING str_len | GET_RAWSTRING str_len =>
    refine (copy_inBounds low high).trans (iff_of_true ?_ trivial)
    omega
  | SKIP_N n =>
    unfold InBounds Outcome.Inside Sensible call size
    dsimp only
    split
    · simp only [not_mem_nil, false_imp_iff, implies_true, and_true]
      omega
    · simp only [not_mem_nil, false_imp_iff, implies_true, and_true]
      omega

end Reading

/-! ## Writing -/

/-- The values of the `ADD` calls. -/
inductive Value where
  | UINT8 (ret : UInt8)
  | INT8 (ret : Int8)
  | UINT16 (ret : UInt16)
  | INT16 (ret : Int16)
  | UINT32 (ret : UInt32)
  | INT32 (ret : Int32)
  | STRING (add : Stream)
  | LSTRING (add : Stream)

namespace Value

/-- What a call copies into the buffer, one piece after another. -/
def pieces : Value → List Stream
  | .UINT8 ret => [littleEndian 1 ret.toNat]
  | .INT8 ret => [littleEndian 1 ret.toUInt8.toNat]
  | .UINT16 ret => [littleEndian 2 ret.toNat]
  | .INT16 ret => [littleEndian 2 ret.toUInt16.toNat]
  | .UINT32 ret => [littleEndian 4 ret.toNat]
  | .INT32 ret => [littleEndian 4 ret.toUInt32.toNat]
  | .STRING add =>
    let str_len := add.length % 2 ^ 16
    [littleEndian 2 str_len, add.take str_len]
  | .LSTRING add =>
    let str_len := add.length % 2 ^ 32
    [littleEndian 4 str_len, add.take str_len]

/-- The call that reads such a value. -/
def get : Value → Call
  | .UINT8 _ => .GET .UINT8
  | .INT8 _ => .GET .INT8
  | .UINT16 _ => .GET .UINT16
  | .INT16 _ => .GET .INT16
  | .UINT32 _ => .GET .UINT32
  | .INT32 _ => .GET .INT32
  | .STRING _ => .GET_STRING
  | .LSTRING _ => .GET_LSTRING

/-- The texts are short enough for their lengths. -/
def Short : Value → Prop
  | .STRING add => add.length < 2 ^ 16
  | .LSTRING add => add.length < 2 ^ 31
  | _ => True

end Value

/-- The value that a call makes of the bytes it has read, where it is one that is written. -/
def Call.value : Call → Stream → Option Value
  | .GET .UINT8, bytes => some (.UINT8 (.ofNat (ofLittleEndian bytes)))
  | .GET .INT8, bytes => some (.INT8 (UInt8.ofNat (ofLittleEndian bytes)).toInt8)
  | .GET .UINT16, bytes => some (.UINT16 (.ofNat (ofLittleEndian bytes)))
  | .GET .INT16, bytes => some (.INT16 (UInt16.ofNat (ofLittleEndian bytes)).toInt16)
  | .GET .UINT32, bytes => some (.UINT32 (.ofNat (ofLittleEndian bytes)))
  | .GET .INT32, bytes => some (.INT32 (UInt32.ofNat (ofLittleEndian bytes)).toInt32)
  | .GET_STRING, bytes => some (.STRING bytes)
  | .GET_LSTRING, bytes => some (.LSTRING bytes)
  | _, _ => none

/-- The values which some calls read one after another, and the pointer then. -/
def getAll (buffer : Stream) : Int → List Call → Option (List Value × Int)
  | p, [] => some ([], p)
  | p, taken :: rest =>
    let outcome := call buffer p taken
    outcome.ret.bind fun bytes =>
      (taken.value bytes).bind fun value =>
        (getAll buffer outcome.p rest).map fun read => (value :: read.1, read.2)

/-- The sizes as `uint32_t`, and the bytes that have been copied. -/
structure PropWriteStream where
  buffer_size : Nat
  size : Nat
  buffer : Stream

namespace PropWriteStream

/-- The constructor. -/
def new : PropWriteStream := ⟨32, 0, []⟩

/-- A piece is copied to the end of the buffer, unless it would go beyond. -/
def add (stream : PropWriteStream) (piece : Stream) : Option PropWriteStream :=
  let buffer_size :=
    if (stream.buffer_size + 2 ^ 32 - stream.size) % 2 ^ 32 < piece.length then
      (stream.buffer_size + piece.length + 0x1F) % 2 ^ 32
    else stream.buffer_size
  if stream.size + piece.length ≤ buffer_size then
    some ⟨buffer_size, (stream.size + piece.length) % 2 ^ 32, stream.buffer ++ piece⟩
  else none

/-- The stream after the calls, if nothing has been written beyond the buffer. -/
def addAll (values : List Value) : Option PropWriteStream :=
  (values.flatMap Value.pieces).foldlM add new

end PropWriteStream

/-- All is written into the buffer, and what is read is what was written, up to the end. -/
def RoundTrips (values : List Value) : Prop :=
  ∃ stream,
    PropWriteStream.addAll values = some stream ∧
      stream.buffer.length = stream.size ∧
        getAll stream.buffer 0 (values.map Value.get) = some (values, (stream.size : Int))

/-- How many bytes are allocated after pieces of these lengths, as an exact number. -/
def allocated : Nat → Nat → List Nat → Nat
  | buffer_size, _, [] => buffer_size
  | buffer_size, size, count :: rest =>
    allocated (if buffer_size - size < count then buffer_size + count + 31 else buffer_size)
      (size + count) rest

/-- The lengths of the pieces that some values are written in. -/
def lengths (values : List Value) : List Nat :=
  (values.flatMap Value.pieces).map List.length

section Writing

variable {buffer before piece after : Stream} {value : Value} {values : List Value} {p : Int}

lemma copy_at {count : Nat} {compared : Int} (parts : buffer = before ++ piece ++ after)
  (here : p = before.length) (whole : count = piece.length) (enough : compared ≤ count) :
  copy buffer p count compared = ⟨some piece, [(p, count)], p + count⟩ := by
  have room : ¬ PropStreams.size buffer p < compared := by
    rw [PropStreams.size, here, parts, length_append, length_append]
    omega
  rw [copy, if_neg room, bytesAt, here, Int.toNat_natCast, whole, parts, append_assoc,
    drop_left' rfl, take_left' rfl]

lemma prefixed_at {sizeof : Nat} {compared : Nat → Int}
  (parts : buffer = before ++ (littleEndian sizeof piece.length ++ piece) ++ after)
  (here : p = before.length) (short : piece.length < 256 ^ sizeof)
  (enough : compared piece.length ≤ piece.length) :
  ∃ accesses,
    prefixed buffer p sizeof compared =
      ⟨some piece, accesses, p + (sizeof + piece.length : Nat)⟩ := by
  have number : GET_VALUE buffer p sizeof = ⟨_, _, _⟩ :=
    copy_at (by rw [parts, append_assoc, append_assoc, ← append_assoc before]) here
      (littleEndian_length ..).symm (Int.le_refl _)
  have text :
      copy buffer (p + sizeof) piece.length (compared piece.length) = ⟨_, _, _⟩ :=
    copy_at (by rw [parts, ← append_assoc before])
      (by rw [here, length_append, littleEndian_length]; rfl) rfl enough
  rw [prefixed, number]
  simp only [ofLittleEndian_littleEndian, Nat.mod_eq_of_lt short, text]
  rw [Int.add_assoc]
  exact ⟨_, rfl⟩

/-- A value is read where it stands, whatever is around it. -/
lemma call_at (short : value.Short)
  (parts : buffer = before ++ value.pieces.flatten ++ after) (here : p = before.length) :
  ∃ bytes accesses,
    call buffer p value.get = ⟨some bytes, accesses, p + value.pieces.flatten.length⟩ ∧
      value.get.value bytes = some value := by
  have number : ∀ (kind : Kind) (content : Nat),
      value.pieces = [littleEndian kind.sizeof content] → value.get = .GET kind →
        content < 256 ^ kind.sizeof →
        (∀ bytes, ofLittleEndian bytes = content → value.get.value bytes = some value) →
        ∃ bytes accesses,
          call buffer p value.get = ⟨some bytes, accesses, p + value.pieces.flatten.length⟩ ∧
            value.get.value bytes = some value := by
    intro kind content pieces get small made
    rw [pieces, flatten_singleton] at parts
    have read : GET_VALUE buffer p kind.sizeof = _ :=
      copy_at parts here (littleEndian_length ..).symm (Int.le_refl _)
    refine ⟨littleEndian kind.sizeof content, [(p, kind.sizeof)], ?_, made _ ?_⟩
    · rw [get, pieces, flatten_singleton, littleEndian_length]
      exact read
    · rw [ofLittleEndian_littleEndian, Nat.mod_eq_of_lt small]
  cases value with
  | UINT8 ret =>
    exact number .UINT8 _ rfl rfl ret.toNat_lt fun _ same => by simp [Value.get, Call.value, same]
  | INT8 ret =>
    exact number .INT8 _ rfl rfl ret.toUInt8.toNat_lt fun _ same => by
      simp only [Value.get, Call.value, same, UInt8.ofNat_toNat, Int8.toInt8_toUInt8]
  | UINT16 ret =>
    exact number .UINT16 _ rfl rfl ret.toNat_lt fun _ same => by simp [Value.get, Call.value, same]
  | INT16 ret =>
    exact number .INT16 _ rfl rfl ret.toUInt16.toNat_lt fun _ same => by
      simp only [Value.get, Call.value, same, UInt16.ofNat_toNat, Int16.toInt16_toUInt16]
  | UINT32 ret =>
    exact number .UINT32 _ rfl rfl ret.toNat_lt fun _ same => by simp [Value.get, Call.value, same]
  | INT32 ret =>
    exact number .INT32 _ rfl rfl ret.toUInt32.toNat_lt fun _ same => by
      simp only [Value.get, Call.value, same, UInt32.ofNat_toNat, Int32.toInt32_toUInt32]
  | STRING add =>
    have whole : add.length % 2 ^ 16 = add.length := Nat.mod_eq_of_lt short
    simp only [Value.pieces, whole, take_length, flatten_cons, flatten_nil, append_nil] at parts ⊢
    obtain ⟨accesses, read⟩ := prefixed_at parts here short (Int.le_refl _)
    rw [length_append, littleEndian_length]
    exact ⟨add, accesses, read, rfl⟩
  | LSTRING add =>
    have small : add.length < 2 ^ 32 := Nat.lt_trans short (by decide)
    have whole : add.length % 2 ^ 32 = add.length := Nat.mod_eq_of_lt small
    have positive : int32 add.length = add.length := if_pos short
    simp only [Value.pieces, whole, take_length, flatten_cons, flatten_nil, append_nil] at parts ⊢
    obtain ⟨accesses, read⟩ := prefixed_at parts here small (Int.le_of_eq positive)
    rw [length_append, littleEndian_length]
    exact ⟨add, accesses, read, rfl⟩

/-- The bytes of some values, one after another. -/
def bytesOf (values : List Value) : Stream := (values.flatMap Value.pieces).flatten

lemma getAll_at (short : ∀ value ∈ values, value.Short)
  (parts : buffer = before ++ bytesOf values) (here : p = before.length) :
  getAll buffer p (values.map Value.get) = some (values, (buffer.length : Int)) := by
  induction values generalizing before p with
  | nil =>
    rw [map_nil, getAll, here, parts, bytesOf, flatMap_nil, flatten_nil, append_nil]
  | cons value rest ih =>
    have split : bytesOf (value :: rest) = value.pieces.flatten ++ bytesOf rest := by
      rw [bytesOf, flatMap_cons, flatten_append]
      rfl
    rw [split, ← append_assoc] at parts
    obtain ⟨bytes, accesses, read, made⟩ := call_at (short value mem_cons_self) parts here
    have later : getAll buffer (p + value.pieces.flatten.length) (rest.map Value.get) = _ :=
      ih (fun other mem => short other (mem_cons_of_mem _ mem)) parts
        (by rw [length_append, here]; rfl)
    rw [map_cons, getAll, read]
    simp only [Option.bind_some, made, later, Option.map_some]

lemma le_allocated (buffer_size size : Nat) (counts : List Nat) :
  buffer_size ≤ allocated buffer_size size counts := by
  induction counts generalizing buffer_size size with
  | nil => exact Nat.le_refl _
  | cons count rest ih =>
    refine Nat.le_trans ?_ (ih ..)
    split <;> omega

/-- As long as its size is no larger than a `uint32_t`, the buffer has room for a piece. -/
lemma add_spec {stream : PropWriteStream} (inside : stream.size ≤ stream.buffer_size)
    (fits : stream.buffer_size < 2 ^ 32) (small : piece.length < 2 ^ 31)
    (total : stream.size + piece.length < 2 ^ 32) :
    let buffer_size :=
      if stream.buffer_size - stream.size < piece.length then
        stream.buffer_size + piece.length + 31
      else stream.buffer_size
    stream.size + piece.length ≤ buffer_size ∧
      stream.add piece =
        if buffer_size < 2 ^ 32 then
          some ⟨buffer_size, stream.size + piece.length, stream.buffer ++ piece⟩
        else none := by
  have free :
      (stream.buffer_size + 2 ^ 32 - stream.size) % 2 ^ 32 = stream.buffer_size - stream.size := by
    omega
  unfold PropWriteStream.add
  rw [free, Nat.mod_eq_of_lt total]
  dsimp only
  split
  · refine ⟨by omega, ?_⟩
    split
    · rename_i full enough
      have exact' : (stream.buffer_size + piece.length + 31) % 2 ^ 32 =
          stream.buffer_size + piece.length + 31 := by omega
      rw [exact', if_pos (by omega)]
    · rename_i full beyond
      rw [if_neg (by omega)]
  · refine ⟨by omega, ?_⟩
    rw [if_pos (by omega)]

lemma addAll_spec {pieces : List Stream} {stream : PropWriteStream}
  (inside : stream.size ≤ stream.buffer_size) (fits : stream.buffer_size < 2 ^ 32)
  (small : ∀ piece ∈ pieces, piece.length < 2 ^ 31)
  (total : stream.size + pieces.flatten.length < 2 ^ 32) :
  pieces.foldlM PropWriteStream.add stream =
    let buffer_size := allocated stream.buffer_size stream.size (pieces.map List.length)
    if buffer_size < 2 ^ 32 then
      some
        ⟨buffer_size, stream.size + pieces.flatten.length, stream.buffer ++ pieces.flatten⟩
    else none := by
  induction pieces generalizing stream with
  | nil =>
    rw [foldlM_nil, map_nil, allocated, flatten_nil, append_nil, length_nil, Nat.add_zero]
    exact (if_pos fits).symm
  | cons piece rest ih =>
    rw [flatten_cons, length_append, ← Nat.add_assoc] at total
    obtain ⟨room, added⟩ := add_spec inside fits (small piece mem_cons_self) (by omega)
    rw [foldlM_cons, added, map_cons, allocated, flatten_cons, length_append]
    generalize (if stream.buffer_size - stream.size < piece.length then
      stream.buffer_size + piece.length + 31 else stream.buffer_size) = buffer_size at room ⊢
    by_cases enough : buffer_size < 2 ^ 32
    · rw [if_pos enough]
      refine (ih room enough
        (fun other mem => small other (mem_cons_of_mem _ mem)) total).trans ?_
      simp only [append_assoc, Nat.add_assoc]
    · have more := le_allocated buffer_size (stream.size + piece.length) (rest.map List.length)
      rw [if_neg enough]
      exact (if_neg (by omega)).symm

lemma pieces_small (short : value.Short) (mem : piece ∈ value.pieces) :
  piece.length < 2 ^ 31 := by
  cases value with
  | STRING add | LSTRING add =>
    simp only [Value.pieces, mem_cons, not_mem_nil, or_false] at mem
    simp only [Value.Short] at short
    rcases mem with rfl | rfl
    · rw [littleEndian_length]
      decide
    · rw [length_take]
      omega
  | _ =>
    rw [Value.pieces, mem_singleton] at mem
    rw [mem, littleEndian_length]
    decide

lemma addAll_eq (short : ∀ value ∈ values, value.Short) (total : (lengths values).sum < 2 ^ 32) :
  PropWriteStream.addAll values =
    if allocated 32 0 (lengths values) < 2 ^ 32 then
      some ⟨allocated 32 0 (lengths values), (bytesOf values).length, bytesOf values⟩
    else none := by
  have whole : (values.flatMap Value.pieces).flatten.length = (lengths values).sum :=
    length_flatten
  have spec :=
    @addAll_spec (values.flatMap Value.pieces) .new (Nat.zero_le _) (by decide) (by
      intro piece mem
      obtain ⟨value, listed, inside⟩ := mem_flatMap.mp mem
      exact pieces_small (short value listed) inside) (by
      rw [whole]
      exact (Nat.zero_add _).trans_lt total)
  rw [PropWriteStream.addAll, spec]
  simp only [PropWriteStream.new, Nat.zero_add, nil_append]
  rfl

/-- Values come back exactly as long as the size of the buffer is a `uint32_t`. -/
theorem values_roundTrip_iff (values : List Value) (short : ∀ value ∈ values, value.Short)
  (total : (lengths values).sum < 2 ^ 32) :
  RoundTrips values ↔ allocated 32 0 (lengths values) < 2 ^ 32 := by
  have written := addAll_eq short total
  constructor
  · rintro ⟨stream, added, -⟩
    by_contra beyond
    rw [if_neg beyond, added] at written
    cases written
  · intro enough
    rw [if_pos enough] at written
    exact ⟨_, written, rfl, @getAll_at _ [] values 0 short rfl rfl⟩

/-- A number and a text. -/
theorem values_roundTrip_text : RoundTrips [.UINT32 7, .STRING [104, 105]] :=
  (values_roundTrip_iff _ (by simp [Value.Short]) (by decide)).mpr (by decide)

/-- Two long texts need an allocation of more than 32 bits. -/
theorem long_texts_overrun :
  ¬ ∀ values : List Value,
      (∀ value ∈ values, value.Short) → (lengths values).sum < 2 ^ 32 → RoundTrips values := by
  intro all
  let values : List Value :=
    [.LSTRING (replicate (2 ^ 31 - 1) 0), .LSTRING (replicate (2 ^ 31 - 10) 0)]
  have counts : lengths values = [4, 2 ^ 31 - 1, 4, 2 ^ 31 - 10] := by
    simp only [lengths, values, Value.pieces, flatMap_cons, flatMap_nil, append_nil, cons_append,
      nil_append, map_cons, map_nil, littleEndian_length, length_take, length_replicate]
    rfl
  have short : ∀ value ∈ values, value.Short := by
    simp only [values, mem_cons, not_mem_nil, or_false, forall_eq_or_imp, forall_eq, Value.Short,
      length_replicate]
    decide
  have total : (lengths values).sum < 2 ^ 32 := by
    rw [counts]
    decide
  obtain ⟨stream, added, -⟩ := all values short total
  rw [addAll_eq short total, counts, if_neg (by decide)] at added
  cases added

end Writing

end OTServ.NodeFiles.PropStreams
