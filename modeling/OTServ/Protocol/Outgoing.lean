import OTServ.Protocol.Incoming
import Mathlib.Data.List.TakeWhile

/-!
# Writing outgoing messages

An outgoing message is put together by `Add` calls behind each other.  A call
without room is dropped in silence, and the next one is tried again.  The client
can make sense of such a message only if nothing follows what was dropped: the
calls which took effect have to be the first ones, and the client reads back
their values.

A smaller call may still have room where a larger one had none; a position is
written in three parts, of which the middle one may be missing; texts and byte
blocks over 8192 bytes are dropped at any time; and a string is cut off at a zero
byte.  The calls leave an intact message exactly when they begin with calls which
are free of all that and fit together, and none of the others fits even in part.
-/

namespace OTServ.Protocol.NetworkMessages

open Library.ByteStreams
open Library.Dependence
open OTServ.Map

inductive AddCall where
  | AddByte (value : UInt8)
  | AddU16 (value : UInt16)
  | AddU32 (value : UInt32)
  | AddString (value : List UInt8)
  | AddBytes (bytes : List UInt8)
  | AddPosition (pos : Position)

namespace AddCall

def make (message : NetworkMessage) : AddCall → NetworkMessage
  | AddByte value => NetworkMessages.AddByte value message
  | AddU16 value => NetworkMessages.AddU16 value message
  | AddU32 value => NetworkMessages.AddU32 value message
  | AddString value => NetworkMessages.AddString value message
  | AddBytes bytes => NetworkMessages.AddBytes bytes message
  | AddPosition pos => NetworkMessages.AddPosition pos message

def gets : AddCall → List Call
  | AddByte _ => [.GetByte]
  | AddU16 _ => [.GetU16]
  | AddU32 _ => [.GetU32]
  | AddString _ => [.GetString]
  | AddBytes bytes => bytes.map fun _ => .GetByte
  | AddPosition _ => [.GetPosition]

def values : AddCall → List Value
  | AddByte value => [.byte value]
  | AddU16 value => [.number value.toNat]
  | AddU32 value => [.number value.toNat]
  | AddString value => [.text value]
  | AddBytes bytes => bytes.map .byte
  | AddPosition pos => [.position pos]

def size : AddCall → Nat
  | AddByte _ => 1
  | AddU16 _ => 2
  | AddU32 _ => 4
  | AddString value => 2 + value.length
  | AddBytes bytes => bytes.length
  | AddPosition _ => 5

end AddCall

def addAll (calls : List AddCall) (message : NetworkMessage) : NetworkMessage :=
  calls.foldl AddCall.make message

def totalSize (calls : List AddCall) : Nat :=
  (calls.map AddCall.size).sum

/-- The message as the client reads it, from the start of its body. -/
def NetworkMessage.rewound (message : NetworkMessage) : NetworkMessage :=
  { message with m_ReadPos := 4 }

/--
The first calls took effect and the others did not change the message; its size is
that of the written bytes, which are all in the buffer; and reading it in the same
order returns the written values.
-/
def Intact (message : NetworkMessage) (calls : List AddCall) : Prop :=
  ∃ done rest, calls = done ++ rest ∧
    (∀ later, later <+: rest → addAll (done ++ later) message = addAll done message) ∧
    (addAll calls message).m_MsgSize = totalSize done ∧
    (addAll calls message).m_MsgSize + 4 ≤ NETWORKMESSAGE_MAXSIZE ∧
    (∀ place, ¬ InArray place → (addAll calls message).m_MsgBuf place = message.m_MsgBuf place) ∧
    values (done.flatMap AddCall.gets) (addAll calls message).rewound =
      done.flatMap AddCall.values ∧
    ¬ (cursorAfter (done.flatMap AddCall.gets) (addAll calls message).rewound).Overrun

namespace AddCall

/-- The values come out of the bytes as they went in, and no limit is passed. -/
def Clean : AddCall → Prop
  | AddByte _ => True
  | AddU16 _ => True
  | AddU32 _ => True
  | AddString value => 0 ∉ value ∧ value.length ≤ 8192
  | AddBytes bytes => bytes.length ≤ 8192
  | AddPosition pos => pos.z.toNat < 256

def Ignored (pos : Int) : AddCall → Prop
  | AddByte _ => NETWORKMESSAGE_MAXSIZE - 16 ≤ pos + 1
  | AddU16 _ => NETWORKMESSAGE_MAXSIZE - 16 ≤ pos + 2
  | AddU32 _ => NETWORKMESSAGE_MAXSIZE - 16 ≤ pos + 4
  | AddString value =>
    let stringlen : Nat := (c_str value).length % 2 ^ 32
    8192 < stringlen ∨ NETWORKMESSAGE_MAXSIZE - 16 ≤ pos + (stringlen + 2)
  | AddBytes bytes =>
    let size : Nat := bytes.length % 2 ^ 32
    size = 0 ∨ 8192 < size ∨ NETWORKMESSAGE_MAXSIZE - 16 ≤ pos + size
  -- the last part is a single byte
  | AddPosition _ => NETWORKMESSAGE_MAXSIZE - 16 ≤ pos + 1

end AddCall

/--
The calls begin with clean ones which fit into a new message together, and behind
these none of the others would be written even in part.
-/
def Fit (calls : List AddCall) : Prop :=
  ∃ done rest, calls = done ++ rest ∧
    (∀ call ∈ done, call.Clean) ∧
    (4 + totalSize done : Int) < NETWORKMESSAGE_MAXSIZE - 16 ∧
    ∀ call ∈ rest, call.Ignored (4 + totalSize done)

section Writers

variable (message : NetworkMessage)

lemma canAdd_iff (cursor : Cursor) (size : Int) :
  cursor.canAdd size ↔ cursor.m_ReadPos + size < NETWORKMESSAGE_MAXSIZE - 16 := by
  rw [Cursor.canAdd]
  omega

lemma addByte_eq (value : UInt8) :
  AddByte value message =
    if message.m_ReadPos + 1 < NETWORKMESSAGE_MAXSIZE - 16 then
      message.write [value] 1
    else message := by
  simp only [AddByte, canAdd_iff]

lemma addNumber_eq (width value : Nat) :
  addNumber width value message =
    if message.m_ReadPos + width < NETWORKMESSAGE_MAXSIZE - 16 then
      message.write (littleEndian width value) width
    else message := by
  simp only [addNumber, canAdd_iff]

lemma toInt_of_small {number : Nat} (small : number < 2 ^ 31) : toInt number = number := by
  rw [toInt, Nat.mod_eq_of_lt (by omega), if_pos small]

lemma refused_iff (cursor : Cursor) (size extra : Nat) (few : extra ≤ 2) :
  (¬ cursor.canAdd (toInt (size + extra)) ∨ 8192 < size) ↔
    8192 < size ∨ NETWORKMESSAGE_MAXSIZE - 16 ≤ cursor.m_ReadPos + (size + extra) := by
  by_cases long : 8192 < size
  · exact iff_of_true (Or.inr long) (Or.inl long)
  · have small : toInt (size + extra) = (size + extra : Nat) := toInt_of_small (by omega)
    rw [or_iff_left long, or_iff_right long, canAdd_iff, small]
    omega

/-- A string is its length and its bytes up to the terminator, or nothing. -/
lemma addString_eq (value : List UInt8) :
  AddString value message =
    if 8192 < (c_str value).length % 2 ^ 32 ∨
        NETWORKMESSAGE_MAXSIZE - 16 ≤
          message.m_ReadPos + (((c_str value).length % 2 ^ 32 : Nat) + 2) then
      message
    else
      (message.write
          (littleEndian 2 ((c_str value).length % 2 ^ 32)) 2).write
        (c_str value ++ [0]) ((c_str value).length % 2 ^ 32) := by
  simp only [AddString, refused_iff message.toCursor _ 2 (Nat.le_refl 2), Nat.cast_ofNat]
  split
  · rfl
  · rename_i accepted
    rw [not_or] at accepted
    have word :
        (UInt16.ofNat ((c_str value).length % 2 ^ 32)).toNat = (c_str value).length % 2 ^ 32 := by
      rw [UInt16.toNat_ofNat']
      exact Nat.mod_eq_of_lt (by omega)
    rw [AddU16, word, addNumber_eq, if_pos (by omega)]

lemma addBytes_eq (bytes : List UInt8) :
  AddBytes bytes message =
    if 8192 < bytes.length % 2 ^ 32 ∨
        NETWORKMESSAGE_MAXSIZE - 16 ≤ message.m_ReadPos + (bytes.length % 2 ^ 32 : Nat) then
      message
    else
      message.write (bytes.take (bytes.length % 2 ^ 32)) (bytes.length % 2 ^ 32) := by
  have refused := refused_iff message.toCursor (bytes.length % 2 ^ 32) 0 (Nat.zero_le 2)
  rw [Nat.cast_zero, add_zero, add_zero] at refused
  simp only [AddBytes, refused]

end Writers

/-- The position of a message that was put together from a new one. -/
structure Filled (message : NetworkMessage) : Prop where
  position : message.m_ReadPos = 4 + message.m_MsgSize
  counted : 0 ≤ message.m_MsgSize
  room : message.m_ReadPos < NETWORKMESSAGE_MAXSIZE - 16

namespace Filled

variable {message : NetworkMessage}

lemma reset : Filled message.Reset where
  position := rfl
  counted := Int.le_refl 0
  room := show (4 : Int) < 16768 - 16 by decide

variable (filled : Filled message)
include filled

lemma write {bytes : List UInt8} {count : Nat}
  (fits : message.m_ReadPos + count < NETWORKMESSAGE_MAXSIZE - 16) :
  Filled (message.write bytes count) where
  position := by
    have position := filled.position
    simp only [NetworkMessage.write]
    omega
  counted := by
    have counted := filled.counted
    simp only [NetworkMessage.write]
    omega
  room := fits

lemma number (width value : Nat) : Filled (addNumber width value message) := by
  rw [addNumber_eq]
  split
  · exact filled.write ‹_›
  · exact filled

lemma byte (value : UInt8) : Filled (AddByte value message) := by
  rw [addByte_eq]
  split
  · exact filled.write ‹_›
  · exact filled

lemma make (call : AddCall) : Filled (call.make message) := by
  cases call with
  | AddByte value => exact filled.byte value
  | AddU16 value => exact filled.number 2 value.toNat
  | AddU32 value => exact filled.number 4 value.toNat
  | AddString value =>
    simp only [AddCall.make]
    rw [addString_eq]
    split
    · exact filled
    · rename_i accepted
      refine (filled.write (by omega)).write ?_
      simp only [NetworkMessage.write]
      omega
  | AddBytes bytes =>
    simp only [AddCall.make]
    rw [addBytes_eq]
    split
    · exact filled
    · rename_i accepted
      rw [not_or] at accepted
      exact filled.write (by omega)
  | AddPosition pos =>
    exact ((filled.number 2 _).number 2 _).byte _

lemma all (calls : List AddCall) : Filled (addAll calls message) := by
  induction calls generalizing message with
  | nil => exact filled
  | cons call calls ih => exact ih (filled.make call)

end Filled

/-! ## What a call writes -/

namespace AddCall

def Whole : AddCall → Prop
  | AddString value => 0 ∉ value ∧ value.length ≤ 8192
  | AddBytes bytes => bytes.length ≤ 8192
  | _ => True

lemma Clean.whole {call : AddCall} (clean : call.Clean) : call.Whole := by
  cases call with
  | AddString value => exact clean
  | AddBytes bytes => exact clean
  | _ => trivial

end AddCall

lemma c_str_length_le (value : List UInt8) : (c_str value).length ≤ value.length :=
  (List.takeWhile_prefix _).length_le

lemma c_str_eq_iff {value : List UInt8} : (c_str value).length = value.length ↔ 0 ∉ value := by
  constructor
  · intro same
    have whole : c_str value = value := (List.takeWhile_prefix _).eq_of_length same
    intro inside
    have passed := List.takeWhile_eq_self_iff.1 whole 0 inside
    exact absurd passed (by decide)
  · intro outside
    have whole : c_str value = value := by
      refine List.takeWhile_eq_self_iff.2 fun byte isByte => ?_
      rw [decide_eq_true_eq]
      rintro rfl
      exact outside isByte
    rw [whole]

lemma write_nil (message : NetworkMessage) : message.write [] 0 = message := by
  have kept : store message.m_MsgBuf message.m_ReadPos [] =
      message.m_MsgBuf := by
    funext place
    rw [store, List.getElem?_nil, Option.getD_none, ite_self]
  simp only [NetworkMessage.write, kept, Nat.cast_zero, add_zero]

section Growth

variable {message : NetworkMessage}

lemma addNumber_counters (message : NetworkMessage) (width value : Nat) :
  (message.m_ReadPos + width < NETWORKMESSAGE_MAXSIZE - 16 ∧
      (addNumber width value message).m_MsgSize = message.m_MsgSize + width ∧
      (addNumber width value message).m_ReadPos = message.m_ReadPos + width) ∨
    (NETWORKMESSAGE_MAXSIZE - 16 ≤ message.m_ReadPos + width ∧
      addNumber width value message = message) := by
  rw [addNumber_eq]
  split
  · rename_i fits
    exact Or.inl ⟨fits, rfl, rfl⟩
  · rename_i noRoom
    exact Or.inr ⟨by omega, rfl⟩

lemma addByte_counters (message : NetworkMessage) (value : UInt8) :
  (message.m_ReadPos + 1 < NETWORKMESSAGE_MAXSIZE - 16 ∧
      (AddByte value message).m_MsgSize = message.m_MsgSize + 1 ∧
      (AddByte value message).m_ReadPos = message.m_ReadPos + 1) ∨
    (NETWORKMESSAGE_MAXSIZE - 16 ≤ message.m_ReadPos + 1 ∧ AddByte value message = message) := by
  rw [addByte_eq]
  split
  · rename_i fits
    exact Or.inl ⟨fits, rfl, rfl⟩
  · rename_i noRoom
    exact Or.inr ⟨by omega, rfl⟩

/-- The three parts of a position are written or dropped one by one. -/
lemma addPosition_counters (message : NetworkMessage) (pos : Position) :
  (message.m_ReadPos + 5 < NETWORKMESSAGE_MAXSIZE - 16 ∧
      (AddPosition pos message).m_MsgSize = message.m_MsgSize + 5) ∨
    (NETWORKMESSAGE_MAXSIZE - 16 ≤ message.m_ReadPos + 5 ∧
      message.m_ReadPos + 1 < NETWORKMESSAGE_MAXSIZE - 16 ∧
      message.m_MsgSize < (AddPosition pos message).m_MsgSize ∧
      (AddPosition pos message).m_MsgSize < message.m_MsgSize + 5) ∨
    (NETWORKMESSAGE_MAXSIZE - 16 ≤ message.m_ReadPos + 1 ∧
      AddPosition pos message = message) := by
  rw [AddPosition]
  have first := addNumber_counters message 2 pos.x.toNat
  have second := addNumber_counters (AddU16 pos.x message) 2 pos.y.toNat
  have third := addByte_counters (AddU16 pos.y (AddU16 pos.x message)) (UInt8.ofNat pos.z.toNat)
  rw [← AddU16] at first second
  rcases first with ⟨fits, size, place⟩ | ⟨noRoom, same⟩
  · rcases second with ⟨fits', size', place'⟩ | ⟨noRoom', same'⟩
    · rcases third with ⟨fits'', size'', -⟩ | ⟨noRoom'', same''⟩
      · omega
      · rw [same'']
        omega
    · rw [same'] at third ⊢
      rcases third with ⟨fits'', size'', -⟩ | ⟨noRoom'', same''⟩
      · omega
      · rw [same'']
        omega
  · rw [same] at second third ⊢
    rcases second with ⟨fits', -, -⟩ | ⟨noRoom', same'⟩
    · omega
    · rw [same'] at third ⊢
      rcases third with ⟨fits'', size'', -⟩ | ⟨noRoom'', same''⟩
      · omega
      · exact Or.inr (Or.inr ⟨noRoom'', same''⟩)

lemma make_grows (filled : Filled message) (call : AddCall) :
  message.m_MsgSize ≤ (call.make message).m_MsgSize ∧
    (call.make message).m_MsgSize ≤ message.m_MsgSize + call.size ∧
    ((call.make message).m_MsgSize = message.m_MsgSize + call.size →
      call.Whole ∧ message.m_ReadPos + call.size < NETWORKMESSAGE_MAXSIZE - 16) := by
  have room := filled.room
  have number (width value : Nat) :
      message.m_MsgSize ≤ (addNumber width value message).m_MsgSize ∧
        (addNumber width value message).m_MsgSize ≤ message.m_MsgSize + width ∧
        ((addNumber width value message).m_MsgSize =
            message.m_MsgSize + width →
          True ∧ message.m_ReadPos + width < NETWORKMESSAGE_MAXSIZE - 16) := by
    rw [true_and]
    rcases addNumber_counters message width value with ⟨fits, size, -⟩ | ⟨noRoom, same⟩
    · omega
    · rw [same]
      omega
  cases call with
  | AddByte value =>
    simp only [AddCall.make, AddCall.size, AddCall.Whole, true_and]
    rcases addByte_counters message value with ⟨fits, size, -⟩ | ⟨noRoom, same⟩
    · omega
    · rw [same]
      omega
  | AddU16 value => exact number 2 value.toNat
  | AddU32 value => exact number 4 value.toNat
  | AddString value =>
    have short := c_str_length_le value
    simp only [AddCall.make, AddCall.size, AddCall.Whole]
    rw [addString_eq, ← c_str_eq_iff]
    split
    · omega
    · rename_i accepted
      rw [not_or] at accepted
      simp only [NetworkMessage.write]
      omega
  | AddBytes bytes =>
    simp only [AddCall.make, AddCall.size, AddCall.Whole]
    rw [addBytes_eq]
    split
    · omega
    · rename_i accepted
      rw [not_or] at accepted
      simp only [NetworkMessage.write]
      omega
  | AddPosition pos =>
    simp only [AddCall.make, AddCall.size, AddCall.Whole, true_and]
    rcases addPosition_counters message pos
      with ⟨fits, size⟩ | ⟨noRoom, -, more, less⟩ | ⟨noRoom, same⟩
    · omega
    · omega
    · rw [same]
      omega

lemma make_eq_iff (filled : Filled message) (call : AddCall) :
  call.make message = message ↔ call.Ignored message.m_ReadPos := by
  have number (width value : Nat) (some : 0 < width) :
      addNumber width value message = message ↔
        NETWORKMESSAGE_MAXSIZE - 16 ≤ message.m_ReadPos + width := by
    rcases addNumber_counters message width value with ⟨fits, size, -⟩ | ⟨noRoom, same⟩
    · refine iff_of_false (fun same => ?_) (by omega)
      rw [same] at size
      omega
    · exact iff_of_true same noRoom
  cases call with
  | AddByte value =>
    simp only [AddCall.make, AddCall.Ignored]
    rcases addByte_counters message value with ⟨fits, size, -⟩ | ⟨noRoom, same⟩
    · refine iff_of_false (fun same => ?_) (by omega)
      rw [same] at size
      omega
    · exact iff_of_true same noRoom
  | AddU16 value => exact number 2 value.toNat Nat.two_pos
  | AddU32 value => exact number 4 value.toNat (Nat.succ_pos 3)
  | AddString value =>
    simp only [AddCall.make, AddCall.Ignored]
    rw [addString_eq]
    split
    · rename_i refused
      exact iff_of_true rfl refused
    · rename_i accepted
      refine iff_of_false (fun same => ?_) accepted
      have size := congrArg (fun next => next.m_MsgSize) same
      simp only [NetworkMessage.write] at size
      omega
  | AddBytes bytes =>
    simp only [AddCall.make, AddCall.Ignored]
    rw [addBytes_eq]
    split
    · rename_i refused
      exact iff_of_true rfl (Or.inr refused)
    · rename_i accepted
      rw [or_iff_left accepted]
      constructor
      · intro same
        have size := congrArg (fun next => next.m_MsgSize) same
        simp only [NetworkMessage.write] at size
        omega
      · intro none
        rw [none, List.take_zero]
        exact write_nil message
  | AddPosition pos =>
    simp only [AddCall.make, AddCall.Ignored]
    rcases addPosition_counters message pos with ⟨fits, size⟩ | ⟨-, fits, more, -⟩ | ⟨noRoom, same⟩
    · refine iff_of_false (fun same => ?_) (by omega)
      rw [same] at size
      omega
    · refine iff_of_false (fun same => ?_) (by omega)
      rw [same] at more
      omega
    · exact iff_of_true same noRoom

end Growth

section Runs

variable {message : NetworkMessage} {calls : List AddCall}

lemma addAll_append (done rest : List AddCall) :
  addAll (done ++ rest) message = addAll rest (addAll done message) :=
  List.foldl_append

lemma totalSize_cons (call : AddCall) (calls : List AddCall) :
  totalSize (call :: calls) = call.size + totalSize calls := by
  rfl

variable (filled : Filled message)
include filled

lemma addAll_size_le (calls : List AddCall) :
  (addAll calls message).m_MsgSize ≤ message.m_MsgSize + totalSize calls := by
  induction calls generalizing message with
  | nil => exact Int.le_of_eq (Int.add_zero _).symm
  | cons call calls ih =>
    have later := ih (filled.make call)
    have now := (make_grows filled call).2.1
    have total := totalSize_cons call calls
    have same : addAll (call :: calls) message = addAll calls (call.make message) := rfl
    rw [same]
    omega

lemma whole_of_addAll_size
  (counted : (addAll calls message).m_MsgSize = message.m_MsgSize + totalSize calls) :
  ∀ call ∈ calls, call.Whole := by
  induction calls generalizing message with
  | nil => exact fun _ isCall => absurd isCall List.not_mem_nil
  | cons call calls ih =>
    have later := addAll_size_le (filled.make call) calls
    have grows := make_grows filled call
    have total := totalSize_cons call calls
    have same : addAll (call :: calls) message = addAll calls (call.make message) := rfl
    rw [same] at counted
    intro other isOther
    rcases List.mem_cons.1 isOther with rfl | isLater
    · exact (grows.2.2 (by omega)).1
    · exact ih (filled.make call) (by omega) other isLater

lemma unchanged_iff :
  (∀ later, later <+: calls → addAll later message = message) ↔
    ∀ call ∈ calls, call.Ignored message.m_ReadPos := by
  induction calls with
  | nil =>
    refine iff_of_true ?_ fun _ isCall => absurd isCall List.not_mem_nil
    intro later isLater
    rw [List.prefix_nil.1 isLater]
    rfl
  | cons call calls ih =>
    rw [List.forall_mem_cons, ← make_eq_iff filled, ← ih]
    constructor
    · intro unchanged
      have now : call.make message = message :=
        unchanged [call] ((List.prefix_cons_inj call).2 List.nil_prefix)
      refine ⟨now, fun later isLater => ?_⟩
      have both := unchanged (call :: later) ((List.prefix_cons_inj call).2 isLater)
      rw [addAll, List.foldl_cons, now] at both
      exact both
    · rintro ⟨now, unchanged⟩ later isLater
      rcases List.prefix_cons_iff.1 isLater with rfl | ⟨rest, rfl, isRest⟩
      · rfl
      · rw [addAll, List.foldl_cons, now]
        exact unchanged rest isRest

end Runs

/-! ## The written bytes -/

namespace AddCall

def bytes : AddCall → List UInt8
  | AddByte value => [value]
  | AddU16 value => littleEndian 2 value.toNat
  | AddU32 value => littleEndian 4 value.toNat
  | AddString value => littleEndian 2 value.length ++ value
  | AddBytes bytes => bytes
  | AddPosition pos =>
    littleEndian 2 pos.x.toNat ++ littleEndian 2 pos.y.toNat ++ [UInt8.ofNat pos.z.toNat]

lemma bytes_length (call : AddCall) : call.bytes.length = call.size := by
  cases call <;> simp [bytes, size]

end AddCall

/-- These bytes were written to a new message, which `first` was before. -/
structure Wrote (first message : NetworkMessage) (bytes : List UInt8) : Prop where
  position : message.m_ReadPos = 4 + bytes.length
  size : message.m_MsgSize = bytes.length
  room : message.m_ReadPos < NETWORKMESSAGE_MAXSIZE - 16
  body : bytesAt message.m_MsgBuf 4 bytes.length = bytes
  outside : ∀ place, ¬ InArray place → message.m_MsgBuf place = first.m_MsgBuf place
  calm : message.m_overrun = false

namespace Wrote

variable {first message : NetworkMessage} {bytes : List UInt8}

lemma reset : Wrote first first.Reset [] where
  position := rfl
  size := rfl
  room := show (4 : Int) < 16768 - 16 by decide
  body := rfl
  outside := fun _ _ => rfl
  calm := rfl

variable (wrote : Wrote first message bytes)
include wrote

lemma write (more : List UInt8) (count : Nat) (enough : count ≤ more.length)
  (inside : message.m_ReadPos + more.length ≤ NETWORKMESSAGE_MAXSIZE)
  (room : message.m_ReadPos + count < NETWORKMESSAGE_MAXSIZE - 16) :
  Wrote first (message.write more count) (bytes ++ more.take count) := by
  have position := wrote.position
  have length : (bytes ++ more.take count).length = bytes.length + count := by
    rw [List.length_append, List.length_take, Nat.min_eq_left enough]
  refine ⟨?_, ?_, room, ?_, ?_, wrote.calm⟩
  · rw [length]
    simp only [NetworkMessage.write]
    omega
  · have size := wrote.size
    simp only [NetworkMessage.write]
    omega
  · have before :
        bytesAt (store message.m_MsgBuf message.m_ReadPos more) 4
            bytes.length =
          bytes := by
      refine (bytesAt_congr fun place _ high => ?_).trans wrote.body
      exact store_before (by omega)
    rw [length, bytesAt_add]
    simp only [NetworkMessage.write]
    rw [before, ← position, bytesAt_store _ _ enough]
  · intro place outside
    rw [← wrote.outside place outside]
    simp only [InArray, not_and_or, not_le, not_lt] at outside
    rcases outside with low | high
    · exact store_before (by omega)
    · exact store_behind (by omega)

lemma writeAll
  (more : List UInt8) (room : message.m_ReadPos + more.length < NETWORKMESSAGE_MAXSIZE - 16) :
  Wrote first (message.write more more.length) (bytes ++ more) := by
  have all := wrote.write more _ (Nat.le_refl more.length) (by omega) room
  rwa [List.take_length] at all

lemma number
  (width value : Nat) (room : message.m_ReadPos + width < NETWORKMESSAGE_MAXSIZE - 16) :
  Wrote first (addNumber width value message) (bytes ++ littleEndian width value) := by
  have all := wrote.writeAll (littleEndian width value) (by rwa [littleEndian_length])
  rw [littleEndian_length] at all
  rwa [addNumber_eq, if_pos room]

lemma byte (value : UInt8) (room : message.m_ReadPos + 1 < NETWORKMESSAGE_MAXSIZE - 16) :
  Wrote first (AddByte value message) (bytes ++ [value]) := by
  have all := wrote.writeAll [value] room
  rwa [addByte_eq, if_pos room]

lemma string {value : List UInt8} (outside : 0 ∉ value) (short : value.length ≤ 8192)
  (room : message.m_ReadPos + (2 + value.length : Nat) < NETWORKMESSAGE_MAXSIZE - 16) :
  Wrote first (AddString value message) (bytes ++ (littleEndian 2 value.length ++ value)) := by
  have whole : c_str value = value :=
    (List.takeWhile_prefix _).eq_of_length (c_str_eq_iff.2 outside)
  have length : value.length % 2 ^ 32 = value.length := Nat.mod_eq_of_lt (by omega)
  rw [addString_eq, whole, length, if_neg (by omega)]
  have prefixed :=
    wrote.writeAll (littleEndian 2 value.length) (by rw [littleEndian_length]; omega)
  rw [littleEndian_length] at prefixed
  have placed :
      (message.write (littleEndian 2 value.length) 2).m_ReadPos = message.m_ReadPos + 2 := rfl
  -- the terminator stands behind the text and does not count
  have text :=
    prefixed.write (value ++ [0]) value.length
      (by rw [List.length_append]; omega)
      (by rw [List.length_append, List.length_singleton]; omega)
      (by omega)
  rwa [List.take_left' rfl, List.append_assoc] at text

lemma make {call : AddCall} (whole : call.Whole)
  (room : message.m_ReadPos + call.size < NETWORKMESSAGE_MAXSIZE - 16) :
  Wrote first (call.make message) (bytes ++ call.bytes) := by
  cases call with
  | AddByte value => exact wrote.byte value room
  | AddU16 value => exact wrote.number 2 _ room
  | AddU32 value => exact wrote.number 4 _ room
  | AddString value => exact wrote.string whole.1 whole.2 room
  | AddBytes block =>
    have length : block.length % 2 ^ 32 = block.length :=
      Nat.mod_eq_of_lt (by have : block.length ≤ 8192 := whole; omega)
    simp only [AddCall.make, AddCall.size] at room ⊢
    rw [addBytes_eq, length,
      if_neg (by have : block.length ≤ 8192 := whole; omega),
      List.take_length]
    exact wrote.writeAll block room
  | AddPosition pos =>
    simp only [AddCall.make, AddCall.size, AddCall.bytes] at room ⊢
    rw [← List.append_assoc, ← List.append_assoc]
    have position := wrote.position
    have x := wrote.number 2 pos.x.toNat (by omega)
    have positionX := x.position
    rw [List.length_append, littleEndian_length] at positionX
    have y := x.number 2 pos.y.toNat (by omega)
    have positionY := y.position
    rw [List.length_append, List.length_append, littleEndian_length,
      littleEndian_length] at positionY
    exact y.byte (UInt8.ofNat pos.z.toNat) (by omega)

lemma all {calls : List AddCall} (whole : ∀ call ∈ calls, call.Whole)
  (room : message.m_ReadPos + totalSize calls < NETWORKMESSAGE_MAXSIZE - 16) :
  Wrote first (addAll calls message) (bytes ++ calls.flatMap AddCall.bytes) := by
  induction calls generalizing message bytes with
  | nil =>
    rw [List.flatMap_nil, List.append_nil]
    exact wrote
  | cons call calls ih =>
    rw [List.forall_mem_cons] at whole
    rw [totalSize_cons] at room
    have now := wrote.make whole.1 (by omega)
    have position := now.position
    rw [List.length_append, AddCall.bytes_length] at position
    rw [List.flatMap_cons, ← List.append_assoc]
    have before := wrote.position
    exact ih now whole.2 (by omega)

end Wrote

/-! ## Reading back -/

namespace AddCall

/-- What the client gets: of the floor of a position only the low byte is sent. -/
def seen : AddCall → List Value
  | AddPosition pos =>
    [.position { pos with z := (UInt8.ofNat pos.z.toNat).toUInt16 }]
  | call => call.values

lemma seen_length (call : AddCall) : call.seen.length = call.values.length := by
  cases call <;> rfl

variable {call : AddCall}

lemma clean_of_seen (whole : call.Whole) (same : call.seen = call.values) : call.Clean := by
  cases call with
  | AddString value => exact whole
  | AddBytes bytes => exact whole
  | AddPosition pos =>
    have floor :=
      congrArg (fun place : Position => place.z.toNat) (Value.position.inj (List.cons.inj same).1)
    simp only [UInt8.toNat_toUInt16, UInt8.toNat_ofNat'] at floor
    simp only [Clean]
    omega
  | _ => trivial

lemma Clean.seen (clean : call.Clean) : call.seen = call.values := by
  cases call with
  | AddPosition pos =>
    have floor : (UInt8.ofNat pos.z.toNat).toUInt16 = pos.z := by
      rw [← UInt16.toNat_inj, UInt8.toNat_toUInt16, UInt8.toNat_ofNat']
      exact Nat.mod_eq_of_lt clean
    rw [AddCall.seen, floor]
    rfl
  | _ => rfl

end AddCall

structure Stored (memory : Int → UInt8) (place : Int) (bytes : List UInt8) : Prop where
  same : bytesAt memory place bytes.length = bytes
  room : place + bytes.length < NETWORKMESSAGE_MAXSIZE - 16

namespace Stored

variable {memory : Int → UInt8} {cursor : Cursor} {place : Int} {left right : List UInt8}

lemma append_iff :
  Stored memory place (left ++ right) ↔
    Stored memory place left ∧ Stored memory (place + left.length) right := by
  constructor
  · rintro ⟨same, room⟩
    rw [bytesAt_append_iff] at same
    rw [List.length_append] at room
    exact ⟨⟨same.1, by omega⟩, ⟨same.2, by omega⟩⟩
  · rintro ⟨first, second⟩
    refine ⟨bytesAt_append_iff.2 ⟨first.same, second.same⟩, ?_⟩
    have room := second.room
    rw [List.length_append]
    omega

variable {value : Nat}

lemma number {width : Nat} (stored : Stored memory cursor.m_ReadPos (littleEndian width value))
  (fits : value < 256 ^ width) :
  (getNumber width ⟨cursor, memory⟩).value = value ∧
    (getNumber width ⟨cursor, memory⟩).cursor =
      { cursor with m_ReadPos := cursor.m_ReadPos + width } := by
  have room := stored.room
  have same := stored.same
  rw [littleEndian_length] at room same
  have inside : ¬ cursor.overruns width := by
    rw [overruns_iff]
    omega
  refine ⟨?_, number_position ⟨cursor, memory⟩ inside⟩
  rw [number_value ⟨cursor, memory⟩ inside]
  rw [same, ofLittleEndian_littleEndian, Nat.mod_eq_of_lt fits]

lemma length_eq (stored : Stored memory place (littleEndian 2 value)) (fits : value < 65536) :
  lengthAt memory place = value := by
  have same := stored.same
  rw [littleEndian_length] at same
  rw [← ofLittleEndian_bytesAt_two, same, ofLittleEndian_littleEndian]
  exact Nat.mod_eq_of_lt fits

lemma string {value : List UInt8}
  (stored : Stored memory cursor.m_ReadPos (littleEndian 2 value.length ++ value))
  (fits : value.length ≤ 8192) :
  (GetString ⟨cursor, memory⟩).value = value ∧
    (GetString ⟨cursor, memory⟩).cursor =
      { cursor with m_ReadPos := cursor.m_ReadPos + (2 + value.length : Nat) } := by
  have room := stored.room
  rw [List.length_append, littleEndian_length] at room
  rcases append_iff.1 stored with ⟨prefixed, text⟩
  have length := prefixed.length_eq (by omega)
  have same := text.same
  rw [littleEndian_length] at same
  have inside : ¬ cursor.overruns 2 := by
    rw [overruns_iff]
    omega
  constructor
  · rw [string_value inside, length, if_neg (by omega)]
    exact same
  · rw [string_cursor inside, textLength, length, if_neg (by omega)]
    simp only [Nat.cast_add, Nat.cast_ofNat, add_assoc]

lemma position
  {pos : Position} (stored : Stored memory cursor.m_ReadPos (AddCall.AddPosition pos).bytes) :
  (GetPosition ⟨cursor, memory⟩).value =
      { pos with z := (UInt8.ofNat pos.z.toNat).toUInt16 } ∧
    (GetPosition ⟨cursor, memory⟩).cursor =
      { cursor with m_ReadPos := cursor.m_ReadPos + 5 } := by
  have room := stored.room
  simp only [AddCall.bytes] at stored
  rw [AddCall.bytes_length, AddCall.size] at room
  rcases append_iff.1 stored with ⟨numbers, floor⟩
  rcases append_iff.1 numbers with ⟨x, y⟩
  rw [List.length_append, littleEndian_length, littleEndian_length] at floor
  rw [littleEndian_length] at y
  have inside : ¬ cursor.overruns 4 := by
    rw [overruns_iff]
    omega
  have byte := floor.same
  rw [List.length_singleton, bytesAt_one, List.cons.injEq] at byte
  refine ⟨?_, position_moved memory inside⟩
  rw [position_value memory inside, x.length_eq pos.x.toNat_lt]
  have second : lengthAt memory (cursor.m_ReadPos + 2) = pos.y.toNat := y.length_eq pos.y.toNat_lt
  have third : memory (cursor.m_ReadPos + 4) = UInt8.ofNat pos.z.toNat := byte.1
  rw [second, third, UInt16.ofNat_toNat, UInt16.ofNat_toNat]

end Stored

variable {memory : Int → UInt8} {cursor : Cursor} {calls : List AddCall}

lemma block_reads_back
  {block : List UInt8} (same : bytesAt memory cursor.m_ReadPos block.length = block) :
  answers answer (block.map fun _ => Call.GetByte) memory cursor =
      block.map Value.byte ∧
    after answer (block.map fun _ => Call.GetByte) memory cursor =
      { cursor with m_ReadPos := cursor.m_ReadPos + block.length } := by
  induction block generalizing cursor with
  | nil =>
    refine ⟨rfl, ?_⟩
    simp only [List.map_nil, after, List.length_nil, Nat.cast_zero, add_zero]
  | cons byte block ih =>
    have split : bytesAt memory cursor.m_ReadPos ([byte] ++ block).length = [byte] ++ block := same
    rw [bytesAt_append_iff, List.length_singleton, bytesAt_one, List.cons.injEq] at split
    rcases split with ⟨⟨first, -⟩, others⟩
    have later :
        answers answer (block.map fun _ => Call.GetByte) memory
              { cursor with m_ReadPos := cursor.m_ReadPos + 1 } =
            block.map Value.byte ∧
          after answer (block.map fun _ => Call.GetByte) memory
              { cursor with m_ReadPos := cursor.m_ReadPos + 1 } =
            { cursor with
              m_ReadPos := cursor.m_ReadPos + 1 + block.length } :=
      ih others
    have behind :
        cursor.m_ReadPos + 1 + (block.length : Int) =
          cursor.m_ReadPos + ((byte :: block).length : Nat) := by
      rw [List.length_cons]
      omega
    rw [behind] at later
    exact ⟨congrArg₂ List.cons (congrArg Value.byte first) later.1, later.2⟩

lemma AddCall.reads_back
  {call : AddCall} (whole : call.Whole) (stored : Stored memory cursor.m_ReadPos call.bytes) :
  answers answer call.gets memory cursor = call.seen ∧
    after answer call.gets memory cursor =
      { cursor with m_ReadPos := cursor.m_ReadPos + call.size } := by
  cases call with
  | AddByte value =>
    have byte := stored.same
    simp only [bytes, List.length_singleton] at byte
    rw [bytesAt_one, List.cons.injEq] at byte
    exact ⟨congrArg (fun byte => [Value.byte byte]) byte.1, rfl⟩
  | AddU16 value | AddU32 value =>
    have read := stored.number value.toNat_lt
    exact ⟨congrArg (fun number => [Value.number number]) read.1, read.2⟩
  | AddString value =>
    have read := stored.string whole.2
    exact ⟨congrArg (fun text => [Value.text text]) read.1, read.2⟩
  | AddBytes block => exact block_reads_back stored.same
  | AddPosition pos =>
    have read := stored.position
    exact ⟨congrArg (fun place => [Value.position place]) read.1, read.2⟩

lemma reads_back (whole : ∀ call ∈ calls, call.Whole)
  (stored : Stored memory cursor.m_ReadPos (calls.flatMap AddCall.bytes)) :
  answers answer (calls.flatMap AddCall.gets) memory cursor =
      calls.flatMap AddCall.seen ∧
    (after answer (calls.flatMap AddCall.gets) memory cursor).m_overrun = cursor.m_overrun := by
  induction calls generalizing cursor with
  | nil => exact ⟨rfl, rfl⟩
  | cons call calls ih =>
    rw [List.forall_mem_cons] at whole
    rw [List.flatMap_cons, Stored.append_iff, AddCall.bytes_length] at stored
    rcases call.reads_back whole.1 stored.1 with ⟨values, moved⟩
    rw [List.flatMap_cons, List.flatMap_cons, answers_append, after_append, values, moved]
    have behind :
        Stored memory
          ({ cursor with
              m_ReadPos := cursor.m_ReadPos + call.size } :
            Cursor).m_ReadPos
          (calls.flatMap AddCall.bytes) :=
      stored.2
    rcases ih whole.2 behind with ⟨others, calm⟩
    exact ⟨congrArg (call.seen ++ ·) others, calm⟩

lemma clean_of_all_seen (whole : ∀ call ∈ calls, call.Whole)
  (same : calls.flatMap AddCall.seen = calls.flatMap AddCall.values) :
  ∀ call ∈ calls, call.Clean := by
  induction calls with
  | nil => exact fun _ isCall => absurd isCall List.not_mem_nil
  | cons call calls ih =>
    rw [List.forall_mem_cons] at whole ⊢
    rcases List.append_inj same call.seen_length with ⟨now, later⟩
    exact ⟨AddCall.clean_of_seen whole.1 now, ih whole.2 later⟩

/-! ## A new message -/

section NewMessages

variable {message : NetworkMessage} {calls done rest : List AddCall}

lemma wrote_all (message : NetworkMessage) (whole : ∀ call ∈ done, call.Whole)
  (room : (4 + totalSize done : Int) < NETWORKMESSAGE_MAXSIZE - 16) :
  Wrote message (addAll done message.Reset) (done.flatMap AddCall.bytes) :=
  Wrote.reset.all whole room

lemma bytes_flatMap_length (calls : List AddCall) :
  (calls.flatMap AddCall.bytes).length = totalSize calls := by
  rw [List.length_flatMap, totalSize]
  exact congrArg List.sum (List.map_congr_left fun call _ => call.bytes_length)

lemma wrote_reads_back (message : NetworkMessage) (whole : ∀ call ∈ done, call.Whole)
  (room : (4 + totalSize done : Int) < NETWORKMESSAGE_MAXSIZE - 16) :
  values (done.flatMap AddCall.gets)
        (addAll done message.Reset).rewound =
      done.flatMap AddCall.seen ∧
    ¬ (cursorAfter (done.flatMap AddCall.gets) (addAll done message.Reset).rewound).Overrun := by
  have wrote := wrote_all message whole room
  have stored : Stored (addAll done message.Reset).m_MsgBuf 4 (done.flatMap AddCall.bytes) := by
    refine ⟨wrote.body, ?_⟩
    have position := wrote.position
    have inside := wrote.room
    omega
  have back :
      answers answer (done.flatMap AddCall.gets)
            (addAll done message.Reset).m_MsgBuf
            (addAll done message.Reset).rewound.toCursor =
          done.flatMap AddCall.seen ∧
        (after answer (done.flatMap AddCall.gets)
            (addAll done message.Reset).m_MsgBuf
            (addAll done message.Reset).rewound.toCursor).m_overrun =
          (addAll done message.Reset).rewound.m_overrun :=
    reads_back whole stored
  refine ⟨back.1, fun raised => ?_⟩
  have calm : (addAll done message.Reset).m_overrun = false := wrote.calm
  exact Bool.false_ne_true (calm.symm.trans (back.2.symm.trans raised))

lemma intact_of_fit (fit : Fit calls) : Intact message.Reset calls := by
  rcases fit with ⟨done, rest, rfl, clean, room, ignored⟩
  have whole : ∀ call ∈ done, call.Whole := fun call isDone => (clean call isDone).whole
  have wrote := wrote_all message whole room
  have filled : Filled (addAll done message.Reset) := Filled.reset.all done
  have length := bytes_flatMap_length done
  have unchanged :
      ∀ later, later <+: rest →
        addAll later (addAll done message.Reset) = addAll done message.Reset := by
    refine (unchanged_iff filled).2 ?_
    rw [wrote.position, length]
    exact ignored
  have final : addAll (done ++ rest) message.Reset = addAll done message.Reset := by
    rw [addAll_append]
    exact unchanged rest List.prefix_rfl
  have back := wrote_reads_back message whole room
  refine ⟨done, rest, rfl, ?_, ?_, ?_, ?_, ?_, ?_⟩
  · intro later isLater
    rw [addAll_append]
    exact unchanged later isLater
  · rw [final, wrote.size, length]
  · have size := wrote.size
    rw [final]
    omega
  · rw [final]
    exact wrote.outside
  · rw [final, back.1]
    exact List.flatMap_congr fun call isDone => (clean call isDone).seen
  · rw [final]
    exact back.2

lemma fit_of_intact (intact : Intact message.Reset calls) : Fit calls := by
  rcases intact with ⟨done, rest, rfl, unchanged, size, -, -, back, -⟩
  have filled : Filled (addAll done message.Reset) := Filled.reset.all done
  have stays :
      ∀ later, later <+: rest →
        addAll later (addAll done message.Reset) = addAll done message.Reset := by
    intro later isLater
    rw [← addAll_append]
    exact unchanged later isLater
  have final : addAll (done ++ rest) message.Reset = addAll done message.Reset := by
    rw [addAll_append]
    exact stays rest List.prefix_rfl
  rw [final] at size back
  have counted :
      (addAll done message.Reset).m_MsgSize = message.Reset.m_MsgSize + totalSize done := by
    rw [size]
    exact (Int.zero_add _).symm
  have whole := whole_of_addAll_size Filled.reset counted
  have position := filled.position
  have inside := filled.room
  have room : (4 + totalSize done : Int) < NETWORKMESSAGE_MAXSIZE - 16 := by
    omega
  refine ⟨done, rest, rfl, ?_, room, ?_⟩
  · refine clean_of_all_seen whole ?_
    rw [← back]
    exact (wrote_reads_back message whole room).1.symm
  · rw [← size, ← position]
    exact (unchanged_iff filled).1 stays

/--
A new message stays intact exactly when the calls begin with clean ones which fit
together and none of the others fits even in part.
-/
theorem outgoing_intact_iff (message : NetworkMessage) (calls : List AddCall) :
  Intact message.Reset calls ↔ Fit calls :=
  ⟨fit_of_intact, intact_of_fit⟩

end NewMessages

def block (count : Nat) : AddCall :=
  .AddBytes (List.replicate count 0)

lemma block_ignored_iff {count : Nat} {pos : Int} (short : count ≤ 8192) :
  (block count).Ignored pos ↔ count = 0 ∨ NETWORKMESSAGE_MAXSIZE - 16 ≤ pos + count := by
  have length : count % 2 ^ 32 = count := Nat.mod_eq_of_lt (by omega)
  simp only [block, AddCall.Ignored, List.length_replicate, length]
  omega

/--
Three bytes in front of the limit a position loses its second coordinate: the
first one and the floor are written behind each other.
-/
theorem position_loses_coordinate :
    let blank : NetworkMessage :=
      { m_MsgBuf := fun _ => 0
        m_MsgSize := 0
        m_ReadPos := 4
        m_overrun := false }
    ¬ Intact blank.Reset [block 8192, block 8192, block 360, .AddPosition ⟨1, 2, 7⟩] := by
  intro blank intact
  have isMax : NETWORKMESSAGE_MAXSIZE = 16768 := rfl
  have blockSize (count : Nat) : (block count).size = count := List.length_replicate
  have positionSize : (AddCall.AddPosition ⟨1, 2, 7⟩).size = 5 := rfl
  rcases fit_of_intact intact with ⟨done, rest, split, -, room, ignored⟩
  -- either the position is among the written calls or the next call has room
  rcases done with _ | ⟨a, _ | ⟨b, _ | ⟨c, _ | ⟨d, more⟩⟩⟩⟩ <;>
    simp only [List.nil_append, List.cons_append, List.cons.injEq] at split <;>
    simp only [totalSize, List.map_cons, List.map_nil, List.sum_cons, List.sum_nil] at room ignored
  · subst split
    have next := ignored _ List.mem_cons_self
    rw [block_ignored_iff (Nat.le_refl 8192)] at next
    omega
  · rcases split with ⟨rfl, rfl⟩
    have next := ignored _ List.mem_cons_self
    rw [block_ignored_iff (Nat.le_refl 8192), blockSize] at next
    omega
  · rcases split with ⟨rfl, rfl, rfl⟩
    have next := ignored _ List.mem_cons_self
    rw [block_ignored_iff (by omega), blockSize] at next
    omega
  · rcases split with ⟨rfl, rfl, rfl, rfl⟩
    have next := ignored _ List.mem_cons_self
    simp only [AddCall.Ignored, blockSize] at next
    omega
  · rcases split with ⟨rfl, rfl, rfl, rfl, -⟩
    rw [blockSize, blockSize, positionSize] at room
    omega

end OTServ.Protocol.NetworkMessages
