import OTServ.Library.Dependence
import OTServ.Protocol.NetworkMessage

/-!
# Reading incoming messages

The bytes of earlier packets stay in the buffer of a connection behind a shorter
packet.  A parser is safe from them if, whatever calls it makes, either
`isOverrun()` turns true or the returned values depend on the bytes of this
packet only; and no byte outside of the buffer may be read in any case.

The calls compare with the capacity of the buffer, so that a call between the end
of the packet and the end of the buffer returns old bytes in silence.  Each call
has an exact condition on the position, the length of the message and, for a
string, on its length prefix under which it is safe, and a sequence of calls is
safe exactly when all of its calls meet their conditions.
-/

namespace OTServ.Protocol.NetworkMessages

open Library.ByteStreams
open Library.Dependence
open OTServ.Map
open List Function

inductive Call where
  | GetByte
  | GetU16
  | GetU32
  | PeekU32
  | GetString
  | GetRaw
  | GetPosition
  | SkipBytes (count : Int)

inductive Value where
  | nothing
  | byte (value : UInt8)
  | number (value : Nat)
  | text (value : List UInt8)
  | position (value : Position)
deriving DecidableEq

def Got.map {α β : Type} (f : α → β) (got : Got α) : Got β where
  value := f got.value
  cursor := got.cursor
  looked := got.looked

def Call.make (message : NetworkMessage) : Call → Got Value
  | GetByte => (NetworkMessages.GetByte message).map Value.byte
  | GetU16 => (NetworkMessages.GetU16 message).map Value.number
  | GetU32 => (NetworkMessages.GetU32 message).map Value.number
  | PeekU32 => (NetworkMessages.PeekU32 message).map Value.number
  | GetString => (NetworkMessages.GetString message).map Value.text
  | GetRaw => (NetworkMessages.GetRaw message).map Value.text
  | GetPosition =>
    (NetworkMessages.GetPosition message).map Value.position
  | SkipBytes count =>
    (NetworkMessages.SkipBytes count message).map fun _ => Value.nothing

/-- A call as a step of the cursor over the bytes, which it does not change. -/
def answer (call : Call) (m_MsgBuf : Int → UInt8) (cursor : Cursor) : Value × Cursor :=
  let got := call.make ⟨cursor, m_MsgBuf⟩
  (got.value, got.cursor)

/-- The values which the calls return, made one after another. -/
def values (calls : List Call) (message : NetworkMessage) : List Value :=
  answers answer calls message.m_MsgBuf message.toCursor

def cursorAfter (calls : List Call) (message : NetworkMessage) : Cursor :=
  after answer calls message.m_MsgBuf message.toCursor

def lookedAt : List Call → (Int → UInt8) → Cursor → List Int
  | [], _, _ => []
  | call :: calls, m_MsgBuf, cursor =>
    (call.make ⟨cursor, m_MsgBuf⟩).looked ++
      lookedAt calls m_MsgBuf (answer call m_MsgBuf cursor).2

/-- The byte belongs to `m_MsgBuf`. -/
def InArray (place : Int) : Prop :=
  0 ≤ place ∧ place < NETWORKMESSAGE_MAXSIZE

/--
After each of the calls the message is overrun, or the values so far would be the
same beyond any other bytes in the buffer before; and the bytes read are bytes of
the buffer.
-/
def StaysWithin (packet : Packet) (message : NetworkMessage) (calls : List Call) : Prop :=
  ∀ front, front <+: calls →
    ((cursorAfter front (packet.received message)).m_overrun = true ∨
      ∀ before : Int → UInt8,
        values front (packet.received message) =
          values front (packet.received { message with m_MsgBuf := before })) ∧
      ∀ place ∈
          lookedAt front (packet.received message).m_MsgBuf (packet.received message).toCursor,
        InArray place

/-- The call sets `m_overrun`. -/
def Cursor.Overruns (cursor : Cursor) : Call → Prop
  | .GetByte => False
  | .GetU16 => cursor.overruns 2
  | .GetU32 => cursor.overruns 4
  | .PeekU32 => cursor.overruns 4
  | .GetString => cursor.overruns 2
  | .GetRaw => False
  | .GetPosition => cursor.overruns 4
  | .SkipBytes _ => False

/-- The bytes the call reads are in the buffer, as far as it checks them itself. -/
def Cursor.Addresses (cursor : Cursor) : Call → Prop
  | .GetByte => InArray cursor.m_ReadPos
  | .GetU16 => 0 ≤ cursor.m_ReadPos
  | .GetU32 => 0 ≤ cursor.m_ReadPos
  | .PeekU32 => 0 ≤ cursor.m_ReadPos
  | .GetString => 0 ≤ cursor.m_ReadPos
  | .GetRaw => 0 ≤ cursor.m_ReadPos ∨ cursor.rawLength = 0
  | .GetPosition => InArray cursor.m_ReadPos
  | .SkipBytes _ => True

def lengthAt (m_MsgBuf : Int → UInt8) (place : Int) : Nat :=
  (m_MsgBuf place).toNat + 256 * (m_MsgBuf (place + 1)).toNat

/--
A string is told by the packet: it ends within the packet or has no room in the
buffer; or its length is cut off and gives an empty string however it goes on.
-/
def Cursor.StringReceived (cursor : Cursor) (m_MsgBuf : Int → UInt8) : Prop :=
  let pos := cursor.m_ReadPos
  let room := NETWORKMESSAGE_MAXSIZE - (pos + 2)
  pos + 2 ≤ cursor.m_MsgSize ∧
      (room ≤ lengthAt m_MsgBuf pos ∨ pos + 2 + lengthAt m_MsgBuf pos ≤ cursor.m_MsgSize) ∨
    pos + 1 = cursor.m_MsgSize ∧
      (m_MsgBuf pos = 0 ∧ room ≤ 256 ∨ m_MsgBuf pos ≠ 0 ∧ room ≤ (m_MsgBuf pos).toNat) ∨
    cursor.m_MsgSize ≤ pos ∧ room ≤ 1

def Cursor.Received (cursor : Cursor) (m_MsgBuf : Int → UInt8) : Call → Prop
  | .GetByte => cursor.m_ReadPos + 1 ≤ cursor.m_MsgSize
  | .GetU16 => cursor.m_ReadPos + 2 ≤ cursor.m_MsgSize
  | .GetU32 => cursor.m_ReadPos + 4 ≤ cursor.m_MsgSize
  | .PeekU32 => cursor.m_ReadPos + 4 ≤ cursor.m_MsgSize
  | .GetString => cursor.StringReceived m_MsgBuf
  | .GetRaw => True
  | .GetPosition => cursor.m_ReadPos + 5 ≤ cursor.m_MsgSize
  | .SkipBytes _ => True

def Cursor.Safe (m_MsgBuf : Int → UInt8) (cursor : Cursor) (call : Call) : Prop :=
  (cursor.m_overrun = true ∨ cursor.Overruns call ∨
      cursor.Received m_MsgBuf call) ∧
    cursor.Addresses call

variable {width count : Nat} {other : Int → UInt8} {start : Int}

section Cursors

variable (message : NetworkMessage)

lemma number_overrun (width : Nat) :
  (getNumber width message).cursor.m_overrun = true ↔
    message.m_overrun = true ∨ message.overruns width := by
  rw [getNumber]
  split
  case isTrue beyond => exact iff_of_true rfl (Or.inr beyond)
  case isFalse inside => exact (or_iff_left inside).symm

lemma number_value (inside : ¬ message.overruns width) :
  (getNumber width message).value =
    ofLittleEndian (bytesAt message.m_MsgBuf message.m_ReadPos width) := by
  rw [getNumber, if_neg inside]

lemma number_position (inside : ¬ message.overruns width) :
  (getNumber width message).cursor =
    { message.toCursor with m_ReadPos := message.m_ReadPos + width } := by
  rw [getNumber, if_neg inside]

lemma number_stuck (beyond : message.overruns width) :
  (getNumber width message).cursor = { message.toCursor with m_overrun := true } := by
  rw [getNumber, if_pos beyond]

lemma number_cursor_eq
  (width : Nat) (other : NetworkMessage) (same : message.toCursor = other.toCursor) :
  (getNumber width message).cursor = (getNumber width other).cursor := by
  rw [getNumber, getNumber, same]
  split <;> rfl

lemma peek_cursor_eq (other : NetworkMessage) (same : message.toCursor = other.toCursor) :
  (PeekU32 message).cursor = (PeekU32 other).cursor := by
  rw [PeekU32, PeekU32, same]
  split <;> rfl

lemma text_cursor_eq
  (stringlen : Nat) (other : NetworkMessage) (same : message.toCursor = other.toCursor) :
  (getText stringlen message).cursor = (getText stringlen other).cursor := by
  rw [getText, getText, same]
  split <;> rfl

lemma position_cursor_eq (other : NetworkMessage) (same : message.toCursor = other.toCursor) :
  (GetPosition message).cursor = (GetPosition other).cursor := by
  have first := number_cursor_eq message 2 other same
  have second :=
    number_cursor_eq
      { message with toCursor := (GetU16 message).cursor } 2
      { other with toCursor := (GetU16 other).cursor } first
  exact congrArg (fun cursor : Cursor => { cursor with m_ReadPos := cursor.m_ReadPos + 1 }) second

lemma peek_overrun :
  (PeekU32 message).cursor.m_overrun = true ↔ message.m_overrun = true ∨ message.overruns 4 := by
  rw [PeekU32]
  split
  case isTrue beyond => exact iff_of_true rfl (Or.inr beyond)
  case isFalse inside => exact (or_iff_left inside).symm

lemma text_overrun (stringlen : Nat) :
  (getText stringlen message).cursor.m_overrun = message.m_overrun := by
  rw [getText]
  split <;> rfl

lemma string_overrun :
  (GetString message).cursor.m_overrun = true ↔
    message.m_overrun = true ∨ message.overruns 2 := by
  have flag : (GetString message).cursor.m_overrun = (GetU16 message).cursor.m_overrun :=
    text_overrun _ _
  rw [flag]
  exact number_overrun message 2

lemma raw_overrun :
  (GetRaw message).cursor.m_overrun = true ↔ message.m_overrun = true ∨ False := by
  have flag : (GetRaw message).cursor.m_overrun = message.m_overrun := text_overrun _ _
  rw [flag, or_false]

lemma overruns_iff (cursor : Cursor) (size : Int) :
  cursor.overruns size ↔ NETWORKMESSAGE_MAXSIZE - size ≤ cursor.m_ReadPos := by
  rw [Cursor.overruns]
  omega

lemma position_overrun :
  (GetPosition message).cursor.m_overrun = true ↔
    message.m_overrun = true ∨ message.overruns 4 := by
  have second := number_overrun { message with toCursor := (GetU16 message).cursor } 2
  have first := number_overrun message 2
  have flags :
      (GetPosition message).cursor.m_overrun = true ↔
        (message.m_overrun = true ∨ message.overruns 2) ∨ (GetU16 message).cursor.overruns 2 :=
    second.trans (or_congr first Iff.rfl)
  rw [flags, or_assoc]
  refine or_congr Iff.rfl ?_
  by_cases beyond : message.overruns 2
  · have larger : message.overruns 4 := by
      rw [overruns_iff] at beyond ⊢
      omega
    exact iff_of_true (Or.inl beyond) larger
  · rw [or_iff_right beyond, GetU16, number_position message beyond, overruns_iff, overruns_iff]
    constructor <;> intro far <;> simp only at far ⊢ <;> omega

end Cursors

lemma overrun_after (call : Call) (m_MsgBuf : Int → UInt8) (cursor : Cursor) :
  (answer call m_MsgBuf cursor).2.m_overrun = true ↔
    cursor.m_overrun = true ∨ cursor.Overruns call := by
  cases call with
  | GetByte => exact (or_iff_left id).symm
  | GetU16 => exact number_overrun ⟨cursor, m_MsgBuf⟩ 2
  | GetU32 => exact number_overrun ⟨cursor, m_MsgBuf⟩ 4
  | PeekU32 => exact peek_overrun ⟨cursor, m_MsgBuf⟩
  | GetString => exact string_overrun ⟨cursor, m_MsgBuf⟩
  | GetRaw => exact raw_overrun ⟨cursor, m_MsgBuf⟩
  | GetPosition => exact position_overrun ⟨cursor, m_MsgBuf⟩
  | SkipBytes count => exact (or_iff_left id).symm

/-- The other bytes agree with these on the packet, up to its end. -/
def Alike (m_MsgBuf : Int → UInt8) (finish : Int) (other : Int → UInt8) : Prop :=
  ∀ place, 0 ≤ place → place < finish → other place = m_MsgBuf place

section Telling

variable {m_MsgBuf : Int → UInt8} {cursor : Cursor} {finish place : Int}

lemma alike_refl : Alike m_MsgBuf finish m_MsgBuf :=
  fun _ _ _ => rfl

lemma alike_update (behind : finish ≤ place) (byte : UInt8) :
  Alike m_MsgBuf finish (update m_MsgBuf place byte) := by
  intro other _ before
  rw [update_of_ne (by omega)]

lemma Alike.update
  (alike : Alike m_MsgBuf finish other) (behind : finish ≤ place) (byte : UInt8) :
  Alike m_MsgBuf finish (update other place byte) := by
  intro index low before
  rw [update_of_ne (by omega)]
  exact alike index low before

lemma bytes_told_iff (low : 0 ≤ start) (some : 0 < count) :
  (∀ other, Alike m_MsgBuf finish other →
      bytesAt m_MsgBuf start count = bytesAt other start count) ↔
    start + count ≤ finish := by
  constructor
  · intro told
    by_contra beyond
    have behind : finish ≤ start + count - 1 := by omega
    have ne :
        m_MsgBuf (start + count - 1) ≠
          update m_MsgBuf (start + count - 1)
            (m_MsgBuf (start + count - 1) + 1) (start + count - 1) := by
      rw [update_self]
      exact fun same => absurd (left_eq_add.1 same) (by decide)
    exact bytesAt_ne (by omega) (by omega) ne (told _ (alike_update behind _))
  · intro inside other alike
    exact bytesAt_congr fun index above below => (alike index (by omega) (by omega)).symm

lemma byte_told_iff (low : 0 ≤ place) :
  (∀ other, Alike m_MsgBuf finish other →
      m_MsgBuf place = other place) ↔ place + 1 ≤ finish := by
  have one :
      (∀ other, Alike m_MsgBuf finish other →
          bytesAt m_MsgBuf place 1 = bytesAt other place 1) ↔
        place + (1 : Nat) ≤ finish :=
    bytes_told_iff low Nat.one_pos
  rw [Nat.cast_one] at one
  rw [← one]
  refine forall_congr' fun other => imp_congr_right fun _ => ?_
  rw [bytesAt_one, bytesAt_one, List.cons.injEq, and_iff_left rfl]

lemma number_told_iff (low : 0 ≤ start) (some : 0 < width) :
  (∀ other, Alike m_MsgBuf finish other →
      ofLittleEndian (bytesAt m_MsgBuf start width) =
        ofLittleEndian (bytesAt other start width)) ↔
    start + width ≤ finish := by
  rw [← bytes_told_iff low some]
  refine forall_congr' fun other => imp_congr_right fun _ => ?_
  constructor
  · exact ofLittleEndian_inj (by rw [bytesAt_length, bytesAt_length])
  · exact congrArg ofLittleEndian

end Telling

/-! ## Strings -/

section Strings

variable {m_MsgBuf : Int → UInt8} {cursor : Cursor}

lemma ofLittleEndian_bytesAt_two (place : Int) :
  ofLittleEndian (bytesAt m_MsgBuf place 2) = lengthAt m_MsgBuf place := by
  have pair : bytesAt m_MsgBuf place 2 = [m_MsgBuf place, m_MsgBuf (place + 1)] := by
    simp [bytesAt, range_succ]
  rw [pair, ofLittleEndian, ofLittleEndian, ofLittleEndian, lengthAt]
  omega

lemma u16_value (m_MsgBuf : Int → UInt8) (inside : ¬ cursor.overruns 2) :
  (GetU16 ⟨cursor, m_MsgBuf⟩).value = lengthAt m_MsgBuf cursor.m_ReadPos :=
  (number_value ⟨cursor, m_MsgBuf⟩ inside).trans (ofLittleEndian_bytesAt_two cursor.m_ReadPos)

lemma string_value (inside : ¬ cursor.overruns 2) :
  (GetString ⟨cursor, m_MsgBuf⟩).value =
    if NETWORKMESSAGE_MAXSIZE - (cursor.m_ReadPos + 2) ≤
        lengthAt m_MsgBuf cursor.m_ReadPos then []
    else
      bytesAt m_MsgBuf (cursor.m_ReadPos + 2) (lengthAt m_MsgBuf cursor.m_ReadPos) := by
  have length := u16_value m_MsgBuf inside
  have moved :
      (GetU16 ⟨cursor, m_MsgBuf⟩).cursor = { cursor with m_ReadPos := cursor.m_ReadPos + 2 } :=
    number_position ⟨cursor, m_MsgBuf⟩ inside
  simp only [GetString, getText, length, moved, Cursor.overruns, ge_iff_le]
  split <;> rfl

def textLength (m_MsgBuf : Int → UInt8) (pos : Int) : Nat :=
  if NETWORKMESSAGE_MAXSIZE - (pos + 2) ≤ lengthAt m_MsgBuf pos then 0
  else lengthAt m_MsgBuf pos

lemma string_length (m_MsgBuf : Int → UInt8) (inside : ¬ cursor.overruns 2) :
  (GetString ⟨cursor, m_MsgBuf⟩).value.length = textLength m_MsgBuf cursor.m_ReadPos := by
  rw [string_value inside, textLength]
  split
  · rfl
  · exact bytesAt_length _ _ _

lemma string_cursor (inside : ¬ cursor.overruns 2) :
  (GetString ⟨cursor, m_MsgBuf⟩).cursor =
    { cursor with
      m_ReadPos := cursor.m_ReadPos + 2 + textLength m_MsgBuf cursor.m_ReadPos } := by
  have length := u16_value m_MsgBuf inside
  have moved :
      (GetU16 ⟨cursor, m_MsgBuf⟩).cursor = { cursor with m_ReadPos := cursor.m_ReadPos + 2 } :=
    number_position ⟨cursor, m_MsgBuf⟩ inside
  simp only [GetString, getText, length, moved, Cursor.overruns, ge_iff_le, textLength]
  split
  · rw [Nat.cast_zero, add_zero]
  · rfl

lemma string_cursor_eq
  (same : (GetString ⟨cursor, m_MsgBuf⟩).value = (GetString ⟨cursor, other⟩).value) :
  (GetString ⟨cursor, m_MsgBuf⟩).cursor = (GetString ⟨cursor, other⟩).cursor := by
  by_cases beyond : cursor.overruns 2
  · have noNumber (memory : Int → UInt8) :
        GetU16 ⟨cursor, memory⟩ =
          { value := 0
            cursor := { cursor with m_overrun := true }
            looked := [] } :=
      if_pos beyond
    have noText (memory : Int → UInt8) :
        (GetString ⟨cursor, memory⟩).cursor =
          (getText 0 ⟨{ cursor with m_overrun := true }, memory⟩).cursor := by
      simp only [GetString, noNumber]
    rw [noText, noText]
    exact text_cursor_eq _ 0 _ rfl
  · have sameLength := congrArg List.length same
    rw [string_length m_MsgBuf beyond, string_length other beyond] at sameLength
    rw [string_cursor beyond, string_cursor beyond, sameLength]

lemma lengthAt_update (other : Int → UInt8) (pos : Int) (high : UInt8) :
  lengthAt (update other (pos + 1) high) pos = (other pos).toNat + 256 * high.toNat := by
  rw [lengthAt, update_self, update_of_ne (by omega)]

def StringTold (cursor : Cursor) (m_MsgBuf : Int → UInt8) : Prop :=
  ∀ other, Alike m_MsgBuf cursor.m_MsgSize other →
    (GetString ⟨cursor, m_MsgBuf⟩).value = (GetString ⟨cursor, other⟩).value

lemma StringTold.length_eq (told : StringTold cursor m_MsgBuf) (inside : ¬ cursor.overruns 2)
  (alike : Alike m_MsgBuf cursor.m_MsgSize other) :
  textLength other cursor.m_ReadPos = textLength m_MsgBuf cursor.m_ReadPos := by
  rw [← string_length other inside, ← string_length m_MsgBuf inside, ← told other alike]

lemma stringTold_of_empty (inside : ¬ cursor.overruns 2)
  (empty :
    ∀ other, Alike m_MsgBuf cursor.m_MsgSize other → textLength other cursor.m_ReadPos = 0) :
  StringTold cursor m_MsgBuf := by
  intro other alike
  have here := string_length m_MsgBuf inside
  have there := string_length other inside
  rw [empty _ alike_refl] at here
  rw [empty other alike] at there
  rw [length_eq_zero_iff.1 here, length_eq_zero_iff.1 there]

lemma stringTold_iff_of_length_received (low : 0 ≤ cursor.m_ReadPos)
  (inside : ¬ cursor.overruns 2) (received : cursor.m_ReadPos + 2 ≤ cursor.m_MsgSize) :
  StringTold cursor m_MsgBuf ↔
    NETWORKMESSAGE_MAXSIZE - (cursor.m_ReadPos + 2) ≤
        lengthAt m_MsgBuf cursor.m_ReadPos ∨
      cursor.m_ReadPos + 2 + lengthAt m_MsgBuf cursor.m_ReadPos ≤
        cursor.m_MsgSize := by
  have sameLength :
      ∀ other, Alike m_MsgBuf cursor.m_MsgSize other →
        lengthAt other cursor.m_ReadPos = lengthAt m_MsgBuf cursor.m_ReadPos := by
    intro other alike
    rw [lengthAt, lengthAt, alike _ low (by omega), alike _ (by omega) (by omega)]
  by_cases tooLong :
      NETWORKMESSAGE_MAXSIZE - (cursor.m_ReadPos + 2) ≤ lengthAt m_MsgBuf cursor.m_ReadPos
  · refine iff_of_true ?_ (Or.inl tooLong)
    refine stringTold_of_empty inside fun other alike => ?_
    rw [textLength, sameLength other alike, if_pos tooLong]
  · rw [or_iff_right tooLong]
    rcases Nat.eq_zero_or_pos (lengthAt m_MsgBuf cursor.m_ReadPos) with none | some
    · refine iff_of_true ?_ (by omega)
      refine stringTold_of_empty inside fun other alike => ?_
      rw [textLength, sameLength other alike, if_neg tooLong, none]
    · rw [← bytes_told_iff (by omega) some]
      refine forall_congr' fun other => imp_congr_right fun alike => ?_
      rw [string_value inside, string_value inside,
        sameLength other alike, if_neg tooLong, if_neg tooLong]

/-- Only the low byte of the length stands in the packet. -/
lemma stringTold_iff_of_length_cut (low : 0 ≤ cursor.m_ReadPos) (inside : ¬ cursor.overruns 2)
  (cut : cursor.m_ReadPos + 1 = cursor.m_MsgSize) :
  StringTold cursor m_MsgBuf ↔
    m_MsgBuf cursor.m_ReadPos = 0 ∧
        NETWORKMESSAGE_MAXSIZE - (cursor.m_ReadPos + 2) ≤ 256 ∨
      m_MsgBuf cursor.m_ReadPos ≠ 0 ∧
        NETWORKMESSAGE_MAXSIZE - (cursor.m_ReadPos + 2) ≤ (m_MsgBuf cursor.m_ReadPos).toNat := by
  have isMax : NETWORKMESSAGE_MAXSIZE = 16768 := rfl
  have isZero : m_MsgBuf cursor.m_ReadPos = 0 ↔ (m_MsgBuf cursor.m_ReadPos).toNat = 0 :=
    UInt8.toNat_inj.symm
  rw [ne_eq, isZero]
  constructor
  · intro told
    have behind : cursor.m_MsgSize ≤ cursor.m_ReadPos + 1 := by omega
    have withHigh (high : UInt8) := told.length_eq inside (alike_update behind high)
    -- the high bytes 0, 1 and 255 give a short, a longer and a too long text
    have atZero := withHigh 0
    have atOne := withHigh 1
    have atTop := withHigh 255
    simp only [textLength, lengthAt_update, UInt8.toNat_zero,
      UInt8.toNat_one, show (255 : UInt8).toNat = 255 from rfl]
      at atZero atOne atTop
    rw [← atZero] at atOne atTop
    split at atOne <;> split at atOne <;> split at atTop <;> omega
  · intro empty
    refine stringTold_of_empty inside fun other alike => ?_
    have sameLow := alike cursor.m_ReadPos low (by omega)
    have known :
        lengthAt other cursor.m_ReadPos =
          (m_MsgBuf cursor.m_ReadPos).toNat + 256 * (other (cursor.m_ReadPos + 1)).toNat := by
      rw [lengthAt, sameLow]
    rw [textLength]
    split <;> omega

lemma stringTold_iff_of_length_behind
  (inside : ¬ cursor.overruns 2) (behind : cursor.m_MsgSize ≤ cursor.m_ReadPos) :
  StringTold cursor m_MsgBuf ↔ NETWORKMESSAGE_MAXSIZE - (cursor.m_ReadPos + 2) ≤ 1 := by
  rw [overruns_iff] at inside
  constructor
  · intro told
    have withBytes (low : UInt8) :=
      told.length_eq (by rwa [overruns_iff])
        ((alike_update behind low).update
          (show cursor.m_MsgSize ≤ cursor.m_ReadPos + 1 by omega) 0)
    have atZero := withBytes 0
    have atOne := withBytes 1
    simp only [textLength, lengthAt_update, update_self,
      UInt8.toNat_zero, UInt8.toNat_one] at atZero atOne
    rw [← atZero] at atOne
    split at atOne <;> split at atOne <;> omega
  · intro noRoom
    refine stringTold_of_empty (by rwa [overruns_iff]) fun other _ => ?_
    rw [textLength]
    split <;> omega

lemma stringTold_iff (low : 0 ≤ cursor.m_ReadPos) (inside : ¬ cursor.overruns 2) :
  StringTold cursor m_MsgBuf ↔ cursor.StringReceived m_MsgBuf := by
  rw [Cursor.StringReceived]
  rcases lt_trichotomy (cursor.m_ReadPos + 1) cursor.m_MsgSize with whole | cut | behind
  · rw [stringTold_iff_of_length_received low inside (by omega)]
    simp only [show cursor.m_ReadPos + 2 ≤ cursor.m_MsgSize by omega,
      show cursor.m_ReadPos + 1 ≠ cursor.m_MsgSize by omega,
      show ¬ cursor.m_MsgSize ≤ cursor.m_ReadPos by omega,
      true_and, false_and, or_false]
  · rw [stringTold_iff_of_length_cut low inside cut]
    simp only [show ¬ cursor.m_ReadPos + 2 ≤ cursor.m_MsgSize by omega,
      show ¬ cursor.m_MsgSize ≤ cursor.m_ReadPos by omega,
      cut, true_and, false_and, or_false, false_or]
  · rw [stringTold_iff_of_length_behind inside (by omega)]
    simp only [show ¬ cursor.m_ReadPos + 2 ≤ cursor.m_MsgSize by omega,
      show cursor.m_ReadPos + 1 ≠ cursor.m_MsgSize by omega,
      show cursor.m_MsgSize ≤ cursor.m_ReadPos by omega,
      true_and, false_and, false_or]

end Strings

/-! ## Every call -/

section Calls

variable {m_MsgBuf : Int → UInt8} {cursor : Cursor} {call : Call}

def Cursor.Overrun (cursor : Cursor) : Prop :=
  cursor.m_overrun = true

lemma overrun_lasting : Lasting answer Cursor.Overrun :=
  fun call m_MsgBuf cursor raised => (overrun_after call m_MsgBuf cursor).2 (Or.inl raised)

lemma answer_told : Told answer := by
  intro call m_MsgBuf other cursor same
  cases call with
  | GetByte => rfl
  | GetU16 =>
    exact number_cursor_eq ⟨cursor, m_MsgBuf⟩ 2 ⟨cursor, other⟩ rfl
  | GetU32 =>
    exact number_cursor_eq ⟨cursor, m_MsgBuf⟩ 4 ⟨cursor, other⟩ rfl
  | PeekU32 =>
    exact peek_cursor_eq ⟨cursor, m_MsgBuf⟩ ⟨cursor, other⟩ rfl
  | GetString => exact string_cursor_eq (Value.text.inj same)
  | GetRaw =>
    exact text_cursor_eq ⟨cursor, m_MsgBuf⟩ cursor.rawLength ⟨cursor, other⟩ rfl
  | GetPosition =>
    exact position_cursor_eq ⟨cursor, m_MsgBuf⟩ ⟨cursor, other⟩ rfl
  | SkipBytes count => rfl

lemma value_text_iff {text other : List UInt8} :
  Value.text text = Value.text other ↔ text = other :=
  ⟨Value.text.inj, congrArg Value.text⟩

lemma value_number_iff {number other : Nat} :
  Value.number number = Value.number other ↔ number = other :=
  ⟨Value.number.inj, congrArg Value.number⟩

lemma value_position_iff {pos other : Position} :
  Value.position pos = Value.position other ↔ pos = other :=
  ⟨Value.position.inj, congrArg Value.position⟩

lemma value_byte_iff {byte other : UInt8} : Value.byte byte = Value.byte other ↔ byte = other :=
  ⟨Value.byte.inj, congrArg Value.byte⟩

lemma getNumber_told_iff
  (low : 0 ≤ cursor.m_ReadPos) (some : 0 < width) (inside : ¬ cursor.overruns width) :
  (∀ other, Alike m_MsgBuf cursor.m_MsgSize other →
      (getNumber width ⟨cursor, m_MsgBuf⟩).value = (getNumber width ⟨cursor, other⟩).value) ↔
    cursor.m_ReadPos + width ≤ cursor.m_MsgSize := by
  rw [← number_told_iff low some]
  refine forall_congr' fun other => imp_congr_right fun _ => ?_
  rw [number_value ⟨cursor, m_MsgBuf⟩ inside, number_value ⟨cursor, other⟩ inside]

lemma peek_value : (PeekU32 ⟨cursor, m_MsgBuf⟩).value = (GetU32 ⟨cursor, m_MsgBuf⟩).value := by
  rw [PeekU32, GetU32, getNumber]
  simp only [Nat.cast_ofNat]
  split <;> rfl

lemma peek_looked :
  (PeekU32 ⟨cursor, m_MsgBuf⟩).looked = (GetU32 ⟨cursor, m_MsgBuf⟩).looked := by
  rw [PeekU32, GetU32, getNumber]
  simp only [Nat.cast_ofNat]
  split <;> rfl

lemma raw_told
  (counted : 0 ≤ cursor.m_MsgSize) (fits : cursor.m_MsgSize ≤ NETWORKMESSAGE_MAXSIZE)
  (addresses : cursor.Addresses .GetRaw) (alike : Alike m_MsgBuf cursor.m_MsgSize other) :
  (GetRaw ⟨cursor, m_MsgBuf⟩).value = (GetRaw ⟨cursor, other⟩).value := by
  have isMax : NETWORKMESSAGE_MAXSIZE = 16768 := rfl
  rw [GetRaw, GetRaw, getText, getText]
  split
  · rfl
  · rename_i room
    rw [overruns_iff] at room
    have length : cursor.rawLength = ((cursor.m_MsgSize - cursor.m_ReadPos) % 65536).toNat := rfl
    simp only at room ⊢
    refine bytesAt_congr fun place above below => (alike place ?_ ?_).symm
    · rcases addresses with low | none <;> omega
    · rcases addresses with low | none <;> omega

lemma position_numbers (m_MsgBuf : Int → UInt8) (inside : ¬ cursor.overruns 4) :
  (GetU16 ⟨cursor, m_MsgBuf⟩).cursor =
      { cursor with m_ReadPos := cursor.m_ReadPos + 2 } ∧
    (GetU16
        ⟨{ cursor with m_ReadPos := cursor.m_ReadPos + 2 }, m_MsgBuf⟩).cursor =
      { cursor with m_ReadPos := cursor.m_ReadPos + 2 + 2 } := by
  rw [overruns_iff] at inside
  constructor
  · refine number_position ⟨cursor, m_MsgBuf⟩ ?_
    rw [overruns_iff]
    show ¬ _ ≤ cursor.m_ReadPos
    omega
  · refine number_position ⟨{ cursor with m_ReadPos := cursor.m_ReadPos + 2 }, m_MsgBuf⟩ ?_
    rw [overruns_iff]
    show ¬ _ ≤ cursor.m_ReadPos + 2
    omega

lemma position_value (m_MsgBuf : Int → UInt8) (inside : ¬ cursor.overruns 4) :
  (GetPosition ⟨cursor, m_MsgBuf⟩).value =
    { x := UInt16.ofNat (lengthAt m_MsgBuf cursor.m_ReadPos)
      y := UInt16.ofNat (lengthAt m_MsgBuf (cursor.m_ReadPos + 2))
      z := (m_MsgBuf (cursor.m_ReadPos + 4)).toUInt16 } := by
  rcases position_numbers m_MsgBuf inside with ⟨moved, movedOn⟩
  rw [overruns_iff] at inside
  have first : ¬ cursor.overruns 2 := by
    rw [overruns_iff]
    omega
  have second : ¬ ({ cursor with m_ReadPos := cursor.m_ReadPos + 2 } : Cursor).overruns 2 := by
    rw [overruns_iff]
    show ¬ _ ≤ cursor.m_ReadPos + 2
    omega
  simp only [GetPosition, moved, movedOn, u16_value m_MsgBuf first,
    u16_value m_MsgBuf second, GetByte, add_assoc]
  rfl

lemma position_moved (m_MsgBuf : Int → UInt8) (inside : ¬ cursor.overruns 4) :
  (GetPosition ⟨cursor, m_MsgBuf⟩).cursor =
    { cursor with m_ReadPos := cursor.m_ReadPos + 5 } := by
  rcases position_numbers m_MsgBuf inside with ⟨moved, movedOn⟩
  simp only [GetPosition, moved, movedOn, GetByte, add_assoc]
  rfl

lemma position_told_iff (low : 0 ≤ cursor.m_ReadPos) (inside : ¬ cursor.overruns 4) :
  (∀ other, Alike m_MsgBuf cursor.m_MsgSize other →
      (GetPosition ⟨cursor, m_MsgBuf⟩).value = (GetPosition ⟨cursor, other⟩).value) ↔
    cursor.m_ReadPos + 5 ≤ cursor.m_MsgSize := by
  constructor
  · intro told
    have lastTold :
        ∀ other, Alike m_MsgBuf cursor.m_MsgSize other →
          m_MsgBuf (cursor.m_ReadPos + 4) = other (cursor.m_ReadPos + 4) := by
      intro other alike
      have same := told other alike
      rw [position_value m_MsgBuf inside, position_value other inside] at same
      have sameZ := congrArg (fun pos : Position => pos.z.toNat) same
      exact UInt8.toNat_inj.1 sameZ
    have last := (byte_told_iff (by omega)).1 lastTold
    omega
  · intro received other alike
    have sameAt (place : Int)
        (above : cursor.m_ReadPos ≤ place)
        (below : place < cursor.m_ReadPos + 5) :
        other place = m_MsgBuf place :=
      alike place (by omega) (by omega)
    rw [position_value m_MsgBuf inside, position_value other inside,
      lengthAt, lengthAt, lengthAt, lengthAt,
      sameAt _ (by omega) (by omega), sameAt _ (by omega) (by omega),
      sameAt _ (by omega) (by omega), sameAt _ (by omega) (by omega),
      sameAt _ (by omega) (by omega)]

lemma told_iff
  (counted : 0 ≤ cursor.m_MsgSize) (fits : cursor.m_MsgSize ≤ NETWORKMESSAGE_MAXSIZE)
  (addresses : cursor.Addresses call) (calm : ¬ cursor.Overruns call) :
  (∀ other, Alike m_MsgBuf cursor.m_MsgSize other →
      (answer call m_MsgBuf cursor).1 = (answer call other cursor).1) ↔
    cursor.Received m_MsgBuf call := by
  cases call with
  | GetByte =>
    simp only [answer, Call.make, Got.map, value_byte_iff]
    exact byte_told_iff addresses.1
  | GetU16 =>
    simp only [answer, Call.make, Got.map, value_number_iff, GetU16]
    exact getNumber_told_iff addresses Nat.two_pos calm
  | GetU32 =>
    simp only [answer, Call.make, Got.map, value_number_iff, GetU32]
    exact getNumber_told_iff addresses (Nat.succ_pos 3) calm
  | PeekU32 =>
    simp only [answer, Call.make, Got.map, value_number_iff, peek_value, GetU32]
    exact getNumber_told_iff addresses (Nat.succ_pos 3) calm
  | GetString =>
    simp only [answer, Call.make, Got.map, value_text_iff]
    exact stringTold_iff addresses calm
  | GetRaw =>
    simp only [answer, Call.make, Got.map, value_text_iff]
    exact iff_of_true (fun other => raw_told counted fits addresses) trivial
  | GetPosition =>
    simp only [answer, Call.make, Got.map, value_position_iff]
    exact position_told_iff addresses.1 calm
  | SkipBytes count => exact iff_of_true (fun _ _ => rfl) trivial

/-! ## The bytes a call looks at -/

def AllInArray (places : List Int) : Prop :=
  ∀ place ∈ places, InArray place

lemma allInArray_append {left right : List Int} :
  AllInArray (left ++ right) ↔ AllInArray left ∧ AllInArray right :=
  forall_mem_append

lemma allInArray_placesAt :
  AllInArray (placesAt start count) ↔
    count = 0 ∨ 0 ≤ start ∧ start + count ≤ NETWORKMESSAGE_MAXSIZE := by
  constructor
  · intro all
    rcases Nat.eq_zero_or_pos count with none | some
    · exact Or.inl none
    · have first := all start (mem_placesAt.2 ⟨by omega, by omega⟩)
      have last := all (start + count - 1) (mem_placesAt.2 ⟨by omega, by omega⟩)
      exact Or.inr ⟨first.1, by have := last.2; omega⟩
  · rintro (none | ⟨low, high⟩) place isPlace <;> rw [mem_placesAt] at isPlace
    · omega
    · exact ⟨by omega, by omega⟩

lemma allInArray_nil : AllInArray [] :=
  fun _ isPlace => absurd isPlace not_mem_nil

lemma number_inArray_iff (some : 0 < width) (small : width ≤ 4) :
  AllInArray (getNumber width ⟨cursor, m_MsgBuf⟩).looked ↔ 0 ≤ cursor.m_ReadPos := by
  have isMax : NETWORKMESSAGE_MAXSIZE = 16768 := rfl
  rw [getNumber]
  split <;> rename_i beyond <;> rw [overruns_iff] at beyond <;> simp only at beyond
  · exact iff_of_true allInArray_nil (by omega)
  · rw [allInArray_placesAt]
    simp only
    omega

lemma text_inArray_iff {stringlen : Nat} :
  AllInArray (getText stringlen ⟨cursor, m_MsgBuf⟩).looked ↔
    stringlen = 0 ∨ 0 ≤ cursor.m_ReadPos ∨ cursor.overruns stringlen := by
  rw [getText]
  split <;> rename_i beyond
  · exact iff_of_true allInArray_nil (Or.inr (Or.inr beyond))
  · rw [allInArray_placesAt]
    rw [overruns_iff] at beyond ⊢
    simp only at beyond ⊢
    omega

lemma string_inArray_iff :
  AllInArray (GetString ⟨cursor, m_MsgBuf⟩).looked ↔ 0 ≤ cursor.m_ReadPos := by
  simp only [GetString]
  rw [allInArray_append, GetU16, number_inArray_iff Nat.two_pos (by decide), text_inArray_iff]
  refine and_iff_left_of_imp fun low => Or.inr (Or.inl ?_)
  by_cases beyond : cursor.overruns 2
  · rw [number_stuck ⟨cursor, m_MsgBuf⟩ beyond]
    exact low
  · rw [number_position ⟨cursor, m_MsgBuf⟩ beyond]
    simp only
    omega

lemma raw_inArray_iff
  (counted : 0 ≤ cursor.m_MsgSize) (fits : cursor.m_MsgSize < NETWORKMESSAGE_MAXSIZE) :
  AllInArray (GetRaw ⟨cursor, m_MsgBuf⟩).looked ↔ cursor.Addresses .GetRaw := by
  have length : cursor.rawLength = ((cursor.m_MsgSize - cursor.m_ReadPos) % 65536).toNat := rfl
  simp only [GetRaw, Cursor.Addresses]
  rw [text_inArray_iff, overruns_iff]
  omega

lemma position_inArray_iff :
  AllInArray (GetPosition ⟨cursor, m_MsgBuf⟩).looked ↔ InArray cursor.m_ReadPos := by
  have last (place : Int) : AllInArray [place] ↔ InArray place := forall_mem_singleton
  simp only [GetPosition, GetByte, GetU16]
  rw [allInArray_append, allInArray_append, last,
    number_inArray_iff Nat.two_pos (by decide),
    number_inArray_iff Nat.two_pos (by decide)]
  by_cases beyond : cursor.overruns 2
  · have stuck := number_stuck ⟨cursor, m_MsgBuf⟩ beyond
    have still : ({ cursor with m_overrun := true } : Cursor).overruns 2 := beyond
    rw [stuck, number_stuck ⟨_, m_MsgBuf⟩ still]
    exact ⟨fun all => all.2, fun all => ⟨⟨all.1, all.1⟩, all⟩⟩
  · rw [number_position ⟨cursor, m_MsgBuf⟩ beyond]
    simp only [Nat.cast_ofNat]
    rw [overruns_iff] at beyond
    by_cases overNext : ({ cursor with m_ReadPos := cursor.m_ReadPos + 2 } : Cursor).overruns 2
    · rw [number_stuck ⟨_, m_MsgBuf⟩ overNext]
      simp only [InArray] at overNext ⊢
      omega
    · rw [number_position ⟨_, m_MsgBuf⟩ overNext]
      rw [overruns_iff] at overNext
      simp only [InArray] at overNext ⊢
      omega

lemma inArray_iff
  (counted : 0 ≤ cursor.m_MsgSize) (fits : cursor.m_MsgSize < NETWORKMESSAGE_MAXSIZE) :
  AllInArray (call.make ⟨cursor, m_MsgBuf⟩).looked ↔ cursor.Addresses call := by
  cases call with
  | GetByte => exact forall_mem_singleton
  | GetU16 => exact number_inArray_iff Nat.two_pos (by decide)
  | GetU32 => exact number_inArray_iff (Nat.succ_pos 3) (by decide)
  | PeekU32 =>
    have same :
        (PeekU32 ⟨cursor, m_MsgBuf⟩).looked = (GetU32 ⟨cursor, m_MsgBuf⟩).looked := peek_looked
    simp only [Call.make, Got.map, same]
    exact number_inArray_iff (Nat.succ_pos 3) (by decide)
  | GetString => exact string_inArray_iff
  | GetRaw => exact raw_inArray_iff counted fits
  | GetPosition => exact position_inArray_iff
  | SkipBytes count => exact iff_of_true allInArray_nil trivial

end Calls

/-! ## A packet -/

lemma size_after (call : Call) (m_MsgBuf : Int → UInt8) (cursor : Cursor) :
  (answer call m_MsgBuf cursor).2.m_MsgSize = cursor.m_MsgSize := by
  have number (width : Nat) (message : NetworkMessage) :
      (getNumber width message).cursor.m_MsgSize = message.m_MsgSize := by
    rw [getNumber]
    split <;> rfl
  have text (stringlen : Nat) (message : NetworkMessage) :
      (getText stringlen message).cursor.m_MsgSize = message.m_MsgSize := by
    rw [getText]
    split <;> rfl
  cases call with
  | GetByte => rfl
  | GetU16 => exact number 2 _
  | GetU32 => exact number 4 _
  | PeekU32 =>
    simp only [answer, Call.make, Got.map, PeekU32]
    split <;> rfl
  | GetString => exact (text _ _).trans (number 2 _)
  | GetRaw => exact text _ _
  | GetPosition => exact (number 2 _).trans (number 2 _)
  | SkipBytes count => rfl

namespace Packet

variable {packet : Packet} {message : NetworkMessage} {before : Int → UInt8} {place : Int}

lemma received_within (low : 0 ≤ place) (high : place < packet.body.length + 2) :
  (packet.received message).m_MsgBuf place =
    (packet.received { message with m_MsgBuf := before }).m_MsgBuf place := by
  by_cases isHeader : place < 2
  · simp only [received, header, header_length]
    rw [store_before isHeader, store_before isHeader]
    exact store_within low (by simpa using isHeader)
  · simp only [received, header, header_length]
    exact store_within (by omega) (by omega)

lemma received_outside (outside : place < 0 ∨ (packet.body.length : Int) + 2 ≤ place) :
  (packet.received message).m_MsgBuf place = message.m_MsgBuf place := by
  simp only [received, header, header_length]
  rcases outside with low | high
  · rw [store_before (by omega), store_before low]
  · rw [store_behind (by omega), store_behind (by simp; omega)]

lemma alike_iff :
  Alike (packet.received message).m_MsgBuf
      (packet.received message).m_MsgSize other ↔
    ∃ before, other = (packet.received { message with m_MsgBuf := before }).m_MsgBuf := by
  constructor
  · intro alike
    refine ⟨other, funext fun place => ?_⟩
    by_cases low : place < 0
    · rw [Packet.received_outside (Or.inl low)]
    · by_cases high : (packet.body.length : Int) + 2 ≤ place
      · rw [Packet.received_outside (Or.inr high)]
      · rw [alike place (by omega) (by show _ < (_ : Int) + 2; omega)]
        exact Packet.received_within (by omega) (by omega)
  · rintro ⟨before, rfl⟩ place low high
    exact Packet.received_within low high

end Packet

lemma lookedAt_append_iff {call : Call} {calls : List Call} {m_MsgBuf : Int → UInt8}
  {cursor : Cursor} (now : AllInArray (lookedAt [call] m_MsgBuf cursor)) :
  AllInArray (lookedAt (call :: calls) m_MsgBuf cursor) ↔
    AllInArray (lookedAt calls m_MsgBuf (answer call m_MsgBuf cursor).2) := by
  rw [lookedAt, allInArray_append] at now ⊢
  exact and_iff_right now.1

/--
A sequence of calls stays within the packet exactly when each of its calls is made
in a state which is safe for it.
-/
theorem stays_within_iff (packet : Packet) (message : NetworkMessage) (calls : List Call) :
  StaysWithin packet message calls ↔
    Each answer
      (Cursor.Safe (packet.received message).m_MsgBuf) calls
      (packet.received message).m_MsgBuf
      (packet.received message).toCursor := by
  have size : (packet.received message).m_MsgSize = packet.body.length + 2 := rfl
  have isMax : NETWORKMESSAGE_MAXSIZE = 16768 := rfl
  have accepted := packet.fits
  have quiet :
      ∀ front,
        ((cursorAfter front (packet.received message)).m_overrun = true ∨
          ∀ before : Int → UInt8,
            values front (packet.received message) =
              values front (packet.received { message with m_MsgBuf := before })) ↔
        Quiet answer Cursor.Overrun
          (Alike (packet.received message).m_MsgBuf (packet.received message).m_MsgSize)
          front (packet.received message).m_MsgBuf
          (packet.received message).toCursor := by
    intro front
    refine or_congr Iff.rfl ⟨?_, ?_⟩
    · intro same other alike
      rcases packet.alike_iff.1 alike with ⟨before, rfl⟩
      exact same before
    · intro same before
      exact same _ (packet.alike_iff.2 ⟨before, rfl⟩)
  have split :
      StaysWithin packet message calls ↔
        (∀ front, front <+: calls →
          Quiet answer Cursor.Overrun
            (Alike (packet.received message).m_MsgBuf (packet.received message).m_MsgSize)
            front (packet.received message).m_MsgBuf
            (packet.received message).toCursor) ∧
        ∀ front, front <+: calls →
          AllInArray
            (lookedAt front (packet.received message).m_MsgBuf
              (packet.received message).toCursor) := by
    simp only [StaysWithin, quiet, imp_and, forall_and]
    exact Iff.rfl
  have looks :
      Each answer
          (fun cursor call =>
            AllInArray (lookedAt [call] (packet.received message).m_MsgBuf cursor))
          calls (packet.received message).m_MsgBuf
          (packet.received message).toCursor ↔
        ∀ front, front <+: calls →
          AllInArray
            (lookedAt front (packet.received message).m_MsgBuf
              (packet.received message).toCursor) :=
    each_iff_prefixes
      (fun calls cursor => AllInArray (lookedAt calls (packet.received message).m_MsgBuf cursor))
      (fun _ _ => Iff.rfl) (fun _ => allInArray_nil)
      fun _ _ _ => lookedAt_append_iff
  rw [split, quiet_prefixes_iff answer_told overrun_lasting, ← looks, ← each_and]
  refine Each.congr
    (fun cursor => cursor.m_MsgSize = (packet.received message).m_MsgSize)
    rfl ?_ ?_
  · intro cursor call same
    rw [size_after, same]
  · intro cursor call same
    have one :
        lookedAt [call] (packet.received message).m_MsgBuf cursor =
          (call.make ⟨cursor, (packet.received message).m_MsgBuf⟩).looked :=
      append_nil _
    rw [one, inArray_iff (by omega) (by omega), Cursor.Safe]
    refine and_congr_left fun addresses => ?_
    rw [QuietCall, Cursor.Overrun, overrun_after, or_assoc, ← same]
    refine or_congr Iff.rfl ?_
    by_cases beyond : cursor.Overruns call
    · exact iff_of_true (Or.inl beyond) (Or.inl beyond)
    · rw [or_iff_right beyond, or_iff_right beyond]
      exact told_iff (by omega) (by omega) addresses beyond

def loginByte : Packet where
  low := 1
  high := 0
  body := [1]
  length_eq := rfl
  not_empty := Nat.one_pos
  fits := by decide

/--
The login protocol reads a number behind the one byte of the packet: it gets two
bytes which the buffer held before, and the message is not overrun.
-/
theorem old_bytes_are_returned :
    let blank : NetworkMessage :=
      { m_MsgBuf := fun _ => 0
        m_MsgSize := 0
        m_ReadPos := 4
        m_overrun := false }
    let used : NetworkMessage := { blank with m_MsgBuf := fun _ => 7 }
    let calls : List Call := [.GetByte, .GetU16]
    values calls (loginByte.received blank) =
        [.byte 1, .number 0] ∧
      values calls (loginByte.received used) = [.byte 1, .number (7 + 256 * 7)] ∧
      ¬ StaysWithin loginByte blank calls := by
  refine ⟨by decide +kernel, by decide +kernel, fun stays => ?_⟩
  rcases (stays _ prefix_rfl).1 with raised | same
  · exact absurd raised (by decide +kernel)
  · exact absurd (same fun _ => 7) (by decide +kernel)

end OTServ.Protocol.NetworkMessages
