import OTServ.Library.ByteStreams
import OTServ.Map.Position

/-!
# Network messages

`NetworkMessage` is a fixed buffer with a position at which it is read and
written.  `Connection::parseHeader` reads a packet of a client into the buffer of
its connection, over the bytes of the packets before, and a protocol takes the
packet apart with the `Get` functions.  An outgoing message is put together with
the `Add` functions from behind the four bytes kept for the header.

The `Get` functions compare with the capacity of the buffer and not with the
length of the message, and `GetByte` does not compare at all.  The `Add` functions
drop what has no room without a word.

The bytes are addressed by their offset from the start of `m_MsgBuf`; offsets
outside of the array are the memory around it.  Of every `Get` call the offsets
are kept that it looked at.
-/

namespace OTServ.Protocol.NetworkMessages

open Library.ByteStreams
open OTServ.Map
open List

/-- `NETWORKMESSAGE_MAXSIZE`. -/
def NETWORKMESSAGE_MAXSIZE : Int := 16768

structure Cursor where
  m_MsgSize : Int
  m_ReadPos : Int
  m_overrun : Bool
deriving DecidableEq

structure NetworkMessage extends Cursor where
  m_MsgBuf : Int → UInt8

def bytesAt (memory : Int → UInt8) (start : Int) (count : Nat) : List UInt8 :=
  (List.range count).map fun (index : Nat) => memory (start + index)

def placesAt (start : Int) (count : Nat) : List Int :=
  (List.range count).map fun (index : Nat) => start + index

def store (memory : Int → UInt8) (start : Int) (bytes : List UInt8) : Int → UInt8 := fun place =>
  if start ≤ place then
    (bytes[(place - start).toNat]?).getD (memory place)
  else
    memory place

/-! ## Reading -/

/-- What a call returned, the message after it and the bytes it looked at. -/
structure Got (Value : Type) where
  value : Value
  cursor : Cursor
  looked : List Int

def GetByte (message : NetworkMessage) : Got UInt8 where
  value := message.m_MsgBuf message.m_ReadPos
  cursor := { message.toCursor with m_ReadPos := message.m_ReadPos + 1 }
  looked := [message.m_ReadPos]

/-- `expectRead`, negated: the bytes are not expected to be there. -/
def Cursor.overruns (cursor : Cursor) (size : Int) : Prop :=
  size ≥ NETWORKMESSAGE_MAXSIZE - cursor.m_ReadPos

instance (cursor : Cursor) (size : Int) : Decidable (cursor.overruns size) :=
  inferInstanceAs (Decidable (_ ≥ _))

/-- The number of so many bytes, which `GetU16` and `GetU32` read. -/
def getNumber (width : Nat) (message : NetworkMessage) : Got Nat :=
  if message.overruns width then
    { value := 0
      cursor := { message.toCursor with m_overrun := true }
      looked := [] }
  else
    { value :=
        ofLittleEndian (bytesAt message.m_MsgBuf message.m_ReadPos width)
      cursor := { message.toCursor with m_ReadPos := message.m_ReadPos + width }
      looked := placesAt message.m_ReadPos width }

def GetU16 (message : NetworkMessage) : Got Nat :=
  getNumber 2 message

def GetU32 (message : NetworkMessage) : Got Nat :=
  getNumber 4 message

def PeekU32 (message : NetworkMessage) : Got Nat :=
  if message.overruns 4 then
    { value := 0
      cursor := { message.toCursor with m_overrun := true }
      looked := [] }
  else
    { value :=
        ofLittleEndian (bytesAt message.m_MsgBuf message.m_ReadPos 4)
      cursor := message.toCursor
      looked := placesAt message.m_ReadPos 4 }

/-- The text of so many bytes, which `GetString` and `GetRaw` read. -/
def getText (stringlen : Nat) (message : NetworkMessage) : Got (List UInt8) :=
  if message.overruns stringlen then
    -- an empty string, and no word of the overrun
    { value := []
      cursor := message.toCursor
      looked := [] }
  else
    { value := bytesAt message.m_MsgBuf message.m_ReadPos stringlen
      cursor := { message.toCursor with m_ReadPos := message.m_ReadPos + stringlen }
      looked := placesAt message.m_ReadPos stringlen }

def GetString (message : NetworkMessage) : Got (List UInt8) :=
  let stringlen := GetU16 message
  let text := getText stringlen.value { message with toCursor := stringlen.cursor }
  { text with looked := stringlen.looked ++ text.looked }

/-- `m_MsgSize - m_ReadPos` as an `uint16_t`. -/
def Cursor.rawLength (cursor : Cursor) : Nat :=
  ((cursor.m_MsgSize - cursor.m_ReadPos) % 65536).toNat

def GetRaw (message : NetworkMessage) : Got (List UInt8) :=
  getText message.rawLength message

def GetPosition (message : NetworkMessage) : Got Position :=
  let x := GetU16 message
  let y := GetU16 { message with toCursor := x.cursor }
  let z := GetByte { message with toCursor := y.cursor }
  { value :=
      { x := UInt16.ofNat x.value
        y := UInt16.ofNat y.value
        z := z.value.toUInt16 }
    cursor := z.cursor
    looked := x.looked ++ y.looked ++ z.looked }

def SkipBytes (count : Int) (message : NetworkMessage) : Got Unit where
  value := ()
  cursor := { message.toCursor with m_ReadPos := message.m_ReadPos + count }
  looked := []

/-- `header_length`. -/
def header_length : Int := 2

def decodeHeader (message : NetworkMessage) : Int :=
  (message.m_MsgBuf 0).toNat + 256 * (message.m_MsgBuf 1).toNat

/-- `Connection::parseHeader` up to the order to read the body. -/
def parseHeader (message : NetworkMessage) : Option NetworkMessage :=
  let size := decodeHeader message
  if size > 0 ∧ size < NETWORKMESSAGE_MAXSIZE - 16 then
    -- `setMessageLength` and `getBodyBuffer`
    some
      { message with
        m_MsgSize := size + header_length
        m_ReadPos := 2 }
  else
    none

/-- A packet whose size `parseHeader` accepts. -/
structure Packet where
  low : UInt8
  high : UInt8
  body : List UInt8
  length_eq : (body.length : Int) = low.toNat + 256 * high.toNat
  not_empty : 0 < body.length
  fits : (body.length : Int) < NETWORKMESSAGE_MAXSIZE - 16

namespace Packet

/-- The message with the header of the packet, which `parseHeader` gets. -/
def header (packet : Packet) (message : NetworkMessage) : NetworkMessage :=
  { message with m_MsgBuf := store message.m_MsgBuf 0 [packet.low, packet.high] }

/-- The message with the whole packet, which `parsePacket` gets. -/
def received (packet : Packet) (message : NetworkMessage) : NetworkMessage where
  m_MsgBuf := store (packet.header message).m_MsgBuf header_length packet.body
  m_MsgSize := packet.body.length + header_length
  m_ReadPos := 2
  m_overrun := message.m_overrun

end Packet

/-- An unsigned 32-bit number taken as an `int`. -/
def toInt (number : Nat) : Int :=
  if number % 2 ^ 32 < 2 ^ 31 then (number % 2 ^ 32 : Nat)
  else (number % 2 ^ 32 : Nat) - 2 ^ 32

def Cursor.canAdd (cursor : Cursor) (size : Int) : Prop :=
  size + cursor.m_ReadPos < NETWORKMESSAGE_MAXSIZE - 16

instance (cursor : Cursor) (size : Int) : Decidable (cursor.canAdd size) :=
  inferInstanceAs (Decidable (_ < _))

/-- Bytes written at the position, and both counters moved by a count. -/
def NetworkMessage.write
  (message : NetworkMessage) (bytes : List UInt8) (count : Nat) : NetworkMessage :=
  { message with
    m_MsgBuf := store message.m_MsgBuf message.m_ReadPos bytes
    m_ReadPos := message.m_ReadPos + count
    m_MsgSize := message.m_MsgSize + count }

def AddByte (value : UInt8) (message : NetworkMessage) : NetworkMessage :=
  if message.canAdd 1 then message.write [value] 1 else message

/-- The number of so many bytes, which `AddU16` and `AddU32` write. -/
def addNumber (width value : Nat) (message : NetworkMessage) : NetworkMessage :=
  if message.canAdd width then
    message.write (littleEndian width value) width
  else
    message

def AddU16 (value : UInt16) (message : NetworkMessage) : NetworkMessage :=
  addNumber 2 value.toNat message

def AddU32 (value : UInt32) (message : NetworkMessage) : NetworkMessage :=
  addNumber 4 value.toNat message

/-- `value.c_str()`, up to its terminator. -/
def c_str (value : List UInt8) : List UInt8 :=
  value.takeWhile (· ≠ 0)

/-- `AddString(const std::string&)` and `AddString(const char*)`. -/
def AddString (value : List UInt8) (message : NetworkMessage) : NetworkMessage :=
  -- `strlen` as an `uint32_t`
  let stringlen := (c_str value).length % 2 ^ 32
  if ¬ message.canAdd (toInt (stringlen + 2)) ∨ 8192 < stringlen then
    message
  else
    -- `strcpy` copies the terminator too, which is not counted
    (AddU16 (UInt16.ofNat stringlen) message).write (c_str value ++ [0]) stringlen

def AddBytes (bytes : List UInt8) (message : NetworkMessage) : NetworkMessage :=
  let size := bytes.length % 2 ^ 32
  if ¬ message.canAdd (toInt size) ∨ 8192 < size then
    message
  else
    message.write (bytes.take size) size

def AddPosition (pos : Position) (message : NetworkMessage) : NetworkMessage :=
  AddByte (UInt8.ofNat pos.z.toNat) (AddU16 pos.y (AddU16 pos.x message))

/-- A message after `Reset`. -/
def NetworkMessage.Reset (message : NetworkMessage) : NetworkMessage :=
  { message with m_overrun := false, m_MsgSize := 0, m_ReadPos := 4 }

@[simp]
lemma bytesAt_length (memory : Int → UInt8) (start : Int) (count : Nat) :
  (bytesAt memory start count).length = count := by
  rw [bytesAt, length_map, length_range]

variable {start place : Int} {count : Nat} {memory other : Int → UInt8} {bytes : List UInt8}

lemma mem_placesAt : place ∈ placesAt start count ↔ start ≤ place ∧ place < start + count := by
  simp only [placesAt, mem_map, mem_range]
  constructor
  · rintro ⟨index, below, rfl⟩
    omega
  · rintro ⟨low, high⟩
    exact ⟨(place - start).toNat, by omega, by omega⟩

lemma bytesAt_congr
  (same : ∀ place, start ≤ place → place < start + count → memory place = other place) :
  bytesAt memory start count = bytesAt other start count := by
  refine map_congr_left fun index isIndex => ?_
  have below := mem_range.1 isIndex
  exact same _ (by omega) (by omega)

lemma bytesAt_ne
  (low : start ≤ place) (high : place < start + count) (differ : memory place ≠ other place) :
  bytesAt memory start count ≠ bytesAt other start count := by
  intro same
  have atIndex := map_inj_left.1 same (place - start).toNat (mem_range.2 (by omega))
  have back : start + ((place - start).toNat : Int) = place := by omega
  rw [back] at atIndex
  exact differ atIndex

lemma store_before (before : place < start) : store memory start bytes place = memory place := by
  rw [store, if_neg (by omega)]

lemma store_behind (behind : start + bytes.length ≤ place) :
  store memory start bytes place = memory place := by
  have beyond : bytes[(place - start).toNat]? = none := List.getElem?_eq_none (by omega)
  rw [store, beyond]
  exact ite_self _

lemma store_within (low : start ≤ place) (high : place < start + bytes.length) :
  store memory start bytes place = store other start bytes place := by
  have below : (place - start).toNat < bytes.length := by omega
  rw [store, store, if_pos low, if_pos low, List.getElem?_eq_getElem below]
  rfl

lemma bytesAt_add (memory : Int → UInt8) (start : Int) (count more : Nat) :
  bytesAt memory start (count + more) =
    bytesAt memory start count ++ bytesAt memory (start + count) more := by
  rw [bytesAt, bytesAt, bytesAt, range_add, map_append, map_map]
  congr 1
  refine map_congr_left fun index _ => ?_
  simp only [Function.comp_apply, Nat.cast_add, add_assoc]

lemma bytesAt_one (memory : Int → UInt8) (start : Int) :
  bytesAt memory start 1 = [memory start] := by
  rw [bytesAt, range_one, map_singleton]
  simp only [Nat.cast_zero, add_zero]

lemma bytesAt_append_iff {left right : List UInt8} :
  bytesAt memory start (left ++ right).length = left ++ right ↔
    bytesAt memory start left.length = left ∧
      bytesAt memory (start + left.length) right.length = right := by
  rw [length_append, bytesAt_add]
  constructor
  · intro both
    exact append_inj both (bytesAt_length _ _ _)
  · rintro ⟨first, second⟩
    rw [first, second]

lemma bytesAt_store (memory : Int → UInt8) (start : Int) (enough : count ≤ bytes.length) :
  bytesAt (store memory start bytes) start count = bytes.take count := by
  refine ext_getElem ?_ ?_
  · rw [bytesAt_length, length_take, Nat.min_eq_left enough]
  · intro index isIndex _
    rw [bytesAt_length] at isIndex
    have back : (start + (index : Int) - start).toNat = index := by omega
    have below : index < bytes.length := by omega
    simp only [bytesAt, getElem_map, getElem_range, getElem_take]
    rw [store, if_pos (by omega), back, List.getElem?_eq_getElem below, Option.getD_some]

end OTServ.Protocol.NetworkMessages
