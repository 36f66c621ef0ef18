import OTServ.Protocol.Outgoing
import Mathlib.Logic.Function.Iterate

/-!
# Encrypted messages

The protocols of the later clients encrypt what they send, eight bytes at a time.  The
two bytes that the header is short of a whole group are encrypted with it, and a second
header counts them.  A message with too little room left for its padding is sent without,
and the other end refuses it.
-/

namespace OTServ.Protocol.NetworkMessages

open Library.ByteStreams
open List Function

/-- `m_key` -/
abbrev XTEAKey : Type := Fin 4 → UInt32

/-- `v0`, `v1` and `sum` -/
structure XTEABlock where
  v0 : UInt32
  v1 : UInt32
  sum : UInt32

def delta : UInt32 := 0x61C88647

section

variable (k : XTEAKey) (f : UInt32 × UInt32 → UInt32 × UInt32)

/-- What is added to one half: of the other one, and of the key at the index. -/
def xteaMix (sum index v : UInt32) : UInt32 :=
  ((v <<< 4 ^^^ v >>> 5) + v) ^^^
    (sum + k ⟨(index &&& 3).toNat % 4, Nat.mod_lt _ (Nat.succ_pos 3)⟩)

def encryptRound (block : XTEABlock) : XTEABlock :=
  let v0 := block.v0 + xteaMix k block.sum block.sum block.v1
  let sum := block.sum - delta
  ⟨v0, block.v1 + xteaMix k sum (sum >>> 11) v0, sum⟩

def decryptRound (block : XTEABlock) : XTEABlock :=
  let v1 := block.v1 - xteaMix k block.sum (block.sum >>> 11) block.v0
  let sum := block.sum + delta
  ⟨block.v0 - xteaMix k sum sum v1, v1, sum⟩

def encryptPair (v : UInt32 × UInt32) : UInt32 × UInt32 :=
  let block := (encryptRound k)^[32] ⟨v.1, v.2, 0⟩
  (block.v0, block.v1)

def decryptPair (v : UInt32 × UInt32) : UInt32 × UInt32 :=
  let block := (decryptRound k)^[32] ⟨v.1, v.2, 0xC6EF3720⟩
  (block.v0, block.v1)

def pairOf (bytes : List UInt8) : UInt32 × UInt32 :=
  (UInt32.ofNat (ofLittleEndian (bytes.take 4)), UInt32.ofNat (ofLittleEndian (bytes.drop 4)))

def pairBytes (v : UInt32 × UInt32) : List UInt8 :=
  littleEndian 4 v.1.toNat ++ littleEndian 4 v.2.toNat

/-- Two words of the buffer, `buffer[read_pos]` and the next one, are replaced. -/
def replaced (bytes : List UInt8) : List UInt8 :=
  pairBytes (f (pairOf bytes))

/-- The loop over the words from `getBodyBuffer` on. -/
def replaceWords (words read_pos : Nat) (m_MsgBuf : Int → UInt8) : Int → UInt8 :=
  if read_pos < words then
    let place := header_length + 4 * (read_pos : Int)
    replaceWords words (read_pos + 2)
      (store m_MsgBuf place (replaced f (bytesAt m_MsgBuf place 8)))
  else m_MsgBuf
termination_by words - read_pos

end

/-- `m_outputBufferStart` is where the message begins. -/
structure OutputMessage extends NetworkMessage where
  m_outputBufferStart : Int

namespace OutputMessage

/-- The size in two bytes, and two bytes more. -/
def writeSize (place : Int) (msg : OutputMessage) : OutputMessage :=
  { msg with
    m_MsgBuf := store msg.m_MsgBuf place (littleEndian 2 msg.m_MsgSize.toNat)
    m_MsgSize := msg.m_MsgSize + 2
    m_outputBufferStart := place }

def writeMessageLength (msg : OutputMessage) : OutputMessage :=
  msg.writeSize 2

def addCryptoHeader (msg : OutputMessage) : OutputMessage :=
  msg.writeSize 0

def AddPaddingBytes (n : Nat) (msg : OutputMessage) : OutputMessage :=
  if msg.canAdd n then
    { msg with
      m_MsgBuf := store msg.m_MsgBuf msg.m_ReadPos (replicate n 0x33)
      m_MsgSize := msg.m_MsgSize + n }
  else msg

def padded (msg : OutputMessage) : OutputMessage :=
  if (msg.m_MsgSize + 2) % 8 ≠ 0 then
    msg.AddPaddingBytes (8 - (msg.m_MsgSize + 2) % 8).toNat
  else msg

def XTEA_encrypt (k : XTEAKey) (msg : OutputMessage) : OutputMessage :=
  let msg := msg.padded
  addCryptoHeader
    { msg with
      m_ReadPos := 2
      m_MsgBuf := replaceWords (encryptPair k) (msg.m_MsgSize / 4).toNat 0 msg.m_MsgBuf }

/-- `Protocol::onSendMessage`, with `m_encryptionEnabled` and without `m_rawMessages`. -/
def onSendMessage (k : XTEAKey) (msg : OutputMessage) : OutputMessage :=
  (msg.writeMessageLength.XTEA_encrypt k).addCryptoHeader

/-- The bytes from `getOutputBuffer` on. -/
def bytes (msg : OutputMessage) : List UInt8 :=
  bytesAt msg.m_MsgBuf msg.m_outputBufferStart msg.m_MsgSize.toNat

end OutputMessage

def XTEA_decrypt (k : XTEAKey) (msg : NetworkMessage) : Bool × NetworkMessage :=
  if (msg.m_MsgSize - 2) % 8 ≠ 0 then (false, msg)
  else
    let msg :=
      { msg with
        m_ReadPos := 2
        m_MsgBuf := replaceWords (decryptPair k) (msg.m_MsgSize / 4).toNat 0 msg.m_MsgBuf }
    let tmp := GetU16 msg
    if tmp.value > msg.m_MsgSize - 4 then (false, { msg with toCursor := tmp.cursor })
    else (true, { msg with toCursor := { tmp.cursor with m_MsgSize := tmp.value } })

lemma decryptRound_encryptRound (k : XTEAKey) :
  LeftInverse (decryptRound k) (encryptRound k) := by
  intro block
  simp only [decryptRound, encryptRound, UInt32.add_sub_cancel, UInt32.sub_add_cancel]

/-- After all rounds `sum` is where the other direction begins. -/
lemma encryptRounds_sum (k : XTEAKey) (v0 v1 : UInt32) :
  ((encryptRound k)^[32] ⟨v0, v1, 0⟩).sum = 0xC6EF3720 := by
  have counted : Semiconj XTEABlock.sum (encryptRound k) (fun sum => sum - delta) := fun _ => rfl
  have count : (fun sum => sum - delta)^[32] 0 = (0xC6EF3720 : UInt32) := by
    decide +kernel
  exact ((counted.iterate_right 32).eq _).trans count

lemma decryptPair_encryptPair (k : XTEAKey) (v : UInt32 × UInt32) :
  decryptPair k (encryptPair k v) = v := by
  have back := (decryptRound_encryptRound k).iterate 32 ⟨v.1, v.2, 0⟩
  have sum := encryptRounds_sum k v.1 v.2
  simp only [decryptPair, encryptPair]
  rw [← sum, back]

lemma pairOf_pairBytes (v : UInt32 × UInt32) : pairOf (pairBytes v) = v := by
  have word (value : UInt32) :
      UInt32.ofNat (ofLittleEndian (littleEndian 4 value.toNat)) = value := by
    have small : value.toNat < 256 ^ 4 := value.toNat_lt
    rw [ofLittleEndian_littleEndian, Nat.mod_eq_of_lt small, UInt32.ofNat_toNat]
  rw [pairOf, pairBytes, take_left' (littleEndian_length 4 _),
    drop_left' (littleEndian_length 4 _), word, word]

lemma pairBytes_pairOf {bytes : List UInt8} (eight : bytes.length = 8) :
  pairBytes (pairOf bytes) = bytes := by
  have word {part : List UInt8} (four : part.length = 4) :
      littleEndian 4 (UInt32.ofNat (ofLittleEndian part)).toNat = part := by
    have small := ofLittleEndian_lt part
    rw [four] at small
    apply ofLittleEndian_inj (by rw [littleEndian_length, four])
    rw [ofLittleEndian_littleEndian, UInt32.toNat_ofNat']
    exact (congrArg (· % 2 ^ 32) (Nat.mod_eq_of_lt small)).trans (Nat.mod_eq_of_lt small)
  rw [pairBytes, pairOf, word (by simp [eight]), word (by simp [eight]), take_append_drop]

lemma replaced_length (f : UInt32 × UInt32 → UInt32 × UInt32) (bytes : List UInt8) :
  (replaced f bytes).length = 8 := by
  simp [replaced, pairBytes]

lemma replaced_decrypt (k : XTEAKey) {bytes : List UInt8} (eight : bytes.length = 8) :
  replaced (decryptPair k) (replaced (encryptPair k) bytes) = bytes := by
  rw [replaced, replaced, pairOf_pairBytes, decryptPair_encryptPair, pairBytes_pairOf eight]

/-- Every group of eight bytes up to the last word is replaced, and nothing before. -/
lemma replaceWords_spec (f : UInt32 × UInt32 → UInt32 × UInt32) (words read_pos : Nat)
  (m_MsgBuf : Int → UInt8) :
  (∀ place, place < header_length + 4 * read_pos →
      replaceWords f words read_pos m_MsgBuf place = m_MsgBuf place) ∧
    ∀ j : Nat, read_pos + 2 * j < words →
      bytesAt (replaceWords f words read_pos m_MsgBuf)
          (header_length + 4 * read_pos + 8 * j) 8 =
        replaced f (bytesAt m_MsgBuf (header_length + 4 * read_pos + 8 * j) 8) := by
  induction read_pos, m_MsgBuf using replaceWords.induct f words with
  | case1 read_pos m_MsgBuf more place ih =>
    rcases ih with ⟨before, groups⟩
    have size := replaced_length f (bytesAt m_MsgBuf place 8)
    have start : header_length + 4 * ((read_pos + 2 : Nat) : Int) = place + 8 := by
      simp only [place]
      omega
    rw [start] at before groups
    rw [replaceWords, if_pos more]
    change (∀ at_, at_ < place → _) ∧ ∀ j : Nat, _ → bytesAt _ (place + 8 * j) 8 = _
    constructor
    · intro other low
      exact (before other (by omega)).trans (store_before low)
    · intro j within
      cases j with
      | zero =>
        rw [Nat.cast_zero, mul_zero, add_zero]
        refine (bytesAt_congr fun other _ high => before other (by omega)).trans ?_
        rw [bytesAt_store _ _ size.ge, take_of_length_le size.le]
      | succ j =>
        have next : place + 8 * ((j + 1 : Nat) : Int) = place + 8 + 8 * j := by omega
        rw [next, groups j (by omega)]
        refine congrArg (replaced f) (bytesAt_congr fun other low _ => store_behind ?_)
        rw [size]
        omega
  | case2 read_pos m_MsgBuf done =>
    rw [replaceWords, if_neg done]
    exact ⟨fun _ _ => rfl, fun j within => absurd within (by omega)⟩

section

variable {memory other : Int → UInt8} {start place : Int} {count : Nat}

lemma eq_of_bytesAt (same : bytesAt memory start count = bytesAt other start count)
  (low : start ≤ place) (high : place < start + count) : memory place = other place := by
  by_contra differ
  exact bytesAt_ne low high differ same

lemma store_bytesAt (low : start ≤ place) (high : place < start + count) :
  store other start (bytesAt memory start count) place = memory place := by
  have stored := bytesAt_store other start (bytesAt_length memory start count).ge
  rw [take_of_length_le (bytesAt_length ..).le] at stored
  exact eq_of_bytesAt stored low high

end

/-- Both headers together: the second one counts the first as a part of the message. -/
lemma headers_packet (msg : OutputMessage) {size : Nat} (counted : msg.m_MsgSize = size)
  (fits : size + 2 < 16752) :
  ∃ packet : Packet,
    msg.addCryptoHeader.addCryptoHeader.bytes = packet.low :: packet.high :: packet.body ∧
      packet.body = bytesAt msg.m_MsgBuf 2 (size + 2) := by
  have total : ((size : Int) + 2 + 2).toNat = 2 + (size + 2) := by omega
  have header : ((size : Int) + 2).toNat = size + 2 := by omega
  refine ⟨⟨UInt8.ofNat (size + 2), UInt8.ofNat ((size + 2) / 256),
    bytesAt msg.m_MsgBuf 2 (size + 2), ?_, ?_, ?_⟩, ?_, rfl⟩
  · rw [bytesAt_length, UInt8.toNat_ofNat', UInt8.toNat_ofNat']
    omega
  · rw [bytesAt_length]
    omega
  · rw [bytesAt_length, NETWORKMESSAGE_MAXSIZE]
    omega
  · simp only [OutputMessage.bytes, OutputMessage.addCryptoHeader, OutputMessage.writeSize, counted]
    rw [total, bytesAt_add, bytesAt_store _ _ (littleEndian_length 2 _).ge, header]
    refine congrArg (UInt8.ofNat (size + 2) :: UInt8.ofNat ((size + 2) / 256) :: ·) ?_
    refine bytesAt_congr fun place low _ => ?_
    rw [store_behind (by simpa using low), store_behind (by simpa using low)]

/-- A message with room for it is filled up, behind its last byte. -/
lemma padded_spec {msg : OutputMessage} {n : Nat} (size : msg.m_MsgSize = n + 2)
  (position : msg.m_ReadPos = n + 4) (room : n ≤ 16740) :
  ∃ pairs : Nat, msg.padded.m_MsgSize = 8 * pairs + 6 ∧
    n ≤ 8 * pairs + 4 ∧ pairs < 2093 ∧
      ∀ place : Int, place < n + 4 → msg.padded.m_MsgBuf place = msg.m_MsgBuf place := by
  refine ⟨(n + 3) / 8, ?_⟩
  rw [OutputMessage.padded, size]
  split_ifs with ragged
  · have admitted : msg.canAdd (8 - ((n : Int) + 2 + 2) % 8).toNat := by
      rw [canAdd_iff, position, NETWORKMESSAGE_MAXSIZE]
      omega
    rw [OutputMessage.AddPaddingBytes, if_pos admitted]
    refine ⟨?_, by omega, by omega, fun place low => store_before (by omega)⟩
    simp only [size]
    omega
  · exact ⟨by omega, by omega, by omega, fun _ _ => rfl⟩

lemma padded_full {msg : OutputMessage} {n : Nat} (size : msg.m_MsgSize = n + 2)
  (position : msg.m_ReadPos = n + 4) (room : 16740 < n) (most : n < 16748) :
  msg.padded = msg := by
  have refused : ¬ msg.canAdd (8 - ((n : Int) + 2 + 2) % 8).toNat := by
    rw [canAdd_iff, position, NETWORKMESSAGE_MAXSIZE]
    omega
  rw [OutputMessage.padded, size, OutputMessage.AddPaddingBytes, if_neg refused, ite_self]

/-- Whole groups are decrypted as they were, whatever lies behind them. -/
lemma decrypted (k : XTEAKey) (packet : Packet) (before : NetworkMessage)
  {memory : Int → UInt8} {pairs : Nat} (few : pairs < 2093)
  (body : packet.body =
    bytesAt (replaceWords (encryptPair k) (2 * pairs + 1) 0 memory) 2 (8 * pairs + 8))
  {place : Int} (low : 2 ≤ place) (high : place < 8 * pairs + 10) :
  replaceWords (decryptPair k) (2 * pairs + 2) 0 (packet.received before).m_MsgBuf place =
    memory place := by
  obtain ⟨j, within, back⟩ : ∃ j : Nat, j ≤ pairs ∧
      header_length + 4 * ((0 : Nat) : Int) + 8 * j ≤ place ∧
        place < header_length + 4 * ((0 : Nat) : Int) + 8 * j + (8 : Nat) := by
    rw [header_length]
    exact ⟨((place - 2) / 8).toNat, by omega, by omega, by omega⟩
  have encrypt :=
    (replaceWords_spec (encryptPair k) (2 * pairs + 1) 0 memory).2 j (by omega)
  have decrypt :=
    (replaceWords_spec (decryptPair k) (2 * pairs + 2) 0
      (packet.received before).m_MsgBuf).2 j (by omega)
  have carried : bytesAt (packet.received before).m_MsgBuf
        (header_length + 4 * ((0 : Nat) : Int) + 8 * j) 8 =
      bytesAt (replaceWords (encryptPair k) (2 * pairs + 1) 0 memory)
        (header_length + 4 * ((0 : Nat) : Int) + 8 * j) 8 := by
    refine bytesAt_congr fun place low high => ?_
    rw [header_length] at low high
    rw [Packet.received, body]
    exact store_bytesAt (by rw [header_length]; omega) (by rw [header_length]; omega)
  rw [carried, encrypt, replaced_decrypt k (bytesAt_length ..)] at decrypt
  exact eq_of_bytesAt decrypt back.1 back.2

lemma Filled.encrypted {sent : NetworkMessage} (filled : Filled sent) (k : XTEAKey)
  (before : NetworkMessage) (m_outputBufferStart : Int) :
  ∃ packet : Packet,
    (OutputMessage.onSendMessage k ⟨sent, m_outputBufferStart⟩).bytes =
        packet.low :: packet.high :: packet.body ∧
      let got := XTEA_decrypt k (packet.received before)
      (got.1 = true ↔ sent.m_MsgSize ≤ 16740) ∧
        (got.1 = true → got.2.m_MsgSize = sent.m_MsgSize ∧ got.2.m_ReadPos = 4 ∧
          bytesAt got.2.m_MsgBuf 4 sent.m_MsgSize.toNat =
            bytesAt sent.m_MsgBuf 4 sent.m_MsgSize.toNat) := by
  have position := filled.position
  have room := filled.room
  rw [NETWORKMESSAGE_MAXSIZE] at room
  obtain ⟨n, counted⟩ := Int.eq_ofNat_of_zero_le filled.counted
  let lengthy : OutputMessage := OutputMessage.writeMessageLength ⟨sent, m_outputBufferStart⟩
  have lengthySize : lengthy.m_MsgSize = n + 2 := congrArg (· + 2) counted
  have lengthyPos : lengthy.m_ReadPos = n + 4 := by
    simp only [lengthy, OutputMessage.writeMessageLength, OutputMessage.writeSize]
    omega
  by_cases small : n ≤ 16740
  · obtain ⟨pairs, size, padding, few, behind⟩ := padded_spec lengthySize lengthyPos small
    have words : (lengthy.padded.m_MsgSize / 4).toNat = 2 * pairs + 1 := by omega
    have whole : lengthy.padded.m_MsgSize = ((8 * pairs + 6 : Nat) : Int) := by omega
    obtain ⟨packet, bytes, body⟩ := headers_packet
      { lengthy.padded with
        m_ReadPos := 2
        m_MsgBuf :=
          replaceWords (encryptPair k) (2 * pairs + 1) 0 lengthy.padded.m_MsgBuf }
      whole (by omega)
    have length : (packet.body.length : Int) + header_length = 8 * pairs + 10 := by
      rw [body, bytesAt_length, header_length]
      omega
    have wordsBack : ((8 * (pairs : Int) + 10) / 4).toNat = 2 * pairs + 2 := by omega
    have legible (place : Int) (low : 2 ≤ place) (high : place < n + 4) :=
      (decrypted k packet before few body low (by omega)).trans (behind place high)
    have read : GetU16 ⟨⟨8 * pairs + 10, 2, before.m_overrun⟩,
          replaceWords (decryptPair k) (2 * pairs + 2) 0 (packet.received before).m_MsgBuf⟩ =
        ⟨n, ⟨8 * pairs + 10, 4, before.m_overrun⟩, placesAt 2 2⟩ := by
      have value : ofLittleEndian (bytesAt (replaceWords (decryptPair k) (2 * pairs + 2) 0
          (packet.received before).m_MsgBuf) 2 2) = n := by
        rw [bytesAt_congr fun place low high => legible place low (by omega)]
        simp only [lengthy, OutputMessage.writeMessageLength, OutputMessage.writeSize, counted]
        rw [bytesAt_store _ _ (littleEndian_length 2 _).ge,
          take_of_length_le (littleEndian_length 2 _).le, ofLittleEndian_littleEndian]
        exact Nat.mod_eq_of_lt (by omega)
      have there : ¬ Cursor.overruns ⟨8 * pairs + 10, 2, before.m_overrun⟩ (2 : Nat) :=
        show ¬ (2 : Int) ≥ 16768 - 2 by decide
      rw [GetU16, getNumber, if_neg there, value]
      rfl
    have done : XTEA_decrypt k (packet.received before) =
        (true, ⟨⟨n, 4, before.m_overrun⟩, replaceWords (decryptPair k) (2 * pairs + 2) 0
          (packet.received before).m_MsgBuf⟩) := by
      rw [XTEA_decrypt, if_neg (by simp only [Packet.received, length]; omega)]
      simp only [Packet.received, length, wordsBack] at read ⊢
      rw [read, if_neg (by simp only; omega)]
    refine ⟨packet, ?_, ?_⟩
    · rw [← bytes, OutputMessage.onSendMessage, OutputMessage.XTEA_encrypt]
      simp only [lengthy, words]
    · simp only [done, true_iff, counted]
      refine ⟨by omega, fun _ => ⟨trivial, trivial, bytesAt_congr fun place low high => ?_⟩⟩
      refine (legible place (by omega) (by omega)).trans (store_behind ?_)
      rw [littleEndian_length]
      omega
  · have same := padded_full lengthySize lengthyPos (by omega) (by omega)
    have whole : lengthy.m_MsgSize = ((n + 2 : Nat) : Int) := by omega
    obtain ⟨packet, bytes, body⟩ := headers_packet
      { lengthy with
        m_ReadPos := 2
        m_MsgBuf :=
          replaceWords (encryptPair k) (lengthy.m_MsgSize / 4).toNat 0 lengthy.m_MsgBuf }
      whole (by omega)
    have refused : XTEA_decrypt k (packet.received before) = (false, packet.received before) := by
      rw [XTEA_decrypt, if_pos]
      rw [Packet.received, body, bytesAt_length, header_length]
      simp only
      omega
    refine ⟨packet, ?_, ?_⟩
    · rw [← bytes, OutputMessage.onSendMessage, OutputMessage.XTEA_encrypt, same]
    · simp only [refused, counted, Bool.false_eq_true, false_iff, false_imp_iff, and_true]
      omega

/--
Whatever is put into a message, its encryption is a packet that the reader of packets
accepts and that the key decrypts to the same message, unless there is no room left for
the padding; such a packet is refused.
-/
theorem encrypted_message_arrives (k : XTEAKey) (calls : List AddCall)
  (message before : NetworkMessage) :
  let sent := addAll calls message.Reset
  ∃ packet : Packet,
    (OutputMessage.onSendMessage k ⟨sent, 4⟩).bytes =
        packet.low :: packet.high :: packet.body ∧
      let got := XTEA_decrypt k (packet.received before)
      (got.1 = true ↔ sent.m_MsgSize ≤ 16740) ∧
        (got.1 = true → got.2.m_MsgSize = sent.m_MsgSize ∧ got.2.m_ReadPos = 4 ∧
          bytesAt got.2.m_MsgBuf 4 sent.m_MsgSize.toNat =
            bytesAt sent.m_MsgBuf 4 sent.m_MsgSize.toNat) :=
  (Filled.reset.all calls).encrypted k before 4

end OTServ.Protocol.NetworkMessages
