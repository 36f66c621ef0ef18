import OTServ.Items.Types
import OTServ.Library.ByteStreams
import OTServ.Map.Position

/-!
# The attributes of a stored item

`serializeAttr` writes the attributes of an item as tagged values, and
`unserializeAttr` hands them one by one to `readAttr` until it comes upon a zero.
The tag of the items in a container is written by `saveItem` in the midst of
them; of all classes only `Container::readAttr` takes it for what it is.

An attribute is kept here with the bytes of its value.  What an object does with
an attribute it is handed is left out, but for what its decay depends on.
-/

namespace OTServ.MapStore

open Items
open Library.ByteStreams
open List

/-- `ItemType` with what is asked of it while items are stored and loaded. -/
structure ItemType extends Items.ItemType where
  canWriteText : Bool
  decayTo : Int
  decayTime : UInt32

def addUInt8 (ret : UInt8) : Stream := littleEndian 1 ret.toNat

def addUInt16 (ret : UInt16) : Stream := littleEndian 2 ret.toNat

def addUInt32 (ret : UInt32) : Stream := littleEndian 4 ret.toNat

/-- The part of a text which `ADD_STRING` writes: its length has sixteen bits. -/
def storedText (add : List UInt8) : List UInt8 :=
  add.take (UInt16.ofNat add.length).toNat

def addString (add : List UInt8) : Stream :=
  addUInt16 (UInt16.ofNat add.length) ++ storedText add

def getUInt8 : Reader UInt8 := (number 1).map UInt8.ofNat

def getUInt16 : Reader UInt16 := (number 2).map UInt16.ofNat

def getUInt32 : Reader UInt32 := (number 4).map UInt32.ofNat

def getString : Reader (List UInt8) := prefixed 2

lemma getUInt8_reads (ret : UInt8) : Reads getUInt8 (addUInt8 ret) ret := by
  have fits : ret.toNat < 256 ^ 1 := ret.toNat_lt
  have reads := (number_reads fits).map UInt8.ofNat
  rwa [UInt8.ofNat_toNat] at reads

lemma getUInt16_reads (ret : UInt16) : Reads getUInt16 (addUInt16 ret) ret := by
  have fits : ret.toNat < 256 ^ 2 := ret.toNat_lt
  have reads := (number_reads fits).map UInt16.ofNat
  rwa [UInt16.ofNat_toNat] at reads

lemma getUInt32_reads (ret : UInt32) : Reads getUInt32 (addUInt32 ret) ret := by
  have fits : ret.toNat < 256 ^ 4 := ret.toNat_lt
  have reads := (number_reads fits).map UInt32.ofNat
  rwa [UInt32.ofNat_toNat] at reads

lemma getString_reads (add : List UInt8) : Reads getString (addString add) (storedText add) := by
  have kept : (storedText add).length = (UInt16.ofNat add.length).toNat := by
    rw [storedText, length_take, UInt16.toNat_ofNat']
    exact Nat.min_eq_left (Nat.mod_le _ _)
  have fits : (storedText add).length < 256 ^ 2 := by
    rw [kept]
    exact UInt16.toNat_lt _
  have reads := prefixed_reads fits
  rwa [kept] at reads

lemma getUInt8_shrinks : Shrinks getUInt8 := number_shrinks 1

lemma getUInt16_shrinks : Shrinks getUInt16 := number_shrinks 2

lemma getUInt32_shrinks : Shrinks getUInt32 := number_shrinks 4

lemma getString_shrinks : Shrinks getString := prefixed_shrinks 2

/-- `AttrTypes_t`, the tags which `readAttr` knows. -/
inductive AttrTypes where
  | actionId
  | uniqueId
  | text
  | desc
  | teleDest
  | depotId
  | runeCharges
  | houseDoorId
  | count
  | duration
  | decayingState
  | writtenBy
  | sleeperGuid
  | sleepStart
  | containerItems
deriving DecidableEq

namespace AttrTypes

def toByte : AttrTypes → UInt8
  | actionId => 4
  | uniqueId => 5
  | text => 6
  | desc => 7
  | teleDest => 8
  | depotId => 10
  | runeCharges => 12
  | houseDoorId => 14
  | count => 15
  | duration => 16
  | decayingState => 17
  | writtenBy => 19
  | sleeperGuid => 20
  | sleepStart => 21
  | containerItems => 22

def all : List AttrTypes :=
  [actionId, uniqueId, text, desc, teleDest, depotId, runeCharges, houseDoorId,
    count, duration, decayingState, writtenBy, sleeperGuid, sleepStart,
    containerItems]

def ofByte (byte : UInt8) : Option AttrTypes :=
  all.find? (·.toByte = byte)

@[simp]
lemma ofByte_toByte (type : AttrTypes) : ofByte type.toByte = some type := by
  cases type <;> decide

lemma toByte_ne_zero (type : AttrTypes) : type.toByte ≠ 0 := by
  cases type <;> decide

end AttrTypes

/-- An attribute with its value, as it is written or handed to an item. -/
inductive Attr where
  | actionId (n : UInt16)
  | uniqueId (n : UInt16)
  | text (text : List UInt8)
  | desc (text : List UInt8)
  | teleDest (x y : UInt16) (z : UInt8)
  | depotId (n : UInt16)
  | runeCharges (n : UInt8)
  | houseDoorId (n : UInt8)
  | count (n : UInt8)
  | duration (n : UInt32)
  | decayingState (n : UInt8)
  | writtenBy (text : List UInt8)
  | sleeperGuid (n : UInt32)
  | sleepStart (n : UInt32)
deriving DecidableEq

namespace Attr

def type : Attr → AttrTypes
  | actionId _ => .actionId
  | uniqueId _ => .uniqueId
  | text _ => .text
  | desc _ => .desc
  | teleDest _ _ _ => .teleDest
  | depotId _ => .depotId
  | runeCharges _ => .runeCharges
  | houseDoorId _ => .houseDoorId
  | count _ => .count
  | duration _ => .duration
  | decayingState _ => .decayingState
  | writtenBy _ => .writtenBy
  | sleeperGuid _ => .sleeperGuid
  | sleepStart _ => .sleepStart

def value : Attr → Stream
  | actionId n | uniqueId n | depotId n => addUInt16 n
  | text t | desc t | writtenBy t => addString t
  | teleDest x y z => addUInt16 x ++ (addUInt16 y ++ addUInt8 z)
  | runeCharges n | houseDoorId n | count n | decayingState n => addUInt8 n
  | duration n | sleeperGuid n | sleepStart n => addUInt32 n

def bytes (attr : Attr) : Stream :=
  addUInt8 attr.type.toByte ++ attr.value

def stored : Attr → Attr
  | text t => text (storedText t)
  | desc t => desc (storedText t)
  | writtenBy t => writtenBy (storedText t)
  | attr => attr

end Attr

structure Attributes where
  count : UInt8
  charges : UInt16
  fluidType : UInt16
  actionId : UInt16
  text : List UInt8
  writer : List UInt8
  specialDescription : List UInt8
  duration : Int32
  decaying : UInt32
  sleeperGUID : UInt32
  sleepStart : Int64
  destPos : Map.Position
deriving DecidableEq

/-- `DECAYING_TRUE` -/
def decayingTrue : UInt32 := 1

/-- `DECAYING_PENDING` -/
def decayingPending : UInt32 := 2

section Writing

variable (it : ItemType) (item : Attributes)

/-- `Item::getSubType` -/
def getSubType : UInt16 :=
  if it.group = .fluid ∨ it.group = .splash then item.fluidType
  else if it.charges ≠ 0 then item.charges
  else item.count.toUInt16

/-- `Item::serializeAttr` -/
def Item.serializeAttr : List Attr :=
  (if it.stackable ∨ it.group = .splash ∨ it.group = .fluid then
    [.count (getSubType it item).toUInt8] else []) ++
  (if it.charges ≠ 0 then [.runeCharges item.charges.toUInt8] else []) ++
  (if it.moveable ∧ item.actionId ≠ 0 then [.actionId item.actionId] else []) ++
  (if item.text ≠ [] then [.text item.text] else []) ++
  (if item.writer ≠ [] then [.writtenBy item.writer] else []) ++
  (if item.specialDescription ≠ [] then
    [.desc item.specialDescription] else []) ++
  (if item.duration ≠ 0 then [.duration item.duration.toUInt32] else []) ++
  (if item.decaying = decayingTrue ∨ item.decaying = decayingPending then
    [.decayingState item.decaying.toUInt8] else [])

/-- `Teleport::serializeAttr` -/
def Teleport.serializeAttr : List Attr :=
  Item.serializeAttr it item ++ [.teleDest item.destPos.x item.destPos.y item.destPos.z.toUInt8]

/-- `BedItem::serializeAttr` -/
def BedItem.serializeAttr : List Attr :=
  [.sleeperGuid item.sleeperGUID, .sleepStart item.sleepStart.toInt32.toUInt32]

/-- `Door::serializeAttr` writes nothing. -/
def Door.serializeAttr : List Attr := []

/-- The `serializeAttr` of the class of the item. -/
def serializeAttr : ItemClass → List Attr
  | .teleport => Teleport.serializeAttr it item
  | .bed => BedItem.serializeAttr item
  | .door => Door.serializeAttr
  | _ => Item.serializeAttr it item

end Writing

/-! ## Reading -/

/-- `Attr_ReadValue` with what was read. -/
inductive AttrRead where
  | error
  | continue (attr : Attr)
  | end (serializationCount : UInt32)

def readValue {α : Type} (read : Reader α) (result : α → AttrRead)
  (propStream : Stream) : AttrRead × Stream :=
  match read propStream with
  | (some value, rest) => (result value, rest)
  | (none, rest) => (.error, rest)

/-- The three numbers of a `TeleportDest`. -/
def getTeleportDest : Reader Attr :=
  getUInt16.andThen fun x => getUInt16.andThen fun y => getUInt8.map fun z => .teleDest x y z

/-- `Item::readAttr` -/
def Item.readAttr (attr : AttrTypes) : Stream → AttrRead × Stream :=
  match attr with
  | .count => readValue getUInt8 (.continue ∘ .count)
  | .actionId => readValue getUInt16 (.continue ∘ .actionId)
  | .uniqueId => readValue getUInt16 (.continue ∘ .uniqueId)
  | .text => readValue getString (.continue ∘ .text)
  | .writtenBy => readValue getString (.continue ∘ .writtenBy)
  | .desc => readValue getString (.continue ∘ .desc)
  | .runeCharges => readValue getUInt8 (.continue ∘ .runeCharges)
  | .duration => readValue getUInt32 (.continue ∘ .duration)
  | .decayingState => readValue getUInt8 (.continue ∘ .decayingState)
  | .depotId => readValue getUInt16 (.continue ∘ .depotId)
  | .houseDoorId => readValue getUInt8 (.continue ∘ .houseDoorId)
  | .sleeperGuid => readValue getUInt32 (.continue ∘ .sleeperGuid)
  | .sleepStart => readValue getUInt32 (.continue ∘ .sleepStart)
  | .teleDest => readValue getTeleportDest .continue
  -- the items of a container follow, so that reading cannot go on
  | .containerItems => readValue getUInt32 fun _ => .error

/-- `Container::readAttr` -/
def Container.readAttr (attr : AttrTypes) : Stream → AttrRead × Stream :=
  match attr with
  | .containerItems => readValue getUInt32 .end
  | _ => Item.readAttr attr

/-- `Depot::readAttr`, which does not go by way of `Container::readAttr`. -/
def Depot.readAttr (attr : AttrTypes) : Stream → AttrRead × Stream :=
  match attr with
  | .depotId => readValue getUInt16 (.continue ∘ .depotId)
  | _ => Item.readAttr attr

/-- `Door::readAttr` -/
def Door.readAttr (attr : AttrTypes) : Stream → AttrRead × Stream :=
  match attr with
  | .houseDoorId => readValue getUInt8 (.continue ∘ .houseDoorId)
  | _ => Item.readAttr attr

/-- `BedItem::readAttr` -/
def BedItem.readAttr (attr : AttrTypes) : Stream → AttrRead × Stream :=
  match attr with
  | .sleeperGuid => readValue getUInt32 (.continue ∘ .sleeperGuid)
  | .sleepStart => readValue getUInt32 (.continue ∘ .sleepStart)
  | _ => Item.readAttr attr

/-- `Teleport::readAttr` -/
def Teleport.readAttr (attr : AttrTypes) : Stream → AttrRead × Stream :=
  match attr with
  | .teleDest => readValue getTeleportDest .continue
  | _ => Item.readAttr attr

/-- The `readAttr` of the class of the item. -/
def readAttr : ItemClass → AttrTypes → Stream → AttrRead × Stream
  | .container => Container.readAttr
  | .depot => Depot.readAttr
  | .door => Door.readAttr
  | .bed => BedItem.readAttr
  | .teleport => Teleport.readAttr
  | _ => Item.readAttr

/--
What `unserializeAttr` has done: the attributes handed to `readAttr`, its answer,
the `serializationCount` if it was set, and the rest of the stream.
-/
structure Unserialized where
  attrs : List Attr
  ok : Bool
  serializationCount : Option UInt32
  rest : Stream

def Unserialized.after (attr : Attr) (later : Unserialized) : Unserialized :=
  { later with attrs := attr :: later.attrs }

/-- The loop of `Item::unserializeAttr`, in at most so many rounds. -/
def unserializeRounds (itemClass : ItemClass) : Nat → Stream → Unserialized
  | 0, propStream => ⟨[], true, none, propStream⟩
  | rounds + 1, propStream =>
    match getUInt8 propStream with
    | (none, rest) => ⟨[], true, none, rest⟩
    | (some attrType, rest) =>
      if attrType = 0 then ⟨[], true, none, rest⟩
      else
        match AttrTypes.ofByte attrType with
        | none => ⟨[], false, none, rest⟩
        | some attr =>
          match readAttr itemClass attr rest with
          | (.error, rest) => ⟨[], false, none, rest⟩
          | (.end count, rest) => ⟨[], true, some count, rest⟩
          | (.continue value, rest) =>
            (unserializeRounds itemClass rounds rest).after value

/-- `Item::unserializeAttr`; every round takes a byte. -/
def unserializeAttr (itemClass : ItemClass) (propStream : Stream) : Unserialized :=
  unserializeRounds itemClass propStream.length propStream

/-! ## What is written is handed over -/

lemma readValue_reads {α : Type} {read : Reader α} {bytes : Stream} {value : α}
  (reads : Reads read bytes value) (result : α → AttrRead) (rest : Stream) :
  readValue read result (bytes ++ rest) = (result value, rest) := by
  rw [readValue, reads rest]

lemma readValue_shrinks {α : Type} {read : Reader α} (shrinks : Shrinks read)
  (result : α → AttrRead) (propStream : Stream) :
  (readValue read result propStream).2.length ≤ propStream.length := by
  have shorter := shrinks propStream
  rw [readValue]
  split <;> rename_i taken <;> rw [taken] at shorter <;> exact shorter

lemma getTeleportDest_reads (x y : UInt16) (z : UInt8) :
  Reads getTeleportDest (addUInt16 x ++ (addUInt16 y ++ addUInt8 z)) (.teleDest x y z) :=
  (getUInt16_reads x).andThen ((getUInt16_reads y).andThen ((getUInt8_reads z).map _))

lemma getTeleportDest_shrinks : Shrinks getTeleportDest :=
  getUInt16_shrinks.andThen fun _ => getUInt16_shrinks.andThen fun _ => getUInt8_shrinks.map _

variable (itemClass : ItemClass) (attrs : List Attr) (attr : AttrTypes) (rest : Stream)

lemma readAttr_eq_item {attr : AttrTypes}
  (other : attr ≠ .containerItems) : readAttr itemClass attr = Item.readAttr attr := by
  cases itemClass <;> cases attr <;> first | rfl | exact absurd rfl other

lemma Item.readAttr_value (attr : Attr) (rest : Stream) :
  Item.readAttr attr.type (attr.value ++ rest) = (.continue attr.stored, rest) := by
  cases attr with
  | actionId n | uniqueId n | depotId n => exact readValue_reads (getUInt16_reads n) _ rest
  | text t | desc t | writtenBy t => exact readValue_reads (getString_reads t) _ rest
  | teleDest x y z =>
    exact readValue_reads (getTeleportDest_reads x y z) _ rest
  | runeCharges n => exact readValue_reads (getUInt8_reads n) _ rest
  | houseDoorId n | count n | decayingState n => exact readValue_reads (getUInt8_reads n) _ rest
  | duration n | sleeperGuid n | sleepStart n => exact readValue_reads (getUInt32_reads n) _ rest

lemma readAttr_value (attr : Attr) (rest : Stream) :
  readAttr itemClass attr.type (attr.value ++ rest) = (.continue attr.stored, rest) := by
  have other : attr.type ≠ .containerItems := by
    cases attr <;> exact nofun
  rw [readAttr_eq_item itemClass other]
  exact Item.readAttr_value attr rest

lemma Item.readAttr_shrinks (propStream : Stream) :
  (Item.readAttr attr propStream).2.length ≤ propStream.length := by
  cases attr with
  | actionId | uniqueId | depotId =>
    exact readValue_shrinks getUInt16_shrinks _ _
  | text | desc | writtenBy => exact readValue_shrinks getString_shrinks _ _
  | teleDest => exact readValue_shrinks getTeleportDest_shrinks _ _
  | runeCharges | houseDoorId | count | decayingState =>
    exact readValue_shrinks getUInt8_shrinks _ _
  | duration | sleeperGuid | sleepStart | containerItems =>
    exact readValue_shrinks getUInt32_shrinks _ _

lemma readAttr_shrinks (propStream : Stream) :
  (readAttr itemClass attr propStream).2.length ≤ propStream.length := by
  by_cases items : attr = .containerItems
  · subst items
    cases itemClass <;> exact readValue_shrinks getUInt32_shrinks _ _
  · rw [readAttr_eq_item itemClass items]
    exact Item.readAttr_shrinks attr propStream

lemma getUInt8_taken {propStream rest : Stream} {ret : UInt8}
  (taken : getUInt8 propStream = (some ret, rest)) : propStream.length = rest.length + 1 := by
  cases read : number 1 propStream with
  | mk value left =>
    simp only [getUInt8, Reader.map, read, Prod.mk.injEq] at taken
    cases value with
    | none => cases taken.1
    | some value =>
      have longer := number_taken read
      rw [taken.2] at longer
      omega

lemma unserializeRounds_enough {rounds : Nat} {propStream : Stream}
  (enough : propStream.length ≤ rounds) :
  unserializeRounds itemClass rounds propStream = unserializeAttr itemClass propStream := by
  suffices all : ∀ more fewer stream, stream.length ≤ fewer → fewer ≤ more →
      unserializeRounds itemClass more stream = unserializeRounds itemClass fewer stream from
    all rounds propStream.length propStream (Nat.le_refl _) enough
  intro more
  induction more with
  | zero =>
    intro fewer stream _ le
    rw [Nat.le_zero.mp le]
  | succ more ih =>
    intro fewer stream fits le
    cases fewer with
    | zero =>
      rw [length_eq_zero_iff.mp (Nat.le_zero.mp fits)]
      rfl
    | succ fewer =>
      simp only [unserializeRounds]
      split
      · rfl
      · rename_i attrType rest taken
        have shorter := getUInt8_taken taken
        split
        · rfl
        · split
          · rfl
          · rename_i attr _
            have less := readAttr_shrinks itemClass attr rest
            split <;> try rfl
            rename_i value left read
            rw [read] at less
            rw [ih fewer left (by simp only at less; omega) (by omega)]

lemma unserializeAttr_tag :
  unserializeAttr itemClass (addUInt8 attr.toByte ++ rest) =
    match readAttr itemClass attr rest with
    | (.error, rest) => ⟨[], false, none, rest⟩
    | (.end count, rest) => ⟨[], true, some count, rest⟩
    | (.continue value, rest) =>
      (unserializeAttr itemClass rest).after value := by
  have longer : (addUInt8 attr.toByte ++ rest).length = rest.length + 1 := by
    rw [length_append, addUInt8, littleEndian_length, Nat.add_comm]
  have less := readAttr_shrinks itemClass attr rest
  rw [unserializeAttr, longer, unserializeRounds, getUInt8_reads attr.toByte rest]
  simp only [AttrTypes.ofByte_toByte, if_neg attr.toByte_ne_zero]
  split <;> rename_i read <;> try rfl
  rw [read] at less
  rw [unserializeRounds_enough itemClass less]

lemma unserializeAttr_zero :
  unserializeAttr itemClass (addUInt8 0 ++ rest) = ⟨[], true, none, rest⟩ := by
  have longer : (addUInt8 0 ++ rest).length = rest.length + 1 := by
    rw [length_append, addUInt8, littleEndian_length, Nat.add_comm]
  rfl

lemma unserializeAttr_bytes :
  unserializeAttr itemClass (attrs.flatMap Attr.bytes ++ rest) =
    (attrs.map Attr.stored).foldr Unserialized.after (unserializeAttr itemClass rest) := by
  induction attrs with
  | nil => rfl
  | cons attr attrs ih =>
    rw [flatMap_cons, Attr.bytes, append_assoc, append_assoc, unserializeAttr_tag, readAttr_value]
    simp only [ih, map_cons, foldr_cons]

@[simp]
lemma Unserialized.foldr_after (later : Unserialized) :
  attrs.foldr Unserialized.after later = { later with attrs := attrs ++ later.attrs } := by
  induction attrs with
  | nil => rfl
  | cons attr attrs ih => rw [foldr_cons, ih]; rfl

lemma unserializeAttr_ended :
  unserializeAttr itemClass
      (attrs.flatMap Attr.bytes ++ (addUInt8 0 ++ rest)) =
    ⟨attrs.map Attr.stored, true, none, rest⟩ := by
  rw [unserializeAttr_bytes, unserializeAttr_zero, Unserialized.foldr_after, append_nil]

lemma unserializeAttr_container (count : UInt32) (rest : Stream) :
  unserializeAttr .container
      (attrs.flatMap Attr.bytes ++
        (addUInt8 AttrTypes.containerItems.toByte ++ (addUInt32 count ++ rest))) =
    ⟨attrs.map Attr.stored, true, some count, rest⟩ := by
  have read : readAttr .container .containerItems (addUInt32 count ++ rest) = (.end count, rest) :=
    readValue_reads (getUInt32_reads count) _ rest
  rw [unserializeAttr_bytes, unserializeAttr_tag, read, Unserialized.foldr_after, append_nil]

lemma unserializeAttr_other {itemClass : ItemClass} (other : itemClass ≠ .container)
  (attrs : List Attr) (count : UInt32) (rest : Stream) :
  unserializeAttr itemClass
      (attrs.flatMap Attr.bytes ++
        (addUInt8 AttrTypes.containerItems.toByte ++ (addUInt32 count ++ rest))) =
    ⟨attrs.map Attr.stored, false, none, rest⟩ := by
  have read : readAttr itemClass .containerItems (addUInt32 count ++ rest) = (.error, rest) := by
    have broken : Item.readAttr .containerItems (addUInt32 count ++ rest) = (.error, rest) :=
      readValue_reads (getUInt32_reads count) (fun _ => .error) rest
    cases itemClass <;> first | exact broken | exact absurd rfl other
  rw [unserializeAttr_bytes, unserializeAttr_tag, read, Unserialized.foldr_after, append_nil]

end OTServ.MapStore
