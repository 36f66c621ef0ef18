import OTServ.MapStore.RoundTrip

/-!
# Attributes read back

An `Item` is written with `Item::serializeAttr` and a zero byte, and
`Item::unserializeAttr` sets the attributes of a new item of the same type from
the bytes.  The store of the attributes is taken for what its setters and getters
say: every getter returns what was set last.

The count, the fluid type and the charges are written with eight bits, and read
with `setSubType`, which sets only one of them; no tag is written for a duration of
0, where the constructor sets the default duration.  The new item answers like the
written one exactly if none of that shows.
-/

namespace OTServ.MapStore

open Items
open Library.ByteStreams
open List

/-- An `Item` with its attributes. -/
structure PlainItem extends Attributes where
  uniqueId : UInt16
deriving DecidableEq

/-- `DECAYING_FALSE` -/
def decayingFalse : UInt32 := 0

/-- An `Item` before its constructor sets anything. -/
def PlainItem.blank : PlainItem where
  count := 1
  charges := 0
  fluidType := 0
  actionId := 0
  uniqueId := 0
  text := []
  writer := []
  specialDescription := []
  duration := 0
  decaying := decayingFalse
  sleeperGUID := 0
  sleepStart := 0
  destPos := ⟨0, 0, 0⟩

namespace PlainItem

variable (it : ItemType) (item : PlainItem)

def setItemCount (n : UInt8) : PlainItem := { item with count := n }

def setCharges (n : UInt16) : PlainItem := { item with charges := n }

def setFluidType (n : UInt16) : PlainItem := { item with fluidType := n }

def setActionId (n : UInt16) : PlainItem :=
  { item with actionId := if n < 100 then 100 else n }

def setUniqueId (n : UInt16) : PlainItem :=
  { item with uniqueId := if n < 1000 then 1000 else n }

def setText (text : List UInt8) : PlainItem := { item with text := text }

def setWriter (writer : List UInt8) : PlainItem :=
  { item with writer := writer }

def setSpecialDescription (desc : List UInt8) : PlainItem :=
  { item with specialDescription := desc }

def setDuration (time : Int32) : PlainItem :=
  { item with duration := time }

def setDecaying (decayState : UInt32) : PlainItem :=
  { item with decaying := decayState }

/-- `isFluidContainer() || isSplash()` -/
def isFluid (it : ItemType) : Prop :=
  it.group = .fluid ∨ it.group = .splash

instance : Decidable (isFluid it) := inferInstanceAs (Decidable (_ ∨ _))

/-- `Item::setSubType` -/
def setSubType (n : UInt16) : PlainItem :=
  if isFluid it then item.setFluidType n
  else if it.charges ≠ 0 then item.setCharges n
  else { item with count := n.toUInt8 }

/-- `Item::getDefaultDuration` -/
def getDefaultDuration (it : ItemType) : UInt32 := it.decayTime * 1000

/-- `Item::setDefaultDuration` -/
def setDefaultDuration : PlainItem :=
  if getDefaultDuration it ≠ 0 then
    item.setDuration (getDefaultDuration it).toInt32
  else item

/-- `Item::Item` -/
def new (it : ItemType) (_count : UInt16) : PlainItem :=
  let charged :=
    if it.charges ≠ 0 then blank.setCharges (UInt16.ofNat it.charges)
    else blank
  let counted :=
    if isFluid it then charged.setFluidType _count
    else if it.stackable ∧ _count ≠ 0 then
      { charged with count := _count.toUInt8 }
    else if it.charges ≠ 0 ∧ _count ≠ 0 then charged.setCharges _count
    else charged
  counted.setDefaultDuration it

/-- What `Item::readAttr` does with the value of an attribute. -/
def receive : Attr → PlainItem
  | .count n => item.setSubType it n.toUInt16
  | .actionId n => item.setActionId n
  | .uniqueId n => item.setUniqueId n
  | .text text => item.setText text
  | .writtenBy text => item.setWriter text
  | .desc text => item.setSpecialDescription text
  | .runeCharges n => item.setSubType it n.toUInt16
  | .duration n =>
    item.setDuration (if n.toInt32 < 0 then 0 else n.toInt32)
  | .decayingState n =>
    if n ≠ 0 then item.setDecaying decayingPending else item
  -- values of other classes are read and forgotten
  | .depotId _ => item
  | .houseDoorId _ => item
  | .sleeperGuid _ => item
  | .sleepStart _ => item
  | .teleDest _ _ _ => item

/-- The bytes of `Item::serializeAttr`. -/
def serialized : Stream :=
  (Item.serializeAttr it item.toAttributes).flatMap Attr.bytes

/-- `Item::unserializeAttr`: the item, what is returned and the rest. -/
def unserialized (propStream : Stream) : PlainItem × Bool × Stream :=
  let read := unserializeAttr .item propStream
  (read.attrs.foldl (receive it) item, read.ok, read.rest)

/-- `DECAYING_TRUE` or `DECAYING_PENDING` -/
def isDecaying : Prop := item.decaying ≠ decayingFalse

structure Alike (item other : PlainItem) : Prop where
  getSubType : MapStore.getSubType it item.toAttributes = MapStore.getSubType it other.toAttributes
  getItemCount : item.count = other.count
  getCharges : item.charges = other.charges
  getActionId : item.actionId = other.actionId
  getText : item.text = other.text
  getWriter : item.writer = other.writer
  getSpecialDescription : item.specialDescription = other.specialDescription
  getDuration : item.duration = other.duration
  isDecaying : item.isDecaying ↔ other.isDecaying

/--
The bytes of the item and a zero are read to their end, whatever follows, and make
the other item answer like this one.
-/
def RoundTrips (other : PlainItem) : Prop :=
  ∀ rest, ∃ result,
    other.unserialized it (item.serialized it ++ (addUInt8 0 ++ rest)) =
        (result, true, rest) ∧
      Alike it result item

/-! ## Values the setters accept -/

/-- `ItemDecayState_t` -/
inductive DecayState where
  | false
  | true
  | pending

def DecayState.value : DecayState → UInt32
  | false => decayingFalse
  | true => decayingTrue
  | pending => decayingPending

inductive Setting where
  | setItemCount (n : UInt8)
  | setSubType (n : UInt16)
  | setCharges (n : UInt16)
  | setFluidType (n : UInt16)
  | setActionId (n : UInt16)
  | setText (text : List UInt8) (short : text.length < 2 ^ 16)
  | setWriter (writer : List UInt8) (short : writer.length < 2 ^ 16)
  | setSpecialDescription
      (desc : List UInt8) (short : desc.length < 2 ^ 16)
  | setDuration (time : Int32)
  | setDecaying (decayState : DecayState)

def Setting.apply : Setting → PlainItem
  | setItemCount n => item.setItemCount n
  | setSubType n => item.setSubType it n
  | setCharges n => item.setCharges n
  | setFluidType n => item.setFluidType n
  | setActionId n => item.setActionId n
  | setText text _ => item.setText text
  | setWriter writer _ => item.setWriter writer
  | setSpecialDescription desc _ => item.setSpecialDescription desc
  | setDuration time => item.setDuration time
  | setDecaying decayState => item.setDecaying decayState.value

def made (it : ItemType) (_count : UInt16) (settings : List Setting) : PlainItem :=
  settings.foldl (Setting.apply it) (new it _count)

structure Kept (item : PlainItem) : Prop where
  actionId : item.actionId = 0 ∨ 100 ≤ item.actionId
  text : item.text.length < 2 ^ 16
  writer : item.writer.length < 2 ^ 16
  specialDescription : item.specialDescription.length < 2 ^ 16
  decaying :
    item.decaying = decayingFalse ∨ item.decaying = decayingTrue ∨ item.decaying = decayingPending

section Fields

variable {it item}

lemma setSubType_kept (n : UInt16) (kept : item.Kept) : (item.setSubType it n).Kept := by
  rw [setSubType]
  split
  · exact ⟨kept.1, kept.2, kept.3, kept.4, kept.5⟩
  · split <;> exact ⟨kept.1, kept.2, kept.3, kept.4, kept.5⟩

lemma apply_kept (setting : Setting) (kept : item.Kept) : (setting.apply it item).Kept := by
  cases setting with
  | setSubType n => exact setSubType_kept n kept
  | setActionId n =>
    refine ⟨Or.inr ?_, kept.2, kept.3, kept.4, kept.5⟩
    simp only [Setting.apply, setActionId]
    split
    · exact UInt16.le_refl 100
    · exact UInt16.not_lt.1 ‹_›
  | setText text short =>
    exact ⟨kept.1, short, kept.3, kept.4, kept.5⟩
  | setWriter writer short =>
    exact ⟨kept.1, kept.2, short, kept.4, kept.5⟩
  | setSpecialDescription desc short =>
    exact ⟨kept.1, kept.2, kept.3, short, kept.5⟩
  | setDecaying decayState =>
    refine ⟨kept.1, kept.2, kept.3, kept.4, ?_⟩
    cases decayState with
    | false => exact Or.inl rfl
    | true => exact Or.inr (Or.inl rfl)
    | pending => exact Or.inr (Or.inr rfl)
  | _ => exact ⟨kept.1, kept.2, kept.3, kept.4, kept.5⟩

end Fields

lemma new_eq (it : ItemType) (_count : UInt16) :
    new it _count =
      { blank with
        charges :=
          if it.charges = 0 then 0
          else if isFluid it ∨ it.stackable ∨ _count = 0 then
            UInt16.ofNat it.charges
          else _count
        fluidType := if isFluid it then _count else 0
        count :=
          if ¬ isFluid it ∧ it.stackable ∧ _count ≠ 0 then
            _count.toUInt8
          else 1
        duration := (getDefaultDuration it).toInt32 } := by
  have duration (item : PlainItem) (none : item.duration = 0) :
      item.setDefaultDuration it = { item with duration := (getDefaultDuration it).toInt32 } := by
    rw [setDefaultDuration]
    split
    · rfl
    · rename_i zero
      rw [ne_eq, not_not] at zero
      have same : UInt32.toInt32 0 = item.duration := none.symm ▸ rfl
      rw [zero, same]
  have counted (charged : PlainItem) (none : charged.duration = 0) :
      (if isFluid it then charged.setFluidType _count
        else if it.stackable ∧ _count ≠ 0 then
          { charged with count := _count.toUInt8 }
        else if it.charges ≠ 0 ∧ _count ≠ 0 then charged.setCharges _count
        else charged).duration = 0 := by
    split
    · exact none
    · split
      · exact none
      · split <;> exact none
  rw [new]
  rw [duration]
  · by_cases charged : it.charges = 0
    · by_cases fluid : isFluid it
      · simp [charged, fluid, setFluidType, blank]
      · by_cases stack : it.stackable = true ∧ _count ≠ 0
        · simp [charged, fluid, stack, blank]
        · simp [charged, fluid, stack, blank]
    · by_cases fluid : isFluid it
      · simp [charged, fluid, setFluidType, setCharges, blank]
      · by_cases stack : it.stackable = true
        · by_cases some : _count = 0
          · simp [charged, fluid, stack, some, setCharges, blank]
          · simp [charged, fluid, stack, some, setCharges, blank]
        · by_cases some : _count = 0
          · simp [charged, fluid, stack, some, setCharges, blank]
          · simp [charged, fluid, stack, some, setCharges, blank]
  · refine counted _ ?_
    split <;> rfl

lemma made_kept (it : ItemType) (_count : UInt16) (settings : List Setting) :
  (made it _count settings).Kept := by
  have all : ∀ item : PlainItem, item.Kept → (settings.foldl (Setting.apply it) item).Kept := by
    induction settings with
    | nil => exact fun _ kept => kept
    | cons setting settings ih =>
      exact fun _ kept => ih _ (apply_kept setting kept)
  refine all _ ?_
  rw [new_eq]
  exact ⟨Or.inl rfl, Nat.two_pow_pos 16, Nat.two_pow_pos 16, Nat.two_pow_pos 16, Or.inl rfl⟩

/-! ## The item which was read -/

section Reading

variable {it item} {fresh : PlainItem}

lemma foldl_segment (written : Prop) [Decidable written] (attr : Attr) :
  ((if written then [attr] else []).map Attr.stored).foldl
      (receive it) item =
    if written then receive it item attr.stored else item := by
  split <;> rfl

lemma storedText_of_short
  {text : List UInt8} (short : text.length < 2 ^ 16) : storedText text = text := by
  rw [storedText, UInt16.toNat_ofNat', Nat.mod_eq_of_lt short, take_length]

lemma receive_subType (written : Prop) [Decidable written] (n : UInt16) :
    (if written then item.setSubType it n else item) =
      { item with
        count :=
          if written ∧ ¬ isFluid it ∧ it.charges = 0 then n.toUInt8
          else item.count
        charges :=
          if written ∧ ¬ isFluid it ∧ it.charges ≠ 0 then n
          else item.charges
        fluidType := if written ∧ isFluid it then n else item.fluidType } := by
  by_cases isWritten : written
  · by_cases fluid : isFluid it
    · simp [isWritten, fluid, setSubType, setFluidType]
    · by_cases charged : it.charges = 0
      · simp [isWritten, fluid, charged, setSubType]
      · simp [isWritten, fluid, charged, setSubType, setCharges]
  · simp [isWritten]

def readBack (it : ItemType) (item fresh : PlainItem) : PlainItem :=
  ((Item.serializeAttr it item.toAttributes).map Attr.stored).foldl (receive it) fresh

lemma unserialized_eq (rest : Stream) :
  fresh.unserialized it (item.serialized it ++ (addUInt8 0 ++ rest)) =
    (readBack it item fresh, true, rest) := by
  rw [unserialized, serialized, unserializeAttr_ended]
  rfl

section

variable (written : Prop)
include written

lemma receive_actionId [Decidable written] (n : UInt16) :
    (if written then receive it item (Attr.actionId n).stored else item) =
      { item with
        actionId :=
          if written then (if n < 100 then 100 else n)
          else item.actionId } := by
  split <;> rfl

lemma receive_text [Decidable written] {text : List UInt8} (short : text.length < 2 ^ 16) :
  (if written then receive it item (Attr.text text).stored else item) =
    { item with text := if written then text else item.text } := by
  rw [Attr.stored, storedText_of_short short]
  split <;> rfl

lemma receive_writtenBy [Decidable written] {text : List UInt8} (short : text.length < 2 ^ 16) :
  (if written then receive it item (Attr.writtenBy text).stored
    else item) =
    { item with writer := if written then text else item.writer } := by
  rw [Attr.stored, storedText_of_short short]
  split <;> rfl

lemma receive_desc [Decidable written] {text : List UInt8} (short : text.length < 2 ^ 16) :
  (if written then receive it item (Attr.desc text).stored else item) =
    { item with
      specialDescription := if written then text else item.specialDescription } := by
  rw [Attr.stored, storedText_of_short short]
  split <;> rfl

lemma receive_duration [Decidable written] (n : UInt32) :
    (if written then receive it item (Attr.duration n).stored else item) =
      { item with
        duration :=
          if written then (if n.toInt32 < 0 then 0 else n.toInt32)
          else item.duration } := by
  split <;> rfl

lemma receive_decayingState [Decidable written] {n : UInt8} (known : written → n ≠ 0) :
  (if written then receive it item (Attr.decayingState n).stored
    else item) =
    { item with
      decaying := if written then decayingPending else item.decaying } := by
  split
  · rename_i isWritten
    simp only [Attr.stored, receive]
    rw [if_pos (known isWritten)]
    rfl
  · rfl

end

lemma readBack_eq (kept : item.Kept) :
    readBack it item fresh =
      { fresh with
        count :=
          if it.stackable ∧ ¬ isFluid it ∧ it.charges = 0 then item.count
          else fresh.count
        charges :=
          if ¬ isFluid it ∧ it.charges ≠ 0 then
            item.charges.toUInt8.toUInt16
          else fresh.charges
        fluidType :=
          if isFluid it then
            if it.charges = 0 then item.fluidType.toUInt8.toUInt16
            else item.charges.toUInt8.toUInt16
          else fresh.fluidType
        actionId :=
          if it.moveable ∧ item.actionId ≠ 0 then item.actionId
          else fresh.actionId
        text := if item.text ≠ [] then item.text else fresh.text
        writer := if item.writer ≠ [] then item.writer else fresh.writer
        specialDescription :=
          if item.specialDescription ≠ [] then item.specialDescription
          else fresh.specialDescription
        duration :=
          if item.duration ≠ 0 then
            if item.duration < 0 then 0 else item.duration
          else fresh.duration
        decaying :=
          if item.decaying = decayingTrue ∨ item.decaying = decayingPending then decayingPending
          else fresh.decaying } := by
  have known :
      item.decaying = decayingTrue ∨ item.decaying = decayingPending →
        item.decaying.toUInt8 ≠ 0 := by
    rintro (same | same) <;> rw [same] <;> decide
  rw [readBack, Item.serializeAttr]
  simp only [map_append, foldl_append, foldl_segment]
  rw [receive_decayingState _ known, receive_duration,
    receive_desc _ kept.specialDescription, receive_writtenBy _ kept.writer,
    receive_text _ kept.text, receive_actionId]
  simp only [Attr.stored, receive, receive_subType]
  have counted :
      (if it.charges ≠ 0 ∧ ¬ isFluid it ∧ it.charges = 0 then
          item.charges.toUInt8.toUInt16.toUInt8
        else if (it.stackable = true ∨ it.group = .splash ∨
            it.group = .fluid) ∧ ¬ isFluid it ∧ it.charges = 0 then
          (getSubType it item.toAttributes).toUInt8.toUInt16.toUInt8
        else fresh.count) =
        if it.stackable = true ∧ ¬ isFluid it ∧ it.charges = 0 then
          item.count
        else fresh.count := by
    rw [if_neg fun both => both.1 both.2.2]
    by_cases plain : ¬ isFluid it ∧ it.charges = 0
    · have solid : it.group ≠ .splash ∧ it.group ≠ .fluid :=
        ⟨fun same => plain.1 (Or.inr same), fun same => plain.1 (Or.inl same)⟩
      simp [plain, solid, getSubType]
    · rw [if_neg fun both => plain both.2, if_neg fun both => plain both.2]
  have charged :
      (if it.charges ≠ 0 ∧ ¬ isFluid it ∧ it.charges ≠ 0 then
          item.charges.toUInt8.toUInt16
        else if (it.stackable = true ∨ it.group = .splash ∨
            it.group = .fluid) ∧ ¬ isFluid it ∧ it.charges ≠ 0 then
          (getSubType it item.toAttributes).toUInt8.toUInt16
        else fresh.charges) =
        if ¬ isFluid it ∧ it.charges ≠ 0 then item.charges.toUInt8.toUInt16
        else fresh.charges := by
    by_cases some : ¬ isFluid it ∧ it.charges ≠ 0
    · rw [if_pos ⟨some.2, some⟩, if_pos some]
    · rw [if_neg fun both => some both.2, if_neg fun both => some both.2, if_neg some]
  have filled :
      (if it.charges ≠ 0 ∧ isFluid it then item.charges.toUInt8.toUInt16
        else if (it.stackable = true ∨ it.group = .splash ∨
            it.group = .fluid) ∧ isFluid it then
          (getSubType it item.toAttributes).toUInt8.toUInt16
        else fresh.fluidType) =
        if isFluid it then
          if it.charges = 0 then item.fluidType.toUInt8.toUInt16
          else item.charges.toUInt8.toUInt16
        else fresh.fluidType := by
    by_cases fluid : isFluid it
    · have tagged : it.stackable = true ∨ it.group = .splash ∨ it.group = .fluid :=
        Or.inr fluid.symm
      have subType : getSubType it item.toAttributes = item.fluidType := if_pos fluid
      by_cases charges : it.charges = 0
      · simp [fluid, charges, tagged, subType]
      · simp [fluid, charges]
    · simp [fluid]
  have action :
      (if it.moveable = true ∧ item.actionId ≠ 0 then
          if item.actionId < 100 then 100 else item.actionId
        else fresh.actionId) =
        if it.moveable = true ∧ item.actionId ≠ 0 then item.actionId
        else fresh.actionId := by
    rcases kept.actionId with none | some
    · simp [none]
    · rw [if_neg (UInt16.not_lt.2 some)]
  rw [counted, charged, filled, action]
  simp only [Int32.toInt32_toUInt32]

end Reading

/-! ## When an item is read back -/

structure StorableOver (it : ItemType) (item fresh : PlainItem) : Prop where
  count : (it.stackable ∧ ¬ isFluid it ∧ it.charges = 0) ∨ item.count = fresh.count
  charges :
    if ¬ isFluid it ∧ it.charges ≠ 0 then item.charges < 256
    else item.charges = fresh.charges
  -- the charges are written, too, and read as the fluid
  fluidType :
    isFluid it →
      if it.charges = 0 then item.fluidType < 256
      else item.fluidType = item.charges.toUInt8.toUInt16
  actionId : (it.moveable ∧ item.actionId ≠ 0) ∨ item.actionId = fresh.actionId
  text : item.text ≠ [] ∨ fresh.text = []
  writer : item.writer ≠ [] ∨ fresh.writer = []
  specialDescription : item.specialDescription ≠ [] ∨ fresh.specialDescription = []
  duration : 0 < item.duration ∨ item.duration = 0 ∧ fresh.duration = 0
  decaying : fresh.isDecaying → item.isDecaying

/-- The amount of a fluid, which is read as the charges if the type has any. -/
structure FluidStorable (it : ItemType) (item : PlainItem) : Prop where
  fluidType :
    if it.charges = 0 then item.fluidType < 256
    else item.fluidType = item.charges.toUInt8.toUInt16
  charges : item.charges = UInt16.ofNat it.charges
  count : item.count = 1

/-- The charges have to fit into a byte; the count is the one of a new item. -/
structure ChargedStorable (it : ItemType) (item : PlainItem) (_count : UInt16) : Prop where
  charges : item.charges < 256
  count : item.count = if it.stackable ∧ _count ≠ 0 then _count.toUInt8 else 1

/-- An item without a fluid or charges only has a count, if it is stackable. -/
structure CountedStorable (it : ItemType) (item : PlainItem) : Prop where
  charges : item.charges = 0
  count : it.stackable ∨ item.count = 1

def AmountsStorable (it : ItemType) (item : PlainItem) (_count : UInt16) : Prop :=
  if isFluid it then FluidStorable it item
  else if it.charges ≠ 0 then ChargedStorable it item _count
  else CountedStorable it item

structure Storable (it : ItemType) (item : PlainItem) (_count : UInt16) : Prop where
  amounts : AmountsStorable it item _count
  actionId : it.moveable ∨ item.actionId = 0
  duration : 0 < item.duration ∨ item.duration = 0 ∧ getDefaultDuration it = 0

section Storing

variable {it : ItemType} {item fresh : PlainItem} {_count : UInt16}

lemma roundTrips_iff : item.RoundTrips it fresh ↔ Alike it (readBack it item fresh) item := by
  constructor
  · intro trips
    rcases trips [] with ⟨result, same, alike⟩
    rw [unserialized_eq] at same
    cases same
    exact alike
  · intro alike rest
    exact ⟨_, unserialized_eq rest, alike⟩

lemma ite_left_iff {α : Type} {written : Prop} [Decidable written] {value other : α} :
  (if written then value else other) = value ↔ written ∨ value = other := by
  by_cases isWritten : written
  · simp [isWritten]
  · simp [isWritten, eq_comm]

lemma byte_iff (n : UInt16) : n.toUInt8.toUInt16 = n ↔ n < 256 := by
  rw [← UInt16.toNat_inj, UInt16.lt_iff_toNat_lt, UInt8.toNat_toUInt16, UInt16.toNat_toUInt8]
  constructor
  · intro same
    exact same ▸ Nat.mod_lt _ (Nat.two_pow_pos 8)
  · exact Nat.mod_eq_of_lt

lemma text_iff {text other : List UInt8} :
  (if text ≠ [] then text else other) = text ↔ text ≠ [] ∨ other = [] := by
  by_cases none : text = []
  · simp [none, eq_comm]
  · simp [none]

lemma duration_iff {duration other : Int32} :
  (if duration ≠ 0 then (if duration < 0 then 0 else duration)
    else other) = duration ↔
    0 < duration ∨ duration = 0 ∧ other = 0 := by
  by_cases none : duration = 0
  · rw [none, if_neg fun some => some rfl]
    constructor
    · exact fun same => Or.inr ⟨rfl, same⟩
    · rintro (some | ⟨-, same⟩)
      · exact absurd some Int32.lt_irrefl
      · exact same
  · rw [if_pos none]
    constructor
    · intro same
      split at same
      · exact absurd same.symm none
      · rename_i positive
        rcases Int32.lt_or_eq_of_le (Int32.not_lt.1 positive) with lt | eq
        · exact Or.inl lt
        · exact absurd eq.symm none
    · rintro (some | ⟨same, -⟩)
      · exact if_neg (Int32.not_lt.2 (Int32.le_of_lt some))
      · exact absurd same none

lemma charges_iff :
  (if ¬ isFluid it ∧ it.charges ≠ 0 then item.charges.toUInt8.toUInt16
    else fresh.charges) = item.charges ↔
    if ¬ isFluid it ∧ it.charges ≠ 0 then item.charges < 256
    else item.charges = fresh.charges := by
  split
  · exact byte_iff item.charges
  · exact eq_comm

lemma fluidType_iff :
  (if it.charges = 0 then item.fluidType.toUInt8.toUInt16
    else item.charges.toUInt8.toUInt16) = item.fluidType ↔
    if it.charges = 0 then item.fluidType < 256
    else item.fluidType = item.charges.toUInt8.toUInt16 := by
  split
  · exact byte_iff item.fluidType
  · exact eq_comm

lemma getSubType_iff {result : PlainItem} (count : result.count = item.count)
  (charges : result.charges = item.charges) :
  getSubType it result.toAttributes = getSubType it item.toAttributes ↔
    (isFluid it → result.fluidType = item.fluidType) := by
  rw [getSubType, getSubType, count, charges]
  by_cases fluid : it.group = .fluid ∨ it.group = .splash
  · have isOne : isFluid it := fluid
    rw [if_pos fluid, if_pos fluid]
    exact ⟨fun same _ => same, fun same => same isOne⟩
  · have isNone : ¬ isFluid it := fluid
    rw [if_neg fluid, if_neg fluid]
    exact ⟨fun _ isOne => absurd isOne isNone, fun _ => rfl⟩

lemma decaying_iff (kept : item.Kept) :
  ((if item.decaying = decayingTrue ∨ item.decaying = decayingPending then
        decayingPending
      else fresh.decaying) ≠ decayingFalse ↔ item.isDecaying) ↔
    (fresh.isDecaying → item.isDecaying) := by
  rcases kept.decaying with same | same | same <;>
    simp [isDecaying, same, decayingFalse, decayingTrue, decayingPending]

lemma alike_readBack_iff (kept : item.Kept) :
  Alike it (readBack it item fresh) item ↔ StorableOver it item fresh := by
  rw [readBack_eq kept]
  constructor
  · rintro ⟨subType, count, charges, actionId, text, writer, desc, duration, decaying⟩
    have fluid := (getSubType_iff count charges).1 subType
    refine ⟨ite_left_iff.1 count, charges_iff.1 charges, fun isOne => ?_,
      ite_left_iff.1 actionId, text_iff.1 text, text_iff.1 writer,
      text_iff.1 desc, duration_iff.1 duration, (decaying_iff kept).1 decaying⟩
    have filled := fluid isOne
    simp only [if_pos isOne] at filled
    exact fluidType_iff.1 filled
  · rintro ⟨count, charges, fluid, actionId, text, writer, desc, duration, decaying⟩
    have counted := ite_left_iff.2 count
    have charged := charges_iff.2 charges
    refine ⟨(getSubType_iff counted charged).2 fun isOne => ?_, counted,
      charged, ite_left_iff.2 actionId, text_iff.2 text, text_iff.2 writer,
      text_iff.2 desc, duration_iff.2 duration, (decaying_iff kept).2 decaying⟩
    simp only [if_pos isOne]
    exact fluidType_iff.2 (fluid isOne)

lemma new_charges (untold : isFluid it ∨ it.charges = 0) :
  (new it _count).charges = UInt16.ofNat it.charges := by
  rw [new_eq]
  by_cases none : it.charges = 0
  · simp [none]
  · simp only [if_neg none, if_pos (Or.inl (untold.resolve_right none))]

lemma new_count :
  (new it _count).count =
    if ¬ isFluid it ∧ it.stackable ∧ _count ≠ 0 then _count.toUInt8
    else 1 := by
  rw [new_eq]

lemma new_duration_iff : (new it _count).duration = 0 ↔ getDefaultDuration it = 0 := by
  rw [new_eq]
  constructor
  · intro none
    have back := congrArg Int32.toUInt32 none
    rwa [UInt32.toUInt32_toInt32] at back
  · intro none
    simp only [none]
    rfl

/-- The amounts of a new item. -/
lemma amountsStorable_iff :
  AmountsStorable it item _count ↔
    ((it.stackable ∧ ¬ isFluid it ∧ it.charges = 0) ∨
        item.count = (new it _count).count) ∧
      (if ¬ isFluid it ∧ it.charges ≠ 0 then item.charges < 256
        else item.charges = (new it _count).charges) ∧
      (isFluid it →
        if it.charges = 0 then item.fluidType < 256
        else item.fluidType = item.charges.toUInt8.toUInt16) := by
  rw [AmountsStorable, new_count]
  by_cases fluid : isFluid it
  · rw [new_charges (Or.inl fluid)]
    simp only [fluid, not_true_eq_false, false_and, and_false, if_true,
      if_false, false_or, true_imp_iff]
    constructor
    · exact fun ⟨filled, charges, count⟩ => ⟨count, charges, filled⟩
    · exact fun ⟨count, charges, filled⟩ => ⟨filled, charges, count⟩
  · simp only [fluid, not_false_eq_true, true_and, if_false, false_imp_iff, and_true]
    by_cases none : it.charges = 0
    · rw [new_charges (Or.inr none)]
      simp only [none, ne_eq, not_true_eq_false, if_false, and_true]
      by_cases stack : it.stackable = true
      · simp only [stack, true_or, true_and]
        exact ⟨fun counted => counted.charges, fun charges => ⟨charges, Or.inl stack⟩⟩
      · simp only [stack, false_or, false_and, if_false, Bool.false_eq_true]
        constructor
        · exact fun counted => ⟨counted.count.resolve_left stack, counted.charges⟩
        · exact fun ⟨count, charges⟩ => ⟨charges, Or.inr count⟩
    · simp only [none, ne_eq, not_false_eq_true, if_true, and_false, false_or]
      constructor
      · exact fun charged => ⟨charged.count, charged.charges⟩
      · exact fun ⟨count, charges⟩ => ⟨charges, count⟩

lemma storableOver_new_iff : StorableOver it item (new it _count) ↔ Storable it item _count := by
  have fresh :
      (new it _count).actionId = 0 ∧ (new it _count).text = [] ∧
        (new it _count).writer = [] ∧
        (new it _count).specialDescription = [] ∧
        ¬ (new it _count).isDecaying := by
    rw [new_eq]
    exact ⟨rfl, rfl, rfl, rfl, fun decaying => decaying rfl⟩
  constructor
  · rintro ⟨count, charges, fluid, actionId, -, -, -, duration, -⟩
    refine ⟨amountsStorable_iff.2 ⟨count, charges, fluid⟩, ?_,
      duration.imp id (And.imp id new_duration_iff.1)⟩
    rw [fresh.1] at actionId
    exact actionId.imp And.left id
  · rintro ⟨amounts, actionId, duration⟩
    rcases amountsStorable_iff.1 amounts with ⟨count, charges, fluid⟩
    refine ⟨count, charges, fluid, ?_, Or.inr fresh.2.1, Or.inr fresh.2.2.1,
      Or.inr fresh.2.2.2.1,
      duration.imp id (And.imp id new_duration_iff.2),
      fun decaying => absurd decaying fresh.2.2.2.2⟩
    rw [fresh.1]
    by_cases none : item.actionId = 0
    · exact Or.inr none
    · exact Or.inl ⟨actionId.resolve_right none, none⟩

/-- Exactly the storable items are read back. -/
theorem made_roundTrips_iff
  (it : ItemType) (_count : UInt16) (settings : List Setting) (fresh : UInt16) :
  (made it _count settings).RoundTrips it (new it fresh) ↔
    Storable it (made it _count settings) fresh :=
  roundTrips_iff.trans ((alike_readBack_iff (made_kept it _count settings)).trans
    storableOver_new_iff)

end Storing

def chargedType : ItemType := { plainType with charges := 300 }

/-- Of the 300 charges of a new item 44 are left. -/
theorem charges_are_cut :
  ¬ ∀ (it : ItemType) (_count : UInt16) (settings : List Setting)
      (fresh : UInt16), it.moveable →
    (made it _count settings).RoundTrips it (new it fresh) := by
  intro all
  have alike := roundTrips_iff.1 (all chargedType 0 [] 0 rfl)
  have storable := (alike_readBack_iff (made_kept chargedType 0 [])).1 alike
  exact absurd storable.charges (by decide)

end PlainItem

end OTServ.MapStore
