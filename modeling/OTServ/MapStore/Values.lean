import OTServ.MapStore.AttributeStream

/-!
# What a loaded item answers

A loaded item is a new one, or one of the map file, that was handed attributes.
What it answers afterwards depends on its class: a door writes nothing of itself,
a bed only who sleeps in it and since when, a teleport also where it leads to.
Other items are read back as `Item::unserializeAttr` does it.

Starting its decay marks an item as decaying which was not.

Unique ids and the ids of doors and depots are never written; they are those of
the map file.
-/

namespace OTServ.MapStore

open Items
open List

def Attributes.plain (attributes : Attributes) : PlainItem :=
  { attributes with uniqueId := 0 }

def isSleepingThere : List UInt8 := " is sleeping there.".toUTF8.toList

def nobodyIsSleepingThere : List UInt8 :=
  "Nobody is sleeping there.".toUTF8.toList

section Store

variable (types : UInt16 → ItemType) (getNameByGuid : UInt32 → Option (List UInt8))

/-- `Item::CreateItem`; only a plain item is told the count. -/
def create (_type _count : UInt16) : PlainItem :=
  match classOf types _type with
  | .item => .new (types _type) _count
  | .bed =>
    (PlainItem.new (types _type) 0).setSpecialDescription nobodyIsSleepingThere
  | _ => .new (types _type) 0

/-- What `BedItem::readAttr` does with the one who sleeps in it. -/
def PlainItem.receiveSleeper (item : PlainItem) (_guid : UInt32) : PlainItem :=
  let named :=
    if _guid ≠ 0 then
      match getNameByGuid _guid with
      | some name => item.setSpecialDescription (name ++ isSleepingThere)
      | none => item
    else item
  { named with sleeperGUID := _guid }

/-- What `readAttr` of the class does with the value of an attribute. -/
def receiveAs (it : ItemType) (itemClass : ItemClass) (item : PlainItem)
  (attr : Attr) : PlainItem :=
  match itemClass, attr with
  | .bed, .sleeperGuid _guid => item.receiveSleeper getNameByGuid _guid
  | .bed, .sleepStart sleep_start =>
    { item with sleepStart := sleep_start.toUInt64.toInt64 }
  | .teleport, .teleDest x y z =>
    { item with destPos := ⟨x, y, z.toUInt16⟩ }
  | _, attr => item.receive it attr

def handed (it : ItemType) (itemClass : ItemClass) (fresh : PlainItem)
  (attrs : List Attr) : PlainItem :=
  attrs.foldl (receiveAs getNameByGuid it itemClass) fresh

/-- `Item::canDecay` -/
def PlainItem.canDecay (it : ItemType) (item : PlainItem) : Prop :=
  it.decayTo ≠ -1 ∧ item.uniqueId = 0 ∧ item.actionId = 0

instance (it : ItemType) (item : PlainItem) : Decidable (item.canDecay it) :=
  inferInstanceAs (Decidable (_ ∧ _))

/-- `Game::startDecay` for an item that has time left, if it is called. -/
def PlainItem.startDecay (it : ItemType) (started : Bool) (item : PlainItem) : PlainItem :=
  if started ∧ item.canDecay it ∧ 0 < item.duration then
    item.setDecaying decayingTrue
  else item

structure SameAttributes (it : ItemType) (item other : PlainItem) : Prop where
  alike : PlainItem.Alike it item other
  sleeperGUID : item.sleeperGUID = other.sleeperGUID
  sleepStart : item.sleepStart = other.sleepStart
  destPos : item.destPos = other.destPos

/-- What an item has which is written by `Item::serializeAttr` and read back. -/
structure ItemStorable (it : ItemType) (started : Bool) (item fresh : PlainItem) : Prop where
  storable : PlainItem.StorableOver it item fresh
  sleeperGUID : item.sleeperGUID = fresh.sleeperGUID
  sleepStart : item.sleepStart = fresh.sleepStart
  decay : started → it.decayTo ≠ -1 → fresh.uniqueId = 0 →
    item.actionId = 0 → 0 < item.duration → item.isDecaying

def occupied (item fresh : PlainItem) : PlainItem :=
  { fresh.receiveSleeper getNameByGuid item.sleeperGUID with
    sleepStart := item.sleepStart.toInt32.toUInt32.toUInt64.toInt64 }

/-- What an item of the class has which is read back into this other one. -/
def AttributesStorable (it : ItemType) (itemClass : ItemClass)
  (started : Bool) (item fresh : PlainItem) : Prop :=
  match itemClass with
  -- nothing is written
  | .door => SameAttributes it (fresh.startDecay it started) item
  | .bed =>
    SameAttributes it ((occupied getNameByGuid item fresh).startDecay it started) item
  | .teleport =>
    ItemStorable it started item fresh ∧ item.destPos.z < 256
  | _ => ItemStorable it started item fresh ∧ item.destPos = fresh.destPos

variable {getNameByGuid} {it : ItemType} {item fresh : PlainItem} {started : Bool}

lemma receiveAs_plain (itemClass : ItemClass) {attr : Attr}
  (plain : attr.type ≠ .sleeperGuid ∧ attr.type ≠ .sleepStart ∧ attr.type ≠ .teleDest) :
  receiveAs getNameByGuid it itemClass item attr = item.receive it attr := by
  cases attr with
  | sleeperGuid n => exact absurd rfl plain.1
  | sleepStart n => exact absurd rfl plain.2.1
  | teleDest x y z => exact absurd rfl plain.2.2
  | _ => cases itemClass <;> rfl

lemma serializeAttr_plain
  (item : Attributes) {attr : Attr} (mem : attr ∈ Item.serializeAttr it item) :
  attr.stored.type ≠ .sleeperGuid ∧ attr.stored.type ≠ .sleepStart ∧
    attr.stored.type ≠ .teleDest := by
  simp only [Item.serializeAttr, mem_append, mem_ite_nil_right, mem_singleton] at mem
  rcases mem with
    ((((((⟨-, rfl⟩ | ⟨-, rfl⟩) | ⟨-, rfl⟩) | ⟨-, rfl⟩) | ⟨-, rfl⟩) |
      ⟨-, rfl⟩) | ⟨-, rfl⟩) | ⟨-, rfl⟩ <;>
    refine ⟨?_, ?_, ?_⟩ <;> intro same <;> cases same

lemma handed_item (itemClass : ItemClass) :
  handed getNameByGuid it itemClass fresh
      ((Item.serializeAttr it item.toAttributes).map Attr.stored) =
    PlainItem.readBack it item fresh := by
  have all : ∀ (attrs : List Attr) (start : PlainItem),
      (∀ attr ∈ attrs, attr.type ≠ .sleeperGuid ∧
        attr.type ≠ .sleepStart ∧ attr.type ≠ .teleDest) →
      handed getNameByGuid it itemClass start attrs =
        attrs.foldl (PlainItem.receive it) start := by
    intro attrs
    induction attrs with
    | nil => exact fun _ _ => rfl
    | cons attr attrs ih =>
      intro start plain
      rw [handed, foldl_cons, foldl_cons, receiveAs_plain itemClass (plain attr mem_cons_self)]
      exact ih _ fun other mem => plain other (mem_cons_of_mem attr mem)
  refine all _ fresh fun attr mem => ?_
  rcases mem_map.1 mem with ⟨written, isThere, rfl⟩
  exact serializeAttr_plain item.toAttributes isThere

lemma readBack_others (kept : item.Kept) :
  (PlainItem.readBack it item fresh).sleeperGUID = fresh.sleeperGUID ∧
    (PlainItem.readBack it item fresh).sleepStart = fresh.sleepStart ∧
    (PlainItem.readBack it item fresh).destPos = fresh.destPos ∧
    (PlainItem.readBack it item fresh).uniqueId = fresh.uniqueId := by
  rw [PlainItem.readBack_eq kept]
  exact ⟨rfl, rfl, rfl, rfl⟩

lemma startDecay_not (item : PlainItem) : item.startDecay it false = item :=
  if_neg fun both => Bool.false_ne_true both.1

lemma isDecaying_startDecay_iff (it : ItemType) (item : PlainItem) (started : Bool) :
  (item.startDecay it started).isDecaying ↔
    item.isDecaying ∨ (started ∧ item.canDecay it ∧ 0 < item.duration) := by
  rw [PlainItem.startDecay]
  split
  · rename_i both
    exact ⟨fun _ => Or.inr both, fun _ => (nofun : decayingTrue ≠ decayingFalse)⟩
  · rename_i not
    exact ⟨Or.inl, fun either => either.resolve_right not⟩

lemma startDecay_same (item : PlainItem) (started : Bool) :
  item.startDecay it started = item.setDecaying (item.startDecay it started).decaying := by
  rw [PlainItem.startDecay]
  split <;> rfl

/--
An item that decays as soon as the other one does: starting its decay must not
make it decay where the other one does not.
-/
lemma alike_startDecay_iff (decays : item.isDecaying → fresh.isDecaying) :
  PlainItem.Alike it (fresh.startDecay it started) item ↔
    PlainItem.Alike it fresh item ∧
      (started → it.decayTo ≠ -1 → fresh.uniqueId = 0 →
        item.actionId = 0 → 0 < item.duration → item.isDecaying) := by
  have after := isDecaying_startDecay_iff it fresh started
  rw [startDecay_same] at after ⊢
  constructor
  · intro alike
    have before : fresh.isDecaying ↔ item.isDecaying :=
      ⟨fun isOne => alike.isDecaying.1 (after.2 (Or.inl isOne)), decays⟩
    refine ⟨⟨alike.1, alike.2, alike.3, alike.4, alike.5, alike.6, alike.7,
      alike.8, before⟩, fun isStarted decay unique action left => ?_⟩
    have actionId : fresh.actionId = item.actionId := alike.getActionId
    have duration : fresh.duration = item.duration := alike.getDuration
    refine alike.isDecaying.1 (after.2 (Or.inr ⟨isStarted, ?_, ?_⟩))
    · exact ⟨decay, unique, actionId.trans action⟩
    · rwa [duration]
  · rintro ⟨alike, kept⟩
    refine ⟨alike.1, alike.2, alike.3, alike.4, alike.5, alike.6, alike.7,
      alike.8, after.trans ⟨?_, fun isOne => Or.inl (decays isOne)⟩⟩
    rintro (isOne | ⟨isStarted, ⟨decay, unique, action⟩, left⟩)
    · exact alike.isDecaying.1 isOne
    · rw [alike.getActionId] at action
      rw [alike.getDuration] at left
      exact kept isStarted decay unique action left

/-! ## Reading back -/

lemma readBack_decays (kept : item.Kept) (decays : item.isDecaying) :
  (PlainItem.readBack it item fresh).isDecaying := by
  rw [PlainItem.readBack_eq kept]
  have either : item.decaying = decayingTrue ∨
      item.decaying = decayingPending :=
    kept.decaying.resolve_left decays
  simp only [PlainItem.isDecaying, if_pos either]
  decide

lemma itemStorable_iff (kept : item.Kept) :
  (PlainItem.Alike it
      ((PlainItem.readBack it item fresh).startDecay it started) item ∧
    fresh.sleeperGUID = item.sleeperGUID ∧
    fresh.sleepStart = item.sleepStart) ↔
    ItemStorable it started item fresh := by
  rw [alike_startDecay_iff (readBack_decays kept),
    PlainItem.alike_readBack_iff kept, (readBack_others kept).2.2.2]
  constructor
  · rintro ⟨⟨storable, decay⟩, sleeper, start⟩
    exact ⟨storable, sleeper.symm, start.symm, decay⟩
  · rintro ⟨storable, sleeper, start, decay⟩
    exact ⟨⟨storable, decay⟩, sleeper.symm, start.symm⟩

lemma destPos_iff (pos : Map.Position) :
  (⟨pos.x, pos.y, pos.z.toUInt8.toUInt16⟩ : Map.Position) = pos ↔ pos.z < 256 := by
  rw [← PlainItem.byte_iff]
  constructor
  · exact congrArg Map.Position.z
  · intro same
    rw [same]

lemma startDecay_leadingTo (item : PlainItem) (dest : Map.Position) :
  ({ item with destPos := dest } : PlainItem).startDecay it started =
    { item.startDecay it started with destPos := dest } := by
  by_cases both : started ∧ item.canDecay it ∧ 0 < item.duration
  · have after : item.startDecay it started = item.setDecaying decayingTrue := if_pos both
    rw [after]
    exact if_pos both
  · have after : item.startDecay it started = item := if_neg both
    rw [after]
    exact if_neg both

lemma sameAttributes_leadingTo_iff (kept : item.Kept) (dest : Map.Position) :
  SameAttributes it
      (({ PlainItem.readBack it item fresh with
        destPos := dest } : PlainItem).startDecay it started) item ↔
    ItemStorable it started item fresh ∧ dest = item.destPos := by
  have others :
      ((PlainItem.readBack it item fresh).startDecay it
          started).sleeperGUID = fresh.sleeperGUID ∧
        ((PlainItem.readBack it item fresh).startDecay it
          started).sleepStart = fresh.sleepStart := by
    rw [startDecay_same, PlainItem.readBack_eq kept]
    exact ⟨rfl, rfl⟩
  rw [← itemStorable_iff kept, startDecay_leadingTo]
  constructor
  · rintro ⟨alike, sleeper, start, there⟩
    refine ⟨⟨?_, others.1.symm.trans sleeper, others.2.symm.trans start⟩, there⟩
    exact ⟨alike.1, alike.2, alike.3, alike.4, alike.5, alike.6, alike.7, alike.8, alike.9⟩
  · rintro ⟨⟨alike, sleeper, start⟩, there⟩
    refine ⟨?_, others.1.trans sleeper, others.2.trans start, there⟩
    exact ⟨alike.1, alike.2, alike.3, alike.4, alike.5, alike.6, alike.7, alike.8, alike.9⟩

lemma sameAttributes_item_iff (kept : item.Kept) :
  SameAttributes it
      ((PlainItem.readBack it item fresh).startDecay it started) item ↔
    ItemStorable it started item fresh ∧ item.destPos = fresh.destPos := by
  have same :
      PlainItem.readBack it item fresh =
        { PlainItem.readBack it item fresh with destPos := fresh.destPos } := by
    rw [PlainItem.readBack_eq kept]
  rw [same, sameAttributes_leadingTo_iff kept]
  exact and_congr_right fun _ => eq_comm

lemma handed_teleport :
  handed getNameByGuid it .teleport fresh
      ((serializeAttr it item.toAttributes .teleport).map Attr.stored) =
    { PlainItem.readBack it item fresh with
      destPos := ⟨item.destPos.x, item.destPos.y, item.destPos.z.toUInt8.toUInt16⟩ } := by
  have plain : handed getNameByGuid it .teleport fresh
      ((Item.serializeAttr it item.toAttributes).map Attr.stored) =
        PlainItem.readBack it item fresh := handed_item .teleport
  rw [handed] at plain
  rw [serializeAttr, Teleport.serializeAttr, map_append, handed, foldl_append, plain]
  rfl

/--
When an item that was handed what was written for it answers like the one that
was written.
-/
lemma sameAttributes_iff (kept : item.Kept) (itemClass : ItemClass) :
  SameAttributes it
      ((handed getNameByGuid it itemClass fresh
        ((serializeAttr it item.toAttributes itemClass).map
          Attr.stored)).startDecay it started) item ↔
    AttributesStorable getNameByGuid it itemClass started item fresh := by
  have plain (itemClass : ItemClass) :
      SameAttributes it
          ((handed getNameByGuid it itemClass fresh
            ((Item.serializeAttr it item.toAttributes).map
              Attr.stored)).startDecay it started) item ↔
        ItemStorable it started item fresh ∧ item.destPos = fresh.destPos := by
    rw [handed_item]
    exact sameAttributes_item_iff kept
  cases itemClass with
  | door => exact Iff.rfl
  | bed => exact Iff.rfl
  | teleport =>
    rw [handed_teleport, sameAttributes_leadingTo_iff kept, destPos_iff]
    exact Iff.rfl
  | item => exact plain .item
  | depot => exact plain .depot
  | container => exact plain .container
  | magicField => exact plain .magicField
  | trashHolder => exact plain .trashHolder
  | mailbox => exact plain .mailbox

end Store

end OTServ.MapStore
