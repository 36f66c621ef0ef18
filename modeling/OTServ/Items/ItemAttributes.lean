import Mathlib.Logic.Function.Basic

/-!
# Attributes of items

An object keeps its attributes in a list, and in a word of flags which kinds the
list holds.  The setters change an entry that is there.  None of them makes an
entry for a kind that has none, so an object without attributes stays so.
-/

namespace OTServ.Attributes

open Function Option

/-- `ItemAttrType` -/
inductive ItemAttrType where
  | actionId
  | uniqueId
  | desc
  | text
  | writtenBy
  | owner
  | duration
  | decaying
  | charges
  | fluidType
  | doorId
deriving DecidableEq

namespace ItemAttrType

/-- The value in the enumeration.  `doorId` is no bit of its own. -/
def flag : ItemAttrType → UInt16
  | actionId => 0x01
  | uniqueId => 0x02
  | desc => 0x04
  | text => 0x08
  | writtenBy => 0x10
  | owner => 0x20
  | duration => 0x40
  | decaying => 0x80
  | charges => 0x100
  | fluidType => 0x200
  | doorId => 0x300

/-- `ItemAttributes::validateIntAttrType` -/
def validateIntAttrType : ItemAttrType → Bool
  | actionId => true
  | uniqueId => true
  | owner => true
  | duration => true
  | decaying => true
  | charges => true
  | fluidType => true
  | doorId => true
  | _ => false

/-- `ItemAttributes::validateStrAttrType` -/
def validateStrAttrType : ItemAttrType → Bool
  | desc => true
  | text => true
  | writtenBy => true
  | _ => false

end ItemAttrType

/-! ## Objects -/

/-- An attribute.  The kind says which member of the union is in use. -/
structure ItemAttribute where
  type : ItemAttrType
  integer : Int32
  str : String
deriving DecidableEq

def ItemAttribute.ofType (type : ItemAttrType) : ItemAttribute where
  type := type
  integer := 0
  str := ""

/-- `ItemAttributes` -/
structure ItemAttributes where
  attributes : List ItemAttribute
  attrFlags : UInt16
deriving DecidableEq

namespace ItemAttributes

def empty : ItemAttributes where
  attributes := []
  attrFlags := 0

variable (object : ItemAttributes)

/-- `ItemAttributes::hasAttribute` -/
def hasAttribute (type : ItemAttrType) : Bool :=
  object.attrFlags &&& type.flag != 0

/-- `ItemAttributes::getAttr` -/
def getAttr (type : ItemAttrType) : Option ItemAttribute :=
  object.attributes.find? fun attr => attr.type = type

/-- `ItemAttributes::getStrAttr` -/
def getStrAttr (type : ItemAttrType) : String :=
  if !object.hasAttribute type then ""
  else
    match object.getAttr type with
    | some attr => attr.str
    | none => ""

/-- `ItemAttributes::getIntAttr` -/
def getIntAttr (type : ItemAttrType) : UInt32 :=
  match object.getAttr type with
  | some attr => attr.integer.toUInt32
  | none => 0

def change (type : ItemAttrType) (f : ItemAttribute → ItemAttribute) :
  List ItemAttribute → List ItemAttribute
  | [] => []
  | attr :: rest =>
    if attr.type = type then f attr :: rest
    else attr :: change type f rest

/-- `ItemAttributes::addAttr` -/
def addAttr (attr : ItemAttribute) : ItemAttributes where
  attributes := object.attributes ++ [attr]
  attrFlags := object.attrFlags ||| attr.type.flag

/-- `ItemAttributes::setStrAttr` -/
def setStrAttr (type : ItemAttrType) (value : String) : ItemAttributes :=
  if object.hasAttribute type then
    if (object.getAttr type).isSome then
      { object with
        attributes := change type (fun attr => { attr with str := value }) object.attributes }
    else object.addAttr { ItemAttribute.ofType type with str := value }
  else object

/-- `ItemAttributes::removeAttribute` -/
def removeAttribute (type : ItemAttrType) : ItemAttributes :=
  if object.hasAttribute type then
    { attributes := object.attributes.filter fun attr => attr.type ≠ type
      attrFlags := object.attrFlags &&& ~~~type.flag }
  else object

/-- `ItemAttributes::setIntAttr` -/
def setIntAttr (type : ItemAttrType) (value : Int32) : ItemAttributes :=
  { object with
    attributes := change type (fun attr => { attr with integer := value }) object.attributes }

/-- `ItemAttributes::increaseIntAttr` -/
def increaseIntAttr (type : ItemAttrType) (value : Int32) : ItemAttributes :=
  { object with
    attributes :=
      change type (fun attr => { attr with integer := attr.integer + value }) object.attributes }

/-- The copy constructor, which leaves the flags at 0. -/
def copy : ItemAttributes where
  attributes := object.attributes
  attrFlags := 0

end ItemAttributes

inductive Call where
  | setIntAttr (type : ItemAttrType) (valid : type.validateIntAttrType)
      (value : Int32)
  | setStrAttr (type : ItemAttrType) (valid : type.validateStrAttrType)
      (value : String) (filled : value ≠ "")
  | increaseIntAttr (type : ItemAttrType) (valid : type.validateIntAttrType)
      (value : Int32)
  | removeAttribute (type : ItemAttrType)

namespace Call

/-- `ItemAttributes::setActionId` -/
def setActionId (n : UInt16) : Call :=
  setIntAttr .actionId rfl (if n < 100 then 100 else n.toUInt32.toInt32)

/-- `ItemAttributes::setUniqueId` -/
def setUniqueId (n : UInt16) : Call :=
  setIntAttr .uniqueId rfl (if n < 1000 then 1000 else n.toUInt32.toInt32)

/-- `ItemAttributes::setCharges` -/
def setCharges (n : UInt16) : Call :=
  setIntAttr .charges rfl n.toUInt32.toInt32

/-- `ItemAttributes::setFluidType` -/
def setFluidType (n : UInt16) : Call :=
  setIntAttr .fluidType rfl n.toUInt32.toInt32

/-- `ItemAttributes::setOwner` -/
def setOwner (owner : UInt32) : Call :=
  setIntAttr .owner rfl owner.toInt32

/-- `ItemAttributes::setDuration` -/
def setDuration (time : Int32) : Call := setIntAttr .duration rfl time

/-- `ItemAttributes::decreaseDuration` -/
def decreaseDuration (time : Int32) : Call :=
  increaseIntAttr .duration rfl (-time)

/-- `ItemAttributes::setText` -/
def setText (text : String) (filled : text ≠ "") : Call :=
  setStrAttr .text rfl text filled

def apply (object : ItemAttributes) : Call → ItemAttributes
  | setIntAttr type _ value => object.setIntAttr type value
  | setStrAttr type _ value _ => object.setStrAttr type value
  | increaseIntAttr type _ value => object.increaseIntAttr type value
  | removeAttribute type => object.removeAttribute type

end Call

def objectAfter (calls : List Call) : ItemAttributes :=
  calls.foldl Call.apply .empty

inductive Value where
  | integer (value : Int32)
  | text (value : String)
deriving DecidableEq

/-- The number in a value, and 0 where there is none. -/
def Value.getInteger : Option Value → Int32
  | some (integer value) => value
  | _ => 0

/-- The text in a value, and the empty one where there is none. -/
def Value.getText : Option Value → String
  | some (text value) => value
  | _ => ""

abbrev Record := ItemAttrType → Option Value

def Call.record (record : Record) : Call → Record
  | setIntAttr type _ value =>
    update record type (some (.integer value))
  | setStrAttr type _ value _ =>
    update record type (some (.text value))
  | increaseIntAttr type _ value =>
    update record type (some (.integer (Value.getInteger (record type) + value)))
  | removeAttribute type => update record type none

def recordAfter (calls : List Call) : Record :=
  calls.foldl Call.record fun _ => none

/-- The getters answer as the finite map does, and a copy as the object. -/
structure Answers (object : ItemAttributes) (record : Record) : Prop where
  integers :
    ∀ type,
      type.validateIntAttrType → object.getIntAttr type = (Value.getInteger (record type)).toUInt32
  texts : ∀ type, type.validateStrAttrType → object.getStrAttr type = Value.getText (record type)
  kinds : ∀ type, object.hasAttribute type = (record type).isSome
  copyIntegers :
    ∀ type, type.validateIntAttrType → object.copy.getIntAttr type = object.getIntAttr type
  copyTexts :
    ∀ type, type.validateStrAttrType → object.copy.getStrAttr type = object.getStrAttr type
  copyKinds : ∀ type, object.copy.hasAttribute type = object.hasAttribute type

namespace ItemAttributes

lemma empty_hasAttribute (type : ItemAttrType) : empty.hasAttribute type = false := by
  cases type <;> rfl

lemma empty_apply (call : Call) : call.apply empty = empty := by
  cases call with
  | setIntAttr type valid value => rfl
  | increaseIntAttr type valid value => rfl
  | setStrAttr type valid value filled | removeAttribute type =>
    show (if empty.hasAttribute type then _ else empty) = empty
    rw [empty_hasAttribute]
    rfl

end ItemAttributes

lemma objectAfter_eq_empty (calls : List Call) : objectAfter calls = .empty := by
  rw [objectAfter]
  induction calls with
  | nil => rfl
  | cons call rest ih =>
    rw [List.foldl_cons, ItemAttributes.empty_apply]
    exact ih

lemma empty_answers : Answers .empty fun _ => none where
  integers _ _ := rfl
  texts type _ := by
    rw [ItemAttributes.getStrAttr, ItemAttributes.empty_hasAttribute]
    rfl
  kinds type := ItemAttributes.empty_hasAttribute type
  copyIntegers _ _ := rfl
  copyTexts _ _ := rfl
  copyKinds _ := rfl

/--
The object answers as a finite map exactly after those calls after which nothing
is set: each kind that has been set has been removed again.
-/
theorem objectAfter_answers_iff (calls : List Call) :
  Answers (objectAfter calls) (recordAfter calls) ↔ ∀ type, recordAfter calls type = none := by
  rw [objectAfter_eq_empty]
  constructor
  · intro answers type
    have kinds := answers.kinds type
    rw [ItemAttributes.empty_hasAttribute] at kinds
    exact isNone_iff_eq_none.mp (by
      rw [← not_isSome, ← kinds]
      rfl)
  · intro unset
    have record : recordAfter calls = fun _ => none := by
      ext1 type
      exact unset type
    rw [record]
    exact empty_answers

theorem setActionId_lost :
  ¬ Answers (objectAfter [Call.setActionId 1000]) (recordAfter [Call.setActionId 1000]) := by
  intro answers
  have integer := answers.integers .actionId rfl
  exact absurd integer (by decide)

end OTServ.Attributes
