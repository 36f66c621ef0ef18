import OTServ.MapStore.Attributes

/-!
# Stored conditions

A player's conditions are stored one behind the other: type, id and ticks, which
`createCondition` reads back, then the properties of the class as tagged values, and
a byte which ends them.  Each class hands its own tags to its members and the others
to `Condition::unserializeProp`.

The members of the classes are kept as far as they decide what a condition does; the
counters of the time since the last effect are left out.  `outside` is set once a value is stored behind the end of a member array.  Floats are
kept as their four bytes.  `Build` says what the server was compiled for.
-/

namespace OTServ.Conditions

open Library.ByteStreams
open MapStore

/-- Whether `__PROTOCOL_76__` is defined. -/
structure Build where
  protocol76 : Bool
deriving DecidableEq, Repr

/-! ## The classes -/

structure IntervalInfo where
  timeLeft : Int32
  value : Int32
  interval : Int32
deriving DecidableEq, Repr

structure ConditionDamage where
  maxDamage : Int32 := 0
  minDamage : Int32 := 0
  startDamage : Int32 := 0
  periodDamage : Int32 := 0
  tickInterval : Int32 := 2000
  delayed : Bool := false
  owner : UInt32 := 0
  damageList : List IntervalInfo := []
deriving DecidableEq, Repr

structure ConditionSpeed where
  speedDelta : Int32
  mina : UInt32 := 0
  minb : UInt32 := 0
  maxa : UInt32 := 0
  maxb : UInt32 := 0
deriving DecidableEq, Repr

structure Outfit where
  lookType : UInt32
  lookTypeEx : UInt32
  lookHead : UInt32
  lookBody : UInt32
  lookLegs : UInt32
  lookFeet : UInt32
deriving DecidableEq, Repr

structure ConditionLight where
  level : UInt32
  color : UInt32
  internalLightTicks : UInt32 := 0
  lightChangeInterval : UInt32 := 0
deriving DecidableEq, Repr

structure ConditionRegeneration where
  healthTicks : UInt32 := 1000
  manaTicks : UInt32 := 1000
  healthGain : UInt32 := 0
  manaGain : UInt32 := 0
deriving DecidableEq, Repr

structure ConditionSoul where
  soulTicks : UInt32 := 0
  soulGain : UInt32 := 0
deriving DecidableEq, Repr

structure ConditionAttributes where
  skills : List Int32
  skillsPercent : List Int32
  stats : List Int32
  statsPercent : List Int32
  currentSkill : Nat := 0
  currentStat : Nat := 0
deriving DecidableEq, Repr

inductive Body
  | generic
  | damage (members : ConditionDamage)
  | speed (members : ConditionSpeed)
  | outfit (outfits : List Outfit)
  | light (members : ConditionLight)
  | regeneration (members : ConditionRegeneration)
  | soul (members : ConditionSoul)
  | attributes (members : ConditionAttributes)
deriving DecidableEq, Repr

structure Condition where
  conditionType : UInt32
  id : UInt32
  ticks : Int32
  body : Body
  outside : Bool := false
deriving DecidableEq, Repr

/-- `SKILL_LAST + 1`. -/
def skillCount : Nat := 7

/-- `STAT_LAST + 1`; the soul points count from protocol 7.6 on. -/
def statCount (build : Build) : Nat := if build.protocol76 then 4 else 3

inductive Kind
  | generic
  | damage
  | speed
  | outfit
  | light
  | regeneration
  | soul
  | attributes
deriving DecidableEq, Repr

def Body.kind : Body → Kind
  | .generic => .generic
  | .damage _ => .damage
  | .speed _ => .speed
  | .outfit _ => .outfit
  | .light _ => .light
  | .regeneration _ => .regeneration
  | .soul _ => .soul
  | .attributes _ => .attributes

/-- The class which `createCondition` makes for a type. -/
def kindOf (build : Build) (type : UInt32) : Option Kind :=
  match type.toNat with
  | 1 | 2 | 4 => some .damage
  | 16 | 32 => some .speed
  | 128 => some .generic
  | 64 => some .outfit
  | 256 => some .light
  | 8192 => some .regeneration
  | 16384 => if build.protocol76 then some .soul else none
  | 512 => some .generic
  | 65536 => some .attributes
  | 1024 | 2048 | 4096 | 131072 | 262144 | 32768 | 524288 => some .generic
  | _ => none

/-- The constructors; `ConditionDamage` is made without the ticks. -/
def Kind.construct (build : Build) (id type : UInt32) (ticks param : Int32) (kind : Kind) :
  Condition :=
  match kind with
  | .generic =>
    { conditionType := type, id := id, ticks := ticks, body := .generic }
  | .damage =>
    { conditionType := type, id := id, ticks := 0, body := .damage {} }
  | .speed =>
    { conditionType := type, id := id, ticks := ticks
      body := .speed { speedDelta := param } }
  | .outfit =>
    { conditionType := type, id := id, ticks := ticks, body := .outfit [] }
  | .light =>
    { conditionType := type, id := id, ticks := ticks
      body :=
        .light
          { level := param.toUInt32 &&& 0xFF
            color := (param.toUInt32 &&& 0xFF00) >>> 8 } }
  | .regeneration =>
    { conditionType := type, id := id, ticks := ticks, body := .regeneration {} }
  | .soul =>
    { conditionType := type, id := id, ticks := ticks, body := .soul {} }
  | .attributes =>
    { conditionType := type, id := id, ticks := ticks
      body :=
        .attributes
          { skills := List.replicate skillCount 0
            skillsPercent := List.replicate skillCount 0
            stats := List.replicate (statCount build) 0
            statsPercent := List.replicate (statCount build) 0 } }

def createCondition (build : Build) (id type : UInt32) (ticks param : Int32) : Option Condition :=
  (kindOf build type).map (Kind.construct build id type ticks param)

def attrType : UInt8 := 1
def attrId : UInt8 := 2
def attrTicks : UInt8 := 3
def attrHealthTicks : UInt8 := 4
def attrHealthGain : UInt8 := 5
def attrManaTicks : UInt8 := 6
def attrManaGain : UInt8 := 7
def attrDelayed : UInt8 := 8
def attrOwner : UInt8 := 9
def attrIntervalData : UInt8 := 10
def attrSpeedDelta : UInt8 := 11
def attrFormulaMina : UInt8 := 12
def attrFormulaMinb : UInt8 := 13
def attrFormulaMaxa : UInt8 := 14
def attrFormulaMaxb : UInt8 := 15
def attrLightColor : UInt8 := 16
def attrLightLevel : UInt8 := 17
def attrLightTicks : UInt8 := 18
def attrLightInterval : UInt8 := 19
def attrSoulTicks : UInt8 := 20
def attrSoulGain : UInt8 := 21
def attrSkills : UInt8 := 22
def attrStats : UInt8 := 23
def attrOutfit : UInt8 := 24
def attrPeriodDamage : UInt8 := 25
def attrSkillsPercent : UInt8 := 26
def attrEnd : UInt8 := 254

def addInt32 (ret : Int32) : Stream := addUInt32 ret.toUInt32

def getInt32 : Reader Int32 := getUInt32.map UInt32.toInt32

lemma getInt32_reads (ret : Int32) : Reads getInt32 (addInt32 ret) ret :=
  (getUInt32_reads ret.toUInt32).map UInt32.toInt32

def tagged (attr : UInt8) (value : Stream) : Stream := addUInt8 attr ++ value

def IntervalInfo.serialize (info : IntervalInfo) : Stream :=
  tagged attrIntervalData
    (addInt32 info.timeLeft ++ (addInt32 info.value ++ addInt32 info.interval))

def Outfit.serialize (outfit : Outfit) : Stream :=
  tagged attrOutfit
    (addUInt32 outfit.lookType ++ (addUInt32 outfit.lookTypeEx ++
      (addUInt32 outfit.lookHead ++ (addUInt32 outfit.lookBody ++
        (addUInt32 outfit.lookLegs ++ addUInt32 outfit.lookFeet)))))

def ConditionDamage.serialize (members : ConditionDamage) : Stream :=
  tagged attrDelayed (addUInt8 (if members.delayed then 1 else 0)) ++
    (tagged attrPeriodDamage (addInt32 members.periodDamage) ++
      (tagged attrOwner (addUInt32 members.owner) ++
        members.damageList.flatMap IntervalInfo.serialize))

def ConditionSpeed.serialize (members : ConditionSpeed) : Stream :=
  tagged attrSpeedDelta (addInt32 members.speedDelta) ++
    (tagged attrFormulaMina (addUInt32 members.mina) ++
      (tagged attrFormulaMinb (addUInt32 members.minb) ++
        (tagged attrFormulaMaxa (addUInt32 members.maxa) ++
          tagged attrFormulaMaxb (addUInt32 members.maxb))))

def ConditionLight.serialize (members : ConditionLight) : Stream :=
  tagged attrLightColor (addUInt32 members.color) ++
    (tagged attrLightLevel (addUInt32 members.level) ++
      (tagged attrLightTicks (addUInt32 members.internalLightTicks) ++
        tagged attrLightInterval (addUInt32 members.lightChangeInterval)))

def ConditionRegeneration.serialize (members : ConditionRegeneration) : Stream :=
  tagged attrHealthTicks (addUInt32 members.healthTicks) ++
    (tagged attrHealthGain (addUInt32 members.healthGain) ++
      (tagged attrManaTicks (addUInt32 members.manaTicks) ++
        tagged attrManaGain (addUInt32 members.manaGain)))

def ConditionSoul.serialize (members : ConditionSoul) : Stream :=
  tagged attrSoulGain (addUInt32 members.soulGain) ++
    tagged attrSoulTicks (addUInt32 members.soulTicks)

def ConditionAttributes.serialize (members : ConditionAttributes) : Stream :=
  members.skills.flatMap (fun value => tagged attrSkills (addInt32 value)) ++
    (members.skillsPercent.flatMap
        (fun value => tagged attrSkillsPercent (addInt32 value)) ++
      members.stats.flatMap (fun value => tagged attrStats (addInt32 value)))

def Body.serialize : Body → Stream
  | .generic => []
  | .damage members => members.serialize
  | .speed members => members.serialize
  | .outfit outfits => outfits.flatMap Outfit.serialize
  | .light members => members.serialize
  | .regeneration members => members.serialize
  | .soul members => members.serialize
  | .attributes members => members.serialize

def Condition.serialize (condition : Condition) : Stream :=
  tagged attrType (addUInt32 condition.conditionType) ++
    (tagged attrId (addUInt32 condition.id) ++
      (tagged attrTicks (addInt32 condition.ticks) ++ condition.body.serialize))

def conditionIdDefault : UInt32 := 0xFFFFFFFF
def conditionIdCombat : UInt32 := 0

def Condition.isPersistent (condition : Condition) : Bool :=
  !(condition.ticks == -1) &&
    (condition.id == conditionIdDefault || condition.id == conditionIdCombat)

/-- A condition as `savePlayer` writes it. -/
def Condition.stored (condition : Condition) : Stream :=
  condition.serialize ++ addUInt8 attrEnd

/-- The conditions in `savePlayer`. -/
def saveConditions (conditions : List Condition) : Stream :=
  (conditions.filter Condition.isPersistent).flatMap Condition.stored

/-! ## Reading -/

def Condition.unserializeProp (condition : Condition) (attr : UInt8) : Reader Condition :=
  if attr = attrType then
    getUInt32.map fun value => { condition with conditionType := value }
  else if attr = attrId then
    getUInt32.map fun value => { condition with id := value }
  else if attr = attrTicks then
    getInt32.map fun value => { condition with ticks := value }
  else if attr = attrEnd then fun stream => (some condition, stream)
  else fun stream => (none, stream)

def Condition.withBody (condition : Condition) (body : Body) : Condition :=
  { condition with body := body }

/-- The damage is listed, and where the ticks are not -1 they grow by it. -/
def Condition.pushDamage
  (condition : Condition) (members : ConditionDamage) (info : IntervalInfo) :
  Condition :=
  { condition with
    body := .damage { members with damageList := members.damageList ++ [info] }
    ticks :=
      if condition.ticks ≠ -1 then condition.ticks + info.interval
      else condition.ticks }

def getIntervalInfo : Reader IntervalInfo :=
  getInt32.andThen fun timeLeft =>
    getInt32.andThen fun value =>
      getInt32.map fun interval => { timeLeft := timeLeft, value := value, interval := interval }

def unserializeDamage (condition : Condition) (members : ConditionDamage) (attr : UInt8) :
  Reader Condition :=
  if attr = attrDelayed then
    getUInt8.map fun value : UInt8 =>
      condition.withBody (.damage { members with delayed := value != 0 })
  else if attr = attrPeriodDamage then
    getInt32.map fun value => condition.withBody (.damage { members with periodDamage := value })
  else if attr = attrOwner then
    getUInt32.map fun value => condition.withBody (.damage { members with owner := value })
  else if attr = attrIntervalData then
    getIntervalInfo.map fun info => condition.pushDamage members info
  else condition.unserializeProp attr

def unserializeSpeed (condition : Condition) (members : ConditionSpeed) (attr : UInt8) :
  Reader Condition :=
  if attr = attrSpeedDelta then
    getInt32.map fun value => condition.withBody (.speed { members with speedDelta := value })
  else if attr = attrFormulaMina then
    getUInt32.map fun value => condition.withBody (.speed { members with mina := value })
  else if attr = attrFormulaMinb then
    getUInt32.map fun value => condition.withBody (.speed { members with minb := value })
  else if attr = attrFormulaMaxa then
    getUInt32.map fun value => condition.withBody (.speed { members with maxa := value })
  else if attr = attrFormulaMaxb then
    getUInt32.map fun value => condition.withBody (.speed { members with maxb := value })
  else condition.unserializeProp attr

def getOutfit : Reader Outfit :=
  getUInt32.andThen fun lookType =>
    getUInt32.andThen fun lookTypeEx =>
      getUInt32.andThen fun lookHead =>
        getUInt32.andThen fun lookBody =>
          getUInt32.andThen fun lookLegs =>
            getUInt32.map fun lookFeet =>
              { lookType := lookType
                lookTypeEx := lookTypeEx
                lookHead := lookHead
                lookBody := lookBody
                lookLegs := lookLegs
                lookFeet := lookFeet }

def unserializeOutfit (condition : Condition) (outfits : List Outfit) (attr : UInt8) :
  Reader Condition :=
  if attr = attrOutfit then
    getOutfit.map fun outfit => condition.withBody (.outfit (outfits ++ [outfit]))
  else condition.unserializeProp attr

def unserializeLight (condition : Condition) (members : ConditionLight) (attr : UInt8) :
  Reader Condition :=
  if attr = attrLightColor then
    getUInt32.map fun value => condition.withBody (.light { members with color := value })
  else if attr = attrLightLevel then
    getUInt32.map fun value => condition.withBody (.light { members with level := value })
  else if attr = attrLightTicks then
    getUInt32.map fun value =>
      condition.withBody (.light { members with internalLightTicks := value })
  else if attr = attrLightInterval then
    getUInt32.map fun value =>
      condition.withBody (.light { members with lightChangeInterval := value })
  else condition.unserializeProp attr

def unserializeRegeneration (condition : Condition) (members : ConditionRegeneration)
  (attr : UInt8) : Reader Condition :=
  if attr = attrHealthTicks then
    getUInt32.map fun value =>
      condition.withBody (.regeneration { members with healthTicks := value })
  else if attr = attrHealthGain then
    getUInt32.map fun value =>
      condition.withBody (.regeneration { members with healthGain := value })
  else if attr = attrManaTicks then
    getUInt32.map fun value =>
      condition.withBody (.regeneration { members with manaTicks := value })
  else if attr = attrManaGain then
    getUInt32.map fun value =>
      condition.withBody (.regeneration { members with manaGain := value })
  else condition.unserializeProp attr

def unserializeSoul (condition : Condition) (members : ConditionSoul) (attr : UInt8) :
  Reader Condition :=
  if attr = attrSoulGain then
    getUInt32.map fun value => condition.withBody (.soul { members with soulGain := value })
  else if attr = attrSoulTicks then
    getUInt32.map fun value => condition.withBody (.soul { members with soulTicks := value })
  else condition.unserializeProp attr

/-- `skills[currentSkill] = value; ++currentSkill`, for skills and percents. -/
def Condition.storeSkill (condition : Condition) (members : ConditionAttributes) (value : Int32) :
  Condition :=
  { condition with
    body :=
      .attributes
        { members with
          skills := members.skills.set members.currentSkill value
          currentSkill := members.currentSkill + 1 }
    outside := condition.outside || !(members.currentSkill < members.skills.length) }

def Condition.storeStat (condition : Condition) (members : ConditionAttributes) (value : Int32) :
  Condition :=
  { condition with
    body :=
      .attributes
        { members with
          stats := members.stats.set members.currentStat value
          currentStat := members.currentStat + 1 }
    outside := condition.outside || !(members.currentStat < members.stats.length) }

def unserializeAttributes (condition : Condition) (members : ConditionAttributes) (attr : UInt8) :
  Reader Condition :=
  if attr = attrSkills then
    getInt32.map (condition.storeSkill members)
  else if attr = attrSkillsPercent then
    getInt32.map (condition.storeSkill members)
  else if attr = attrStats then
    getInt32.map (condition.storeStat members)
  else condition.unserializeProp attr

/-- `unserializeProp` of the class which the condition has. -/
def unserializeClass (condition : Condition) (attr : UInt8) : Reader Condition :=
  match condition.body with
  | .generic => condition.unserializeProp attr
  | .damage members => unserializeDamage condition members attr
  | .speed members => unserializeSpeed condition members attr
  | .outfit outfits => unserializeOutfit condition outfits attr
  | .light members => unserializeLight condition members attr
  | .regeneration members => unserializeRegeneration condition members attr
  | .soul members => unserializeSoul condition members attr
  | .attributes members => unserializeAttributes condition members attr

/-- The loop of `unserialize`, so many rounds at most. -/
def unserializeRounds : Nat → Condition → Reader Condition
  | 0, _ => fun stream => (none, stream)
  | rounds + 1, condition => fun stream =>
    match getUInt8 stream with
    | (none, rest) => (some condition, rest)
    | (some attr, rest) =>
      if attr = attrEnd then (some condition, rest)
      else
        match unserializeClass condition attr rest with
        | (none, rest) => (none, rest)
        | (some condition, rest) =>
          unserializeRounds rounds condition rest

/-- Each round takes a tag, so there are no more rounds than bytes. -/
def Condition.unserialize (condition : Condition) : Reader Condition :=
  fun stream => unserializeRounds (stream.length + 1) condition stream

def expectUInt32 (attr : UInt8) : Reader UInt32 :=
  getUInt8.andThen fun found => if found = attr then getUInt32 else fun stream => (none, stream)

/-- `createCondition` from a stream. -/
def readCondition (build : Build) : Reader Condition :=
  (expectUInt32 attrType).andThen fun type =>
    (expectUInt32 attrId).andThen fun id =>
      (expectUInt32 attrTicks).andThen fun ticks => fun stream =>
        (createCondition build id type ticks.toInt32 0, stream)

/-- The loop of `loadPlayer`, so many rounds at most. -/
def loadRounds (build : Build) : Nat → Stream → List Condition
  | 0, _ => []
  | rounds + 1, stream =>
    match readCondition build stream with
    | (none, _) => []
    | (some condition, rest) =>
      match condition.unserialize rest with
      | (some condition, rest) => condition :: loadRounds build rounds rest
      | (none, rest) => loadRounds build rounds rest

/-- The conditions in `loadPlayer`. -/
def loadConditions (build : Build) (stream : Stream) : List Condition :=
  loadRounds build (stream.length + 1) stream

end OTServ.Conditions
