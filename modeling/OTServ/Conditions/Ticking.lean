import OTServ.Conditions.Condition

/-!
# Conditions at work

A condition object with the members which decide when it starts, goes on and takes
over the values of another one.  The members of `ConditionDamage` belong to objects of
its class only; those of the other classes, which decide upon none of this, are left
out.  The class of an object is the one which `createCondition` makes for its type.

What comes from outside is answered call by call: the clock, the numbers drawn, the
damage lists with their floating point, the magic field on the tile and what a hit
comes to.
-/

namespace OTServ.Conditions

def conditionPoison : UInt32 := 1
def conditionFire : UInt32 := 2
def conditionEnergy : UInt32 := 4
def conditionHaste : UInt32 := 16
def conditionParalyze : UInt32 := 32
def conditionInvisible : UInt32 := 128
def conditionManaShield : UInt32 := 512
def conditionInFight : UInt32 := 1024
def conditionRegeneration : UInt32 := 8192
def conditionAttributes : UInt32 := 65536

inductive CombatType
  | physical
  | energy
  | poison
  | fire
  | other
deriving DecidableEq, Repr

structure Object where
  conditionType : UInt32
  id : UInt32
  ticks : Int32
  endTime : Int := 0
  damage : ConditionDamage := {}
  forceUpdate : Bool := false
  periodDamageTick : Int32 := 0
deriving DecidableEq, Repr

namespace Object

def key (object : Object) : UInt32 × UInt32 := (object.conditionType, object.id)

def kind (build : Build) (object : Object) : Kind :=
  (kindOf build object.conditionType).getD .generic

def isPersistent (object : Object) : Bool :=
  !(object.ticks == -1) && (object.id == conditionIdDefault || object.id == conditionIdCombat)

def construct (id type : UInt32) (ticks : Int32) (kind : Kind) : Object :=
  { conditionType := type, id := id, ticks := if kind = .damage then 0 else ticks }

def createCondition (build : Build) (id type : UInt32) (ticks : Int32) : Option Object :=
  (kindOf build type).map (construct id type ticks)

end Object

/-- `EquipItem` and `DeEquipItem` give and take these conditions. -/
structure Abilities where
  invisible : Bool := false
  manaShield : Bool := false
  regeneration : Bool := false
deriving DecidableEq, Repr

/-- What reaches the conditions of a creature which is hit, or which loses an item: it
is in a fight, an item used up or changed is taken off or put on, a monster is seen.
The clock is read where a condition is added or its time checked. -/
inductive Effect
  | addInFightTicks (ticks : Int32) (now : Int)
  | equipItem (slot : UInt32) (abilities : Abilities) (now : Int)
  | deEquipItem (slot : UInt32) (abilities : Abilities)
  | drainHealth (now : Int)
deriving DecidableEq, Repr

/-- The results of `combatBlockHit` and `combatChangeHealth`, and what these do to the
conditions of the creature. -/
structure Blow where
  blocked : Bool := false
  changed : Bool := true
  blockEffects : List Effect := []
  healthEffects : List Effect := []
deriving DecidableEq, Repr

/-- The answers to one call: `suppressions` is what `getConditionSuppressions` says,
`startDamage` is `max 1 ⌈amount / 20⌉`. -/
structure Scene where
  now : Int
  suppressions : UInt32 := 0
  randomRange : Int32 → Int32 → Int32 := fun low _ => low
  startDamage : Int32 → Int32 := fun _ => 1
  generateDamageList : Int32 → Int32 → List Int32 := fun _ _ => []
  field : Option CombatType := none
  blow : Int32 → Blow := fun _ => {}

namespace Scene

def isSuppress (scene : Scene) (type : UInt32) : Bool :=
  scene.suppressions &&& type == type

/-- `onTickCondition`: on a magic field the ticks of its own kind do not run out. -/
def onTickCondition (scene : Scene) (type : UInt32) (removes : Bool) : Bool :=
  match scene.field with
  | none => removes
  | some combatType =>
    if type = conditionFire then combatType ≠ .fire
    else if type = conditionEnergy then combatType ≠ .energy
    else if type = conditionPoison then combatType ≠ .poison
    else removes

end Scene

namespace Object

def setTicks (now : Int) (newTicks : Int32) (object : Object) : Object :=
  { object with ticks := newTicks, endTime := newTicks.toInt + now }

/-- `Condition::startCondition`, which always succeeds. -/
def startTime (now : Int) (object : Object) : Object :=
  if 0 < object.ticks then
    { object with endTime := object.ticks.toInt + now }
  else object

/-- `Condition::executeCondition`. -/
def executeTime (now : Int) (interval : Int32) (object : Object) : Bool × Object :=
  if object.ticks = -1 then (true, object)
  else
    (now ≤ object.endTime, { object with ticks := max 0 (object.ticks - interval) })

/-- `Condition::updateCondition`. -/
def updateCondition (now : Int) (object addCondition : Object) : Bool :=
  if object.conditionType ≠ addCondition.conditionType then false
  else if object.ticks = -1 ∧ 0 < addCondition.ticks then false
  else if 0 ≤ addCondition.ticks ∧ now + addCondition.ticks.toInt < object.endTime then
    false
  else true

/-! ## Damage -/

/-- `addDamage` with one round. -/
def addDamage (now : Int) (time value : Int32) (object : Object) : Object :=
  if 0 < object.damage.periodDamage then object
  else
    let listed :=
      { object with
        damage :=
          { object.damage with
            damageList :=
              object.damage.damageList ++
                [{ timeLeft := time, value := value, interval := time }] } }
    if object.ticks = -1 then listed
    else listed.setTicks now (object.ticks + time)

def drawDamage (scene : Scene) (object : Object) : Object :=
  let amount := scene.randomRange object.damage.minDamage object.damage.maxDamage
  if amount = 0 then object
  else
    let start :=
      if object.damage.maxDamage < object.damage.startDamage then
        object.damage.maxDamage
      else if object.damage.startDamage = 0 then scene.startDamage amount
      else object.damage.startDamage
    let started := { object with damage := { object.damage with startDamage := start } }
    (scene.generateDamageList amount start).foldl
      (fun drawn value => drawn.addDamage scene.now drawn.damage.tickInterval (-value))
      started

def init (scene : Scene) (object : Object) : Bool × Object :=
  if object.damage.periodDamage ≠ 0 then (true, object)
  else
    let drawn :=
      if object.damage.damageList.isEmpty then
        drawDamage scene (object.setTicks scene.now 0)
      else object
    (!drawn.damage.damageList.isEmpty, drawn)

def getNextDamage (object : Object) : Option Int32 × Object :=
  if object.damage.periodDamage ≠ 0 then (some object.damage.periodDamage, object)
  else
    match object.damage.damageList with
    | [] => (none, object)
    | info :: rest =>
      if object.ticks = -1 then (some info.value, object)
      else
        (some info.value, { object with damage := { object.damage with damageList := rest } })

/-- The part of `ConditionDamage::executeCondition` up to the damage: the damage which
falls due, and whether the ticks run. -/
def tick (scene : Scene) (interval : Int32) (object : Object) : Option Int32 × Bool × Object :=
  if object.damage.periodDamage ≠ 0 then
    if object.damage.tickInterval ≤ object.periodDamageTick + interval then
      (some object.damage.periodDamage, true, { object with periodDamageTick := 0 })
    else
      (none, true, { object with periodDamageTick := object.periodDamageTick + interval })
  else
    match object.damage.damageList with
    | [] => (none, true, object)
    | info :: rest =>
      let removes := scene.onTickCondition object.conditionType (object.ticks ≠ -1)
      let timeLeft := info.timeLeft - interval
      if timeLeft ≤ 0 then
        let left := if removes then rest else { info with timeLeft := info.interval } :: rest
        (some info.value, removes,
          { object with damage := { object.damage with damageList := left } })
      else
        (none, removes,
          { object with
            damage :=
              { object.damage with
                damageList := { info with timeLeft := timeLeft } :: rest } })

def afterTick (scene : Scene) (interval : Int32) (removes : Bool) (object : Object) :
  Bool × Object :=
  if removes then object.executeTime scene.now interval
  else
    let extended :=
      if 0 < object.ticks then
        { object with endTime := object.endTime + interval.toInt }
      else object
    extended.executeTime scene.now 0

def getTotalDamage (object : Object) : Int32 :=
  let result :=
    match object.damage.damageList with
    | [] =>
      object.damage.maxDamage + (object.damage.maxDamage - object.damage.minDamage) / 2
    | infos => infos.foldl (fun sum info => sum + info.value) 0
  if result < 0 then -result else result

/-- `ConditionDamage::updateCondition`. -/
def updateDamage (object addCondition : Object) : Bool :=
  if addCondition.forceUpdate then true
  else if object.ticks = -1 ∧ 0 < addCondition.ticks then false
  else if addCondition.ticks ≤ object.ticks then false
  else if addCondition.getTotalDamage < object.getTotalDamage then false
  else if addCondition.damage.periodDamage < object.damage.periodDamage then false
  else true

/-- `ConditionDamage::addCondition` up to the damage; `delayed` stays its own. -/
def takeDamage (scene : Scene) (object addCondition : Object) : Option Int32 × Object :=
  let nextTimeLeft :=
    match object.damage.damageList with
    | [] => addCondition.damage.tickInterval
    | info :: _ => info.timeLeft
  let taken :=
    { object.setTicks scene.now addCondition.ticks with
      damage := { addCondition.damage with delayed := object.damage.delayed } }
  let (ready, started) := taken.init scene
  if ready then
    let restored :=
      { started with
        damage :=
          { started.damage with
            damageList :=
              match started.damage.damageList with
              | [] => []
              | info :: rest => { info with timeLeft := nextTimeLeft } :: rest } }
    if restored.damage.delayed then (none, restored) else restored.getNextDamage
  else (none, started)

/-! ## Keys

None of this changes the type or the id. -/

section Keys

variable (scene : Scene) (now : Int) (interval : Int32) (removes : Bool)
  (object addCondition : Object)

@[simp]
lemma key_setTicks (newTicks : Int32) : (object.setTicks now newTicks).key = object.key := rfl

@[simp]
lemma key_startTime : (object.startTime now).key = object.key := by
  rw [startTime]
  split
  · rfl
  · rfl

@[simp]
lemma key_executeTime : (object.executeTime now interval).2.key = object.key := by
  rw [executeTime]
  split
  · rfl
  · rfl

@[simp]
lemma key_addDamage (time value : Int32) :
  (object.addDamage now time value).key = object.key := by
  simp only [addDamage]
  split
  · rfl
  · split
    · rfl
    · rfl

lemma key_foldl_addDamage (values : List Int32) :
  (values.foldl
      (fun drawn value => drawn.addDamage now drawn.damage.tickInterval (-value))
      object).key = object.key := by
  induction values generalizing object with
  | nil => rfl
  | cons value values inductionHypothesis =>
    exact (inductionHypothesis _).trans (key_addDamage now object _ _)

@[simp]
lemma key_drawDamage : (object.drawDamage scene).key = object.key := by
  simp only [drawDamage]
  split
  · rfl
  · exact key_foldl_addDamage scene.now _ _

@[simp]
lemma key_init : (object.init scene).2.key = object.key := by
  simp only [init]
  split
  · rfl
  · split
    · rw [key_drawDamage, key_setTicks]
    · rfl

@[simp]
lemma key_getNextDamage : object.getNextDamage.2.key = object.key := by
  simp only [getNextDamage]
  split
  · rfl
  · split
    · rfl
    · split
      · rfl
      · rfl

@[simp]
lemma key_tick : (object.tick scene interval).2.2.key = object.key := by
  simp only [tick]
  split
  · split
    · rfl
    · rfl
  · split
    · rfl
    · split
      · rfl
      · rfl

@[simp]
lemma key_afterTick : (object.afterTick scene interval removes).2.key = object.key := by
  simp only [afterTick]
  split
  · rw [key_executeTime]
  · rw [key_executeTime]
    split
    · rfl
    · rfl

@[simp]
lemma key_takeDamage : (object.takeDamage scene addCondition).2.key = object.key := by
  simp only [takeDamage]
  split
  · split
    · exact key_init scene _
    · rw [key_getNextDamage]
      exact key_init scene _
  · exact key_init scene _

end Keys

end Object

end OTServ.Conditions
