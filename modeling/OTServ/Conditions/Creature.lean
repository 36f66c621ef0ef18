import OTServ.Conditions.Ticking
import OTServ.Library.Lifecycles

/-!
# The conditions of a creature

A creature lists pointers to its conditions.  Objects are numbered as they are made,
and the history has what is done to them: `used` for a member which is read or a
function which is called, `accepted` for a start which succeeded and `refused` for one
which failed, `merged` for a condition handed to the `addCondition` of another,
`renewed` for the `endCondition` which a condition calls on itself there, `ended` for
the `endCondition` which the creature calls; `holding` has the list whenever it has
changed.

`endCondition` changes speed, light, outfit, visibility, skills and stats, and
`onEndCondition` icons, marks of a fight and the activation of a monster; neither
reaches the list.  A hit does, and so do the loss of an item and the start of haste or
paralysis.  The conditions which a hit adds deal no damage themselves: `affect` is the
reaction to hits of all other conditions.
-/

namespace OTServ.Conditions

open Library.Lifecycles

inductive CreatureKind
  | player
  | monster
  | npc
deriving DecidableEq, Repr

/-- `pending` are the objects handed to `addCondition` and not yet decided upon. -/
structure Creature where
  kind : CreatureKind
  conditions : List Nat
  object : Nat → Object
  next : Nat
  pending : List Nat
  history : List Occurrence

namespace Creature

def registry (creature : Creature) : Registry (UInt32 × UInt32) :=
  { held := creature.conditions
    key := fun condition => (creature.object condition).key
    next := creature.next
    pending := creature.pending
    history := creature.history }

def new (kind : CreatureKind) : Creature :=
  { kind := kind
    conditions := []
    object := fun _ => { conditionType := 0, id := 0, ticks := 0 }
    next := 0
    pending := []
    history := [] }

def note (condition : Nat) (deed : Deed) (creature : Creature) : Creature :=
  { creature with history := creature.history ++ [.deed condition deed] }

def use (condition : Nat) (creature : Creature) : Creature :=
  creature.note condition .used

def write (condition : Nat) (object : Object) (creature : Creature) : Creature :=
  { creature with object := Function.update creature.object condition object }

/-- `new` of the caller. -/
def make (object : Object) (creature : Creature) : Creature :=
  { creature with
    object := Function.update creature.object creature.next object
    next := creature.next + 1
    pending := creature.next :: creature.pending }

/-- `conditions.push_back` after the start has succeeded. -/
def pushBack (condition : Nat) (creature : Creature) : Creature :=
  { creature with
    conditions := creature.conditions ++ [condition]
    pending := creature.pending.tail
    history :=
      creature.history ++
        [.deed condition .accepted, .holding (creature.conditions ++ [condition])] }

/-- `delete` of a condition which is merged or refused. -/
def discard (condition : Nat) (deed : Deed) (creature : Creature) : Creature :=
  { creature with
    pending := creature.pending.tail
    history := creature.history ++ [.deed condition deed, .deed condition .deleted] }

/-- `erase`, `endCondition`, `delete` and `onEndCondition`; some callers read the type
for `onEndCondition` again before the `delete`. -/
def finish (condition : Nat) (again : Bool) (creature : Creature) : Creature :=
  { creature with
    conditions := creature.conditions.erase condition
    history :=
      creature.history ++
        ([.holding (creature.conditions.erase condition), .deed condition .ended] ++
          (if again then [.deed condition .used] else []) ++ [.deed condition .deleted]) }

/-- The conditions which a search reads: all up to the first which is found. -/
def looked (test : Object → Bool) (creature : Creature) : List Nat :=
  creature.conditions.takeWhile (fun condition => !test (creature.object condition)) ++
    (creature.conditions.find? fun condition => test (creature.object condition)).toList

def look (test : Object → Bool) (creature : Creature) : Creature :=
  (creature.looked test).foldl (fun creature condition => creature.use condition) creature

def getCondition (type id : UInt32) (creature : Creature) : Option Nat :=
  creature.conditions.find? fun condition => (creature.object condition).key == (type, id)

def runs (now : Int) (type : UInt32) (object : Object) : Bool :=
  object.conditionType == type && (object.endTime == 0 || now ≤ object.endTime)

def hasCondition (scene : Scene) (type : UInt32) (creature : Creature) : Bool :=
  !scene.isSuppress type &&
    creature.conditions.any fun condition => runs scene.now type (creature.object condition)

def removeWhere (test : Object → Bool) (again : Bool) (creature : Creature) : Creature :=
  creature.conditions.foldl
    (fun creature condition =>
      let read := creature.use condition
      if test (read.object condition) then read.finish condition again else read)
    creature

/-- `removeCondition` by type. -/
def removeConditionType (type : UInt32) (creature : Creature) : Creature :=
  creature.removeWhere (fun object => object.conditionType == type) false

/-- `removeCondition` by type and id. -/
def removeConditionTypeId (type id : UInt32) (creature : Creature) : Creature :=
  creature.removeWhere (fun object => object.key == (type, id)) false

/-- `removeCondition` by pointer. -/
def removeCondition (condition : Nat) (creature : Creature) : Creature :=
  if condition ∈ creature.conditions then creature.finish condition true else creature

/-- `Player::die`, as far as it ends conditions. -/
def die (creature : Creature) : Creature :=
  match creature.kind with
  | .player => creature.removeWhere Object.isPersistent true
  | .monster | .npc => creature

/-! ## Starting and executing -/

section Reaction

variable (build : Build) (react : Effect → Creature → Creature)

def reactAll (effects : List Effect) (creature : Creature) : Creature :=
  effects.foldl (fun creature effect => react effect creature) creature

/-- `ConditionDamage::doDamage`. -/
def doDamage (scene : Scene) (type : UInt32) (damage : Int32) (creature : Creature) :
  Bool × Creature :=
  if scene.isSuppress type then (true, creature)
  else
    let blow := scene.blow damage
    let met := reactAll react blow.blockEffects creature
    if blow.blocked then (false, met)
    else (blow.changed, reactAll react blow.healthEffects met)

def startCondition (scene : Scene) (condition : Nat) (creature : Creature) : Bool × Creature :=
  let read := creature.use condition
  let timed := (read.object condition).startTime scene.now
  match timed.kind build with
  | .damage =>
    let (ready, started) := timed.init scene
    if ready then
      if started.damage.delayed then (true, read.write condition started)
      else
        match started.getNextDamage with
        | (none, next) => (true, read.write condition next)
        | (some damage, next) =>
          doDamage react scene next.conditionType damage (read.write condition next)
    else (false, read.write condition started)
  | _ => (true, read.write condition timed)

def executeCondition (scene : Scene) (interval : Int32) (condition : Nat) (creature : Creature) :
  Bool × Creature :=
  let read := creature.use condition
  let object := read.object condition
  match object.kind build with
  | .damage =>
    let (damage, removes, ticked) := object.tick scene interval
    let hit :=
      match damage with
      | none => read.write condition ticked
      | some damage =>
        (doDamage react scene object.conditionType damage
          (read.write condition ticked)).2.use condition
    let (goesOn, executed) := (hit.object condition).afterTick scene interval removes
    (goesOn, hit.write condition executed)
  | _ =>
    let (goesOn, executed) := object.executeTime scene.now interval
    (goesOn, read.write condition executed)

/-- `addCondition` of a listed condition, with the one which is merged into it. -/
def mergeCondition (scene : Scene) (condition added : Nat) (creature : Creature) : Creature :=
  let read := (creature.use condition).use added
  let object := read.object condition
  let other := read.object added
  match object.kind build with
  | .damage =>
    if other.conditionType = object.conditionType ∧ object.updateDamage other then
      match object.takeDamage scene other with
      | (none, taken) => read.write condition taken
      | (some damage, taken) =>
        (doDamage react scene object.conditionType damage (read.write condition taken)).2
    else read
  | .speed =>
    if object.conditionType ≠ other.conditionType then read
    else if object.ticks = -1 ∧ 0 < other.ticks then read
    else read.write condition (object.setTicks scene.now other.ticks)
  | .attributes =>
    if object.updateCondition scene.now other then
      (read.write condition (object.setTicks scene.now other.ticks)).note condition .renewed
    else read
  | _ =>
    if object.updateCondition scene.now other then
      read.write condition (object.setTicks scene.now other.ticks)
    else read

/-- Monsters do not hand the call on to `Creature::onAddCondition`. -/
def onAddCondition (scene : Scene) (type : UInt32) (creature : Creature) : Creature :=
  let removeIfPresent (other : UInt32) : Creature :=
    if scene.isSuppress other then creature
    else
      let read := creature.look (runs scene.now other)
      if creature.hasCondition scene other then read.removeConditionType other else read
  match creature.kind with
  | .monster => creature
  | .player | .npc =>
    if type = conditionParalyze then removeIfPresent conditionHaste
    else if type = conditionHaste then removeIfPresent conditionParalyze
    else creature

/-- `addCondition`; a null pointer is refused. -/
def addConditionWith (scene : Scene) (condition : Option Object) (creature : Creature) :
  Bool × Creature :=
  match condition with
  | none => (false, creature)
  | some object =>
    let added := creature.next
    let read := ((creature.make object).use added).look fun other => other.key == object.key
    match creature.getCondition object.conditionType object.id with
    | some previous =>
      (true, (mergeCondition build react scene previous added read).discard added .merged)
    | none =>
      match startCondition build react scene added read with
      | (true, started) =>
        let pushed := (started.pushBack added).use added
        (true, pushed.onAddCondition scene object.conditionType)
      | (false, failed) => (false, failed.discard added .refused)

end Reaction

section Operations

variable (build : Build)

/-- `addCondition` of a condition which deals no damage. -/
def addPlain (now : Int) (id type : UInt32) (ticks : Int32) (creature : Creature) : Creature :=
  (addConditionWith build (fun _ creature => creature) { now := now }
    (Object.createCondition build id type ticks) creature).2

def equipItem (slot : UInt32) (abilities : Abilities) (now : Int) (creature : Creature) :
  Creature :=
  let first :=
    if abilities.invisible then
      creature.addPlain build now slot conditionInvisible (-1)
    else creature
  let second :=
    if abilities.manaShield then first.addPlain build now slot conditionManaShield (-1)
    else first
  if abilities.regeneration then
    second.addPlain build now slot conditionRegeneration (-1)
  else second

def deEquipItem (slot : UInt32) (abilities : Abilities) (creature : Creature) : Creature :=
  let first :=
    if abilities.invisible then creature.removeConditionTypeId conditionInvisible slot
    else creature
  let second :=
    if abilities.manaShield then first.removeConditionTypeId conditionManaShield slot
    else first
  if abilities.regeneration then
    second.removeConditionTypeId conditionRegeneration slot
  else second

/-- `Monster::drainHealth`; no condition of a monster is suppressed. -/
def drainHealth (now : Int) (creature : Creature) : Creature :=
  let read := creature.look (runs now conditionInvisible)
  if creature.hasCondition { now := now } conditionInvisible then
    read.removeConditionType conditionInvisible
  else read

def affect (effect : Effect) (creature : Creature) : Creature :=
  match creature.kind, effect with
  | .player, .addInFightTicks ticks now =>
    creature.addPlain build now conditionIdDefault conditionInFight ticks
  | .player, .equipItem slot abilities now => creature.equipItem build slot abilities now
  | .player, .deEquipItem slot abilities => creature.deEquipItem slot abilities
  | .monster, .drainHealth now => creature.drainHealth now
  | _, _ => creature

def affectAll (effects : List Effect) (creature : Creature) : Creature :=
  reactAll (affect build) effects creature

def addCondition (scene : Scene) (condition : Option Object) (creature : Creature) :
  Bool × Creature :=
  addConditionWith build (affect build) scene condition creature

def behind (condition : Nat) (creature : Creature) : Option Nat :=
  (creature.conditions.dropWhile (· ≠ condition)).tail.head?

/-- The loop of `executeConditions` from where its iterator stands, one turn for each
answer, with the place where the iterator has come to. -/
def executeFrom (interval : Int32) : List Scene → Option Nat → Creature → Option Nat × Creature
  | [], place, creature => (place, creature)
  | _ :: _, none, creature => (none, creature)
  | scene :: scenes, some condition, creature =>
    match executeCondition build (affect build) scene interval condition creature with
    | (true, executed) =>
      executeFrom interval scenes (executed.behind condition) executed
    | (false, executed) =>
      let read := executed.use condition
      executeFrom interval scenes (read.behind condition) (read.finish condition false)

def executeConditions (interval : Int32) (scenes : List Scene) (creature : Creature) : Creature :=
  (executeFrom build interval scenes creature.conditions.head? creature).2

/-- What dispelling one condition depends on: whether the world is pvp enforced, has an
item in the slot and destroys it, with what that does, and whether the player may act
or how long not. -/
structure Dispel where
  destroyed : Option (List Effect) := none
  canDoAction : Bool := true
  delay : Int32 := 0
  now : Int := 0
deriving DecidableEq, Repr

/-- `SLOT_FIRST` to before `SLOT_LAST`. -/
def isSlot (id : UInt32) : Bool := 1 ≤ id && id < 11

def onCombatRemoveCondition (dispel : Dispel) (condition : Nat) (creature : Creature) : Creature :=
  match creature.kind with
  | .player =>
    let read := creature.use condition
    let object := read.object condition
    if object.id ≠ 0 then
      if isSlot object.id then
        match dispel.destroyed with
        | none => read
        | some effects => read.affectAll build effects
      else read
    else if dispel.canDoAction then read.removeCondition condition
    else read.write condition (object.setTicks dispel.now dispel.delay)
  | .monster | .npc => creature.removeCondition condition

/-- The loop of `removeCondition` by attacker over the copied list. -/
def dispelAll (dispels : Nat → Dispel) (type : UInt32) : List Nat → Creature → Creature
  | [], creature => creature
  | condition :: rest, creature =>
    let read := creature.use condition
    if (read.object condition).conditionType = type then
      dispelAll dispels type rest
        (read.onCombatRemoveCondition build (dispels condition) condition)
    else dispelAll dispels type rest read

/-- `removeCondition` by attacker and type. -/
def removeConditionBy (dispels : Nat → Dispel) (type : UInt32) (creature : Creature) : Creature :=
  dispelAll build dispels type creature.conditions creature

end Operations

inductive Operation
  | addCondition (scene : Scene) (condition : Option Object)
  | removeConditionType (type : UInt32)
  | removeConditionTypeId (type id : UInt32)
  | removeConditionBy (dispels : Nat → Dispel) (type : UInt32)
  | removeCondition (condition : Nat)
  | executeConditions (interval : Int32) (scenes : List Scene)
  | die

def perform (build : Build) (creature : Creature) : Operation → Creature
  | .addCondition scene condition => (creature.addCondition build scene condition).2
  | .removeConditionType type => creature.removeConditionType type
  | .removeConditionTypeId type id => creature.removeConditionTypeId type id
  | .removeConditionBy dispels type => creature.removeConditionBy build dispels type
  | .removeCondition condition => creature.removeCondition condition
  | .executeConditions interval scenes =>
    creature.executeConditions build interval scenes
  | .die => creature.die

def run (build : Build) (creature : Creature) (operations : List Operation) : Creature :=
  operations.foldl (perform build) creature

end Creature

end OTServ.Conditions
