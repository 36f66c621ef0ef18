import OTServ.Library.Ledger
import Mathlib.Data.BitVec

/-!
# Equipment

`MoveEvent::EquipItem` and `MoveEvent::DeEquipItem` give a player the abilities
of an item and take them back, guarded by one boolean a slot.  Both work from
the type which the item has at the moment, and a percentage of a stat is taken
of the player's default stat at the moment.

Items may turn into others when they are put on or taken off, and this again
tells the events, so the functions call each other and take fuel.
-/

namespace OTServ.Movement.Equipment

open Function

inductive Slot where
  | head
  | necklace
  | backpack
  | armor
  | right
  | left
  | legs
  | feet
  | ring
  | ammo
deriving DecidableEq

instance : Fintype Slot where
  elems := {.head, .necklace, .backpack, .armor, .right, .left, .legs, .feet, .ring, .ammo}
  complete slot := by cases slot <;> simp

/-- `skills_t` -/
inductive Skill where
  | fist
  | club
  | sword
  | axe
  | dist
  | shield
  | fish
deriving DecidableEq

/-- `stats_t` -/
inductive Stat where
  | maxHitPoints
  | maxManaPoints
  | magicPoints
deriving DecidableEq

/-- The conditions which items give, kept under the slot of the item. -/
inductive ConditionType where
  | invisible
  | manaShield
  | regeneration
deriving DecidableEq

/-- The parameters of a condition; all are 0 except for regeneration. -/
structure Condition where
  healthGain : Nat
  healthTicks : Nat
  manaGain : Nat
  manaTicks : Nat
deriving DecidableEq

/-- The part of `Abilities` which equipping looks at. -/
structure Abilities where
  skills : Skill → Int
  stats : Stat → Int
  statsPercent : Stat → Int
  speed : Int
  manaShield : Bool
  invisible : Bool
  regeneration : Bool
  healthGain : Nat
  healthTicks : Nat
  manaGain : Nat
  manaTicks : Nat
  conditionSuppressions : BitVec 32

/-- The part of `ItemType` which equipping looks at. -/
structure ItemType where
  abilities : Abilities
  transformEquipTo : Nat
  transformDeEquipTo : Nat
  type : Nat
  alwaysOnTop : Bool

structure MoveEvent where
  slot : Slot → Bool
  wieldInfo : Nat
  reqLevel : Int
  reqMagLevel : Int
  premium : Bool
  vocEquipMap : List Nat

/--
The item types, the equip and de-equip events of each type, and what the code
computes as the given percentage of a stat above the whole of it, in floating
point.  `landing` is the slot, if any, in which `internalAddItem` puts a new item
of a type.
-/
structure Catalogue where
  items : Nat → ItemType
  equipEvents : Nat → List MoveEvent
  deEquipEvents : Nat → List MoveEvent
  percentOf : Int → Int → Int
  landing : (Slot → Option Nat) → Nat → Option Slot

structure Base where
  level : Int
  healthMax : Int
  manaMax : Int
  magLevel : Int
  vocation : Nat
  isPremium : Bool
  ignoreWeaponCheck : Bool
deriving DecidableEq

structure State where
  base : Base
  inventory : Slot → Option Nat
  inventoryAbilities : Slot → Bool
  varSkills : Skill → Int
  varStats : Stat → Int
  varSpeed : Int
  conditionSuppressions : BitVec 32
  conditions : Slot → ConditionType → Option Condition

def Base.stat (base : Base) : Stat → Int
  | .maxHitPoints => base.healthMax
  | .maxManaPoints => base.manaMax
  | .magicPoints => base.magLevel

def Stat.least : Stat → Int
  | .maxHitPoints => 1
  | .maxManaPoints => 0
  | .magicPoints => 0

/-- `Player::getPlayerInfo` for a stat whose bonus is `bonus`. -/
def Base.info (base : Base) (stat : Stat) (bonus : Int) : Int :=
  max stat.least (base.stat stat + bonus)

/-- `Player::getDefaultStats` -/
def State.getDefaultStats (state : State) (stat : Stat) : Int :=
  state.base.info stat (state.varStats stat) - state.varStats stat

/-- `Player::setVarSkill` -/
def State.setVarSkill (state : State) (skill : Skill) (modifier : Int) : State :=
  { state with
    varSkills := update state.varSkills skill (state.varSkills skill + modifier) }

/-- `Player::setVarStats` -/
def State.setVarStats (state : State) (stat : Stat) (modifier : Int) : State :=
  { state with
    varStats := update state.varStats stat (state.varStats stat + modifier) }

/-- `Game::changeSpeed` -/
def State.changeSpeed (state : State) (varSpeedDelta : Int) : State :=
  { state with varSpeed := state.varSpeed + varSpeedDelta }

/-- `Player::setConditionSuppressions` -/
def State.setConditionSuppressions
  (state : State) (conditions : BitVec 32) (remove : Bool) : State :=
  { state with
    conditionSuppressions :=
      if remove then state.conditionSuppressions &&& ~~~conditions
      else state.conditionSuppressions ||| conditions }

/-- `Player::setItemAbility` -/
def State.setItemAbility (state : State) (slot : Slot) (enabled : Bool) : State :=
  { state with
    inventoryAbilities := update state.inventoryAbilities slot enabled }

/-- The conditions of a player with another one for a slot and a type. -/
def State.setCondition (state : State) (slot : Slot) (type : ConditionType)
  (condition : Option Condition) : State :=
  { state with
    conditions := update state.conditions slot (update (state.conditions slot) type condition) }

/-- The player with an item of the given type, or none, in the slot. -/
def State.setInventory (state : State) (slot : Slot) (item : Option Nat) : State :=
  { state with inventory := update state.inventory slot item }

/-! ## Abilities -/

variable (catalogue : Catalogue)

/-- The skills in the order of the source. -/
def Skill.all : List Skill :=
  [.fist, .club, .sword, .axe, .dist, .shield, .fish]

/-- The stats in the order of the source. -/
def Stat.all : List Stat :=
  [.maxHitPoints, .maxManaPoints, .magicPoints]

/-- The bonus on one stat: first the points, then the percentage. -/
def addStat (abilities : Abilities) (state : State) (stat : Stat) : State :=
  let pointed :=
    if abilities.stats stat ≠ 0 then
      state.setVarStats stat (abilities.stats stat)
    else state
  if abilities.statsPercent stat ≠ 0 then
    pointed.setVarStats stat
      (catalogue.percentOf (pointed.getDefaultStats stat) (abilities.statsPercent stat))
  else pointed

def removeStat (abilities : Abilities) (state : State) (stat : Stat) : State :=
  let pointed :=
    if abilities.stats stat ≠ 0 then
      state.setVarStats stat (-abilities.stats stat)
    else state
  if abilities.statsPercent stat ≠ 0 then
    pointed.setVarStats stat
      (-catalogue.percentOf (pointed.getDefaultStats stat) (abilities.statsPercent stat))
  else pointed

def addSkill (abilities : Abilities) (state : State) (skill : Skill) : State :=
  if abilities.skills skill ≠ 0 then
    state.setVarSkill skill (abilities.skills skill)
  else state

def removeSkill (abilities : Abilities) (state : State) (skill : Skill) : State :=
  if abilities.skills skill ≠ 0 then
    state.setVarSkill skill (-abilities.skills skill)
  else state

def Abilities.condition (abilities : Abilities) : ConditionType → Option Condition
  | .invisible => if abilities.invisible then some ⟨0, 0, 0, 0⟩ else none
  | .manaShield => if abilities.manaShield then some ⟨0, 0, 0, 0⟩ else none
  | .regeneration =>
    if abilities.regeneration then
      some
        { healthGain := abilities.healthGain
          healthTicks := if abilities.healthTicks ≠ 0 then abilities.healthTicks else 1000
          manaGain := abilities.manaGain
          manaTicks := if abilities.manaTicks ≠ 0 then abilities.manaTicks else 1000 }
    else none

/-- `Creature::addCondition` of what the abilities give under a slot. -/
def addItemCondition (abilities : Abilities) (slot : Slot) (state : State) (type : ConditionType) :
  State :=
  match abilities.condition type with
  | some condition => state.setCondition slot type (some condition)
  | none => state

/-- `Creature::removeCondition` of what the abilities have given. -/
def removeItemCondition (abilities : Abilities) (slot : Slot) (state : State)
  (type : ConditionType) : State :=
  match abilities.condition type with
  | some _ => state.setCondition slot type none
  | none => state

/-- The part of `EquipItem` that gives the abilities of a type. -/
def addAbilities (state : State) (slot : Slot) (id : Nat) : State :=
  let abilities := (catalogue.items id).abilities
  let state := addItemCondition abilities slot state .invisible
  let state := addItemCondition abilities slot state .manaShield
  let state := if abilities.speed ≠ 0 then state.changeSpeed abilities.speed else state
  let state :=
    if abilities.conditionSuppressions ≠ 0 then
      state.setConditionSuppressions abilities.conditionSuppressions false
    else state
  let state := addItemCondition abilities slot state .regeneration
  let state := Skill.all.foldl (addSkill abilities) state
  Stat.all.foldl (addStat catalogue abilities) state

/-- The part of `DeEquipItem` that takes the abilities of a type back. -/
def removeAbilities (state : State) (slot : Slot) (id : Nat) : State :=
  let abilities := (catalogue.items id).abilities
  let state := removeItemCondition abilities slot state .invisible
  let state := removeItemCondition abilities slot state .manaShield
  let state := if abilities.speed ≠ 0 then state.changeSpeed (-abilities.speed) else state
  let state :=
    if abilities.conditionSuppressions ≠ 0 then
      state.setConditionSuppressions abilities.conditionSuppressions true
    else state
  let state := removeItemCondition abilities slot state .regeneration
  let state := Skill.all.foldl (removeSkill abilities) state
  Stat.all.foldl (removeStat catalogue abilities) state

/-- `MoveEvents::getEvent` for a slot. -/
def getEvent (events : List MoveEvent) (slot : Slot) : Option MoveEvent :=
  events.find? fun event => event.slot slot

/-- Whether the player meets the requirements of an equip event. -/
def meetsRequirements (state : State) (event : MoveEvent) : Bool :=
  let magicLevel := state.base.info .magicPoints (state.varStats .magicPoints)
  state.base.ignoreWeaponCheck || event.wieldInfo = 0 ||
    event.reqLevel ≤ state.base.level && event.reqMagLevel ≤ magicLevel &&
      (state.base.isPremium || !event.premium) &&
        (event.vocEquipMap.isEmpty || event.vocEquipMap.contains state.base.vocation)

mutual

/-- `MoveEvents::onPlayerEquip` with `EquipItem`, for the item in the slot. -/
def onPlayerEquip : Nat → State → Slot → Option State
  | 0, _, _ => none
  | fuel + 1, state, slot =>
    match state.inventory slot with
    | none => some state
    | some id =>
      match getEvent (catalogue.equipEvents id) slot with
      | none => some state
      | some event =>
        if state.inventoryAbilities slot then some state
        else if !meetsRequirements state event then some state
        else
          let successor := (catalogue.items id).transformEquipTo
          if successor ≠ 0 then
            (transformItem fuel state slot successor).map
              fun transformed =>
                -- the abilities are those of the type before
                addAbilities catalogue transformed slot id
          else
            some (addAbilities catalogue (state.setItemAbility slot true) slot id)

/--
`MoveEvents::onPlayerDeEquip` with `DeEquipItem`, for an item of the given type
which has been in the slot.  `place` is the slot where the item is now.
-/
def onPlayerDeEquip : Nat → State → Slot → Nat → Bool → Option Slot → Option State
  | 0, _, _, _, _, _ => none
  | fuel + 1, state, slot, id, isRemoval, place =>
    match getEvent (catalogue.deEquipEvents id) slot with
    | none => some state
    | some _ =>
      if !state.inventoryAbilities slot then some state
      else
        let disabled := state.setItemAbility slot false
        let successor := (catalogue.items id).transformDeEquipTo
        match (if isRemoval && successor != 0 then place else none) with
        | none => some (removeAbilities catalogue disabled slot id)
        | some other =>
          (transformItem fuel disabled other successor).map
            fun transformed => removeAbilities catalogue transformed slot id

/--
`Game::transformItem` for the item in a slot.  An item that becomes one for the
top of tiles is removed and a new one is added to the player.
-/
def transformItem : Nat → State → Slot → Nat → Option State
  | 0, _, _, _ => none
  | fuel + 1, state, slot, newId =>
    match state.inventory slot with
    | none => some state
    | some id =>
      let curType := catalogue.items id
      let newType := catalogue.items newId
      if id = newId then some state
      else if curType.alwaysOnTop ≠ newType.alwaysOnTop then
        (onPlayerDeEquip fuel (state.setInventory slot none) slot id true
          none).bind fun removed =>
            match catalogue.landing removed.inventory newId with
            | none => some removed
            | some other =>
              onPlayerEquip fuel (removed.setInventory other (some newId)) other
      else if curType.type = newType.type then
        (onPlayerDeEquip fuel state slot id false none).bind fun told =>
          onPlayerEquip fuel (told.setInventory slot (some newId)) slot
      else
        (onPlayerEquip fuel (state.setInventory slot (some newId))
          slot).bind fun told => onPlayerDeEquip fuel told slot id true none

end

/--
What happens to the equipment.  `refresh` is a stack in a slot that takes in
more items, `deEquip` a removal of all or of a part, `shift` a move from slot to
slot; a transformation comes from decay or a script.
-/
inductive Operation where
  | equip (slot : Slot) (id : Nat)
  | refresh (slot : Slot)
  | deEquip (slot : Slot) (complete : Bool)
  | shift (slot target : Slot)
  | transform (slot : Slot) (newId : Nat)
  | setBase (base : Base)
  | dispel (type : ConditionType)

/-- The state after an operation, when it comes to an end within the fuel. -/
def perform (fuel : Nat) (state : State) : Operation → Option State
  | .equip slot id =>
    onPlayerEquip catalogue fuel (state.setInventory slot (some id)) slot
  | .refresh slot => onPlayerEquip catalogue fuel state slot
  | .deEquip slot complete =>
    match state.inventory slot with
    | none => some state
    | some id =>
      if complete then
        onPlayerDeEquip catalogue fuel (state.setInventory slot none) slot id true none
      else onPlayerDeEquip catalogue fuel state slot id false none
  | .shift slot target =>
    match state.inventory slot with
    | none => some state
    | some id =>
      (onPlayerDeEquip catalogue fuel
        ((state.setInventory slot none).setInventory target (some id))
        slot id true (some target)).bind fun told => onPlayerEquip catalogue fuel told target
  | .transform slot newId => transformItem catalogue fuel state slot newId
  | .setBase base => some { state with base := base }
  | .dispel type =>
    some
      { state with
        conditions := fun slot => update (state.conditions slot) type none }

end OTServ.Movement.Equipment
