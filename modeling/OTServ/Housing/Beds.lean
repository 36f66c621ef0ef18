import OTServ.Map.Position

/-!
# Beds

A bed consists of two items, its halves, each of which finds the other one by
its direction.  The player who sleeps in a bed is kept in both halves, and a map
from sleepers to beds is kept besides.  Beds know sleepers by their number in
the database, while the game knows its players by a number of the run.
-/

namespace OTServ.Beds

open Map
open Function

structure Condition where
  type : Nat
  id : Int
  ticks : Int
deriving DecidableEq

/-- `CONDITION_REGENERATION` -/
def conditionRegeneration : Nat := 2 ^ 13

/-- `CONDITIONID_DEFAULT` -/
def conditionIdDefault : Int := -1

/-- `CONDITIONID_COMBAT` -/
def conditionIdCombat : Int := 0

/-- `Condition::isPersistent` -/
def Condition.isPersistent (condition : Condition) : Bool :=
  condition.ticks ≠ -1 && (condition.id = conditionIdDefault || condition.id = conditionIdCombat)

structure Vitals where
  conditions : List Condition
  health : Int
  maxHealth : Int
  mana : Int
  maxMana : Int
deriving DecidableEq

namespace Vitals

variable (vitals : Vitals)

/-- `getCondition(CONDITION_REGENERATION, CONDITIONID_DEFAULT)` -/
def food : Option Condition :=
  vitals.conditions.find? fun condition =>
    condition.type = conditionRegeneration && condition.id = conditionIdDefault

/-- `Creature::changeHealth` and `Creature::changeMana` of a value. -/
def change (value max amount : Int) : Int :=
  if 0 < amount then value + min amount (max - value)
  else Max.max 0 (value + amount)

def refresh (regen : Int) : Vitals :=
  { vitals with
    health := change vitals.health vitals.maxHealth regen
    mana := change vitals.mana vitals.maxMana regen }

def digest (condition : Condition) (newRegenTicks : Int) : Vitals :=
  if newRegenTicks ≤ 0 then
    { vitals with conditions := vitals.conditions.erase condition }
  else
    { vitals with
      conditions := vitals.conditions.replace condition { condition with ticks := newRegenTicks } }

/-- `BedItem::regeneratePlayer` -/
def regeneratePlayer (sleptTime : Int) : Vitals :=
  match vitals.food with
  | none => vitals
  | some condition =>
    if condition.ticks ≠ -1 then
      let regen := (min (condition.ticks.tdiv 1000) sleptTime).tdiv 30
      (vitals.digest condition (condition.ticks - regen * 30000)).refresh regen
    else vitals.refresh (sleptTime.tdiv 30)

end Vitals

structure Player where
  guid : Nat
  vitals : Vitals
deriving DecidableEq

/--
What the database answers at the time, for each player: whether the name is
found, the player is loaded, and the row of the player is written.  `revive` is
what `preSave` makes of the dead.
-/
structure Database where
  getNameByGuid : Nat → Bool
  loadPlayer : Nat → Bool
  savePlayer : Nat → Bool
  revive : Vitals → Vitals

/-- The row that `IOPlayer::savePlayer` writes. -/
def Database.row (database : Database) (vitals : Vitals) : Vitals :=
  let living := if vitals.health ≤ 0 then database.revive vitals else vitals
  { living with conditions := living.conditions.filter (·.isPersistent) }

/-- `Direction`, as far as beds have one. -/
inductive Direction where
  | north
  | south
  | east
  | west
  | other
deriving DecidableEq

/--
What stays as it is: the beds with their places, directions and houses, the
first bed on each tile, and the beds of each house.
-/
structure Rooms (Bed : Type) where
  position : Bed → Position
  bedPartnerDir : Bed → Direction
  getBedItem : Position → Option Bed
  house : Bed → Option Nat
  bedsList : Nat → List Bed

variable {Bed : Type}

namespace Rooms

variable (rooms : Rooms Bed)

/-- `BedItem::getNextBedItem` -/
def getNextBedItem (bed : Bed) : Option Bed :=
  let targetPos := rooms.position bed
  rooms.getBedItem <|
    match rooms.bedPartnerDir bed with
    | .north => { targetPos with y := targetPos.y - 1 }
    | .south => { targetPos with y := targetPos.y + 1 }
    | .east => { targetPos with x := targetPos.x + 1 }
    | .west => { targetPos with x := targetPos.x - 1 }
    | .other => targetPos

def Facing : Prop :=
  ∀ bed, ∃ next, rooms.getNextBedItem bed = some next ∧ rooms.getNextBedItem next = some bed

end Rooms

/--
The sleeper of each half and the time since when, the map of the sleepers, the
players in the game by their number, the rows of all players, and the owners of
the houses.
-/
structure State (Bed : Type) where
  sleeper : Bed → Nat
  sleepStart : Bed → Int
  bedSleepers : Nat → Option Bed
  online : Nat → Option Player
  stored : Nat → Vitals
  isLoaded : Nat → Bool
  houseOwner : Nat → Nat

namespace State

variable [DecidableEq Bed] (rooms : Rooms Bed) (database : Database) (now : Int)
  (state : State Bed)

/-! ## Beds -/

/-- `BedItem::internalSetSleeper` -/
def internalSetSleeper (bed : Bed) (guid : Nat) : State Bed :=
  { state with
    sleeper := update state.sleeper bed guid
    sleepStart := update state.sleepStart bed now }

/-- `BedItem::internalRemoveSleeper` -/
def internalRemoveSleeper (bed : Bed) : State Bed :=
  { state with
    sleeper := update state.sleeper bed 0
    sleepStart := update state.sleepStart bed 0 }

/-- `Beds::setBedSleeper` -/
def setBedSleeper (bed : Option Bed) (guid : Nat) : State Bed :=
  { state with bedSleepers := update state.bedSleepers guid bed }

/-- `Game::getPlayerByID` -/
def getPlayerByID (id : Nat) : Option Nat :=
  if id = 0 then none else (state.online id).map fun _ => id

def rest (id : Nat) (sleptTime : Int) : State Bed :=
  { state with
    online :=
      update state.online id
        ((state.online id).map fun player =>
          { player with vitals := player.vitals.regeneratePlayer sleptTime }) }

/--
A copy of the player is loaded, rests, and is saved.  Its conditions stay where
`loadPlayer` puts them, and are not among those it has and is saved with.
-/
def restStored (guid : Nat) (sleptTime : Int) : State Bed :=
  if database.getNameByGuid guid && database.loadPlayer guid then
    let loaded := { state.stored guid with conditions := [] }
    if database.savePlayer guid then
      { state with
        stored := update state.stored guid (database.row (loaded.regeneratePlayer sleptTime)) }
    else state
  else state

/-- The sleeper of a bed rests, as the player that is given if one is. -/
def restSleeper (bed : Bed) (player : Option Nat) : State Bed :=
  let sleptTime := now - state.sleepStart bed
  if state.sleeper bed ≠ 0 then
    match player with
    | none => state.restStored database (state.sleeper bed) sleptTime
    | some id => state.rest id sleptTime
  else state

def vacate (bed : Bed) : State Bed :=
  let removed := (state.setBedSleeper none (state.sleeper bed)).internalRemoveSleeper bed
  match rooms.getNextBedItem bed with
  | some next => removed.internalRemoveSleeper next
  | none => removed

/-- `BedItem::wakeUp` -/
def wakeUp (bed : Bed) (player : Option Nat) : State Bed :=
  if (rooms.house bed).isNone then state
  else (state.restSleeper database now bed player).vacate rooms bed

/-- A player is entered as the sleeper of a bed and of its partner. -/
def occupy (bed : Bed) (guid : Nat) : State Bed :=
  let set := state.internalSetSleeper now bed guid
  let both :=
    match rooms.getNextBedItem bed with
    | some next => set.internalSetSleeper now next guid
    | none => set
  both.setBedSleeper (some bed) guid

/-- `BedItem::sleep` -/
def sleep (bed : Bed) (id : Nat) : State Bed :=
  match rooms.house bed, state.online id with
  | some _, some player =>
    if state.sleeper bed ≠ 0 then
      state.wakeUp rooms database now bed (state.getPlayerByID (state.sleeper bed))
    else state.occupy rooms now bed player.guid
  | _, _ => state

inductive Attribute where
  | sleeperGuid (guid : Nat)
  | sleepStart (start : Int)
deriving DecidableEq

/-- `BedItem::readAttr` for one of them. -/
def readAttr (bed : Bed) : Attribute → State Bed
  | .sleeperGuid guid =>
    let known :=
      if guid ≠ 0 && database.getNameByGuid guid then
        state.setBedSleeper (some bed) guid
      else state
    { known with sleeper := update known.sleeper bed guid }
  | .sleepStart start =>
    { state with sleepStart := update state.sleepStart bed start }

def load (attributes : List (Bed × Attribute)) : State Bed :=
  attributes.foldl (fun state entry => state.readAttr database entry.1 entry.2) state

def enter (id guid : Nat) : State Bed :=
  { state with
    online := update state.online id (some { guid := guid, vitals := state.stored guid }) }

/-- A player comes into the game, with `Player::onCreatureAppear`. -/
def login (id guid : Nat) : State Bed :=
  let entered := state.enter id guid
  match entered.bedSleepers guid with
  | some bed => entered.wakeUp rooms database now bed (some id)
  | none => entered

def logout (id : Nat) : State Bed :=
  match state.online id with
  | some player =>
    { state with
      online := update state.online id none
      stored :=
        if database.savePlayer player.guid then
          update state.stored player.guid (database.row player.vitals)
        else state.stored }
  | none => state

def live (id : Nat) (vitals : Vitals) : State Bed :=
  { state with
    online :=
      update state.online id
        ((state.online id).map fun player => { player with vitals := vitals }) }

/-- The loop over the beds in `House::setHouseOwner` and `House::cleanHouse`. -/
def wakeBeds (beds : List Bed) : State Bed :=
  beds.foldl
    (fun state bed =>
      if state.sleeper bed ≠ 0 then
        state.wakeUp rooms database now bed none
      else state)
    state

def setOwner (house guid : Nat) : State Bed :=
  { state with houseOwner := update state.houseOwner house guid }

/-- `House::setHouseOwner`, as far as it is about beds. -/
def setHouseOwner (house guid : Nat) : State Bed :=
  if state.isLoaded house && state.houseOwner house = guid then state
  else
    let loaded := { state with isLoaded := update state.isLoaded house true }
    let left :=
      if loaded.houseOwner house ≠ 0 then
        (loaded.wakeBeds rooms database now (rooms.bedsList house)).setOwner house 0
      else loaded
    if guid ≠ 0 && database.getNameByGuid guid then left.setOwner house guid
    else left

inductive Event (Bed : Type) where
  | sleep (bed : Bed) (id : Nat)
  | wakeUp (bed : Bed) (player : Option Nat)
  | login (id guid : Nat)
  | logout (id : Nat)
  | live (id : Nat) (vitals : Vitals)
  | setHouseOwner (house guid : Nat)
  | cleanHouse (house : Nat)
  | load (attributes : List (Bed × Attribute))

def perform : Event Bed → Option (State Bed)
  | .sleep bed id => some (state.sleep rooms database now bed id)
  | .wakeUp bed player => some (state.wakeUp rooms database now bed player)
  | .login id guid =>
    if (state.online id).isNone && database.loadPlayer guid then
      some (state.login rooms database now id guid)
    else none
  | .logout id => some (state.logout database id)
  | .live id vitals => some (state.live id vitals)
  | .setHouseOwner house guid =>
    some (state.setHouseOwner rooms database now house guid)
  | .cleanHouse house =>
    some (state.wakeBeds rooms database now (rooms.bedsList house))
  | .load attributes => some (state.load database attributes)

end State

end OTServ.Beds
