import OTServ.Library.GuardedRuns
import Mathlib.Data.List.Count
import Mathlib.Data.List.Nodup
import Mathlib.Data.List.Range

/-!
# Spawns

A spawn has slots for monsters.  `checkSpawn` looks which of its monsters have
been removed or have left the zone, fills the slots that are empty and schedules
the next check.  Monsters that have left the zone are kept under the id 0.

Each monster in `spawnedMap` has a reference of the spawn; how many references
have been taken and released is counted.
-/

namespace OTServ.Monsters.Spawns

open Library.GuardedRuns
open Function

/-- `spawnBlock_t`, with its id -/
structure SpawnBlock where
  spawnId : Nat
  interval : Nat
  lastSpawn : Int
deriving DecidableEq

/--
`Spawn`, with what it needs of its monsters: whether they have been removed, and
whether they have the spawn as theirs.  `spawnedMap` is in no particular order.
-/
structure Spawn where
  spawnMap : List SpawnBlock
  spawnedMap : List (Nat × Nat)
  checkSpawnEvent : Bool
  started : Bool
  isRemoved : Nat → Bool
  hasSpawn : Nat → Bool
  nextMonster : Nat
  used : Nat → Nat
  released : Nat → Nat

/--
What the map and the clock have to say.  Whether a monster can be created and
placed is asked for the slot.
-/
structure Scene where
  now : Int
  isInSpawnZone : Nat → Bool
  findPlayer : Nat → Bool
  placeCreature : Nat → Bool
  rateSpawn : Nat

namespace Spawn

variable (spawn : Spawn)

def ids : List Nat := spawn.spawnMap.map (·.spawnId)

def empty : Spawn where
  spawnMap := []
  spawnedMap := []
  checkSpawnEvent := false
  started := false
  isRemoved _ := false
  hasSpawn _ := false
  nextMonster := 0
  used _ := 0
  released _ := 0

/-- `Spawn::addMonster` -/
def addMonster (interval : Nat) : Spawn :=
  { spawn with
    spawnMap := spawn.spawnMap ++ [⟨spawn.spawnMap.length + 1, interval, 0⟩] }

/-- A spawn as it has been read, with the intervals of its slots. -/
def load (intervals : List Nat) : Spawn := intervals.foldl addMonster empty

/-! ## Checks -/

/-- `Spawn::startSpawnCheck` -/
def startSpawnCheck : Spawn := { spawn with checkSpawnEvent := true }

/-- `spawnMap[spawnId].lastSpawn = OTSYS_TIME()` -/
def setLastSpawn (spawnId : Nat) (now : Int) : Spawn :=
  { spawn with
    spawnMap :=
      spawn.spawnMap.map fun block =>
        if block.spawnId = spawnId then { block with lastSpawn := now }
        else block }

/-- `Spawn::spawnMonster` -/
def spawnMonster (scene : Scene) (spawnId : Nat) : Spawn :=
  if scene.placeCreature spawnId then
    let monster := spawn.nextMonster
    { spawn with
      spawnedMap := (spawnId, monster) :: spawn.spawnedMap
      hasSpawn := update spawn.hasSpawn monster true
      used := update spawn.used monster (spawn.used monster + 1)
      nextMonster := monster + 1 }.setLastSpawn spawnId scene.now
  else spawn

/-- `Spawn::startup`, from `Spawns::startup` -/
def startup (scene : Scene) : Spawn :=
  { spawn.ids.foldl (fun spawn spawnId => spawn.spawnMonster scene spawnId)
      spawn with
    started := true }

/-- What becomes of an entry in the first loop of `checkSpawn`. -/
def fate (scene : Scene) (entry : Nat × Nat) : Option (Nat × Nat) :=
  if spawn.isRemoved entry.2 then none
  else if !scene.isInSpawnZone entry.2 && entry.1 != 0 then some (0, entry.2)
  else some entry

def hasLost (spawnId : Nat) : Bool :=
  spawnId != 0 && spawn.spawnedMap.any fun entry => entry.1 = spawnId && spawn.isRemoved entry.2

def refresh (scene : Scene) (block : SpawnBlock) : SpawnBlock :=
  if spawn.hasLost block.spawnId then { block with lastSpawn := scene.now }
  else block

/-- The first loop of `Spawn::checkSpawn` -/
def sweep (scene : Scene) : Spawn :=
  { spawn with
    spawnedMap := spawn.spawnedMap.filterMap (spawn.fate scene)
    spawnMap := spawn.spawnMap.map (spawn.refresh scene)
    released := fun monster =>
      spawn.released monster +
        ((spawn.spawnedMap.filter fun entry => spawn.isRemoved entry.2).map (·.2)).count monster }

/-- `spawnedMap.count(spawnId) == 0` -/
def isVacant (spawnId : Nat) : Bool :=
  !spawn.spawnedMap.any fun entry => entry.1 = spawnId

def isDue (scene : Scene) (block : SpawnBlock) : Bool :=
  block.lastSpawn + block.interval ≤ scene.now

/-- The second loop of `Spawn::checkSpawn`, over the slots that are left. -/
def respawn (scene : Scene) : List SpawnBlock → Nat → Spawn → Spawn
  | [], _, spawn => spawn
  | block :: rest, spawnCount, spawn =>
    if spawn.isVacant block.spawnId && isDue scene block then
      if scene.findPlayer block.spawnId then
        respawn scene rest spawnCount (spawn.setLastSpawn block.spawnId scene.now)
      else
        let spawned := spawn.spawnMonster scene block.spawnId
        if scene.rateSpawn ≤ spawnCount + 1 then spawned
        else respawn scene rest (spawnCount + 1) spawned
    else respawn scene rest spawnCount spawn

/-- `Spawn::checkSpawn` -/
def checkSpawn (scene : Scene) : Spawn :=
  let swept := spawn.sweep scene
  let filled := respawn scene swept.spawnMap 0 swept
  { filled with
    checkSpawnEvent := filled.spawnedMap.length < filled.spawnMap.length }

/-- `Spawn::removeMonster` -/
def removeMonster (monster : Nat) : Spawn :=
  match spawn.spawnedMap.find? fun entry => entry.2 = monster with
  | none => spawn
  | some entry =>
    { spawn with
      spawnedMap := spawn.spawnedMap.erase entry
      released := update spawn.released monster (spawn.released monster + 1) }

/-- A monster is removed, and `Monster::onCreatureDisappear` is told. -/
def disappear (monster : Nat) : Spawn :=
  let gone := { spawn with isRemoved := update spawn.isRemoved monster true }
  if spawn.hasSpawn monster then gone.startSpawnCheck else gone

/-- `Monster::convinceCreature`, as far as the spawn is concerned -/
def convince (monster : Nat) : Spawn :=
  if spawn.hasSpawn monster then
    { spawn.removeMonster monster with
      hasSpawn := update spawn.hasSpawn monster false }
  else spawn

end Spawn

inductive Event where
  | startup (scene : Scene)
  | check (scene : Scene)
  | disappear (monster : Nat)
  | convince (monster : Nat)

def Spawn.isAlive (spawn : Spawn) (monster : Nat) : Prop :=
  monster < spawn.nextMonster ∧ spawn.isRemoved monster = false

/-- Checks happen when they have been scheduled, and the startup once. -/
def step (spawn : Spawn) (event : Event) (next : Spawn) : Prop :=
  match event with
  | .startup scene => spawn.started = false ∧ next = spawn.startup scene
  | .check scene =>
    spawn.checkSpawnEvent = true ∧ next = spawn.checkSpawn scene
  | .disappear monster =>
    spawn.isAlive monster ∧ next = spawn.disappear monster
  | .convince monster =>
    spawn.isAlive monster ∧ next = spawn.convince monster

namespace Spawn

variable (spawn : Spawn) (scene : Scene)

def keeps (spawnId : Nat) : Bool :=
  spawn.spawnedMap.any fun entry =>
    entry.1 = spawnId && !spawn.isRemoved entry.2 && scene.isInSpawnZone entry.2

/-- The slots for which a monster is created, as many as the rate allows. -/
def tried : List Nat :=
  (((spawn.spawnMap.map (spawn.refresh scene)).filter fun block =>
      !spawn.keeps scene block.spawnId && isDue scene block &&
        !scene.findPlayer block.spawnId).map (·.spawnId)).take
    (max 1 scene.rateSpawn)

def leftEmpty : List Nat :=
  spawn.ids.filter fun spawnId =>
    !spawn.keeps scene spawnId && !(spawnId ∈ spawn.tried scene && scene.placeCreature spawnId)

/-- The number of monsters in the game that are outside the zone, or have been. -/
def strays : Nat :=
  spawn.spawnedMap.countP fun entry =>
    !spawn.isRemoved entry.2 && (entry.1 = 0 || !scene.isInSpawnZone entry.2)

end Spawn

/--
All monsters of the startup can be placed; a check that leaves slots empty
leaves more of them than there are strays; and the monster of a slot is convinced
only when a check is pending.
-/
def IsSafe (spawn : Spawn) : Event → Prop
  | .startup scene => ∀ spawnId ∈ spawn.ids, scene.placeCreature spawnId
  | .check scene =>
    spawn.leftEmpty scene = [] ∨ spawn.strays scene < (spawn.leftEmpty scene).length
  | .disappear _ => True
  | .convince monster =>
    spawn.checkSpawnEvent = true ∨ ∀ entry ∈ spawn.spawnedMap, entry.2 = monster → entry.1 = 0

end OTServ.Monsters.Spawns
