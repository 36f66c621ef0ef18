import Mathlib.Algebra.Group.Int.Defs
import OTServ.Library.DeferredTasks
import Mathlib.Data.List.Sort

/-!
# Raids

`Raids` holds the raids of the server.  Once a minute `checkRaids` comes round, and
while no raid is running it draws for each raid in turn whether it starts; the
command `forceRaid` starts one by hand.  A raid which has started executes its events
one after the other, each as a task of its own, and resets after the last one or
after one that fails.

The events stand for their delays.  What they do is left to their outcome, and the
time at which the scheduler hands a task over is left open.
-/

namespace OTServ.WorldEvents

open Library

def MAX_RAND_RANGE : Nat := 10000000

def CHECK_RAIDS_INTERVAL : Nat := 60

def RAID_MINTICKS : UInt32 := 1000

inductive RaidState where
  | RAIDSTATE_IDLE
  | RAIDSTATE_EXECUTING
deriving DecidableEq, Repr

/-- A `Raid`; of its events the delays are kept. -/
structure Raid where
  name : String
  raidEvents : List UInt32
  /-- in seconds -/
  interval : Nat
  /-- in milliseconds -/
  margin : Nat
  loaded : Bool
  nextEvent : Nat
  state : RaidState
  nextEventEvent : Nat

/-- The constructor of `Raid`. -/
def Raid.new (name : String) (interval margin : Nat) : Raid where
  name := name
  raidEvents := []
  interval := interval
  margin := margin
  loaded := false
  nextEvent := 0
  state := .RAIDSTATE_IDLE
  nextEventEvent := 0

namespace Raid

def getNextRaidEvent (raid : Raid) : Option Nat :=
  if raid.nextEvent < raid.raidEvents.length then some raid.nextEvent else none

def getDelay (raid : Raid) (raidEvent : Nat) : UInt32 :=
  raid.raidEvents.getD raidEvent 0

/-- `Raid::loadFromXml` with the delays which its file holds. -/
def loadFromXml (raid : Raid) (raidEvents : List UInt32) : Raid :=
  if raid.loaded then raid
  else
    { raid with
      raidEvents := (raid.raidEvents ++ raidEvents).insertionSort (· ≤ ·)
      loaded := true }

end Raid

/-- A `raid` node of the file of raids. -/
structure RaidNode where
  name : Option String
  /-- in minutes -/
  interval2 : Option Int
  /-- in minutes -/
  margin : Option Int
  /-- the delays of the events in the raid's file, if that can be loaded -/
  raidEvents : Option (List UInt32)

/-- An `int` as a number of 32 bits. -/
def toUInt32 (value : Int) : Nat := (value % 2 ^ 32).toNat

def RaidNode.read (node : RaidNode) : Option Raid := do
  let name ← node.name
  let interval2 ← node.interval2
  let raidEvents ← node.raidEvents
  let margin := node.margin.getD 0
  return (Raid.new name (toUInt32 (interval2 * 60)) (toUInt32 (margin * 60 * 1000)))
    |>.loadFromXml raidEvents

/-! ## The raids of the server -/

inductive Job where
  | checkRaids
  /-- the event at this place of this raid, with the time it was to wait -/
  | executeRaidEvent (raid raidEvent : Nat) (ticks : UInt32)
deriving DecidableEq

inductive Deed where
  | started
  | executed (raidEvent : Nat) (succeeded : Bool)
  | reset
deriving DecidableEq

/-- `Raids`, and the raids under their addresses. -/
structure Raids where
  /-- those which have not been deleted, in their order -/
  raidList : List Nat
  raids : Nat → Raid
  /-- the address of the next raid -/
  next : Nat
  loaded : Bool
  started : Bool
  running : Option Nat
  lastRaidEnd : Nat
  checkRaidsEvent : Nat
  filename : String
  tasks : DeferredTasks Job
  /-- what has happened to which raid -/
  history : List (Nat × Deed)
  /-- a pass has divided by an interval of zero -/
  dividedByZero : Bool
  /-- a task has run on a deleted raid -/
  astray : Bool

def Raids.initial : Raids where
  raidList := []
  raids _ := Raid.new "" 0 0
  next := 1
  loaded := false
  started := false
  running := none
  lastRaidEnd := 0
  checkRaidsEvent := 0
  filename := ""
  tasks := DeferredTasks.empty
  history := []
  dividedByZero := false
  astray := false

/-- `boost::algorithm::iequals` -/
def iequals (one other : String) : Bool :=
  one.toList.map Char.toLower = other.toList.map Char.toLower

namespace Raids

def setRaid (system : Raids) (address : Nat) (raid : Raid) : Raids :=
  { system with raids := Function.update system.raids address raid }

def note (system : Raids) (address : Nat) (deed : Deed) : Raids :=
  { system with history := system.history ++ [(address, deed)] }

def getRaidByName (system : Raids) (name : String) : Option Nat :=
  system.raidList.find? fun address => iequals (system.raids address).name name

def push_back (system : Raids) (raid : Raid) : Raids :=
  { system.setRaid system.next raid with
    raidList := system.raidList ++ [system.next]
    next := system.next + 1 }

/-- `Raids::loadFromXml`; `none` is a document which cannot be read. -/
def loadFromXml (system : Raids) (filename : String) (doc : Option (List RaidNode)) : Raids :=
  if system.loaded then system
  else
    match doc with
    | none => { system with filename := filename }
    | some nodes =>
      { (nodes.filterMap RaidNode.read).foldl push_back
          { system with filename := filename } with
        loaded := true }

def scheduleCheck (system : Raids) : Raids :=
  let tasks := system.tasks.add .checkRaids
  { system with tasks := tasks, checkRaidsEvent := tasks.lastId }

def startup (system : Raids) (now : Nat) : Raids :=
  if ! system.loaded || system.started then system
  else
    { ({ system with lastRaidEnd := now } : Raids).scheduleCheck with
      started := true }

/-- Have the scheduler execute an event of a raid, and remember the task. -/
def scheduleEvent (system : Raids) (address raidEvent : Nat) (ticks : UInt32) : Raids :=
  let tasks := system.tasks.add (.executeRaidEvent address raidEvent ticks)
  { system.setRaid address
      { system.raids address with nextEventEvent := tasks.lastId } with
    tasks := tasks }

def startRaid (system : Raids) (address : Nat) : Raids :=
  let raid := system.raids address
  match raid.getNextRaidEvent with
  | none => system
  | some raidEvent =>
    (system.setRaid address { raid with state := .RAIDSTATE_EXECUTING })
      |>.scheduleEvent address raidEvent (raid.getDelay raidEvent)

def resetRaid (system : Raids) (address : Nat) (now : Nat) : Raids :=
  { (system.setRaid address
        { system.raids address with
          nextEvent := 0
          state := .RAIDSTATE_IDLE }).note address .reset with
    running := none
    lastRaidEnd := now }

def ticksBetween (raid : Raid) (newRaidEvent raidEvent : Nat) : UInt32 :=
  max RAID_MINTICKS (raid.getDelay newRaidEvent - raid.getDelay raidEvent)

/-- `Raid::executeRaidEvent`, whose event succeeds or fails. -/
def executeRaidEvent (system : Raids) (address raidEvent : Nat) (succeeds : Bool) (now : Nat) :
  Raids :=
  if address ∈ system.raidList then
    let system := system.note address (.executed raidEvent succeeds)
    if succeeds then
      let raid :=
        { system.raids address with
          nextEvent := (system.raids address).nextEvent + 1 }
      let system := system.setRaid address raid
      match raid.getNextRaidEvent with
      | some newRaidEvent =>
        system.scheduleEvent address newRaidEvent (ticksBetween raid newRaidEvent raidEvent)
      | none => system.resetRaid address now
    else
      system.resetRaid address now
  else
    -- the raid has been deleted
    { system with astray := true }

/-- What the loop of `checkRaids` comes to. -/
inductive Choice where
  | nothing
  | raid (address : Nat)
  | divisionByZero
deriving DecidableEq

/-- The loop of `checkRaids`, with a number drawn for each raid. -/
def checkLoop (system : Raids) (now : Nat) (draw : Nat → Nat) : List Nat → Choice
  | [] => .nothing
  | address :: rest =>
    let raid := system.raids address
    if system.lastRaidEnd + raid.margin ≤ now then
      if raid.interval = 0 then
        .divisionByZero
      else if draw address ≤
          MAX_RAND_RANGE * CHECK_RAIDS_INTERVAL / raid.interval then
        .raid address
      else
        checkLoop system now draw rest
    else
      checkLoop system now draw rest

def checkRaids (system : Raids) (now : Nat) (draw : Nat → Nat) : Raids :=
  if system.running = none then
    match system.checkLoop now draw system.raidList with
    | .nothing => system.scheduleCheck
    | .raid address =>
      (({ system with running := some address } : Raids).note address .started)
        |>.startRaid address
        |>.scheduleCheck
    | .divisionByZero => { system with dividedByZero := true }
  else
    system.scheduleCheck

/-- `Commands::forceRaid` of a player. -/
def forceRaid (system : Raids) (param : String) : Raids :=
  match system.getRaidByName param with
  | none => system
  | some address =>
    if ! (system.raids address).loaded then system
    else if system.running ≠ none then system
    else
      let system := ({ system with running := some address } : Raids).note address .started
      let raid := system.raids address
      match raid.getNextRaidEvent with
      | none => system
      | some raidEvent =>
        let system := system.setRaid address { raid with state := .RAIDSTATE_EXECUTING }
        let ticks := raid.getDelay raidEvent
        let job := Job.executeRaidEvent address raidEvent ticks
        if 0 < ticks then
          { system with tasks := system.tasks.add job }
        else
          { system with tasks := system.tasks.addHanded job }

/-- `Raid::stopEvents` of a raid, as its destructor calls it. -/
def stopEvents (system : Raids) (address : Nat) : Raids :=
  if (system.raids address).nextEventEvent ≠ 0 then
    { system with tasks := system.tasks.stop (system.raids address).nextEventEvent }
  else
    system

def clear (system : Raids) : Raids :=
  let stopped :=
    { system with
      tasks := system.tasks.stop system.checkRaidsEvent
      checkRaidsEvent := 0 }
  { system.raidList.foldl stopEvents stopped with
    raidList := []
    loaded := false
    started := false
    filename := ""
    running := none
    lastRaidEnd := 0 }

/-- `Raids::reload`; the document is the one under the name that `clear` left. -/
def reload (system : Raids) (doc : Option (List RaidNode)) : Raids :=
  let system := system.clear
  system.loadFromXml system.filename doc

structure Scene where
  now : Nat
  draw : Nat → Nat
  succeeds : Bool

inductive Operation where
  | loadFromXml (filename : String) (doc : Option (List RaidNode))
  | startup (now : Nat)
  /-- the scheduler gives a task to the dispatcher -/
  | hand (id : Nat)
  /-- the dispatcher executes the task at a place -/
  | execute (index : Nat) (scene : Scene)
  | forceRaid (param : String)
  | clear
  | reload (doc : Option (List RaidNode))

def run (system : Raids) (scene : Scene) : Job → Raids
  | .checkRaids => system.checkRaids scene.now scene.draw
  | .executeRaidEvent raid raidEvent _ =>
    system.executeRaidEvent raid raidEvent scene.succeeds scene.now

/-- The dispatcher executes the task at a place, if it has been given to it. -/
def execute (system : Raids) (index : Nat) (scene : Scene) : Raids :=
  match system.tasks.pending[index]? with
  | none => system
  | some task =>
    if task.handed then
      ({ system with tasks := system.tasks.remove index } : Raids).run scene task.job
    else
      system

def step (system : Raids) : Operation → Raids
  | .loadFromXml filename doc => system.loadFromXml filename doc
  | .startup now => system.startup now
  | .hand id => { system with tasks := system.tasks.hand id }
  | .execute index scene => system.execute index scene
  | .forceRaid param => system.forceRaid param
  | .clear => system.clear
  | .reload doc => system.reload doc

end Raids

end OTServ.WorldEvents
