import OTServ.Library.DeferredTasks
import OTServ.Library.OrderedMap
import Mathlib.Data.String.Basic

/-!
# Global events

`GlobalEvents` holds the scripts of the server which run by themselves: think events
every so often, timer events once a day, and those of the start and the end of the
server.  The first event of a kind that is registered schedules `think()` or
`timer()`, and each of them schedules itself again.

The id under which the task was first scheduled is remembered, so that `clear` can
stop it.

What a script does is left out: its result is only reported.  A reload that a script
asks for is a task of its own.
-/

namespace OTServ.WorldEvents

open Library

def digits (text : List Char) : Int :=
  (text.takeWhile Char.isDigit).foldl
    (fun number digit => 10 * number + (digit.toNat - '0'.toNat : Nat)) 0

def atoi (text : List Char) : Int :=
  match text.dropWhile Char.isWhitespace with
  | '-' :: rest => - digits rest
  | '+' :: rest => digits rest
  | rest => digits rest

/-! ## An event -/

inductive GlobalEventType where
  | GLOBALEVENT_NONE
  | GLOBALEVENT_TIMER
  | GLOBALEVENT_STARTUP
  | GLOBALEVENT_SHUTDOWN
deriving DecidableEq, Repr

def SCHEDULER_MINTICKS : Int := 50

def day : Int := 86400

structure Clock where
  /-- in seconds -/
  time : Int
  /-- in milliseconds -/
  OTSYS_TIME : Int
  /-- this hour, minute and second of the present day -/
  mktime : Int → Int → Int → Int

/-- A `GlobalEvent` with its number, which no other one gets. -/
structure GlobalEvent where
  number : Nat
  m_eventType : GlobalEventType
  m_name : String
  m_nextExecution : Int
  m_lastExecution : Int
  m_interval : Int
  /-- what `m_nextExecution` was at first -/
  first : Int
deriving DecidableEq

/-- The attributes of a `globalevent` node. -/
structure GlobalEventNode where
  name : Option String
  type : Option String
  time : Option String
  at_ : Option String
  interval : Option Int
  /-- the script of the event can be loaded -/
  loadsScript : Bool

/-- The constructor of `GlobalEvent`. -/
def GlobalEvent.new (number : Nat) (clock : Clock) : GlobalEvent where
  number := number
  m_eventType := .GLOBALEVENT_NONE
  m_name := ""
  m_nextExecution := 0
  m_lastExecution := clock.OTSYS_TIME
  m_interval := 0
  first := 0

namespace GlobalEvent

/-- The type which a `type` attribute names. -/
def typeOf (value : String) : Option GlobalEventType :=
  let value := value.toLower
  if value = "startup" ∨ value = "start" ∨ value = "load" then
    some .GLOBALEVENT_STARTUP
  else if value = "shutdown" ∨ value = "quit" ∨ value = "exit" then
    some .GLOBALEVENT_SHUTDOWN
  else
    none

/-- The number at a place of a time of day, if it is one up to a bound. -/
def field (params : List (List Char)) (place : Nat) (bound : Int) : Option Int :=
  match params[place]? with
  | none => some 0
  | some text => if atoi text < 0 ∨ bound < atoi text then none else some (atoi text)

def configureTimer (event : GlobalEvent) (value : String) (clock : Clock) :
  Option GlobalEvent := do
  let params := value.toList.splitOn ':'
  let hour ← field params 0 23
  let min ← field params 1 59
  let sec ← field params 2 59
  let difference := clock.mktime hour min sec - clock.time
  let difference := if difference < 0 then difference + day else difference
  return { event with
    m_interval := hour * 65536
    m_nextExecution := clock.time + difference
    first := clock.time + difference
    m_eventType := .GLOBALEVENT_TIMER }

def configureEvent (event : GlobalEvent) (node : GlobalEventNode) (clock : Clock) :
  Option GlobalEvent := do
  let name ← node.name
  let event := { event with m_name := name, m_eventType := .GLOBALEVENT_NONE }
  match node.type with
  | some value =>
    let type ← typeOf value
    return { event with m_eventType := type }
  | none =>
    match node.time.or node.at_ with
    | some value => event.configureTimer value clock
    | none =>
      let interval ← node.interval
      return { event with m_interval := max SCHEDULER_MINTICKS interval }

end GlobalEvent

inductive GlobalTask where
  | timer
  | think
deriving DecidableEq

structure Execution where
  event : GlobalEvent
  now : Int
deriving DecidableEq

abbrev GlobalEventMap := OrderedMap String GlobalEvent

/-- `GlobalEvents`, the tasks, and what has been executed. -/
structure GlobalEvents where
  thinkMap : GlobalEventMap
  serverMap : GlobalEventMap
  timerMap : GlobalEventMap
  thinkEventId : Nat
  timerEventId : Nat
  /-- the number of the next event -/
  next : Nat
  tasks : DeferredTasks GlobalTask
  /-- the executions by `timer()` -/
  timed : List Execution
  /-- the executions by `think()` -/
  thought : List Execution

namespace GlobalEvents

/-- The constructor of `GlobalEvents`. -/
def initial : GlobalEvents where
  thinkMap := OrderedMap.empty
  serverMap := OrderedMap.empty
  timerMap := OrderedMap.empty
  thinkEventId := 0
  timerEventId := 0
  next := 1
  tasks := DeferredTasks.empty
  timed := []
  thought := []

def clear (system : GlobalEvents) : GlobalEvents :=
  { system with
    tasks := (system.tasks.stop system.thinkEventId).stop system.timerEventId
    thinkEventId := 0
    timerEventId := 0
    thinkMap := OrderedMap.empty
    serverMap := OrderedMap.empty
    timerMap := OrderedMap.empty }

/-- An event of a timer is put into its map, the first one with its task. -/
def registerTimer (system : GlobalEvents) (globalEvent : GlobalEvent) : GlobalEvents :=
  let system := { system with timerMap := system.timerMap.insert globalEvent.m_name globalEvent }
  if system.timerEventId = 0 then
    let tasks := system.tasks.add .timer
    { system with tasks := tasks, timerEventId := tasks.lastId }
  else
    system

/-- A think event is put into its map, the first one with its task. -/
def registerThink (system : GlobalEvents) (globalEvent : GlobalEvent) : GlobalEvents :=
  let system := { system with thinkMap := system.thinkMap.insert globalEvent.m_name globalEvent }
  if system.thinkEventId = 0 then
    let tasks := system.tasks.add .think
    { system with tasks := tasks, thinkEventId := tasks.lastId }
  else
    system

/-- `GlobalEvents::registerEvent`; a name that is taken is refused. -/
def registerEvent (system : GlobalEvents) (globalEvent : GlobalEvent) : GlobalEvents :=
  match globalEvent.m_eventType with
  | .GLOBALEVENT_TIMER =>
    if system.timerMap.contains globalEvent.m_name then system
    else system.registerTimer globalEvent
  | .GLOBALEVENT_NONE =>
    if system.thinkMap.contains globalEvent.m_name then system
    else system.registerThink globalEvent
  | _ =>
    if system.serverMap.contains globalEvent.m_name then system
    else
      { system with
        serverMap := system.serverMap.insert globalEvent.m_name globalEvent }

def loadNode (system : GlobalEvents) (node : GlobalEventNode) (clock : Clock) : GlobalEvents :=
  let fresh := { system with next := system.next + 1 }
  match (GlobalEvent.new system.next clock).configureEvent node clock with
  | none => fresh
  | some event => if node.loadsScript then fresh.registerEvent event else fresh

/-- `BaseEvents::loadFromXml` and the nodes of the file, each read at its time. -/
def loadFromXml (system : GlobalEvents) (nodes : List (GlobalEventNode × Clock)) : GlobalEvents :=
  nodes.foldl (fun system node => system.loadNode node.1 node.2) system

/-- `BaseEvents::reload` -/
def reload (system : GlobalEvents) (nodes : List (GlobalEventNode × Clock)) : GlobalEvents :=
  system.clear.loadFromXml nodes

structure Executing where
  map : GlobalEventMap
  executed : List Execution

/-- One turn of a loop over a map: an event that is due is changed and executed. -/
def executeEvent (isDue : GlobalEvent → Bool) (change : GlobalEvent → GlobalEvent) (now : Int)
  (state : Executing) (name : String) : Executing :=
  match state.map.find? name with
  | none => state
  | some event =>
    if isDue event then
      { map := state.map.insert name (change event)
        executed := state.executed ++ [⟨event, now⟩] }
    else
      state

def executeAll (isDue : GlobalEvent → Bool) (change : GlobalEvent → GlobalEvent) (now : Int)
  (state : Executing) : Executing :=
  (state.map.entries.map Prod.fst).foldl (executeEvent isDue change now) state

def timerDue (now : Int) (event : GlobalEvent) : Bool :=
  ! (event.m_nextExecution > now)

def setNextDay (event : GlobalEvent) : GlobalEvent :=
  { event with m_nextExecution := event.m_nextExecution + day }

def thinkDue (now : Int) (event : GlobalEvent) : Bool :=
  ! (event.m_lastExecution + event.m_interval > now)

def setLastExecution (now : Int) (event : GlobalEvent) : GlobalEvent :=
  { event with m_lastExecution := now }

def timer (system : GlobalEvents) (clock : Clock) : GlobalEvents :=
  let after :=
    executeAll (timerDue clock.time) setNextDay clock.time ⟨system.timerMap, system.timed⟩
  { system with
    timerMap := after.map
    timed := after.executed
    tasks := system.tasks.add .timer }

def think (system : GlobalEvents) (clock : Clock) : GlobalEvents :=
  let now := clock.OTSYS_TIME
  let after :=
    executeAll (thinkDue now) (setLastExecution now) now ⟨system.thinkMap, system.thought⟩
  { system with
    thinkMap := after.map
    thought := after.executed
    tasks := system.tasks.add .think }

inductive GlobalOperation where
  | registerEvent (node : GlobalEventNode) (clock : Clock)
  /-- the task at a place is executed -/
  | deliver (index : Nat) (clock : Clock)
  | clear
  | reload (nodes : List (GlobalEventNode × Clock))

def deliver (system : GlobalEvents) (index : Nat) (clock : Clock) : GlobalEvents :=
  match system.tasks.pending[index]? with
  | none => system
  | some task =>
    let system := { system with tasks := system.tasks.remove index }
    match task.job with
    | .timer => system.timer clock
    | .think => system.think clock

def step (system : GlobalEvents) : GlobalOperation → GlobalEvents
  | .registerEvent node clock => system.loadNode node clock
  | .deliver index clock => system.deliver index clock
  | .clear => system.clear
  | .reload nodes => system.reload nodes

end GlobalEvents

end OTServ.WorldEvents
