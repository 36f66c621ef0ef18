import OTServ.Library.GuardedRuns
import Mathlib.Data.List.Basic

/-!
# The dispatcher

`Dispatcher::addTask` puts a task at the front or the back of a list, and the thread of
the dispatcher takes the tasks from the front, executes and deletes them.  A task, and
the message pass behind each task, may call `addTask`, `stop` and `shutdown`
themselves; so may any other thread.

A critical section under `m_taskLock` is one step, which is taken when nobody holds the
lock, except for `shutdown`: `flush` executes the tasks which are left while the lock
is held.  Each thread has a stack of the calls it is in, the innermost first; those of
the thread of the dispatcher are made from its loop.  Tasks are numbered as they are
created.
-/

namespace OTServ.Scheduling.Dispatching

abbrev Task := Nat

abbrev Thread := Nat

/-- The thread which runs `dispatcherThread`. -/
def dispatcher : Thread := 0

inductive DispatcherState
  | running
  | closing
  | terminated
deriving DecidableEq, Repr

/-- Where the loop of `dispatcherThread` stands. -/
inductive Loop
  /-- at the head of the loop -/
  | check
  /-- in front of the lock -/
  | locking
  /-- in the wait -/
  | waiting
  /-- signalled, and in front of the lock again -/
  | woken
  | executing (task : Task)
  /-- in the message pass behind a task -/
  | sending
  | ended
deriving DecidableEq, Repr

inductive Call
  /-- `addTask` in front of the lock -/
  | adding (task : Task) (push_front : Bool)
  /-- `addTask` behind the lock -/
  | signalling (do_signal : Bool)
  /-- `stop` in front of the lock -/
  | stopping
  /-- `shutdown` in front of the lock -/
  | shutting
  /-- at the head of the loop of `flush`, as in the next two with the lock -/
  | flushing
  | flushExecuting (task : Task)
  | flushSending
deriving DecidableEq, Repr

inductive Occurrence
  | accepted (thread : Thread) (task : Task) (push_front : Bool)
  | executed (task : Task)
  | deleted (task : Task)
deriving DecidableEq, Repr

structure System where
  loop : Loop
  calls : Thread → List Call
  holder : Option Thread
  taskList : List Task
  threadState : DispatcherState
  next : Task
  history : List Occurrence

inductive Event
  | addTask (thread : Thread) (push_front : Bool)
  | stop (thread : Thread)
  | shutdown (thread : Thread)
  /-- the innermost call of a thread goes on -/
  | call (thread : Thread)
  /-- the loop of the dispatcher goes on -/
  | loop
  /-- the wait ends without a signal -/
  | wake
deriving DecidableEq, Repr

def System.initial : System where
  loop := .check
  calls := fun _ => []
  holder := none
  taskList := []
  threadState := .running
  next := 0
  history := []

/-- `notify_one`, which is lost on a thread that does not wait. -/
def Loop.notified : Loop → Loop
  | .waiting => .woken
  | loop => loop

def Loop.isOpen : Loop → Bool
  | .executing _ | .sending => true
  | _ => false

/-- In a task which `flush` executes or the message pass behind it. -/
def Call.isOpen : Call → Bool
  | .flushExecuting _ | .flushSending => true
  | _ => false

def Call.isFlush : Call → Bool
  | .flushing | .flushExecuting _ | .flushSending => true
  | _ => false

def Call.isRequest : Call → Bool
  | .adding _ _ | .stopping | .shutting => true
  | _ => false

def Loop.isRequest : Loop → Bool
  | .locking | .woken => true
  | _ => false

namespace System

def isOpen (system : System) (thread : Thread) : Bool :=
  match system.calls thread with
  | [] => thread ≠ dispatcher || system.loop.isOpen
  | call :: _ => call.isOpen

def setCalls (system : System) (thread : Thread) (calls : List Call) : System :=
  { system with calls := Function.update system.calls thread calls }

def push (system : System) (thread : Thread) (call : Call) : System :=
  system.setCalls thread (call :: system.calls thread)

/-- The critical section of `addTask`, with `do_signal`. -/
def insertTask (system : System) (thread : Thread) (task : Task) (push_front : Bool) :
  System × Bool :=
  if system.threadState = .running then
    ({ system with
       taskList := if push_front then task :: system.taskList else system.taskList ++ [task]
       history := system.history ++ [.accepted thread task push_front] },
      system.taskList.isEmpty)
  else (system, false)

def takeFirst (system : System) : System :=
  match system.taskList with
  | [] => { system with loop := .check }
  | task :: rest =>
    if system.threadState = .terminated then { system with loop := .check }
    else
      { system with
        loop := .executing task
        taskList := rest
        history := system.history ++ [.executed task] }

/-- The innermost call goes on; `below` are the others. -/
def stepCall (system : System) (thread : Thread) (below : List Call) : Call → Option System
  | .adding task push_front =>
    if system.holder = none then
      let inserted := system.insertTask thread task push_front
      some (inserted.1.setCalls thread (.signalling inserted.2 :: below))
    else none
  | .signalling do_signal =>
    let returned := system.setCalls thread below
    some
      { returned with
        loop := if do_signal then system.loop.notified else system.loop }
  | .stopping =>
    if system.holder = none then
      some { system.setCalls thread below with threadState := .closing }
    else none
  | .shutting =>
    if system.holder = none then
      some
        { system.setCalls thread (.flushing :: below) with
          threadState := .terminated
          holder := some thread }
    else none
  | .flushing =>
    match system.taskList with
    | [] => some { system.setCalls thread below with holder := none }
    | task :: rest =>
      some
        { system.setCalls thread (.flushExecuting task :: below) with
          taskList := rest
          history := system.history ++ [.executed task] }
  | .flushExecuting task =>
    some
      { system.setCalls thread (.flushSending :: below) with
        history := system.history ++ [.deleted task] }
  | .flushSending => some (system.setCalls thread (.flushing :: below))

def stepLoop (system : System) : Option System :=
  match system.loop with
  | .check =>
    some
      { system with
        loop := if system.threadState = .terminated then .ended else .locking }
  | .locking =>
    if system.holder = none then
      if system.taskList.isEmpty then some { system with loop := .waiting }
      else some system.takeFirst
    else none
  | .waiting => none
  | .woken => if system.holder = none then some system.takeFirst else none
  | .executing task =>
    some
      { system with
        loop := .sending
        history := system.history ++ [.deleted task] }
  | .sending => some { system with loop := .check }
  | .ended => none

def step (system : System) : Event → Option System
  | .addTask thread push_front =>
    if system.isOpen thread then
      some
        { system.push thread (.adding system.next push_front) with
          next := system.next + 1 }
    else none
  | .stop thread =>
    if system.isOpen thread then some (system.push thread .stopping) else none
  | .shutdown thread =>
    if system.isOpen thread then some (system.push thread .shutting) else none
  | .call thread =>
    match system.calls thread with
    | [] => none
    | call :: below => system.stepCall thread below call
  | .loop => if system.calls dispatcher = [] then system.stepLoop else none
  | .wake => if system.loop = .waiting then some { system with loop := .woken } else none

abbrev Reaches (guard : System → Event → Prop) : System → System → Prop :=
  OTServ.Library.GuardedRuns.Reaches
    (fun system event after => system.step event = some after) guard

/-! ## What is asked of it -/

def acceptances (system : System) (task : Task) : Nat :=
  system.history.countP fun occurrence =>
    match occurrence with
    | .accepted _ other _ => other == task
    | _ => false

def executions (system : System) (task : Task) : Nat :=
  system.history.count (.executed task)

def deletions (system : System) (task : Task) : Nat :=
  system.history.count (.deleted task)

def IsExecuting (system : System) (task : Task) : Prop :=
  system.loop = .executing task ∨ ∃ thread, .flushExecuting task ∈ system.calls thread

/-- The tasks which the thread has added at the back, in the order of its calls. -/
def addedBack (thread : Thread) (history : List Occurrence) : List Task :=
  history.filterMap fun occurrence =>
    match occurrence with
    | .accepted other task false => if other = thread then some task else none
    | _ => none

def executed (history : List Occurrence) : List Task :=
  history.filterMap fun occurrence =>
    match occurrence with
    | .executed task => some task
    | _ => none

def Requests (system : System) (thread : Thread) : Prop :=
  match system.calls thread with
  | [] => thread = dispatcher ∧ system.loop.isRequest = true
  | call :: _ => call.isRequest = true

def IsQuiet (system : System) : Prop :=
  (∀ thread, system.step (.call thread) = none) ∧ system.step .loop = none

/-- Every task accepted waits in the list, is being executed or was executed and deleted
once. -/
structure Dispatches (system : System) : Prop where
  once :
    ∀ task, 0 < system.acceptances task →
      system.acceptances task = 1 ∧
        (task ∈ system.taskList ∧ system.taskList.count task = 1 ∧
            system.executions task = 0 ∧ system.deletions task = 0 ∨
          task ∉ system.taskList ∧ system.executions task = 1 ∧
            (system.deletions task = 0 ∧ system.IsExecuting task ∨
              system.deletions task = 1 ∧ ¬ system.IsExecuting task))
  inOrder :
    ∀ thread,
      addedBack thread system.history =
        ((executed system.history).filter
            fun task => (addedBack thread system.history).contains task) ++
          system.taskList.filter fun task => (addedBack thread system.history).contains task
  awake :
    system.loop = .waiting → system.taskList ≠ [] →
      ∃ thread below, system.calls thread = .signalling true :: below
  lockFree : ∀ thread, system.Requests thread → system.holder ≠ some thread
  completes :
    system.IsQuiet →
      system.taskList = [] ∧
        ∀ task, 0 < system.acceptances task →
          system.executions task = 1 ∧ system.deletions task = 1

/-- No call is made by a task which `flush` executes, nor by the message pass behind
it. -/
def FlushesQuietly (system : System) : Event → Prop
  | .addTask thread _ | .stop thread | .shutdown thread => system.calls thread = []
  | .call _ | .loop | .wake => True

end System

end OTServ.Scheduling.Dispatching
