import Mathlib.Algebra.Group.Nat.Defs
import OTServ.Library.GuardedRuns
import Mathlib.Data.Finset.Basic

/-!
# The scheduler

`Scheduler::addEvent` puts a task into a priority queue, the earliest cycle time on
top, and its id into a set; `Scheduler::stopEvent` takes an id out of the set.  The
thread of the scheduler waits for the cycle time of the task on top, takes that task
from the queue when the time has come and gives it to the dispatcher, if its id is
still in the set; otherwise it deletes the task.

Both functions and the two halves of an iteration of the thread, before and behind
its wait, hold `m_eventLock`.  They are the steps of the system, with four more that
do not need the lock: the clock, the end of a wait, the signal of an `addEvent` that
has left the lock and the delivery of a task.  The scheduler stays in its running
state.

Everything that happens is kept in a history.
-/

namespace OTServ.Scheduling

/-- A task with its cycle time and its event id, 0 as long as it has none. -/
structure SchedulerTask where
  m_cycle : Nat
  m_eventid : Nat
deriving DecidableEq

/-- A task as `createSchedulerTask` makes it. -/
def createSchedulerTask (m_cycle : Nat) : SchedulerTask where
  m_cycle := m_cycle
  m_eventid := 0

/--
The task may be on top of the queue: none has an earlier cycle time.  Which one of
several is on top the priority queue leaves open.
-/
def IsTop (list : List SchedulerTask) (task : SchedulerTask) : Prop :=
  task ∈ list ∧ ∀ other ∈ list, task.m_cycle ≤ other.m_cycle

instance (list : List SchedulerTask) (task : SchedulerTask) : Decidable (IsTop list task) :=
  inferInstanceAs (Decidable (_ ∧ _))

/-- What `m_eventLock` protects. -/
structure Scheduler where
  m_lastEventId : Nat
  m_eventList : List SchedulerTask
  m_eventIds : Finset Nat
deriving DecidableEq

namespace Scheduler

/-- The id which is generated next, a number of 32 bits. -/
def nextEventId (scheduler : Scheduler) : Nat :=
  if 0xFFFFFFFF ≤ scheduler.m_lastEventId then 1
  else scheduler.m_lastEventId + 1

/-- `Scheduler::addEvent` without its signal, and the task with its id. -/
def addEvent (scheduler : Scheduler) (task : SchedulerTask) : Scheduler × SchedulerTask :=
  if task.m_eventid = 0 then
    let named := { task with m_eventid := scheduler.nextEventId }
    ({ m_lastEventId := scheduler.nextEventId
       m_eventIds := insert named.m_eventid scheduler.m_eventIds
       m_eventList := named :: scheduler.m_eventList }, named)
  else
    ({ scheduler with
       m_eventIds := insert task.m_eventid scheduler.m_eventIds
       m_eventList := task :: scheduler.m_eventList }, task)

/-- `Scheduler::stopEvent` and what it returns. -/
def stopEvent (scheduler : Scheduler) (eventid : Nat) : Scheduler × Bool :=
  if eventid = 0 then
    (scheduler, false)
  else if eventid ∈ scheduler.m_eventIds then
    ({ scheduler with m_eventIds := scheduler.m_eventIds.erase eventid }, true)
  else
    (scheduler, false)

def deadline (scheduler : Scheduler) : Option Nat :=
  (scheduler.m_eventList.map SchedulerTask.m_cycle).min?

/-- The second half of an iteration after a timeout: the task on top, and `runTask`. -/
def take (scheduler : Scheduler) (task : SchedulerTask) : Scheduler × Bool :=
  ({ scheduler with
     m_eventList := scheduler.m_eventList.erase task
     m_eventIds := scheduler.m_eventIds.erase task.m_eventid },
    decide (task.m_eventid ∈ scheduler.m_eventIds))

end Scheduler

inductive Thread where
  /-- at the head of its loop -/
  | idle
  /-- in the wait, with the time to wait for -/
  | waiting (deadline : Option Nat)
  /-- behind the wait, which returned this value, and in front of the lock -/
  | woken (ret : Bool)
  /-- out of the lock with a task, which is to be run or deleted -/
  | holding (task : SchedulerTask) (runTask : Bool)
deriving DecidableEq

/-- `notify_one`, which is lost on a thread that does not wait. -/
def Thread.signalled : Thread → Thread
  | .waiting _ => .woken true
  | thread => thread

inductive Occurrence where
  | added (task : SchedulerTask)
  | stopped (eventid : Nat) (returned : Bool)
  | popped (task : SchedulerTask) (runTask : Bool)
  | handed (task : SchedulerTask) (time : Nat)
  | deleted (task : SchedulerTask)
deriving DecidableEq

structure System where
  scheduler : Scheduler
  now : Nat
  thread : Thread
  /-- the signals of `addEvent` which have not been sent yet -/
  signals : Nat
  history : List Occurrence
deriving DecidableEq

def System.initial (now : Nat) : System where
  scheduler :=
    { m_lastEventId := 0
      m_eventList := []
      m_eventIds := ∅ }
  now := now
  thread := .idle
  signals := 0
  history := []

/-- The steps of the system, with the choices they leave open. -/
inductive Event where
  | tick (time : Nat)
  /-- the task has this cycle time, and finds itself on top or not -/
  | addEvent (m_cycle : Nat) (do_signal : Bool)
  | stopEvent (eventid : Nat)
  | notify
  | wait
  | wake
  | timeout
  | again
  | take (task : SchedulerTask)
  | hand
deriving DecidableEq

/-- `do_signal` of an `addEvent`, a choice among tasks with equal cycle times. -/
def MaySignal (before : Scheduler) (m_cycle : Nat) (do_signal : Bool) : Prop :=
  if do_signal then
    ∀ other ∈ before.m_eventList, m_cycle ≤ other.m_cycle
  else
    ∃ other ∈ before.m_eventList, other.m_cycle ≤ m_cycle

instance (before : Scheduler) (m_cycle : Nat) (do_signal : Bool) :
  Decidable (MaySignal before m_cycle do_signal) :=
  inferInstanceAs (Decidable (ite _ _ _))

namespace System

def step (system : System) : Event → Option System
  | .tick time =>
    if system.now ≤ time then some { system with now := time }
    else none
  | .addEvent m_cycle do_signal =>
    if MaySignal system.scheduler m_cycle do_signal then
      let added := system.scheduler.addEvent (createSchedulerTask m_cycle)
      some
        { system with
          scheduler := added.1
          signals := if do_signal then system.signals + 1 else system.signals
          history := system.history ++ [.added added.2] }
    else none
  | .stopEvent eventid =>
    let stopped := system.scheduler.stopEvent eventid
    some
      { system with
        scheduler := stopped.1
        history := system.history ++ [.stopped eventid stopped.2] }
  | .notify =>
    if 0 < system.signals then
      some
        { system with
          signals := system.signals - 1
          thread := system.thread.signalled }
    else none
  | .wait =>
    if system.thread = .idle then
      some { system with thread := .waiting system.scheduler.deadline }
    else none
  | .wake =>
    match system.thread with
    | .waiting _ => some { system with thread := .woken true }
    | _ => none
  | .timeout =>
    match system.thread with
    | .waiting (some deadline) =>
      if deadline ≤ system.now then
        some { system with thread := .woken false }
      else none
    | _ => none
  | .again =>
    if system.thread = .woken true then
      some { system with thread := .idle }
    else none
  | .take task =>
    if system.thread = .woken false ∧
        IsTop system.scheduler.m_eventList task then
      let taken := system.scheduler.take task
      some
        { system with
          scheduler := taken.1
          thread := .holding task taken.2
          history := system.history ++ [.popped task taken.2] }
    else none
  | .hand =>
    match system.thread with
    | .holding task runTask =>
      some
        { system with
          thread := .idle
          history :=
            system.history ++ [if runTask then .handed task system.now else .deleted task] }
    | _ => none

end System

end OTServ.Scheduling
