import OTServ.Library.Histories
import OTServ.Scheduling.Scheduler

/-!
# Every event is run once

The rule of the scheduler says of each occurrence what must have happened before
it.  An id is stopped successfully exactly while its task is queued and not stopped
yet; a task is taken from the queue once, none with an earlier cycle time being
queued, and to be run exactly if it was not stopped; what was taken is handed over
or deleted once, and handed over not before its time.

Every step keeps the history lawful, as long as fewer than 2^32 tasks are added, so
that their ids are different.
-/

namespace OTServ.Scheduling

open Library.GuardedRuns
open Library.Histories
open List

def Pending (history : List Occurrence) (task : SchedulerTask) : Prop :=
  .added task ∈ history ∧ ∀ runTask, .popped task runTask ∉ history

def Rule (before : List Occurrence) : Occurrence → Prop
  | .added task =>
    ∀ other, .added other ∈ before → other.m_eventid ≠ task.m_eventid
  | .stopped eventid returned =>
    returned = true ↔
      ∃ task, Pending before task ∧ task.m_eventid = eventid ∧ .stopped eventid true ∉ before
  | .popped task runTask =>
    Pending before task ∧
      (runTask = true ↔ .stopped task.m_eventid true ∉ before) ∧
      ∀ other, Pending before other → task.m_cycle ≤ other.m_cycle
  | .handed task time =>
    .popped task true ∈ before ∧ task.m_cycle ≤ time ∧ ∀ earlier, .handed task earlier ∉ before
  | .deleted task => .popped task false ∈ before ∧ .deleted task ∉ before

def addedCount (history : List Occurrence) : Nat :=
  history.countP fun
    | .added _ => true
    | _ => false

/-- Fewer than 2^32 tasks are added. -/
def Few (system : System) : Event → Prop
  | .addEvent _ _ => addedCount system.history + 1 < 2 ^ 32
  | _ => True

def Step (system : System) (event : Event) (next : System) : Prop :=
  system.step event = some next

structure Ledger (scheduler : Scheduler) (history : List Occurrence) : Prop where
  lawful : Lawful Rule history
  lastId : scheduler.m_lastEventId = addedCount history
  few : addedCount history < 2 ^ 32
  ids :
    ∀ task, .added task ∈ history → 0 < task.m_eventid ∧ task.m_eventid ≤ scheduler.m_lastEventId
  unique :
    ∀ task other, .added task ∈ history → .added other ∈ history →
      task.m_eventid = other.m_eventid → task = other
  queued : ∀ task, task ∈ scheduler.m_eventList ↔ Pending history task
  nodup : scheduler.m_eventList.Nodup
  valid :
    ∀ eventid, eventid ∈ scheduler.m_eventIds ↔
      ∃ task ∈ scheduler.m_eventList, task.m_eventid = eventid ∧ .stopped eventid true ∉ history

def Settled (history : List Occurrence) (task : SchedulerTask) (runTask : Bool) : Prop :=
  if runTask then ∃ time, .handed task time ∈ history
  else .deleted task ∈ history

structure InHand (system : System) : Prop where
  held :
    ∀ task runTask, .popped task runTask ∈ system.history →
      system.thread = .holding task runTask ∨ Settled system.history task runTask
  holding :
    ∀ task runTask, system.thread = .holding task runTask →
      .popped task runTask ∈ system.history ∧
        (∀ time, .handed task time ∉ system.history) ∧
        .deleted task ∉ system.history ∧ task.m_cycle ≤ system.now
  due :
    system.thread = .woken false → ∃ task ∈ system.scheduler.m_eventList, task.m_cycle ≤ system.now
  awaited :
    ∀ deadline, system.thread = .waiting (some deadline) →
      ∃ task ∈ system.scheduler.m_eventList, task.m_cycle ≤ deadline
  armed :
    ∀ deadline, system.thread = .waiting deadline →
      0 < system.signals ∨
        ∀ task ∈ system.scheduler.m_eventList, ∃ time, deadline = some time ∧ time ≤ task.m_cycle

structure Sound (system : System) : Prop where
  ledger : Ledger system.scheduler system.history
  inHand : InHand system

lemma initial_sound (now : Nat) : Sound (System.initial now) where
  ledger :=
    { lawful := lawful_nil
      lastId := rfl
      few := show 0 < 2 ^ 32 by decide
      ids := fun _ added => absurd added not_mem_nil
      unique := fun _ _ added => absurd added not_mem_nil
      queued := fun _ => iff_of_false not_mem_nil fun pending => absurd pending.1 not_mem_nil
      nodup := nodup_nil
      valid := fun _ =>
        iff_of_false (Finset.notMem_empty _) fun ⟨_, queued, _⟩ => absurd queued not_mem_nil }
  inHand :=
    { held := fun _ _ popped => absurd popped not_mem_nil
      holding := fun _ _ same => nomatch same
      due := fun same => nomatch same
      awaited := fun _ same => nomatch same
      armed := fun _ same => nomatch same }

/-! ## The ledger after an operation -/

variable {task : SchedulerTask} {runTask : Bool} {eventid time : Nat} {occurrence : Occurrence}
  {event : Event} {history : List Occurrence} {thread : Thread} {scheduler : Scheduler}

section Ledgers

variable {scheduler : Scheduler} {history : List Occurrence}

lemma addedCount_snoc (occurrence : Occurrence) :
  addedCount (history ++ [occurrence]) = addedCount history + addedCount [occurrence] :=
  countP_append

lemma popped_added (lawful : Lawful Rule history) (popped : .popped task runTask ∈ history) :
  .added task ∈ history := by
  rcases append_of_mem popped with ⟨before, after, rfl⟩
  have rule := lawful before _ after rfl
  exact mem_append_left _ rule.1.1

lemma stopped_added (lawful : Lawful Rule history) (stopped : .stopped eventid true ∈ history) :
  ∃ task, .added task ∈ history ∧ task.m_eventid = eventid := by
  rcases append_of_mem stopped with ⟨before, after, rfl⟩
  have rule := lawful before _ after rfl
  rcases rule.1 rfl with ⟨task, pending, same, -⟩
  exact ⟨task, mem_append_left _ pending.1, same⟩

lemma pending_snoc_iff (noAddition : occurrence ≠ .added task)
  (noPop : ∀ runTask, occurrence ≠ .popped task runTask) :
  Pending (history ++ [occurrence]) task ↔ Pending history task := by
  simp only [Pending, mem_append, mem_singleton]
  refine and_congr (or_iff_left noAddition.symm) ?_
  refine forall_congr' fun runTask => not_congr ?_
  exact or_iff_left (noPop runTask).symm

namespace Ledger

variable (ledger : Ledger scheduler history)
include ledger

lemma settle (lawful : Rule history occurrence)
  (settles :
    (∃ task time, occurrence = .handed task time) ∨ ∃ task, occurrence = .deleted task) :
  Ledger scheduler (history ++ [occurrence]) := by
  have noAddition : ∀ task, Occurrence.added task ≠ occurrence := by
    rintro task rfl
    rcases settles with ⟨_, _, same⟩ | ⟨_, same⟩ <;> cases same
  have noPop : ∀ task runTask, Occurrence.popped task runTask ≠ occurrence := by
    rintro task runTask rfl
    rcases settles with ⟨_, _, same⟩ | ⟨_, same⟩ <;> cases same
  have noStop : ∀ eventid, Occurrence.stopped eventid true ≠ occurrence := by
    rintro eventid rfl
    rcases settles with ⟨_, _, same⟩ | ⟨_, same⟩ <;> cases same
  have noCount : addedCount [occurrence] = 0 := by
    rcases settles with ⟨_, _, rfl⟩ | ⟨_, rfl⟩ <;> rfl
  have addedIff (task : SchedulerTask) :
      Occurrence.added task ∈ history ++ [occurrence] ↔ Occurrence.added task ∈ history := by
    rw [mem_append, mem_singleton, or_iff_left (noAddition task)]
  have count : addedCount (history ++ [occurrence]) = addedCount history := by
    rw [addedCount_snoc, noCount, Nat.add_zero]
  constructor
  · exact lawful_snoc_iff.2 ⟨ledger.lawful, lawful⟩
  · rw [count]
    exact ledger.lastId
  · rw [count]
    exact ledger.few
  · intro task added
    exact ledger.ids task ((addedIff task).1 added)
  · intro task other added otherAdded
    exact ledger.unique task other ((addedIff task).1 added) ((addedIff other).1 otherAdded)
  · intro task
    rw [ledger.queued task,
      pending_snoc_iff (noAddition task).symm fun runTask => (noPop task runTask).symm]
  · exact ledger.nodup
  · intro eventid
    rw [ledger.valid eventid]
    simp only [mem_append, mem_singleton, or_iff_left (noStop eventid)]

lemma addEvent_eq (few : addedCount history + 1 < 2 ^ 32) (m_cycle : Nat) :
    scheduler.addEvent (createSchedulerTask m_cycle) =
      ({ m_lastEventId := scheduler.m_lastEventId + 1
         m_eventIds := insert (scheduler.m_lastEventId + 1) scheduler.m_eventIds
         m_eventList :=
          { m_cycle := m_cycle
            m_eventid := scheduler.m_lastEventId + 1 } ::
            scheduler.m_eventList },
        { m_cycle := m_cycle
          m_eventid := scheduler.m_lastEventId + 1 }) := by
  have lastId := ledger.lastId
  have next : scheduler.nextEventId = scheduler.m_lastEventId + 1 := by
    rw [Scheduler.nextEventId, if_neg (by omega)]
  rw [Scheduler.addEvent, createSchedulerTask, if_pos rfl, next]

lemma addEvent (few : addedCount history + 1 < 2 ^ 32) (m_cycle : Nat) :
  Ledger (scheduler.addEvent (createSchedulerTask m_cycle)).1
    (history ++ [.added (scheduler.addEvent (createSchedulerTask m_cycle)).2]) := by
  have lastId := ledger.lastId
  rw [ledger.addEvent_eq few]
  generalize isNew :
    ({ m_cycle := m_cycle
       m_eventid := scheduler.m_lastEventId + 1 } : SchedulerTask) = new
  have newId : new.m_eventid = scheduler.m_lastEventId + 1 := by
    rw [← isNew]
  have notAdded (other : SchedulerTask) (added : .added other ∈ history) :
      other.m_eventid ≠ new.m_eventid := by
    have bound := (ledger.ids other added).2
    omega
  have absent : .added new ∉ history := fun added => notAdded new added rfl
  have addedIff (task : SchedulerTask) :
      .added task ∈ history ++ [.added new] ↔ .added task ∈ history ∨ task = new := by
    rw [mem_append, mem_singleton, Occurrence.added.injEq]
  have count : addedCount (history ++ [.added new]) = addedCount history + 1 := addedCount_snoc _
  constructor
  · exact lawful_snoc_iff.2 ⟨ledger.lawful, notAdded⟩
  · rw [count, ← lastId]
  · rw [count]
    exact few
  · intro task added
    rcases (addedIff task).1 added with old | rfl
    · have bounds := ledger.ids task old
      simp only
      omega
    · simp only
      omega
  · intro task other added otherAdded same
    rcases (addedIff task).1 added with old | rfl
    · rcases (addedIff other).1 otherAdded with otherOld | rfl
      · exact ledger.unique task other old otherOld same
      · exact absurd same (notAdded task old)
    · rcases (addedIff other).1 otherAdded with otherOld | rfl
      · exact absurd same.symm (notAdded other otherOld)
      · rfl
  · intro task
    rw [mem_cons, ledger.queued task]
    by_cases same : task = new
    · refine iff_of_true (Or.inl same) ?_
      rw [same]
      refine ⟨(addedIff new).2 (Or.inr rfl), fun runTask popped => ?_⟩
      rw [mem_append, mem_singleton] at popped
      rcases popped with popped | isAdded
      · exact absent (popped_added ledger.lawful popped)
      · cases isAdded
    · rw [or_iff_right same, pending_snoc_iff]
      · exact fun isAdded => same (Occurrence.added.inj isAdded).symm
      · exact fun _ isPopped => nomatch isPopped
  · refine nodup_cons.2 ⟨fun queued => ?_, ledger.nodup⟩
    exact absent ((ledger.queued new).1 queued).1
  · intro eventid
    have noStop :
        .stopped eventid true ∈ history ++ [.added new] ↔ .stopped eventid true ∈ history := by
      rw [mem_append, mem_singleton]
      exact or_iff_left fun isAdded => nomatch isAdded
    simp only [Finset.mem_insert, ledger.valid eventid, exists_mem_cons_iff, noStop, newId]
    refine or_congr ⟨fun same => ⟨same.symm, fun stopped => ?_⟩, fun same => same.1.symm⟩ Iff.rfl
    rcases stopped_added ledger.lawful stopped with ⟨task, added, isId⟩
    have bound := (ledger.ids task added).2
    omega

lemma valid_iff (eventid : Nat) :
  eventid ∈ scheduler.m_eventIds ↔
    ∃ task, Pending history task ∧ task.m_eventid = eventid ∧
      .stopped eventid true ∉ history := by
  rw [ledger.valid eventid]
  refine exists_congr fun task => ?_
  rw [ledger.queued task]

lemma stop
  {returned : Bool} {m_eventIds : Finset Nat} (rule : Rule history (.stopped eventid returned))
  (valid :
    ∀ other, other ∈ m_eventIds ↔
      other ∈ scheduler.m_eventIds ∧ ¬ (other = eventid ∧ returned = true)) :
  Ledger { scheduler with m_eventIds := m_eventIds }
    (history ++ [.stopped eventid returned]) := by
  have addedIff (task : SchedulerTask) :
      .added task ∈ history ++ [.stopped eventid returned] ↔ .added task ∈ history := by
    rw [mem_append, mem_singleton]
    exact or_iff_left fun isStop => nomatch isStop
  have count : addedCount (history ++ [.stopped eventid returned]) = addedCount history :=
    addedCount_snoc _
  constructor
  · exact lawful_snoc_iff.2 ⟨ledger.lawful, rule⟩
  · rw [count]
    exact ledger.lastId
  · rw [count]
    exact ledger.few
  · intro task added
    exact ledger.ids task ((addedIff task).1 added)
  · intro task other added otherAdded
    exact ledger.unique task other ((addedIff task).1 added) ((addedIff other).1 otherAdded)
  · intro task
    rw [ledger.queued task, pending_snoc_iff]
    · exact fun isAdded => nomatch isAdded
    · exact fun _ isPopped => nomatch isPopped
  · exact ledger.nodup
  · intro other
    have stopIff :
        .stopped other true ∈ history ++ [.stopped eventid returned] ↔
          .stopped other true ∈ history ∨ other = eventid ∧ returned = true := by
      rw [mem_append, mem_singleton, Occurrence.stopped.injEq, @eq_comm Bool true]
    rw [valid other, ledger.valid other]
    simp only [stopIff, not_or]
    constructor
    · rintro ⟨⟨task, queued, same, running⟩, other⟩
      exact ⟨task, queued, same, running, other⟩
    · rintro ⟨task, queued, same, running, other⟩
      exact ⟨⟨task, queued, same, running⟩, other⟩

lemma stopEvent (eventid : Nat) :
  Ledger (scheduler.stopEvent eventid).1
    (history ++ [.stopped eventid (scheduler.stopEvent eventid).2]) := by
  have refused (invalid : eventid ∉ scheduler.m_eventIds) :
      Ledger scheduler (history ++ [.stopped eventid false]) := by
    refine ledger.stop ?_ fun other => ?_
    · rw [ledger.valid_iff] at invalid
      exact iff_of_false Bool.false_ne_true invalid
    · exact (and_iff_left fun isStop => nomatch isStop.2).symm
  rw [Scheduler.stopEvent]
  split
  · rename_i isZero
    refine refused fun valid => ?_
    rcases (ledger.valid_iff eventid).1 valid with ⟨task, pending, same, -⟩
    have positive := (ledger.ids task pending.1).1
    omega
  · split
    · rename_i valid
      refine ledger.stop ?_ fun other => ?_
      · exact iff_of_true rfl ((ledger.valid_iff eventid).1 valid)
      · rw [Finset.mem_erase, and_iff_left rfl, and_comm]
    · rename_i invalid
      exact refused invalid

lemma runTask_iff (queued : task ∈ scheduler.m_eventList) :
  (scheduler.take task).2 = true ↔ .stopped task.m_eventid true ∉ history := by
  simp only [Scheduler.take, decide_eq_true_eq]
  rw [ledger.valid]
  constructor
  · rintro ⟨-, -, -, running⟩
    exact running
  · intro running
    exact ⟨task, queued, rfl, running⟩

lemma take (isTop : IsTop scheduler.m_eventList task) :
  Ledger (scheduler.take task).1 (history ++ [.popped task (scheduler.take task).2]) := by
  have pending := (ledger.queued task).1 isTop.1
  have runs := ledger.runTask_iff isTop.1
  revert runs
  generalize (scheduler.take task).2 = runTask
  intro runs
  have addedIff (other : SchedulerTask) :
      .added other ∈ history ++ [.popped task runTask] ↔ .added other ∈ history := by
    rw [mem_append, mem_singleton]
    exact or_iff_left fun isPop => nomatch isPop
  have stoppedIff (eventid : Nat) :
      .stopped eventid true ∈ history ++ [.popped task runTask] ↔
        .stopped eventid true ∈ history := by
    rw [mem_append, mem_singleton]
    exact or_iff_left fun isPop => nomatch isPop
  have count : addedCount (history ++ [.popped task runTask]) = addedCount history :=
    addedCount_snoc _
  constructor
  · refine lawful_snoc_iff.2 ⟨ledger.lawful, pending, runs, ?_⟩
    intro other otherPending
    exact isTop.2 other ((ledger.queued other).2 otherPending)
  · rw [count]
    exact ledger.lastId
  · rw [count]
    exact ledger.few
  · intro other added
    exact ledger.ids other ((addedIff other).1 added)
  · intro other another added otherAdded
    exact ledger.unique other another ((addedIff other).1 added) ((addedIff another).1 otherAdded)
  · intro other
    simp only [Scheduler.take]
    rw [ledger.nodup.mem_erase_iff, ledger.queued other]
    by_cases same : other = task
    · refine iff_of_false (fun kept => kept.1 same) fun kept => ?_
      refine kept.2 runTask ?_
      rw [same]
      exact mem_append_right history mem_cons_self
    · rw [and_iff_right same, pending_snoc_iff]
      · exact fun isAdded => nomatch isAdded
      · intro _ isPopped
        exact same (Occurrence.popped.inj isPopped).1.symm
  · exact ledger.nodup.erase task
  · intro eventid
    simp only [Scheduler.take, Finset.mem_erase, stoppedIff]
    rw [ledger.valid eventid]
    constructor
    · rintro ⟨ne, other, queued, same, running⟩
      refine ⟨other, ?_, same, running⟩
      refine ledger.nodup.mem_erase_iff.2 ⟨?_, queued⟩
      rintro rfl
      exact ne same.symm
    · rintro ⟨other, kept, same, running⟩
      rcases ledger.nodup.mem_erase_iff.1 kept with ⟨ne, queued⟩
      refine ⟨fun isId => ne ?_, other, queued, same, running⟩
      exact ledger.unique other task ((ledger.queued other).1 queued).1 pending.1 (same.trans isId)

end Ledger

end Ledgers

/-! ## The cases of a step -/

inductive Taken (system : System) : Event → System → Prop where
  | tick {time : Nat} (later : system.now ≤ time) :
      Taken system (.tick time) { system with now := time }
  | addEvent {m_cycle : Nat} {do_signal : Bool}
      (signals : MaySignal system.scheduler m_cycle do_signal) :
      Taken system (.addEvent m_cycle do_signal)
        { system with
          scheduler := (system.scheduler.addEvent (createSchedulerTask m_cycle)).1
          signals := if do_signal then system.signals + 1 else system.signals
          history :=
            system.history ++
              [.added (system.scheduler.addEvent (createSchedulerTask m_cycle)).2] }
  | stopEvent (eventid : Nat) :
      Taken system (.stopEvent eventid)
        { system with
          scheduler := (system.scheduler.stopEvent eventid).1
          history := system.history ++ [.stopped eventid (system.scheduler.stopEvent eventid).2] }
  | notify (pending : 0 < system.signals) :
      Taken system .notify
        { system with
          signals := system.signals - 1
          thread := system.thread.signalled }
  | wait (idle : system.thread = .idle) :
      Taken system .wait { system with thread := .waiting system.scheduler.deadline }
  | wake {deadline : Option Nat}
      (waits : system.thread = .waiting deadline) :
      Taken system .wake { system with thread := .woken true }
  | timeout {deadline : Nat}
      (waits : system.thread = .waiting (some deadline))
      (inTime : deadline ≤ system.now) :
      Taken system .timeout { system with thread := .woken false }
  | again (woken : system.thread = .woken true) :
      Taken system .again { system with thread := .idle }
  | take {task : SchedulerTask} (woken : system.thread = .woken false)
      (isTop : IsTop system.scheduler.m_eventList task) :
      Taken system (.take task)
        { system with
          scheduler := (system.scheduler.take task).1
          thread := .holding task (system.scheduler.take task).2
          history := system.history ++ [.popped task (system.scheduler.take task).2] }
  | hand {task : SchedulerTask} {runTask : Bool}
      (holds : system.thread = .holding task runTask) :
      Taken system .hand
        { system with
          thread := .idle
          history :=
            system.history ++ [if runTask then .handed task system.now else .deleted task] }

lemma step_taken {system next : System} (step : Step system event next) :
  Taken system event next := by
  rw [Step] at step
  cases event with
  | tick time =>
    rw [System.step, Option.ite_none_right_eq_some] at step
    cases step.2
    exact .tick step.1
  | addEvent m_cycle do_signal =>
    rw [System.step, Option.ite_none_right_eq_some] at step
    cases step.2
    exact .addEvent step.1
  | stopEvent eventid =>
    cases step
    exact .stopEvent eventid
  | notify =>
    rw [System.step, Option.ite_none_right_eq_some] at step
    cases step.2
    exact .notify step.1
  | wait =>
    rw [System.step, Option.ite_none_right_eq_some] at step
    cases step.2
    exact .wait step.1
  | wake =>
    rw [System.step] at step
    split at step
    · rename_i deadline waits
      cases step
      exact .wake waits
    · cases step
  | timeout =>
    rw [System.step] at step
    split at step
    · rename_i deadline waits
      rw [Option.ite_none_right_eq_some] at step
      cases step.2
      exact .timeout waits step.1
    · cases step
  | again =>
    rw [System.step, Option.ite_none_right_eq_some] at step
    cases step.2
    exact .again step.1
  | take task =>
    rw [System.step, Option.ite_none_right_eq_some] at step
    cases step.2
    exact .take step.1.1 step.1.2
  | hand =>
    rw [System.step] at step
    split at step
    · rename_i task runTask holds
      cases step
      exact .hand holds
    · cases step

/-! ## Steps -/

section Steps

variable {system next : System}

lemma Settled.mono (settled : Settled history task runTask) (occurrence : Occurrence) :
  Settled (history ++ [occurrence]) task runTask := by
  rw [Settled] at settled ⊢
  split at settled
  · rename_i runs
    rw [if_pos runs]
    rcases settled with ⟨time, handed⟩
    exact ⟨time, mem_append_left _ handed⟩
  · rename_i stopped
    rw [if_neg stopped]
    exact mem_append_left _ settled

lemma InHand.settled (inHand : InHand system)
  (empty : ∀ task runTask, system.thread ≠ .holding task runTask)
  (popped : .popped task runTask ∈ system.history) : Settled system.history task runTask :=
  (inHand.held task runTask popped).resolve_left (empty task runTask)

lemma tick_sound (sound : Sound system) (later : system.now ≤ time) :
  Sound { system with now := time } := by
  have inHand := sound.inHand
  refine ⟨sound.ledger, inHand.held, ?_, ?_, inHand.awaited, inHand.armed⟩
  · intro task runTask holds
    rcases inHand.holding task runTask holds with ⟨popped, notHanded, notDeleted, inTime⟩
    exact ⟨popped, notHanded, notDeleted, Nat.le_trans inTime later⟩
  · intro woken
    rcases inHand.due woken with ⟨task, queued, inTime⟩
    exact ⟨task, queued, Nat.le_trans inTime later⟩

/-- The thread goes on with empty hands. -/
lemma thread_sound (sound : Sound system) {signals : Nat}
  (wasEmpty : ∀ task runTask, system.thread ≠ .holding task runTask)
  (isEmpty : ∀ task runTask, thread ≠ .holding task runTask)
  (due :
    thread = .woken false → ∃ task ∈ system.scheduler.m_eventList, task.m_cycle ≤ system.now)
  (awaited :
    ∀ deadline, thread = .waiting (some deadline) →
      ∃ task ∈ system.scheduler.m_eventList, task.m_cycle ≤ deadline)
  (armed :
    ∀ deadline, thread = .waiting deadline →
      0 < signals ∨
        ∀ task ∈ system.scheduler.m_eventList,
          ∃ time, deadline = some time ∧ time ≤ task.m_cycle) :
  Sound { system with thread := thread, signals := signals } where
  ledger := sound.ledger
  inHand :=
    { held := fun _ _ popped =>
        Or.inr (sound.inHand.settled wasEmpty popped)
      holding := fun task runTask holds => absurd holds (isEmpty task runTask)
      due := due
      awaited := awaited
      armed := armed }

lemma deadline_some (isDeadline : scheduler.deadline = some time) :
  (∃ task ∈ scheduler.m_eventList, task.m_cycle = time) ∧
    ∀ task ∈ scheduler.m_eventList, time ≤ task.m_cycle := by
  rw [Scheduler.deadline, List.min?_eq_some_iff, mem_map] at isDeadline
  refine ⟨isDeadline.1, fun task queued => ?_⟩
  exact isDeadline.2 _ (mem_map_of_mem queued)

lemma deadline_none (noDeadline : scheduler.deadline = none) : scheduler.m_eventList = [] := by
  rw [Scheduler.deadline, List.min?_eq_none_iff] at noDeadline
  exact map_eq_nil_iff.1 noDeadline

section

variable (sound : Sound system)
include sound

lemma wait_sound (idle : system.thread = .idle) :
  Sound { system with thread := .waiting system.scheduler.deadline } := by
  refine thread_sound sound ?_ ?_ ?_ ?_ ?_
  · intro task runTask holds
    exact nomatch idle.symm.trans holds
  · intro _ _ holds
    exact nomatch holds
  · intro woken
    exact nomatch woken
  · intro deadline same
    rw [Thread.waiting.injEq] at same
    rcases (deadline_some same).1 with ⟨task, queued, atTime⟩
    exact ⟨task, queued, Nat.le_of_eq atTime⟩
  · intro deadline same
    rw [Thread.waiting.injEq] at same
    refine Or.inr fun task queued => ?_
    rcases deadline with _ | time
    · rw [deadline_none same] at queued
      exact absurd queued not_mem_nil
    · exact ⟨time, rfl, (deadline_some same).2 task queued⟩

lemma wake_sound
  {deadline : Option Nat} (signals : Nat) (waits : system.thread = .waiting deadline) :
  Sound { system with thread := .woken true, signals := signals } := by
  refine thread_sound sound ?_ ?_ ?_ ?_ ?_
  · intro task runTask holds
    exact nomatch waits.symm.trans holds
  · intro _ _ holds
    exact nomatch holds
  · intro woken
    exact nomatch woken
  · intro _ same
    exact nomatch same
  · intro _ same
    exact nomatch same

lemma timeout_sound {deadline : Nat} (waits : system.thread = .waiting (some deadline))
  (inTime : deadline ≤ system.now) : Sound { system with thread := .woken false } := by
  refine thread_sound sound ?_ ?_ ?_ ?_ ?_
  · intro task runTask holds
    exact nomatch waits.symm.trans holds
  · intro _ _ holds
    exact nomatch holds
  · intro _
    rcases sound.inHand.awaited deadline waits with ⟨task, queued, before⟩
    exact ⟨task, queued, Nat.le_trans before inTime⟩
  · intro _ same
    exact nomatch same
  · intro _ same
    exact nomatch same

lemma again_sound (woken : system.thread = .woken true) :
  Sound { system with thread := .idle } := by
  refine thread_sound sound ?_ ?_ ?_ ?_ ?_
  · intro task runTask holds
    exact nomatch woken.symm.trans holds
  · intro _ _ holds
    exact nomatch holds
  · intro same
    exact nomatch same
  · intro _ same
    exact nomatch same
  · intro _ same
    exact nomatch same

end

lemma signalled_eq (awake : ∀ deadline, ¬ thread = .waiting deadline) :
  thread.signalled = thread := by
  cases thread with
  | waiting deadline => exact absurd rfl (awake deadline)
  | _ => rfl

section

variable (sound : Sound system)
include sound

lemma lost_signal_sound (signals : Nat) (awake : ∀ deadline, system.thread ≠ .waiting deadline) :
  Sound { system with signals := signals } where
  ledger := sound.ledger
  inHand := { sound.inHand with armed := fun deadline waits => absurd waits (awake deadline) }

lemma notify_sound (signals : Nat) :
  Sound
    { system with
      signals := signals
      thread := system.thread.signalled } := by
  by_cases waits : ∃ deadline, system.thread = .waiting deadline
  · rcases waits with ⟨deadline, waits⟩
    have woken : system.thread.signalled = .woken true := by
      rw [waits, Thread.signalled]
    rw [woken]
    exact wake_sound sound signals waits
  · rw [signalled_eq (not_exists.1 waits)]
    exact lost_signal_sound sound signals (not_exists.1 waits)

lemma held_snoc (noPop : ∀ task runTask, occurrence ≠ .popped task runTask) :
  ∀ task runTask, .popped task runTask ∈ system.history ++ [occurrence] →
    system.thread = .holding task runTask ∨
      Settled (system.history ++ [occurrence]) task runTask := by
  intro task runTask popped
  rw [mem_append, mem_singleton, or_iff_left (noPop task runTask).symm] at popped
  exact (sound.inHand.held task runTask popped).imp_right fun settled => settled.mono occurrence

lemma holding_snoc (noHand : ∀ task time, occurrence ≠ .handed task time)
  (noDelete : ∀ task, occurrence ≠ .deleted task) :
  ∀ task runTask, system.thread = .holding task runTask →
    .popped task runTask ∈ system.history ++ [occurrence] ∧
      (∀ time, .handed task time ∉ system.history ++ [occurrence]) ∧
      .deleted task ∉ system.history ++ [occurrence] ∧
      task.m_cycle ≤ system.now := by
  intro task runTask holds
  rcases sound.inHand.holding task runTask holds with ⟨popped, notHanded, notDeleted, inTime⟩
  simp only [mem_append, mem_singleton]
  refine ⟨Or.inl popped, fun time => ?_, ?_, inTime⟩
  · exact not_or.2 ⟨notHanded time, (noHand task time).symm⟩
  · exact not_or.2 ⟨notDeleted, (noDelete task).symm⟩

lemma addEvent_sound (few : addedCount system.history + 1 < 2 ^ 32) {m_cycle : Nat}
    {do_signal : Bool} (signals : MaySignal system.scheduler m_cycle do_signal) :
    Sound
      { system with
        scheduler := (system.scheduler.addEvent (createSchedulerTask m_cycle)).1
        signals := if do_signal then system.signals + 1 else system.signals
        history :=
          system.history ++
            [.added (system.scheduler.addEvent (createSchedulerTask m_cycle)).2] } := by
  have ledger := sound.ledger.addEvent few m_cycle
  refine ⟨ledger, ?_⟩
  rw [sound.ledger.addEvent_eq few] at ledger ⊢
  constructor
  · exact held_snoc sound fun _ _ isPopped => nomatch isPopped
  · exact holding_snoc sound (fun _ _ isHanded => nomatch isHanded)
      fun _ isDeleted => nomatch isDeleted
  · intro woken
    rcases sound.inHand.due woken with ⟨task, queued, inTime⟩
    exact ⟨task, mem_cons_of_mem _ queued, inTime⟩
  · intro deadline waits
    rcases sound.inHand.awaited deadline waits with ⟨task, queued, before⟩
    exact ⟨task, mem_cons_of_mem _ queued, before⟩
  · intro deadline waits
    rw [MaySignal] at signals
    cases do_signal with
    | true => exact Or.inl (Nat.succ_pos system.signals)
    | false =>
      rcases sound.inHand.armed deadline waits with pending | all
      · exact Or.inl pending
      · refine Or.inr (forall_mem_cons.2 ⟨?_, all⟩)
        rcases signals with ⟨other, queued, earlier⟩
        rcases all other queued with ⟨time, same, before⟩
        exact ⟨time, same, Nat.le_trans before earlier⟩

end

lemma stopEvent_list (scheduler : Scheduler) (eventid : Nat) :
  (scheduler.stopEvent eventid).1.m_eventList = scheduler.m_eventList := by
  rw [Scheduler.stopEvent]
  split
  · rfl
  · split <;> rfl

lemma stopEvent_sound (sound : Sound system) (eventid : Nat) :
    Sound
      { system with
        scheduler := (system.scheduler.stopEvent eventid).1
        history :=
          system.history ++ [.stopped eventid (system.scheduler.stopEvent eventid).2] } := by
  refine ⟨sound.ledger.stopEvent eventid, ?_⟩
  have list := stopEvent_list system.scheduler eventid
  constructor
  · exact held_snoc sound fun _ _ isPopped => nomatch isPopped
  · exact holding_snoc sound (fun _ _ isHanded => nomatch isHanded)
      fun _ isDeleted => nomatch isDeleted
  · intro woken
    rw [list]
    exact sound.inHand.due woken
  · intro deadline waits
    rw [list]
    exact sound.inHand.awaited deadline waits
  · intro deadline waits
    rw [list]
    exact sound.inHand.armed deadline waits

lemma handed_popped (lawful : Lawful Rule history) (handed : .handed task time ∈ history) :
  .popped task true ∈ history ∧ task.m_cycle ≤ time := by
  rcases append_of_mem handed with ⟨before, after, rfl⟩
  have rule := lawful before _ after rfl
  exact ⟨mem_append_left _ rule.1, rule.2.1⟩

lemma deleted_popped (lawful : Lawful Rule history) (deleted : .deleted task ∈ history) :
  .popped task false ∈ history := by
  rcases append_of_mem deleted with ⟨before, after, rfl⟩
  have rule := lawful before _ after rfl
  exact mem_append_left _ rule.1

lemma take_sound (sound : Sound system) (woken : system.thread = .woken false)
  (isTop : IsTop system.scheduler.m_eventList task) :
  Sound
    { system with
      scheduler := (system.scheduler.take task).1
      thread := .holding task (system.scheduler.take task).2
      history := system.history ++ [.popped task (system.scheduler.take task).2] } := by
  refine ⟨sound.ledger.take isTop, ?_⟩
  have lawful := sound.ledger.lawful
  have pending := (sound.ledger.queued task).1 isTop.1
  constructor
  · intro other runTask popped
    rw [mem_append, mem_singleton] at popped
    rcases popped with popped | same
    · refine Or.inr (Settled.mono ?_ _)
      refine sound.inHand.settled (fun _ _ holds => ?_) popped
      exact nomatch woken.symm.trans holds
    · rcases Occurrence.popped.inj same with ⟨rfl, rfl⟩
      exact Or.inl rfl
  · intro other runTask holds
    rcases Thread.holding.inj holds with ⟨rfl, rfl⟩
    simp only [mem_append, mem_singleton]
    refine ⟨Or.inr trivial, fun time => ?_, ?_, ?_⟩
    · rintro (handed | isHanded)
      · exact pending.2 true (handed_popped lawful handed).1
      · cases isHanded
    · rintro (deleted | isDeleted)
      · exact pending.2 false (deleted_popped lawful deleted)
      · cases isDeleted
    · rcases sound.inHand.due woken with ⟨first, queued, inTime⟩
      exact Nat.le_trans (isTop.2 first queued) inTime
  · intro same
    exact nomatch same
  · intro _ same
    exact nomatch same
  · intro _ same
    exact nomatch same

lemma hand_sound (sound : Sound system) (holds : system.thread = .holding task runTask) :
    Sound
      { system with
        thread := .idle
        history :=
          system.history ++
            [if runTask then .handed task system.now
              else .deleted task] } := by
  rcases sound.inHand.holding task runTask holds with ⟨popped, notHanded, notDeleted, inTime⟩
  constructor
  · cases runTask with
    | true =>
      refine sound.ledger.settle ?_ (Or.inl ⟨task, _, rfl⟩)
      exact ⟨popped, inTime, notHanded⟩
    | false =>
      refine sound.ledger.settle ?_ (Or.inr ⟨task, rfl⟩)
      exact ⟨popped, notDeleted⟩
  · constructor
    · intro other otherRuns otherPopped
      refine Or.inr ?_
      have old : .popped other otherRuns ∈ system.history := by
        rw [mem_append, mem_singleton] at otherPopped
        refine otherPopped.resolve_right fun same => ?_
        cases runTask <;> cases same
      rcases sound.inHand.held other otherRuns old with same | settled
      · rcases Thread.holding.inj (holds.symm.trans same) with ⟨rfl, rfl⟩
        rw [Settled]
        split
        · exact ⟨system.now, mem_append_right _ mem_cons_self⟩
        · exact mem_append_right _ mem_cons_self
      · exact settled.mono _
    · intro _ _ same
      exact nomatch same
    · intro same
      exact nomatch same
    · intro _ same
      exact nomatch same
    · intro _ same
      exact nomatch same

lemma step_sound
  (sound : Sound system) (few : Few system event)
  (step : Step system event next) : Sound next := by
  cases step_taken step with
  | tick later => exact tick_sound sound later
  | addEvent signals => exact addEvent_sound sound few signals
  | stopEvent eventid => exact stopEvent_sound sound eventid
  | notify pending => exact notify_sound sound (system.signals - 1)
  | wait idle => exact wait_sound sound idle
  | wake waits => exact wake_sound sound system.signals waits
  | timeout waits inTime => exact timeout_sound sound waits inTime
  | again woken => exact again_sound sound woken
  | take woken isTop => exact take_sound sound woken isTop
  | hand holds => exact hand_sound sound holds

lemma reached_sound
  {now : Nat} (run : Reaches Step Few (System.initial now) system) : Sound system :=
  run.invariant (initial_sound now) fun _ _ _ sound few taken => step_sound sound few taken

end Steps

end OTServ.Scheduling
