import OTServ.Library.FairRuns
import OTServ.Scheduling.SchedulerRuns

/-!
# What the scheduler promises

In every state a task was handed over or deleted at most once, handed over only in
time and never if it was stopped, deleted only if it was stopped; and it left the
queue before all the tasks queued with a later cycle time.  The delivery itself is
out of the lock: a task which is added between the removal of another one from the
queue and its delivery may have an earlier cycle time and is handed over later.

Nothing is forgotten in a fair run.  There the clock goes on, the thread proceeds
outside of its wait, a signal is sent at last, and a thread that finds itself in a
wait whose time has passed again and again is at last told so.
-/

namespace OTServ.Scheduling

open Library.FairRuns
open Library.GuardedRuns
open Library.Histories
open List Option

def handedTo (task : SchedulerTask) : Occurrence → Bool
  | .handed other _ => decide (other = task)
  | _ => false

structure Promised (history : List Occurrence) : Prop where
  handed_once : ∀ task, history.countP (handedTo task) ≤ 1
  deleted_once : ∀ task, history.count (.deleted task) ≤ 1
  handed_added : ∀ task time, .handed task time ∈ history → .added task ∈ history
  handed_in_time : ∀ task time, .handed task time ∈ history → task.m_cycle ≤ time
  stopped_not_handed :
    ∀ task, .added task ∈ history →
      .stopped task.m_eventid true ∈ history → ∀ time, .handed task time ∉ history
  deleted_stopped :
    ∀ task, .deleted task ∈ history →
      .added task ∈ history ∧ .stopped task.m_eventid true ∈ history
  stopped_exactly :
    ∀ before eventid returned after,
      history = before ++ .stopped eventid returned :: after →
        (returned = true ↔
          ∃ task, Pending before task ∧ task.m_eventid = eventid ∧ .stopped eventid true ∉ before)
  popped_in_order :
    ∀ before task runTask after,
      history = before ++ .popped task runTask :: after →
        ∀ other, Pending before other → task.m_cycle ≤ other.m_cycle

lemma Ledger.promised {scheduler : Scheduler} {history : List Occurrence}
  (ledger : Ledger scheduler history) : Promised history := by
  have lawful := ledger.lawful
  constructor
  · intro task
    refine lawful.countP_le_one (handedTo task) ?_
    intro before occurrence isHanded rule other isBefore otherHanded
    cases occurrence with
    | handed first time =>
      cases other with
      | handed second earlier =>
        have same : second = first :=
          (of_decide_eq_true otherHanded).trans (of_decide_eq_true isHanded).symm
        rw [same] at isBefore
        exact rule.2.2 earlier isBefore
      | _ => cases otherHanded
    | _ => cases isHanded
  · intro task
    refine lawful.countP_le_one (· == .deleted task) ?_
    intro before occurrence isDeleted rule other isBefore otherDeleted
    rw [beq_iff_eq] at isDeleted otherDeleted
    subst isDeleted
    subst otherDeleted
    exact rule.2 isBefore
  · intro task time handed
    exact popped_added lawful (handed_popped lawful handed).1
  · intro task time handed
    exact (handed_popped lawful handed).2
  · intro task added stopped time handed
    have popped := (handed_popped lawful handed).1
    rcases append_of_mem popped with ⟨before, after, split⟩
    rcases append_of_mem stopped with ⟨earlier, later, stopSplit⟩
    have popRule := lawful before _ after split
    have stopRule := lawful earlier _ later stopSplit
    rcases stopRule.1 rfl with ⟨other, pending, sameId, -⟩
    have otherAdded : .added other ∈ history := by
      rw [stopSplit]
      exact mem_append_left _ pending.1
    have same := ledger.unique other task otherAdded added sameId
    subst same
    rcases mem_before_or split stopSplit (fun same => nomatch same) with stopFirst | popFirst
    · exact popRule.2.1.1 rfl stopFirst
    · exact pending.2 true popFirst
  · intro task deleted
    have popped := deleted_popped lawful deleted
    refine ⟨popped_added lawful popped, ?_⟩
    rcases append_of_mem popped with ⟨before, after, split⟩
    have rule := lawful before _ after split
    have stopped : .stopped task.m_eventid true ∈ before := by
      by_contra running
      exact Bool.false_ne_true (rule.2.1.2 running)
    rw [split]
    exact mem_append_left _ stopped
  · intro before eventid returned after split
    exact lawful before _ after split
  · intro before task runTask after split
    exact (lawful before _ after split).2.2

abbrev Run (now : Nat) :=
  InfiniteRun Step Few (System.initial now)

def Due (system : System) : Prop :=
  ∃ deadline, system.thread = .waiting (some deadline) ∧ deadline ≤ system.now

def Event.Proceeds : Event → Prop
  | .wait | .again | .take _ | .hand => True
  | _ => False

/-- What the clock, the threads and the condition variable do at last. -/
structure Fair {now : Nat} (run : Run now) : Prop where
  clock : ∀ index time, ∃ later, index ≤ later ∧ time ≤ (run.state later).now
  proceeds :
    ∀ index, (∀ deadline, (run.state index).thread ≠ .waiting deadline) →
      ∃ later, index ≤ later ∧ (run.event later).Proceeds
  notified :
    ∀ index, 0 < (run.state index).signals → ∃ later, index ≤ later ∧ run.event later = .notify
  expires :
    ∀ index,
      (∀ start, index ≤ start →
        ∃ later, start ≤ later ∧ Due (run.state later)) →
        ∃ later, index ≤ later ∧ run.event later = .timeout

/-! ## Steps towards a task -/

section Progress

variable {system next : System} {event : Event} {task : SchedulerTask}

structure Ready (task : SchedulerTask) (system : System) : Prop where
  sound : Sound system
  queued : task ∈ system.scheduler.m_eventList
  inTime : task.m_cycle ≤ system.now

def Popped (task : SchedulerTask) (system : System) : Prop :=
  ∃ runTask, .popped task runTask ∈ system.history

/-- What may still be added counts twice, what is queued once. -/
def rank (system : System) : Nat :=
  2 * (2 ^ 32 - addedCount system.history) + system.scheduler.m_eventList.length

def Nearer (task : SchedulerTask) (bound : Nat) (system : System) : Prop :=
  Popped task system ∨ Ready task system ∧ rank system < bound

lemma history_grows (step : Step system event next) :
  ∃ more, next.history = system.history ++ more := by
  cases step_taken step with
  | addEvent | stopEvent | take | hand => exact ⟨_, rfl⟩
  | tick | notify | wait | wake | timeout | again =>
    exact ⟨[], (append_nil _).symm⟩

section

variable (ready : Ready task system)
include ready

variable (few : Few system event)
include few

lemma Ready.kept (step : Step system event next)
  (noAddition : ∀ m_cycle do_signal, event ≠ .addEvent m_cycle do_signal)
  (noTake : ∀ other, event ≠ .take other) : Ready task next ∧ rank next = rank system := by
  have sound := step_sound ready.sound few step
  have queued := ready.queued
  have inTime := ready.inTime
  have noCount (occurrence : Occurrence)
      (none : addedCount [occurrence] = 0) :
      addedCount (system.history ++ [occurrence]) = addedCount system.history := by
    rw [addedCount_snoc, none, Nat.add_zero]
  cases step_taken step with
  | tick later =>
    exact ⟨⟨sound, queued, Nat.le_trans inTime later⟩, rfl⟩
  | addEvent signals => exact absurd rfl (noAddition _ _)
  | stopEvent eventid =>
    have list := stopEvent_list system.scheduler eventid
    refine ⟨⟨sound, ?_, inTime⟩, ?_⟩
    · simp only [list]
      exact queued
    · have count := noCount (.stopped eventid (system.scheduler.stopEvent eventid).2) rfl
      simp only [rank, list, count]
  | notify | wait | wake | timeout | again =>
    exact ⟨⟨sound, queued, inTime⟩, rfl⟩
  | take woken isTop => exact absurd rfl (noTake _)
  | @hand other runTask holds =>
    refine ⟨⟨sound, queued, inTime⟩, ?_⟩
    have none :
        addedCount
            [if runTask then .handed other system.now
              else .deleted other] = 0 := by
      cases runTask <;> rfl
    simp only [rank, noCount _ none]

lemma Ready.nearer (step : Step system event next)
  (moves :
    (∃ m_cycle do_signal, event = .addEvent m_cycle do_signal) ∨ ∃ other, event = .take other) :
  Nearer task (rank system) next := by
  have sound := step_sound ready.sound few step
  cases step_taken step with
  | @addEvent m_cycle do_signal signals =>
    simp only [Few] at few
    have eq := ready.sound.ledger.addEvent_eq few m_cycle
    have count :
        addedCount
            (system.history ++
              [.added (system.scheduler.addEvent (createSchedulerTask m_cycle)).2]) =
          addedCount system.history + 1 :=
      addedCount_snoc _
    have list :
        (system.scheduler.addEvent
            (createSchedulerTask m_cycle)).1.m_eventList.length =
          system.scheduler.m_eventList.length + 1 := by
      rfl
    refine Or.inr ⟨⟨sound, ?_, ready.inTime⟩, ?_⟩
    · simp only [eq]
      exact mem_cons_of_mem _ ready.queued
    · simp only [rank, count, list]
      omega
  | @take other woken isTop =>
    by_cases same : task = other
    · refine Or.inl ⟨(system.scheduler.take other).2, ?_⟩
      rw [same]
      exact mem_append_right _ mem_cons_self
    · have kept : task ∈ system.scheduler.m_eventList.erase other :=
        (mem_erase_of_ne same).2 ready.queued
      have shorter := length_erase_of_mem isTop.1
      have some := length_pos_of_mem isTop.1
      have count :
          addedCount
              (system.history ++ [.popped other (system.scheduler.take other).2]) =
            addedCount system.history :=
        addedCount_snoc _
      refine Or.inr ⟨⟨sound, kept, ready.inTime⟩, ?_⟩
      simp only [rank, count]
      simp only [Scheduler.take, shorter]
      omega
  | _ => rcases moves with ⟨_, _, same⟩ | ⟨_, same⟩ <;> cases same

lemma Ready.step (step : Step system event next) :
  Ready task next ∧ rank next = rank system ∨ Nearer task (rank system) next := by
  by_cases moves :
      (∃ m_cycle do_signal, event = .addEvent m_cycle do_signal) ∨ ∃ other, event = .take other
  · exact Or.inr (ready.nearer few step moves)
  · rw [not_or] at moves
    refine Or.inl (ready.kept few step ?_ ?_)
    · exact fun m_cycle do_signal same => moves.1 ⟨m_cycle, do_signal, same⟩
    · exact fun other same => moves.2 ⟨other, same⟩

end

lemma thread_kept
  (step : Step system event next) (awake : ∀ deadline, system.thread ≠ .waiting deadline)
  (foreign : ¬ event.Proceeds) : next.thread = system.thread := by
  cases step_taken step with
  | tick | addEvent | stopEvent => rfl
  | notify pending => exact signalled_eq awake
  | wake waits | timeout waits inTime => exact absurd waits (awake _)
  | wait | again | take | hand => exact absurd trivial foreign

lemma waiting_step {deadline : Option Nat} (waits : system.thread = .waiting deadline)
  (step : Step system event next) :
  next.thread = system.thread ∧ system.signals ≤ next.signals ∧
      event ≠ .notify ∧ event ≠ .timeout ∨
    ∃ ret, next.thread = .woken ret := by
  cases step_taken step with
  | tick | stopEvent =>
    exact Or.inl ⟨rfl, Nat.le_refl _, by rintro ⟨⟩, by rintro ⟨⟩⟩
  | @addEvent m_cycle do_signal signals =>
    refine Or.inl ⟨rfl, ?_, by rintro ⟨⟩, by rintro ⟨⟩⟩
    split
    · exact Nat.le_succ _
    · exact Nat.le_refl _
  | notify pending =>
    refine Or.inr ⟨true, ?_⟩
    simp only [waits, Thread.signalled]
  | wake => exact Or.inr ⟨true, rfl⟩
  | timeout => exact Or.inr ⟨false, rfl⟩
  | wait idle => cases waits.symm.trans idle
  | again woken | take woken isTop => cases waits.symm.trans woken
  | hand holds => cases waits.symm.trans holds

end Progress

/-! ## Fairness at work -/

section Runs

variable {now : Nat} {run : Run now} {task : SchedulerTask} {bound : Nat}

def At (task : SchedulerTask) (bound : Nat) (stands : Thread → Prop) (system : System) : Prop :=
  Ready task system ∧ rank system = bound ∧ stands system.thread

lemma at_step
  {stands : Thread → Prop} (index : Nat) (here : At task bound stands (run.state index)) :
  Ready task (run.state (index + 1)) ∧
      rank (run.state (index + 1)) = bound ∨
    Nearer task bound (run.state (index + 1)) := by
  rcases here with ⟨ready, same, -⟩
  rw [← same]
  exact ready.step (run.allowed index) (run.taken index)

section

variable (fair : Fair run)
include fair

/--
A thread out of its wait goes on with one of its own steps, and so does what it
stands before.
-/
lemma proceeds_leadsTo {stands : Thread → Prop} {there : System → Prop}
  (awake : ∀ deadline, ¬ stands (.waiting deadline))
  (goes :
    ∀ system event next, At task bound stands system →
      Few system event → Step system event next → event.Proceeds →
        there next ∨ Nearer task bound next) :
  run.LeadsTo (At task bound stands) fun system => there system ∨ Nearer task bound system := by
  refine InfiniteRun.LeadsTo.of_helped ?_ ?_
  · intro index here
    by_cases proceeds : (run.event index).Proceeds
    · exact Or.inr (goes _ _ _ here (run.allowed index) (run.taken index) proceeds)
    · rcases at_step index here with ⟨ready, same⟩ | nearer
      · have thread := thread_kept (run.taken index)
          (fun deadline waits => awake deadline (waits ▸ here.2.2))
          proceeds
        refine Or.inl ⟨ready, same, ?_⟩
        rw [thread]
        exact here.2.2
      · exact Or.inr (Or.inr nearer)
  · intro index here
    rcases fair.proceeds index
      (fun deadline waits => awake deadline (waits ▸ here.2.2))
      with ⟨later, after, proceeds⟩
    exact ⟨later, after, fun still =>
      goes _ _ _ still (run.allowed later) (run.taken later) proceeds⟩

lemma timedOut_leadsTo : run.LeadsTo (At task bound (· = .woken false)) (Nearer task bound) := by
  have leads :
      run.LeadsTo (At task bound (· = .woken false))
        fun system => False ∨ Nearer task bound system := by
    refine proceeds_leadsTo fair (fun _ same => nomatch same) ?_
    rintro system event next ⟨ready, same, thread⟩ few step proceeds
    cases step_taken step with
    | take woken isTop =>
      rw [← same]
      exact Or.inr (ready.nearer few step (Or.inr ⟨_, rfl⟩))
    | wait idle => exact nomatch thread.symm.trans idle
    | again woken => exact nomatch thread.symm.trans woken
    | hand holds => exact nomatch thread.symm.trans holds
    | _ => exact proceeds.elim
  exact leads.trans (InfiniteRun.LeadsTo.of_implies fun _ reached => reached.resolve_left id)

lemma busy_leadsTo :
  run.LeadsTo
    (At task bound fun thread =>
      thread = .woken true ∨ ∃ other runTask, thread = .holding other runTask)
    fun system => At task bound (· = .idle) system ∨ Nearer task bound system := by
  refine proceeds_leadsTo fair ?_ ?_
  · rintro deadline (same | ⟨other, runTask, same⟩) <;> cases same
  · rintro system event next ⟨ready, same, thread⟩ few step proceeds
    have idle (nextIdle : next.thread = .idle)
        (kept : Ready task next ∧ rank next = rank system) :
        At task bound (· = .idle) next ∨ Nearer task bound next :=
      Or.inl ⟨kept.1, kept.2.trans same, nextIdle⟩
    cases step_taken step with
    | wait isIdle =>
      rw [isIdle] at thread
      rcases thread with same | ⟨_, _, same⟩ <;> cases same
    | again woken =>
      exact idle rfl (ready.kept few step (fun _ _ isAdd =>
        nomatch isAdd) fun _ isTake => nomatch isTake)
    | take woken isTop =>
      rw [woken] at thread
      rcases thread with same | ⟨_, _, same⟩ <;> cases same
    | hand holds =>
      exact idle rfl (ready.kept few step (fun _ _ isAdd =>
        nomatch isAdd) fun _ isTake => nomatch isTake)
    | _ => exact proceeds.elim

lemma idle_leadsTo :
  run.LeadsTo (At task bound (· = .idle))
    fun system =>
      (Ready task system ∧ rank system = bound ∧ Due system) ∨ Nearer task bound system := by
  refine proceeds_leadsTo fair (fun _ same => nomatch same) ?_
  rintro system event next ⟨ready, same, thread⟩ few step proceeds
  cases step_taken step with
  | wait idle =>
    have kept := ready.kept few step (fun _ _ isAdd => nomatch isAdd)
      fun _ isTake => nomatch isTake
    refine Or.inl ⟨kept.1, kept.2.trans same, ?_⟩
    rcases isDeadline : system.scheduler.deadline with _ | deadline
    · have queued := ready.queued
      rw [deadline_none isDeadline] at queued
      exact absurd queued not_mem_nil
    · refine ⟨deadline, rfl, ?_⟩
      exact Nat.le_trans ((deadline_some isDeadline).2 task ready.queued) ready.inTime
  | again woken | take woken isTop => exact nomatch thread.symm.trans woken
  | hand holds => exact nomatch thread.symm.trans holds
  | _ => exact proceeds.elim

/-- A wait which was outdated by an earlier task is ended by its signal. -/
lemma signalled_leadsTo :
  run.LeadsTo
    (fun system =>
      At task bound (fun thread => ∃ deadline, thread = .waiting deadline)
          system ∧
        0 < system.signals)
    fun system =>
      At task bound (fun thread => ∃ ret, thread = .woken ret) system ∨
        Nearer task bound system := by
  refine InfiniteRun.LeadsTo.of_helped ?_ ?_
  · rintro index ⟨here, pending⟩
    rcases at_step index here with kept | nearer
    · rcases here.2.2 with ⟨deadline, waits⟩
      rcases waiting_step waits (run.taken index) with ⟨thread, signals, -⟩ | woken
      · exact Or.inl ⟨⟨kept.1, kept.2, deadline, thread.trans waits⟩,
          Nat.lt_of_lt_of_le pending signals⟩
      · exact Or.inr (Or.inl ⟨kept.1, kept.2, woken⟩)
    · exact Or.inr (Or.inr nearer)
  · rintro index ⟨here, pending⟩
    rcases fair.notified index pending with ⟨later, after, isNotify⟩
    refine ⟨later, after, ?_⟩
    rintro ⟨still, -⟩
    rcases at_step later still with kept | nearer
    · rcases still.2.2 with ⟨deadline, waits⟩
      rcases waiting_step waits (run.taken later) with ⟨-, -, noNotify, -⟩ | woken
      · exact absurd isNotify noNotify
      · exact Or.inl ⟨kept.1, kept.2, woken⟩
    · exact Or.inr nearer

lemma ready_leadsTo_due :
  run.LeadsTo (fun system => Ready task system ∧ rank system = bound)
    fun system =>
      (Ready task system ∧ rank system = bound ∧ Due system) ∨ Nearer task bound system := by
  -- from the head of the loop, from behind a wait, and from a signalled wait
  have fromIdle :
      run.LeadsTo
        (fun system => At task bound (· = .idle) system ∨ Nearer task bound system)
        fun system =>
          (Ready task system ∧ rank system = bound ∧ Due system) ∨ Nearer task bound system := by
    rintro index (idle | nearer)
    · exact idle_leadsTo fair index idle
    · exact ⟨index, Nat.le_refl index, Or.inr nearer⟩
  have fromBusy :
      run.LeadsTo
        (At task bound fun thread =>
          thread = .woken true ∨ ∃ other runTask, thread = .holding other runTask)
        fun system =>
          (Ready task system ∧ rank system = bound ∧ Due system) ∨ Nearer task bound system :=
    (busy_leadsTo fair).trans fromIdle
  have fromWoken :
      run.LeadsTo
        (fun system =>
          At task bound (fun thread => ∃ ret, thread = .woken ret) system ∨
            Nearer task bound system)
        fun system =>
          (Ready task system ∧ rank system = bound ∧ Due system) ∨ Nearer task bound system := by
    rintro index (⟨ready, same, ret, woken⟩ | nearer)
    · cases ret with
      | true => exact fromBusy index ⟨ready, same, Or.inl woken⟩
      | false =>
        rcases timedOut_leadsTo fair index ⟨ready, same, woken⟩ with ⟨later, after, nearer⟩
        exact ⟨later, after, Or.inr nearer⟩
    · exact ⟨index, Nat.le_refl index, Or.inr nearer⟩
  have fromSignal :
      run.LeadsTo
        (fun system =>
          At task bound
              (fun thread => ∃ deadline, thread = .waiting deadline)
              system ∧
            0 < system.signals)
        fun system =>
          (Ready task system ∧ rank system = bound ∧ Due system) ∨ Nearer task bound system :=
    (signalled_leadsTo fair).trans fromWoken
  rintro index ⟨ready, same⟩
  rcases isThread : (run.state index).thread with _ | deadline | ret | ⟨other, runTask⟩
  · exact fromIdle index (Or.inl ⟨ready, same, isThread⟩)
  · rcases ready.sound.inHand.armed deadline isThread with pending | all
    · exact fromSignal index ⟨⟨ready, same, deadline, isThread⟩, pending⟩
    · rcases all task ready.queued with ⟨time, rfl, before⟩
      refine ⟨index, Nat.le_refl index, Or.inl ⟨ready, same, time, ?_⟩⟩
      exact ⟨isThread, Nat.le_trans before ready.inTime⟩
  · exact fromWoken index (Or.inl ⟨ready, same, ret, isThread⟩)
  · exact fromBusy index ⟨ready, same, Or.inr ⟨other, runTask, isThread⟩⟩

lemma ready_leadsTo_nearer :
  run.LeadsTo (fun system => Ready task system ∧ rank system = bound) (Nearer task bound) := by
  rintro index ⟨ready, same⟩
  by_contra never
  have notNearer (later : Nat) (after : index ≤ later) : ¬ Nearer task bound (run.state later) :=
    fun nearer => never ⟨later, after, nearer⟩
  have still :
      ∀ later, index ≤ later → Ready task (run.state later) ∧ rank (run.state later) = bound := by
    intro later after
    induction after with
    | refl => exact ⟨ready, same⟩
    | step after ih =>
      have here : At task bound (fun _ => True) (run.state _) := ⟨ih.1, ih.2, trivial⟩
      have next := at_step _ here
      exact next.resolve_right (notNearer _ (Nat.le_succ_of_le after))
  have oftenDue : ∀ start, index ≤ start → ∃ later, start ≤ later ∧ Due (run.state later) := by
    intro start after
    rcases ready_leadsTo_due fair start (still start after) with ⟨later, afterStart, due | nearer⟩
    · exact ⟨later, afterStart, due.2.2⟩
    · exact absurd nearer (notNearer later (Nat.le_trans after afterStart))
  rcases fair.expires index oftenDue with ⟨later, after, isTimeout⟩
  have timedOut : (run.state (later + 1)).thread = .woken false := by
    have taken := step_taken (run.taken later)
    rw [isTimeout] at taken
    revert taken
    generalize run.state (later + 1) = next
    intro taken
    cases taken
    rfl
  have there := still (later + 1) (Nat.le_succ_of_le after)
  rcases timedOut_leadsTo fair (later + 1)
    ⟨there.1, there.2, timedOut⟩ with ⟨last, afterLater, nearer⟩
  exact notNearer last (Nat.le_trans (Nat.le_succ_of_le after) afterLater) nearer

lemma ready_leadsTo_popped : run.LeadsTo (Ready task) (Popped task) :=
  InfiniteRun.LeadsTo.of_rank rank fun _ => ready_leadsTo_nearer fair

end

def Done (task : SchedulerTask) (system : System) : Prop :=
  (∃ time, .handed task time ∈ system.history) ∨
    .deleted task ∈ system.history ∧ .stopped task.m_eventid true ∈ system.history

lemma Settled.done {system : System} {runTask : Bool} (sound : Sound system)
  (settled : Settled system.history task runTask) : Done task system := by
  rw [Settled] at settled
  split at settled
  · exact Or.inl settled
  · exact Or.inr ⟨settled, (sound.ledger.promised.deleted_stopped task settled).2⟩

lemma popped_leadsTo_done (fair : Fair run) : run.LeadsTo (Popped task) (Done task) := by
  -- the thread still has the task in its hand
  have fromHand (runTask : Bool) :
      run.LeadsTo
        (fun system => Sound system ∧ system.thread = .holding task runTask)
        (Done task) := by
    have goes
        (index : Nat) (sound : Sound (run.state index))
        (holds : (run.state index).thread = .holding task runTask)
        (proceeds : (run.event index).Proceeds) :
        Done task (run.state (index + 1)) := by
      have next := step_sound sound (run.allowed index) (run.taken index)
      have taken := step_taken (run.taken index)
      have popped := (sound.inHand.holding task runTask holds).1
      rcases history_grows (run.taken index) with ⟨more, grows⟩
      have still : .popped task runTask ∈ (run.state (index + 1)).history := by
        rw [grows]
        exact mem_append_left _ popped
      have empty :
          ∀ other otherRuns, (run.state (index + 1)).thread ≠ .holding other otherRuns := by
        intro other otherRuns again
        revert proceeds taken again
        generalize run.event index = event
        generalize run.state (index + 1) = after
        intro proceeds taken again
        cases taken with
        | hand => cases again
        | wait idle => cases holds.symm.trans idle
        | again woken | take woken isTop => cases holds.symm.trans woken
        | _ => exact proceeds.elim
      exact (next.inHand.settled empty still).done next
    refine InfiniteRun.LeadsTo.of_helped ?_ ?_
    · rintro index ⟨sound, holds⟩
      have awake (deadline : Option Nat) : (run.state index).thread ≠ .waiting deadline :=
        fun waits => nomatch holds.symm.trans waits
      by_cases proceeds : (run.event index).Proceeds
      · exact Or.inr (goes index sound holds proceeds)
      · have thread := thread_kept (run.taken index) awake proceeds
        exact Or.inl ⟨step_sound sound (run.allowed index) (run.taken index), thread.trans holds⟩
    · rintro index ⟨sound, holds⟩
      have awake (deadline : Option Nat) : (run.state index).thread ≠ .waiting deadline :=
        fun waits => nomatch holds.symm.trans waits
      rcases fair.proceeds index awake with ⟨later, after, proceeds⟩
      exact ⟨later, after, fun still => goes later still.1 still.2 proceeds⟩
  rintro index ⟨runTask, popped⟩
  have sound := reached_sound (run.reaches index)
  rcases sound.inHand.held task runTask popped with holds | settled
  · exact fromHand runTask index ⟨sound, holds⟩
  · exact ⟨index, Nat.le_refl index, settled.done sound⟩

lemma added_leadsTo_done (fair : Fair run) :
  run.LeadsTo (fun system => .added task ∈ system.history) (Done task) := by
  intro index added
  rcases fair.clock index task.m_cycle with ⟨later, after, inTime⟩
  have sound := reached_sound (run.reaches later)
  have still : .added task ∈ (run.state later).history := by
    refine run.lasts (fun system => .added task ∈ system.history) ?_ after added
    intro between now
    rcases history_grows (run.taken between) with ⟨more, grows⟩
    rw [grows]
    exact mem_append_left _ now
  have popped : ∃ last, later ≤ last ∧ Popped task (run.state last) := by
    by_cases taken : Popped task (run.state later)
    · exact ⟨later, Nat.le_refl later, taken⟩
    · have queued := (sound.ledger.queued task).2 ⟨still, not_exists.1 taken⟩
      exact ready_leadsTo_popped fair later ⟨sound, queued, inTime⟩
  rcases popped with ⟨last, afterLater, taken⟩
  rcases popped_leadsTo_done fair last taken with ⟨end_, afterLast, done⟩
  exact ⟨end_, Nat.le_trans after (Nat.le_trans afterLater afterLast), done⟩

end Runs

/--
In every state the history keeps the promises, and in a fair run every task that
was added is handed over, or stopped and deleted.
-/
theorem events_run_once (now : Nat) :
  (∀ system, Reaches Step Few (System.initial now) system →
    Promised system.history) ∧
    ∀ run : Run now, Fair run →
      ∀ index task, .added task ∈ (run.state index).history →
        ∃ later, index ≤ later ∧ Done task (run.state later) := by
  constructor
  · intro system run
    exact (reached_sound run).ledger.promised
  · intro run fair index task added
    exact added_leadsTo_done fair index added

/-! ## Runs -/

/-- The states of a run from its events, as long as they can be taken. -/
def played (event : Nat → Event) : Nat → System
  | 0 => System.initial 0
  | index + 1 =>
    ((played event index).step (event index)).getD (played event index)

section Played

variable {event : Nat → Event} {index : Nat}

lemma played_step (some : ((played event index).step (event index)).isSome) :
  Step (played event index) (event index) (played event (index + 1)) := by
  rcases isSome_iff_exists.1 some with ⟨next, isNext⟩
  rw [Step, isNext, played, isNext, getD_some]

lemma few_of_count {system : System} (count : addedCount system.history + 1 < 2 ^ 32)
  (event : Event) : Few system event := by
  cases event with
  | addEvent => exact count
  | _ => trivial

lemma played_reaches
  (possible :
    ∀ earlier < index,
      ((played event earlier).step (event earlier)).isSome ∧
        addedCount (played event earlier).history + 1 < 2 ^ 32) :
  Reaches Step Few (System.initial 0) (played event index) := by
  induction index with
  | zero => exact Reaches.refl
  | succ index ih =>
    have before := ih fun earlier isEarlier => possible earlier (Nat.lt_succ_of_lt isEarlier)
    have now := possible index (Nat.lt_succ_self index)
    exact Reaches.tail before (few_of_count now.2 _) (played_step now.1)

end Played

namespace OneTask

/-- A task is added, waited for, taken and handed over; then only time passes. -/
def event (index : Nat) : Event :=
  ([.addEvent 5 true, .notify, .wait, .tick 7, .timeout, .take ⟨5, 1⟩,
    .hand, .wait] : List Event)[index]?.getD (.tick index)

def quiet (now : Nat) : System where
  scheduler :=
    { m_lastEventId := 1
      m_eventList := []
      m_eventIds := ∅ }
  now := now
  thread := .waiting none
  signals := 0
  history := [.added ⟨5, 1⟩, .popped ⟨5, 1⟩ true, .handed ⟨5, 1⟩ 7]

lemma quiet_step (index : Nat) :
  (quiet (index + 7)).step (event (index + 8)) = some (quiet (index + 8)) :=
  if_pos (Nat.le_succ (index + 7))

lemma played_late (index : Nat) : played event (index + 8) = quiet (index + 7) := by
  induction index with
  | zero => decide +kernel
  | succ index ih =>
    show ((played event (index + 8)).step (event (index + 8))).getD _ = _
    rw [ih, quiet_step, getD_some]

lemma early_or_late (index : Nat) : index < 8 ∨ ∃ later, index = later + 8 := by
  by_cases early : index < 8
  · exact Or.inl early
  · exact Or.inr ⟨index - 8, by omega⟩

lemma possible (index : Nat) :
  ((played event index).step (event index)).isSome ∧
    addedCount (played event index).history + 1 < 2 ^ 32 := by
  rcases early_or_late index with early | ⟨later, rfl⟩
  · have all :
        ∀ index < 8,
          ((played event index).step (event index)).isSome ∧
            addedCount (played event index).history + 1 < 2 ^ 32 := by
      decide +kernel
    exact all index early
  · rw [played_late, quiet_step]
    exact ⟨rfl, show 1 + 1 < 2 ^ 32 by decide⟩

def run : Run 0 where
  state := played event
  event := event
  first := rfl
  allowed := fun index => few_of_count (possible index).2 _
  taken := fun index => played_step (possible index).1

lemma fair : Fair run where
  clock := by
    intro index time
    refine ⟨index + time + 8, by omega, ?_⟩
    have late : run.state (index + time + 8) = _ := played_late _
    rw [late]
    show time ≤ index + time + 7
    omega
  proceeds := by
    intro index awake
    rcases early_or_late index with early | ⟨later, rfl⟩
    · exact ⟨7, by omega, trivial⟩
    · have late : run.state (later + 8) = _ := played_late later
      rw [late] at awake
      exact absurd rfl (awake none)
  notified := by
    intro index pending
    rcases early_or_late index with early | ⟨later, rfl⟩
    · have all : ∀ index < 8, 0 < (played event index).signals → index ≤ 1 := by
        decide +kernel
      exact ⟨1, all index early pending, rfl⟩
    · have late : run.state (later + 8) = _ := played_late later
      rw [late] at pending
      exact absurd pending (Nat.lt_irrefl 0)
  expires := by
    intro index often
    rcases often (index + 8) (by omega) with ⟨later, after, due⟩
    rcases early_or_late later with early | ⟨rest, rfl⟩
    · omega
    · have late : run.state (rest + 8) = _ := played_late rest
      rw [late] at due
      rcases due with ⟨deadline, waits, -⟩
      cases waits

end OneTask

/-- The promise for a task which is added, waited for and handed over. -/
theorem events_run_once_one_task : ∃ later, Done ⟨5, 1⟩ (OneTask.run.state later) := by
  have added : .added ⟨5, 1⟩ ∈ (OneTask.run.state 1).history := by
    decide +kernel
  rcases (events_run_once 0).2 OneTask.run OneTask.fair 1 ⟨5, 1⟩ added with ⟨later, -, done⟩
  exact ⟨later, done⟩

/--
A task is added after another one with a later cycle time was taken from the queue
and before that one is handed over.
-/
def overtaken (index : Nat) : Event :=
  ([.addEvent 60 true, .notify, .wait, .tick 60, .timeout,
    .take ⟨60, 1⟩, .addEvent 50 true, .hand, .wait, .timeout,
    .take ⟨50, 2⟩, .hand] : List Event)[index]?.getD .notify

/-- The task is queued when the other one is handed over, and handed over after it. -/
theorem later_task_handed_first :
  ∃ system, Reaches Step Few (System.initial 0) system ∧
    ∃ before after,
      system.history = before ++ .handed ⟨60, 1⟩ 60 :: after ∧
        Pending before ⟨50, 2⟩ ∧ .handed ⟨50, 2⟩ 60 ∈ after := by
  have history :
      (played overtaken 12).history =
        [.added ⟨60, 1⟩, .popped ⟨60, 1⟩ true, .added ⟨50, 2⟩] ++
          .handed ⟨60, 1⟩ 60 :: [.popped ⟨50, 2⟩ true, .handed ⟨50, 2⟩ 60] := by
    decide +kernel
  refine ⟨played overtaken 12, played_reaches (by decide +kernel), _, _,
    history, ⟨by decide, ?_⟩, by decide⟩
  intro runTask
  cases runTask <;> decide

end OTServ.Scheduling
