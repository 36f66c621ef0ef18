import OTServ.WorldEvents.GlobalEvents
import OTServ.Library.GuardedRuns
import Mathlib.Data.List.Induction
import Mathlib.Tactic.Linarith

/-!
# Runs of the global events

What the loops of `timer()` and `think()` execute is right however often they run: a
think event is due again when its interval has passed, and a timer event at its next
time, a day later.  The tasks are right as long as `clear` stops them.  But a task
that has been executed schedules another one, whose id nobody remembers, and `clear`
does not stop that one.
-/

namespace OTServ.WorldEvents

open Library Library.GuardedRuns
open List

/-! ## The loops -/

namespace GlobalEvents

def executionsOf (executed : List Execution) (number : Nat) : List Execution :=
  executed.filter fun execution => execution.event.number = number

lemma executionsOf_append (executed : List Execution) (execution : Execution) (number : Nat) :
  executionsOf (executed ++ [execution]) number =
    executionsOf executed number ++
      if execution.event.number = number then [execution] else [] := by
  by_cases same : execution.event.number = number
  · simp [executionsOf, filter_append, same]
  · simp [executionsOf, filter_append, same]

section Loops

variable {isDue : GlobalEvent → Bool} {change : GlobalEvent → GlobalEvent} {now : Int}

lemma executeAll_preserves (holds : Executing → Prop)
  (preserved :
    ∀ state name event,
      holds state → state.map.find? name = some event → isDue event = true →
        holds
          { map := state.map.insert name (change event)
            executed := state.executed ++ [⟨event, now⟩] }) {state : Executing}
  (kept : holds state) : holds (executeAll isDue change now state) := by
  rw [executeAll]
  generalize state.map.entries.map Prod.fst = names
  induction names generalizing state with
  | nil => exact kept
  | cons name names ih =>
    refine ih ?_
    rw [executeEvent]
    cases found : state.map.find? name with
    | none => exact kept
    | some event =>
      dsimp only
      split_ifs with due
      · exact preserved state name event kept found due
      · exact kept

lemma executeAll_contains (state : Executing) (name : String) :
  (executeAll isDue change now state).map.contains name = state.map.contains name := by
  refine executeAll_preserves
    (fun other => other.map.contains name = state.map.contains name) ?_ rfl
  intro other changed event same found _
  rw [← same]
  by_cases equal : name = changed
  · subst equal
    simp [OrderedMap.contains, found]
  · rw [OrderedMap.contains, OrderedMap.contains, OrderedMap.find?_insert_ne _ _ equal]

end Loops

/-- The events of a map have numbers of their own, and so has the next one. -/
structure Numbered (state : Executing) (next : Nat) : Prop where
  unique :
    ∀ name other event event',
      state.map.find? name = some event → state.map.find? other = some event' →
        event.number = event'.number → name = other
  below : ∀ name event, state.map.find? name = some event → event.number < next
  executed : ∀ execution ∈ state.executed, execution.event.number < next

namespace Numbered

variable {state : Executing} {next : Nat}

lemma mono (numbered : Numbered state next) {later : Nat} (more : next ≤ later) :
  Numbered state later where
  unique := numbered.unique
  below name event found := (numbered.below name event found).trans_le more
  executed execution member := (numbered.executed execution member).trans_le more

variable {name : String} {event : GlobalEvent}

variable (numbered : Numbered state next)
include numbered

lemma execute {change : GlobalEvent → GlobalEvent} {now : Int}
  (found : state.map.find? name = some event) (keeps : (change event).number = event.number) :
  Numbered
    { map := state.map.insert name (change event)
      executed := state.executed ++ [⟨event, now⟩] } next where
  unique one two first second foundOne foundTwo same := by
    rw [OrderedMap.find?_insert] at foundOne foundTwo
    split_ifs at foundOne foundTwo with atOne atTwo atTwo
    · exact atOne.trans atTwo.symm
    · rw [← Option.some.inj foundOne, keeps] at same
      exact atOne.trans (numbered.unique name two event second found foundTwo same)
    · rw [← Option.some.inj foundTwo, keeps] at same
      exact (numbered.unique one name first event foundOne found same).trans atTwo.symm
    · exact numbered.unique one two first second foundOne foundTwo same
  below other found' foundOther := by
    rw [OrderedMap.find?_insert] at foundOther
    split_ifs at foundOther with same
    · rw [← Option.some.inj foundOther, keeps]
      exact numbered.below name event found
    · exact numbered.below other found' foundOther
  executed execution member := by
    rcases mem_append.mp member with old | new
    · exact numbered.executed execution old
    · rw [mem_singleton.mp new]
      exact numbered.below name event found

lemma insert (fresh : event.number = next) :
  Numbered { state with map := state.map.insert name event } (next + 1) where
  unique one two first second foundOne foundTwo same := by
    rw [OrderedMap.find?_insert] at foundOne foundTwo
    split_ifs at foundOne foundTwo with atOne atTwo atTwo
    · exact atOne.trans atTwo.symm
    · have less := numbered.below two second foundTwo
      rw [← same, ← Option.some.inj foundOne, fresh] at less
      exact absurd less (lt_irrefl _)
    · have less := numbered.below one first foundOne
      rw [same, ← Option.some.inj foundTwo, fresh] at less
      exact absurd less (lt_irrefl _)
    · exact numbered.unique one two first second foundOne foundTwo same
  below other found foundOther := by
    rw [OrderedMap.find?_insert] at foundOther
    split_ifs at foundOther with same
    · rw [← Option.some.inj foundOther, fresh]
      exact Nat.lt_succ_self _
    · exact Nat.lt_succ_of_lt (numbered.below other found foundOther)
  executed execution member := Nat.lt_succ_of_lt (numbered.executed execution member)

lemma clear : Numbered { state with map := OrderedMap.empty } next where
  unique _ _ _ _ found := by simp at found
  below _ _ found := by simp at found
  executed := numbered.executed

lemma number_ne {other : String} {event' : GlobalEvent}
  (found : state.map.find? name = some event) (foundOther : state.map.find? other = some event')
  (ne : other ≠ name) : event.number ≠ event'.number :=
  fun same => ne (numbered.unique name other event event' found foundOther same).symm

end Numbered

/-! ## The timer events -/

/-- What holds of the timer events and of what has been executed of them. -/
structure TimerKept (state : Executing) (next : Nat) : Prop where
  numbered : Numbered state next
  /-- an event has been executed once for each day that its next time is past the first -/
  counted :
    ∀ name event, state.map.find? name = some event →
      event.m_nextExecution = event.first + day * (executionsOf state.executed event.number).length
  before :
    ∀ name event, state.map.find? name = some event →
      ∀ execution ∈ executionsOf state.executed event.number,
        execution.event.first = event.first ∧
        execution.event.m_nextExecution < event.m_nextExecution
  times :
    ∀ (number k : Nat) (execution : Execution),
      (executionsOf state.executed number)[k]? = some execution →
        execution.event.m_nextExecution = execution.event.first + day * k ∧
        execution.event.first + day * k ≤ execution.now
  apart :
    state.executed.Pairwise fun earlier later =>
      earlier.event.number = later.event.number →
        earlier.event.first = later.event.first ∧
        earlier.event.m_nextExecution < later.event.m_nextExecution

variable {number : Nat} {system : GlobalEvents} {event : GlobalEvent}

lemma mem_executionsOf {executed : List Execution} {execution : Execution} :
  execution ∈ executionsOf executed number ↔
    execution ∈ executed ∧ execution.event.number = number := by
  simp [executionsOf]

namespace TimerKept

variable {state : Executing} {next : Nat}

variable {name : String} {event : GlobalEvent}

variable (kept : TimerKept state next)
include kept

lemma execute
  {now : Int} (found : state.map.find? name = some event) (due : timerDue now event = true) :
  TimerKept
    { map := state.map.insert name (setNextDay event)
      executed := state.executed ++ [⟨event, now⟩] } next where
  numbered := kept.numbered.execute found rfl
  counted other event' foundOther := by
    rw [OrderedMap.find?_insert] at foundOther
    rw [executionsOf_append]
    have counted := kept.counted name event found
    split_ifs at foundOther with same
    · obtain rfl := Option.some.inj foundOther
      simp only [setNextDay, if_true, length_append, length_singleton]
      push_cast
      linarith
    · rw [if_neg (kept.numbered.number_ne found foundOther same), append_nil]
      exact kept.counted other event' foundOther
  before other event' foundOther execution member := by
    rw [OrderedMap.find?_insert] at foundOther
    rw [executionsOf_append] at member
    split_ifs at foundOther with same
    · obtain rfl := Option.some.inj foundOther
      have less : event.m_nextExecution < (setNextDay event).m_nextExecution := by
        simp only [setNextDay, day]
        linarith
      have own : event.number = (setNextDay event).number := rfl
      rw [if_pos own] at member
      rcases mem_append.mp member with old | new
      · obtain ⟨first, earlier⟩ := kept.before name event found execution old
        exact ⟨first, earlier.trans less⟩
      · rw [mem_singleton.mp new]
        exact ⟨rfl, less⟩
    · rw [if_neg (kept.numbered.number_ne found foundOther same), append_nil] at member
      exact kept.before other event' foundOther execution member
  times number k execution at_ := by
    rw [executionsOf_append] at at_
    split_ifs at at_ with same
    · rcases lt_or_ge k (executionsOf state.executed number).length with inside | behind
      · rw [List.getElem?_append_left inside] at at_
        exact kept.times number k execution at_
      · rw [List.getElem?_append_right behind] at at_
        obtain ⟨rfl, length⟩ :
            (⟨event, now⟩ : Execution) = execution ∧
              k = (executionsOf state.executed number).length := by
          cases past : k - (executionsOf state.executed number).length with
          | zero =>
            rw [past] at at_
            exact ⟨Option.some.inj at_, by omega⟩
          | succ more =>
            rw [past] at at_
            cases at_
        have counted := kept.counted name event found
        rw [same, ← length] at counted
        refine ⟨counted, ?_⟩
        rw [← counted]
        simpa [timerDue] using due
    · rw [append_nil] at at_
      exact kept.times number k execution at_
  apart := by
    refine pairwise_append.mpr ⟨kept.apart, pairwise_singleton _ _, ?_⟩
    rintro earlier member later new same
    rw [mem_singleton.mp new] at same ⊢
    exact kept.before name event found earlier (mem_executionsOf.mpr ⟨member, same⟩)

lemma insert (fresh : event.number = next) (atFirst : event.m_nextExecution = event.first) :
  TimerKept { state with map := state.map.insert name event } (next + 1) where
  numbered := kept.numbered.insert fresh
  counted other event' foundOther := by
    rw [OrderedMap.find?_insert] at foundOther
    split_ifs at foundOther with same
    · obtain rfl := Option.some.inj foundOther
      have none_ : executionsOf state.executed event.number = [] := by
        refine filter_eq_nil_iff.mpr fun execution member => ?_
        have less := kept.numbered.executed execution member
        simp only [decide_eq_true_eq]
        omega
      simp [none_, atFirst]
    · exact kept.counted other event' foundOther
  before other event' foundOther execution member := by
    dsimp only at foundOther member
    rw [OrderedMap.find?_insert] at foundOther
    split_ifs at foundOther with same
    · obtain rfl := Option.some.inj foundOther
      obtain ⟨member, number⟩ := mem_executionsOf.mp member
      have less := kept.numbered.executed execution member
      omega
    · exact kept.before other event' foundOther execution member
  times := kept.times
  apart := kept.apart

lemma clear : TimerKept { state with map := OrderedMap.empty } next where
  numbered := kept.numbered.clear
  counted _ _ found := by simp at found
  before _ _ found := by simp at found
  times := kept.times
  apart := kept.apart

lemma mono {later : Nat} (more : next ≤ later) : TimerKept state later where
  numbered := kept.numbered.mono more
  counted := kept.counted
  before := kept.before
  times := kept.times
  apart := kept.apart

end TimerKept

/-- What holds of the think events and of what has been executed of them. -/
structure ThinkKept (state : Executing) (next : Nat) : Prop where
  numbered : Numbered state next
  before :
    ∀ name event, state.map.find? name = some event →
      ∀ execution ∈ executionsOf state.executed event.number,
        execution.event.m_interval = event.m_interval ∧
        execution.now ≤ event.m_lastExecution
  positive : ∀ name event, state.map.find? name = some event → 0 ≤ event.m_interval
  apart :
    state.executed.Pairwise fun earlier later =>
      earlier.event.number = later.event.number →
        earlier.now + earlier.event.m_interval ≤ later.now

namespace ThinkKept

variable {state : Executing} {next : Nat}

variable {name : String} {event : GlobalEvent}

variable (kept : ThinkKept state next)
include kept

lemma execute
  {now : Int} (found : state.map.find? name = some event) (due : thinkDue now event = true) :
  ThinkKept
    { map := state.map.insert name (setLastExecution now event)
      executed := state.executed ++ [⟨event, now⟩] } next := by
  have passed : event.m_lastExecution + event.m_interval ≤ now := by
    simpa [thinkDue] using due
  have positive := kept.positive name event found
  exact {
    numbered := kept.numbered.execute found rfl
    before := by
      intro other event' foundOther execution mem
      rw [OrderedMap.find?_insert] at foundOther
      rw [executionsOf_append] at mem
      split_ifs at foundOther with same
      · obtain rfl := Option.some.inj foundOther
        rw [setLastExecution, if_pos rfl] at mem
        rcases mem_append.mp mem with old | new
        · obtain ⟨interval, earlier⟩ := kept.before name event found execution old
          exact ⟨interval, by simp only [setLastExecution]; linarith⟩
        · rw [mem_singleton.mp new]
          exact ⟨rfl, le_refl now⟩
      · rw [if_neg (kept.numbered.number_ne found foundOther same), append_nil] at mem
        exact kept.before other event' foundOther execution mem
    positive := by
      intro other event' foundOther
      rw [OrderedMap.find?_insert] at foundOther
      split_ifs at foundOther with same
      · obtain rfl := Option.some.inj foundOther
        exact positive
      · exact kept.positive other event' foundOther
    apart := by
      refine pairwise_append.mpr ⟨kept.apart, pairwise_singleton _ _, ?_⟩
      rintro earlier mem later new same
      rw [mem_singleton.mp new] at same ⊢
      obtain ⟨interval, earlier⟩ :=
        kept.before name event found earlier (mem_executionsOf.mpr ⟨mem, same⟩)
      linarith }

lemma insert (fresh : event.number = next) (positive : 0 ≤ event.m_interval) :
  ThinkKept { state with map := state.map.insert name event } (next + 1) where
  numbered := kept.numbered.insert fresh
  before other event' foundOther execution member := by
    rw [OrderedMap.find?_insert] at foundOther
    split_ifs at foundOther with same
    · obtain rfl := Option.some.inj foundOther
      obtain ⟨member, number⟩ := mem_executionsOf.mp member
      have less := kept.numbered.executed execution member
      omega
    · exact kept.before other event' foundOther execution member
  positive other event' foundOther := by
    rw [OrderedMap.find?_insert] at foundOther
    split_ifs at foundOther with same
    · exact Option.some.inj foundOther ▸ positive
    · exact kept.positive other event' foundOther
  apart := kept.apart

lemma clear : ThinkKept { state with map := OrderedMap.empty } next where
  numbered := kept.numbered.clear
  before _ _ found := by simp at found
  positive _ _ found := by simp at found
  apart := kept.apart

lemma mono {later : Nat} (more : next ≤ later) : ThinkKept state later where
  numbered := kept.numbered.mono more
  before := kept.before
  positive := kept.positive
  apart := kept.apart

end ThinkKept

def ofKind (kind : GlobalTask) (job : GlobalTask) : Option Unit :=
  if job = kind then some () else none

def waiting (kind : GlobalTask) (tasks : DeferredTasks GlobalTask) : List Unit :=
  tasks.select (ofKind kind)

/-- One task of a kind waits if events of the kind have been registered, or none. -/
structure OneTask (kind : GlobalTask) (id : Nat) (map : GlobalEventMap)
  (tasks : DeferredTasks GlobalTask) : Prop where
  atMost : (waiting kind tasks).length ≤ 1
  unscheduled : id = 0 → waiting kind tasks = []
  unregistered : (∀ name, map.contains name = false) → id = 0

namespace OneTask

variable {kind : GlobalTask} {id : Nat} {map : GlobalEventMap} {tasks : DeferredTasks GlobalTask}

lemma other {job : GlobalTask} (one : OneTask kind id map tasks) (ne : job ≠ kind) :
  OneTask kind id map (tasks.add job) := by
  have same : waiting kind (tasks.add job) = waiting kind tasks := by
    simp [waiting, ofKind, ne]
  exact {
    atMost := same ▸ one.atMost
    unscheduled := fun zero => same.trans (one.unscheduled zero)
    unregistered := one.unregistered }

variable {name : String} {event : GlobalEvent} {index : Nat} {task : DeferredTask GlobalTask}

lemma schedule (one : OneTask kind 0 map tasks) :
  OneTask kind (tasks.add kind).lastId (map.insert name event) (tasks.add kind) where
  atMost := by
    have nothing : tasks.select (ofKind kind) = [] := one.unscheduled rfl
    simp [waiting, nothing, ofKind]
  unscheduled zero := absurd zero (Nat.succ_ne_zero _)
  unregistered empty := by
    have taken : (map.insert name event).contains name = true := by
      simp [OrderedMap.contains]
    rw [empty name] at taken
    cases taken

variable (one : OneTask kind id map tasks)
include one

lemma insert : OneTask kind id (map.insert name event) tasks where
  atMost := one.atMost
  unscheduled := one.unscheduled
  unregistered empty := by
    have taken : (map.insert name event).contains name = true := by
      simp [OrderedMap.contains]
    rw [empty name] at taken
    cases taken

variable (standing : tasks.pending[index]? = some task)
include standing

lemma reschedule (job : task.job = kind) {map' : GlobalEventMap}
  (names : ∀ name, map'.contains name = map.contains name) :
  OneTask kind id map' ((tasks.remove index).add kind) := by
  obtain ⟨before, after, with_, without⟩ := DeferredTasks.select_remove standing (ofKind kind)
  have only : before = [] ∧ after = [] := by
    have atMost := one.atMost
    rw [waiting, with_, job] at atMost
    simp only [ofKind, if_true, Option.toList_some, length_append, length_singleton] at atMost
    exact ⟨length_eq_zero_iff.mp (by omega), length_eq_zero_iff.mp (by omega)⟩
  have scheduled : id ≠ 0 := by
    intro zero
    have nothing : tasks.select (ofKind kind) = [] := one.unscheduled zero
    rw [with_, job] at nothing
    simp [ofKind] at nothing
  exact {
    atMost := by simp [waiting, without, only.1, only.2, ofKind]
    unscheduled := fun zero => absurd zero scheduled
    unregistered := fun empty => one.unregistered fun name => names name ▸ empty name }

lemma remove (job : task.job ≠ kind) : OneTask kind id map (tasks.remove index) := by
  obtain ⟨before, after, with_, without⟩ := DeferredTasks.select_remove standing (ofKind kind)
  have same : waiting kind (tasks.remove index) = waiting kind tasks := by
    rw [waiting, waiting, with_, without]
    simp [ofKind, job]
  exact {
    atMost := same ▸ one.atMost
    unscheduled := fun zero => same.trans (one.unscheduled zero)
    unregistered := one.unregistered }

end OneTask

def remembered (system : GlobalEvents) : GlobalTask → Nat
  | .timer => system.timerEventId
  | .think => system.thinkEventId

structure Kept (system : GlobalEvents) : Prop where
  timer : OneTask .timer system.timerEventId system.timerMap system.tasks
  think : OneTask .think system.thinkEventId system.thinkMap system.tasks
  timed : TimerKept ⟨system.timerMap, system.timed⟩ system.next
  thought : ThinkKept ⟨system.thinkMap, system.thought⟩ system.next

/-! ## The operations -/

def StopsTasks (system : GlobalEvents) : Prop :=
  ∀ task ∈ system.tasks.pending, DeferredTasks.Stoppable (system.remembered task.job) task

/-- `clear` and `reload` come while they can stop the tasks. -/
def StopsInTime (system : GlobalEvents) : GlobalOperation → Prop
  | .clear => system.StopsTasks
  | .reload _ => system.StopsTasks
  | _ => True

lemma Kept.clear (kept : system.Kept) (stops : system.StopsTasks) : system.clear.Kept := by
  have nothing (kind : GlobalTask) : waiting kind system.clear.tasks = [] := by
    refine filterMap_eq_nil_iff.mpr fun task mem => ?_
    obtain ⟨mem, notTimer⟩ := DeferredTasks.mem_stop.mp mem
    obtain ⟨mem, notThink⟩ := DeferredTasks.mem_stop.mp mem
    have stoppable := stops task mem
    cases job : task.job with
    | timer =>
      rw [job] at stoppable
      exact absurd stoppable notTimer
    | think =>
      rw [job] at stoppable
      exact absurd stoppable notThink
  exact {
    timer := ⟨by rw [nothing]; exact Nat.zero_le _, fun _ => nothing _, fun _ => rfl⟩
    think := ⟨by rw [nothing]; exact Nat.zero_le _, fun _ => nothing _, fun _ => rfl⟩
    timed := kept.timed.clear
    thought := kept.thought.clear }

lemma Kept.later (kept : system.Kept) :
  ({ system with next := system.next + 1 } : GlobalEvents).Kept where
  timer := kept.timer
  think := kept.think
  timed := kept.timed.mono (Nat.le_succ _)
  thought := kept.thought.mono (Nat.le_succ _)

structure Configured (event : GlobalEvent) (number : Nat) : Prop where
  number : event.number = number
  atFirst : event.m_nextExecution = event.first
  positive : 0 ≤ event.m_interval ∨ event.m_eventType ≠ .GLOBALEVENT_NONE

lemma configured {node : GlobalEventNode} {clock : Clock}
  (configures : (GlobalEvent.new number clock).configureEvent node clock = some event) :
  Configured event number := by
  simp only [GlobalEvent.configureEvent, Option.bind_eq_bind, Option.pure_def,
    Option.bind_eq_some_iff] at configures
  obtain ⟨name, -, configures⟩ := configures
  split at configures
  · obtain ⟨type, typed, made⟩ := Option.bind_eq_some_iff.mp configures
    obtain rfl := Option.some.inj made
    refine ⟨rfl, rfl, Or.inl le_rfl⟩
  · split at configures
    · simp only [GlobalEvent.configureTimer, Option.bind_eq_bind, Option.pure_def,
        Option.bind_eq_some_iff, Option.some.injEq] at configures
      obtain ⟨hour, -, min, -, sec, -, rfl⟩ := configures
      exact ⟨rfl, rfl, Or.inr (by simp)⟩
    · obtain ⟨interval, -, made⟩ := Option.bind_eq_some_iff.mp configures
      obtain rfl := Option.some.inj made
      exact ⟨rfl, rfl, Or.inl (le_max_of_le_left (by decide))⟩

lemma registerEvent_kept (kept : system.Kept) (configured : Configured event system.next) :
  (({ system with next := system.next + 1 } : GlobalEvents).registerEvent event).Kept := by
  rw [registerEvent]
  split
  · split_ifs with taken
    · exact kept.later
    · have timed :
          TimerKept ⟨system.timerMap.insert event.m_name event, system.timed⟩ (system.next + 1) :=
        kept.timed.insert configured.number configured.atFirst
      have thought := kept.thought.mono (Nat.le_succ system.next)
      rw [registerTimer]
      split_ifs with unscheduled
      · have first := kept.timer
        rw [unscheduled] at first
        exact ⟨first.schedule, kept.think.other (by decide), timed, thought⟩
      · exact ⟨kept.timer.insert, kept.think, timed, thought⟩
  · rename_i none_
    split_ifs with taken
    · exact kept.later
    · have positive : 0 ≤ event.m_interval :=
        configured.positive.resolve_right fun other => other none_
      have timed := kept.timed.mono (Nat.le_succ system.next)
      have thought :
          ThinkKept ⟨system.thinkMap.insert event.m_name event, system.thought⟩
            (system.next + 1) :=
        kept.thought.insert configured.number positive
      rw [registerThink]
      dsimp only
      split_ifs with unscheduled
      · have first := kept.think
        rw [unscheduled] at first
        exact ⟨kept.timer.other (by decide), first.schedule, timed, thought⟩
      · exact ⟨kept.timer, kept.think.insert, timed, thought⟩
  · have later := kept.later
    split_ifs with taken
    · exact later
    · exact ⟨later.timer, later.think, later.timed, later.thought⟩

lemma loadNode_kept (node : GlobalEventNode) (clock : Clock) (kept : system.Kept) :
  (system.loadNode node clock).Kept := by
  rw [loadNode]
  cases configures : (GlobalEvent.new system.next clock).configureEvent node clock with
  | none => exact kept.later
  | some event =>
    split_ifs with loads
    · exact registerEvent_kept kept (configured configures)
    · exact kept.later

lemma loadFromXml_kept (nodes : List (GlobalEventNode × Clock)) (kept : system.Kept) :
  (system.loadFromXml nodes).Kept := by
  induction nodes generalizing system with
  | nil => exact kept
  | cons node nodes ih =>
    exact ih (loadNode_kept node.1 node.2 kept)

lemma deliver_kept (index : Nat) (clock : Clock) (kept : system.Kept) :
  (system.deliver index clock).Kept := by
  rw [deliver]
  cases standing : system.tasks.pending[index]? with
  | none => exact kept
  | some task =>
    dsimp only
    cases job : task.job with
    | timer =>
      have other := kept.think.remove standing (by simp [job])
      exact {
        timer := kept.timer.reschedule standing job (executeAll_contains _)
        think := other.other (by decide)
        timed :=
          executeAll_preserves (TimerKept · system.next)
            (fun _ _ _ held found due => held.execute found due) kept.timed
        thought := kept.thought }
    | think =>
      have other := kept.timer.remove standing (by simp [job])
      exact {
        timer := other.other (by decide)
        think := kept.think.reschedule standing job (executeAll_contains _)
        timed := kept.timed
        thought :=
          executeAll_preserves (ThinkKept · system.next)
            (fun _ _ _ held found due => held.execute found due) kept.thought }

lemma step_kept {operation : GlobalOperation} (kept : system.Kept)
  (stops : system.StopsInTime operation) : (system.step operation).Kept := by
  cases operation with
  | registerEvent node clock => exact loadNode_kept node clock kept
  | deliver index clock => exact deliver_kept index clock kept
  | clear => exact kept.clear stops
  | reload nodes => exact loadFromXml_kept nodes (kept.clear stops)

lemma initial_kept : initial.Kept where
  timer := ⟨Nat.zero_le _, fun _ => rfl, fun _ => rfl⟩
  think := ⟨Nat.zero_le _, fun _ => rfl, fun _ => rfl⟩
  timed := {
    numbered := {
      unique := by simp [initial]
      below := by simp [initial]
      executed := by simp [initial] }
    counted := by simp [initial]
    before := by simp [initial]
    times := by simp [initial, executionsOf]
    apart := List.Pairwise.nil }
  thought := {
    numbered := {
      unique := by simp [initial]
      below := by simp [initial]
      executed := by simp [initial] }
    before := by simp [initial]
    positive := by simp [initial]
    apart := List.Pairwise.nil }

/-- What is promised of the events at every moment. -/
structure DoesNotMultiply (system : GlobalEvents) : Prop where
  oneTimer : (waiting .timer system.tasks).length ≤ 1
  oneThink : (waiting .think system.tasks).length ≤ 1
  /-- no task waits before an event of its kind is registered -/
  noTimer : (∀ name, system.timerMap.contains name = false) → waiting .timer system.tasks = []
  noThink : (∀ name, system.thinkMap.contains name = false) → waiting .think system.tasks = []
  /-- a think event is executed once in its interval at most -/
  thinkApart :
    system.thought.Pairwise fun earlier later =>
      earlier.event.number = later.event.number →
        earlier.now + earlier.event.m_interval ≤ later.now
  /-- a timer event is executed for the time that is `k` days past its first time, and
  not before that -/
  timerTimes :
    ∀ (number k : Nat) (execution : Execution),
      (executionsOf system.timed number)[k]? = some execution →
        execution.event.m_nextExecution = execution.event.first + day * k ∧
        execution.event.first + day * k ≤ execution.now
  /-- no such time is executed twice -/
  timesApart :
    system.timed.Pairwise fun earlier later =>
      earlier.event.number = later.event.number →
        earlier.event.first = later.event.first ∧
        earlier.event.m_nextExecution < later.event.m_nextExecution

lemma Kept.doesNotMultiply (kept : system.Kept) : system.DoesNotMultiply where
  oneTimer := kept.timer.atMost
  oneThink := kept.think.atMost
  noTimer empty := kept.timer.unscheduled (kept.timer.unregistered empty)
  noThink empty := kept.think.unscheduled (kept.think.unregistered empty)
  thinkApart := kept.thought.apart
  timerTimes := kept.timed.times
  timesApart := kept.timed.apart

/-- The tasks do not multiply in a run which clears only what it can stop. -/
theorem doesNotMultiply_of_stopsInTime {system : GlobalEvents}
  (run :
    Reaches (fun system operation next => next = GlobalEvents.step system operation)
      StopsInTime initial system) : system.DoesNotMultiply := by
  have preserved :
      ∀ system operation next, Kept system → system.StopsInTime operation →
        next = system.step operation → next.Kept := by
    rintro system operation _ kept stops rfl
    exact step_kept kept stops
  exact (run.invariant initial_kept preserved).doesNotMultiply

def clockAt (seconds : Int) : Clock where
  time := seconds
  OTSYS_TIME := seconds * 1000
  mktime hour min sec := hour * 3600 + min * 60 + sec

def thinkNode : GlobalEventNode where
  name := some "save"
  type := none
  time := none
  at_ := none
  interval := some 60000
  loadsScript := true

def registered : GlobalEvents :=
  initial.step (.registerEvent thinkNode (clockAt 0))

/-- The events have been reloaded before any task was executed. -/
def reloaded : GlobalEvents :=
  registered.step (.reload [(thinkNode, clockAt 1)])

lemma registered_stops : registered.StopsInTime (.reload [(thinkNode, clockAt 1)]) := by
  have tasks : registered.tasks.pending = [⟨1, .think, false⟩] := by
    decide +kernel
  have remembers : registered.thinkEventId = 1 := by
    decide +kernel
  intro task mem
  rw [tasks] at mem
  rw [mem_singleton.mp mem]
  exact ⟨by simp [remembered, remembers], by simp [remembered, remembers], rfl⟩

theorem reloaded_doesNotMultiply :
  waiting .think reloaded.tasks = [()] ∧ reloaded.DoesNotMultiply := by
  have registers : initial.StopsInTime (.registerEvent thinkNode (clockAt 0)) := trivial
  have first :
      Reaches (fun system operation next => next = GlobalEvents.step system operation)
        StopsInTime initial registered :=
    Reaches.refl.tail registers rfl
  refine ⟨by decide +kernel, ?_⟩
  exact doesNotMultiply_of_stopsInTime (first.tail registered_stops rfl)

/-- The events have been cleared after the task was executed. -/
def clearedLate : GlobalEvents :=
  (registered.step (.deliver 0 (clockAt 1))).step .clear

/-- The task which the executed one has scheduled is not stopped. -/
theorem clear_leaves_task :
  ¬ ∀ system,
    Reaches (fun system operation next => next = GlobalEvents.step system operation)
      Always initial system → system.DoesNotMultiply := by
  intro always
  have one : Always initial (GlobalOperation.registerEvent thinkNode (clockAt 0)) := trivial
  have two : Always registered (GlobalOperation.deliver 0 (clockAt 1)) := trivial
  have three : Always (registered.step (.deliver 0 (clockAt 1))) GlobalOperation.clear := trivial
  have first :
      Reaches (fun system operation next => next = GlobalEvents.step system operation)
        Always initial registered :=
    Reaches.refl.tail one rfl
  have cleared :
      Reaches (fun system operation next => next = GlobalEvents.step system operation)
        Always initial clearedLate :=
    (first.tail two rfl).tail three rfl
  have empty : ∀ name, clearedLate.thinkMap.contains name = false := fun _ => rfl
  have waits : waiting .think clearedLate.tasks = [()] := by
    decide +kernel
  rw [(always _ cleared).noThink empty] at waits
  cases waits

end GlobalEvents

end OTServ.WorldEvents
