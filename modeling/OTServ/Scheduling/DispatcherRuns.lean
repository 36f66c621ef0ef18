import OTServ.Scheduling.Dispatcher
import Mathlib.Data.List.Induction
import Mathlib.Data.List.Nodup

/-!
# Runs of the dispatcher

As long as no task which `flush` executes makes a call, a thread is in one call at a
time, and the lock is held only by the thread which flushes.  A task is then accounted
for from place to place: accepted into the list, executed out of the list, deleted out
of the hand which executed it.
-/

namespace OTServ.Scheduling.Dispatching

open List Function Option

namespace System

open Library.GuardedRuns

/-! ## Steps -/

/-- What a step can do where each thread is in one call at most. -/
inductive Taken (system : System) : System → Prop
  | request
      (thread : Thread)
      (call : Call)
      (idle : system.calls thread = [])
      (allowed : thread = dispatcher → system.loop.isOpen = true)
      (requests : call = .stopping ∨ call = .shutting) :
      Taken system (system.setCalls thread [call])
  | requestAdd
      (thread : Thread)
      (push_front : Bool)
      (idle : system.calls thread = [])
      (allowed : thread = dispatcher → system.loop.isOpen = true) :
      Taken system
        { system.setCalls thread [.adding system.next push_front] with
          next := system.next + 1 }
  | accept
      (thread : Thread)
      (task : Task)
      (push_front : Bool)
      (standing : system.calls thread = [.adding task push_front])
      (free : system.holder = none)
      (open_ : system.threadState = .running) :
      Taken system
        { system.setCalls thread [.signalling system.taskList.isEmpty] with
          taskList := if push_front then task :: system.taskList else system.taskList ++ [task]
          history := system.history ++ [.accepted thread task push_front] }
  | reject
      (thread : Thread)
      (task : Task)
      (push_front : Bool)
      (standing : system.calls thread = [.adding task push_front])
      (closed : system.threadState ≠ .running) :
      Taken system (system.setCalls thread [.signalling false])
  | signal
      (thread : Thread)
      (standing : system.calls thread = [.signalling true]) :
      Taken system { system.setCalls thread [] with loop := system.loop.notified }
  | silent
      (thread : Thread)
      (standing : system.calls thread = [.signalling false]) :
      Taken system (system.setCalls thread [])
  | stop
      (thread : Thread)
      (standing : system.calls thread = [.stopping])
      (free : system.holder = none) :
      Taken system { system.setCalls thread [] with threadState := .closing }
  | shut
      (thread : Thread)
      (standing : system.calls thread = [.shutting])
      (free : system.holder = none) :
      Taken system
        { system.setCalls thread [.flushing] with
          threadState := .terminated
          holder := some thread }
  | flushed
      (thread : Thread)
      (standing : system.calls thread = [.flushing])
      (empty : system.taskList = []) :
      Taken system { system.setCalls thread [] with holder := none }
  | flushTake
      (thread : Thread)
      (task : Task)
      (rest : List Task)
      (standing : system.calls thread = [.flushing])
      (listed : system.taskList = task :: rest) :
      Taken system
        { system.setCalls thread [.flushExecuting task] with
          taskList := rest
          history := system.history ++ [.executed task] }
  | flushDelete
      (thread : Thread)
      (task : Task)
      (standing : system.calls thread = [.flushExecuting task]) :
      Taken system
        { system.setCalls thread [.flushSending] with
          history := system.history ++ [.deleted task] }
  | flushSent
      (thread : Thread)
      (standing : system.calls thread = [.flushSending]) :
      Taken system (system.setCalls thread [.flushing])
  | move
      (place : Loop)
      (idle : system.calls dispatcher = [])
      (there :
        place = .check ∧ (system.loop = .sending ∨ system.taskList = [] ∨
            system.threadState = .terminated) ∨
          place = .locking ∧ system.loop = .check ∨ place = .woken ∧ system.loop = .waiting)
      (before : ∀ task, system.loop ≠ .executing task)
      (goesOn : system.loop ≠ .ended) :
      Taken system { system with loop := place }
  | wait
      (idle : system.calls dispatcher = [])
      (before : system.loop = .locking)
      (empty : system.taskList = []) :
      Taken system { system with loop := .waiting }
  | finish
      (idle : system.calls dispatcher = [])
      (before : system.loop = .check)
      (terminated : system.threadState = .terminated) :
      Taken system { system with loop := .ended }
  | take
      (task : Task)
      (rest : List Task)
      (idle : system.calls dispatcher = [])
      (before : system.loop = .locking ∨ system.loop = .woken)
      (listed : system.taskList = task :: rest)
      (goesOn : system.threadState ≠ .terminated) :
      Taken system
        { system with
          loop := .executing task
          taskList := rest
          history := system.history ++ [.executed task] }
  | delete
      (task : Task)
      (idle : system.calls dispatcher = [])
      (before : system.loop = .executing task) :
      Taken system
        { system with
          loop := .sending
          history := system.history ++ [.deleted task] }

/-- Each thread is in one call at most, that of the dispatcher is made from within a
task, and the lock is held by the thread which flushes. -/
structure Shaped (system : System) : Prop where
  single : ∀ thread, system.calls thread = [] ∨ ∃ call, system.calls thread = [call]
  fromLoop : system.calls dispatcher ≠ [] → system.loop.isOpen = true
  holds :
    ∀ thread,
      system.holder = some thread ↔ ∃ call, system.calls thread = [call] ∧ call.isFlush = true

section Steps

variable {system after : System} {thread : Thread}

lemma allowed_of_isOpen
  (mayCall : system.isOpen thread = true) (idle : system.calls thread = []) :
  thread = dispatcher → system.loop.isOpen = true := by
  intro same
  rw [isOpen, idle] at mayCall
  simpa [same] using mayCall

lemma takeFirst_taken (idle : system.calls dispatcher = [])
  (before : system.loop = .locking ∨ system.loop = .woken) : Taken system system.takeFirst := by
  have notExecuting : ∀ task, system.loop ≠ .executing task := by
    rintro task same
    rw [same] at before
    rcases before with other | other <;> cases other
  have notEnded : system.loop ≠ .ended := by
    intro same
    rw [same] at before
    rcases before with other | other <;> cases other
  unfold takeFirst
  split
  case h_1 empty =>
    exact .move .check idle (.inl ⟨rfl, .inr (.inl empty)⟩) notExecuting notEnded
  case h_2 task rest listed =>
    split
    case isTrue terminated =>
      exact .move .check idle (.inl ⟨rfl, .inr (.inr terminated)⟩) notExecuting notEnded
    case isFalse goesOn => exact .take task rest idle before listed goesOn

lemma stepLoop_taken
  (idle : system.calls dispatcher = []) (taken : system.stepLoop = some after) :
  Taken system after := by
  unfold stepLoop at taken
  split at taken
  case h_1 before =>
    cases taken
    split
    case isTrue terminated => exact .finish idle before terminated
    case isFalse =>
      refine .move .locking idle (.inr (.inl ⟨rfl, before⟩)) ?_ ?_
      · rw [before]
        exact fun _ => Loop.noConfusion
      · rw [before]
        exact Loop.noConfusion
  case h_2 before =>
    split at taken
    case isFalse => cases taken
    case isTrue =>
      split at taken
      case isTrue empty =>
        cases taken
        exact .wait idle before (isEmpty_iff.1 empty)
      case isFalse =>
        cases taken
        exact takeFirst_taken idle (.inl before)
  case h_3 => cases taken
  case h_4 before =>
    split at taken
    case isFalse => cases taken
    case isTrue =>
      cases taken
      exact takeFirst_taken idle (.inr before)
  case h_5 task before =>
    cases taken
    exact .delete task idle before
  case h_6 before =>
    cases taken
    refine .move .check idle (.inl ⟨rfl, .inl before⟩) ?_ ?_
    · rw [before]
      exact fun _ => Loop.noConfusion
    · rw [before]
      exact Loop.noConfusion
  case h_7 => cases taken

lemma stepCall_taken {call : Call} (standing : system.calls thread = [call])
  (taken : system.stepCall thread [] call = some after) : Taken system after := by
  cases call with
  | adding task push_front =>
    simp only [stepCall] at taken
    split at taken
    case isFalse => cases taken
    case isTrue free =>
      cases taken
      unfold insertTask
      split
      case isTrue running => exact .accept thread task push_front standing free running
      case isFalse closed => exact .reject thread task push_front standing closed
  | signalling do_signal =>
    cases taken
    cases do_signal with
    | true => exact .signal thread standing
    | false => exact .silent thread standing
  | stopping =>
    simp only [stepCall] at taken
    split at taken
    case isFalse => cases taken
    case isTrue free =>
      cases taken
      exact .stop thread standing free
  | shutting =>
    simp only [stepCall] at taken
    split at taken
    case isFalse => cases taken
    case isTrue free =>
      cases taken
      exact .shut thread standing free
  | flushing =>
    simp only [stepCall] at taken
    split at taken
    case h_1 empty =>
      cases taken
      exact .flushed thread standing empty
    case h_2 task rest listed =>
      cases taken
      exact .flushTake thread task rest standing listed
  | flushExecuting task =>
    cases taken
    exact .flushDelete thread task standing
  | flushSending =>
    cases taken
    exact .flushSent thread standing

lemma step_taken {event : Event} (shaped : system.Shaped) (quiet : system.FlushesQuietly event)
  (taken : system.step event = some after) : Taken system after := by
  cases event with
  | addTask thread push_front =>
    have idle : system.calls thread = [] := quiet
    simp only [step] at taken
    split at taken
    case isFalse => cases taken
    case isTrue mayCall =>
      cases taken
      rw [push, idle]
      exact .requestAdd thread push_front idle (allowed_of_isOpen mayCall idle)
  | stop thread =>
    have idle : system.calls thread = [] := quiet
    simp only [step] at taken
    split at taken
    case isFalse => cases taken
    case isTrue mayCall =>
      cases taken
      rw [push, idle]
      exact .request thread .stopping idle (allowed_of_isOpen mayCall idle) (.inl rfl)
  | shutdown thread =>
    have idle : system.calls thread = [] := quiet
    simp only [step] at taken
    split at taken
    case isFalse => cases taken
    case isTrue mayCall =>
      cases taken
      rw [push, idle]
      exact .request thread .shutting idle (allowed_of_isOpen mayCall idle) (.inr rfl)
  | call thread =>
    simp only [step] at taken
    rcases shaped.single thread with idle | ⟨call, standing⟩
    · rw [idle] at taken
      cases taken
    · rw [standing] at taken
      exact stepCall_taken standing taken
  | loop =>
    simp only [step] at taken
    split at taken
    case isFalse => cases taken
    case isTrue idle => exact stepLoop_taken idle taken
  | wake =>
    simp only [step] at taken
    split at taken
    case isFalse => cases taken
    case isTrue before =>
      cases taken
      have idle : system.calls dispatcher = [] := by
        by_contra inCall
        have inTask := shaped.fromLoop inCall
        rw [before] at inTask
        cases inTask
      refine .move .woken idle (.inr (.inr ⟨rfl, before⟩)) ?_ ?_
      · rw [before]
        exact fun _ => Loop.noConfusion
      · rw [before]
        exact Loop.noConfusion

end Steps

/-! ## The lock -/

section Shapes

variable {system after : System} {thread : Thread}

lemma setCalls_self (system : System) (thread : Thread) (calls : List Call) :
  (system.setCalls thread calls).calls thread = calls :=
  update_self _ _ _

variable {call : Call} {holder : Option Thread}

section

variable (shaped : system.Shaped)
include shaped

lemma Shaped.not_holder
  (standing : system.calls thread = [call]) (other : call.isFlush = false) :
  system.holder ≠ some thread := by
  intro held
  rcases (shaped.holds thread).1 held with ⟨found, same, flush⟩
  rw [standing] at same
  cases same
  rw [other] at flush
  cases flush

lemma Shaped.not_holder_of_idle
  (idle : system.calls thread = []) : system.holder ≠ some thread := by
  intro held
  rcases (shaped.holds thread).1 held with ⟨found, same, flush⟩
  rw [idle] at same
  cases same

lemma Shaped.holder_of_flush (standing : system.calls thread = [call])
  (flush : call.isFlush = true) : system.holder = some thread :=
  (shaped.holds thread).2 ⟨call, standing, flush⟩

lemma Shaped.open_of_calls
  (standing : system.calls thread = [call]) (same : thread = dispatcher) :
  system.loop.isOpen = true := by
  refine shaped.fromLoop ?_
  rw [← same, standing]
  exact cons_ne_nil _ _

/-- A thread in another call, or in none. -/
lemma Shaped.replaced
  {calls : List Call} (calls_eq : after.calls = update system.calls thread calls)
  (loop_eq : after.loop.isOpen = system.loop.isOpen)
  (single : calls = [] ∨ ∃ call, calls = [call])
  (fromLoop : thread = dispatcher → calls ≠ [] → system.loop.isOpen = true)
  (itself : after.holder = some thread ↔ ∃ call, calls = [call] ∧ call.isFlush = true)
  (others : ∀ other, other ≠ thread → (after.holder = some other ↔ system.holder = some other)) :
  after.Shaped where
  single := fun other => by
    rw [calls_eq]
    by_cases same : other = thread
    · rw [same, update_self]
      exact single
    · rw [update_of_ne same]
      exact shaped.single other
  fromLoop := by
    rw [calls_eq, loop_eq]
    by_cases same : dispatcher = thread
    · rw [same, update_self]
      exact fromLoop same.symm
    · rw [update_of_ne same]
      exact shaped.fromLoop
  holds := fun other => by
    rw [calls_eq]
    by_cases same : other = thread
    · rw [same, update_self]
      exact itself
    · rw [update_of_ne same, others other same]
      exact shaped.holds other

lemma Shaped.moved (idle : system.calls dispatcher = []) (calls_eq : after.calls = system.calls)
  (holder_eq : after.holder = system.holder) : after.Shaped where
  single := fun other => by
    rw [calls_eq]
    exact shaped.single other
  fromLoop := fun inCall => by
    rw [calls_eq] at inCall
    exact absurd idle inCall
  holds := fun other => by
    rw [calls_eq, holder_eq]
    exact shaped.holds other

end

lemma notified_isOpen (loop : Loop) : loop.notified.isOpen = loop.isOpen := by
  cases loop with
  | check | locking | waiting | woken | executing | sending | ended => rfl

lemma not_flush_iff (notHolder : holder ≠ some thread) (other : call.isFlush = false) :
  holder = some thread ↔ ∃ found, [call] = [found] ∧ found.isFlush = true := by
  constructor
  · exact fun held => absurd held notHolder
  · rintro ⟨found, same, flush⟩
    cases same
    rw [other] at flush
    cases flush

lemma not_idle_iff (notHolder : holder ≠ some thread) :
  holder = some thread ↔ ∃ found : Call, [] = [found] ∧ found.isFlush = true := by
  constructor
  · exact fun held => absurd held notHolder
  · rintro ⟨found, same, -⟩
    cases same

lemma others_iff (mine : holder = none ∨ holder = some thread) {new : Option Thread}
  (mineNow : new = none ∨ new = some thread) :
  ∀ other, other ≠ thread → (new = some other ↔ holder = some other) := by
  intro other ne
  have never {value : Option Thread} (owned : value = none ∨ value = some thread) :
      value ≠ some other := by
    rintro rfl
    rcases owned with none | some
    · cases none
    · exact ne (Option.some.inj some)
  exact ⟨fun held => absurd held (never mineNow), fun held => absurd held (never mine)⟩

lemma Shaped.taken (shaped : system.Shaped) (taken : Taken system after) : after.Shaped := by
  cases taken with
  | request thread call idle allowed requests =>
    refine shaped.replaced rfl rfl (.inr ⟨call, rfl⟩) (fun same _ => allowed same)
      (not_flush_iff (shaped.not_holder_of_idle idle) ?_) fun _ _ => Iff.rfl
    rcases requests with rfl | rfl
    · rfl
    · rfl
  | requestAdd thread push_front idle allowed =>
    exact shaped.replaced rfl rfl (.inr ⟨_, rfl⟩) (fun same _ => allowed same)
      (not_flush_iff (shaped.not_holder_of_idle idle) rfl) fun _ _ => Iff.rfl
  | accept thread task push_front standing | reject thread task push_front standing =>
    exact shaped.replaced rfl rfl (.inr ⟨_, rfl⟩)
      (fun same _ => shaped.open_of_calls standing same)
      (not_flush_iff (shaped.not_holder standing rfl) rfl) fun _ _ => Iff.rfl
  | signal thread standing =>
    exact shaped.replaced rfl (notified_isOpen _) (.inl rfl)
      (fun same _ => shaped.open_of_calls standing same)
      (not_idle_iff (shaped.not_holder standing rfl)) fun _ _ => Iff.rfl
  | silent thread standing | stop thread standing =>
    exact shaped.replaced rfl rfl (.inl rfl)
      (fun same _ => shaped.open_of_calls standing same)
      (not_idle_iff (shaped.not_holder standing rfl)) fun _ _ => Iff.rfl
  | shut thread standing free =>
    exact shaped.replaced rfl rfl (.inr ⟨_, rfl⟩)
      (fun same _ => shaped.open_of_calls standing same)
      ⟨fun _ => ⟨_, rfl, rfl⟩, fun _ => rfl⟩ (others_iff (.inl free) (.inr rfl))
  | flushed thread standing =>
    exact shaped.replaced rfl rfl (.inl rfl)
      (fun same _ => shaped.open_of_calls standing same)
      (not_idle_iff (some_ne_none thread).symm)
      (others_iff (.inr (shaped.holder_of_flush standing rfl)) (.inl rfl))
  | flushTake thread task rest standing =>
    exact shaped.replaced rfl rfl (.inr ⟨_, rfl⟩)
      (fun same _ => shaped.open_of_calls standing same)
      ⟨fun _ => ⟨_, rfl, rfl⟩, fun _ => shaped.holder_of_flush standing rfl⟩
      fun _ _ => Iff.rfl
  | flushDelete thread task standing | flushSent thread standing =>
    exact shaped.replaced rfl rfl (.inr ⟨_, rfl⟩)
      (fun same _ => shaped.open_of_calls standing same)
      ⟨fun _ => ⟨_, rfl, rfl⟩, fun _ => shaped.holder_of_flush standing rfl⟩
      fun _ _ => Iff.rfl
  | move place idle => exact shaped.moved idle rfl rfl
  | wait idle => exact shaped.moved idle rfl rfl
  | finish idle | take task rest idle | delete task idle => exact shaped.moved idle rfl rfl

lemma shaped_initial : initial.Shaped where
  single := fun _ => .inl rfl
  fromLoop := fun inCall => absurd rfl inCall
  holds := fun thread => not_idle_iff (some_ne_none thread).symm

lemma Shaped.lockFree (shaped : system.Shaped) (requests : system.Requests thread) :
  system.holder ≠ some thread := by
  rcases shaped.single thread with idle | ⟨call, standing⟩
  · exact shaped.not_holder_of_idle idle
  · refine shaped.not_holder standing ?_
    rw [Requests, standing] at requests
    cases call with
    | adding | stopping | shutting => rfl
    | signalling | flushing | flushExecuting | flushSending => cases requests

end Shapes

/-! ## Accounts -/

def loopHand : Loop → List Task
  | .executing task => [task]
  | _ => []

def callHand : List Call → List Task
  | .flushExecuting task :: _ => [task]
  | _ => []

def flushHand (calls : Thread → List Call) : Option Thread → List Task
  | none => []
  | some thread => callHand (calls thread)

/-- The tasks which are being executed: by the loop, and by whoever holds the lock. -/
def hands (system : System) : List Task :=
  loopHand system.loop ++ flushHand system.calls system.holder

/-- A task which waits for the lock was not accepted before, and each place of a task
is accounted for. -/
structure Accounted (system : System) : Prop where
  adding_new :
    ∀ thread task push_front, system.calls thread = [.adding task push_front] →
      task < system.next ∧ system.acceptances task = 0
  adding_once :
    ∀ thread other task push_front also,
      system.calls thread = [.adding task push_front] →
        system.calls other = [.adding task also] → thread = other
  unmade : ∀ task, system.next ≤ task → system.acceptances task = 0
  accepted_once : ∀ task, system.acceptances task ≤ 1
  listed : ∀ task, system.acceptances task = system.taskList.count task + system.executions task
  held : ∀ task, system.executions task = system.hands.count task + system.deletions task

section Accounts

variable {system after : System} {thread : Thread} {task : Task}

variable {calls : Thread → List Call} {push_front : Bool}

lemma flushHand_update
  {new : List Call} {holder : Option Thread} (same : callHand new = callHand (calls thread)) :
  flushHand (update calls thread new) holder = flushHand calls holder := by
  cases holder with
  | none => rfl
  | some other =>
    rw [flushHand, flushHand]
    by_cases here : other = thread
    · rw [here, update_self, same]
    · rw [update_of_ne here]

lemma flushHand_self (new : List Call) :
  flushHand (update calls thread new) (some thread) = callHand new := by
  rw [flushHand, update_self]

lemma loopHand_notified (loop : Loop) : loopHand loop.notified = loopHand loop := by
  cases loop with
  | check | locking | waiting | woken | executing | sending | ended => rfl

lemma loopHand_of_ne
  {loop : Loop} (other : ∀ task, loop ≠ .executing task) : loopHand loop = [] := by
  cases loop with
  | executing task => exact absurd rfl (other task)
  | check | locking | waiting | woken | sending | ended => rfl

/-- How often an occurrence accepts, executes and deletes a task. -/
def accepts (task : Task) : Occurrence → Nat
  | .accepted _ other _ => if other = task then 1 else 0
  | _ => 0

def executes (task : Task) : Occurrence → Nat
  | .executed other => if other = task then 1 else 0
  | _ => 0

def deletes (task : Task) : Occurrence → Nat
  | .deleted other => if other = task then 1 else 0
  | _ => 0

section Snoc

variable
  {occurrence : Occurrence}
  (happened : after.history = system.history ++ [occurrence])

include happened

lemma acceptances_snoc :
  after.acceptances task = system.acceptances task + accepts task occurrence := by
  rw [acceptances, happened, countP_append, ← acceptances]
  congr 1
  cases occurrence with
  | accepted thread other push_front =>
    rw [countP_singleton, accepts]
    simp only [beq_iff_eq]
  | executed | deleted => rfl

lemma executions_snoc :
  after.executions task = system.executions task + executes task occurrence := by
  rw [executions, happened, count_append, ← executions]
  congr 1
  cases occurrence with
  | executed other =>
    rw [count_singleton, executes]
    simp only [beq_iff_eq, Occurrence.executed.injEq]
  | accepted | deleted => rfl

lemma deletions_snoc :
  after.deletions task = system.deletions task + deletes task occurrence := by
  rw [deletions, happened, count_append, ← deletions]
  congr 1
  cases occurrence with
  | deleted other =>
    rw [count_singleton, deletes]
    simp only [beq_iff_eq, Occurrence.deleted.injEq]
  | accepted | executed => rfl

end Snoc

/-- Whoever waits with a task in front of the lock did so before. -/
def NoMoreAdding (system after : System) : Prop :=
  ∀ thread task push_front, after.calls thread = [.adding task push_front] →
    system.calls thread = [.adding task push_front]

lemma noMoreAdding_of_update
  {calls : List Call} (calls_eq : after.calls = update system.calls thread calls)
  (other : ∀ task push_front, calls ≠ [.adding task push_front]) :
  NoMoreAdding system after := by
  intro thread' task push_front standing
  rw [calls_eq] at standing
  by_cases here : thread' = thread
  · rw [here, update_self] at standing
    exact absurd standing (other task push_front)
  · rw [update_of_ne here] at standing
    exact standing

section

variable (accounted : system.Accounted)
include accounted

lemma Accounted.unaccepted (same : ∀ task, after.acceptances task = system.acceptances task)
  (next_eq : after.next = system.next) (adding : NoMoreAdding system after)
  (listed : ∀ task, after.acceptances task = after.taskList.count task + after.executions task)
  (held : ∀ task, after.executions task = after.hands.count task + after.deletions task) :
  after.Accounted where
  adding_new := fun thread task push_front standing => by
    rw [next_eq, same]
    exact accounted.adding_new thread task push_front (adding _ _ _ standing)
  adding_once := fun thread other task push_front also first second =>
    accounted.adding_once thread other task push_front also (adding _ _ _ first)
      (adding _ _ _ second)
  unmade := fun task unmade => by
    rw [next_eq] at unmade
    rw [same]
    exact accounted.unmade task unmade
  accepted_once := fun task => by
    rw [same]
    exact accounted.accepted_once task
  listed := listed
  held := held

lemma Accounted.quiet (history_eq : after.history = system.history)
  (list_eq : after.taskList = system.taskList) (next_eq : after.next = system.next)
  (hands_eq : after.hands = system.hands) (adding : NoMoreAdding system after) :
  after.Accounted := by
  refine accounted.unaccepted (fun task => ?_) next_eq adding (fun task => ?_) fun task => ?_
  · rw [acceptances, history_eq, acceptances]
  · rw [acceptances, executions, history_eq, list_eq]
    exact accounted.listed task
  · rw [executions, deletions, history_eq, hands_eq]
    exact accounted.held task

lemma Accounted.execute
  {rest : List Task} (happened : after.history = system.history ++ [.executed task])
  (front : system.taskList = task :: rest) (list_eq : after.taskList = rest)
  (next_eq : after.next = system.next)
  (hands_eq :
    ∀ other, after.hands.count other = system.hands.count other + if task = other then 1 else 0)
  (adding : NoMoreAdding system after) : after.Accounted := by
  refine accounted.unaccepted (fun _ => acceptances_snoc happened) next_eq adding
    (fun other => ?_) fun other => ?_
  · have before := accounted.listed other
    rw [front, count_cons] at before
    rw [acceptances_snoc happened, executions_snoc happened, list_eq, before]
    simp only [accepts, executes, beq_iff_eq]
    omega
  · rw [executions_snoc happened, deletions_snoc happened, accounted.held other, hands_eq other]
    simp only [executes, deletes]
    omega

lemma Accounted.delete (happened : after.history = system.history ++ [.deleted task])
  (list_eq : after.taskList = system.taskList) (next_eq : after.next = system.next)
  (hands_eq :
    ∀ other, system.hands.count other = after.hands.count other + if task = other then 1 else 0)
  (adding : NoMoreAdding system after) : after.Accounted := by
  refine accounted.unaccepted (fun _ => acceptances_snoc happened) next_eq adding
    (fun other => ?_) fun other => ?_
  · rw [acceptances_snoc happened, executions_snoc happened, list_eq]
    exact accounted.listed other
  · rw [executions_snoc happened, deletions_snoc happened, accounted.held other, hands_eq other]
    simp only [executes, deletes]
    omega

/-- A task which waited for the lock is put into the list. -/
lemma Accounted.accept
  (standing : system.calls thread = [.adding task push_front])
  (happened : after.history = system.history ++ [.accepted thread task push_front])
  (list_eq :
    ∀ other, after.taskList.count other =
      system.taskList.count other + if task = other then 1 else 0)
  (next_eq : after.next = system.next) (hands_eq : after.hands = system.hands)
  (adding : NoMoreAdding system after)
  (gone : ∀ also, after.calls thread ≠ [.adding task also]) : after.Accounted where
  adding_new := fun other waiting also stands => by
    rw [next_eq, acceptances_snoc happened]
    rcases accounted.adding_new other waiting also (adding _ _ _ stands) with ⟨made, none⟩
    refine ⟨made, ?_⟩
    have ne : task ≠ waiting := by
      rintro rfl
      have same :=
        accounted.adding_once other thread task also push_front (adding _ _ _ stands) standing
      rw [same] at stands
      exact gone also stands
    rw [none, accepts, if_neg ne]
  adding_once := fun first second waiting push_front also stands standsToo =>
    accounted.adding_once first second waiting push_front also (adding _ _ _ stands)
      (adding _ _ _ standsToo)
  unmade := fun other unmade => by
    rw [next_eq] at unmade
    have ne : task ≠ other := by
      rintro rfl
      exact Nat.not_le_of_lt (accounted.adding_new _ _ _ standing).1 unmade
    rw [acceptances_snoc happened, accepts, if_neg ne]
    exact accounted.unmade other unmade
  accepted_once := fun other => by
    rw [acceptances_snoc happened, accepts]
    split
    case isTrue same =>
      have none := (accounted.adding_new _ _ _ standing).2
      rw [← same]
      omega
    case isFalse => exact accounted.accepted_once other
  listed := fun other => by
    rw [acceptances_snoc happened, executions_snoc happened, list_eq, accounted.listed other]
    simp only [accepts, executes]
    omega
  held := fun other => by
    rw [executions_snoc happened, deletions_snoc happened, hands_eq]
    exact accounted.held other

lemma Accounted.request
  (calls_eq : after.calls = update system.calls thread [.adding system.next push_front])
  (history_eq : after.history = system.history) (list_eq : after.taskList = system.taskList)
  (next_eq : after.next = system.next + 1) (hands_eq : after.hands = system.hands) :
  after.Accounted := by
  -- Whoever stands in front of the lock has the new task or stood there before.
  have stands {other : Thread} {waiting : Task} {also : Bool}
      (standing : after.calls other = [.adding waiting also]) :
      other = thread ∧ waiting = system.next ∨
        other ≠ thread ∧ system.calls other = [.adding waiting also] := by
    rw [calls_eq] at standing
    by_cases here : other = thread
    · rw [here, update_self] at standing
      cases standing
      exact .inl ⟨here, rfl⟩
    · rw [update_of_ne here] at standing
      exact .inr ⟨here, standing⟩
  constructor
  case adding_new =>
    intro other waiting also standing
    rw [next_eq, acceptances, history_eq]
    rcases stands standing with ⟨-, rfl⟩ | ⟨-, before⟩
    · exact ⟨Nat.lt_succ_self _, accounted.unmade _ (Nat.le_refl _)⟩
    · rcases accounted.adding_new _ _ _ before with ⟨made, none⟩
      exact ⟨Nat.lt_succ_of_lt made, none⟩
  case adding_once =>
    intro first second waiting push_front also standing standingToo
    rcases stands standing with ⟨here, new⟩ | ⟨-, before⟩
    · rcases stands standingToo with ⟨hereToo, -⟩ | ⟨-, beforeToo⟩
      · rw [here, hereToo]
      · have made := (accounted.adding_new _ _ _ beforeToo).1
        rw [new] at made
        exact absurd made (Nat.lt_irrefl _)
    · rcases stands standingToo with ⟨-, new⟩ | ⟨-, beforeToo⟩
      · have made := (accounted.adding_new _ _ _ before).1
        rw [new] at made
        exact absurd made (Nat.lt_irrefl _)
      · exact accounted.adding_once _ _ _ _ _ before beforeToo
  case unmade =>
    intro other unmade
    rw [next_eq] at unmade
    rw [acceptances, history_eq]
    exact accounted.unmade other (Nat.le_of_succ_le unmade)
  case accepted_once =>
    intro other
    rw [acceptances, history_eq]
    exact accounted.accepted_once other
  case listed =>
    intro other
    rw [acceptances, executions, history_eq, list_eq]
    exact accounted.listed other
  case held =>
    intro other
    rw [executions, deletions, history_eq, hands_eq]
    exact accounted.held other

end

lemma hands_setCalls {calls : List Call} (loop_eq : loopHand after.loop = loopHand system.loop)
  (calls_eq : after.calls = update system.calls thread calls)
  (holder_eq : after.holder = system.holder) (new : callHand calls = [])
  (old : callHand (system.calls thread) = []) : after.hands = system.hands := by
  rw [hands, hands, loop_eq, calls_eq, holder_eq, flushHand_update (new.trans old.symm)]

/-- A call goes on without a task in hand, or ends. -/
lemma Accounted.answered {calls : List Call} (accounted : system.Accounted)
  (history_eq : after.history = system.history) (list_eq : after.taskList = system.taskList)
  (next_eq : after.next = system.next) (loop_eq : loopHand after.loop = loopHand system.loop)
  (calls_eq : after.calls = update system.calls thread calls)
  (holder_eq : after.holder = system.holder) (new : callHand calls = [])
  (old : callHand (system.calls thread) = [])
  (other : ∀ task push_front, calls ≠ [.adding task push_front]) : after.Accounted :=
  accounted.quiet history_eq list_eq next_eq
    (hands_setCalls loop_eq calls_eq holder_eq new old)
    (noMoreAdding_of_update calls_eq other)

lemma Accounted.taken (shaped : system.Shaped) (accounted : system.Accounted)
  (taken : Taken system after) : after.Accounted := by
  cases taken with
  | request thread call idle allowed requests =>
    refine accounted.answered rfl rfl rfl rfl rfl rfl ?_ (idle ▸ rfl) ?_
    · rcases requests with rfl | rfl
      · rfl
      · rfl
    · rintro task push_front same
      cases same
      rcases requests with other | other <;> cases other
  | requestAdd thread push_front idle allowed =>
    refine accounted.request rfl rfl rfl rfl (hands_setCalls rfl rfl rfl rfl ?_)
    rw [idle]
    rfl
  | accept thread task push_front standing =>
    refine accounted.accept standing rfl (fun other => ?_) rfl
      (hands_setCalls rfl rfl rfl rfl ?_) (noMoreAdding_of_update rfl ?_) ?_
    · cases push_front with
      | true => simp only [↓reduceIte, count_cons, beq_iff_eq]
      | false =>
        simp only [Bool.false_eq_true, ↓reduceIte, count_append, count_singleton, beq_iff_eq]
    · rw [standing]
      rfl
    · intro other also same
      cases same
    · intro also same
      cases (setCalls_self system thread _).symm.trans same
  | reject thread task push_front standing =>
    exact accounted.answered rfl rfl rfl rfl rfl rfl rfl (standing ▸ rfl) nofun
  | signal thread standing =>
    exact accounted.answered rfl rfl rfl (loopHand_notified _) rfl rfl rfl (standing ▸ rfl) nofun
  | silent thread standing | stop thread standing =>
    exact accounted.answered rfl rfl rfl rfl rfl rfl rfl (standing ▸ rfl) nofun
  | shut thread standing free =>
    refine accounted.quiet rfl rfl rfl ?_ (noMoreAdding_of_update rfl ?_)
    · simp only [hands, free, setCalls, flushHand_self]
      rfl
    · intro other also same
      cases same
  | flushed thread standing empty =>
    refine accounted.quiet rfl rfl rfl ?_ (noMoreAdding_of_update rfl ?_)
    · simp only [hands, setCalls, shaped.holder_of_flush standing rfl]
      rw [flushHand, flushHand, standing]
      rfl
    · intro other also same
      cases same
  | flushTake thread task rest standing listed =>
    refine accounted.execute rfl listed rfl rfl (fun other => ?_) (noMoreAdding_of_update rfl ?_)
    · simp only [hands, setCalls, shaped.holder_of_flush standing rfl, flushHand_self]
      rw [flushHand, standing]
      simp only [callHand, count_append, count_nil, count_singleton, beq_iff_eq, Nat.add_zero]
    · intro other also same
      cases same
  | flushDelete thread task standing =>
    refine accounted.delete rfl rfl rfl (fun other => ?_) (noMoreAdding_of_update rfl ?_)
    · simp only [hands, setCalls, shaped.holder_of_flush standing rfl, flushHand_self]
      rw [flushHand, standing]
      simp only [callHand, count_append, count_nil, count_singleton, beq_iff_eq, Nat.add_zero]
    · intro other also same
      cases same
  | flushSent thread standing =>
    exact accounted.answered rfl rfl rfl rfl rfl rfl rfl (standing ▸ rfl) nofun
  | move place idle there before goesOn =>
    refine accounted.quiet rfl rfl rfl ?_ (fun _ _ _ standing => standing)
    rw [hands, hands, loopHand_of_ne before]
    rcases there with ⟨rfl, -⟩ | ⟨rfl, -⟩ | ⟨rfl, -⟩
    · rfl
    · rfl
    · rfl
  | wait idle before empty | finish idle before terminated =>
    refine accounted.quiet rfl rfl rfl ?_ (fun _ _ _ standing => standing)
    rw [hands, hands, before]
    rfl
  | take task rest idle before listed goesOn =>
    refine accounted.execute rfl listed rfl rfl (fun other => ?_) (fun _ _ _ standing => standing)
    have empty : loopHand system.loop = [] := by
      rcases before with same | same
      · rw [same]
        rfl
      · rw [same]
        rfl
    rw [hands, hands, empty]
    simp only [loopHand, count_append, count_nil, count_singleton, beq_iff_eq]
    omega
  | delete task idle before =>
    refine accounted.delete rfl rfl rfl (fun other => ?_) (fun _ _ _ standing => standing)
    simp only [hands, before, loopHand, count_append, count_nil, count_singleton, beq_iff_eq]
    omega

lemma accounted_initial : initial.Accounted where
  adding_new := fun _ _ _ standing => by cases standing
  adding_once := fun _ _ _ _ _ standing => by cases standing
  unmade := fun _ _ => rfl
  accepted_once := fun _ => Nat.zero_le 1
  listed := fun _ => rfl
  held := fun _ => rfl

end Accounts

/-! ## Order -/

/-- The tasks which a thread added at the back, are executed in that order before those
of them which are left in the list. -/
def InOrder (system : System) : Prop :=
  ∀ thread,
    addedBack thread system.history =
      ((executed system.history).filter
          fun task => (addedBack thread system.history).contains task) ++
        system.taskList.filter fun task => (addedBack thread system.history).contains task

section Orders

variable {system after : System} {thread : Thread} {task : Task}

lemma acceptances_pos_of_mem_addedBack (mem : task ∈ addedBack thread system.history) :
  0 < system.acceptances task := by
  rcases mem_filterMap.1 mem with ⟨occurrence, happened, same⟩
  refine countP_pos_iff.2 ⟨occurrence, happened, ?_⟩
  cases occurrence with
  | accepted other found push_front =>
    cases push_front with
    | true => cases same
    | false =>
      simp only at same
      split at same
      · cases same
        exact beq_self_eq_true task
      · cases same
  | executed | deleted => cases same

lemma executions_pos_of_mem_executed
  (mem : task ∈ executed system.history) : 0 < system.executions task := by
  rcases mem_filterMap.1 mem with ⟨occurrence, happened, same⟩
  cases occurrence with
  | executed found =>
    cases same
    exact count_pos_iff.2 happened
  | accepted | deleted => cases same

lemma addedBack_append (history later : List Occurrence) :
  addedBack thread (history ++ later) = addedBack thread history ++ addedBack thread later :=
  filterMap_append

lemma addedBack_self : addedBack thread [.accepted thread task false] = [task] := by
  simp [addedBack]

lemma addedBack_of_ne {other : Thread} (ne : thread ≠ other) :
  addedBack other [.accepted thread task false] = [] := by
  simp [addedBack, ne]

lemma executed_append (history later : List Occurrence) :
  executed (history ++ later) = executed history ++ executed later :=
  filterMap_append

lemma InOrder.quiet (inOrder : system.InOrder) (history_eq : after.history = system.history)
  (list_eq : after.taskList = system.taskList) : after.InOrder := by
  intro thread
  rw [history_eq, list_eq]
  exact inOrder thread

lemma InOrder.delete
  (inOrder : system.InOrder) (happened : after.history = system.history ++ [.deleted task])
  (list_eq : after.taskList = system.taskList) : after.InOrder := by
  intro thread
  rw [happened, list_eq, addedBack_append, executed_append,
    show addedBack thread [.deleted task] = [] from rfl,
    show executed [.deleted task] = [] from rfl, append_nil, append_nil]
  exact inOrder thread

lemma InOrder.execute {rest : List Task} (inOrder : system.InOrder)
  (happened : after.history = system.history ++ [.executed task])
  (front : system.taskList = task :: rest) (list_eq : after.taskList = rest) :
  after.InOrder := by
  intro thread
  have before := inOrder thread
  rw [front] at before
  rw [happened, list_eq, addedBack_append, executed_append,
    show addedBack thread [.executed task] = [] from rfl,
    show executed [.executed task] = [task] from rfl, append_nil,
    filter_append, append_assoc, ← filter_append,
    singleton_append]
  exact before

lemma filter_contains_append {tasks backs : List Task} (absent : task ∉ tasks) :
  (tasks.filter fun other => (backs ++ [task]).contains other) =
    tasks.filter fun other => backs.contains other := by
  refine filter_congr fun other mem => ?_
  have ne : other ≠ task := by
    rintro rfl
    exact absent mem
  rw [Bool.eq_iff_iff, contains_iff_mem, contains_iff_mem, mem_append,
    mem_singleton, or_iff_left ne]

lemma InOrder.accept {push_front : Bool} (inOrder : system.InOrder)
  (accounted : system.Accounted) (fresh : system.acceptances task = 0)
  (happened : after.history = system.history ++ [.accepted thread task push_front])
  (list_eq :
    after.taskList = if push_front then task :: system.taskList else system.taskList ++ [task]) :
  after.InOrder := by
  have places := accounted.listed task
  have notListed : task ∉ system.taskList := by
    intro mem
    have present := count_pos_iff.2 mem
    omega
  have notExecuted : task ∉ executed system.history := by
    intro mem
    have present := executions_pos_of_mem_executed mem
    omega
  intro other
  have notAdded : task ∉ addedBack other system.history := by
    intro mem
    exact absurd fresh (Nat.ne_of_gt (acceptances_pos_of_mem_addedBack mem))
  have before := inOrder other
  rw [happened, list_eq, addedBack_append, executed_append,
    show executed [.accepted thread task push_front] = [] from rfl, append_nil]
  cases push_front with
  | true =>
    rw [show addedBack other [.accepted thread task true] = [] from rfl,
      append_nil, if_pos rfl, filter_cons_of_neg (by simpa using notAdded)]
    exact before
  | false =>
    rw [if_neg Bool.false_ne_true]
    by_cases same : thread = other
    · rw [same, addedBack_self, filter_append,
        filter_contains_append notExecuted, filter_contains_append notListed,
        filter_cons_of_pos (by simp), filter_nil, ← append_assoc,
        ← before]
    · rw [addedBack_of_ne same, append_nil, filter_append,
        filter_cons_of_neg (by simpa using notAdded), filter_nil,
        append_nil]
      exact before

lemma InOrder.taken (accounted : system.Accounted) (inOrder : system.InOrder)
  (taken : Taken system after) : after.InOrder := by
  cases taken with
  | accept thread task push_front standing =>
    exact inOrder.accept accounted (accounted.adding_new _ _ _ standing).2 rfl rfl
  | flushTake thread task rest standing listed => exact inOrder.execute rfl listed rfl
  | take task rest idle before listed => exact inOrder.execute rfl listed rfl
  | flushDelete | delete => exact inOrder.delete rfl rfl
  | request | requestAdd | reject | signal | silent | stop | shut | flushed | flushSent =>
    exact inOrder.quiet rfl rfl
  | move | wait | finish => exact inOrder.quiet rfl rfl

lemma inOrder_initial : initial.InOrder := fun _ => rfl

end Orders

/-! ## Signals -/

def Awake (system : System) : Prop :=
  system.loop = .waiting → system.taskList ≠ [] →
    ∃ thread, system.calls thread = [.signalling true]

/-- Once the loop has ended or the dispatcher is terminated, only the thread with the
lock may have left tasks in the list. -/
structure Closed (system : System) : Prop where
  ended : system.loop = .ended → system.threadState ≠ .running
  drained :
    system.loop = .ended ∨ system.threadState = .terminated → system.holder = none →
      system.taskList = []

section Signals

variable {system after : System} {thread : Thread}

/-- The signal is still to come if the list has not grown, and the thread which changed
its call had none to send. -/
lemma Awake.other {calls : List Call} (awake : system.Awake)
  (calls_eq : after.calls = update system.calls thread calls)
  (standing : system.calls thread ≠ [.signalling true]) (loop_eq : after.loop = system.loop)
  (list : after.taskList ≠ [] → system.taskList ≠ []) : after.Awake := by
  intro waits nonempty
  rw [loop_eq] at waits
  rcases awake waits (list nonempty) with ⟨signaller, stands⟩
  refine ⟨signaller, ?_⟩
  have ne : signaller ≠ thread := by
    rintro rfl
    exact standing stands
  rw [calls_eq, update_of_ne ne, stands]

lemma notified_ne_waiting (loop : Loop) : loop.notified ≠ .waiting := by
  cases loop with
  | check | locking | waiting | woken | executing | sending | ended =>
    exact Loop.noConfusion

lemma Awake.taken (awake : system.Awake) (taken : Taken system after) : after.Awake := by
  cases taken with
  | request thread call idle | requestAdd thread push_front idle =>
    exact awake.other rfl (by simp [idle]) rfl id
  | accept thread task push_front standing =>
    by_cases empty : system.taskList = []
    · refine fun _ _ => ⟨thread, (setCalls_self system thread _).trans ?_⟩
      rw [empty]
      rfl
    · exact awake.other rfl (by simp [standing]) rfl fun _ => empty
  | reject thread task push_front standing =>
    exact awake.other rfl (by simp [standing]) rfl id
  | signal thread standing =>
    exact fun waits => absurd waits (notified_ne_waiting system.loop)
  | silent thread standing => exact awake.other rfl (by simp [standing]) rfl id
  | stop thread standing => exact awake.other rfl (by simp [standing]) rfl id
  | shut thread standing => exact awake.other rfl (by simp [standing]) rfl id
  | flushed thread standing => exact awake.other rfl (by simp [standing]) rfl id
  | flushTake thread task rest standing listed =>
    refine awake.other rfl (by simp [standing]) rfl fun _ => ?_
    rw [listed]
    exact cons_ne_nil task rest
  | flushDelete thread task standing =>
    exact awake.other rfl (by simp [standing]) rfl id
  | flushSent thread standing => exact awake.other rfl (by simp [standing]) rfl id
  | move place idle there =>
    intro waits
    rcases there with ⟨rfl, -⟩ | ⟨rfl, -⟩ | ⟨rfl, -⟩
    · cases waits
    · cases waits
    · cases waits
  | wait idle before empty => exact fun _ nonempty => absurd empty nonempty
  | finish | take | delete => exact fun waits => by cases waits

lemma notified_ended {loop : Loop} (ended : loop.notified = .ended) : loop = .ended := by
  cases loop with
  | check | locking | waiting | woken | executing | sending => cases ended
  | ended => rfl

lemma Closed.taken
  (shaped : system.Shaped) (closed : system.Closed) (taken : Taken system after) :
  after.Closed := by
  cases taken with
  | request | requestAdd | reject | silent => exact ⟨closed.ended, closed.drained⟩
  | accept thread task push_front standing free running =>
    constructor
    · exact fun ended => absurd running (closed.ended ended)
    · rintro (ended | terminated) -
      · exact absurd running (closed.ended ended)
      · rw [show system.threadState = .terminated from terminated] at running
        cases running
  | signal thread standing =>
    constructor
    · exact fun ended => closed.ended (notified_ended ended)
    · rintro (ended | terminated)
      · exact closed.drained (.inl (notified_ended ended))
      · exact closed.drained (.inr terminated)
  | stop thread standing free =>
    constructor
    · exact fun _ => DispatcherState.noConfusion
    · rintro (ended | terminated) -
      · exact closed.drained (.inl ended) free
      · cases terminated
  | shut thread standing free =>
    constructor
    · exact fun _ => DispatcherState.noConfusion
    · exact fun _ held => by cases held
  | flushed thread standing empty => exact ⟨closed.ended, fun _ _ => empty⟩
  | flushTake thread task rest standing listed =>
    refine ⟨closed.ended, fun _ held => ?_⟩
    have holds := shaped.holder_of_flush standing rfl
    rw [show system.holder = none from held] at holds
    cases holds
  | flushDelete thread task standing => exact ⟨closed.ended, closed.drained⟩
  | flushSent thread standing => exact ⟨closed.ended, closed.drained⟩
  | move place idle there =>
    have goesOn : place ≠ .ended := by
      rcases there with ⟨rfl, -⟩ | ⟨rfl, -⟩ | ⟨rfl, -⟩
      · exact Loop.noConfusion
      · exact Loop.noConfusion
      · exact Loop.noConfusion
    constructor
    · exact fun ended => absurd ended goesOn
    · rintro (ended | terminated)
      · exact absurd ended goesOn
      · exact closed.drained (.inr terminated)
  | wait idle before empty => exact ⟨Loop.noConfusion, fun _ _ => empty⟩
  | finish idle before terminated =>
    constructor
    · intro _ running
      rw [show system.threadState = .running from running] at terminated
      cases terminated
    · exact fun _ => closed.drained (.inr terminated)
  | take task rest idle before listed goesOn =>
    constructor
    · exact fun ended => by cases ended
    · rintro (ended | terminated)
      · cases ended
      · exact absurd terminated goesOn
  | delete task idle before =>
    constructor
    · exact fun ended => by cases ended
    · rintro (ended | terminated)
      · cases ended
      · exact closed.drained (.inr terminated)

end Signals

/-! ## Runs -/

structure Sound (system : System) : Prop where
  shaped : system.Shaped
  accounted : system.Accounted
  inOrder : system.InOrder
  awake : system.Awake
  closed : system.Closed

section Runs

variable {system after : System} {thread : Thread} {task : Task}

lemma sound_initial : initial.Sound where
  shaped := shaped_initial
  accounted := accounted_initial
  inOrder := inOrder_initial
  awake := fun waits => by cases waits
  closed := ⟨Loop.noConfusion, fun _ _ => rfl⟩

lemma Sound.step {event : Event} (sound : system.Sound) (quiet : system.FlushesQuietly event)
  (taken : system.step event = some after) : after.Sound := by
  have made := step_taken sound.shaped quiet taken
  exact
    { shaped := sound.shaped.taken made
      accounted := sound.accounted.taken sound.shaped made
      inOrder := sound.inOrder.taken sound.accounted made
      awake := sound.awake.taken made
      closed := sound.closed.taken sound.shaped made }

lemma Reaches.sound (run : Reaches FlushesQuietly initial system) : system.Sound :=
  run.invariant sound_initial fun _ _ _ sound quiet taken => sound.step quiet taken

lemma mem_hands_iff (shaped : system.Shaped) :
  task ∈ system.hands ↔ system.IsExecuting task := by
  rw [hands, mem_append, IsExecuting]
  refine or_congr ?_ ?_
  · cases system.loop with
    | executing other =>
      rw [loopHand, mem_singleton, Loop.executing.injEq, eq_comm]
    | check | locking | waiting | woken | sending | ended => simp [loopHand]
  · constructor
    · intro mem
      cases held : system.holder with
      | none =>
        rw [held] at mem
        cases mem
      | some thread =>
        rcases (shaped.holds thread).1 held with ⟨call, standing, flush⟩
        rw [held, flushHand, standing] at mem
        refine ⟨thread, ?_⟩
        rw [standing]
        cases call with
        | flushExecuting other =>
          rw [mem_singleton.1 mem]
          exact mem_singleton_self _
        | adding | signalling | stopping | shutting => cases flush
        | flushing | flushSending => cases mem
    · rintro ⟨thread, mem⟩
      rcases shaped.single thread with idle | ⟨call, standing⟩
      · rw [idle] at mem
        cases mem
      · rw [standing, mem_singleton] at mem
        subst mem
        rw [shaped.holder_of_flush standing rfl, flushHand, standing]
        exact mem_singleton_self task

section

variable (sound : system.Sound)
include sound

lemma Sound.once (accepted : 0 < system.acceptances task) :
  system.acceptances task = 1 ∧
    (task ∈ system.taskList ∧ system.taskList.count task = 1 ∧
        system.executions task = 0 ∧ system.deletions task = 0 ∨
      task ∉ system.taskList ∧ system.executions task = 1 ∧
        (system.deletions task = 0 ∧ system.IsExecuting task ∨
          system.deletions task = 1 ∧ ¬ system.IsExecuting task)) := by
  have one := sound.accounted.accepted_once task
  have listed := sound.accounted.listed task
  have held := sound.accounted.held task
  rw [← mem_hands_iff sound.shaped]
  refine ⟨by omega, ?_⟩
  by_cases inList : task ∈ system.taskList
  · have present := count_pos_iff.2 inList
    exact .inl ⟨inList, by omega, by omega, by omega⟩
  · have absent := count_eq_zero.2 inList
    refine .inr ⟨inList, by omega, ?_⟩
    by_cases inHand : task ∈ system.hands
    · have present := count_pos_iff.2 inHand
      exact .inl ⟨by omega, inHand⟩
    · have none := count_eq_zero.2 inHand
      exact .inr ⟨by omega, inHand⟩

variable (quiet : system.IsQuiet)
include quiet

lemma Sound.free_of_quiet : system.holder = none := by
  cases held : system.holder with
  | none => rfl
  | some thread =>
    rcases (sound.shaped.holds thread).1 held with ⟨call, standing, flush⟩
    have stuck := quiet.1 thread
    simp only [System.step, standing] at stuck
    cases call with
    | adding | signalling | stopping | shutting => cases flush
    | flushing =>
      simp only [stepCall] at stuck
      split at stuck
      · cases stuck
      · cases stuck
    | flushExecuting | flushSending => cases stuck

lemma Sound.idle_of_quiet (thread : Thread) : system.calls thread = [] := by
  have free := sound.free_of_quiet quiet
  rcases sound.shaped.single thread with idle | ⟨call, standing⟩
  · exact idle
  · have stuck := quiet.1 thread
    simp only [System.step, standing] at stuck
    cases call with
    | adding | stopping | shutting =>
      simp only [stepCall, if_pos free] at stuck
      cases stuck
    | signalling | flushExecuting | flushSending => cases stuck
    | flushing =>
      simp only [stepCall] at stuck
      split at stuck
      · cases stuck
      · cases stuck

lemma Sound.loop_of_quiet : system.loop = .waiting ∨ system.loop = .ended := by
  have stuck := quiet.2
  simp only [System.step, if_pos (sound.idle_of_quiet quiet dispatcher)] at stuck
  unfold stepLoop at stuck
  split at stuck
  case h_1 => cases stuck
  case h_2 =>
    rw [if_pos (sound.free_of_quiet quiet)] at stuck
    split at stuck
    · cases stuck
    · cases stuck
  case h_3 waits => exact .inl waits
  case h_4 =>
    rw [if_pos (sound.free_of_quiet quiet)] at stuck
    cases stuck
  case h_5 => cases stuck
  case h_6 => cases stuck
  case h_7 ended => exact .inr ended

lemma Sound.empty_of_quiet : system.taskList = [] := by
  rcases sound.loop_of_quiet quiet with waits | ended
  · by_contra nonempty
    rcases sound.awake waits nonempty with ⟨thread, standing⟩
    rw [sound.idle_of_quiet quiet thread] at standing
    cases standing
  · exact sound.closed.drained (.inl ended) (sound.free_of_quiet quiet)

lemma Sound.completes (accepted : 0 < system.acceptances task) :
  system.executions task = 1 ∧ system.deletions task = 1 := by
  rcases (sound.once accepted).2 with ⟨inList, -⟩ | ⟨-, executed, ⟨-, executing⟩ | ⟨deleted, -⟩⟩
  · rw [sound.empty_of_quiet quiet] at inList
    cases inList
  · rcases executing with inLoop | ⟨thread, mem⟩
    · rcases sound.loop_of_quiet quiet with other | other
      · rw [other] at inLoop
        cases inLoop
      · rw [other] at inLoop
        cases inLoop
    · rw [sound.idle_of_quiet quiet thread] at mem
      cases mem
  · exact ⟨executed, deleted⟩

end

theorem dispatches_of_flushesQuietly
  (run : Reaches FlushesQuietly initial system) : system.Dispatches := by
  have sound := Reaches.sound run
  exact
    { once := fun task accepted => sound.once accepted
      inOrder := sound.inOrder
      awake := fun waits nonempty =>
        (sound.awake waits nonempty).imp fun thread standing => ⟨[], standing⟩
      lockFree := fun thread requests => sound.shaped.lockFree requests
      completes := fun quiet =>
        ⟨sound.empty_of_quiet quiet, fun task accepted => sound.completes quiet accepted⟩ }

end Runs

instance (system : System) (event : Event) : Decidable (system.FlushesQuietly event) :=
  match event with
  | .addTask _ _ | .stop _ | .shutdown _ => inferInstanceAs (Decidable (_ = _))
  | .call _ | .loop | .wake => isTrue trivial

/-- The steps one after the other, if the guard allows them and they can be made. -/
def guardedSteps (quietly : Bool) (system : System) (events : List Event) : Option System :=
  events.foldlM
    (fun system event =>
      if quietly = true → system.FlushesQuietly event then system.step event else none)
    system

lemma reaches_of_guardedSteps {quietly : Bool} {system after : System} (events : List Event)
  (made : guardedSteps quietly system events = some after) :
  Reaches (fun system event => quietly = true → system.FlushesQuietly event) system after := by
  induction events using List.reverseRecOn generalizing after with
  | nil =>
    cases made
    exact .refl
  | append_singleton events event inductionHypothesis =>
    rw [guardedSteps, foldlM_append, ← guardedSteps] at made
    cases before : guardedSteps quietly system events with
    | none =>
      rw [before] at made
      cases made
    | some middle =>
      rw [before, bind_eq_bind, bind_some, foldlM_cons] at made
      split at made
      case isFalse =>
        cases made
      case isTrue allowed =>
        have run := inductionHypothesis before
        refine run.tail allowed ?_
        simpa using made

/-- A thread adds a task, which the dispatcher executes. -/
theorem dispatches_one_task :
  ∃ system : System,
    system.history = [.accepted 1 0 false, .executed 0, .deleted 0] ∧
      system.Dispatches := by
  cases made :
      guardedSteps true initial [.addTask 1 false, .call 1, .call 1, .loop, .loop, .loop] with
  | none =>
    have some :
        (guardedSteps true initial
          [.addTask 1 false, .call 1, .call 1, .loop, .loop, .loop]).isSome := by
      decide
    rw [made] at some
    cases some
  | some system =>
    have history :
        (guardedSteps true initial
            [.addTask 1 false, .call 1, .call 1, .loop, .loop, .loop]).map System.history =
          some [.accepted 1 0 false, .executed 0, .deleted 0] := by
      decide
    rw [made] at history
    have run := (reaches_of_guardedSteps _ made).mono fun _ _ allowed => allowed rfl
    exact ⟨system, Option.some.inj history, dispatches_of_flushesQuietly run⟩

/-- Two tasks are added, the first one shuts the dispatcher down, and a message is
released behind the second one. -/
def shutdownEvents : List Event :=
  [.addTask 1 false, .call 1, .call 1, .addTask 1 false, .call 1, .call 1, .loop, .loop,
    .shutdown dispatcher, .call dispatcher, .call dispatcher, .call dispatcher,
    .addTask dispatcher true]

theorem flush_requests_lock : ¬ ∀ system, Reaches Always initial system → system.Dispatches := by
  intro always
  have stuck :
      (guardedSteps false initial shutdownEvents).any fun system =>
        system.holder == some dispatcher &&
          system.calls dispatcher == [.adding 2 true, .flushSending] := by
    decide
  cases made : guardedSteps false initial shutdownEvents with
  | none =>
    rw [made] at stuck
    cases stuck
  | some system =>
    rw [made, any_some, Bool.and_eq_true, beq_iff_eq, beq_iff_eq] at stuck
    have run := (reaches_of_guardedSteps _ made).always
    refine (always system run).lockFree dispatcher ?_ stuck.1
    rw [Requests, stuck.2]
    rfl

end System

end OTServ.Scheduling.Dispatching
