import OTServ.WorldEvents.Raids
import OTServ.Library.GuardedRuns
import Mathlib.Data.List.Induction

/-!
# Runs of the raids

A raid runs through its course: it starts, awaits its events one after the other, is
over after the last one or after one that fails, and resets.  Between operations no
raid is over, and the one which awaits an event has the one task that executes it.

This needs three things.  A raid which starts must have an event, since nothing would
reset it otherwise.  A raid whose turn it is in a pass must have an interval, by which
the pass divides.  And what is cleared must be stopped: a task which the dispatcher
has already, or which `forceRaid` has created, is not stopped with its raid.
-/

namespace OTServ.WorldEvents

open Library Library.GuardedRuns
open List Function

inductive Standing where
  | idle
  | awaiting (raidEvent : Nat)
  | over
deriving DecidableEq

def follow (length : Nat) : Standing → Deed → Option Standing
  | .idle, .started => some (.awaiting 0)
  | .awaiting expected, .executed raidEvent succeeded =>
    if raidEvent = expected then
      if succeeded ∧ expected + 1 < length then some (.awaiting (expected + 1))
      else some .over
    else none
  | .over, .reset => some .idle
  | _, _ => none

def eventOf : Job → Option (Nat × Nat)
  | .checkRaids => none
  | .executeRaidEvent raid raidEvent _ => some (raid, raidEvent)

variable {system other : Raids} {address now : Nat} {raid : Raid} {draw : Nat → Nat}

namespace Raids

def deeds (system : Raids) (address : Nat) : List Deed :=
  system.history.filterMap fun entry => if entry.1 = address then some entry.2 else none

def standing (system : Raids) (address : Nat) : Option Standing :=
  (system.deeds address).foldlM (follow (system.raids address).raidEvents.length) .idle

def events (system : Raids) : List (Nat × Nat) :=
  system.tasks.select eventOf

def eventsOf (system : Raids) (address : Nat) : List Nat :=
  system.events.filterMap fun event => if event.1 = address then some event.2 else none

/-- What is promised of the raids between operations. -/
structure NeverStuck (system : Raids) : Prop where
  /-- at most one raid is running, and it is the one which executes its events -/
  oneRuns :
    ∀ address ∈ system.raidList,
      (system.raids address).state = .RAIDSTATE_EXECUTING ↔ system.running = some address
  /-- a raid is running if and only if one task is to execute one of its events -/
  running_iff : ∀ address, system.running = some address ↔ (system.eventsOf address).length = 1
  /-- no task refers to a deleted raid -/
  refersToRaid :
    ∀ task ∈ system.tasks.pending, ∀ address raidEvent ticks,
      task.job = .executeRaidEvent address raidEvent ticks → address ∈ system.raidList
  /-- a raid that has been started executes its events in order and then resets -/
  keepsCourse : ∀ address, ∃ standing, system.standing address = some standing ∧ standing ≠ .over
  /-- the event which a raid awaits is the one that its task executes -/
  awaits_iff :
    ∀ address ∈ system.raidList, ∀ raidEvent,
      system.standing address = some (.awaiting raidEvent) ↔ system.eventsOf address = [raidEvent]
  noDivisionByZero : system.dividedByZero = false
  noneAstray : system.astray = false

def IsDue (system : Raids) (now address : Nat) : Prop :=
  system.lastRaidEnd + (system.raids address).margin ≤ now

def IsDrawn (system : Raids) (now : Nat) (draw : Nat → Nat) (address : Nat) : Prop :=
  system.IsDue now address ∧ (system.raids address).interval ≠ 0 ∧
    draw address ≤ MAX_RAND_RANGE * CHECK_RAIDS_INTERVAL / (system.raids address).interval

/--
The raids which a pass comes to have an interval if they are due, and an event if
they are started.
-/
def PassesWell (system : Raids) (now : Nat) (draw : Nat → Nat) : Prop :=
  ∀ before address after,
    system.raidList = before ++ address :: after →
    (∀ earlier ∈ before, ¬ system.IsDrawn now draw earlier) →
      (system.IsDue now address → (system.raids address).interval ≠ 0) ∧
      (system.IsDrawn now draw address → (system.raids address).raidEvents ≠ [])

/-- Deleting the raids stops every task that is to execute an event. -/
def StopsAll (system : Raids) : Prop :=
  ∀ task ∈ system.tasks.pending, ∀ address raidEvent ticks,
    task.job = .executeRaidEvent address raidEvent ticks →
      DeferredTasks.Stoppable (system.raids address).nextEventEvent task

def Sparing (system : Raids) : Operation → Prop
  | .execute index scene =>
    ∀ task, system.tasks.pending[index]? = some task →
      task.handed = true → task.job = .checkRaids → system.running = none →
        system.PassesWell scene.now scene.draw
  | .forceRaid param =>
    ∀ address, system.getRaidByName param = some address →
      (system.raids address).loaded = true → system.running = none →
        (system.raids address).raidEvents ≠ []
  | .clear => system.StopsAll
  | .reload _ => system.StopsAll
  | _ => True

@[simp]
lemma standing_note (system : Raids) (address other : Nat) (deed : Deed) :
  (system.note address deed).standing other =
    if address = other then
      (system.standing other).bind fun standing =>
        follow (system.raids other).raidEvents.length standing deed
    else system.standing other := by
  by_cases same : address = other
  · simp [standing, deeds, note, same, filterMap_append, foldlM_append]
  · simp [standing, deeds, note, same, filterMap_append]

lemma standing_eq (history : other.history = system.history)
  (raidEvents : (other.raids address).raidEvents = (system.raids address).raidEvents) :
  other.standing address = system.standing address := by
  rw [standing, standing, deeds, deeds, history, raidEvents]

@[simp]
lemma setRaid_raids_self (system : Raids) (address : Nat) (raid : Raid) :
  (system.setRaid address raid).raids address = raid :=
  update_self ..

lemma setRaid_raids_other (system : Raids) (raid : Raid) {other : Nat} (ne : other ≠ address) :
  (system.setRaid address raid).raids other = system.raids other :=
  update_of_ne ne ..

lemma standing_setRaid (system : Raids) (address : Nat) (raid : Raid)
  (raidEvents : raid.raidEvents = (system.raids address).raidEvents) :
  (system.setRaid address raid).standing address = system.standing address :=
  standing_eq rfl (by rw [setRaid_raids_self, raidEvents])

structure Base (system : Raids) (busy : Option Nat) : Prop where
  running : system.running = busy
  listed : ∀ address, busy = some address → address ∈ system.raidList
  below : ∀ address ∈ system.raidList, address < system.next
  known : ∀ entry ∈ system.history, entry.1 < system.next
  keepsCourse :
    ∀ address, busy ≠ some address → ∃ standing,
      system.standing address = some standing ∧ standing ≠ .over
  rests :
    ∀ address ∈ system.raidList, busy ≠ some address →
      (system.raids address).state = .RAIDSTATE_IDLE ∧
      (system.raids address).nextEvent = 0 ∧
      system.standing address = some .idle
  noDivisionByZero : system.dividedByZero = false
  noneAstray : system.astray = false

structure Awaits (system : Raids) (address : Nat) : Prop where
  executing : (system.raids address).state = .RAIDSTATE_EXECUTING
  inside : (system.raids address).nextEvent < (system.raids address).raidEvents.length
  standing : system.standing address = some (.awaiting (system.raids address).nextEvent)
  events : system.events = [(address, (system.raids address).nextEvent)]

inductive Kept (system : Raids) : Prop
  | resting
      (base : system.Base none)
      (quiet : system.events = [])
  | going
      (address : Nat)
      (base : system.Base (some address))
      (awaits : system.Awaits address)

/-- The state has what the invariant speaks about from another one. -/
structure Agrees (system other : Raids) : Prop where
  running : other.running = system.running
  raidList : other.raidList = system.raidList
  raids : other.raids = system.raids
  next : other.next = system.next
  history : other.history = system.history
  dividedByZero : other.dividedByZero = system.dividedByZero
  astray : other.astray = system.astray

namespace Agrees

variable {system other : Raids} (agrees : system.Agrees other)

include agrees

lemma standing (address : Nat) : other.standing address = system.standing address :=
  standing_eq agrees.history (by rw [agrees.raids])

lemma base {busy : Option Nat} (base : system.Base busy) : other.Base busy where
  running := agrees.running.trans base.running
  listed := agrees.raidList ▸ base.listed
  below := by
    rw [agrees.raidList, agrees.next]
    exact base.below
  known := by
    rw [agrees.history, agrees.next]
    exact base.known
  keepsCourse address different := by
    rw [agrees.standing]
    exact base.keepsCourse address different
  rests address mem different := by
    rw [agrees.standing, agrees.raids]
    exact base.rests address (agrees.raidList ▸ mem) different
  noDivisionByZero := agrees.dividedByZero.trans base.noDivisionByZero
  noneAstray := agrees.astray.trans base.noneAstray

lemma awaits (events : other.events = system.events) (awaits : system.Awaits address) :
  other.Awaits address where
  executing := by
    rw [agrees.raids]
    exact awaits.executing
  inside := by
    rw [agrees.raids]
    exact awaits.inside
  standing := by
    rw [agrees.standing, agrees.raids]
    exact awaits.standing
  events := by
    rw [events, agrees.raids]
    exact awaits.events

end Agrees

lemma Kept.agrees (kept : system.Kept) (agrees : system.Agrees other)
  (events : other.events = system.events) : other.Kept := by
  cases kept with
  | resting base quiet => exact .resting (agrees.base base) (events.trans quiet)
  | going address base awaits =>
    exact .going address (agrees.base base) (agrees.awaits events awaits)

/-! ## Changes of one raid -/

structure Touches (address : Nat) (system other : Raids) : Prop where
  raidList : other.raidList = system.raidList
  raids : ∀ different ≠ address, other.raids different = system.raids different
  next : other.next = system.next
  known : ∀ entry ∈ other.history, entry ∈ system.history ∨ entry.1 = address
  standing : ∀ different ≠ address, other.standing different = system.standing different
  dividedByZero : other.dividedByZero = system.dividedByZero
  astray : other.astray = system.astray

namespace Touches

variable {address : Nat} {system middle other : Raids}

lemma trans (first : Touches address system middle) (second : Touches address middle other) :
  Touches address system other where
  raidList := second.raidList.trans first.raidList
  raids ne unequal := (second.raids ne unequal).trans (first.raids ne unequal)
  next := second.next.trans first.next
  known entry inHistory := by
    rcases second.known entry inHistory with old | same
    · exact first.known entry old
    · exact Or.inr same
  standing ne unequal :=
    (second.standing ne unequal).trans (first.standing ne unequal)
  dividedByZero := second.dividedByZero.trans first.dividedByZero
  astray := second.astray.trans first.astray

lemma note (system : Raids) (address : Nat) (deed : Deed) :
  Touches address system (system.note address deed) where
  raidList := rfl
  raids _ _ := rfl
  next := rfl
  known entry inHistory := by
    rcases mem_append.mp inHistory with old | new
    · exact Or.inl old
    · exact Or.inr (congrArg Prod.fst (mem_singleton.mp new))
  standing ne unequal := by
    rw [standing_note, if_neg (Ne.symm unequal)]
  dividedByZero := rfl
  astray := rfl

lemma setRaid (system : Raids) (address : Nat) (raid : Raid) :
  Touches address system (system.setRaid address raid) where
  raidList := rfl
  raids _ unequal := setRaid_raids_other _ _ unequal
  next := rfl
  known _ inHistory := Or.inl inHistory
  standing _ unequal := standing_eq rfl (by rw [setRaid_raids_other _ _ unequal])
  dividedByZero := rfl
  astray := rfl

lemma same (raidList : other.raidList = system.raidList) (raids : other.raids = system.raids)
  (next : other.next = system.next) (history : other.history = system.history)
  (dividedByZero : other.dividedByZero = system.dividedByZero)
  (astray : other.astray = system.astray) : Touches address system other where
  raidList := raidList
  raids ne _ := by rw [raids]
  next := next
  known _ inHistory := Or.inl (history ▸ inHistory)
  standing _ _ := standing_eq history (by rw [raids])
  dividedByZero := dividedByZero
  astray := astray

/-- The other raids rest as they did. -/
lemma base {before after : Option Nat} (touches : Touches address system other)
  (base : system.Base before) (mem : address ∈ system.raidList)
  (allowed : before = none ∨ before = some address) (running : other.running = after)
  (now :
    after = some address ∨
      after = none ∧
      (other.raids address).state = .RAIDSTATE_IDLE ∧
      (other.raids address).nextEvent = 0 ∧
      other.standing address = some .idle) : other.Base after := by
  have apart : ∀ different ≠ address, before ≠ some different := by
    rintro different unequal same
    rcases allowed with none_ | some_
    · rw [none_] at same
      cases same
    · rw [some_] at same
      exact unequal (Option.some.inj same).symm
  exact {
    running := running
    listed := by
      rintro busy rfl
      rcases now with same | ⟨impossible, -⟩
      · rw [Option.some.inj same, touches.raidList]
        exact mem
      · cases impossible
    below := by
      rw [touches.raidList, touches.next]
      exact base.below
    known := by
      rintro entry inHistory
      rw [touches.next]
      rcases touches.known entry inHistory with old | same
      · exact base.known entry old
      · exact same ▸ base.below address mem
    keepsCourse := by
      intro different other
      by_cases unequal : different = address
      · rcases now with same | ⟨-, -, -, idle⟩
        · exact absurd (unequal ▸ same) other
        · exact ⟨.idle, unequal ▸ idle, by decide⟩
      · rw [touches.standing different unequal]
        exact base.keepsCourse different (apart different unequal)
    rests := by
      intro different inList other
      by_cases unequal : different = address
      · rcases now with same | ⟨-, rest⟩
        · exact absurd (unequal ▸ same) other
        · exact unequal ▸ rest
      · rw [touches.standing different unequal, touches.raids different unequal]
        exact base.rests different (touches.raidList ▸ inList) (apart different unequal)
    noDivisionByZero := touches.dividedByZero.trans base.noDivisionByZero
    noneAstray := touches.astray.trans base.noneAstray }

end Touches

/-! ## A raid runs -/

lemma getNextRaidEvent_some (inside : raid.nextEvent < raid.raidEvents.length) :
  raid.getNextRaidEvent = some raid.nextEvent :=
  if_pos inside

lemma getNextRaidEvent_none (outside : ¬ raid.nextEvent < raid.raidEvents.length) :
  raid.getNextRaidEvent = none :=
  if_neg outside

lemma scheduleEvent_kept (ticks : UInt32) (base : system.Base (some address))
  (executing : (system.raids address).state = .RAIDSTATE_EXECUTING)
  (inside : (system.raids address).nextEvent < (system.raids address).raidEvents.length)
  (standing : system.standing address = some (.awaiting (system.raids address).nextEvent))
  (quiet : system.events = []) :
  (system.scheduleEvent address (system.raids address).nextEvent ticks).Kept := by
  have touches :
      Touches address system
        (system.scheduleEvent address (system.raids address).nextEvent ticks) :=
    (Touches.setRaid system address _).trans (Touches.same rfl rfl rfl rfl rfl rfl)
  have member := base.listed address rfl
  refine .going address (touches.base base member (Or.inr rfl) base.running (Or.inl rfl)) ?_
  exact {
    executing := by simpa [scheduleEvent] using executing
    inside := by simpa [scheduleEvent] using inside
    standing := by
      have same :
          (system.scheduleEvent address (system.raids address).nextEvent ticks).standing address =
          system.standing address :=
        standing_eq rfl (by simp [scheduleEvent])
      rw [same, standing]
      simp [scheduleEvent]
    events := by
      have nothing : system.tasks.select eventOf = [] := quiet
      simp [events, scheduleEvent, nothing, eventOf] }

lemma resetRaid_kept
  (base : system.Base (some address)) (ended : system.standing address = some .over)
  (quiet : system.events = []) : (system.resetRaid address now).Kept := by
  have member := base.listed address rfl
  let raid := { system.raids address with
    nextEvent := 0
    state := .RAIDSTATE_IDLE }
  have touches : Touches address system (system.resetRaid address now) :=
    ((Touches.setRaid system address raid).trans (Touches.note _ address .reset)).trans
      (Touches.same rfl rfl rfl rfl rfl rfl)
  have still : (system.setRaid address raid).standing address = some .over :=
    (standing_setRaid system address raid rfl).trans ended
  have idle : (system.resetRaid address now).standing address = some .idle := by
    calc
      (system.resetRaid address now).standing address
          = ((system.setRaid address raid).note address .reset).standing address :=
            standing_eq rfl rfl
      _ = some .idle := by
            rw [standing_note, if_pos rfl, still]
            rfl
  refine .resting (touches.base base member (Or.inr rfl) rfl (Or.inr ⟨rfl, ?_, ?_, idle⟩)) quiet
  · simp [resetRaid, Raids.note]
  · simp [resetRaid, Raids.note]

lemma executeRaidEvent_kept {succeeds : Bool} (base : system.Base (some address))
  (executing : (system.raids address).state = .RAIDSTATE_EXECUTING)
  (standing : system.standing address = some (.awaiting (system.raids address).nextEvent))
  (quiet : system.events = []) :
  (system.executeRaidEvent address (system.raids address).nextEvent succeeds now).Kept := by
  have member := base.listed address rfl
  -- what the course says about the event
  have followed (final : Standing)
      (next :
        follow (system.raids address).raidEvents.length
          (.awaiting (system.raids address).nextEvent)
          (.executed (system.raids address).nextEvent succeeds) = some final) :
      (system.note address
        (.executed (system.raids address).nextEvent succeeds)).standing address = some final := by
    rw [standing_note, if_pos rfl, standing]
    exact next
  have noted :
      (system.note address
        (.executed (system.raids address).nextEvent succeeds)).Base (some address) :=
    (Touches.note system address _).base base member (Or.inr rfl) base.running (Or.inl rfl)
  rw [executeRaidEvent, if_pos member]
  cases succeeds with
  | false =>
    exact resetRaid_kept noted (followed .over (by simp [follow])) quiet
  | true =>
    let raid := { system.raids address with
      nextEvent := (system.raids address).nextEvent + 1 }
    let other := (system.note address
      (.executed (system.raids address).nextEvent true)).setRaid address raid
    have advanced : other.Base (some address) :=
      (Touches.setRaid _ address raid).base noted member (Or.inr rfl) base.running (Or.inl rfl)
    have stands : other.standing address =
        (system.note address (.executed (system.raids address).nextEvent true)).standing address :=
      standing_setRaid _ address raid rfl
    have held : other.raids address = raid := setRaid_raids_self ..
    rw [if_pos rfl]
    dsimp only
    split
    · rename_i newRaidEvent found
      have inside : raid.nextEvent < raid.raidEvents.length := by
        by_contra outside
        cases (getNextRaidEvent_none outside).symm.trans found
      cases (getNextRaidEvent_some inside).symm.trans found
      have awaiting :
          other.standing address = some (.awaiting (other.raids address).nextEvent) := by
        rw [stands, held]
        exact followed (.awaiting raid.nextEvent) (by
          have more : (system.raids address).nextEvent + 1 <
              (system.raids address).raidEvents.length := inside
          simp [follow, more, raid])
      have scheduled :=
        scheduleEvent_kept
          (ticksBetween raid raid.nextEvent (system.raids address).nextEvent)
          advanced (by rw [held]; exact executing) (by rw [held]; exact inside)
          awaiting quiet
      rw [held] at scheduled
      exact scheduled
    · rename_i none
      have outside : ¬ raid.nextEvent < raid.raidEvents.length := by
        intro inside
        cases (getNextRaidEvent_some inside).symm.trans none
      have ended : other.standing address = some .over := by
        rw [stands]
        exact followed .over (by
          have last : ¬ (system.raids address).nextEvent + 1 <
              (system.raids address).raidEvents.length := outside
          simp [follow, last])
      exact resetRaid_kept advanced ended quiet

/-! ## A raid is started -/

/-- A raid that has been started, with its state, and nothing to execute it yet. -/
structure Begun (system : Raids) (address : Nat) : Prop where
  base : system.Base (some address)
  executing : (system.raids address).state = .RAIDSTATE_EXECUTING
  inside : (system.raids address).nextEvent < (system.raids address).raidEvents.length
  standing : system.standing address = some (.awaiting (system.raids address).nextEvent)
  quiet : system.events = []

lemma begun (base : system.Base none) (quiet : system.events = [])
  (mem : address ∈ system.raidList) (furnished : (system.raids address).raidEvents ≠ []) :
  (system.raids address).getNextRaidEvent = some (system.raids address).nextEvent ∧
    ((({ system with running := some address } : Raids).note address
      .started).setRaid address
        { system.raids address with state := .RAIDSTATE_EXECUTING }).Begun
          address := by
  obtain ⟨-, atStart, idle⟩ := base.rests address mem (by simp)
  have inside : (system.raids address).nextEvent < (system.raids address).raidEvents.length := by
    rw [atStart]
    exact length_pos_iff.mpr furnished
  let raid := { system.raids address with state := .RAIDSTATE_EXECUTING }
  let noted := ({ system with running := some address } : Raids).note address .started
  have running : Touches address system { system with running := some address } :=
    Touches.same rfl rfl rfl rfl rfl rfl
  have touches : Touches address system (noted.setRaid address raid) :=
    (running.trans (Touches.note _ address .started)).trans (Touches.setRaid noted address raid)
  have held : (noted.setRaid address raid).raids address = raid := setRaid_raids_self ..
  have standing : (noted.setRaid address raid).standing address = some (.awaiting 0) := by
    calc
      (noted.setRaid address raid).standing address
          = noted.standing address := standing_setRaid noted address raid rfl
      _ = some (.awaiting 0) := by
            have before :
                ({ system with running := some address } : Raids).standing address = some .idle :=
              (standing_eq rfl rfl).trans idle
            rw [standing_note, if_pos rfl, before]
            rfl
  refine ⟨getNextRaidEvent_some inside, ?_⟩
  exact {
    base := touches.base base mem (Or.inl rfl) rfl (Or.inl rfl)
    executing := by rw [held]
    inside := by
      rw [held]
      exact inside
    standing := by
      rw [held]
      exact standing.trans (by rw [← atStart])
    quiet := quiet }

lemma startRaid_eq
  {raidEvent : Nat} (next : (system.raids address).getNextRaidEvent = some raidEvent) :
  system.startRaid address =
    (system.setRaid address
      { system.raids address with state := .RAIDSTATE_EXECUTING }).scheduleEvent
        address raidEvent ((system.raids address).getDelay raidEvent) := by
  simp only [startRaid, next]

lemma Begun.kept (begun : system.Begun address) (agrees : system.Agrees other)
  (events : other.events = [(address, (system.raids address).nextEvent)]) : other.Kept := by
  refine .going address (agrees.base begun.base) ?_
  exact {
    executing := by
      rw [agrees.raids]
      exact begun.executing
    inside := by
      rw [agrees.raids]
      exact begun.inside
    standing := by
      rw [agrees.standing, agrees.raids]
      exact begun.standing
    events := by rw [events, agrees.raids] }

lemma checkLoop_passes (well : system.PassesWell now draw) :
  ∀ before rest, system.raidList = before ++ rest →
    (∀ earlier ∈ before, ¬ system.IsDrawn now draw earlier) →
      system.checkLoop now draw rest = .nothing ∨
      ∃ address ∈ rest,
        system.checkLoop now draw rest = .raid address ∧
        (system.raids address).raidEvents ≠ [] := by
  intro before rest split earlier
  induction rest generalizing before with
  | nil => exact Or.inl rfl
  | cons address rest ih =>
    obtain ⟨hasInterval, hasEvents⟩ := well before address rest split earlier
    have later (undrawn : ¬ system.IsDrawn now draw address) :
        system.checkLoop now draw rest = .nothing ∨
        ∃ found ∈ address :: rest,
          system.checkLoop now draw rest = .raid found ∧
          (system.raids found).raidEvents ≠ [] := by
      rcases ih (before ++ [address]) (by simp [split]) (by
        intro other mem
        rcases mem_append.mp mem with old | new
        · exact earlier other old
        · exact mem_singleton.mp new ▸ undrawn) with
        nothing | ⟨found, mem, started, furnished⟩
      · exact Or.inl nothing
      · exact Or.inr ⟨found, mem_cons_of_mem _ mem, started, furnished⟩
    rw [checkLoop]
    split_ifs with due zero low
    · exact absurd zero (hasInterval due)
    · exact Or.inr ⟨address, mem_cons_self, rfl, hasEvents ⟨due, zero, low⟩⟩
    · exact later fun drawn => low drawn.2.2
    · exact later fun drawn => due drawn.1

/-! ## Each operation -/

lemma scheduleCheck_agrees (system : Raids) : system.Agrees system.scheduleCheck :=
  ⟨rfl, rfl, rfl, rfl, rfl, rfl, rfl⟩

@[simp]
lemma scheduleCheck_events (system : Raids) : system.scheduleCheck.events = system.events := by
  simp [events, scheduleCheck, eventOf]

section

variable (kept : system.Kept)
include kept

lemma Kept.scheduleCheck : system.scheduleCheck.Kept :=
  kept.agrees system.scheduleCheck_agrees system.scheduleCheck_events

lemma Kept.noDivisionByZero : system.dividedByZero = false := by
  cases kept with
  | resting base _ | going _ base _ => exact base.noDivisionByZero

lemma checkRaids_kept (well : system.running = none → system.PassesWell now draw) :
  (system.checkRaids now draw).Kept := by
  rw [checkRaids]
  split_ifs with idle
  · cases kept with
    | going address base _ =>
      rw [base.running] at idle
      cases idle
    | resting base quiet =>
      rcases checkLoop_passes (well idle) [] system.raidList rfl (by simp) with
        nothing | ⟨address, mem, found, furnished⟩
      · rw [nothing]
        exact (Kept.resting base quiet).scheduleCheck
      · obtain ⟨next, begun⟩ := begun base quiet mem furnished
        have started :
            ((({ system with running := some address } : Raids).note address
              .started).startRaid address).Kept := by
          have scheduled :=
            scheduleEvent_kept
              ((system.raids address).getDelay (system.raids address).nextEvent)
              begun.base begun.executing begun.inside begun.standing begun.quiet
          rw [setRaid_raids_self] at scheduled
          have still :
              ((({ system with running := some address } : Raids).note address
                .started).raids address).getNextRaidEvent =
                some (system.raids address).nextEvent := next
          rw [startRaid_eq still]
          exact scheduled
        rw [found]
        exact started.scheduleCheck
  · exact kept.scheduleCheck

lemma forceRaid_kept {param : String}
  (furnished :
    ∀ address, system.getRaidByName param = some address →
      (system.raids address).loaded = true → system.running = none →
        (system.raids address).raidEvents ≠ []) : (system.forceRaid param).Kept := by
  rw [forceRaid]
  cases found : system.getRaidByName param with
  | none => exact kept
  | some address =>
    have mem : address ∈ system.raidList := mem_of_find?_eq_some found
    dsimp only
    split_ifs with unloaded busy
    · exact kept
    · exact kept
    · have loaded : (system.raids address).loaded = true := by simpa using unloaded
      have idle : system.running = none := by simpa using busy
      cases kept with
      | going address base _ =>
        rw [base.running] at idle
        cases idle
      | resting base quiet =>
        have hasEvents := furnished address found loaded idle
        obtain ⟨next, begun⟩ := begun base quiet mem hasEvents
        have nothing : system.tasks.select eventOf = [] := quiet
        split
        · rename_i none
          cases next.symm.trans none
        rename_i first
        cases next.symm.trans first
        split_ifs with waits
        · refine begun.kept ⟨rfl, rfl, rfl, rfl, rfl, rfl, rfl⟩ ?_
          simp [events, Raids.note, Raids.setRaid, nothing, eventOf]
        · refine begun.kept ⟨rfl, rfl, rfl, rfl, rfl, rfl, rfl⟩ ?_
          rw [setRaid_raids_self]
          simp [events, Raids.note, Raids.setRaid, nothing, eventOf]

lemma push_back_kept (fresh : raid.state = .RAIDSTATE_IDLE ∧ raid.nextEvent = 0) :
  (system.push_back raid).Kept := by
  have old {busy : Option Nat} (base : system.Base busy) {address : Nat}
      (member : address ∈ system.raidList) :
      (system.push_back raid).raids address = system.raids address :=
    setRaid_raids_other _ _ (base.below address member).ne
  have standing {busy : Option Nat} (base : system.Base busy) (address : Nat) :
      (system.push_back raid).standing address =
        if address = system.next then some .idle else system.standing address := by
    split_ifs with new
    · have silent : (system.push_back raid).deeds address = [] := by
        refine filterMap_eq_nil_iff.mpr fun entry inHistory => if_neg ?_
        exact new ▸ (base.known entry inHistory).ne
      rw [Raids.standing, silent]
      rfl
    · exact standing_eq rfl (congrArg Raid.raidEvents (setRaid_raids_other _ _ new))
  have base {busy : Option Nat} (base : system.Base busy) :
      (system.push_back raid).Base busy := {
    running := base.running
    listed := fun address same => mem_append_left _ (base.listed address same)
    below := by
      intro address member
      rcases mem_append.mp member with old | new
      · exact Nat.lt_succ_of_lt (base.below address old)
      · exact mem_singleton.mp new ▸ Nat.lt_succ_self _
    known := fun entry inHistory => Nat.lt_succ_of_lt (base.known entry inHistory)
    keepsCourse := by
      intro address different
      rw [standing base]
      split_ifs with new
      · exact ⟨.idle, rfl, by decide⟩
      · exact base.keepsCourse address different
    rests := by
      intro address member different
      rw [standing base]
      rcases mem_append.mp member with inList | new
      · rw [old base inList, if_neg (base.below address inList).ne]
        exact base.rests address inList different
      · rw [mem_singleton.mp new, if_pos rfl]
        have held : (system.push_back raid).raids system.next = raid := setRaid_raids_self ..
        rw [held]
        exact ⟨fresh.1, fresh.2, rfl⟩
    noDivisionByZero := base.noDivisionByZero
    noneAstray := base.noneAstray }
  cases kept with
  | resting resting quiet => exact .resting (base resting) quiet
  | going address going awaits =>
    have member := going.listed address rfl
    have held := old going member
    refine .going address (base going) ?_
    exact {
      executing := by
        rw [held]
        exact awaits.executing
      inside := by
        rw [held]
        exact awaits.inside
      standing := by
        rw [held, standing going, if_neg (going.below address member).ne]
        exact awaits.standing
      events := by
        rw [held]
        exact awaits.events }

end

lemma read_fresh {node : RaidNode} (read : node.read = some raid) :
  raid.state = .RAIDSTATE_IDLE ∧ raid.nextEvent = 0 := by
  simp only [RaidNode.read, Option.bind_eq_bind, Option.pure_def,
    Option.bind_eq_some_iff, Option.some.injEq] at read
  obtain ⟨name, -, interval2, -, raidEvents, -, rfl⟩ := read
  exact ⟨rfl, rfl⟩

lemma loadFromXml_kept (filename : String) (doc : Option (List RaidNode)) (kept : system.Kept) :
  (system.loadFromXml filename doc).Kept := by
  have named : ({ system with filename := filename } : Raids).Kept :=
    kept.agrees ⟨rfl, rfl, rfl, rfl, rfl, rfl, rfl⟩ rfl
  unfold Raids.loadFromXml
  split_ifs with loaded
  · exact kept
  · cases doc with
    | none => exact named
    | some nodes =>
      have pushed (raids : List Raid)
          (fresh : ∀ raid ∈ raids, raid.state = .RAIDSTATE_IDLE ∧ raid.nextEvent = 0) :
          (raids.foldl push_back { system with filename := filename }).Kept := by
        induction raids using List.reverseRecOn with
        | nil => exact named
        | append_singleton raids raid ih =>
          rw [foldl_concat]
          exact push_back_kept
            (ih fun other mem => fresh other (mem_append_left _ mem))
            (fresh raid (by simp))
      have read := pushed (nodes.filterMap RaidNode.read) fun raid mem => by
        obtain ⟨node, -, read⟩ := mem_filterMap.mp mem
        exact read_fresh read
      exact read.agrees ⟨rfl, rfl, rfl, rfl, rfl, rfl, rfl⟩ rfl

lemma startup_kept (kept : system.Kept) : (system.startup now).Kept := by
  rw [startup]
  split_ifs with done
  · exact kept
  · have ended : ({ system with lastRaidEnd := now } : Raids).Kept :=
      kept.agrees ⟨rfl, rfl, rfl, rfl, rfl, rfl, rfl⟩ rfl
    exact ended.scheduleCheck.agrees ⟨rfl, rfl, rfl, rfl, rfl, rfl, rfl⟩ rfl

lemma foldl_stopEvents (system : Raids) (addresses : List Nat) :
  ∃ tasks,
    addresses.foldl stopEvents system = { system with tasks := tasks } ∧
    ∀ task ∈ tasks.pending, task ∈ system.tasks.pending ∧
      ∀ address ∈ addresses,
        ¬ DeferredTasks.Stoppable (system.raids address).nextEventEvent task := by
  induction addresses using List.reverseRecOn with
  | nil => exact ⟨system.tasks, rfl, fun task mem => ⟨mem, by simp⟩⟩
  | append_singleton addresses address ih =>
    obtain ⟨tasks, same, left⟩ := ih
    refine ⟨tasks.stop (system.raids address).nextEventEvent, ?_, ?_⟩
    · rw [foldl_concat, same, stopEvents]
      split_ifs with remembered
      · rfl
      · have zero : (system.raids address).nextEventEvent = 0 := by
          simpa using remembered
        simp [zero, DeferredTasks.stop, DeferredTasks.Stoppable]
    · intro task mem
      obtain ⟨mem, spared⟩ := DeferredTasks.mem_stop.mp mem
      refine ⟨(left task mem).1, fun other inList => ?_⟩
      rcases mem_append.mp inList with old | new
      · exact (left task mem).2 other old
      · exact mem_singleton.mp new ▸ spared

section

variable (kept : system.Kept)
include kept

lemma Kept.listed {event : Nat × Nat} (mem : event ∈ system.events) :
  event.1 ∈ system.raidList := by
  cases kept with
  | resting base quiet =>
    rw [quiet] at mem
    cases mem
  | going address base awaits =>
    rw [awaits.events] at mem
    rw [mem_singleton.mp mem]
    exact base.listed address rfl

lemma Kept.keepsCourse (address : Nat) :
  ∃ standing, system.standing address = some standing ∧ standing ≠ .over := by
  cases kept with
  | resting base quiet => exact base.keepsCourse address (by simp)
  | going busy base awaits =>
    by_cases same : busy = address
    · exact ⟨_, same ▸ awaits.standing, by simp⟩
    · exact base.keepsCourse address (by simpa using same)

lemma clear_kept (stops : system.StopsAll) : system.clear.Kept := by
  obtain ⟨tasks, same, left⟩ :=
    foldl_stopEvents
      { system with
        tasks := system.tasks.stop system.checkRaidsEvent
        checkRaidsEvent := 0 } system.raidList
  have cleared :
      system.clear =
        { system with
          raidList := []
          loaded := false
          started := false
          running := none
          lastRaidEnd := 0
          checkRaidsEvent := 0
          filename := ""
          tasks := tasks } := by
    simp only [clear, same]
  have quiet : system.clear.events = [] := by
    rw [cleared]
    refine filterMap_eq_nil_iff.mpr fun task mem => ?_
    obtain ⟨waiting, spared⟩ := left task mem
    have before := (DeferredTasks.mem_stop.mp waiting).1
    cases job : task.job with
    | checkRaids => rfl
    | executeRaidEvent address raidEvent ticks =>
      have shown : (address, raidEvent) ∈ system.events :=
        DeferredTasks.mem_select.mpr ⟨task, before, by rw [job]; rfl⟩
      exact absurd (stops task before address raidEvent ticks job)
        (spared address (kept.listed shown))
  have standing (address : Nat) : system.clear.standing address = system.standing address :=
    standing_eq (by rw [cleared]) (by rw [cleared])
  refine .resting ?_ quiet
  exact {
    running := by rw [cleared]
    listed := by simp
    below := by simp [cleared]
    known := by
      rw [cleared]
      cases kept with
      | resting base _ => exact base.known
      | going _ base _ => exact base.known
    keepsCourse := by
      intro address _
      rw [standing]
      exact kept.keepsCourse address
    rests := by simp [cleared]
    noDivisionByZero := by
      rw [cleared]
      exact kept.noDivisionByZero
    noneAstray := by
      rw [cleared]
      cases kept with
      | resting base _ => exact base.noneAstray
      | going _ base _ => exact base.noneAstray }

lemma execute_kept {index : Nat} {scene : Scene}
  (sparing : system.Sparing (.execute index scene)) : (system.execute index scene).Kept := by
  rw [execute]
  cases standing : system.tasks.pending[index]? with
  | none => exact kept
  | some task =>
    dsimp only
    split_ifs with handed
    · obtain ⟨before, after, with_, without⟩ := DeferredTasks.select_remove standing eventOf
      have agrees : system.Agrees { system with tasks := system.tasks.remove index } :=
        ⟨rfl, rfl, rfl, rfl, rfl, rfl, rfl⟩
      cases job : task.job with
      | checkRaids =>
        have same :
            ({ system with tasks := system.tasks.remove index } : Raids).events =
              system.events := by
          simp only [events, with_, without, job, eventOf, Option.toList_none, append_nil]
        exact checkRaids_kept (kept.agrees agrees same) (sparing task standing handed job)
      | executeRaidEvent address raidEvent ticks =>
        rw [job] at with_
        cases kept with
        | resting base quiet =>
          have impossible : before ++ [(address, raidEvent)] ++ after = [] :=
            with_.symm.trans quiet
          simp at impossible
        | going busy base awaits =>
          have only :
              before ++ [(address, raidEvent)] ++ after =
                [(busy, (system.raids busy).nextEvent)] :=
            with_.symm.trans awaits.events
          obtain ⟨rfl, ⟨rfl, rfl⟩, rfl⟩ :
              before = [] ∧
                (address = busy ∧ raidEvent = (system.raids busy).nextEvent) ∧
                after = [] := by
            cases before with
            | nil => simpa using only
            | cons first before => simp at only
          exact executeRaidEvent_kept (agrees.base base) awaits.executing
            ((agrees.standing _).trans awaits.standing) without
    · exact kept

lemma step_kept {operation : Operation} (sparing : system.Sparing operation) :
  (system.step operation).Kept := by
  cases operation with
  | loadFromXml filename doc => exact loadFromXml_kept filename doc kept
  | startup now => exact startup_kept kept
  | hand id =>
    exact kept.agrees ⟨rfl, rfl, rfl, rfl, rfl, rfl, rfl⟩
      (DeferredTasks.select_hand system.tasks id eventOf)
  | execute index scene => exact execute_kept kept sparing
  | forceRaid param => exact forceRaid_kept kept sparing
  | clear => exact clear_kept kept sparing
  | reload doc => exact loadFromXml_kept _ doc (clear_kept kept sparing)

end

lemma initial_kept : initial.Kept := by
  refine .resting ?_ rfl
  exact {
    running := rfl
    listed := by simp
    below := by simp [initial]
    known := by simp [initial]
    keepsCourse := fun _ _ => ⟨.idle, rfl, by decide⟩
    rests := by simp [initial]
    noDivisionByZero := rfl
    noneAstray := rfl }

lemma Kept.neverStuck (kept : system.Kept) : system.NeverStuck where
  oneRuns address member := by
    cases kept with
    | resting base quiet =>
      have rests := (base.rests address member (by simp)).1
      simp [rests, base.running]
    | going busy base awaits =>
      rw [base.running]
      by_cases same : busy = address
      · simp [← same, awaits.executing]
      · have rests := (base.rests address member (by simpa using same)).1
        simp [rests, same]
  running_iff address := by
    cases kept with
    | resting base quiet => simp [eventsOf, quiet, base.running]
    | going busy base awaits =>
      by_cases same : busy = address
      · simp [eventsOf, awaits.events, base.running, same]
      · simp [eventsOf, awaits.events, base.running, same]
  refersToRaid task member address raidEvent ticks job := by
    have shown : (address, raidEvent) ∈ system.events :=
      DeferredTasks.mem_select.mpr ⟨task, member, by rw [job]; rfl⟩
    exact kept.listed shown
  keepsCourse := kept.keepsCourse
  awaits_iff address member raidEvent := by
    cases kept with
    | resting base quiet =>
      have idle := (base.rests address member (by simp)).2.2
      simp [eventsOf, quiet, idle]
    | going busy base awaits =>
      by_cases same : busy = address
      · subst same
        simp [eventsOf, awaits.events, awaits.standing]
      · have idle := (base.rests address member (by simpa using same)).2.2
        simp [eventsOf, awaits.events, idle, same]
  noDivisionByZero := kept.noDivisionByZero
  noneAstray := by
    cases kept with
    | resting base _ => exact base.noneAstray
    | going _ base _ => exact base.noneAstray

/-- The raids never get stuck in a run whose operations avoid the defects. -/
theorem neverStuck_of_sparing {system : Raids}
  (run :
    Reaches (fun system operation next => next = Raids.step system operation)
      Sparing initial system) : system.NeverStuck := by
  have preserved :
      ∀ system operation next, Kept system → system.Sparing operation →
        next = system.step operation → next.Kept := by
    rintro system operation _ kept sparing rfl
    exact step_kept kept sparing
  exact (run.invariant initial_kept preserved).neverStuck

def oneRaid (raidEvents : List UInt32) : Option (List RaidNode) :=
  some [⟨some "Rats", some 1, none, some raidEvents⟩]

def loadedOne (raidEvents : List UInt32) : Raids :=
  initial.step (.loadFromXml "raids.xml" (oneRaid raidEvents))

def forcedOne (raidEvents : List UInt32) : Raids :=
  (loadedOne raidEvents).step (.forceRaid "rats")

def executedOne (raidEvents : List UInt32) : Raids :=
  (forcedOne raidEvents).step (.execute 0 ⟨5, fun _ => 0, true⟩)

lemma loadedOne_raid : (loadedOne [0]).getRaidByName "rats" = some 1 := by
  decide +kernel

lemma loadedOne_events : ((loadedOne [0]).raids 1).raidEvents ≠ [] := by
  decide +kernel

lemma forcedOne_task :
  (forcedOne [0]).tasks.pending[0]? = some ⟨0, .executeRaidEvent 1 0 0, true⟩ := by
  decide +kernel

lemma reaches_executedOne :
  Reaches (fun system operation next => next = Raids.step system operation)
    Sparing initial (executedOne [0]) := by
  have loads : initial.Sparing (.loadFromXml "raids.xml" (oneRaid [0])) := trivial
  have forces : (loadedOne [0]).Sparing (.forceRaid "rats") := by
    intro address found _ _
    obtain rfl := Option.some.inj (loadedOne_raid.symm.trans found)
    exact loadedOne_events
  have executes : (forcedOne [0]).Sparing (.execute 0 ⟨5, fun _ => 0, true⟩) := by
    intro task standing _ job
    obtain rfl := Option.some.inj (forcedOne_task.symm.trans standing)
    cases job
  have loaded :
      Reaches (fun system operation next => next = Raids.step system operation)
        Sparing initial (loadedOne [0]) :=
    Reaches.refl.tail loads rfl
  exact (loaded.tail forces rfl).tail executes rfl

/-- A raid with one event is started by hand, executes it and is at its end. -/
theorem neverStuck_one_event :
  (executedOne [0]).history =
      [(1, .started), (1, .executed 0 true), (1, .reset)] ∧
    (executedOne [0]).NeverStuck := by
  refine ⟨by decide +kernel, ?_⟩
  exact neverStuck_of_sparing reaches_executedOne

/-- A raid without events is started by hand, and stays running. -/
theorem forced_without_events :
  ¬ ∀ system,
    Reaches (fun system operation next => next = Raids.step system operation)
      Always initial system → system.NeverStuck := by
  intro always
  have loaded :
      Reaches (fun system operation next => next = Raids.step system operation)
        Always initial (loadedOne []) :=
    Reaches.refl.tail trivial rfl
  have allowed : Always (loadedOne []) (Operation.forceRaid "rats") := trivial
  have running : (forcedOne []).running = some 1 := by
    decide +kernel
  have noTask : ((forcedOne []).eventsOf 1).length = 0 := by
    decide +kernel
  have oneTask := ((always _ (loaded.tail allowed rfl)).running_iff 1).mp running
  exact absurd (noTask.symm.trans oneTask) (by decide)

end Raids

end OTServ.WorldEvents
