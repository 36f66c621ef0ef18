import OTServ.Housing.Rent
import OTServ.Library.GuardedRuns

/-!
# Rent and eviction

Beside each house stands when the owner has paid and when he has been warned
since.  In runs in which no owner pays after a warning the counter of the house
is the number of these warnings, and so an evicted owner has had his seven
warnings.  The counter is not reset by a payment: an owner who was late in
earlier periods is evicted without any further warning.
-/

namespace OTServ.Rent

open Library.GuardedRuns
open List

/--
The payments of the present owner, and the warnings since he became the owner or
paid for the last time, the latest first.
-/
structure Tenancy where
  paid : List Nat
  warned : List Nat

def Tenancy.begin : Tenancy := ⟨[], []⟩

def Tenancy.after (tenancy : Tenancy) (now : Nat) : Outcome → Tenancy
  | .idle => tenancy
  | .late => tenancy
  | .collected => ⟨now :: tenancy.paid, []⟩
  | .warned => ⟨tenancy.paid, now :: tenancy.warned⟩
  | .evicted => Tenancy.begin

structure Record where
  house : House
  tenancy : Tenancy

/-- The owner is set from outside: the house is sold, bought or given away. -/
def Record.own (record : Record) (guid : Nat) (named : Bool) (now : Nat) : Record :=
  if record.house.isLoaded && record.house.houseOwner == guid then record
  else ⟨record.house.setHouseOwner guid named now, Tenancy.begin⟩

def Record.after (now : Nat) (record : Record) (visit : Visit) : Record :=
  ⟨visit.left, record.tenancy.after now visit.outcome⟩

structure State where
  clock : Nat
  records : List Record

/-- The constructor of `House`, for each rent and town. -/
def State.initial (houses : List (Nat × Nat)) : State where
  clock := 0
  records := houses.map fun (rent, townId) => ⟨⟨false, 0, 0, 0, 0, rent, townId⟩, Tenancy.begin⟩

/-- The visits of a pass; the players have any money at that time. -/
def State.visits (config : Config) (state : State) (now : Nat) (scene : Scene)
  (players : Nat → Player) : List Visit :=
  payHouses config scene now (state.records.map Record.house) players

inductive Event where
  | own (now index guid : Nat) (named : Bool)
  | pass (now : Nat) (scene : Scene) (players : Nat → Player)

def Event.now : Event → Nat
  | .own now _ _ _ => now
  | .pass now _ _ => now

def State.after (config : Config) (state : State) : Event → State
  | .own now index guid named =>
    ⟨now, state.records.modify index fun record => record.own guid named now⟩
  | .pass now scene players =>
    ⟨now, List.zipWith (Record.after now) state.records (state.visits config now scene players)⟩

def Steps (config : Config) (state : State) (event : Event) (next : State) : Prop :=
  state.clock ≤ event.now ∧ next = state.after config event

/-- Each time is a day at least after the next one in the list. -/
def DaysApart (times : List Nat) : Prop :=
  times.Pairwise fun later earlier => earlier + 24 * 60 * 60 ≤ later

structure Fair (config : Config) (now : Nat) (tenancy : Tenancy) (visit : Visit) : Prop where
  evicted :
    visit.outcome = .evicted → 7 ≤ tenancy.warned.length ∧ DaysApart (now :: tenancy.warned)
  once : visit.outcome = .collected → ∀ last ∈ tenancy.paid, last + config.rentPeriod.seconds < now
  exactly : visit.outcome = .collected → Paid visit.house visit.player visit.paid

/--
What a visit must find: an owner who has been warned cannot pay, a rent that is
taken from a depot is a positive `int32_t`, and offline owners can be saved.
-/
structure Regular (config : Config) (scene : Scene) (visit : Visit) : Prop where
  unwarned : visit.house.rentWarnings ≠ 0 → visit.player.pay config visit.house = none
  payable : config.useAccBalance = false → visit.house.rent < 2147483648
  saved : (scene.online visit.house.houseOwner || scene.savePlayer visit.house.houseOwner) = true

/-- A pass finds everything regular, and its time is far from overflowing. -/
def Orderly (config : Config) (state : State) : Event → Prop
  | .own _ _ _ _ => True
  | .pass now scene players =>
    now + 24 * 60 * 60 * 365 < 4294967296 ∧
      ∀ visit ∈ state.visits config now scene players, Regular config scene visit

/-! ## The invariant -/

/-- The fields of the house tell what has happened to the owner. -/
structure Accounted (config : Config) (record : Record) : Prop where
  counted : record.house.rentWarnings = record.tenancy.warned.length
  apart : DaysApart record.tenancy.warned
  latest : ∀ time ∈ record.tenancy.warned.head?, record.house.lastWarning = time
  paid : ∀ time ∈ record.tenancy.paid, time + config.rentPeriod.seconds ≤ record.house.paidUntil
  vacant : record.house.houseOwner = 0 → record.house.rentWarnings = 0

variable {config : Config} {record : Record} {now : Nat}

lemma setHouseOwner_rentWarnings {house : House} {guid : Nat} {named : Bool}
  (vacant : house.houseOwner = 0 → house.rentWarnings = 0)
  (changes : ¬ (house.isLoaded && house.houseOwner == guid) = true) :
  (house.setHouseOwner guid named now).rentWarnings = 0 := by
  rw [House.setHouseOwner, if_neg changes]
  split
  · rfl
  · rename_i free
    exact vacant (not_not.mp free)

lemma accounted_begin {house : House} (unwarned : house.rentWarnings = 0) :
  Accounted config ⟨house, Tenancy.begin⟩ where
  counted := unwarned
  apart := List.Pairwise.nil
  latest time member := by cases member
  paid time member := by cases member
  vacant _ := unwarned

lemma own_accounted
  (accounted : Accounted config record) (guid : Nat) (named : Bool) (now : Nat) :
  Accounted config (record.own guid named now) := by
  rw [Record.own]
  split
  · exact accounted
  · rename_i changes
    exact accounted_begin (setHouseOwner_rentWarnings accounted.vacant changes)

lemma DaysApart.cons {times : List Nat} (apart : DaysApart times)
  (day : ∀ time ∈ times.head?, time + 24 * 60 * 60 ≤ now) : DaysApart (now :: times) := by
  cases times with
  | nil => exact pairwise_singleton _ _
  | cons latest earlier =>
    have gap := day latest rfl
    refine List.Pairwise.cons ?_ apart
    intro time mem
    rcases mem_cons.mp mem with rfl | before
    · exact gap
    · have older := rel_of_pairwise_cons apart before
      omega

lemma period_seconds (period : RentPeriod) : period.seconds ≤ 24 * 60 * 60 * 365 := by
  cases period <;> decide

lemma payHouse_fair (accounted : Accounted config record) (scene : Scene) (player : Player)
  (early : now + 24 * 60 * 60 * 365 < 4294967296)
  (regular : Regular config scene (payHouse config scene now record.house player)) :
  Fair config now record.tenancy
      (payHouse config scene now record.house player) ∧
    Accounted config (record.after now (payHouse config scene now record.house player)) := by
  have time : now % 4294967296 = now := Nat.mod_eq_of_lt (by omega)
  rw [payHouse, time] at regular ⊢
  split
  · exact ⟨⟨by rintro ⟨⟩, by rintro ⟨⟩, by rintro ⟨⟩⟩, accounted⟩
  rename_i isDue
  rw [if_neg isDue] at regular
  have late : record.house.paidUntil < now := by
    rw [due] at isDue
    simp only [Bool.not_eq_true', Bool.not_eq_false, Bool.and_eq_true, decide_eq_true_eq] at isDue
    exact isDue.1.1.1.1.1.2
  cases pays : player.pay config record.house with
  | some paid =>
    rw [pays] at regular
    have small := period_seconds config.rentPeriod
    have unwarned : record.house.rentWarnings = 0 := by
      by_contra warned
      have cannot := regular.unwarned warned
      rw [pays] at cannot
      cases cannot
    have saved := regular.saved
    refine ⟨⟨by rintro ⟨⟩, ?_, ?_⟩, ?_⟩
    · intro _ last mem
      exact Nat.lt_of_le_of_lt (accounted.paid last mem) late
    · intro _
      simp only [saved, if_true]
      exact pay_paid regular.payable pays
    · have until_ :
          (now + config.rentPeriod.seconds) % 4294967296 = now + config.rentPeriod.seconds :=
        Nat.mod_eq_of_lt (by omega)
      constructor
      · exact unwarned
      · exact List.Pairwise.nil
      · intro time mem
        cases mem
      · intro time mem
        simp only [Record.after, Tenancy.after, until_] at mem ⊢
        rcases mem_cons.mp mem with rfl | before
        · exact Nat.le_refl _
        · have bound := accounted.paid time before
          omega
      · exact fun _ => unwarned
  | none =>
    simp only at regular ⊢
    split
    · exact ⟨⟨by rintro ⟨⟩, by rintro ⟨⟩, by rintro ⟨⟩⟩, accounted⟩
    rename_i aDay
    have day : ∀ time ∈ record.tenancy.warned.head?, time + 24 * 60 * 60 ≤ now := by
      intro time mem
      rw [← accounted.latest time mem]
      exact Nat.not_lt.mp aDay
    split
    · rename_i enough
      refine ⟨⟨?_, by rintro ⟨⟩, by rintro ⟨⟩⟩, ?_⟩
      · intro _
        rw [← accounted.counted]
        exact ⟨enough, accounted.apart.cons day⟩
      · have owned : record.house.houseOwner ≠ 0 := by
          intro free
          rw [accounted.vacant free] at enough
          omega
        exact accounted_begin (setHouseOwner_rentWarnings accounted.vacant (by simp [owned]))
    · refine ⟨⟨by rintro ⟨⟩, by rintro ⟨⟩, by rintro ⟨⟩⟩, ?_⟩
      constructor
      · simp only [Record.after, Tenancy.after, length_cons]
        rw [accounted.counted]
      · exact accounted.apart.cons day
      · rintro time ⟨⟩
        rfl
      · exact accounted.paid
      · intro free
        have owned : record.house.houseOwner ≠ 0 := by
          rw [due] at isDue
          simp only [Bool.not_eq_true', Bool.not_eq_false, Bool.and_eq_true, bne_iff_ne] at isDue
          exact isDue.1.1.1.1.1.1
        exact absurd free owned

/-- Every visit of a pass is to its own house. -/
lemma visits_fair (scene : Scene) (early : now + 24 * 60 * 60 * 365 < 4294967296)
  (records : List Record) (players : Nat → Player)
  (accounted : ∀ record ∈ records, Accounted config record)
  (regular :
    ∀ visit ∈ visits config scene now (records.map Record.house) players,
      Regular config scene visit) :
  List.Forall₂
    (fun record visit =>
      Fair config now record.tenancy visit ∧ Accounted config (record.after now visit))
    records
    (visits config scene now (records.map Record.house) players) := by
  induction records generalizing players with
  | nil => exact List.Forall₂.nil
  | cons record rest ih =>
    apply List.Forall₂.cons
    · exact payHouse_fair (accounted record mem_cons_self) scene _ early (regular _ mem_cons_self)
    · exact ih _
        (fun other mem => accounted other (mem_cons_of_mem _ mem))
        fun visit mem => regular visit (mem_cons_of_mem _ mem)

/-- A pass is fair to every owner and leaves the fields as they should be. -/
lemma pass_fair {state : State} (scene : Scene) (players : Nat → Player)
  (early : now + 24 * 60 * 60 * 365 < 4294967296)
  (accounted : ∀ record ∈ state.records, Accounted config record)
  (regular : ∀ visit ∈ state.visits config now scene players, Regular config scene visit) :
  List.Forall₂
    (fun record visit =>
      Fair config now record.tenancy visit ∧ Accounted config (record.after now visit))
    state.records (state.visits config now scene players) := by
  rw [State.visits, payHouses] at regular ⊢
  split
  · rw [map_map, forall₂_map_right_iff, forall₂_same]
    intro record mem
    exact ⟨⟨by rintro ⟨⟩, by rintro ⟨⟩, by rintro ⟨⟩⟩, accounted record mem⟩
  · rename_i period
    rw [if_neg period] at regular
    exact visits_fair scene early state.records players accounted regular

lemma zipWith_accounted {records : List Record} {found : List Visit}
  (fair :
    List.Forall₂
      (fun record visit =>
        Fair config now record.tenancy visit ∧ Accounted config (record.after now visit))
      records found) :
  ∀ record ∈ List.zipWith (Record.after now) records found, Accounted config record := by
  induction fair with
  | nil =>
    intro record mem
    cases mem
  | cons head _ ih =>
    intro record mem
    rcases mem_cons.mp mem with rfl | rest
    · exact head.2
    · exact ih record rest

lemma after_accounted
  {state : State} (event : Event) (accounted : ∀ record ∈ state.records, Accounted config record)
  (orderly : Orderly config state event) :
  ∀ record ∈ (state.after config event).records, Accounted config record := by
  cases event with
  | own now index guid named =>
    intro record mem
    rcases mem_iff_getElem.mp mem with ⟨place, inside, rfl⟩
    simp only [State.after] at inside ⊢
    rw [getElem_modify]
    split
    · exact own_accounted (accounted _ (getElem_mem _)) guid named now
    · exact accounted _ (getElem_mem _)
  | pass now scene players =>
    exact zipWith_accounted (pass_fair scene players orderly.1 accounted orderly.2)

/--
After every run of orderly events an orderly pass is fair to every owner: nobody
is evicted before his time, and the rent is taken exactly and once a period.
-/
theorem rents_are_fair {houses : List (Nat × Nat)} {state : State}
  (run : Reaches (Steps config) (Orderly config) (State.initial houses) state) (scene : Scene)
  (players : Nat → Player) (orderly : Orderly config state (.pass now scene players)) :
  List.Forall₂ (fun record visit => Fair config now record.tenancy visit)
    state.records (state.visits config now scene players) := by
  have accounted : ∀ record ∈ state.records, Accounted config record := by
    apply run.invariant
    · intro record member
      rcases mem_map.mp member with ⟨house, _, rfl⟩
      exact accounted_begin rfl
    · rintro before event after holds allowed ⟨_, rfl⟩
      exact after_accounted event holds allowed
  exact (pass_fair scene players orderly.1 accounted orderly.2).imp fun _ _ both => both.1

def quietScene : Scene where
  getTown _ := true
  getNameByGuid _ := true
  online _ := true
  loadPlayer _ := true
  getDepot _ _ := true
  savePlayer _ := true

def withBalance (balance : Nat) : Nat → Player := fun _ => ⟨balance, fun _ => []⟩

def dailyRent : Config := ⟨.daily, true⟩

def endOfDay (day balance : Nat) : Event :=
  .pass (day * 86400) quietScene (withBalance balance)

/-- The first pass after somebody has become the owner is fair to him. -/
theorem rents_are_fair_first :
  ∃ state : State,
    List.Forall₂
      (fun record visit => Fair dailyRent 86400 record.tenancy visit)
      state.records
      (state.visits dailyRent 86400 quietScene (withBalance 0)) := by
  have owned : Steps dailyRent (State.initial [(100, 1)]) (.own 0 0 5 true) _ :=
    ⟨Nat.le_refl 0, rfl⟩
  have run := (Reaches.refl).tail (show Orderly dailyRent _ (.own 0 0 5 true) from trivial) owned
  have early : 86400 + 24 * 60 * 60 * 365 < 4294967296 := by decide
  refine ⟨_, rents_are_fair run quietScene (withBalance 0) ⟨early, ?_⟩⟩
  intro visit member
  rw [mem_singleton.mp member]
  exact ⟨fun warned => absurd rfl warned, fun impossible => absurd impossible (by decide), rfl⟩

lemma reaches_foldl
  {start state : State} (events : List Event) (run : Reaches (Steps config) Always start state)
  (ordered : (state.clock :: events.map Event.now).IsChain (· ≤ ·)) :
  Reaches (Steps config) Always start (events.foldl (State.after config) state) := by
  induction events generalizing state with
  | nil => exact run
  | cons event rest ih =>
    rw [map_cons, isChain_cons_cons] at ordered
    have clock : (state.after config event).clock = event.now := by
      cases event with
      | own => rfl
      | pass => rfl
    apply ih (run.tail trivial ⟨ordered.1, rfl⟩)
    rw [clock]
    exact ordered.2

/--
An owner who was warned for seven days, and paid then, is evicted when he is
late once more.
-/
theorem late_again_evicted :
  ¬ ∀ (config : Config) (houses : List (Nat × Nat)) (state : State),
      Reaches (Steps config) Always (State.initial houses) state →
        ∀ now scene players, state.clock ≤ now →
          List.Forall₂
            (fun record visit => Fair config now record.tenancy visit)
            state.records (state.visits config now scene players) := by
  intro fair
  have run :=
    reaches_foldl
      [.own 0 0 5 true, endOfDay 1 0, endOfDay 2 0, endOfDay 3 0, endOfDay 4 0,
        endOfDay 5 0, endOfDay 6 0, endOfDay 7 0, endOfDay 8 100]
      (Reaches.refl :
        Reaches (Steps dailyRent) Always (State.initial [(100, 1)]) (State.initial [(100, 1)]))
      (by decide)
  have unfair :=
    fair dailyRent [(100, 1)] _ run (10 * 86400) quietScene (withBalance 0) (by decide)
  have first := (forall₂_iff_get.mp unfair).2 0 (by decide +kernel) (by decide +kernel)
  have enough := (first.evicted (by decide +kernel)).1
  exact absurd enough (by decide +kernel)

end OTServ.Rent
