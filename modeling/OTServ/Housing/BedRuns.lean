import OTServ.Housing.Beds
import OTServ.Library.GuardedRuns

/-!
# Who sleeps in which bed

As long as nobody goes to sleep who sleeps already, and beds are loaded with one
sleeper for both halves, every sleeper has one bed and the map of the sleepers
leads to it.  Waking a bed frees it, and it is the sleeper who has rested if the
sleeper itself is handed over, or has nothing to rest with.
-/

namespace OTServ.Beds

open Library.GuardedRuns
open Map
open List Function Option

variable {Bed : Type}

namespace Rooms

variable {rooms : Rooms Bed} {bed other third : Bed}

def Pair (rooms : Rooms Bed) (bed other : Bed) : Prop :=
  other = bed ∨ rooms.getNextBedItem bed = some other

instance [DecidableEq Bed] (rooms : Rooms Bed) (bed other : Bed) :
  Decidable (rooms.Pair bed other) :=
  inferInstanceAs (Decidable (_ ∨ _))

lemma Pair.refl (rooms : Rooms Bed) (bed : Bed) : rooms.Pair bed bed :=
  .inl rfl

lemma Facing.back (facing : rooms.Facing) (found : rooms.getNextBedItem bed = some other) :
  rooms.getNextBedItem other = some bed := by
  rcases facing bed with ⟨next, known, back⟩
  rw [known] at found
  cases found
  exact back

lemma Pair.symm
  (pair : rooms.Pair bed other) (facing : rooms.Facing) : rooms.Pair other bed := by
  rcases pair with rfl | found
  · exact .inl rfl
  · exact .inr (facing.back found)

lemma Pair.trans (pair : rooms.Pair bed other) (further : rooms.Pair other third)
  (facing : rooms.Facing) : rooms.Pair bed third := by
  rcases pair with rfl | found
  · exact further
  · rcases further with rfl | next
    · exact .inr found
    · rw [facing.back found] at next
      cases next
      exact .inl rfl

end Rooms

open Rooms

namespace State

variable {rooms : Rooms Bed} {database : Database} {now : Int} {state next : State Bed}
  {bed other : Bed} {guid : Nat}

/-- The halves have one sleeper, whom the map of the sleepers knows. -/
structure Sound (rooms : Rooms Bed) (state : State Bed) : Prop where
  halves : ∀ bed other, rooms.Pair bed other → state.sleeper other = state.sleeper bed
  registered :
    ∀ guid, guid ≠ 0 →
      ∀ bed,
        state.sleeper bed = guid ↔ ∃ half, state.bedSleepers guid = some half ∧ rooms.Pair bed half

lemma Sound.alone (sound : Sound rooms state) (facing : rooms.Facing)
  (taken : state.sleeper bed ≠ 0) (same : state.sleeper other = state.sleeper bed) :
  rooms.Pair bed other := by
  rcases (sound.registered _ taken bed).mp rfl with ⟨half, known, here⟩
  rcases (sound.registered _ taken other).mp same with ⟨half', known', there⟩
  rw [known] at known'
  cases known'
  exact here.trans (there.symm facing) facing

structure SameBeds (before after : State Bed) : Prop where
  sleeper : after.sleeper = before.sleeper
  bedSleepers : after.bedSleepers = before.bedSleepers

lemma SameBeds.refl (state : State Bed) : SameBeds state state :=
  ⟨rfl, rfl⟩

lemma Sound.of_same {before after : State Bed} (sound : Sound rooms before)
  (same : SameBeds before after) : Sound rooms after where
  halves := by
    rw [same.sleeper]
    exact sound.halves
  registered := by
    rw [same.sleeper, same.bedSleepers]
    exact sound.registered

lemma restStored_same (sleptTime : Int) :
  SameBeds state (state.restStored database guid sleptTime) := by
  rw [restStored]
  split
  · dsimp only
    split
    · exact ⟨rfl, rfl⟩
    · exact .refl state
  · exact .refl state

lemma restSleeper_same (player : Option Nat) :
  SameBeds state (state.restSleeper database now bed player) := by
  simp only [restSleeper]
  split
  · cases player with
    | none => exact restStored_same _
    | some id => exact ⟨rfl, rfl⟩
  · exact .refl state

variable [DecidableEq Bed]

lemma vacate_sleeper (other : Bed) :
  (state.vacate rooms bed).sleeper other =
    if rooms.Pair bed other then 0 else state.sleeper other := by
  simp only [vacate]
  cases found : rooms.getNextBedItem bed with
  | none =>
    simp only [internalRemoveSleeper, setBedSleeper, update_apply,
      Pair, found, reduceCtorEq, or_false]
  | some partner =>
    simp only [internalRemoveSleeper, setBedSleeper, update_apply, Pair, found, some.injEq]
    by_cases this : other = partner
    · simp only [this, or_true, if_true]
    · have that : partner ≠ other := Ne.symm this
      simp only [this, that, or_false, if_false]

lemma vacate_bedSleepers :
  (state.vacate rooms bed).bedSleepers = update state.bedSleepers (state.sleeper bed) none := by
  simp only [vacate]
  split <;> rfl

section

variable (sound : Sound rooms state)
include sound

variable (facing : rooms.Facing)
include facing

lemma Sound.vacate (bed : Bed) : Sound rooms (state.vacate rooms bed) where
  halves := by
    intro first second pair
    rw [vacate_sleeper, vacate_sleeper]
    by_cases freed : rooms.Pair bed first
    · rw [if_pos freed, if_pos (freed.trans pair facing)]
    · have kept : ¬ rooms.Pair bed second := fun there =>
        freed (there.trans (pair.symm facing) facing)
      rw [if_neg freed, if_neg kept]
      exact sound.halves first second pair
  registered := by
    intro guid someone other
    rw [vacate_sleeper, vacate_bedSleepers]
    by_cases freed : rooms.Pair bed other
    · -- nobody sleeps there any more
      have same := sound.halves bed other freed
      rw [if_pos freed]
      refine ⟨fun nobody => absurd nobody.symm someone, ?_⟩
      rintro ⟨half, known, pair⟩
      exfalso
      by_cases woken : guid = state.sleeper bed
      · rw [woken, update_self] at known
        cases known
      · rw [update_of_ne woken] at known
        have asleep := (sound.registered guid someone other).mpr ⟨half, known, pair⟩
        exact woken (asleep.symm.trans same)
    · rw [if_neg freed]
      by_cases woken : guid = state.sleeper bed
      · rw [woken, update_self]
        refine ⟨fun asleep => ?_, ?_⟩
        · rw [woken] at someone
          exact absurd (sound.alone facing someone asleep) freed
        · rintro ⟨half, known, _⟩
          cases known
      · rw [update_of_ne woken]
        exact sound.registered guid someone other

lemma Sound.wakeUp (bed : Bed) (player : Option Nat) :
  Sound rooms (state.wakeUp rooms database now bed player) := by
  rw [State.wakeUp]
  split
  · exact sound
  · exact (sound.of_same (restSleeper_same player)).vacate facing bed

lemma Sound.wakeBeds
  (beds : List Bed) : Sound rooms (state.wakeBeds rooms database now beds) := by
  rw [State.wakeBeds]
  induction beds generalizing state with
  | nil => exact sound
  | cons bed rest ih =>
    rw [foldl_cons]
    apply ih
    split
    · exact sound.wakeUp facing bed none
    · exact sound

end

lemma occupy_sleeper (other : Bed) :
  (state.occupy rooms now bed guid).sleeper other =
    if rooms.Pair bed other then guid else state.sleeper other := by
  simp only [occupy]
  cases found : rooms.getNextBedItem bed with
  | none =>
    simp only [internalSetSleeper, setBedSleeper, update_apply,
      Pair, found, reduceCtorEq, or_false]
  | some partner =>
    simp only [internalSetSleeper, setBedSleeper, update_apply, Pair, found, some.injEq]
    by_cases this : other = partner
    · simp only [this, or_true, if_true]
    · have that : partner ≠ other := Ne.symm this
      simp only [this, that, or_false, if_false]

lemma occupy_bedSleepers :
  (state.occupy rooms now bed guid).bedSleepers = update state.bedSleepers guid (some bed) := by
  simp only [occupy]
  split <;> rfl

lemma Sound.occupy (sound : Sound rooms state) (facing : rooms.Facing)
  (free : state.sleeper bed = 0) (awake : guid ≠ 0 → ∀ other, state.sleeper other ≠ guid) :
  Sound rooms (state.occupy rooms now bed guid) where
  halves := by
    intro first second pair
    rw [occupy_sleeper, occupy_sleeper]
    by_cases taken : rooms.Pair bed first
    · rw [if_pos taken, if_pos (taken.trans pair facing)]
    · have kept : ¬ rooms.Pair bed second := fun there =>
        taken (there.trans (pair.symm facing) facing)
      rw [if_neg taken, if_neg kept]
      exact sound.halves first second pair
  registered := by
    intro sleeper someone other
    rw [occupy_sleeper, occupy_bedSleepers]
    by_cases same : sleeper = guid
    · subst same
      rw [update_self]
      constructor
      · intro asleep
        by_cases taken : rooms.Pair bed other
        · exact ⟨bed, rfl, taken.symm facing⟩
        · rw [if_neg taken] at asleep
          exact absurd asleep (awake someone other)
      · rintro ⟨half, known, pair⟩
        cases known
        rw [if_pos (pair.symm facing)]
    · rw [update_of_ne same]
      by_cases taken : rooms.Pair bed other
      · rw [if_pos taken]
        refine ⟨fun asleep => absurd asleep.symm same, fun known => ?_⟩
        have asleep := (sound.registered sleeper someone other).mpr known
        rw [sound.halves bed other taken, free] at asleep
        exact absurd asleep.symm someone
      · rw [if_neg taken]
        exact sound.registered sleeper someone other

/-! ## Loading -/

def Names (attributes : List (Bed × Attribute)) (bed : Bed) (guid : Nat) : Prop :=
  (bed, .sleeperGuid guid) ∈ attributes

/--
Both halves name the same sleeper, who is known by name and sleeps nowhere
else.
-/
structure Paired (rooms : Rooms Bed) (database : Database) (state : State Bed)
  (attributes : List (Bed × Attribute)) : Prop where
  once : ∀ bed guid guid', Names attributes bed guid → Names attributes bed guid' → guid = guid'
  halves :
    ∀ bed other guid,
      rooms.Pair bed other → Names attributes bed guid → Names attributes other guid
  free : ∀ bed guid, Names attributes bed guid → state.sleeper bed = 0
  known : ∀ bed guid, Names attributes bed guid → guid ≠ 0 → database.getNameByGuid guid = true
  elsewhere :
    ∀ bed guid, Names attributes bed guid → guid ≠ 0 → ∀ other, state.sleeper other ≠ guid
  alone :
    ∀ bed other guid,
      Names attributes bed guid → Names attributes other guid → guid ≠ 0 → rooms.Pair bed other

omit [DecidableEq Bed] in
lemma names_cons {head : Bed × Attribute} {rest : List (Bed × Attribute)} :
  Names (head :: rest) bed guid ↔ head = (bed, .sleeperGuid guid) ∨ Names rest bed guid := by
  rw [Names, mem_cons, eq_comm, Names]

lemma load_sleeper
  (database : Database) (attributes : List (Bed × Attribute)) (state : State Bed) (bed : Bed) :
  (∃ guid,
      Names attributes bed guid ∧ (state.load database attributes).sleeper bed = guid) ∨
    (∀ guid, ¬ Names attributes bed guid) ∧
      (state.load database attributes).sleeper bed = state.sleeper bed := by
  rw [load]
  induction attributes generalizing state with
  | nil => exact .inr ⟨fun _ => not_mem_nil, rfl⟩
  | cons head rest ih =>
    rw [foldl_cons]
    rcases ih (state.readAttr database head.1 head.2) with
      ⟨guid, named, set⟩ | ⟨unnamed, kept⟩
    · exact .inl ⟨guid, names_cons.mpr (.inr named), set⟩
    · rw [kept]
      rcases head with ⟨half, guid | start⟩
      · by_cases same : bed = half
        · subst same
          refine .inl ⟨guid, names_cons.mpr (.inl rfl), ?_⟩
          simp only [readAttr, update_self]
        · refine .inr ⟨?_, ?_⟩
          · intro other named
            rcases names_cons.mp named with this | later
            · cases this
              exact same rfl
            · exact unnamed other later
          · simp only [readAttr, update_of_ne same]
            split <;> rfl
      · refine .inr ⟨?_, rfl⟩
        intro other named
        rcases names_cons.mp named with this | later
        · cases this
        · exact unnamed other later

/-- The map leads to a bed whose attributes name the sleeper, or as before. -/
lemma load_bedSleepers (database : Database) (attributes : List (Bed × Attribute))
  (state : State Bed) (someone : guid ≠ 0) :
  (∃ bed,
      Names attributes bed guid ∧ (state.load database attributes).bedSleepers guid = some bed) ∨
    (∀ bed,
        Names attributes bed guid → database.getNameByGuid guid = false) ∧
      (state.load database attributes).bedSleepers guid = state.bedSleepers guid := by
  rw [load]
  induction attributes generalizing state with
  | nil => exact .inr ⟨fun _ named => absurd named not_mem_nil, rfl⟩
  | cons head rest ih =>
    rw [foldl_cons]
    rcases ih (state.readAttr database head.1 head.2) with
      ⟨bed, named, set⟩ | ⟨unknown, kept⟩
    · exact .inl ⟨bed, names_cons.mpr (.inr named), set⟩
    · rw [kept]
      rcases head with ⟨half, named | start⟩
      · by_cases same : guid = named
        · subst same
          cases found : database.getNameByGuid guid with
          | true =>
            refine .inl ⟨half, names_cons.mpr (.inl rfl), ?_⟩
            simp only [readAttr, found, Bool.and_true,
              ne_eq, someone, not_false_eq_true, decide_true, if_true,
              setBedSleeper, update_self]
          | false =>
            refine .inr ⟨fun _ _ => rfl, ?_⟩
            simp only [readAttr, found, Bool.and_false, Bool.false_eq_true, if_false]
        · refine .inr ⟨?_, ?_⟩
          · intro bed listed
            rcases names_cons.mp listed with this | later
            · cases this
              exact absurd rfl same
            · exact unknown bed later
          · simp only [readAttr]
            split
            · simp only [setBedSleeper, update_of_ne same]
            · rfl
      · refine .inr ⟨?_, rfl⟩
        intro bed listed
        rcases names_cons.mp listed with this | later
        · cases this
        · exact unknown bed later

lemma Sound.load {attributes : List (Bed × Attribute)} (sound : Sound rooms state)
  (facing : rooms.Facing) (paired : Paired rooms database state attributes) :
  Sound rooms (state.load database attributes) where
  halves := by
    intro bed other pair
    rcases load_sleeper database attributes state bed with ⟨guid, named, set⟩ | ⟨unnamed, kept⟩
    · have named' := paired.halves bed other guid pair named
      rcases load_sleeper database attributes state other with ⟨guid', again, set'⟩ | ⟨unnamed, _⟩
      · rw [set, set']
        exact paired.once other guid' guid again named'
      · exact absurd named' (unnamed guid)
    · rcases load_sleeper database attributes state other with ⟨guid', again, _⟩ | ⟨_, kept'⟩
      · exact absurd
          (paired.halves other bed guid' (pair.symm facing) again)
          (unnamed guid')
      · rw [kept, kept']
        exact sound.halves bed other pair
  registered := by
    intro guid someone bed
    rcases load_bedSleepers database attributes state someone
      with ⟨half, named, known⟩ | ⟨unknown, same⟩
    · rw [known]
      rcases load_sleeper database attributes state bed with ⟨guid', named', set⟩ | ⟨unnamed, kept⟩
      · rw [set]
        constructor
        · rintro rfl
          exact ⟨half, rfl, paired.alone bed half _ named' named someone⟩
        · rintro ⟨_, found, pair⟩
          cases found
          exact paired.once bed guid' guid named'
            (paired.halves half bed guid (pair.symm facing) named)
      · rw [kept]
        refine ⟨fun asleep => ?_, ?_⟩
        · exact absurd asleep (paired.elsewhere half guid named someone bed)
        · rintro ⟨_, found, pair⟩
          cases found
          exact absurd (paired.halves half bed guid (pair.symm facing) named) (unnamed guid)
    · rw [same]
      rcases load_sleeper database attributes state bed with ⟨guid', named, set⟩ | ⟨_, kept⟩
      · rw [set]
        constructor
        · rintro rfl
          have found := paired.known bed guid' named someone
          rw [unknown bed named] at found
          cases found
        · intro found
          have asleep := (sound.registered guid someone bed).mpr found
          rw [paired.free bed guid' named] at asleep
          exact absurd asleep.symm someone
      · rw [kept]
        exact sound.registered guid someone bed


/-! ## What waking does -/

/-- Exactly the player with the number rests, in the game or in its row. -/
structure Rests (before after : State Bed) (guid : Nat) (sleptTime : Int) : Prop where
  online :
    ∀ id,
      after.online id =
        (before.online id).map fun player =>
          if player.guid = guid then
            { player with vitals := player.vitals.regeneratePlayer sleptTime }
          else player
  others : ∀ other, other ≠ guid → after.stored other = before.stored other
  present :
    ∀ id player,
      before.online id = some player → player.guid = guid → after.stored guid = before.stored guid
  absent :
    (∀ id player, before.online id = some player → player.guid ≠ guid) →
      after.stored guid = (before.stored guid).regeneratePlayer sleptTime

/-- The sleeper of a bed rests, and just the bed and its partner are freed. -/
structure Wakes (rooms : Rooms Bed) (now : Int) (before : State Bed) (bed : Bed)
  (after : State Bed) : Prop where
  frees : ∀ other, after.sleeper other = if rooms.Pair bed other then 0 else before.sleeper other
  rests :
    before.sleeper bed ≠ 0 → Rests before after (before.sleeper bed) (now - before.sleepStart bed)
  nobody : before.sleeper bed = 0 → after.online = before.online ∧ after.stored = before.stored

/--
The bed is in a house, and it is either the sleeper that is handed over, or
nobody, and the sleeper has nothing to rest with.
-/
structure Rouses (rooms : Rooms Bed) (state : State Bed) (bed : Bed) (player : Option Nat) :
  Prop where
  house : rooms.house bed ≠ none
  sleeper :
    ∀ id,
      player = some id →
        (state.online id).map Player.guid = some (state.sleeper bed) ∧
          ∀ other sleeper,
            state.online other = some sleeper → sleeper.guid = state.sleeper bed → other = id
  nobody :
    player = none →
      (state.stored (state.sleeper bed)).conditions = [] ∧
        0 < (state.stored (state.sleeper bed)).health ∧
          ∀ id sleeper,
            state.online id = some sleeper →
              sleeper.guid = state.sleeper bed → sleeper.vitals.food = none

lemma regeneratePlayer_of_fasting {vitals : Vitals} (fasting : vitals.food = none)
  (sleptTime : Int) : vitals.regeneratePlayer sleptTime = vitals := by
  rw [Vitals.regeneratePlayer, fasting]

lemma food_of_nil {vitals : Vitals} (none : vitals.conditions = []) :
  vitals.food = Option.none := by
  rw [Vitals.food, none]
  rfl

omit [DecidableEq Bed] in
lemma restStored_stored {sleptTime : Int} (none : (state.stored guid).conditions = [])
  (alive : 0 < (state.stored guid).health) :
  state.restStored database guid sleptTime = state := by
  have loaded : { state.stored guid with conditions := [] } = state.stored guid := by
    rw [← none]
  have written :
      database.row ((state.stored guid).regeneratePlayer sleptTime) = state.stored guid := by
    rw [regeneratePlayer_of_fasting (food_of_nil none), Database.row]
    simp only [if_neg (Int.not_le.mpr alive), none, filter_nil]
    exact loaded
  simp only [restStored, loaded, written, update_eq_self, ite_self]

lemma wakeUp_wakes {player : Option Nat} (rouses : Rouses rooms state bed player) :
  Wakes rooms now state bed (state.wakeUp rooms database now bed player) := by
  have house : (rooms.house bed).isNone = false := by
    rw [← Bool.not_eq_true, isNone_iff_eq_none]
    exact rouses.house
  have players : ∀ rested : State Bed,
      (rested.vacate rooms bed).online = rested.online ∧
        (rested.vacate rooms bed).stored = rested.stored := by
    intro rested
    simp only [vacate]
    split <;> exact ⟨rfl, rfl⟩
  rw [wakeUp, if_neg (by rw [house]; exact Bool.false_ne_true)]
  rcases players (state.restSleeper database now bed player) with ⟨online, stored⟩
  refine ⟨?_, ?_, ?_⟩
  · intro other
    rw [vacate_sleeper, (restSleeper_same player).sleeper]
  · intro asleep
    have rested :
        Rests state (state.restSleeper database now bed player)
          (state.sleeper bed) (now - state.sleepStart bed) := by
      simp only [restSleeper, if_pos asleep]
      cases player with
      | none =>
        rcases rouses.nobody rfl with ⟨none, alive, fasting⟩
        simp only [restStored_stored none alive]
        refine ⟨?_, fun _ _ => rfl, fun _ _ _ _ => rfl, fun _ => ?_⟩
        · intro id
          cases found : state.online id with
          | none => rfl
          | some sleeper =>
            rw [map_some]
            split
            · rename_i same
              rw [regeneratePlayer_of_fasting (fasting id sleeper found same)]
            · rfl
        · rw [regeneratePlayer_of_fasting (food_of_nil none)]
      | some id =>
        rcases rouses.sleeper id rfl with ⟨same, alone⟩
        refine ⟨?_, fun _ _ => rfl, fun _ _ _ _ => rfl, fun away => ?_⟩
        · intro other
          simp only [rest]
          by_cases this : other = id
          · subst this
            rw [update_self]
            cases found : state.online other with
            | none => rfl
            | some sleeper =>
              rw [found, map_some] at same
              simp only [map_some, some.inj same, if_true]
          · rw [update_of_ne this]
            cases found : state.online other with
            | none => rfl
            | some sleeper =>
              have ne : sleeper.guid ≠ state.sleeper bed :=
                fun guid => this (alone other sleeper found guid)
              simp only [map_some, if_neg ne]
        · cases found : state.online id with
          | none =>
            rw [found] at same
            cases same
          | some sleeper =>
            rw [found, map_some] at same
            exact absurd (some.inj same) (away id sleeper found)
    refine ⟨?_, ?_, ?_, ?_⟩
    · rw [online]
      exact rested.online
    · rw [stored]
      exact rested.others
    · rw [stored]
      exact rested.present
    · rw [stored]
      exact rested.absent
  · intro free
    have same : state.restSleeper database now bed player = state := by
      simp only [restSleeper, free, ne_eq, not_true_eq_false, if_false]
    rw [online, stored, same]
    exact ⟨rfl, rfl⟩

/-! ## Runs -/

structure Occasion (Bed : Type) where
  event : Event Bed
  database : Database
  now : Int

def Step (rooms : Rooms Bed) (state : State Bed) (occasion : Occasion Bed) (next : State Bed) :
  Prop :=
  state.perform rooms occasion.database occasion.now occasion.event = some next

/--
Nobody goes to sleep in a free bed who sleeps already, and what is loaded names
one sleeper for each bed.
-/
def Proper (rooms : Rooms Bed) (state : State Bed) (occasion : Occasion Bed) : Prop :=
  match occasion.event with
  | .sleep bed id =>
    state.sleeper bed = 0 →
      ∀ player,
        state.online id = some player → player.guid ≠ 0 →
          ∀ other, state.sleeper other ≠ player.guid
  | .load attributes => Paired rooms occasion.database state attributes
  | _ => True

structure Vacant (state : State Bed) : Prop where
  sleeper : ∀ bed, state.sleeper bed = 0
  bedSleepers : ∀ guid, state.bedSleepers guid = none

omit [DecidableEq Bed] in
lemma Vacant.sound (vacant : Vacant state) (rooms : Rooms Bed) : Sound rooms state where
  halves bed other _ := by
    rw [vacant.sleeper, vacant.sleeper]
  registered guid someone bed := by
    rw [vacant.sleeper, vacant.bedSleepers]
    refine ⟨fun nobody => absurd nobody.symm someone, ?_⟩
    rintro ⟨half, known, _⟩
    cases known

section

variable (sound : Sound rooms state)
include sound

variable (facing : rooms.Facing)
include facing

lemma Sound.sleep {id : Nat}
  (proper :
    state.sleeper bed = 0 →
      ∀ player,
        state.online id = some player → player.guid ≠ 0 →
          ∀ other, state.sleeper other ≠ player.guid) :
  Sound rooms (state.sleep rooms database now bed id) := by
  rw [State.sleep]
  split
  · rename_i player house online
    split
    · exact sound.wakeUp facing bed _
    · rename_i free
      have free' : state.sleeper bed = 0 := Classical.not_not.mp free
      exact sound.occupy facing free' (proper free' player online)
  · exact sound

lemma Sound.login {id : Nat} : Sound rooms (state.login rooms database now id guid) := by
  have entered : Sound rooms (state.enter id guid) := sound.of_same ⟨rfl, rfl⟩
  simp only [State.login]
  split
  · exact entered.wakeUp facing _ _
  · exact entered

lemma Sound.setHouseOwner {house : Nat} :
  Sound rooms (state.setHouseOwner rooms database now house guid) := by
  simp only [State.setHouseOwner]
  split
  · exact sound
  · have loaded : Sound rooms { state with isLoaded := update state.isLoaded house true } :=
      sound.of_same ⟨rfl, rfl⟩
    have left :
        Sound rooms
          (if state.houseOwner house ≠ 0 then
            (State.wakeBeds rooms database now
              { state with isLoaded := update state.isLoaded house true }
              (rooms.bedsList house)).setOwner house 0
          else
            { state with isLoaded := update state.isLoaded house true }) := by
      split
      · exact (loaded.wakeBeds facing (rooms.bedsList house)).of_same ⟨rfl, rfl⟩
      · exact loaded
    split
    · exact left.of_same ⟨rfl, rfl⟩
    · exact left

lemma Sound.step {occasion : Occasion Bed} (proper : Proper rooms state occasion)
  (taken : Step rooms state occasion next) : Sound rooms next := by
  rcases occasion with ⟨event, database, now⟩
  cases event with
  | sleep bed id =>
    cases taken
    exact sound.sleep facing proper
  | wakeUp bed player =>
    cases taken
    exact sound.wakeUp facing bed player
  | login id guid =>
    simp only [Step, perform] at taken
    split at taken
    · cases taken
      exact sound.login facing
    · cases taken
  | logout id =>
    cases taken
    refine sound.of_same ?_
    rw [logout]
    split
    · exact ⟨rfl, rfl⟩
    · exact .refl state
  | live id vitals =>
    cases taken
    exact sound.of_same ⟨rfl, rfl⟩
  | setHouseOwner house guid =>
    cases taken
    exact sound.setHouseOwner facing
  | cleanHouse house =>
    cases taken
    exact sound.wakeBeds facing _
  | load attributes =>
    cases taken
    exact sound.load facing proper

end

omit [DecidableEq Bed] in
lemma Sound.login_rouses {id : Nat} (sound : Sound rooms state) (someone : guid ≠ 0)
  (away : ∀ other player, state.online other = some player → player.guid ≠ guid)
  (house : rooms.house bed ≠ none) (found : state.bedSleepers guid = some bed) :
  Rouses rooms (state.enter id guid) bed (some id) := by
  have asleep : state.sleeper bed = guid :=
    (sound.registered guid someone bed).mpr ⟨bed, found, Pair.refl rooms bed⟩
  refine ⟨house, ?_, fun nobody => by cases nobody⟩
  intro other same
  cases same
  have sleeper : (state.enter id guid).sleeper bed = guid := asleep
  rw [sleeper]
  refine ⟨?_, ?_⟩
  · simp only [enter, update_self, map_some]
  · intro other player online guid'
    by_contra ne
    simp only [enter, update_of_ne ne] at online
    exact away other player online guid'

/--
In a run in which nobody sleeps twice and beds are loaded with one sleeper each,
both halves of a bed have the same sleeper, nobody sleeps in two beds, and the
map of the sleepers leads to the bed of each.  Waking a bed frees just that bed
and is a rest for just its sleeper, if the sleeper is handed over or nobody is
and there is nothing to rest with; and at a login the sleeper is handed over.
-/
theorem beds_sound (rooms : Rooms Bed) (facing : rooms.Facing) (start state : State Bed)
  (vacant : Vacant start) (run : Reaches (Step rooms) (Proper rooms) start state) :
  (∀ bed next,
      rooms.getNextBedItem bed = some next → state.sleeper next = state.sleeper bed) ∧
    (∀ bed other,
        state.sleeper bed ≠ 0 → state.sleeper other = state.sleeper bed → rooms.Pair bed other) ∧
      (∀ guid, guid ≠ 0 →
        ∀ bed,
          state.sleeper bed = guid ↔
            ∃ half, state.bedSleepers guid = some half ∧ rooms.Pair bed half) ∧
        (∀ database now bed player,
          Rouses rooms state bed player →
            Wakes rooms now state bed (state.wakeUp rooms database now bed player)) ∧
          ∀ database now id guid bed,
            guid ≠ 0 →
              (∀ other player,
                  state.online other = some player → player.guid ≠ guid) →
                rooms.house bed ≠ none →
                  state.bedSleepers guid = some bed →
                    Wakes rooms now (state.enter id guid) bed
                      (state.login rooms database now id guid) := by
  have sound : Sound rooms state := by
    apply run.invariant (vacant.sound rooms)
    intro before occasion after held proper taken
    exact held.step facing proper taken
  refine ⟨?_, ?_, sound.registered, ?_, ?_⟩
  · intro bed next found
    exact sound.halves bed next (.inr found)
  · intro bed other taken same
    exact sound.alone facing taken same
  · intro database now bed player rouses
    exact wakeUp_wakes rouses
  · intro database now id guid bed someone away house found
    have login :
        state.login rooms database now id guid =
          (state.enter id guid).wakeUp rooms database now bed (some id) := by
      have entered : (state.enter id guid).bedSleepers guid = some bed := found
      simp only [State.login, entered]
    rw [login]
    exact wakeUp_wakes (sound.login_rouses someone away house found)


def dormitory : Rooms (Bool × Bool) where
  position bed := ⟨if bed.1 then 10 else 20, if bed.2 then 1 else 2, 7⟩
  bedPartnerDir bed := if bed.2 then .south else .north
  getBedItem position :=
    if position.x = 10 ∨ position.x = 20 then
      some (position.x = 10, position.y = 1)
    else none
  house _ := some 1
  bedsList _ := [(true, true), (true, false), (false, true), (false, false)]

lemma dormitory_facing : dormitory.Facing := by
  rintro ⟨bed, half⟩
  refine ⟨(bed, !half), ?_, ?_⟩ <;> cases bed <;> cases half <;> rfl

def morning : State (Bool × Bool) where
  sleeper _ := 0
  sleepStart _ := 0
  bedSleepers _ := none
  online _ := none
  stored _ := ⟨[], 100, 100, 50, 50⟩
  isLoaded _ := true
  houseOwner _ := 0

lemma morning_vacant : Vacant morning :=
  ⟨fun _ => rfl, fun _ => rfl⟩

def reliable : Database :=
  ⟨fun _ => true, fun _ => true, fun _ => true, id⟩

def noon : State (Bool × Bool) :=
  morning.login dormitory reliable 0 5 1

def evening : State (Bool × Bool) :=
  noon.sleep dormitory reliable 0 (true, true) 5

/-- Before it has left the game it has gone to sleep in the other bed. -/
def night : State (Bool × Bool) :=
  evening.sleep dormitory reliable 0 (false, true) 5

lemma noon_reached (guard : State (Bool × Bool) → Occasion (Bool × Bool) → Prop)
  (allowed : guard morning ⟨.login 5 1, reliable, 0⟩) :
  Reaches (Step dormitory) guard morning noon :=
  .tail .refl allowed rfl

/-- The sleeper is found in its bed. -/
theorem beds_sound_evening :
  ∃ half, evening.bedSleepers 1 = some half ∧ dormitory.Pair (true, false) half := by
  have proper : Proper dormitory noon ⟨.sleep (true, true) 5, reliable, 0⟩ := by
    intro _ player online someone other asleep
    exact someone asleep.symm
  have asleep : Step dormitory noon ⟨.sleep (true, true) 5, reliable, 0⟩ evening := rfl
  have run : Reaches (Step dormitory) (Proper dormitory) morning evening :=
    (noon_reached _ trivial).tail proper asleep
  have registered :=
    (beds_sound dormitory dormitory_facing morning evening morning_vacant run).2.2.1
  exact (registered 1 Nat.one_ne_zero (true, false)).mp rfl

/-- The player sleeps in both beds. -/
theorem sleeps_twice :
  ¬ ∀ (rooms : Rooms (Bool × Bool)) (start state : State (Bool × Bool)),
      rooms.Facing → Vacant start →
        Reaches (Step rooms) Always start state →
          ∀ bed other,
            state.sleeper bed ≠ 0 →
              state.sleeper other = state.sleeper bed → rooms.Pair bed other := by
  intro all
  have first : Step dormitory noon ⟨.sleep (true, true) 5, reliable, 0⟩ evening := rfl
  have second : Step dormitory evening ⟨.sleep (false, true) 5, reliable, 0⟩ night := rfl
  have run : Reaches (Step dormitory) Always morning night :=
    ((noon_reached _ trivial).tail trivial first).tail trivial second
  have pair :=
    all dormitory morning night dormitory_facing morning_vacant run
      (true, true) (false, true) Nat.one_ne_zero rfl
  revert pair
  decide

end State

end OTServ.Beds
