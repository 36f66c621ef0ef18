import OTServ.Conditions.Restoring

/-!
# Conditions saved and loaded

A condition comes back when the bytes written for it are taken exactly, no array is
left, and what is read has the same type, id and ticks and does the same.  For
damage `SameEffect` asks what `init` and `executeCondition` go by: the interval of a
periodic damage, and the bounds from which a damage list is still to be drawn.

`conditions_come_back_iff` finds the conditions which come back.
-/

namespace OTServ.Conditions

open Library.ByteStreams
open MapStore
open List

/-- What `init` draws a damage list from; nothing comes of no damage. -/
def ConditionDamage.draws (members : ConditionDamage) : Option (Int32 × Int32 × Int32 × Int32) :=
  if members.minDamage = 0 ∧ members.maxDamage = 0 then none
  else
    some (members.minDamage, members.maxDamage, members.startDamage, members.tickInterval)

def ConditionDamage.SameEffect (members loaded : ConditionDamage) : Prop :=
  members.delayed = loaded.delayed ∧ members.owner = loaded.owner ∧
    members.periodDamage = loaded.periodDamage ∧
    members.damageList = loaded.damageList ∧
    (members.periodDamage ≠ 0 → members.tickInterval = loaded.tickInterval) ∧
    (members.periodDamage = 0 → members.damageList = [] → members.draws = loaded.draws)

def Body.SameEffect : Body → Body → Prop
  | .damage members, .damage loaded => members.SameEffect loaded
  | .attributes members, .attributes loaded =>
    members.skills = loaded.skills ∧
      members.skillsPercent = loaded.skillsPercent ∧
      members.stats = loaded.stats ∧
      members.statsPercent = loaded.statsPercent
  | body, loaded => body = loaded

structure Same (condition loaded : Condition) : Prop where
  conditionType : condition.conditionType = loaded.conditionType
  id : condition.id = loaded.id
  ticks : condition.ticks = loaded.ticks
  effect : condition.body.SameEffect loaded.body
  inside : loaded.outside = false

/-- The conditions of a player after they were saved and loaded. -/
structure RoundTrips (build : Build) (conditions : List Condition) : Prop where
  exact :
    ∀ condition ∈ conditions, condition.isPersistent = true →
      ∃ loaded, Reads (readStored build) condition.stored loaded ∧ Same condition loaded
  whole :
    List.Forall₂ Same (conditions.filter Condition.isPersistent)
      (loadConditions build (saveConditions conditions))

/-! ## Which conditions come back -/

def intervals (damageList : List IntervalInfo) : Int32 :=
  (damageList.map IntervalInfo.interval).sum

/-- The list counts the ticks up to their value, and not over -1 on the way. -/
def CountsTicks (ticks : Int32) (damageList : List IntervalInfo) : Prop :=
  intervals damageList = ticks ∧ ∀ count, intervals (damageList.take count) ≠ -1

def Condition.Restorable (condition : Condition) : Prop :=
  match condition.body with
  | .damage members =>
    CountsTicks condition.ticks members.damageList ∧
      (members.periodDamage ≠ 0 → members.tickInterval = 2000) ∧
      (members.periodDamage = 0 → members.damageList = [] →
        members.minDamage = 0 ∧ members.maxDamage = 0)
  | .attributes _ => False
  | _ => True

lemma runTicks_stopped (damageList : List IntervalInfo) : runTicks (-1) damageList = -1 := by
  induction damageList with
  | nil => rfl
  | cons info damageList ih => exact ih

lemma runTicks_eq_iff
  {ticks value : Int32} (open_ticks : value ≠ -1) (damageList : List IntervalInfo) :
  runTicks ticks damageList = value ↔
    ticks + intervals damageList = value ∧
      ∀ count, ticks + intervals (damageList.take count) ≠ -1 := by
  induction damageList generalizing ticks with
  | nil =>
    simp only [runTicks, foldl_nil, intervals, map_nil, sum_nil, take_nil, Int32.add_zero]
    constructor
    · rintro rfl
      exact ⟨rfl, fun _ => open_ticks⟩
    · exact fun both => both.1
  | cons info damageList ih =>
    by_cases stopped : ticks = -1
    · subst stopped
      rw [runTicks_stopped]
      constructor
      · intro same
        exact absurd same.symm open_ticks
      · rintro ⟨_, never⟩
        exact absurd (never 0) (by
          simp [intervals])
    · have step :
          runTicks ticks (info :: damageList) = runTicks (ticks + info.interval) damageList := by
        rw [runTicks, foldl_cons, if_pos stopped]
        rfl
      have sum (rest : List IntervalInfo) :
          ticks + intervals (info :: rest) = ticks + info.interval + intervals rest := by
        rw [intervals, map_cons, sum_cons, Int32.add_assoc]
        rfl
      rw [step, ih, sum]
      refine and_congr_right fun _ => ?_
      constructor
      · intro never count
        cases count with
        | zero =>
          rw [take_zero]
          simpa [intervals] using stopped
        | succ count =>
          rw [take_succ_cons, sum]
          exact never count
      · intro never count
        have later := never (count + 1)
        rw [take_succ_cons, sum] at later
        exact later

lemma counts_iff {ticks : Int32} (persistent : ticks ≠ -1) (damageList : List IntervalInfo) :
  ticks = runTicks 0 damageList ↔ CountsTicks ticks damageList := by
  rw [eq_comm, runTicks_eq_iff persistent]
  simp only [Int32.zero_add]
  rfl

lemma ticks_of_persistent {condition : Condition} (persistent : condition.isPersistent = true) :
  condition.ticks ≠ -1 := by
  rw [Condition.isPersistent, Bool.and_eq_true, Bool.not_eq_true',
    beq_eq_false_iff_ne] at persistent
  exact persistent.1

lemma same_iff {condition loaded : Condition} (persistent : condition.isPersistent = true)
  (restores : Restores condition loaded) : Same condition loaded ↔ condition.Restorable := by
  have open_ticks := ticks_of_persistent persistent
  rcases condition with ⟨type, id, ticks, body, outside⟩
  cases body with
  | attributes members =>
    constructor
    · intro same
      have outside : loaded.outside = true := restores
      rw [same.inside] at outside
      exact Bool.noConfusion outside
    · exact fun impossible => impossible.elim
  | damage members =>
    obtain rfl := restores
    have counts := counts_iff open_ticks members.damageList
    constructor
    · intro same
      rcases same.effect with ⟨_, _, _, _, interval, draws⟩
      refine ⟨counts.1 same.ticks, interval, fun period empty => ?_⟩
      have drawn := draws period empty
      by_contra some
      rw [ConditionDamage.draws, if_neg some] at drawn
      cases drawn
    · rintro ⟨counted, interval, draws⟩
      refine ⟨rfl, rfl, counts.2 counted,
        ⟨rfl, rfl, rfl, rfl, interval, fun period empty => ?_⟩, rfl⟩
      rw [ConditionDamage.draws, if_pos (draws period empty)]
      rfl
  | generic =>
    obtain rfl := restores
    exact ⟨fun _ => trivial, fun _ => ⟨rfl, rfl, rfl, rfl, rfl⟩⟩
  | speed members | outfit outfits | light members | regeneration members | soul members =>
    obtain rfl := restores
    exact ⟨fun _ => trivial, fun _ => ⟨rfl, rfl, rfl, rfl, rfl⟩⟩

lemma forall₂_same
  {conditions loadeds : List Condition} (restores : List.Forall₂ Restores conditions loadeds)
  (persistent : ∀ condition ∈ conditions, condition.isPersistent = true)
  (restorable : ∀ condition ∈ conditions, condition.Restorable) :
  List.Forall₂ Same conditions loadeds := by
  induction restores with
  | nil => exact .nil
  | @cons condition loaded conditions loadeds first _ ih =>
    refine .cons ?_
      (ih (fun other among => persistent other (mem_cons_of_mem _ among))
        fun other among => restorable other (mem_cons_of_mem _ among))
    exact (same_iff (persistent condition mem_cons_self) first).2
      (restorable condition mem_cons_self)

abbrev BuiltCondition (build : Build) :=
  { condition : Condition // Built build condition }

/--
The persistent conditions of a player come back exactly where none of them changes
attributes and each damage condition can be told from its damage list: the list
counts its ticks, a periodic damage has the interval of two seconds, and no damage is
still to be drawn.
-/
theorem conditions_come_back_iff (build : Build) (conditions : List (BuiltCondition build)) :
  RoundTrips build (conditions.map Subtype.val) ↔
    ∀ condition ∈ conditions, condition.val.isPersistent = true →
      condition.val.Restorable := by
  have built : ∀ condition ∈ conditions.map Subtype.val, Built build condition := by
    intro condition among
    rcases mem_map.1 among with ⟨built, _, rfl⟩
    exact built.property
  constructor
  · intro trips condition among persistent
    rcases trips.exact condition.val (mem_map.2 ⟨condition, among, rfl⟩)
        persistent with ⟨loaded, reads, same⟩
    rcases stored_reads condition.property with ⟨loaded', reads', restores⟩
    have both := (reads []).symm.trans (reads' [])
    have equal : loaded = loaded' := by
      cases both
      rfl
    subst equal
    exact (same_iff persistent restores).1 same
  · intro restorable
    have restorable' :
        ∀ condition ∈ conditions.map Subtype.val,
          condition.isPersistent = true → condition.Restorable := by
      intro condition among persistent
      rcases mem_map.1 among with ⟨built, known, rfl⟩
      exact restorable built known persistent
    refine ⟨?_, ?_⟩
    · intro condition among persistent
      rcases stored_reads (built condition among) with ⟨loaded, reads, restores⟩
      exact ⟨loaded, reads,
        (same_iff persistent restores).2 (restorable' condition among persistent)⟩
    · apply forall₂_same (load_save built)
      · exact fun condition among => (mem_filter.1 among).2
      · intro condition among
        rcases mem_filter.1 among with ⟨known, persistent⟩
        exact restorable' condition known persistent

/-- Burning with one round of two seconds left, half of it over. -/
def halfBurnt : Condition where
  conditionType := 2
  id := conditionIdDefault
  ticks := 1000
  body := .damage { damageList := [{ timeLeft := 1000, value := -10, interval := 2000 }] }

theorem halfBurnt_not_restored :
  Built { protocol76 := false } halfBurnt ∧
    ¬ RoundTrips { protocol76 := false } [halfBurnt] := by
  refine ⟨⟨rfl, rfl, fun members impossible => by cases impossible⟩, ?_⟩
  intro trips
  rcases trips.exact halfBurnt mem_cons_self rfl with ⟨loaded, reads, same⟩
  have counted :
      (readStored { protocol76 := false } (halfBurnt.stored ++ [])).1.map
        Condition.ticks = some 2000 := by
    decide +kernel
  rw [reads [], Option.map_some, ← same.ticks] at counted
  exact absurd counted (by decide)

end OTServ.Conditions
