import OTServ.Movement.Equipment

/-!
# What abilities add up to

The abilities which worn items have given to a player, compared with a ledger of
these items: each item in the ledger counts once in every sum, and nothing else
does.  Giving abilities enters an item, and taking them back strikes it out, as
long as the percentages are taken of an unchanged stat.
-/

namespace OTServ.Movement.Equipment

open Library.Ledger
open List Function Option

variable {catalogue : Catalogue}

/-! ## Closed forms -/

variable (abilities : Abilities)

lemma addSkill_eq (state : State) (skill : Skill) :
  addSkill abilities state skill = state.setVarSkill skill (abilities.skills skill) := by
  by_cases zero : abilities.skills skill = 0
  · simp [addSkill, zero, State.setVarSkill]
  · rw [addSkill, if_pos zero]

lemma removeSkill_eq (state : State) (skill : Skill) :
  removeSkill abilities state skill = state.setVarSkill skill (-abilities.skills skill) := by
  by_cases zero : abilities.skills skill = 0
  · simp [removeSkill, zero, State.setVarSkill]
  · rw [removeSkill, if_pos zero]

lemma setVarSkills_eq (state : State) (step : State → Skill → State) (amount : Skill → Int)
  (each : ∀ state skill, step state skill = state.setVarSkill skill (amount skill)) :
  Skill.all.foldl step state =
    { state with
      varSkills := fun skill => state.varSkills skill + amount skill } := by
  simp only [Skill.all, foldl_cons, foldl_nil, each, State.setVarSkill]
  congr 1
  funext skill
  cases skill <;> simp [update]

def Base.defaultStat (base : Base) (stat : Stat) (bonus : Int) : Int :=
  base.info stat bonus - bonus

/-- What `EquipItem` adds to a stat whose bonus is the given one. -/
def gain
  (catalogue : Catalogue) (abilities : Abilities) (base : Base) (stat : Stat)
  (bonus : Int) : Int :=
  abilities.stats stat +
    if abilities.statsPercent stat ≠ 0 then
      catalogue.percentOf
        (base.defaultStat stat (bonus + abilities.stats stat))
        (abilities.statsPercent stat)
    else 0

/-- What `DeEquipItem` takes off a stat whose bonus is the given one. -/
def loss
  (catalogue : Catalogue) (abilities : Abilities) (base : Base) (stat : Stat)
  (bonus : Int) : Int :=
  abilities.stats stat +
    if abilities.statsPercent stat ≠ 0 then
      catalogue.percentOf
        (base.defaultStat stat (bonus - abilities.stats stat))
        (abilities.statsPercent stat)
    else 0

lemma State.setVarStats_zero (state : State) (stat : Stat) :
  state.setVarStats stat 0 = state := by
  simp [State.setVarStats]

lemma State.setVarStats_setVarStats (state : State) (stat : Stat) (first second : Int) :
  (state.setVarStats stat first).setVarStats stat second =
    state.setVarStats stat (first + second) := by
  simp [State.setVarStats, Int.add_assoc]

lemma addStat_eq (state : State) (stat : Stat) :
  addStat catalogue abilities state stat =
    state.setVarStats stat (gain catalogue abilities state.base stat (state.varStats stat)) := by
  have points :
      (if abilities.stats stat ≠ 0 then
          state.setVarStats stat (abilities.stats stat)
        else state) = state.setVarStats stat (abilities.stats stat) :=
    ite_eq_left_iff.mpr fun zero => by rw [not_not.mp zero, State.setVarStats_zero]
  simp only [addStat, points]
  by_cases percent : abilities.statsPercent stat = 0
  · simp [gain, percent]
  · simp only [ne_eq, percent, not_false_eq_true, if_true, gain, State.setVarStats_setVarStats]
    simp [State.getDefaultStats, Base.defaultStat, State.setVarStats]

lemma removeStat_eq (state : State) (stat : Stat) :
  removeStat catalogue abilities state stat =
    state.setVarStats stat
      (-loss catalogue abilities state.base stat (state.varStats stat)) := by
  have points :
      (if abilities.stats stat ≠ 0 then
          state.setVarStats stat (-abilities.stats stat)
        else state) = state.setVarStats stat (-abilities.stats stat) :=
    ite_eq_left_iff.mpr fun zero => by
      rw [not_not.mp zero, Int.neg_zero, State.setVarStats_zero]
  simp only [removeStat, points]
  by_cases percent : abilities.statsPercent stat = 0
  · simp [loss, percent]
  · simp only [ne_eq, percent, not_false_eq_true, if_true, loss, State.setVarStats_setVarStats]
    simp [State.getDefaultStats, Base.defaultStat, State.setVarStats,
      Int.sub_eq_add_neg, Int.add_comm (-abilities.stats stat)]

lemma setVarStats_eq (state : State) (step : State → Stat → State) (amount : Stat → Int → Int)
  (each : ∀ (other : State) (stat : Stat),
    other.base = state.base →
      step other stat = other.setVarStats stat (amount stat (other.varStats stat))) :
  Stat.all.foldl step state =
    { state with
      varStats := fun stat => state.varStats stat + amount stat (state.varStats stat) } := by
  simp only [Stat.all, foldl_cons, foldl_nil]
  rw [each _ .maxHitPoints, each _ .maxManaPoints, each _ .magicPoints]
  · simp only [State.setVarStats]
    congr 1
    funext stat
    cases stat <;> simp [update]
  all_goals rfl

lemma addItemCondition_eq (slot : Slot) (state : State) (type : ConditionType) :
  addItemCondition abilities slot state type =
    state.setCondition slot type
      ((abilities.condition type).or (state.conditions slot type)) := by
  cases given : abilities.condition type with
  | none => simp [addItemCondition, given, State.setCondition]
  | some condition => simp [addItemCondition, given]

lemma removeItemCondition_eq (slot : Slot) (state : State) (type : ConditionType) :
  removeItemCondition abilities slot state type =
    state.setCondition slot type
      (if (abilities.condition type).isSome then none
        else state.conditions slot type) := by
  cases given : abilities.condition type with
  | none => simp [removeItemCondition, given, State.setCondition]
  | some condition => simp [removeItemCondition, given]

lemma addAbilities_eq (state : State) (slot : Slot) (id : Nat) :
    addAbilities catalogue state slot id =
      let abilities := (catalogue.items id).abilities
      { state with
        conditions :=
          update state.conditions slot fun type =>
            (abilities.condition type).or (state.conditions slot type)
        varSpeed := state.varSpeed + abilities.speed
        conditionSuppressions := state.conditionSuppressions ||| abilities.conditionSuppressions
        varSkills := fun skill => state.varSkills skill + abilities.skills skill
        varStats := fun stat =>
          state.varStats stat +
            gain catalogue abilities state.base stat (state.varStats stat) } := by
  have speed (other : State) :
      (if (catalogue.items id).abilities.speed ≠ 0 then
          other.changeSpeed (catalogue.items id).abilities.speed
        else other) =
        other.changeSpeed (catalogue.items id).abilities.speed :=
    ite_eq_left_iff.mpr fun zero => by simp [not_not.mp zero, State.changeSpeed]
  have suppressions (other : State) :
      (if (catalogue.items id).abilities.conditionSuppressions ≠ 0 then
          other.setConditionSuppressions (catalogue.items id).abilities.conditionSuppressions false
        else other) =
        other.setConditionSuppressions
          (catalogue.items id).abilities.conditionSuppressions false :=
    ite_eq_left_iff.mpr fun zero => by simp [not_not.mp zero, State.setConditionSuppressions]
  simp only [addAbilities, speed, suppressions, addItemCondition_eq]
  rw [setVarSkills_eq _ _ _ (addSkill_eq (catalogue.items id).abilities),
    setVarStats_eq _ _
      (gain catalogue (catalogue.items id).abilities state.base)
      (fun other stat same => by
        have unchanged : other.base = state.base := same
        rw [addStat_eq, unchanged])]
  simp only [State.changeSpeed, State.setConditionSuppressions, State.setCondition]
  congr 1
  funext other type
  by_cases here : other = slot
  · subst here
    cases type <;> simp [update]
  · simp [update_of_ne here]

lemma removeAbilities_eq (state : State) (slot : Slot) (id : Nat) :
    removeAbilities catalogue state slot id =
      let abilities := (catalogue.items id).abilities
      { state with
        conditions :=
          update state.conditions slot fun type =>
            if (abilities.condition type).isSome then none
            else state.conditions slot type
        varSpeed := state.varSpeed - abilities.speed
        conditionSuppressions := state.conditionSuppressions &&& ~~~abilities.conditionSuppressions
        varSkills := fun skill => state.varSkills skill - abilities.skills skill
        varStats := fun stat =>
          state.varStats stat -
            loss catalogue abilities state.base stat (state.varStats stat) } := by
  have speed (other : State) :
      (if (catalogue.items id).abilities.speed ≠ 0 then
          other.changeSpeed (-(catalogue.items id).abilities.speed)
        else other) =
        other.changeSpeed (-(catalogue.items id).abilities.speed) :=
    ite_eq_left_iff.mpr fun zero => by simp [not_not.mp zero, State.changeSpeed]
  have suppressions (other : State) :
      (if (catalogue.items id).abilities.conditionSuppressions ≠ 0 then
          other.setConditionSuppressions (catalogue.items id).abilities.conditionSuppressions true
        else other) =
        other.setConditionSuppressions
          (catalogue.items id).abilities.conditionSuppressions true :=
    ite_eq_left_iff.mpr fun zero => by
      rw [not_not.mp zero]
      exact congrArg (fun mask => { other with conditionSuppressions := mask })
        BitVec.and_allOnes.symm
  simp only [removeAbilities, speed, suppressions, removeItemCondition_eq]
  rw [setVarSkills_eq _ _ (fun skill =>
      -(catalogue.items id).abilities.skills skill)
      (removeSkill_eq (catalogue.items id).abilities),
    setVarStats_eq _ _
      (fun stat bonus => -loss catalogue (catalogue.items id).abilities state.base stat bonus)
      (fun other stat same => by
        have unchanged : other.base = state.base := same
        rw [removeStat_eq, unchanged])]
  simp only [State.changeSpeed, State.setConditionSuppressions,
    State.setCondition, Int.sub_eq_add_neg, if_true]
  congr 1
  funext other type
  by_cases here : other = slot
  · subst here
    cases type <;> simp [update]
  · simp [update_of_ne here]

/-- What an item adds to a stat while nothing is cut off at the least value. -/
def bonus (catalogue : Catalogue) (base : Base) (id : Nat) (stat : Stat) : Int :=
  let abilities := (catalogue.items id).abilities
  abilities.stats stat +
    if abilities.statsPercent stat ≠ 0 then
      catalogue.percentOf (base.stat stat) (abilities.statsPercent stat)
    else 0

/-- A percentage is added while the stat is not cut off at its least value. -/
def EquipIsClear (catalogue : Catalogue) (base : Base) (bonuses : Stat → Int) (id : Nat) : Prop :=
  let abilities := (catalogue.items id).abilities
  ∀ stat,
    abilities.statsPercent stat ≠ 0 →
      stat.least ≤ base.stat stat + (bonuses stat + abilities.stats stat)

/-- A percentage is taken back while the stat is not cut off either. -/
def DeEquipIsClear
  (catalogue : Catalogue) (base : Base) (bonuses : Stat → Int) (id : Nat) : Prop :=
  let abilities := (catalogue.items id).abilities
  ∀ stat,
    abilities.statsPercent stat ≠ 0 →
      stat.least ≤ base.stat stat + (bonuses stat - abilities.stats stat)

variable {base : Base} {bonuses : Stat → Int} {id : Nat} {start state : State}
  {worn : Slot → Option Nat} {slot : Slot}

lemma Base.defaultStat_eq
  {stat : Stat} {bonus : Int} (clear : stat.least ≤ base.stat stat + bonus) :
  base.defaultStat stat bonus = base.stat stat := by
  rw [Base.defaultStat, Base.info, max_eq_right clear]
  exact Int.add_sub_cancel _ _

lemma gain_eq_bonus (clear : EquipIsClear catalogue base bonuses id) (stat : Stat) :
  gain catalogue (catalogue.items id).abilities base stat (bonuses stat) =
    bonus catalogue base id stat := by
  rw [gain, bonus]
  split
  · rename_i percent
    rw [Base.defaultStat_eq (clear stat percent)]
  · rfl

lemma loss_eq_bonus (clear : DeEquipIsClear catalogue base bonuses id) (stat : Stat) :
  loss catalogue (catalogue.items id).abilities base stat (bonuses stat) =
    bonus catalogue base id stat := by
  rw [loss, bonus]
  split
  · rename_i percent
    rw [Base.defaultStat_eq (clear stat percent)]
  · rfl

/--
Compared with the start, a player has the abilities of the items in the ledger,
each of them once, and no conditions or suppressions but theirs.
-/
structure Accounts (catalogue : Catalogue) (start : State) (worn : Slot → Option Nat)
  (state : State) : Prop where
  enabled : ∀ slot, state.inventoryAbilities slot = (worn slot).isSome
  skills : ∀ skill,
    state.varSkills skill =
      start.varSkills skill + total (fun id => (catalogue.items id).abilities.skills skill) worn
  stats : ∀ stat,
    state.varStats stat =
      start.varStats stat + total (fun id => bonus catalogue state.base id stat) worn
  speed :
    state.varSpeed = start.varSpeed + total (fun id => (catalogue.items id).abilities.speed) worn
  suppressions : ∀ index,
    state.conditionSuppressions.getLsbD index →
      ∃ slot id,
        worn slot = some id ∧ (catalogue.items id).abilities.conditionSuppressions.getLsbD index
  conditions : ∀ slot type,
    (state.conditions slot type).isSome →
      ∃ id, worn slot = some id ∧ ((catalogue.items id).abilities.condition type).isSome

def wear (catalogue : Catalogue) (state : State) (slot : Slot) (id : Nat) : State :=
  addAbilities catalogue (state.setItemAbility slot true) slot id

def takeOff (catalogue : Catalogue) (state : State) (slot : Slot) (id : Nat) : State :=
  removeAbilities catalogue (state.setItemAbility slot false) slot id

variable (accounts : Accounts catalogue start worn state)
include accounts

lemma Accounts.wear
  (free : worn slot = none) (clear : EquipIsClear catalogue state.base state.varStats id) :
  Accounts catalogue start (update worn slot (some id)) (wear catalogue state slot id) := by
  rw [Equipment.wear, addAbilities_eq]
  constructor
  · intro other
    by_cases here : other = slot
    · simp [State.setItemAbility, here]
    · simp [State.setItemAbility, here, accounts.enabled]
  · intro skill
    rw [total_enter _ free]
    simp [State.setItemAbility, accounts.skills, Int.add_assoc]
  · intro stat
    rw [total_enter _ free]
    have gained := gain_eq_bonus clear stat
    simp only [State.setItemAbility, gained]
    rw [accounts.stats, Int.add_assoc]
  · rw [total_enter _ free]
    simp [State.setItemAbility, accounts.speed, Int.add_assoc]
  · intro index set
    simp only [State.setItemAbility, BitVec.getLsbD_or, Bool.or_eq_true] at set
    rcases set with old | new
    · rcases accounts.suppressions index old with ⟨other, item, held, bit⟩
      have ne : other ≠ slot := by
        rintro rfl
        rw [free] at held
        cases held
      exact ⟨other, item, by rw [update_of_ne ne, held], bit⟩
    · exact ⟨slot, id, update_self _ _ _, new⟩
  · intro other type given
    by_cases here : other = slot
    · subst here
      refine ⟨id, update_self _ _ _, ?_⟩
      simp only [State.setItemAbility, update_self] at given
      by_contra without
      rw [Bool.not_eq_true, isSome_eq_false_iff, isNone_iff_eq_none] at without
      rw [without, none_or] at given
      rcases accounts.conditions other type given with ⟨item, held, _⟩
      rw [free] at held
      cases held
    · simp only [State.setItemAbility, update_of_ne here] at given ⊢
      exact accounts.conditions other type given

lemma Accounts.takeOff
  (held : worn slot = some id) (clear : DeEquipIsClear catalogue state.base state.varStats id) :
  Accounts catalogue start (update worn slot none) (takeOff catalogue state slot id) := by
  rw [Equipment.takeOff, removeAbilities_eq]
  constructor
  · intro other
    by_cases here : other = slot
    · simp [State.setItemAbility, here]
    · simp [State.setItemAbility, here, accounts.enabled]
  · intro skill
    rw [total_strike _ held]
    simp [State.setItemAbility, accounts.skills, Int.add_sub_assoc]
  · intro stat
    rw [total_strike _ held]
    have lost := loss_eq_bonus clear stat
    simp only [State.setItemAbility, lost]
    rw [accounts.stats, Int.add_sub_assoc]
  · rw [total_strike _ held]
    simp [State.setItemAbility, accounts.speed, Int.add_sub_assoc]
  · intro index set
    simp only [State.setItemAbility, BitVec.getLsbD_and, BitVec.getLsbD_not,
      Bool.and_eq_true, Bool.not_eq_true', decide_eq_true_eq] at set
    rcases set with ⟨old, _, outside⟩
    rcases accounts.suppressions index old with ⟨other, item, held', bit⟩
    have ne : other ≠ slot := by
      rintro rfl
      rw [held] at held'
      cases held'
      rw [bit] at outside
      cases outside
    exact ⟨other, item, by rw [update_of_ne ne, held'], bit⟩
  · intro other type given
    by_cases here : other = slot
    · subst here
      simp only [State.setItemAbility, update_self] at given
      split at given
      · cases given
      · rename_i without
        rcases accounts.conditions other type given with ⟨item, held', has⟩
        rw [held] at held'
        cases held'
        exact absurd has without
    · simp only [State.setItemAbility, update_of_ne here] at given ⊢
      exact accounts.conditions other type given

lemma Accounts.setInventory (slot : Slot) (item : Option Nat) :
  Accounts catalogue start worn (state.setInventory slot item) :=
  ⟨accounts.enabled, accounts.skills, accounts.stats, accounts.speed,
    accounts.suppressions, accounts.conditions⟩

lemma Accounts.cleared (empty : ∀ slot, worn slot = none) :
  state.varSkills = start.varSkills ∧
    state.varStats = start.varStats ∧
      state.varSpeed = start.varSpeed ∧
        state.conditionSuppressions = 0 ∧ ∀ slot type, state.conditions slot type = none := by
  refine ⟨?_, ?_, ?_, ?_, ?_⟩
  · funext skill
    rw [accounts.skills, total_eq_zero _ empty, Int.add_zero]
  · funext stat
    rw [accounts.stats, total_eq_zero _ empty, Int.add_zero]
  · rw [accounts.speed, total_eq_zero _ empty, Int.add_zero]
  · apply BitVec.eq_of_getLsbD_eq
    intro index _
    have zero : BitVec.getLsbD (0 : BitVec 32) index = false := by simp
    rw [zero]
    by_contra set
    rcases accounts.suppressions index (by simpa using set) with ⟨slot, id, held, _⟩
    rw [empty slot] at held
    cases held
  · intro slot type
    by_contra given
    rcases accounts.conditions slot type (isSome_iff_ne_none.mpr given) with ⟨id, held, _⟩
    rw [empty slot] at held
    cases held

end OTServ.Movement.Equipment
