import OTServ.Library.GuardedRuns
import OTServ.Movement.Abilities

/-!
# Runs of equipment

In every run in which percentages are taken of unchanged stats and in which the
types that turn into others when they are put on have no abilities of their own,
the worn items count once each, and when all have been taken off the player is
as before.
-/

namespace OTServ.Movement.Equipment

open Library.GuardedRuns
open Library.Ledger
open Option

variable {catalogue : Catalogue}

/-- An item of one type becomes one of the other when it is put on. -/
def Becomes (catalogue : Catalogue) : Nat → Nat → Prop :=
  Relation.ReflTransGen fun id successor =>
    (catalogue.items id).transformEquipTo = successor ∧ successor ≠ 0

/-- Items of the one type can turn into the other without leaving the slot. -/
def SameClass (catalogue : Catalogue) (id other : Nat) : Prop :=
  (catalogue.items id).alwaysOnTop = (catalogue.items other).alwaysOnTop ∧
    (catalogue.items id).type = (catalogue.items other).type

structure Plain (abilities : Abilities) : Prop where
  skills : ∀ skill, abilities.skills skill = 0
  stats : ∀ stat, abilities.stats stat = 0
  statsPercent : ∀ stat, abilities.statsPercent stat = 0
  speed : abilities.speed = 0
  conditions : ∀ type, abilities.condition type = none
  suppressions : abilities.conditionSuppressions = 0

def HasEquip (catalogue : Catalogue) (slot : Slot) (id : Nat) : Prop :=
  (getEvent (catalogue.equipEvents id) slot).isSome

def HasDeEquip (catalogue : Catalogue) (slot : Slot) (id : Nat) : Prop :=
  (getEvent (catalogue.deEquipEvents id) slot).isSome

/--
What is put on in the slot can be taken off, and what turns into something else
when it is put on has no abilities of its own.
-/
def Tame (catalogue : Catalogue) (slot : Slot) (id : Nat) : Prop :=
  ∀ last,
    Becomes catalogue id last →
      HasEquip catalogue slot last →
        HasDeEquip catalogue slot last ∧
          ((catalogue.items last).transformEquipTo ≠ 0 →
            Plain (catalogue.items last).abilities ∧
              SameClass catalogue last (catalogue.items last).transformEquipTo)

variable {slot target : Slot} {id fuel newId : Nat} {state next start told : State}
  {item : Option Nat} {isRemoval : Bool} {place : Option Slot} {base : Base}
  {worn : Slot → Option Nat}

lemma Tame.successor
  (tame : Tame catalogue slot id) (becomes : (catalogue.items id).transformEquipTo ≠ 0) :
  Tame catalogue slot (catalogue.items id).transformEquipTo := by
  intro last further
  exact tame last (.head ⟨rfl, becomes⟩ further)

lemma addAbilities_plain (plain : Plain (catalogue.items id).abilities) (state : State)
  (slot : Slot) : addAbilities catalogue state slot id = state := by
  rw [addAbilities_eq]
  simp [plain.skills, plain.stats, plain.statsPercent, plain.speed,
    plain.conditions, plain.suppressions, gain]

/-! ## What the event functions do -/

@[simp]
lemma State.setInventory_inventory_self (state : State) (slot : Slot) (item : Option Nat) :
  (state.setInventory slot item).inventory slot = item := by
  simp [State.setInventory]

lemma State.setInventory_inventory_of_ne
  (state : State) {other : Slot} (item : Option Nat) (ne : other ≠ slot) :
  (state.setInventory slot item).inventory other = state.inventory other := by
  simp [State.setInventory, ne]

@[simp]
lemma State.setInventory_setInventory (state : State) (slot : Slot) (first second : Option Nat) :
  (state.setInventory slot first).setInventory slot second = state.setInventory slot second := by
  simp [State.setInventory]

lemma State.setInventory_eq_self
  (held : state.inventory slot = item) : state.setInventory slot item = state := by
  simp [State.setInventory, ← held]

lemma onPlayerDeEquip_unused (unused : state.inventoryAbilities slot = false)
  (done : onPlayerDeEquip catalogue fuel state slot id isRemoval place = some next) :
  next = state := by
  cases fuel with
  | zero => cases done
  | succ fuel =>
    rw [onPlayerDeEquip] at done
    split at done
    · cases done
      rfl
    · simp only [unused, Bool.not_false, if_true, some.injEq] at done
      exact done.symm

lemma onPlayerDeEquip_used
  (used : state.inventoryAbilities slot = true) (event : HasDeEquip catalogue slot id)
  (stays : isRemoval = true → (catalogue.items id).transformDeEquipTo ≠ 0 → place = none)
  (done : onPlayerDeEquip catalogue fuel state slot id isRemoval place = some next) :
  next = takeOff catalogue state slot id := by
  have nowhere :
      (if isRemoval && (catalogue.items id).transformDeEquipTo != 0 then
        place else none) = none := by
    split
    · rename_i leaves
      simp only [Bool.and_eq_true, bne_iff_ne] at leaves
      exact stays leaves.1 leaves.2
    · rfl
  cases fuel with
  | zero => cases done
  | succ fuel =>
    rcases isSome_iff_exists.mp event with ⟨found, known⟩
    simp only [onPlayerDeEquip, known, used, Bool.not_true, if_false,
      Bool.false_eq_true, nowhere, some.injEq] at done
    exact done.symm

lemma onPlayerEquip_used (used : state.inventoryAbilities slot = true)
  (done : onPlayerEquip catalogue fuel state slot = some next) : next = state := by
  cases fuel with
  | zero => cases done
  | succ fuel =>
    rw [onPlayerEquip] at done
    split at done
    · cases done
      rfl
    · split at done
      · cases done
        rfl
      · simp only [used, if_true, some.injEq] at done
        exact done.symm

lemma onPlayerEquip_eventless
  (held : state.inventory slot = some id) (eventless : ¬ HasEquip catalogue slot id)
  (done : onPlayerEquip catalogue fuel state slot = some next) : next = state := by
  rw [HasEquip, Bool.not_eq_true, isSome_eq_false_iff, isNone_iff_eq_none] at eventless
  cases fuel with
  | zero => cases done
  | succ fuel =>
    simp only [onPlayerEquip, held, eventless, some.injEq] at done
    exact done.symm

/--
The item in the slot has become one of another type, and nothing else has
happened or the player has put it to use.
-/
def Equips (catalogue : Catalogue) (state : State) (slot : Slot) (id : Nat) (next : State) :
  Prop :=
  ∃ last,
    Becomes catalogue id last ∧
      (next = state.setInventory slot (some last) ∨
        HasDeEquip catalogue slot last ∧
          next = wear catalogue (state.setInventory slot (some last)) slot last)

lemma transformItem_unused (held : state.inventory slot = some id)
  (unused : state.inventoryAbilities slot = false) (ne : id ≠ newId)
  (same : SameClass catalogue id newId)
  (done : transformItem catalogue (fuel + 1) state slot newId = some next) :
  onPlayerEquip catalogue fuel (state.setInventory slot (some newId)) slot = some next := by
  simp only [transformItem, held, ne, if_false, same.1, same.2, ne_eq,
    not_true_eq_false, if_true] at done
  rcases bind_eq_some_iff.mp done with ⟨told, removal, equip⟩
  rw [onPlayerDeEquip_unused unused removal] at equip
  exact equip

lemma onPlayerEquip_equips (fuel : Nat) :
  ∀ {state next : State} {id : Nat},
    state.inventory slot = some id →
      state.inventoryAbilities slot = false →
        Tame catalogue slot id →
          onPlayerEquip catalogue fuel state slot = some next →
            Equips catalogue state slot id next := by
  induction fuel using Nat.strong_induction_on with
  | _ fuel ih =>
    intro state next id held unused tame done
    have unchanged : state = next → Equips catalogue state slot id next := by
      intro same
      refine ⟨id, .refl, .inl ?_⟩
      rw [State.setInventory_eq_self held, same]
    cases fuel with
    | zero => cases done
    | succ fuel =>
      simp only [onPlayerEquip, held] at done
      cases event : getEvent (catalogue.equipEvents id) slot with
      | none =>
        simp only [event, some.injEq] at done
        exact unchanged done
      | some found =>
        have known : HasEquip catalogue slot id := by
          rw [HasEquip, event]
          rfl
        simp only [event, unused, Bool.false_eq_true, if_false] at done
        split at done
        · exact unchanged (some.inj done)
        · split at done
          · rename_i becomes
            rcases map_eq_some_iff.mp done with ⟨transformed, transform, same⟩
            have shape := (tame id .refl known).2 becomes
            rw [addAbilities_plain shape.1] at same
            subst same
            by_cases itself : id = (catalogue.items id).transformEquipTo
            · cases fuel with
              | zero => cases transform
              | succ fuel =>
                rw [← itself] at transform
                simp only [transformItem, held, if_true, some.injEq] at transform
                exact unchanged transform
            · cases fuel with
              | zero => cases transform
              | succ fuel =>
                have equip := transformItem_unused held unused itself shape.2 transform
                rcases ih fuel (by omega)
                    (State.setInventory_inventory_self _ _ _) unused
                    (tame.successor becomes) equip with
                  ⟨last, further, outcome⟩
                rw [State.setInventory_setInventory] at outcome
                exact ⟨last, .head ⟨rfl, becomes⟩ further, outcome⟩
          · refine ⟨id, .refl, .inr ⟨(tame id .refl known).1, ?_⟩⟩
            rw [State.setInventory_eq_self held]
            exact (some.inj done).symm

/-! ## The invariant -/

/-- Equipping items of the type in the slot is safe with the given bonuses. -/
structure EquipIsSafe (catalogue : Catalogue) (base : Base) (bonuses : Stat → Int) (slot : Slot)
  (id : Nat) : Prop where
  tame : Tame catalogue slot id
  clear : ∀ last, Becomes catalogue id last → EquipIsClear catalogue base bonuses last

lemma EquipIsSafe.becomes {bonuses : Stat → Int} {last : Nat}
  (safe : EquipIsSafe catalogue base bonuses slot id) (becomes : Becomes catalogue id last) :
  EquipIsSafe catalogue base bonuses slot last where
  tame other further := safe.tame other (becomes.trans further)
  clear other further := safe.clear other (becomes.trans further)

/-- The items in the ledger are in their slots and can be taken off. -/
structure Wearing (catalogue : Catalogue) (start : State) (worn : Slot → Option Nat)
  (state : State) : Prop where
  accounts : Accounts catalogue start worn state
  held : ∀ slot id,
    worn slot = some id → state.inventory slot = some id ∧ HasDeEquip catalogue slot id

def Sound (catalogue : Catalogue) (start state : State) : Prop :=
  ∃ worn, Wearing catalogue start worn state

section

variable (wearing : Wearing catalogue start worn state)
include wearing

lemma Wearing.unused (free : worn slot = none) : state.inventoryAbilities slot = false := by
  rw [wearing.accounts.enabled, free]
  rfl

lemma Wearing.worn_of_used (held : state.inventory slot = some id)
  (used : state.inventoryAbilities slot = true) : worn slot = some id := by
  rw [wearing.accounts.enabled] at used
  rcases isSome_iff_exists.mp used with ⟨item, entered⟩
  have same := (wearing.held slot item entered).1
  rw [held, some.injEq] at same
  rw [entered, same]

lemma Wearing.free_of_unused
  (unused : state.inventoryAbilities slot = false) : worn slot = none := by
  rw [wearing.accounts.enabled] at unused
  simpa using unused

lemma Wearing.free_of_empty (empty : state.inventory slot = none) : worn slot = none := by
  by_contra entered
  rcases ne_none_iff_exists'.mp entered with ⟨id, entry⟩
  have held := (wearing.held slot id entry).1
  rw [empty] at held
  cases held

lemma Wearing.setInventory (free : worn slot = none) (item : Option Nat) :
  Wearing catalogue start worn (state.setInventory slot item) where
  accounts := wearing.accounts.setInventory slot item
  held other id entered := by
    have ne : other ≠ slot := by
      rintro rfl
      rw [free] at entered
      cases entered
    rw [State.setInventory_inventory_of_ne _ _ ne]
    exact wearing.held other id entered

end

@[simp]
lemma wear_inventory (state : State) (slot : Slot) (id : Nat) :
  (wear catalogue state slot id).inventory = state.inventory := by
  rw [wear, addAbilities_eq]
  rfl

@[simp]
lemma takeOff_inventory (state : State) (slot : Slot) (id : Nat) :
  (takeOff catalogue state slot id).inventory = state.inventory := by
  rw [takeOff, removeAbilities_eq]
  rfl

@[simp]
lemma takeOff_base (state : State) (slot : Slot) (id : Nat) :
  (takeOff catalogue state slot id).base = state.base := by
  rw [takeOff, removeAbilities_eq]
  rfl

@[simp]
lemma wear_base (state : State) (slot : Slot) (id : Nat) :
  (wear catalogue state slot id).base = state.base := by
  rw [wear, addAbilities_eq]
  rfl

lemma wear_varStats (clear : EquipIsClear catalogue state.base state.varStats id) (slot : Slot) :
  (wear catalogue state slot id).varStats = fun stat =>
    state.varStats stat + bonus catalogue state.base id stat := by
  rw [wear, addAbilities_eq]
  funext stat
  exact congrArg (state.varStats stat + ·) (gain_eq_bonus clear stat)

lemma takeOff_varStats
  (clear : DeEquipIsClear catalogue state.base state.varStats id) (slot : Slot) :
  (takeOff catalogue state slot id).varStats = fun stat =>
    state.varStats stat - bonus catalogue state.base id stat := by
  rw [takeOff, removeAbilities_eq]
  funext stat
  exact congrArg (state.varStats stat - ·) (loss_eq_bonus clear stat)

section

variable (wearing : Wearing catalogue start worn state)
include wearing

lemma Wearing.wear (free : worn slot = none) (held : state.inventory slot = some id)
  (event : HasDeEquip catalogue slot id)
  (clear : EquipIsClear catalogue state.base state.varStats id) :
  Wearing catalogue start (Function.update worn slot (some id))
    (wear catalogue state slot id) where
  accounts := wearing.accounts.wear free clear
  held other item entered := by
    rw [wear_inventory]
    by_cases here : other = slot
    · subst here
      rw [Function.update_self, some.injEq] at entered
      rw [← entered]
      exact ⟨held, event⟩
    · rw [Function.update_of_ne here] at entered
      exact wearing.held other item entered

lemma Wearing.takeOff (entered : worn slot = some id)
  (clear : DeEquipIsClear catalogue state.base state.varStats id) (item : Option Nat) :
  Wearing catalogue start (Function.update worn slot none)
    (takeOff catalogue (state.setInventory slot item) slot id) where
  accounts := (wearing.accounts.setInventory slot item).takeOff entered clear
  held other known found := by
    by_cases here : other = slot
    · subst here
      rw [Function.update_self] at found
      cases found
    · rw [Function.update_of_ne here] at found
      rw [takeOff_inventory, State.setInventory_inventory_of_ne _ _ here]
      exact wearing.held other known found

lemma Wearing.equip (free : worn slot = none) (held : state.inventory slot = some id)
  (safe : EquipIsSafe catalogue state.base state.varStats slot id)
  (done : onPlayerEquip catalogue fuel state slot = some next) : Sound catalogue start next := by
  rcases onPlayerEquip_equips fuel held (wearing.unused free) safe.tame done
    with ⟨last, becomes, rfl | ⟨event, rfl⟩⟩
  · exact ⟨worn, wearing.setInventory free (some last)⟩
  · exact ⟨_, (wearing.setInventory free (some last)).wear free
      (State.setInventory_inventory_self _ _ _) event
      (safe.clear last becomes)⟩

end

/-! ## Operations -/

def bonusesWithout (catalogue : Catalogue) (state : State) (slot : Slot) (id : Nat) : Stat → Int :=
  if state.inventoryAbilities slot then
    fun stat => state.varStats stat - bonus catalogue state.base id stat
  else state.varStats

/-- A move from slot to slot of an item that may turn into another one. -/
structure ShiftIsSafe (catalogue : Catalogue) (state : State) (slot target : Slot) (id : Nat) :
  Prop where
  off : state.inventoryAbilities slot → DeEquipIsClear catalogue state.base state.varStats id
  on : EquipIsSafe catalogue state.base (bonusesWithout catalogue state slot id) target id
  turns : state.inventoryAbilities slot →
    (catalogue.items id).transformDeEquipTo ≠ 0 →
      id ≠ (catalogue.items id).transformDeEquipTo →
        SameClass catalogue id (catalogue.items id).transformDeEquipTo ∧
          EquipIsSafe catalogue state.base state.varStats target
            (catalogue.items id).transformDeEquipTo ∧
          EquipIsSafe catalogue state.base
            (bonusesWithout catalogue state slot id) target
            (catalogue.items id).transformDeEquipTo ∧
          ∀ last,
            Becomes catalogue (catalogue.items id).transformDeEquipTo last →
              DeEquipIsClear catalogue state.base
                (fun stat => state.varStats stat + bonus catalogue state.base last stat)
                id

structure TransformIsSafe (catalogue : Catalogue) (state : State) (slot : Slot) (id newId : Nat) :
  Prop where
  alwaysOnTop : (catalogue.items id).alwaysOnTop = (catalogue.items newId).alwaysOnTop
  off : state.inventoryAbilities slot → DeEquipIsClear catalogue state.base state.varStats id
  on : (catalogue.items id).type = (catalogue.items newId).type →
    EquipIsSafe catalogue state.base (bonusesWithout catalogue state slot id) slot newId
  replaced : (catalogue.items id).type ≠ (catalogue.items newId).type →
    state.inventoryAbilities slot ∨ ¬ HasEquip catalogue slot newId

/--
The condition on an operation: the types are well made, percentages are taken
where nothing is cut off, and no stat of which a percentage is in use changes.
-/
def Respectful (catalogue : Catalogue) (state : State) : Operation → Prop
  | .equip slot id =>
    EquipIsSafe catalogue state.base state.varStats slot id
  | .refresh slot =>
    state.inventoryAbilities slot = false →
      ∀ id,
        state.inventory slot = some id → EquipIsSafe catalogue state.base state.varStats slot id
  | .deEquip slot _ =>
    state.inventoryAbilities slot →
      ∀ id, state.inventory slot = some id → DeEquipIsClear catalogue state.base state.varStats id
  | .shift slot target =>
    ∀ id, state.inventory slot = some id → ShiftIsSafe catalogue state slot target id
  | .transform slot newId =>
    ∀ id,
      state.inventory slot = some id → id ≠ newId → TransformIsSafe catalogue state slot id newId
  | .setBase base =>
    ∀ slot id,
      state.inventory slot = some id →
        state.inventoryAbilities slot →
          ∀ stat, bonus catalogue base id stat = bonus catalogue state.base id stat
  | .dispel _ => True

def Legal (state : State) : Operation → Prop
  | .equip slot _ => state.inventory slot = none
  | .shift _ target => state.inventory target = none
  | _ => True

def Step (catalogue : Catalogue) (state : State) (operation : Operation) (next : State) : Prop :=
  Legal state operation ∧ ∃ fuel, perform catalogue fuel state operation = some next

lemma equip_sound (sound : Sound catalogue start state) (legal : Legal state (.equip slot id))
  (respectful : Respectful catalogue state (.equip slot id))
  (done : perform catalogue fuel state (.equip slot id) = some next) :
  Sound catalogue start next := by
  rcases sound with ⟨worn, wearing⟩
  have free := wearing.free_of_empty legal
  exact (wearing.setInventory free (some id)).equip free
    (State.setInventory_inventory_self _ _ _) respectful done

lemma refresh_sound
  (sound : Sound catalogue start state) (respectful : Respectful catalogue state (.refresh slot))
  (done : perform catalogue fuel state (.refresh slot) = some next) :
  Sound catalogue start next := by
  cases used : state.inventoryAbilities slot with
  | true =>
    rw [onPlayerEquip_used used done]
    exact sound
  | false =>
    rcases sound with ⟨worn, wearing⟩
    cases held : state.inventory slot with
    | none =>
      cases fuel with
      | zero => cases done
      | succ fuel =>
        simp only [perform, onPlayerEquip, held, some.injEq] at done
        subst done
        exact ⟨worn, wearing⟩
    | some id =>
      exact wearing.equip (wearing.free_of_unused used) held (respectful used id held) done

/-- A removal, of all of the item or of a part of it. -/
lemma onPlayerDeEquip_sound
  (wearing : Wearing catalogue start worn state) (held : state.inventory slot = some id)
  (clear : state.inventoryAbilities slot → DeEquipIsClear catalogue state.base state.varStats id)
  (done :
    onPlayerDeEquip catalogue fuel (state.setInventory slot item) slot id
      isRemoval none = some next) :
  ∃ worn',
    Wearing catalogue start worn' next ∧
      worn' slot = none ∧
        next.inventory = (state.setInventory slot item).inventory ∧
          next.base = state.base ∧ next.varStats = bonusesWithout catalogue state slot id := by
  cases used : state.inventoryAbilities slot with
  | true =>
    have entered := wearing.worn_of_used held used
    have result : next = takeOff catalogue (state.setInventory slot item) slot id :=
      onPlayerDeEquip_used used (wearing.held slot id entered).2 (fun _ _ => rfl) done
    subst result
    refine ⟨_, wearing.takeOff entered (clear used) item,
      Function.update_self _ _ _, takeOff_inventory _ _ _,
      takeOff_base _ _ _, ?_⟩
    have still :
        DeEquipIsClear catalogue (state.setInventory slot item).base
          (state.setInventory slot item).varStats id :=
      clear used
    rw [bonusesWithout, if_pos used]
    exact takeOff_varStats still slot
  | false =>
    have free := wearing.free_of_unused used
    have result : next = state.setInventory slot item := onPlayerDeEquip_unused used done
    subst result
    refine ⟨worn, wearing.setInventory free item, free, rfl, rfl, ?_⟩
    rw [bonusesWithout, used]
    rfl

lemma deEquip_sound {complete : Bool} (sound : Sound catalogue start state)
  (respectful : Respectful catalogue state (.deEquip slot complete))
  (done : perform catalogue fuel state (.deEquip slot complete) = some next) :
  Sound catalogue start next := by
  rcases sound with ⟨worn, wearing⟩
  cases held : state.inventory slot with
  | none =>
    simp only [perform, held, some.injEq] at done
    subst done
    exact ⟨worn, wearing⟩
  | some id =>
    have clear := fun used => respectful used id held
    simp only [perform, held] at done
    cases complete with
    | true =>
      rcases onPlayerDeEquip_sound wearing held clear done with ⟨worn', kept, _⟩
      exact ⟨worn', kept⟩
    | false =>
      rw [if_neg Bool.false_ne_true, ← State.setInventory_eq_self held] at done
      rcases onPlayerDeEquip_sound wearing held clear done with ⟨worn', kept, _⟩
      exact ⟨worn', kept⟩

/-- Within a class: the old type is taken off and the new one put on. -/
lemma transform_within_class
  (wearing : Wearing catalogue start worn state) (held : state.inventory slot = some id)
  (clear : state.inventoryAbilities slot → DeEquipIsClear catalogue state.base state.varStats id)
  (safe : EquipIsSafe catalogue state.base (bonusesWithout catalogue state slot id) slot newId)
  (done :
    ((onPlayerDeEquip catalogue fuel state slot id false none).bind
      fun told =>
        onPlayerEquip catalogue fuel (told.setInventory slot (some newId)) slot) = some next) :
  Sound catalogue start next := by
  rcases bind_eq_some_iff.mp done with ⟨told, removal, equip⟩
  rw [← State.setInventory_eq_self held] at removal
  rcases onPlayerDeEquip_sound wearing held clear removal with
    ⟨worn', kept, free, _, base, varStats⟩
  rw [← base, ← varStats] at safe
  exact (kept.setInventory free (some newId)).equip free
    (State.setInventory_inventory_self _ _ _) safe equip

/-- Between classes: the new type is told of before the old one is taken off. -/
lemma transform_between_classes (wearing : Wearing catalogue start worn state)
  (held : state.inventory slot = some id)
  (clear : state.inventoryAbilities slot → DeEquipIsClear catalogue state.base state.varStats id)
  (replaced : state.inventoryAbilities slot ∨ ¬ HasEquip catalogue slot newId)
  (done :
    ((onPlayerEquip catalogue fuel (state.setInventory slot (some newId))
      slot).bind fun told => onPlayerDeEquip catalogue fuel told slot id true none) =
      some next) : Sound catalogue start next := by
  rcases bind_eq_some_iff.mp done with ⟨told, equip, removal⟩
  have nothing : told = state.setInventory slot (some newId) := by
    rcases replaced with used | eventless
    · exact onPlayerEquip_used used equip
    · exact onPlayerEquip_eventless (State.setInventory_inventory_self _ _ _) eventless equip
  rw [nothing] at removal
  rcases onPlayerDeEquip_sound wearing held clear removal with ⟨worn', kept, _⟩
  exact ⟨worn', kept⟩

lemma transform_sound (sound : Sound catalogue start state)
  (respectful : Respectful catalogue state (.transform slot newId))
  (done : perform catalogue fuel state (.transform slot newId) = some next) :
  Sound catalogue start next := by
  rcases sound with ⟨worn, wearing⟩
  cases fuel with
  | zero => cases done
  | succ fuel =>
    cases held : state.inventory slot with
    | none =>
      simp only [perform, transformItem, held, some.injEq] at done
      subst done
      exact ⟨worn, wearing⟩
    | some id =>
      simp only [perform, transformItem, held] at done
      by_cases same : id = newId
      · simp only [same, if_true, some.injEq] at done
        subst done
        exact ⟨worn, wearing⟩
      · have safe := respectful id held same
        rw [if_neg same, if_neg (not_not.mpr safe.alwaysOnTop)] at done
        by_cases type : (catalogue.items id).type = (catalogue.items newId).type
        · rw [if_pos type] at done
          exact transform_within_class wearing held safe.off (safe.on type) done
        · rw [if_neg type] at done
          exact transform_between_classes wearing held safe.off (safe.replaced type) done

lemma wear_setItemAbility (state : State) (ne : target ≠ slot) (id : Nat) :
  wear catalogue (state.setItemAbility slot false) target id =
    (wear catalogue state target id).setItemAbility slot false := by
  rw [wear, wear, addAbilities_eq, addAbilities_eq]
  simp only [State.setItemAbility]
  rw [Function.update_comm ne.symm]

/-- The item taken off turns into another one in the slot it has come to. -/
lemma onPlayerDeEquip_turns (ne : target ≠ slot) (used : state.inventoryAbilities slot = true)
  (unused : state.inventoryAbilities target = false) (held : state.inventory target = some id)
  (event : HasDeEquip catalogue slot id) (turns : (catalogue.items id).transformDeEquipTo ≠ 0)
  (other : id ≠ (catalogue.items id).transformDeEquipTo)
  (same : SameClass catalogue id (catalogue.items id).transformDeEquipTo)
  (tame : Tame catalogue target (catalogue.items id).transformDeEquipTo)
  (done : onPlayerDeEquip catalogue fuel state slot id true (some target) = some told) :
  ∃ last,
    Becomes catalogue (catalogue.items id).transformDeEquipTo last ∧
      (told =
          takeOff catalogue (state.setInventory target (some last)) slot id ∨
        HasDeEquip catalogue target last ∧
          told =
            takeOff catalogue
              (wear catalogue (state.setInventory target (some last)) target last)
              slot id) := by
  cases fuel with
  | zero => cases done
  | succ fuel =>
    rcases isSome_iff_exists.mp event with ⟨found, known⟩
    have place :
        (if true && (catalogue.items id).transformDeEquipTo != 0 then
          some target else none) = some target := by
      simp [turns]
    simp only [onPlayerDeEquip, known, used, Bool.not_true, if_false,
      Bool.false_eq_true, place] at done
    rcases map_eq_some_iff.mp done with ⟨transformed, turn, result⟩
    subst result
    cases fuel with
    | zero => cases turn
    | succ fuel =>
      have idle :
          (state.setItemAbility slot false).inventoryAbilities target =
            false := by
        simp [State.setItemAbility, ne, unused]
      have lies : (state.setItemAbility slot false).inventory target = some id := held
      have equip := transformItem_unused lies idle other same turn
      have placed :
          ((state.setItemAbility slot false).setInventory target
            (some (catalogue.items id).transformDeEquipTo)).inventory target =
            some (catalogue.items id).transformDeEquipTo :=
        State.setInventory_inventory_self _ _ _
      have still_idle :
          ((state.setItemAbility slot false).setInventory target
            (some (catalogue.items id).transformDeEquipTo)
            ).inventoryAbilities target = false :=
        idle
      rcases onPlayerEquip_equips fuel placed still_idle tame equip with
        ⟨last, becomes, rfl | ⟨event', rfl⟩⟩
      · refine ⟨last, becomes, .inl ?_⟩
        rw [State.setInventory_setInventory]
        rfl
      · refine ⟨last, becomes, .inr ⟨event', ?_⟩⟩
        rw [State.setInventory_setInventory]
        exact congrArg
          (fun worn => removeAbilities catalogue worn slot id)
          (wear_setItemAbility (state.setInventory target (some last)) ne last)

lemma onPlayerDeEquip_itself (used : state.inventoryAbilities slot = true)
  (held : state.inventory target = some id) (event : HasDeEquip catalogue slot id)
  (itself :
    (catalogue.items id).transformDeEquipTo ≠ 0 → id = (catalogue.items id).transformDeEquipTo)
  (done : onPlayerDeEquip catalogue fuel state slot id true (some target) = some told) :
  told = takeOff catalogue state slot id := by
  by_cases turns : (catalogue.items id).transformDeEquipTo = 0
  · exact onPlayerDeEquip_used used event (fun _ another => absurd turns another) done
  · cases fuel with
    | zero => cases done
    | succ fuel =>
      rcases isSome_iff_exists.mp event with ⟨found, known⟩
      have place :
          (if true && (catalogue.items id).transformDeEquipTo != 0 then
            some target else none) = some target := by
        simp [turns]
      simp only [onPlayerDeEquip, known, used, Bool.not_true, if_false,
        Bool.false_eq_true, place] at done
      rcases map_eq_some_iff.mp done with ⟨transformed, turn, result⟩
      subst result
      cases fuel with
      | zero => cases turn
      | succ fuel =>
        have lies : (state.setItemAbility slot false).inventory target = some id := held
        rw [← itself turns] at turn
        simp only [transformItem, lies, if_true, some.injEq] at turn
        subst turn
        rfl

lemma State.setInventory_comm (state : State) (ne : target ≠ slot) (first second : Option Nat) :
  (state.setInventory slot first).setInventory target second =
    (state.setInventory target second).setInventory slot first := by
  simp only [State.setInventory]
  rw [Function.update_comm ne.symm]

lemma wear_setInventory (state : State) (slot other : Slot) (item : Option Nat) (id : Nat) :
  wear catalogue (state.setInventory other item) slot id =
    (wear catalogue state slot id).setInventory other item := by
  rw [wear, wear, addAbilities_eq, addAbilities_eq]
  rfl

/-- The item leaves a slot where it has not been in use. -/
lemma shift_unused (wearing : Wearing catalogue start worn state) (free : worn target = none)
  (unused : state.inventoryAbilities slot = false) (ne : target ≠ slot)
  (safe : ShiftIsSafe catalogue state slot target id)
  (removal :
    onPlayerDeEquip catalogue fuel
      ((state.setInventory target (some id)).setInventory slot none) slot id
      true (some target) = some told)
  (equip : onPlayerEquip catalogue fuel told target = some next) :
  Sound catalogue start next := by
  have result : told = (state.setInventory target (some id)).setInventory slot none :=
    onPlayerDeEquip_unused unused removal
  subst result
  have left :=
    (wearing.setInventory free (some id)).setInventory (wearing.free_of_unused unused) none
  have on := safe.on
  rw [bonusesWithout, unused] at on
  refine left.equip free ?_ on equip
  rw [State.setInventory_inventory_of_ne _ _ ne]
  exact State.setInventory_inventory_self _ _ _

/-- The item is taken off and put to use, or not, in the slot it has come to. -/
lemma shift_taken_off {last : Nat} (wearing : Wearing catalogue start worn state)
  (free : worn target = none) (entered : worn slot = some id)
  (used : state.inventoryAbilities slot = true) (ne : target ≠ slot)
  (off : DeEquipIsClear catalogue state.base state.varStats id)
  (on : EquipIsSafe catalogue state.base (bonusesWithout catalogue state slot id) target last)
  (equip :
    onPlayerEquip catalogue fuel
      (takeOff catalogue
        ((state.setInventory target (some last)).setInventory slot none)
        slot id)
      target = some next) : Sound catalogue start next := by
  have moved := wearing.setInventory free (some last)
  have left := moved.takeOff entered off none
  have still :
      DeEquipIsClear catalogue
        ((state.setInventory target (some last)).setInventory slot none).base
        ((state.setInventory target (some last)).setInventory slot none).varStats id :=
    off
  rw [bonusesWithout, if_pos used] at on
  have free' : Function.update worn slot none target = none := by
    rw [Function.update_of_ne ne]
    exact free
  have held :
      (takeOff catalogue
        ((state.setInventory target (some last)).setInventory slot none)
        slot id).inventory target = some last := by
    rw [takeOff_inventory, State.setInventory_inventory_of_ne _ _ ne]
    exact State.setInventory_inventory_self _ _ _
  have safe :
      EquipIsSafe catalogue
        (takeOff catalogue
          ((state.setInventory target (some last)).setInventory slot none)
          slot id).base
        (takeOff catalogue
          ((state.setInventory target (some last)).setInventory slot none)
          slot id).varStats target last := by
    rw [takeOff_base, takeOff_varStats still]
    exact on
  exact left.equip free' held safe equip

section

variable (sound : Sound catalogue start state)
include sound

lemma shift_sound (legal : Legal state (.shift slot target))
  (respectful : Respectful catalogue state (.shift slot target))
  (done : perform catalogue fuel state (.shift slot target) = some next) :
  Sound catalogue start next := by
  rcases sound with ⟨worn, wearing⟩
  cases held : state.inventory slot with
  | none =>
    simp only [perform, held, some.injEq] at done
    subst done
    exact ⟨worn, wearing⟩
  | some id =>
    have safe := respectful id held
    have ne : target ≠ slot := by
      rintro rfl
      rw [Legal, held] at legal
      cases legal
    have free := wearing.free_of_empty legal
    simp only [perform, held] at done
    rw [State.setInventory_comm state ne] at done
    rcases bind_eq_some_iff.mp done with ⟨told, removal, equip⟩
    cases used : state.inventoryAbilities slot with
    | false =>
      exact shift_unused wearing free used ne safe removal equip
    | true =>
      have entered := wearing.worn_of_used held used
      have event := (wearing.held slot id entered).2
      have lies :
          ((state.setInventory target (some id)).setInventory slot
            none).inventory target = some id := by
        rw [State.setInventory_inventory_of_ne _ _ ne]
        exact State.setInventory_inventory_self _ _ _
      have still_used :
          ((state.setInventory target (some id)).setInventory slot
            none).inventoryAbilities slot = true :=
        used
      have still_unused :
          ((state.setInventory target (some id)).setInventory slot
            none).inventoryAbilities target = false :=
        wearing.unused free
      by_cases turns :
          (catalogue.items id).transformDeEquipTo ≠ 0 ∧
            id ≠ (catalogue.items id).transformDeEquipTo
      · rcases safe.turns used turns.1 turns.2 with ⟨same, early, late, off⟩
        rcases onPlayerDeEquip_turns ne still_used
            still_unused lies event turns.1 turns.2 same
            early.tame removal with
          ⟨last, becomes, outcome⟩
        rw [State.setInventory_comm _ ne, State.setInventory_setInventory] at outcome
        rcases outcome with rfl | ⟨event', rfl⟩
        · exact shift_taken_off wearing free entered used ne
            (safe.off used) (late.becomes becomes) equip
        · rw [wear_setInventory] at equip
          have clear := early.clear last becomes
          have worn_there :=
            (wearing.setInventory free (some last)).wear free
              (State.setInventory_inventory_self _ _ _) event' clear
          have clear_here :
              EquipIsClear catalogue
                (state.setInventory target (some last)).base
                (state.setInventory target (some last)).varStats last :=
            clear
          have still :
              DeEquipIsClear catalogue
                (wear catalogue (state.setInventory target (some last)) target last).base
                (wear catalogue (state.setInventory target (some last))
                  target last).varStats id := by
            rw [wear_base, wear_varStats clear_here]
            exact off last becomes
          have left :=
            worn_there.takeOff
              (by
                rw [Function.update_of_ne ne.symm]
                exact entered)
              still none
          have in_use := left.accounts.enabled target
          rw [Function.update_of_ne ne, Function.update_self] at in_use
          rw [onPlayerEquip_used in_use equip]
          exact ⟨_, left⟩
      · have result :=
          onPlayerDeEquip_itself still_used lies event
            (fun another => by
              by_contra other
              exact turns ⟨another, other⟩)
            removal
        rw [result] at equip
        exact shift_taken_off wearing free entered used ne (safe.off used) safe.on equip

lemma setBase_sound (respectful : Respectful catalogue state (.setBase base)) :
  Sound catalogue start { state with base := base } := by
  rcases sound with ⟨worn, wearing⟩
  have accounts := wearing.accounts
  refine ⟨worn, ⟨accounts.enabled, accounts.skills, ?_, accounts.speed,
    accounts.suppressions, accounts.conditions⟩, wearing.held⟩
  intro stat
  rw [accounts.stats]
  congr 1
  apply total_congr
  intro slot id entered
  have used : state.inventoryAbilities slot = true := by
    rw [accounts.enabled, entered]
    rfl
  exact (respectful slot id (wearing.held slot id entered).1 used stat).symm

lemma dispel_sound (type : ConditionType) :
  Sound catalogue start
    { state with
      conditions := fun slot => Function.update (state.conditions slot) type none } := by
  rcases sound with ⟨worn, wearing⟩
  have accounts := wearing.accounts
  refine ⟨worn, ⟨accounts.enabled, accounts.skills, accounts.stats,
    accounts.speed, accounts.suppressions, ?_⟩, wearing.held⟩
  intro slot other given
  by_cases same : other = type
  · subst same
    have given' : (Function.update (state.conditions slot) other none other).isSome = true := given
    rw [Function.update_self] at given'
    cases given'
  · have given' : (Function.update (state.conditions slot) type none other).isSome = true := given
    rw [Function.update_of_ne same] at given'
    exact accounts.conditions slot other given'

end

/-- A player without equipment, and without anything that equipment gives. -/
structure Fresh (state : State) : Prop where
  inventory : ∀ slot, state.inventory slot = none
  enabled : ∀ slot, state.inventoryAbilities slot = false
  suppressions : state.conditionSuppressions = 0
  conditions : ∀ slot type, state.conditions slot type = none

lemma Fresh.sound (fresh : Fresh state) : Sound catalogue state state := by
  refine ⟨fun _ => none, ⟨?_, ?_, ?_, ?_, ?_, ?_⟩, ?_⟩
  · intro slot
    rw [fresh.enabled]
    rfl
  · intro skill
    rw [total_eq_zero _ (fun _ => rfl), Int.add_zero]
  · intro stat
    rw [total_eq_zero _ (fun _ => rfl), Int.add_zero]
  · rw [total_eq_zero _ (fun _ => rfl), Int.add_zero]
  · intro index set
    rw [fresh.suppressions] at set
    simp at set
  · intro slot type given
    rw [fresh.conditions] at given
    cases given
  · intro slot id entered
    cases entered

lemma Sound.step {operation : Operation} (sound : Sound catalogue start state)
  (respectful : Respectful catalogue state operation)
  (taken : Step catalogue state operation next) : Sound catalogue start next := by
  rcases taken with ⟨legal, fuel, done⟩
  cases operation with
  | equip slot id => exact equip_sound sound legal respectful done
  | refresh slot => exact refresh_sound sound respectful done
  | deEquip slot complete => exact deEquip_sound sound respectful done
  | shift slot target => exact shift_sound sound legal respectful done
  | transform slot newId => exact transform_sound sound respectful done
  | setBase base =>
    cases done
    exact setBase_sound sound respectful
  | dispel type =>
    cases done
    exact dispel_sound sound type

/--
In every respectful run each worn item counts once and only once in what the
player has beyond the start, and once every item has been taken off nothing is
left of them.
-/
theorem equipment_leaves_no_residue (catalogue : Catalogue) (start finish : State)
  (fresh : Fresh start) (run : Reaches (Step catalogue) (Respectful catalogue) start finish) :
  (∃ worn : Slot → Option Nat,
      (∀ slot id, worn slot = some id → finish.inventory slot = some id) ∧
        Accounts catalogue start worn finish) ∧
    ((∀ slot, finish.inventory slot = none) →
      finish.varSkills = start.varSkills ∧
        finish.varStats = start.varStats ∧
          finish.varSpeed = start.varSpeed ∧
            finish.conditionSuppressions = start.conditionSuppressions ∧
              finish.conditions = start.conditions) := by
  have sound : Sound catalogue start finish := by
    apply run.invariant fresh.sound
    intro state operation next holds respectful taken
    exact holds.step respectful taken
  rcases sound with ⟨worn, wearing⟩
  refine ⟨⟨worn, fun slot id entered => (wearing.held slot id entered).1, wearing.accounts⟩, ?_⟩
  intro empty
  rcases wearing.accounts.cleared
      (fun slot => wearing.free_of_empty (empty slot)) with
    ⟨skills, stats, speed, suppressions, conditions⟩
  refine ⟨skills, stats, speed, ?_, ?_⟩
  · rw [suppressions, fresh.suppressions]
  · funext slot type
    rw [conditions, fresh.conditions]

/-! ## A ring that doubles the hit points -/

def doubling : Abilities where
  skills _ := 0
  stats _ := 0
  statsPercent stat := if stat = .maxHitPoints then 200 else 0
  speed := 0
  manaShield := false
  invisible := false
  regeneration := false
  healthGain := 0
  healthTicks := 0
  manaGain := 0
  manaTicks := 0
  conditionSuppressions := 0

def ringEvent : MoveEvent where
  slot slot := slot = .ring
  wieldInfo := 0
  reqLevel := 0
  reqMagLevel := 0
  premium := false
  vocEquipMap := []

def rings : Catalogue where
  items _ := ⟨doubling, 0, 0, 0, false⟩
  equipEvents _ := [ringEvent]
  deEquipEvents _ := [ringEvent]
  percentOf stat percent := stat * (percent - 100) / 100
  landing _ _ := none

def novice (healthMax : Int) : Base where
  level := 1
  healthMax := healthMax
  manaMax := 0
  magLevel := 0
  vocation := 0
  isPremium := false
  ignoreWeaponCheck := false

def bare : State where
  base := novice 100
  inventory _ := none
  inventoryAbilities _ := false
  varSkills _ := 0
  varStats _ := 0
  varSpeed := 0
  conditionSuppressions := 0
  conditions _ _ := none

lemma bare_fresh : Fresh bare :=
  ⟨fun _ => rfl, fun _ => rfl, rfl, fun _ _ => rfl⟩

def ringed : State :=
  addAbilities rings ((bare.setInventory .ring (some 1)).setItemAbility .ring true) .ring 1

def unringed (state : State) : State :=
  removeAbilities rings ((state.setInventory .ring none).setItemAbility .ring false) .ring 1

lemma bare_equip : Step rings bare (.equip .ring 1) ringed :=
  ⟨rfl, 1, rfl⟩

lemma ringed_deEquip (base : Base) :
  Step rings { ringed with base := base } (.deEquip .ring true)
    (unringed { ringed with base := base }) :=
  ⟨trivial, 1, rfl⟩

/-- Putting the ring on and taking it off leaves nothing behind. -/
theorem equipment_leaves_no_residue_of_ring : (unringed ringed).varStats = bare.varStats := by
  have on : Respectful rings bare (.equip .ring 1) := by
    refine ⟨?_, ?_⟩
    · intro last _ event
      exact ⟨event, fun turns => absurd rfl turns⟩
    · intro last _ stat _
      show stat.least ≤ bare.base.stat stat + (bare.varStats stat + doubling.stats stat)
      cases stat <;> decide
  have off : Respectful rings ringed (.deEquip .ring true) := by
    intro _ id held stat _
    show stat.least ≤ ringed.base.stat stat + (ringed.varStats stat - doubling.stats stat)
    cases stat <;> decide
  have empty : ∀ slot, (unringed ringed).inventory slot = none := by
    intro slot
    cases slot <;> rfl
  exact ((equipment_leaves_no_residue rings bare (unringed ringed) bare_fresh
    (.tail (.tail .refl on bare_equip) off (ringed_deEquip ringed.base))).2 empty).2.1

/--
The player gains hit points while the ring is on, and loses more than the ring
has given when it is taken off.
-/
theorem ring_leaves_residue :
  Fresh bare ∧
    ∃ finish,
      Reaches (Step rings) Always bare finish ∧
        (∀ slot, finish.inventory slot = none) ∧ finish.varStats .maxHitPoints = -100 := by
  refine ⟨bare_fresh, unringed { ringed with base := novice 200 }, ?_, ?_, ?_⟩
  · have grown : Step rings ringed (.setBase (novice 200)) { ringed with base := novice 200 } :=
      ⟨trivial, 0, rfl⟩
    exact .tail (.tail (.tail .refl trivial bare_equip) trivial grown) trivial
      (ringed_deEquip (novice 200))
  · intro slot
    cases slot <;> rfl
  · decide

end OTServ.Movement.Equipment
