import OTServ.Items.MoveSteps

/-!
# Moves keep the items

A move that does not fail takes units from the source and adds as many of the
same type to the destination, whether they fill up a stack there, become a new
one or move as they are.  An item that has been handed over before goes the
other way in the same manner.
-/

namespace OTServ.Items

open Library.Placements
open Map
open List Option

variable {env : Env} {world changed : World} {fromCylinder : Cylinder} {item count : Nat}

/-! ## From the removal to the addition -/

/-- The destination has a stack to fill up, a place for the item, or both. -/
structure Accepts (env : Env) (world : World) (found : Destination) (item m : Nat)
  (toItem : Option Nat) : Prop where
  ready : Ready world found.cylinder
  listed : ∀ target, toItem = some target → target ≠ item ∧ target ∈ world.listing found.cylinder
  room :
    HasRoom world found.index found.cylinder ∨
      ∃ target,
        toItem = some target ∧
          (world.item target).id = (world.item item).id ∧
            world.isStackable env.items item ∧ m ≤ room (world.item target).count

/-- Some units have filled up a stack; the others are in a new one. -/
structure Splits (env : Env) (before : World) (cylinder : Cylinder) (item m : Nat)
  (toItem : Option Nat) (split : Split) : Prop where
  filled :
    ∃ n : Nat,
      Shifts env.items cylinder (before.item item).id n before split.world ∧
        match split.moveItem with
        | none => n = m
        | some new =>
          Loose env.items split.world new ∧
            (split.world.item new).id = (before.item item).id ∧
              n + (split.world.item new).count = m
  leavesRoom : LeavesRoom before split.world
  enough :
    ∀ target,
      toItem = some target →
        (before.item target).id = (before.item item).id →
          m ≤ room (before.item target).count → split.moveItem = none

variable {cylinder toCylinder : Cylinder} {m id : Nat} {toItem : Option Nat} {split : Split}
  {found : Destination} {moved : Relocated} {index : Int}

section

variable (plain : PlainStacks env.items)
include plain

/-- The rest that does not fit into a stack becomes a new one. -/
lemma createRest_splits {before : World} {n : Nat} {updateItem : Option Nat}
  (stackable : before.isStackable env.items item) (few : m ≤ 100) (part : n ≤ m)
  (wellFormed : WellFormed env.items world)
  (shifts : Shifts env.items cylinder (before.item item).id n before world)
  (leavesRoom : LeavesRoom before world)
  (enough :
    ∀ target,
      toItem = some target →
        (before.item target).id = (before.item item).id →
          m ≤ room (before.item target).count → n = m)
  (done :
    (if 0 < m - n then
        let created := world.createItem env.items (before.item item).id (m - n)
        (⟨created.1, updateItem, created.2⟩ : Split)
      else ⟨none, updateItem, world⟩) = split) :
  Splits env before cylinder item m toItem split := by
  by_cases rest : 0 < m - n
  · rw [if_pos rest] at done
    subst done
    have known : (env.items (before.item item).id).known := plain.known _ stackable
    have created :
        (world.createItem env.items (before.item item).id (m - n)).1 =
            some world.next ∧
          Creates world
            (world.createItem env.items (before.item item).id (m - n)).2
            world.next
            (World.newMatter env.items (before.item item).id (m - n)) :=
      createItem_creates (wellFormed.fresh _ (le_refl _)) known
    rcases created with ⟨new, creates⟩
    have few' : m - n ≤ 100 := by omega
    have loose := creates.loose plain stackable rest few' wellFormed
    refine ⟨⟨n, ?_, ?_⟩, ?_, ?_⟩
    · have step := shifts.trans (creates.shifts wellFormed cylinder _)
      exact step
    · dsimp only
      rw [new]
      exact ⟨loose.1, loose.2.1, by rw [loose.2.2]; omega⟩
    · exact leavesRoom.trans creates.leavesRoom
    · intro target there same fits
      have whole := enough target there same fits
      omega
  · rw [if_neg rest] at done
    subst done
    have whole : n = m := by omega
    exact ⟨⟨n, shifts, whole⟩, leavesRoom, fun _ _ _ _ => rfl⟩

lemma splitStack_splits (wellFormed : WellFormed env.items world)
  (stackable : world.isStackable env.items item) (few : m ≤ 100)
  (listed : ∀ target, toItem = some target → target ∈ world.listing cylinder)
  (done : splitStack env world cylinder item m toItem = some split) :
  Splits env world cylinder item m toItem split := by
  have untouched : Shifts env.items cylinder (world.item item).id (0 : Nat) world world :=
    (SameStock.refl world).shifts wellFormed cylinder _
  rcases map_eq_some_iff.mp done with ⟨⟨n, updateItem, raised⟩, merged, rest⟩
  cases toItem with
  | none =>
    cases merged
    exact createRest_splits plain stackable few (Nat.zero_le m) wellFormed
      untouched (.refl world) (fun _ impossible => by cases impossible) rest
  | some target =>
    dsimp only at merged
    split at merged
    · rename_i same
      rcases map_eq_some_iff.mp merged with ⟨filled, fill, result⟩
      cases result
      have member := listed target rfl
      have held := wellFormed.counts target (by
        rw [(wellFormed.given member).1]
        exact some_ne_none _)
      have stacked : world.isStackable env.items target := by
        rw [Stock.isStackable, Stock.itemType, same]
        exact stackable
      have capacity := room_eq held.2
      rw [← same] at fill
      have filling :=
        updateThing_shifts plain wellFormed member stacked (by rw [capacity]; omega) fill
      rw [same] at filling
      refine createRest_splits plain stackable few (Nat.min_le_right _ m)
        filling.1.wellFormed filling.1 filling.2.1 ?_ rest
      rintro other ⟨⟩ _ fits
      exact Nat.min_eq_right fits
    · rename_i ne
      cases merged
      refine createRest_splits plain stackable few (Nat.zero_le m)
        wellFormed untouched (.refl world) ?_ rest
      rintro other ⟨⟩ same _
      exact absurd same ne

/-- The source gives units of the type, and the destination gets them. -/
lemma relocate_shifts (wellFormed : WellFormed env.items world)
  (ordinary : Ordinary env.items world.toStock item) (mem : item ∈ world.listing fromCylinder)
  (enough : world.isStackable env.items item → m ≤ (world.item item).count)
  (accepts : Accepts env world found item m toItem)
  (done : relocate env world fromCylinder found item m toItem = some moved) :
  ∃ removed,
    Shifts env.items fromCylinder (world.item item).id
        (-(unitsGiven env world item m)) world removed ∧
      Shifts env.items found.cylinder (world.item item).id
        (unitsGiven env world item m) removed moved.world := by
  have held := wellFormed.counts item (by
    rw [(wellFormed.given mem).1]
    exact some_ne_none _)
  rcases bind_eq_some_iff.mp done with ⟨removed, removal, further⟩
  rcases bind_eq_some_iff.mp further with ⟨complete, _, onward⟩
  rcases bind_eq_some_iff.mp onward with ⟨split, splitting, adding⟩
  have gives := removeThing_gives plain wellFormed mem enough removal
  have ready := gives.shifts.ready _ accepts.ready
  have sameStackable : removed.isStackable env.items item = world.isStackable env.items item := by
    rw [Stock.isStackable, Stock.isStackable, Stock.itemType, Stock.itemType, gives.id]
  refine ⟨removed, gives.shifts, ?_⟩
  by_cases stackable : world.isStackable env.items item
  · rw [sameStackable, if_pos stackable] at splitting
    rw [unitsGiven, if_pos stackable]
    have splits :=
      splitStack_splits plain gives.shifts.wellFormed
        (by rw [sameStackable]; exact stackable)
        ((enough stackable).trans held.2)
        (fun target there =>
          gives.listed _ _ (accepts.listed target there).1 (accepts.listed target there).2)
        splitting
    rcases splits.filled with ⟨n, shifts, rest⟩
    rw [gives.id] at shifts rest
    cases new : split.moveItem with
    | none =>
      rw [new] at rest adding
      cases adding
      rw [← rest]
      exact shifts
    | some moveItem =>
      rw [new] at rest adding
      rcases map_eq_some_iff.mp adding with ⟨added, addition, rfl⟩
      rcases rest with ⟨loose, id, total⟩
      have free : HasRoom world found.index found.cylinder := by
        rcases accepts.room with free | ⟨target, there, same, _, fits⟩
        · exact free
        · have other := (accepts.listed target there).1
          have matter := gives.others target other
          have none_left :=
            splits.enough target there
              (by rw [gives.id, matter]; exact same)
              (by rw [matter]; exact fits)
          rw [new] at none_left
          cases none_left
      have room := (free.mono gives.leavesRoom accepts.ready).mono splits.leavesRoom ready
      have step := addThing_shifts shifts.wellFormed (shifts.ready _ ready) room loose addition
      rw [id] at step
      have both := shifts.trans step
      have sum : (n : Int) + ((split.world.item moveItem).count : Nat) = m := by
        omega
      rw [sum] at both
      exact both
  · have single : world.isStackable env.items item = false := Bool.eq_false_iff.mpr stackable
    rw [sameStackable, if_neg stackable] at splitting
    cases splitting
    rcases map_eq_some_iff.mp adding with ⟨added, addition, rfl⟩
    rcases gives.whole single with ⟨matter, free⟩
    have sameCount : (removed.item item).count = (world.item item).count := by
      rw [matter]
    have loose : Loose env.items removed item := by
      refine ⟨ordinary.congr matter, free, ?_, ?_⟩
      · rw [gives.next]
        exact (wellFormed.given mem).2
      · rw [sameCount]
        exact held
    have room : HasRoom removed found.index found.cylinder := by
      rcases accepts.room with free | ⟨_, _, _, stacked, _⟩
      · exact free.mono gives.leavesRoom accepts.ready
      · exact absurd stacked stackable
    have step := addThing_shifts gives.shifts.wellFormed ready room loose addition
    rw [gives.id, sameCount] at step
    rw [unitsGiven, if_neg stackable]
    exact step

end

/-! ## What the destination has answered -/

def Suits (world : World) (found : Destination) (toItem : Option Nat) : Prop :=
  match found.cylinder with
  | .tile position =>
    ∀ target, toItem = some target → target ∈ world.listing (.tile position)
  | .player id => toItem = inventoryItem world id found.index
  | .item pointer =>
    found.index < (world.item pointer).maxSize ∧
      ∀ target, toItem = some target → target ∈ world.listing (.item pointer)

lemma Destination.Fits.suits (fits : found.Fits world) (ready : Ready world found.cylinder) :
  Suits world found found.toItem := by
  rcases found with ⟨cylinder, index, toItem, flags⟩
  cases cylinder with
  | tile position =>
    intro target there
    have top : toItem = topDownItem world position := fits
    have held : toItem = some target := there
    rw [held] at top
    rcases bind_eq_some_iff.mp top.symm with ⟨tile, here, first⟩
    rw [listing_tile here, Tile.things]
    exact mem_append_right _ (mem_of_head? first)
  | player id => exact fits.1
  | item pointer => exact fits ready.1

def Env.NeverExchanges (env : Env) : Prop :=
  ∀ world id item index, env.canPlayerWearEquip world id item index ≠ .needExchange

lemma cannotBeDressed_ne_needExchange (pos : SlotPosition) :
  cannotBeDressed pos ≠ .needExchange := by
  rw [cannotBeDressed]
  split_ifs <;> decide

lemma dressHand_ne_needExchange (id other : Nat) :
  dressHand env world id other item count ≠ .needExchange := by
  rw [dressHand]
  split
  · decide
  · dsimp only
    split_ifs <;> decide

lemma dress_ne_needExchange (id : Nat) (index : Int) :
  dress env world id index item count ≠ .needExchange := by
  have wrong := cannotBeDressed_ne_needExchange (world.itemType env.items item).slotPosition
  have hand : ∀ other,
      dressHand env world id other item count ≠ .needExchange :=
    fun other => dressHand_ne_needExchange id other
  simp only [dress]
  split
  all_goals first
    | decide
    | (split_ifs
       · first
         | decide
         | exact hand _
       · exact wrong)

/-- What may be put on, if need be in an exchange, has a slot of its own. -/
lemma playerQueryAdd_slot
  {flags : Flags} (never : env.NeverExchanges) (unset : flags.childIsOwner = false)
  (asked :
    playerQueryAdd env world id index item count flags = some .noError ∨
      playerQueryAdd env world id index item count flags = some .needExchange) :
  needsExchange env world id index item = true ∧
      playerQueryAdd env world id index item count flags = some .needExchange ∨
    dress env world id index item count = .noError ∧
      needsExchange env world id index item = false ∧
        playerQueryAdd env world id index item count flags = some .noError := by
  have answer :
      ∀ ret,
        playerQueryAdd env world id index item count flags = some ret →
          ret = .noError ∨ ret = .needExchange →
            needsExchange env world id index item = true ∧
                ret = .needExchange ∨
              dress env world id index item count = .noError ∧
                needsExchange env world id index item = false ∧ ret = .noError := by
    intro ret done kind
    rw [playerQueryAdd, unset] at done
    dsimp only at done
    split at done
    · rename_i owner
      cases owner
    · split at done
      · cases done
        rcases kind with impossible | impossible <;> cases impossible
      · split at done
        · split at done
          · rename_i needed
            cases done
            exact .inl ⟨needed, rfl⟩
          · rename_i free
            have free' := Bool.eq_false_iff.mpr free
            split at done
            · rename_i worn
              cases done
              rcases kind with fine | exchanged
              · exact absurd fine worn
              · exact absurd exchanged (never _ _ _ _)
            · rcases map_eq_some_iff.mp done with ⟨fits, _, rfl⟩
              split at kind
              · rcases kind with fine | exchanged
                · right
                  refine ⟨fine, free', ?_⟩
                  rename_i carried
                  rw [if_pos carried, fine]
                · exact absurd exchanged (dress_ne_needExchange id index)
              · rcases kind with impossible | impossible <;> cases impossible
        · rename_i unfit
          cases done
          rcases kind with fine | exchanged
          · exact absurd (.inl fine) unfit
          · exact absurd exchanged (dress_ne_needExchange id index)
  rcases asked with accepted | needed
  · rcases answer _ accepted (.inl rfl) with ⟨_, impossible⟩ | fine
    · cases impossible
    · exact .inr ⟨fine.1, fine.2.1, accepted⟩
  · rcases answer _ needed (.inr rfl) with exchanged | ⟨_, _, impossible⟩
    · exact .inl ⟨exchanged.1, needed⟩
    · cases impossible

lemma isSlot_of_dress
  (fine : dress env world id index item count = .noError) : isSlot index := by
  simp only [dress] at fine
  split at fine
  all_goals first
    | rfl
    | cases fine

lemma inventoryItem_listed {held : Nat} (there : inventoryItem world id index = some held) :
  isSlot index ∧ world.inventory id index.toNat = some held ∧
    held ∈ world.listing (.player id) := by
  rw [inventoryItem] at there
  split at there
  · rename_i slot
    refine ⟨slot, there, ?_⟩
    have bounds : 1 ≤ index ∧ index < 11 := by
      simpa [isSlot] using slot
    apply mem_filterMap.mpr
    refine ⟨index.toNat, ?_, there⟩
    rw [slots]
    simp only [mem_cons, not_mem_nil, or_false]
    omega
  · cases there

/-- Where the move may go on, there is room for what is moved. -/
lemma Suits.accepts (never : env.NeverExchanges) (unset : found.flags.childIsOwner = false)
  (ready : Ready world found.cylinder) (suits : Suits world found toItem)
  (other : toItem ≠ some item)
  (asked :
    queryAdd env world found.cylinder found.index item count found.flags =
        some .noError ∨
      queryAdd env world found.cylinder found.index item count found.flags = some .needExchange)
  (positive :
    unitsToMove env world item count
      (queryMaxCount env world found.cylinder found.index item count found.flags).2 ≠ 0) :
  Accepts env world found item
    (unitsToMove env world item count
      (queryMaxCount env world found.cylinder found.index item count found.flags).2)
    toItem := by
  rcases found with ⟨cylinder, index, found, flags⟩
  have ne : ∀ target, toItem = some target → target ≠ item := by
    rintro target rfl rfl
    exact other rfl
  cases cylinder with
  | tile pos =>
    exact ⟨ready, fun target there => ⟨ne target there, suits target there⟩, .inl trivial⟩
  | item pointer =>
    exact ⟨ready, fun target there => ⟨ne target there, suits.2 target there⟩, .inl suits.1⟩
  | player id =>
    have here : toItem = inventoryItem world id index := suits
    refine ⟨ready, ?_, ?_⟩
    · intro target there
      rw [here] at there
      exact ⟨ne target (here.trans there), (inventoryItem_listed there).2.2⟩
    · cases held : inventoryItem world id index with
      | none =>
        left
        rcases playerQueryAdd_slot never unset asked with ⟨needed, _⟩ | ⟨fine, _⟩
        · rw [needsExchange, held] at needed
          cases needed
        · have slot := isSlot_of_dress fine
          rw [inventoryItem, if_pos slot] at held
          exact ⟨slot, held⟩
      | some target =>
        right
        simp only [queryMaxCount, playerQueryMaxCount, held] at positive ⊢
        by_cases merges :
            world.isStackable env.items target ∧ (world.item item).id = (world.item target).id
        · have stackable : world.isStackable env.items item := by
            rw [Stock.isStackable, Stock.itemType, merges.2]
            exact merges.1
          refine ⟨target, here.trans held, merges.2.symm, stackable, ?_⟩
          simp only [if_pos merges, unitsToMove, if_pos stackable]
          split
          · exact Nat.min_le_right _ _
          · exact Nat.min_le_right _ _
        · exfalso
          apply positive
          simp only [if_neg merges, unitsToMove]
          split_ifs <;> simp

/-! ## Handing over -/

lemma addThing_inventory
  (place : HasPlace env world cylinder index item) (away : ∀ id, cylinder ≠ .player id)
  (done : addThing env world cylinder index item = some changed) :
  changed.inventory = world.inventory := by
  cases cylinder with
  | tile pos =>
    rcases place with ⟨present, group, splash, field⟩
    rcases isSome_iff_exists.mp present with ⟨tile, here⟩
    cases done
    simp only [tileAddThing, here, group, splash, field, if_false]
    split
    · simp only [addTopItem, here]
      rfl
    · simp only [addDownItem, here]
      rfl
  | player id => exact absurd rfl (away id)
  | item pointer =>
    rcases place with ⟨container, fits⟩
    rw [Stock.isContainer] at container
    have contained :
        containerAddThing env world pointer index item = some changed →
          changed.inventory = world.inventory := by
      intro added
      rw [containerAddThing, if_neg (not_le.mpr fits)] at added
      rw [World.updateItemWeight_toStock added]
      rfl
    cases itemClass : (world.item pointer).itemClass with
    | container =>
      simp only [addThing, itemClass] at done
      exact contained done
    | depot =>
      simp only [addThing, itemClass] at done
      exact contained done
    | _ =>
      rw [itemClass] at container
      cases container

lemma HandsOver.not_player
  {toItem : Nat} (plain : PlainStacks env.items) (never : env.NeverExchanges)
  (unset : found.flags.childIsOwner = false) (fits : found.Fits world)
  (hands : HandsOver env world fromCylinder item count found toItem changed)
  (id : Nat) : fromCylinder ≠ .player id := by
  rintro rfl
  have welcome := hands.welcome
  have needed := hands.needed
  have accepted :
      dress env world id (getIndexOfThing world (.player id) item) toItem
            (world.item toItem).count = .noError ∧
        needsExchange env world id (getIndexOfThing world (.player id) item) toItem = false := by
    rcases playerQueryAdd_slot never rfl (.inl welcome) with ⟨_, impossible⟩ | fine
    · have both := welcome.symm.trans impossible
      cases both
    · exact ⟨fine.1, fine.2.1⟩
  have slot := isSlot_of_dress accepted.1
  -- so the item itself is worn, and what comes in exchange is a stack of it
  have worn :
      world.isStackable env.items item ∧ (world.item item).id = (world.item toItem).id := by
    by_cases listed : item ∈ world.listing (.player id)
    · rcases getIndexOfThing_player listed with ⟨here, _, held, index⟩
      have free := accepted.2
      rw [index] at slot free
      rw [needsExchange, inventoryItem, if_pos slot, Int.toNat_natCast, held] at free
      simpa using free
    · rw [getIndexOfThing_player_none listed] at slot
      cases slot
  have stackable : world.isStackable env.items toItem := by
    rw [Stock.isStackable, Stock.itemType, ← worn.2]
    exact worn.1
  rcases found with ⟨cylinder, index, there, flags⟩
  cases cylinder with
  | player other =>
    have occupied := hands.occupied
    have held : inventoryItem world other index = some toItem := fits.1.symm.trans occupied
    rcases playerQueryAdd_slot never unset (.inr needed) with ⟨exchanged, _⟩ | ⟨_, _, impossible⟩
    · rw [needsExchange, held] at exchanged
      simp [stackable, worn.2] at exchanged
    · have both := needed.symm.trans impossible
      cases both
  | tile pos =>
    have hangable : (world.itemType env.items item).isHangable = false := plain.isHangable _ worn.1
    simp only [queryAdd, tileQueryAdd] at needed
    split at needed
    · cases needed
    · split at needed
      · cases needed
      · split at needed
        · cases needed
        · split at needed
          · cases needed
          · rcases map_eq_some_iff.mp needed with ⟨_, _, answer⟩
            rw [hangable] at answer
            split at answer <;> cases answer
  | item pointer =>
    exact (holds_of_needExchange needed).2 pointer rfl

lemma HandsOver.room {toItem : Nat} (source : Ready world fromCylinder)
  (positive : 1 ≤ (world.item toItem).count) (away : ∀ id, fromCylinder ≠ .player id)
  (hands : HandsOver env world fromCylinder item count found toItem changed) :
  HasRoom world 0 fromCylinder := by
  cases fromCylinder with
  | tile pos => exact trivial
  | player id => exact absurd rfl (away id)
  | item pointer =>
    have fits := hands.fits
    have container : world.isContainer pointer = true := source.1
    show (0 : Int) < (world.item pointer).maxSize
    by_contra none_left
    have size : (world.item pointer).maxSize = 0 := by omega
    apply fits
    have noLimit : Flags.none.noLimit = false := rfl
    simp only [queryMaxCount, container, if_true, containerQueryMaxCount,
      noLimit, size, Nat.zero_sub, Nat.zero_mul, Bool.false_eq_true,
      if_false, ne_eq, not_true]
    split
    · rw [if_pos (by show (0 + 0) % 2 ^ 32 < _; omega)]
      exact ⟨by decide, rfl⟩
    · exact ⟨by decide, rfl⟩

section

variable (quiet : env.Quiet)
include quiet

lemma handOver_steps
  {toItem : Nat} (done : handOver env world fromCylinder toCylinder toItem = some changed) :
  ∃ removed added,
    removeThing env world toCylinder toItem (world.item toItem).count =
        some removed ∧
      addThing env removed fromCylinder 0 toItem = some added ∧
        (Ready added fromCylinder → SameStock added changed) := by
  rcases bind_eq_some_iff.mp done with ⟨removed, removal, rest⟩
  rcases bind_eq_some_iff.mp rest with ⟨added, addition, telling⟩
  rcases bind_eq_some_iff.mp telling with ⟨told, early, late⟩
  refine ⟨removed, added, removal, addition, ?_⟩
  intro ready
  have first : SameStock added told := by
    split at early
    · exact notifyRemoved_same quiet early
    · cases early
      exact .refl added
  have second : SameStock told changed := by
    dsimp only at late
    split at late
    · exact notifyAdded_same quiet (ready.congr first).inert late
    · cases late
      exact .refl _
  exact first.trans second

/-- The exchange keeps the items, and leaves the slot of the item empty. -/
lemma HandsOver.keeps {toItem : Nat} (plain : PlainStacks env.items) (never : env.NeverExchanges)
  (unset : found.flags.childIsOwner = false) (wellFormed : WellFormed env.items world)
  (fits : found.Fits world) (source : Ready world fromCylinder)
  (ordinary : Ordinary env.items world.toStock toItem)
  (hands : HandsOver env world fromCylinder item count found toItem changed) :
  Keeps env.items fromCylinder found.cylinder world changed ∧
    (∀ cylinder, Ready world cylinder → Ready changed cylinder) ∧
      (∀ other,
        (changed.item other).toMatter = (world.item other).toMatter) ∧
        Suits changed found none := by
  have away := hands.not_player plain never unset fits
  have holds := (holds_of_needExchange hands.needed).1
  have member := (queryRemove_member wellFormed.toOrderly holds hands.movable).1
  have held := wellFormed.counts toItem (by
    rw [(wellFormed.given member).1]
    exact some_ne_none _)
  rcases handOver_steps quiet hands.handedOver with ⟨removed, added, removal, addition, telling⟩
  rcases removeThing_takes wellFormed.toOrderly.sorted member
      (fun part => part.2 rfl) removal with ⟨takes, next⟩
  have shifts := takes.shifts next wellFormed
  have ready := shifts.ready _ source
  have leavesRoom : LeavesRoom world removed :=
    ⟨removeThing_inventory removal, fun pointer _ => by
      rw [takes.matter], next.ge⟩
  have room := (hands.room source held.1 away).mono leavesRoom source
  have loose : Loose env.items removed toItem := by
    refine ⟨ordinary.congr (takes.matter toItem), ?_, ?_, ?_⟩
    · rw [takes.parent, if_pos rfl]
    · rw [next]
      exact (wellFormed.given member).2
    · rw [takes.matter]
      exact held
  have puts := (addThing_puts (hasPlace ready room loose.ordinary) addition).1
  have adds := addThing_shifts shifts.wellFormed ready room loose addition
  have same := telling (adds.ready _ ready)
  have back : Shifts env.items fromCylinder (world.item toItem).id
      (world.item toItem).count removed changed := by
    have both := adds.trans (same.shifts adds.wellFormed fromCylinder _)
    rw [takes.matter, add_zero] at both
    exact both
  refine ⟨(shifts.keeps back).symm, ?_, ?_, ?_⟩
  · intro cylinder isReady
    exact back.ready cylinder (shifts.ready cylinder isReady)
  · intro other
    rw [same.stock, puts.matter, takes.matter]
  · rcases found with ⟨cylinder, index, there, flags⟩
    cases cylinder with
    | tile pos =>
      intro target impossible
      cases impossible
    | item pointer =>
      exact absurd rfl ((holds_of_needExchange hands.needed).2 pointer)
    | player id =>
      show none = inventoryItem changed id index
      have inventory : changed.inventory = removed.inventory := by
        rw [same.stock]
        exact addThing_inventory (hasPlace ready room loose.ordinary) away addition
      cases still : inventoryItem changed id index with
      | none => rfl
      | some other =>
        exfalso
        have occupied := hands.occupied
        have before : inventoryItem world id index = some toItem := fits.1.symm.trans occupied
        have lies := inventoryItem_listed still
        have lay := inventoryItem_listed before
        rw [inventory] at lies
        -- the slot is not free, so it has what it has had
        rcases leavesRoom.inventory id index.toNat with free | kept
        · rw [free] at lies
          cases lies.2.1
        · rw [kept, lay.2.1] at lies
          cases lies.2.1
          have gone : removed.inventory id index.toNat = some toItem := by
            rw [kept]
            exact lay.2.1
          have stillThere : inventoryItem removed id index = some toItem := by
            rw [inventoryItem, if_pos lay.1]
            exact gone
          have listed := (inventoryItem_listed stillThere).2.2
          have parent := (shifts.wellFormed.consistent.lies (.player id) toItem).mp listed
          have orphan : (removed.item toItem).parent = none := loose.free
          have lost := orphan.symm.trans parent
          cases lost

/-! ## The move as a whole -/

lemma notifyIfAdded_same {added : Option Nat} (inert : Inert world cylinder)
  (done : notifyIfAdded env world cylinder added = some changed) : SameStock world changed := by
  cases added with
  | none =>
    cases done
    exact .refl _
  | some there =>
    simp only [notifyIfAdded] at done
    split at done
    · exact notifyAdded_same quiet inert done
    · cases done
      exact .refl _

lemma announce_same {itemIndex : Int} (ready : Ready moved.world toCylinder)
  (done : announce env fromCylinder toCylinder item itemIndex moved = some changed) :
  SameStock moved.world changed := by
  rcases bind_eq_some_iff.mp done with ⟨first, removal, rest⟩
  rcases bind_eq_some_iff.mp rest with ⟨second, addition, update⟩
  have one : SameStock moved.world first := by
    split at removal
    · exact notifyRemoved_same quiet removal
    · cases removal
      exact .refl _
  have two := notifyIfAdded_same quiet (ready.congr one).inert addition
  have both := one.trans two
  exact both.trans (notifyIfAdded_same quiet (ready.congr both).inert update)

end

/-- The units that a move takes from the source. -/
def unitsMoved (env : Env) (world : World) (item count : Nat) (found : Destination) : Nat :=
  unitsGiven env world item
    (unitsToMove env world item count
      (queryMaxCount env world found.cylinder found.index item count found.flags).2)

/-- So many units of the item have gone from the one cylinder to the other. -/
structure Transfers (env : Env) (before after : World) (one other : Cylinder) (item n : Nat) :
  Prop where
  keeps : Keeps env.items one other before after
  gives :
    one ≠ other →
      ∀ id,
        units before.toStock one id =
          units after.toStock one id + if (before.item item).id = id then n else 0
  gets :
    one ≠ other →
      ∀ id,
        units after.toStock other id =
          units before.toStock other id + if (before.item item).id = id then n else 0

lemma Shifts.transfers {one other : Cylinder} {n : Nat} {removed : World}
  (gives : Shifts env.items one (world.item item).id (-n) world removed)
  (gets : Shifts env.items other (world.item item).id n removed changed) :
  Transfers env world changed one other item n where
  keeps := gives.keeps gets
  gives ne id := by
    have given := gives.units_self id
    rw [gets.units_other ne]
    split_ifs at given ⊢ <;> omega
  gets ne id := by
    have got := gets.units_self id
    rw [gives.units_other (Ne.symm ne)] at got
    split_ifs at got ⊢ <;> omega

/-- After all has been asked, the units are moved. -/
lemma finish_transfers {moved : Moved} (quiet : env.Quiet) (plain : PlainStacks env.items)
  (never : env.NeverExchanges) (unset : found.flags.childIsOwner = false)
  (wellFormed : WellFormed env.items world) (ordinary : Ordinary env.items world.toStock item)
  (source : Holds world fromCylinder) (target : Ready world found.cylinder)
  (suits : Suits world found toItem) (other : toItem ≠ some item)
  (asked :
    queryAdd env world found.cylinder found.index item count found.flags =
        some .noError ∨
      queryAdd env world found.cylinder found.index item count found.flags = some .needExchange)
  (done : finish env world fromCylinder item count found toItem = some moved)
  (success : moved.ret = .noError ∨ moved.moveItem ≠ none) :
  Transfers env world moved.world fromCylinder found.cylinder item
    (unitsMoved env world item count found) := by
  rw [finish] at done
  dsimp only at done
  split at done
  · rename_i full
    cases done
    rcases success with fine | impossible
    · exact absurd fine full.1
    · exact absurd rfl impossible
  · split at done
    · rename_i stuck
      cases done
      rcases success with fine | impossible
      · exact absurd fine stuck
      · exact absurd rfl impossible
    · rename_i movable
      have removable := queryRemove_member wellFormed.toOrderly source (not_not.mp movable)
      have accepts := suits.accepts never unset target other asked removable.2.1
      rcases bind_eq_some_iff.mp done with ⟨relocated, relocation, telling⟩
      rcases map_eq_some_iff.mp telling with ⟨told, announcing, rfl⟩
      rcases relocate_shifts plain wellFormed ordinary removable.1
          removable.2.2 accepts relocation with ⟨removed, gives, gets⟩
      have same := announce_same quiet (gets.ready _ (gives.ready _ target)) announcing
      have all := gets.trans (same.shifts gets.wellFormed found.cylinder _)
      exact gives.transfers all

lemma settle_asked
  {settled : Settled} (done : settle env world fromCylinder item count found = some settled)
  (accepted : settled.ret = .noError) :
  queryAdd env world found.cylinder found.index item count found.flags =
      some .noError ∨
    queryAdd env world found.cylinder found.index item count found.flags =
      some .needExchange := by
  rcases bind_eq_some_iff.mp done with ⟨ret, asked, answer⟩
  split at answer
  · rename_i needed
    right
    rw [asked, needed]
  · cases answer
    left
    rw [asked]
    exact congrArg some accepted

/--
The cylinders of the move take items without doing anything of their own with
them, and an item that is handed over is ordinary too.
-/
structure Undisturbed (env : Env) (world : World) (fromCylinder : Cylinder) (item count : Nat)
  (found : Destination) : Prop where
  source : Holds world fromCylinder
  target : Ready world found.cylinder
  exchange :
    ∀ toItem changed,
      HandsOver env world fromCylinder item count found toItem changed →
        Ready world fromCylinder ∧ Ordinary env.items world.toStock toItem

/--
What a move has done that has not failed.  Either the item has been dropped on
itself, or its units have been moved after the exchange, if there has been one.
-/
structure Conserves (env : Env) (world : World) (fromCylinder : Cylinder) (item count : Nat)
  (found : Destination) (after : World) : Prop where
  keeps : Keeps env.items fromCylinder found.cylinder world after
  moves :
    found.toItem = some item ∧ after = world ∨
      ∃ between,
        (between = world ∨
            ∃ toItem, HandsOver env world fromCylinder item count found toItem between) ∧
          Transfers env between after fromCylinder found.cylinder item
            (unitsMoved env between item count found)

/--
A move that succeeds, in full or in part, keeps the items of the source and the
destination together, moves what was asked for and fits, and leaves a world in
which each item lies in one place and each stack has between 1 and 100 units.
-/
theorem internalMoveItem_conserves {toCylinder : Cylinder} {index : Int} {flags : Flags}
  {moved : Moved} (quiet : env.Quiet) (never : env.NeverExchanges)
  (plain : PlainStacks env.items) (wellFormed : WellFormed env.items world)
  (unset : flags.childIsOwner = false) (ordinary : Ordinary env.items world.toStock item)
  (undisturbed :
    ∀ found,
      findDestination env world item mapMaxLayers
          ⟨toCylinder, index, none, flags⟩ = some found →
        Undisturbed env world fromCylinder item count found)
  (done :
    internalMoveItem env world fromCylinder (some toCylinder) index item
      count flags = some moved) (success : moved.ret = .noError ∨ moved.moveItem ≠ none) :
  ∃ found,
    findDestination env world item mapMaxLayers
        ⟨toCylinder, index, none, flags⟩ = some found ∧
      Conserves env world fromCylinder item count found moved.world := by
  rcases bind_eq_some_iff.mp done with ⟨found, search, further⟩
  have usual := undisturbed found search
  have noFloors : mapMaxLayers = 0 →
      Destination.Fits world ⟨toCylinder, index, none, flags⟩ := by
    intro impossible
    cases impossible
  have fits := findDestination_fits (.inl rfl) noFloors search
  have unset' : found.flags.childIsOwner = false := findDestination_childIsOwner unset search
  refine ⟨found, search, ?_⟩
  split at further
  · rename_i itself
    cases further
    exact ⟨.of_same _ _ wellFormed (.refl world), .inl ⟨itself, rfl⟩⟩
  · rename_i other
    rcases bind_eq_some_iff.mp further with ⟨settled, settling, rest⟩
    split at rest
    · rename_i refused
      cases rest
      rcases success with fine | impossible
      · exact absurd fine refused
      · exact absurd rfl impossible
    · rename_i accepted
      have agreed := not_not.mp accepted
      rcases settle_cases settling with ⟨same, still⟩ | ⟨toItem, hands, gone, again⟩
      · have asked := settle_asked settling agreed
        rw [same, still] at rest
        have transfers :=
          finish_transfers quiet plain never unset' wellFormed ordinary
            usual.source usual.target (fits.suits usual.target) other asked
            rest success
        exact ⟨transfers.keeps, .inr ⟨world, .inl rfl, transfers⟩⟩
      · rcases usual.exchange toItem settled.world hands with ⟨source, taken⟩
        rcases hands.keeps quiet plain never unset' wellFormed fits source
            taken with ⟨keeps, ready, matter, suits⟩
        rw [gone] at rest
        rw [agreed] at again
        have transfers :=
          finish_transfers quiet plain never unset' keeps.wellFormed
            (ordinary.congr (matter item)) (ready _ source).holds
            (ready _ usual.target) suits (some_ne_none item).symm
            (.inl again) rest success
        exact ⟨keeps.trans transfers.keeps, .inr ⟨settled.world, .inr ⟨toItem, hands⟩, transfers⟩⟩

lemma single_count (items : ItemTable) (id : Nat) : (single items id).count = 1 := by
  simp only [single, World.newMatter]
  split_ifs <;> simp_all

lemma armory_wellFormed : WellFormed (stillEnv swordTypes).items armory where
  toOrderly := armory_orderly
  counts item _ := by
    show 1 ≤ (single swordTypes item).count ∧ (single swordTypes item).count ≤ 100
    rw [single_count]
    decide
  fresh item later := by
    have early : ∀ pointer, pointer < 3 → pointer ≠ item := by
      intro pointer given
      have next : 3 ≤ item := later
      omega
    refine ⟨?_, rfl⟩
    match item with
    | 0 => exact absurd rfl (early 0 (by decide))
    | 1 => exact absurd rfl (early 1 (by decide))
    | 2 => exact absurd rfl (early 2 (by decide))
    | _ + 3 => rfl

lemma swordTypes_plain : PlainStacks (stillEnv swordTypes).items := by
  have single : ∀ id, (swordTypes id).stackable ≠ true := by
    intro id
    match id with
    | 0 => decide
    | 1 => decide
    | _ + 2 => exact Bool.false_ne_true
  constructor
  all_goals exact fun id stackable => absurd stackable (single id)

/-- The player puts the sword down on the glade. -/
theorem internalMoveItem_conserves_sword :
  ∃ found,
    findDestination (stillEnv swordTypes) armory 1 mapMaxLayers
        ⟨.tile glade, 0, none, Flags.none⟩ = some found ∧
      ∃ moved, Conserves (stillEnv swordTypes) armory (.player 1) 1 1 found moved := by
  have going :
      (internalMoveItem (stillEnv swordTypes) armory (.player 1)
          (some (.tile glade)) 0 1 1 Flags.none).map (·.ret) =
        some .noError := by
    decide
  rcases map_eq_some_iff.mp going with ⟨moved, done, fine⟩
  have place :
      findDestination (stillEnv swordTypes) armory 1 mapMaxLayers
          ⟨.tile glade, 0, none, Flags.none⟩ =
        some ⟨.tile glade, 0, some 2, Flags.none⟩ := by
    decide
  have usual :
      ∀ found,
        findDestination (stillEnv swordTypes) armory 1 mapMaxLayers
            ⟨.tile glade, 0, none, Flags.none⟩ = some found →
          Undisturbed (stillEnv swordTypes) armory (.player 1) 1 1 found := by
    intro found search
    rw [place] at search
    cases search
    refine ⟨trivial, ⟨rfl, ?_⟩, ?_⟩
    · intro item member
      rw [armory_listing, if_pos rfl] at member
      rcases mem_cons.mp member with rfl | rest
      · decide
      · rw [mem_singleton.mp rest]
        decide
    · intro toItem changed hands
      have needed := hands.needed
      exact absurd needed (by decide)
  rcases internalMoveItem_conserves (stillEnv_still swordTypes).toQuiet
      (fun _ _ _ _ => by show ReturnValue.noError ≠ _; decide)
      swordTypes_plain armory_wellFormed
      rfl ⟨by decide, by decide, by decide, by decide⟩ usual done
      (.inl fine) with ⟨found, search, conserves⟩
  exact ⟨found, search, moved.world, conserves⟩

/-- Type 0 is a ground, 1 a sword, and the others are trash holders. -/
def trashTypes : ItemTable
  | 0 => { plainType with group := .ground, moveable := false }
  | 1 => swordType 10
  | _ => { plainType with type := .trashHolder, moveable := false }

/-- On the glade is a trash holder; the player has the sword 1 in hand. -/
def dump : World :=
  { armory with
    item := fun pointer => { armory.item pointer with toMatter := single trashTypes pointer } }

lemma dump_wellFormed : WellFormed (stillEnv trashTypes).items dump where
  consistent := armory_orderly.consistent
  ground pos tile item here ground := by
    rw [armory_tile here] at ground
    cases ground
    rfl
  topItems pos tile item here top := by
    rw [armory_tile here] at top
    cases top
  downItems pos tile item here down := by
    rw [armory_tile here] at down
    rw [mem_singleton.mp down]
    decide
  containers _ _ := rfl
  counts item _ := by
    show 1 ≤ (single trashTypes item).count ∧ (single trashTypes item).count ≤ 100
    rw [single_count]
    decide
  fresh item later := armory_wellFormed.fresh item later

/-- The sword, dropped on the trash holder, is gone. -/
theorem dropped_sword_not_conserved :
  WellFormed (stillEnv trashTypes).items dump ∧
    (dump.itemType trashTypes 1).moveable ∧
      (dump.itemType trashTypes 1).group = .other ∧
        (dump.itemType trashTypes 1).type = .none ∧
          (internalMoveItem (stillEnv trashTypes) dump (.player 1)
              (some (.tile glade)) 0 1 1 Flags.none).map
              (fun moved =>
                (moved.ret, unitsOf moved.world.toStock (.player 1) (.tile glade) 1)) =
            some (.noError, 0) ∧
            unitsOf dump.toStock (.player 1) (.tile glade) 1 = 1 := by
  refine ⟨dump_wellFormed, ?_, ?_, ?_, ?_, ?_⟩
  all_goals decide

end OTServ.Items
