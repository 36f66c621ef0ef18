import OTServ.Items.Notices

/-!
# Moves that fail

A move that fails leaves everything where it was, as long as no item has been
handed over to the source before: the exchange comes first, and the destination
and the source are asked again only after it.
-/

namespace OTServ.Items

open Library.Placements
open Map
open Option

variable {env : Env} {world changed : World}

/-! ## The statement -/

/-- A move that fails leaves all items where and as they are. -/
def Atomic (env : Env) (world : World) (fromCylinder : Cylinder) (toCylinder : Option Cylinder)
  (index : Int) (item count : Nat) (flags : Flags) : Prop :=
  ∀ moved,
    internalMoveItem env world fromCylinder toCylinder index item count
        flags = some moved →
      moved.moveItem = none → moved.ret ≠ .noError → moved.world.toStock = world.toStock

/-- An item in the way of the move is handed over to the source. -/
structure HandsOver (env : Env) (world : World) (fromCylinder : Cylinder) (item count : Nat)
  (found : Destination) (toItem : Nat) (changed : World) : Prop where
  occupied : found.toItem = some toItem
  needed :
    queryAdd env world found.cylinder found.index item count found.flags = some .needExchange
  welcome :
    queryAdd env world fromCylinder
        (getIndexOfThing world fromCylinder item) toItem
        (world.item toItem).count Flags.none =
      some .noError
  fits :
    ¬ ((queryMaxCount env world fromCylinder (-1) toItem
          (world.item toItem).count Flags.none).1 ≠ .noError ∧
        (queryMaxCount env world fromCylinder (-1) toItem
          (world.item toItem).count Flags.none).2 = 0)
  movable :
    queryRemove env world found.cylinder toItem (world.item toItem).count found.flags = .noError
  handedOver : handOver env world fromCylinder found.cylinder toItem = some changed

/-- The destination does not take the item, or the source does not give it. -/
def Refuses (env : Env) (world : World) (fromCylinder : Cylinder) (item count : Nat)
  (found : Destination) : Prop :=
  let max := queryMaxCount env world found.cylinder found.index item count found.flags
  (∃ ret,
      queryAdd env world found.cylinder found.index item count found.flags =
          some ret ∧
        ret ≠ .noError) ∨
    queryAdd env world found.cylinder found.index item count found.flags =
        some .noError ∧
      (max.1 ≠ .noError ∧ max.2 = 0 ∨
        queryRemove env world fromCylinder item
          (unitsToMove env world item count max.2) found.flags ≠ .noError)

/--
After an item in the way has been handed over, the move is not refused any more,
unless the source is the destination and has it back as it was.
-/
def RefusesInTime (env : Env) (world : World) (fromCylinder : Cylinder)
  (toCylinder : Option Cylinder) (index : Int) (item count : Nat) (flags : Flags) : Prop :=
  ∀ cylinder found toItem changed,
    toCylinder = some cylinder →
      findDestination env world item mapMaxLayers
          ⟨cylinder, index, none, flags⟩ = some found →
        found.toItem ≠ some item →
          HandsOver env world fromCylinder item count found toItem changed →
            Refuses env changed fromCylinder item count found →
              found.cylinder = fromCylinder ∧ changed.toStock = world.toStock

variable {fromCylinder cylinder : Cylinder} {item count : Nat} {found : Destination}
  {toItem : Option Nat} {toCylinder : Option Cylinder} {index : Int} {flags : Flags}
  {pos : Position}

/-- Settling leaves the world as it is, or hands the item in the way over. -/
lemma settle_cases
  {settled : Settled} (done : settle env world fromCylinder item count found = some settled) :
  settled.world = world ∧ settled.toItem = found.toItem ∨
    ∃ toItem,
      HandsOver env world fromCylinder item count found toItem
          settled.world ∧
        settled.toItem = none ∧
          queryAdd env settled.world found.cylinder found.index item count
            found.flags = some settled.ret := by
  rcases bind_eq_some_iff.mp done with ⟨ret, asked, answer⟩
  split at answer
  · rename_i needed
    subst needed
    rcases bind_eq_some_iff.mp answer with ⟨toItem, occupied, exchanging⟩
    rcases bind_eq_some_iff.mp exchanging with ⟨fromRet, welcome, exchanged⟩
    split at exchanged
    · cases exchanged
      exact .inl ⟨rfl, occupied.symm⟩
    · rename_i accepted
      rw [not_not.mp accepted] at welcome
      dsimp only at exchanged
      split at exchanged
      · cases exchanged
        exact .inl ⟨rfl, occupied.symm⟩
      · rename_i fits
        split at exchanged
        · rename_i movable
          rcases bind_eq_some_iff.mp exchanged with ⟨handed, handing, asking⟩
          rcases map_eq_some_iff.mp asking with ⟨again, retried, rfl⟩
          exact .inr ⟨toItem, ⟨occupied, asked, welcome, fits, movable, handing⟩, rfl, retried⟩
        · cases exchanged
          exact .inl ⟨rfl, occupied.symm⟩
  · cases answer
    exact .inl ⟨rfl, rfl⟩

lemma finish_of_refuses
  (accepted :
    queryAdd env world found.cylinder found.index item count found.flags = some .noError)
  (refuses : Refuses env world fromCylinder item count found) :
  ∃ ret,
    ret ≠ .noError ∧
      finish env world fromCylinder item count found toItem = some ⟨ret, none, world⟩ := by
  rcases refuses with ⟨ret, asked, error⟩ | ⟨_, full | stuck⟩
  · rw [accepted] at asked
    exact absurd (some.inj asked).symm error
  · exact ⟨_, full.1, by rw [finish, if_pos full]⟩
  · by_cases full :
        (queryMaxCount env world found.cylinder found.index item count
            found.flags).1 ≠ .noError ∧
          (queryMaxCount env world found.cylinder found.index item count found.flags).2 = 0
    · exact ⟨_, full.1, by rw [finish, if_pos full]⟩
    · exact ⟨_, stuck, by rw [finish, if_neg full, if_pos stuck]⟩

lemma finish_error
  {moved : Moved} (done : finish env world fromCylinder item count found toItem = some moved)
  (early : moved.moveItem = none) :
  moved.world = world ∧
    (queryAdd env world found.cylinder found.index item count found.flags =
        some .noError →
      Refuses env world fromCylinder item count found) := by
  rw [finish] at done
  dsimp only at done
  split at done
  · rename_i full
    cases done
    exact ⟨rfl, fun accepted => .inr ⟨accepted, .inl full⟩⟩
  · split at done
    · rename_i stuck
      cases done
      exact ⟨rfl, fun accepted => .inr ⟨accepted, .inr stuck⟩⟩
    · rcases bind_eq_some_iff.mp done with ⟨relocated, _, told⟩
      rcases map_eq_some_iff.mp told with ⟨_, _, rfl⟩
      cases early

lemma RefusesInTime.atomic
  (inTime : RefusesInTime env world fromCylinder toCylinder index item count flags) :
  Atomic env world fromCylinder toCylinder index item count flags := by
  intro moved done early error
  cases toCylinder with
  | none =>
    cases done
    rfl
  | some cylinder =>
    rcases bind_eq_some_iff.mp done with ⟨found, search, further⟩
    split at further
    · cases further
      exact absurd rfl error
    · rename_i other
      rcases bind_eq_some_iff.mp further with ⟨settled, settling, rest⟩
      rcases settle_cases settling with ⟨same, _⟩ | ⟨toItem, hands, _, retried⟩
      · split at rest
        · cases rest
          exact congrArg World.toStock same
        · rw [(finish_error rest early).1, same]
      · split at rest
        · rename_i refused
          cases rest
          exact (inTime cylinder found toItem _ rfl search other hands
            (.inl ⟨_, retried, refused⟩)).2
        · rename_i accepted
          rw [not_not.mp accepted] at retried
          have failure := finish_error rest early
          rw [failure.1]
          exact (inTime cylinder found toItem _ rfl search other hands (failure.2 retried)).2

/-! ## Handing over moves the item -/

/-- A cylinder whose `__queryRemove` looks at what is in it. -/
def Holds (world : World) : Cylinder → Prop
  | .item pointer => world.isContainer pointer
  | _ => True

lemma queryRemove_member
  (orderly : Orderly env.items world.toStock) (holds : Holds world cylinder)
  (accepted : queryRemove env world cylinder item count flags = .noError) :
  item ∈ world.listing cylinder ∧ count ≠ 0 ∧
    (world.isStackable env.items item → count ≤ (world.item item).count) := by
  have looked :
      (if getIndexOfThing world cylinder item = -1 then ReturnValue.notPossible
        else if count = 0 ∨ world.isStackable env.items item ∧ (world.item item).count < count
        then .notPossible
        else if ¬ (world.itemType env.items item).moveable ∧ ¬ flags.ignoreNotMoveable
        then .notMoveable
        else .noError) = .noError := by
    cases cylinder with
    | tile pos => exact accepted
    | player id => exact accepted
    | item pointer =>
      rw [Holds, Stock.isContainer] at holds
      simp only [queryRemove] at accepted
      cases itemClass : (world.item pointer).itemClass with
      | container =>
        rw [itemClass] at accepted
        exact accepted
      | depot =>
        rw [itemClass] at accepted
        exact accepted
      | _ =>
        rw [itemClass] at holds
        cases holds
  split at looked
  · cases looked
  · rename_i there
    split at looked
    · cases looked
    · rename_i counts
      rw [getIndexOfThing_eq_neg_one orderly.sorted, not_not] at there
      rw [not_or] at counts
      refine ⟨there, counts.1, ?_⟩
      intro stackable
      by_contra more
      exact counts.2 ⟨stackable, not_le.mp more⟩

lemma ownerQueryAdd_ne_needExchange (owner : Cylinder) (item count : Nat) (flags : Flags) :
  ownerQueryAdd env world owner item count flags ≠ some .needExchange := by
  intro asked
  cases owner with
  | tile pos => cases asked
  | player id =>
    simp only [ownerQueryAdd] at asked
    split at asked
    · cases asked
    · rcases map_eq_some_iff.mp asked with ⟨fits, _, answer⟩
      cases fits <;> cases answer
  | item pointer =>
    simp only [ownerQueryAdd] at asked
    split at asked
    · rcases map_eq_some_iff.mp asked with ⟨full, _, answer⟩
      cases full <;> cases answer
    · cases asked
    · split at asked <;> cases asked
    · cases asked

lemma containerQueryAdd_ne_needExchange
  (container : Nat) (index : Int) (item count : Nat) (flags : Flags) :
  containerQueryAdd env world container index item count flags ≠ some .needExchange := by
  intro asked
  rw [containerQueryAdd] at asked
  split at asked
  · cases asked
  · split at asked
    · cases asked
    · split at asked
      · cases asked
      · rcases bind_eq_some_iff.mp asked with ⟨cylinders, _, answer⟩
        split at answer
        · cases answer
        · split at answer
          · cases answer
          · dsimp only at answer
            split at answer
            · exact ownerQueryAdd_ne_needExchange _ _ _ _ answer
            · cases answer

lemma holds_of_needExchange
  (needed : queryAdd env world cylinder index item count flags = some .needExchange) :
  Holds world cylinder ∧ ∀ pointer, cylinder ≠ .item pointer := by
  cases cylinder with
  | tile pos | player id => exact ⟨trivial, fun _ other => by cases other⟩
  | item pointer =>
    exfalso
    simp only [queryAdd] at needed
    split at needed
    · exact containerQueryAdd_ne_needExchange _ _ _ _ _ needed
    · rcases bind_eq_some_iff.mp needed with ⟨full, _, answer⟩
      split at answer
      · cases answer
      · exact containerQueryAdd_ne_needExchange _ _ _ _ _ answer
    · cases needed
    · cases needed
    · split at needed <;> cases needed
    · cases needed

lemma removeThing_parent (done : removeThing env world cylinder item count = some changed) :
  (changed.item item).parent = none ∨ (changed.item item).parent = (world.item item).parent := by
  cases cylinder with
  | tile pos =>
    cases done
    simp only [tileRemoveThing]
    split
    · exact .inr rfl
    · split
      · exact .inr rfl
      · simp only [tileRemoveFrom]
        split
        · left
          simp [Stock.setParent, Stock.setTile]
        · split
          · split
            · left
              simp [Stock.setParent, Stock.setTile]
            · exact .inr rfl
          · split
            · split
              · right
                simp
              · left
                simp [Stock.setParent, Stock.setTile]
            · exact .inr rfl
  | player id =>
    cases done
    simp only [playerRemoveThing]
    split
    · exact .inr rfl
    · split
      · right
        simp
      · left
        simp [Stock.setParent, Stock.setInventory]
  | item pointer =>
    simp only [removeThing] at done
    split at done
    · simp only [containerRemoveThing] at done
      split at done
      · split at done
        · right
          have stock := World.updateItemWeight_toStock done
          rw [stock, World.withStock_toStock]
          simp
        · left
          rcases map_eq_some_iff.mp done with ⟨lighter, _, rfl⟩
          by_cases same : item = pointer
          · subst same
            simp [Stock.setParent, Stock.setItemlist]
          · simp [Stock.setParent, Stock.setItemlist, same]
      · cases done
        exact .inr rfl
    · cases done
      exact .inr rfl

lemma internalRemoveItem_parent
  (quiet : env.Quiet) {count : Option Nat} {result : ReturnValue × World}
  (done : internalRemoveItem env world item count flags = some result) :
  (result.2.item item).parent = none ∨
    (result.2.item item).parent = (world.item item).parent := by
  simp only [internalRemoveItem] at done
  split at done
  · cases done
    exact .inr rfl
  · split at done
    · cases done
      exact .inr rfl
    · split at done
      · cases done
        exact .inr rfl
      · rcases bind_eq_some_iff.mp done with ⟨removed, removal, rest⟩
        rcases bind_eq_some_iff.mp rest with ⟨complete, _, telling⟩
        rcases map_eq_some_iff.mp telling with ⟨told, notified, rfl⟩
        have same := (notifyRemoved_same quiet notified).stock
        rw [same]
        exact removeThing_parent removal

lemma tileRemoveThing_item_of_ne {other : Nat} (ne : other ≠ item) :
  (tileRemoveThing env world pos item count).item other = world.item other := by
  simp only [tileRemoveThing]
  split
  · rfl
  · split
    · rfl
    · simp only [tileRemoveFrom]
      split
      · simp [Stock.setParent, Stock.setTile, ne]
      · split
        · split
          · simp [Stock.setParent, Stock.setTile, ne]
          · rfl
        · split
          · split
            · simp [Stock.setMatter, ne]
            · simp [Stock.setParent, Stock.setTile, ne]
          · rfl

/-- What replaces something else keeps its parent until it is put down. -/
lemma replaced_parent (env : Env) (world : World) (pos : Position) (item replaced : Nat) :
  (((tileRemoveThing env world pos replaced 1).withStock
        ((tileRemoveThing env world pos replaced 1).toStock.setParent
          replaced none)).item item).parent = none ∨
    (((tileRemoveThing env world pos replaced 1).withStock
        ((tileRemoveThing env world pos replaced 1).toStock.setParent
          replaced none)).item item).parent =
      (world.item item).parent := by
  by_cases same : item = replaced
  · subst same
    left
    simp [Stock.setParent]
  · right
    simp only [World.withStock_toStock, Stock.setParent, Function.update_of_ne same]
    rw [tileRemoveThing_item_of_ne same]

lemma addDownItem_parent (env : Env) (world : World) (pos : Position) (item : Nat) :
  ((addDownItem env world pos item).item item).parent =
      some (.tile pos) ∨
    ((addDownItem env world pos item).item item).parent = (world.item item).parent := by
  rw [addDownItem]
  split
  · exact .inr rfl
  · left
    simp [Stock.setParent, Stock.setTile]

lemma addTopItem_parent (env : Env) (world : World) (pos : Position) (item : Nat) :
  ((addTopItem env world pos item).item item).parent =
      some (.tile pos) ∨
    ((addTopItem env world pos item).item item).parent = (world.item item).parent := by
  rw [addTopItem]
  split
  · exact .inr rfl
  · left
    simp [Stock.setParent, Stock.setTile]

lemma tileAddThing_parent (free : (world.item item).parent = none) :
  ((tileAddThing env world pos item).item item).parent =
      some (.tile pos) ∨
    ((tileAddThing env world pos item).item item).parent = none := by
  simp only [tileAddThing]
  split
  · exact .inr free
  · rename_i tile here
    split
    · simp only [addGround]
      split
      · left
        simp [Stock.setParent, Stock.setTile]
      · rename_i oldGround _
        by_cases same : item = oldGround
        · subst same
          right
          simp [Stock.setParent, Stock.setTile]
        · left
          simp [Stock.setParent, Stock.setTile, same]
    · split
      · split
        · simp only [removeOldSplash]
          split
          · rw [← free]
            exact addTopItem_parent env world pos item
          · rename_i oldSplash _
            rcases addTopItem_parent env _ pos item with put | kept
            · exact .inl put
            · right
              rw [kept]
              rcases replaced_parent env world pos item oldSplash with gone | same
              · exact gone
              · exact same.trans free
        · rw [← free]
          exact addTopItem_parent env world pos item
      · split
        · split
          · rw [← free]
            exact addDownItem_parent env world pos item
          · rename_i field _
            split
            · rcases addDownItem_parent env _ pos item with put | kept
              · exact .inl put
              · right
                rw [kept]
                rcases replaced_parent env world pos item field with gone | same
                · exact gone
                · exact same.trans free
            · right
              simp [Stock.setParent]
        · rw [← free]
          exact addDownItem_parent env world pos item

section

variable (still : env.Still)
include still

lemma addThing_parent (free : (world.item item).parent = none)
  (done : addThing env world cylinder index item = some changed) :
  (changed.item item).parent = some cylinder ∨ (changed.item item).parent = none := by
  cases cylinder with
  | tile pos =>
    cases done
    exact tileAddThing_parent free
  | player id =>
    cases done
    simp only [playerAddThing]
    split
    · exact .inr free
    · left
      simp [Stock.setParent, Stock.setInventory]
  | item pointer =>
    have contained :
        containerAddThing env world pointer index item = some changed →
          (changed.item item).parent = some (.item pointer) ∨
            (changed.item item).parent = none := by
      intro added
      rw [containerAddThing] at added
      split at added
      · cases added
        exact .inr free
      · left
        have stock := World.updateItemWeight_toStock added
        rw [stock, World.withStock_toStock]
        by_cases same : item = pointer
        · subst same
          simp [Stock.setParent, Stock.setItemlist]
        · simp [Stock.setParent, Stock.setItemlist, same]
    simp only [addThing] at done
    split at done
    · exact contained done
    · exact contained done
    · right
      rw [(still.teleport _ _ _ _ done).stock]
      exact free
    · right
      simp only [trashHolderAddThing] at done
      split at done
      · rcases map_eq_some_iff.mp done with ⟨result, removal, rfl⟩
        rcases internalRemoveItem_parent still.toQuiet removal with gone | same
        · exact gone
        · exact same.trans free
      · cases done
        exact free
    · right
      rw [(still.mailbox _ _ _ _ done).stock]
      exact free
    · cases done
      exact .inr free

lemma actOnItem_parent (done : actOnItem env world pos item = some changed) :
  (changed.item item).parent = none ∨ (changed.item item).parent = (world.item item).parent := by
  simp only [actOnItem] at done
  split at done
  · cases done
    exact .inr rfl
  · split at done
    · right
      rw [(still.teleport _ _ _ _ done).stock]
    · split at done
      · simp only [trashHolderAddThing] at done
        split at done
        · rcases map_eq_some_iff.mp done with ⟨result, removal, rfl⟩
          exact internalRemoveItem_parent still.toQuiet removal
        · cases done
          exact .inr rfl
      · split at done
        · right
          rw [(still.mailbox _ _ _ _ done).stock]
        · cases done
          exact .inr rfl

lemma postAddNotification_parent {fuel : Nat} {link : Link}
  (done : postAddNotification env world item index fuel cylinder link = some changed) :
  (changed.item item).parent = none ∨ (changed.item item).parent = (world.item item).parent := by
  induction fuel generalizing cylinder link with
  | zero => cases done
  | succ fuel ih =>
    cases cylinder with
    | tile pos =>
      simp only [postAddNotification, tilePostAdd] at done
      split at done
      · rcases bind_eq_some_iff.mp done with ⟨told, asked, acted⟩
        have same := (still.onAddTileItem _ _ _ _ asked).stock
        rw [← same]
        exact actOnItem_parent still acted
      · cases done
        exact .inr rfl
    | player id =>
      right
      rw [(playerPostAdd_same still.toQuiet done).stock]
    | item pointer =>
      simp only [postAddNotification] at done
      split at done
      · rcases bind_eq_some_iff.mp done with ⟨top, _, told⟩
        split at told
        · exact ih told
        · split at told
          · split at told
            · exact ih told
            · cases told
              exact .inr rfl
          · exact ih told
        · cases told
          exact .inr rfl
      · split at done
        · exact ih done
        · cases done
          exact .inr rfl

lemma handOver_parent (orderly : Orderly env.items world.toStock) {toCylinder : Cylinder}
  {toItem : Nat} (mem : toItem ∈ world.listing toCylinder)
  (done : handOver env world fromCylinder toCylinder toItem = some changed) :
  (changed.item toItem).parent = some fromCylinder ∨ (changed.item toItem).parent = none := by
  rcases bind_eq_some_iff.mp done with ⟨removed, removal, rest⟩
  rcases bind_eq_some_iff.mp rest with ⟨added, addition, telling⟩
  rcases bind_eq_some_iff.mp telling with ⟨told, early, late⟩
  have takes := (removeThing_takes orderly.sorted mem (fun part => part.2 rfl) removal).1
  have free : (removed.item toItem).parent = none := by
    have parent := congrFun takes.placement.parent toItem
    rw [Function.update_self] at parent
    exact parent
  have put := addThing_parent still free addition
  have same : told.toStock = added.toStock := by
    split at early
    · exact (notifyRemoved_same still.toQuiet early).stock
    · cases early
      rfl
  have kept :
      (changed.item toItem).parent = none ∨
        (changed.item toItem).parent = (told.item toItem).parent := by
    dsimp only at late
    split at late
    · exact postAddNotification_parent still late
    · cases late
      exact .inr rfl
  rcases kept with gone | kept
  · exact .inr gone
  · rw [kept, same]
    exact put

end

/-- A move that is refused after the exchange returns the changed world. -/
lemma internalMoveItem_of_refuses {toItem : Nat}
  (search :
    findDestination env world item mapMaxLayers ⟨cylinder, index, none, flags⟩ = some found)
  (other : found.toItem ≠ some item)
  (hands : HandsOver env world fromCylinder item count found toItem changed)
  (refuses : Refuses env changed fromCylinder item count found) :
  ∃ ret,
    ret ≠ .noError ∧
      internalMoveItem env world fromCylinder (some cylinder) index item
          count flags =
        some ⟨ret, none, changed⟩ := by
  have settling : ∀ ret,
      queryAdd env changed found.cylinder found.index item count
          found.flags = some ret →
        settle env world fromCylinder item count found = some ⟨ret, none, changed⟩ := by
    intro ret retried
    simp only [settle, hands.needed, bind_some, if_true,
      hands.occupied, exchange, hands.welcome, ne_eq, not_true,
      if_false, if_neg hands.fits, hands.movable, hands.handedOver, retried,
      map_some]
  have running : ∀ ret,
      queryAdd env changed found.cylinder found.index item count
          found.flags = some ret →
        internalMoveItem env world fromCylinder (some cylinder) index item
            count flags =
          if ret ≠ .noError then some ⟨ret, none, changed⟩
          else finish env changed fromCylinder item count found none := by
    intro ret retried
    simp only [internalMoveItem, search, bind_some, if_neg other, settling ret retried]
  by_cases accepted :
      queryAdd env changed found.cylinder found.index item count found.flags = some .noError
  · have failing :
        ∃ ret,
          ret ≠ .noError ∧
            finish env changed fromCylinder item count found none = some ⟨ret, none, changed⟩ :=
      finish_of_refuses accepted refuses
    rcases failing with ⟨ret, error, failure⟩
    refine ⟨ret, error, ?_⟩
    rw [running _ accepted, if_neg (not_not.mpr rfl), failure]
  · rcases refuses with ⟨ret, asked, error⟩ | ⟨asked, _⟩
    · refine ⟨ret, error, ?_⟩
      rw [running ret asked, if_pos error]
    · exact absurd asked accepted

lemma Atomic.refusesInTime (still : env.Still) (orderly : Orderly env.items world.toStock)
  (atomic : Atomic env world fromCylinder toCylinder index item count flags) :
  RefusesInTime env world fromCylinder toCylinder index item count flags := by
  intro cylinder found toItem changed destination search other hands refuses
  subst destination
  rcases internalMoveItem_of_refuses search other hands refuses with ⟨ret, error, failure⟩
  have same := atomic _ failure rfl error
  refine ⟨?_, same⟩
  have holds := (holds_of_needExchange hands.needed).1
  have member := (queryRemove_member orderly holds hands.movable).1
  have before : (world.item toItem).parent = some found.cylinder :=
    (orderly.consistent.lies found.cylinder toItem).mp member
  have after := handOver_parent still orderly member hands.handedOver
  rw [same, before] at after
  rcases after with moved | gone
  · exact some.inj moved
  · cases gone

/--
A failing move leaves all items where they were if it is refused before an item
has been handed over.  Where nothing reacts to the items that come and go, it
does so only then.
-/
theorem internalMoveItem_atomic_iff (env : Env) (world : World) (fromCylinder : Cylinder)
  (toCylinder : Option Cylinder) (index : Int) (item count : Nat) (flags : Flags) :
  (RefusesInTime env world fromCylinder toCylinder index item count flags →
      Atomic env world fromCylinder toCylinder index item count flags) ∧
    (env.Still → Orderly env.items world.toStock →
      (Atomic env world fromCylinder toCylinder index item count flags ↔
        RefusesInTime env world fromCylinder toCylinder index item count flags)) := by
  refine ⟨RefusesInTime.atomic, ?_⟩
  intro still orderly
  exact ⟨fun atomic => atomic.refusesInTime still orderly, RefusesInTime.atomic⟩

/-! ## A sword that is too heavy -/

def noSlots : SlotPosition where
  head := false
  necklace := false
  backpack := false
  armor := false
  right := false
  left := false
  legs := false
  feet := false
  ring := false
  ammo := false
  twoHand := false

/-- A thing that can be picked up and moved, and has nothing special. -/
def plainType : ItemType where
  known := true
  group := .other
  type := .none
  stackable := false
  alwaysOnTop := false
  alwaysOnTopOrder := 0
  moveable := true
  pickupable := true
  isHangable := false
  isVertical := false
  isHorizontal := false
  blockSolid := false
  hasHeight := false
  allowPickupable := false
  replaceable := false
  floorChangeDown := false
  floorChangeNorth := false
  floorChangeSouth := false
  floorChangeEast := false
  floorChangeWest := false
  slotPosition := noSlots
  weaponType := .none
  maxItems := 0
  weight := 0
  charges := 0

def swordType (weight : Int) : ItemType :=
  { plainType with
    slotPosition := { noSlots with left := true, right := true }
    weaponType := .sword
    weight := weight }

def single (items : ItemTable) (id : Nat) : Matter :=
  World.newMatter items id 1

def stillEnv (items : ItemTable) : Env where
  items := items
  canPlayerWearEquip _ _ _ _ := .noError
  onPlayerEquip _ _ _ world := some world
  onPlayerDeEquip _ _ _ _ world := some world
  onAddTileItem _ _ world := some world
  onRemoveTileItem _ _ world := some world
  teleport _ _ world := some world
  mailbox _ _ world := some world

lemma stillEnv_still (items : ItemTable) : (stillEnv items).Still where
  onPlayerEquip _ _ _ world _ done := by
    cases done
    exact .refl world
  onPlayerDeEquip _ _ _ _ world _ done := by
    cases done
    exact .refl world
  onAddTileItem _ _ world _ done := by
    cases done
    exact .refl world
  onRemoveTileItem _ _ world _ done := by
    cases done
    exact .refl world
  teleport _ _ world _ done := by
    cases done
    exact .refl world
  mailbox _ _ world _ done := by
    cases done
    exact .refl world

def glade : Position := ⟨100, 100, 7⟩

/-- Type 0 is a ground, 1 a sword, and 2 a sword that is too heavy. -/
def swordTypes : ItemTable
  | 0 => { plainType with group := .ground, moveable := false }
  | 1 => swordType 10
  | _ => swordType 1000

/-- On the glade lies the heavy sword 2; the player has sword 1 in hand. -/
def armory : World where
  item pointer :=
    { toMatter := single swordTypes pointer
      parent :=
        match pointer with
        | 0 => some (.tile glade)
        | 1 => some (.player 1)
        | 2 => some (.tile glade)
        | _ => none
      itemlist := [] }
  tile position := if position = glade then some ⟨some 0, [], [2]⟩ else none
  inventory id slot := if id = 1 ∧ slot = 6 then some 1 else none
  next := 3
  totalWeight _ := 0
  floorChange _ := ⟨false, false, false, false, false, false⟩
  creatures _ := 0
  player _ :=
    { position := some glade
      isInternalRemoved := false
      capacity := 100
      inventoryWeight := 10
      cannotPickupItem := false
      hasInfiniteCapacity := false
      tradeItem := none }

lemma armory_exchange :
  (internalMoveItem (stillEnv swordTypes) armory (.tile glade)
      (some (.player 1)) 6 2 1 Flags.none).map
      (fun moved => (moved.ret, moved.moveItem, (moved.world.item 1).parent)) =
    some (.notEnoughCapacity, none, some (.tile glade)) := by
  decide

lemma armory_listing (cylinder : Cylinder) :
  armory.listing cylinder =
    if cylinder = .tile glade then [0, 2]
    else if cylinder = .player 1 then [1] else [] := by
  cases cylinder with
  | tile pos =>
    by_cases here : pos = glade
    · subst here
      rfl
    · simp [Stock.listing, armory, here]
  | player id =>
    by_cases here : id = 1
    · subst here
      rfl
    · simp [Stock.listing, armory, here]
  | item pointer => rfl

lemma armory_tile {tile : Tile} (here : armory.tile pos = some tile) :
  tile = ⟨some 0, [], [2]⟩ := by
  simp only [armory] at here
  split at here
  · exact (some.inj here).symm
  · cases here

lemma armory_orderly : Orderly (stillEnv swordTypes).items armory.toStock := by
  refine ⟨⟨?_, ?_⟩, ?_, ?_, ?_, ?_⟩
  · intro cylinder
    show (armory.listing cylinder).Nodup
    rw [armory_listing]
    split
    · decide
    · split <;> decide
  · intro cylinder item
    show item ∈ armory.listing cylinder ↔ (armory.item item).parent = some cylinder
    rw [armory_listing]
    match item with
    | 0 | 1 | 2 | other + 3 =>
      by_cases here : cylinder = .tile glade
      · simp [here, armory]
      · by_cases worn : cylinder = .player 1
        · simp [worn, armory]
        · simp [here, worn, armory, Ne.symm here, Ne.symm worn]
  · intro pos tile item here ground
    rw [armory_tile here] at ground
    cases ground
    rfl
  · intro pos tile item here top
    rw [armory_tile here] at top
    cases top
  · intro pos tile item here down
    rw [armory_tile here] at down
    rw [List.mem_singleton.mp down]
    decide
  · intro pointer _
    rfl

theorem heavy_sword_not_atomic :
  Orderly (stillEnv swordTypes).items armory.toStock ∧
    ¬ Atomic (stillEnv swordTypes) armory (.tile glade) (some (.player 1)) 6 2 1 Flags.none := by
  refine ⟨armory_orderly, ?_⟩
  intro atomic
  rcases map_eq_some_iff.mp armory_exchange with ⟨moved, done, result⟩
  simp only [Prod.mk.injEq] at result
  have same := atomic moved done result.2.1 (by rw [result.1]; decide)
  have parent := result.2.2
  rw [same] at parent
  exact absurd parent (by decide)

/-- Where the heavy sword cannot be worn at all, nothing is handed over. -/
theorem internalMoveItem_atomic_iff_head :
  Atomic (stillEnv swordTypes) armory (.tile glade) (some (.player 1)) 1 2 1
    Flags.none := by
  apply ((internalMoveItem_atomic_iff (stillEnv swordTypes) armory
    (.tile glade) (some (.player 1)) 1 2 1 Flags.none).2
      (stillEnv_still swordTypes) armory_orderly).mpr
  intro cylinder found toItem changed destination search _ hands
  cases destination
  have place :
      findDestination (stillEnv swordTypes) armory 2 mapMaxLayers
          ⟨.player 1, 1, none, Flags.none⟩ =
        some ⟨.player 1, 1, none, Flags.none⟩ := by
    decide
  cases search
  have occupied := hands.occupied
  cases occupied

end OTServ.Items
