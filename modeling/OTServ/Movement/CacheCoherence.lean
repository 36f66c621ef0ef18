import OTServ.Library.GuardedRuns
import OTServ.Movement.StepCache

/-!
# Coherence of the step event cache

The cache is coherent when its entries are the items on the remembered tile
which have a tile event.  Between a change of a tile and the notification that
tells of it the cache lags behind, which is described by the items that are
still missing and those that are stale.

The rebuilding scan of `onItemMove` leaves the moved item out, which is right
for an item that leaves the tile and wrong for one that has come.
-/

namespace OTServ.Movement

open Library.GuardedRuns
open Map
open List Function

variable {registry : Registry}

def Thing.item? : Thing → Option Nat
  | .item number => some number
  | .creature _ => none

def itemsOn (state : State) (tile : Position) : List Nat :=
  (state.things tile).filterMap Thing.item?

@[simp]
lemma filterMap_item (number : Nat) (rest : List Thing) :
  (Thing.item number :: rest).filterMap Thing.item? = number :: rest.filterMap Thing.item? :=
  rfl

@[simp]
lemma filterMap_creature (id : Nat) (rest : List Thing) :
  (Thing.creature id :: rest).filterMap Thing.item? = rest.filterMap Thing.item? :=
  rfl

lemma filterMap_erase_item (things : List Thing) (item : Nat) :
  (things.erase (.item item)).filterMap Thing.item? =
    (things.filterMap Thing.item?).erase item := by
  induction things with
  | nil => rfl
  | cons thing rest ih =>
    cases thing with
    | item number =>
      by_cases same : number = item
      · simp [same]
      · simp [same, ih]
    | creature id => simp [ih]

lemma filterMap_erase_creature (things : List Thing) (creature : Nat) :
  (things.erase (.creature creature)).filterMap Thing.item? = things.filterMap Thing.item? := by
  induction things with
  | nil => rfl
  | cons thing rest ih =>
    cases thing with
    | item number => simp [ih]
    | creature id =>
      by_cases same : id = creature
      · simp [same]
      · simp [same, ih]

section

variable (state : State)
include state

variable (tile : Position)
include tile

lemma itemsOn_take_item (item : Nat) :
  itemsOn (state.take tile (.item item)) =
    update (itemsOn state) tile ((itemsOn state tile).erase item) := by
  funext other
  by_cases here : other = tile
  · subst here
    simp [itemsOn, State.take, filterMap_erase_item]
  · simp [itemsOn, State.take, here]

lemma itemsOn_take_creature (creature : Nat) :
  itemsOn (state.take tile (.creature creature)) = itemsOn state := by
  funext other
  by_cases here : other = tile
  · subst here
    simp [itemsOn, State.take, filterMap_erase_creature]
  · simp [itemsOn, State.take, here]

lemma itemsOn_place_item (index item : Nat) :
  itemsOn (state.place tile index (.item item)) tile =
    ((state.things tile).take index).filterMap Thing.item? ++
      item :: ((state.things tile).drop index).filterMap Thing.item? := by
  simp [itemsOn, State.place]

lemma itemsOn_split (index : Nat) :
  ((state.things tile).take index).filterMap Thing.item? ++
      ((state.things tile).drop index).filterMap Thing.item? =
    itemsOn state tile := by
  rw [← filterMap_append, take_append_drop]
  rfl

lemma itemsOn_place_perm (index item : Nat) :
  (itemsOn (state.place tile index (.item item)) tile).Perm (item :: itemsOn state tile) := by
  rw [itemsOn_place_item, ← itemsOn_split state tile index]
  exact perm_middle

end

variable {tile : Position} {index fuel creature item : Nat} {eventType : MoveEventType}
  {mover : Thing} {state next : State} {isIn : Bool} {cache : List (Option Nat)}
  {missing stale : List (Position × Nat)}

lemma itemsOn_place_of_ne
  (state : State) {other : Position} (index : Nat) (thing : Thing) (elsewhere : other ≠ tile) :
  itemsOn (state.place tile index thing) other = itemsOn state other := by
  simp [itemsOn, State.place, elsewhere]

lemma itemsOn_place_creature (state : State) (tile : Position) (index creature : Nat) :
  itemsOn (state.place tile index (.creature creature)) = itemsOn state := by
  funext other
  by_cases here : other = tile
  · subst here
    rw [← itemsOn_split state other index]
    simp [itemsOn, State.place]
  · rw [itemsOn_place_of_ne state index _ here]

lemma itemsOn_replace (state : State) (tile : Position) (old new : Nat) :
  itemsOn (state.replace tile old new) =
    update (itemsOn state) tile
      ((itemsOn state tile).map fun item => if item = old then new else item) := by
  funext other
  by_cases here : other = tile
  · subst here
    simp only [itemsOn, State.replace, update_self, filterMap_map, map_filterMap]
    congr 2
    funext thing
    cases thing with
    | item number =>
      by_cases same : number = old <;> simp [same, Thing.item?]
    | creature id => simp [Thing.item?]
  · simp [itemsOn, State.replace, here]

/-! ## Quiet scripts -/

def raised (registry : Registry) (key : Nat → ItemKey) (eventType : MoveEventType) (mover : Thing)
  (items : List Nat) : List Fired :=
  items.filterMap fun item =>
    if mover = .item item then none
    else
      (registry.getEvent (key item) eventType).map fun event => ⟨event, mover, some item⟩

/-- The items which a scan for the thing that moves would remember. -/
def remembered (registry : Registry) (key : Nat → ItemKey) (mover : Thing) (items : List Nat) :
  List (Option Nat) :=
  (items.filter fun item => mover ≠ .item item && registry.hasTileEvent (key item)).map some

def State.logged (state : State) (events : List Fired) : State :=
  { state with fired := state.fired ++ events }

lemma State.logged_logged (state : State) (first second : List Fired) :
  (state.logged first).logged second = state.logged (first ++ second) := by
  simp [State.logged]

lemma State.fireFound_quiet
  (state : State) (event : Option Nat) (mover : Thing) (tileItem : Option Nat) :
  state.fireFound quiet event mover tileItem =
    state.logged (event.toList.map fun event => ⟨event, mover, tileItem⟩) := by
  cases event with
  | none => simp [State.fireFound, State.logged]
  | some event => rfl

lemma drop_of_getElem?
  {α : Type} {list : List α} {value : α} (found : list[index]? = some value) :
  list.drop index = value :: list.drop (index + 1) := by
  rcases List.getElem?_eq_some_iff.mp found with ⟨bound, rfl⟩
  exact drop_eq_getElem_cons bound

lemma fireCached_quiet
  (done : fireCached registry quiet eventType mover fuel index state = some next) :
  next =
    state.logged
      (raised registry state.key eventType mover
        ((state.lastCacheItemVector.drop index).filterMap id)) := by
  induction fuel generalizing index state with
  | zero => cases done
  | succ fuel ih =>
    rw [fireCached] at done
    cases found : state.lastCacheItemVector[index]? with
    | none =>
      rw [found] at done
      cases done
      rw [List.getElem?_eq_none_iff] at found
      rw [drop_eq_nil_of_le found]
      simp [raised, State.logged]
    | some entry =>
      rw [drop_of_getElem? found]
      cases entry with
      | none =>
        rw [found] at done
        exact ih done
      | some tileItem =>
        simp only [found] at done
        by_cases skipped : mover = .item tileItem
        · rw [if_pos skipped] at done
          rw [ih done]
          simp [raised, skipped]
        · rw [if_neg skipped, State.fireFound_quiet] at done
          rw [ih done, State.logged_logged]
          cases event : registry.getEvent (state.key tileItem) eventType with
          | none => simp [raised, skipped, event, State.logged]
          | some number => simp [raised, skipped, event, State.logged]

lemma fireCached_returns (within : index ≤ state.lastCacheItemVector.length)
  (enough : state.lastCacheItemVector.length < fuel + index) :
  (fireCached registry quiet eventType mover fuel index state).isSome := by
  induction fuel generalizing index state with
  | zero => omega
  | succ fuel ih =>
    rw [fireCached]
    cases found : state.lastCacheItemVector[index]? with
    | none => rfl
    | some entry =>
      have bound : index < state.lastCacheItemVector.length :=
        (List.getElem?_eq_some_iff.mp found).1
      cases entry with
      | none => exact ih bound (by omega)
      | some tileItem =>
        simp only
        by_cases skipped : mover = .item tileItem
        · rw [if_pos skipped]
          exact ih bound (by omega)
        · rw [if_neg skipped, State.fireFound_quiet]
          apply ih
          · exact bound
          · simp only [State.logged]
            omega

lemma scanTile_quiet
    (ofTile : eventType.OfTile) (mover : Thing) (left index : Nat) (state : State) :
    scanTile registry quiet tile eventType mover left index state =
      { state with
        lastCacheItemVector :=
          state.lastCacheItemVector ++
            remembered registry state.key mover
              ((((state.things tile).drop index).take left).filterMap Thing.item?)
        fired :=
          state.fired ++
            raised registry state.key eventType mover
              ((((state.things tile).drop index).take left).filterMap Thing.item?) } := by
  induction left generalizing index state with
  | zero => simp [scanTile, remembered, raised]
  | succ left ih =>
    rw [scanTile]
    cases found : (state.things tile)[index]? with
    | none =>
      simp only [ih]
      rw [List.getElem?_eq_none_iff] at found
      rw [drop_eq_nil_of_le found, drop_eq_nil_of_le (Nat.le_succ_of_le found)]
      simp
    | some thing =>
      rw [drop_of_getElem? found, take_succ_cons]
      cases thing with
      | creature id => simp [ih]
      | item tileItem =>
        simp only
        by_cases skipped : mover = .item tileItem
        · rw [if_pos skipped, ih]
          simp [remembered, raised, skipped]
        · rw [if_neg skipped]
          cases event : registry.getEvent (state.key tileItem) eventType with
          | some number =>
            have known : registry.hasTileEvent (state.key tileItem) :=
              registry.hasTileEvent_of_getEvent ofTile (by rw [event]; rfl)
            simp [ih, State.fire, quiet, State.remember,
              remembered, raised, skipped, event, known]
          | none =>
            by_cases known : registry.hasTileEvent (state.key tileItem)
            · simp [ih, State.remember, remembered, raised, skipped, event, known]
            · simp [ih, remembered, raised, skipped, event, known]

/-- The cache after the events of a tile have been looked for. -/
structure Looked (registry : Registry) (state : State) (tile : Position) (mover : Thing)
  (next : State) : Prop where
  things : next.things = state.things
  key : next.key = state.key
  tile_eq : next.lastCacheTile = some tile
  kept : state.lastCacheTile = some tile → next.lastCacheItemVector = state.lastCacheItemVector
  rebuilt : state.lastCacheTile ≠ some tile →
    next.lastCacheItemVector = remembered registry state.key mover (itemsOn state tile)

lemma fireTileItems_looked (ofTile : eventType.OfTile)
  (done : fireTileItems registry quiet fuel state tile eventType mover = some next) :
  Looked registry state tile mover next := by
  rw [fireTileItems] at done
  by_cases cached : state.lastCacheTile = some tile
  · rw [if_pos cached] at done
    rw [fireCached_quiet done]
    exact ⟨rfl, rfl, cached, fun _ => rfl, fun away => absurd cached away⟩
  · rw [if_neg cached, Option.some.injEq] at done
    rw [← done, scanTile_quiet ofTile]
    refine ⟨rfl, rfl, rfl, fun here => absurd here cached, ?_⟩
    intro _
    simp [itemsOn]

lemma onCreatureMove_looked
  (done : onCreatureMove registry quiet fuel state creature tile isIn = some next) :
  Looked registry state tile (.creature creature) next := by
  have ofTile : (if isIn then MoveEventType.stepIn else .stepOut).OfTile := by
    cases isIn <;> simp [MoveEventType.OfTile]
  rw [onCreatureMove, State.fireFound_quiet] at done
  have looked := fireTileItems_looked ofTile done
  exact ⟨looked.things, looked.key, looked.tile_eq, looked.kept, looked.rebuilt⟩

lemma onItemMove_looked
  {isAdd : Bool} (done : onItemMove registry quiet fuel state item tile isAdd = some next) :
  Looked registry state tile (.item item) next := by
  have ofTile :
      (if isAdd then MoveEventType.addItemItemTile
        else .removeItemItemTile).OfTile := by
    cases isAdd <;> simp [MoveEventType.OfTile]
  simp only [onItemMove, State.fireFound_quiet] at done
  have looked := fireTileItems_looked ofTile done
  exact ⟨looked.things, looked.key, looked.tile_eq, looked.kept, looked.rebuilt⟩

lemma mem_remembered {key : Nat → ItemKey} {items : List Nat} :
  some item ∈ remembered registry key mover items ↔
    item ∈ items ∧ mover ≠ .item item ∧ registry.hasTileEvent (key item) := by
  simp [remembered]

lemma remembered_filterMap (key : Nat → ItemKey) (mover : Thing) (items : List Nat) :
  (remembered registry key mover items).filterMap id =
    items.filter fun item => mover ≠ .item item && registry.hasTileEvent (key item) := by
  simp [remembered]

/-! ## Pending notifications -/

def State.hasTileEvent (registry : Registry) (state : State) (item : Nat) : Prop :=
  registry.hasTileEvent (state.key item)

instance (state : State) (item : Nat) : Decidable (state.hasTileEvent registry item) :=
  inferInstanceAs (Decidable (registry.hasTileEvent (state.key item) = true))

/--
The cache up to notifications which are still to come: items listed as missing
have been put on their tile, items listed as stale have been taken off.
-/
structure Pending (registry : Registry) (missing stale : List (Position × Nat)) (state : State) :
  Prop where
  entry : ∀ tile item,
    state.lastCacheTile = some tile →
      some item ∈ state.lastCacheItemVector →
        item ∈ itemsOn state tile ∧ state.hasTileEvent registry item ∨ (tile, item) ∈ stale
  found : ∀ tile item,
    state.lastCacheTile = some tile →
      item ∈ itemsOn state tile →
        state.hasTileEvent registry item →
          some item ∈ state.lastCacheItemVector ∨ (tile, item) ∈ missing
  nodup : (state.lastCacheItemVector.filterMap id).Nodup
  tidy : ∀ tile, (itemsOn state tile).Nodup

/--
The cache is coherent: its entries are the items on the remembered tile which
have a tile event, each of them once.
-/
def Coherent (registry : Registry) (state : State) : Prop :=
  Pending registry [] [] state

lemma mem_filterMap_id : item ∈ cache.filterMap id ↔ some item ∈ cache := by
  simp

/-- A rebuilt cache is right but for the item that was left out. -/
lemma Looked.pending_of_rebuilt (looked : Looked registry state tile mover next)
  (away : state.lastCacheTile ≠ some tile) (tidy : ∀ other, (itemsOn state other).Nodup)
  (left_out : ∀ item,
    mover = .item item →
      item ∈ itemsOn state tile → state.hasTileEvent registry item → (tile, item) ∈ missing) :
  Pending registry missing stale next where
  entry other item here entered := by
    rw [looked.tile_eq, Option.some.injEq] at here
    subst here
    rw [looked.rebuilt away, mem_remembered] at entered
    left
    rw [itemsOn, looked.things, State.hasTileEvent, looked.key]
    exact ⟨entered.1, entered.2.2⟩
  found other item here lies event := by
    rw [looked.tile_eq, Option.some.injEq] at here
    subst here
    rw [itemsOn, looked.things] at lies
    rw [State.hasTileEvent, looked.key] at event
    by_cases moved : mover = .item item
    · exact .inr (left_out item moved lies event)
    · left
      rw [looked.rebuilt away, mem_remembered]
      exact ⟨lies, moved, event⟩
  nodup := by
    rw [looked.rebuilt away, remembered_filterMap]
    exact (tidy tile).filter _
  tidy other := by
    rw [itemsOn, looked.things]
    exact tidy other

lemma Looked.pending_of_kept (looked : Looked registry state tile mover next)
  (here : state.lastCacheTile = some tile) (pending : Pending registry missing stale state) :
  Pending registry missing stale next := by
  have lists : itemsOn next = itemsOn state := by
    funext other
    rw [itemsOn, looked.things, itemsOn]
  have events : ∀ item,
      next.hasTileEvent registry item = state.hasTileEvent registry item := by
    intro item
    rw [State.hasTileEvent, looked.key, State.hasTileEvent]
  have same : next.lastCacheTile = state.lastCacheTile := by
    rw [looked.tile_eq, here]
  constructor
  · intro other item
    rw [same, looked.kept here, lists, events]
    exact pending.entry other item
  · intro other item
    rw [same, looked.kept here, lists, events]
    exact pending.found other item
  · rw [looked.kept here]
    exact pending.nodup
  · rw [lists]
    exact pending.tidy

lemma onCreatureMove_coherent (coherent : Coherent registry state)
  (done : onCreatureMove registry quiet fuel state creature tile isIn = some next) :
  Coherent registry next := by
  have looked := onCreatureMove_looked done
  by_cases here : state.lastCacheTile = some tile
  · exact looked.pending_of_kept here coherent
  · apply looked.pending_of_rebuilt here coherent.tidy
    intro item moved
    cases moved

lemma forget_nodup_mem (nodup : (cache.filterMap id).Nodup) (item other : Nat) :
  some other ∈ forget item cache ↔ some other ∈ cache ∧ other ≠ item := by
  induction cache with
  | nil => simp [forget]
  | cons entry rest ih =>
    rw [forget]
    by_cases same : entry = some item
    · subst same
      simp only [filterMap_cons_some (f := id) rfl, nodup_cons, mem_filterMap_id] at nodup
      simp only [if_true, mem_cons, Option.some.injEq, reduceCtorEq, false_or]
      constructor
      · intro mem
        refine ⟨.inr mem, ?_⟩
        rintro rfl
        exact nodup.1 mem
      · rintro ⟨rfl | mem, ne⟩
        · exact absurd rfl ne
        · exact mem
    · have tail : (rest.filterMap id).Nodup := by
        cases entry with
        | none => simpa using nodup
        | some first =>
          exact (nodup_cons.mp nodup).2
      rw [if_neg same, mem_cons, mem_cons, ih tail]
      constructor
      · rintro (rfl | ⟨mem, ne⟩)
        · refine ⟨.inl rfl, ?_⟩
          rintro rfl
          exact same rfl
        · exact ⟨.inr mem, ne⟩
      · rintro ⟨rfl | mem, ne⟩
        · exact .inl rfl
        · exact .inr ⟨mem, ne⟩

lemma forget_sublist (item : Nat) (cache : List (Option Nat)) :
  ((forget item cache).filterMap id).Sublist (cache.filterMap id) := by
  induction cache with
  | nil => exact .slnil
  | cons entry rest ih =>
    rw [forget]
    split
    · rename_i same
      subst same
      simp
    · cases entry with
      | none => simpa using ih
      | some first => simpa using ih

lemma onRemoveTileItem_pending
  (pending : Pending registry missing stale state) (here : state.lastCacheTile = some tile) :
  Pending registry ((tile, item) :: missing)
      (stale.filter (· ≠ (tile, item)))
      (onRemoveTileItem state tile item) ∧
    some item ∉ (onRemoveTileItem state tile item).lastCacheItemVector := by
  have removed :
      onRemoveTileItem state tile item =
        { state with lastCacheItemVector := forget item state.lastCacheItemVector } :=
    if_pos here
  rw [removed]
  refine ⟨⟨?_, ?_, ?_, pending.tidy⟩, ?_⟩
  · intro other known here' entered
    rw [forget_nodup_mem pending.nodup] at entered
    rcases pending.entry other known here' entered.1 with lies | old
    · exact .inl lies
    · right
      simp only [mem_filter, old, true_and, decide_eq_true_eq]
      intro same
      exact entered.2 (Prod.mk.inj same).2
  · intro other known here' lies event
    by_cases same : known = item
    · have tiles : tile = other := Option.some.inj (here.symm.trans here')
      right
      rw [same, tiles]
      exact mem_cons_self
    · rcases pending.found other known here' lies event with entered | old
      · left
        rw [forget_nodup_mem pending.nodup]
        exact ⟨entered, same⟩
      · exact .inr (mem_cons_of_mem _ old)
  · exact pending.nodup.sublist (forget_sublist item _)
  · rw [forget_nodup_mem pending.nodup]
    intro entered
    exact entered.2 rfl

/--
After a removal has been told, the item is no longer stale; if it is still on
the tile, it is missing.
-/
lemma postRemoveItem_pending (pending : Pending registry missing stale state)
  (done : postRemoveItem registry quiet fuel state tile item = some next) :
  Pending registry ((tile, item) :: missing)
      (stale.filter (· ≠ (tile, item))) next ∧
    next.lastCacheTile = some tile ∧
      some item ∉ next.lastCacheItemVector ∧
        next.things = state.things ∧ next.key = state.key := by
  have looked := onItemMove_looked done
  by_cases here : state.lastCacheTile = some tile
  · have patched :
        Pending registry ((tile, item) :: missing)
            (stale.filter (· ≠ (tile, item)))
            (onRemoveTileItem state tile item) ∧
          some item ∉ (onRemoveTileItem state tile item).lastCacheItemVector :=
      onRemoveTileItem_pending pending here
    have still : (onRemoveTileItem state tile item).lastCacheTile = some tile := by
      rw [onRemoveTileItem, if_pos here, ← here]
    refine ⟨looked.pending_of_kept still patched.1, looked.tile_eq, ?_, ?_, ?_⟩
    · rw [looked.kept still]
      exact patched.2
    · rw [looked.things, onRemoveTileItem, if_pos here]
    · rw [looked.key, onRemoveTileItem, if_pos here]
  · have removed : onRemoveTileItem state tile item = state := if_neg here
    rw [removed] at looked
    refine ⟨looked.pending_of_rebuilt here pending.tidy ?_, looked.tile_eq,
      ?_, looked.things, looked.key⟩
    · intro other moved _ _
      cases moved
      exact mem_cons_self
    · rw [looked.rebuilt here, mem_remembered]
      intro entered
      exact entered.2.1 rfl

@[simp]
lemma onAddTileItem_things (state : State) (tile : Position) (item : Nat) :
  (onAddTileItem registry state tile item).things = state.things := by
  unfold onAddTileItem
  split_ifs <;> rfl

@[simp]
lemma onAddTileItem_key (state : State) (tile : Position) (item : Nat) :
  (onAddTileItem registry state tile item).key = state.key := by
  unfold onAddTileItem
  split_ifs <;> rfl

@[simp]
lemma onAddTileItem_lastCacheTile (state : State) (tile : Position) (item : Nat) :
  (onAddTileItem registry state tile item).lastCacheTile = state.lastCacheTile := by
  unfold onAddTileItem
  split_ifs <;> rfl

lemma mem_onAddTileItem (here : state.lastCacheTile = some tile) (other : Nat) :
  some other ∈
      (onAddTileItem registry state tile item).lastCacheItemVector ↔
    some other ∈ state.lastCacheItemVector ∨
      other = item ∧ state.hasTileEvent registry item := by
  rw [onAddTileItem, if_pos here]
  by_cases entered : some item ∈ state.lastCacheItemVector
  · rw [if_pos entered]
    constructor
    · exact .inl
    · rintro (old | ⟨rfl, _⟩)
      · exact old
      · exact entered
  · rw [if_neg entered]
    by_cases event : registry.hasTileEvent (state.key item)
    · simp [event, State.remember, State.hasTileEvent]
    · simp [event, State.hasTileEvent]

lemma onAddTileItem_nodup (nodup : (state.lastCacheItemVector.filterMap id).Nodup) :
  ((onAddTileItem registry state tile item).lastCacheItemVector.filterMap id).Nodup := by
  rw [onAddTileItem]
  split_ifs with here entered event
  · exact nodup
  · simp only [State.remember, filterMap_append]
    refine nodup.append (by simp) ?_
    intro known old new
    simp only [filterMap_cons_some (f := id) rfl, filterMap_nil, mem_singleton] at new
    rw [new, mem_filterMap_id] at old
    exact entered old
  · exact nodup
  · exact nodup

section

variable (pending : Pending registry missing stale state)
include pending

lemma onAddTileItem_pending
  (lies : item ∈ itemsOn state tile) (here : state.lastCacheTile = some tile) :
  Pending registry (missing.filter (· ≠ (tile, item))) stale
    (onAddTileItem registry state tile item) := by
  have lists : itemsOn (onAddTileItem registry state tile item) = itemsOn state := by
    funext other
    rw [itemsOn, onAddTileItem_things, itemsOn]
  have events : ∀ other,
      (onAddTileItem registry state tile item).hasTileEvent registry other =
        state.hasTileEvent registry other := by
    intro other
    rw [State.hasTileEvent, onAddTileItem_key, State.hasTileEvent]
  constructor
  · intro other known
    rw [onAddTileItem_lastCacheTile, mem_onAddTileItem here, lists, events]
    rintro here' (old | ⟨rfl, event⟩)
    · exact pending.entry other known here' old
    · have tiles : tile = other := Option.some.inj (here.symm.trans here')
      rw [← tiles]
      exact .inl ⟨lies, event⟩
  · intro other known
    rw [onAddTileItem_lastCacheTile, mem_onAddTileItem here, lists, events]
    intro here' lies' event
    by_cases same : known = item
    · subst same
      exact .inl (.inr ⟨rfl, event⟩)
    · rcases pending.found other known here' lies' event with old | old
      · exact .inl (.inl old)
      · right
        simp only [mem_filter, old, true_and, decide_eq_true_eq]
        intro pair
        exact same (Prod.mk.inj pair).2
  · exact onAddTileItem_nodup pending.nodup
  · rw [lists]
    exact pending.tidy

/--
After an addition has been told, the item is no longer missing, unless the tile
was not the remembered one and the item has a tile event.
-/
lemma postAddItem_pending (lies : item ∈ itemsOn state tile)
  (awaited : state.hasTileEvent registry item → state.lastCacheTile = some tile)
  (done : postAddItem registry quiet fuel state tile item = some next) :
  Pending registry (missing.filter (· ≠ (tile, item))) stale next ∧
    next.lastCacheTile = some tile ∧ next.things = state.things ∧ next.key = state.key := by
  have looked := onItemMove_looked done
  by_cases here : state.lastCacheTile = some tile
  · have still : (onAddTileItem registry state tile item).lastCacheTile = some tile := by
      rw [onAddTileItem_lastCacheTile, here]
    refine ⟨looked.pending_of_kept still
      (onAddTileItem_pending pending lies here), looked.tile_eq, ?_, ?_⟩
    · rw [looked.things, onAddTileItem_things]
    · rw [looked.key, onAddTileItem_key]
  · have added : onAddTileItem registry state tile item = state := if_neg here
    rw [added] at looked
    refine ⟨looked.pending_of_rebuilt here pending.tidy ?_, looked.tile_eq,
      looked.things, looked.key⟩
    intro other moved _ event
    cases moved
    exact absurd (awaited event) here

/-! ## Changes of the tiles -/

lemma Pending.place_item (new : item ∉ itemsOn state tile) (index : Nat) :
  Pending registry ((tile, item) :: missing) stale (state.place tile index (.item item)) := by
  have perm := itemsOn_place_perm state tile index item
  constructor
  · intro other known here entered
    rcases pending.entry other known here entered with ⟨lies, event⟩ | old
    · left
      refine ⟨?_, event⟩
      by_cases same : other = tile
      · subst same
        exact perm.mem_iff.mpr (mem_cons_of_mem _ lies)
      · rw [itemsOn_place_of_ne state index _ same]
        exact lies
    · exact .inr old
  · intro other known here lies event
    by_cases same : other = tile
    · subst same
      rcases mem_cons.mp (perm.mem_iff.mp lies) with rfl | old
      · exact .inr mem_cons_self
      · rcases pending.found other known here old event with entered | late
        · exact .inl entered
        · exact .inr (mem_cons_of_mem _ late)
    · rw [itemsOn_place_of_ne state index _ same] at lies
      rcases pending.found other known here lies event with entered | late
      · exact .inl entered
      · exact .inr (mem_cons_of_mem _ late)
  · exact pending.nodup
  · intro other
    by_cases same : other = tile
    · subst same
      rw [perm.nodup_iff, nodup_cons]
      exact ⟨new, pending.tidy other⟩
    · rw [itemsOn_place_of_ne state index _ same]
      exact pending.tidy other

lemma Pending.congr_items (items : itemsOn next = itemsOn state) (key : next.key = state.key)
  (tile : next.lastCacheTile = state.lastCacheTile)
  (cache : next.lastCacheItemVector = state.lastCacheItemVector) :
  Pending registry missing stale next := by
  have events : ∀ item,
      next.hasTileEvent registry item = state.hasTileEvent registry item := by
    intro item
    rw [State.hasTileEvent, key, State.hasTileEvent]
  constructor
  · intro other item
    rw [tile, cache, items, events]
    exact pending.entry other item
  · intro other item
    rw [tile, cache, items, events]
    exact pending.found other item
  · rw [cache]
    exact pending.nodup
  · rw [items]
    exact pending.tidy

lemma Pending.take_item (tile : Position) (item : Nat) :
  Pending registry missing ((tile, item) :: stale) (state.take tile (.item item)) := by
  have mem : ∀ other known,
      known ∈ itemsOn (state.take tile (.item item)) other ↔
        known ∈ itemsOn state other ∧ ¬ (other = tile ∧ known = item) := by
    intro other known
    rw [itemsOn_take_item]
    by_cases same : other = tile
    · subst same
      rw [update_self, (pending.tidy other).mem_erase_iff]
      simp [and_comm]
    · simp [same]
  constructor
  · intro other known here entered
    rcases pending.entry other known here entered with ⟨lies, event⟩ | old
    · by_cases taken : other = tile ∧ known = item
      · right
        rw [taken.1, taken.2]
        exact mem_cons_self
      · exact .inl ⟨(mem other known).mpr ⟨lies, taken⟩, event⟩
    · exact .inr (mem_cons_of_mem _ old)
  · intro other known here lies event
    exact pending.found other known here ((mem other known).mp lies).1 event
  · exact pending.nodup
  · intro other
    rw [itemsOn_take_item]
    by_cases same : other = tile
    · subst same
      rw [update_self]
      exact (pending.tidy other).erase item
    · rw [update_of_ne same]
      exact pending.tidy other

end

lemma Pending.drop_stale (pending : Pending registry missing ((tile, item) :: stale) state)
  (unknown : state.lastCacheTile = some tile → some item ∉ state.lastCacheItemVector) :
  Pending registry missing stale state := by
  refine ⟨?_, pending.found, pending.nodup, pending.tidy⟩
  intro other known here entered
  rcases pending.entry other known here entered with lies | old
  · exact .inl lies
  · rcases mem_cons.mp old with same | old
    · cases same
      exact absurd entered (unknown here)
    · exact .inr old

lemma Pending.drop_missing (pending : Pending registry ((tile, item) :: missing) stale state)
  (needless : item ∈ itemsOn state tile → ¬ state.hasTileEvent registry item) :
  Pending registry missing stale state := by
  refine ⟨pending.entry, ?_, pending.nodup, pending.tidy⟩
  intro other known here lies event
  rcases pending.found other known here lies event with entered | late
  · exact .inl entered
  · rcases mem_cons.mp late with same | late
    · cases same
      exact absurd event (needless lies)
    · exact .inr late

lemma Pending.displace (pending : Pending registry missing stale state) {displaced : Option Nat}
  (unknown : ∀ old,
    displaced = some old →
      state.lastCacheTile = some tile → some old ∉ state.lastCacheItemVector) :
  Pending registry missing stale (state.displace tile displaced) := by
  cases displaced with
  | none => exact pending
  | some old => exact (pending.take_item tile old).drop_stale (unknown old rfl)

lemma Pending.relabel (pending : Pending registry ((tile, item) :: missing) stale state)
  (here : state.lastCacheTile = some tile) (unknown : some item ∉ state.lastCacheItemVector)
  (key : ItemKey) :
  Pending registry ((tile, item) :: missing) stale (state.relabel item key) := by
  have events : ∀ known,
      known ≠ item →
        (state.relabel item key).hasTileEvent registry known =
          state.hasTileEvent registry known := by
    intro known ne
    simp [State.hasTileEvent, State.relabel, ne]
  refine ⟨?_, ?_, pending.nodup, pending.tidy⟩
  · intro other known here' entered
    have ne : known ≠ item := by
      rintro rfl
      exact unknown entered
    rw [events known ne]
    exact pending.entry other known here' entered
  · intro other known here' lies event
    by_cases same : known = item
    · have tiles : tile = other := Option.some.inj (here.symm.trans here')
      right
      rw [same, tiles]
      exact mem_cons_self
    · rw [events known same] at event
      exact pending.found other known here' lies event

lemma Pending.replace (pending : Pending registry missing stale state) {old new : Nat}
  (absent : new ∉ itemsOn state tile) :
  Pending registry ((tile, new) :: missing) ((tile, old) :: stale)
    (state.replace tile old new) := by
  have mem : ∀ known,
      known ∈ itemsOn (state.replace tile old new) tile ↔
        known ∈ itemsOn state tile ∧ known ≠ old ∨ known = new ∧ old ∈ itemsOn state tile := by
    intro known
    rw [itemsOn_replace, update_self, mem_map]
    constructor
    · rintro ⟨item, lies, result⟩
      by_cases same : item = old
      · rw [if_pos same] at result
        exact .inr ⟨result.symm, same ▸ lies⟩
      · rw [if_neg same] at result
        exact .inl ⟨result ▸ lies, result ▸ same⟩
    · rintro (⟨lies, ne⟩ | ⟨rfl, lies⟩)
      · exact ⟨known, lies, if_neg ne⟩
      · exact ⟨old, lies, if_pos rfl⟩
  have elsewhere : ∀ other,
      other ≠ tile → itemsOn (state.replace tile old new) other = itemsOn state other := by
    intro other ne
    rw [itemsOn_replace, update_of_ne ne]
  constructor
  · intro other known here entered
    rcases pending.entry other known here entered with ⟨lies, event⟩ | late
    · by_cases same : other = tile
      · subst same
        by_cases gone : known = old
        · right
          rw [gone]
          exact mem_cons_self
        · exact .inl ⟨(mem known).mpr (.inl ⟨lies, gone⟩), event⟩
      · left
        rw [elsewhere other same]
        exact ⟨lies, event⟩
    · exact .inr (mem_cons_of_mem _ late)
  · intro other known here lies event
    have late :
        known ∈ itemsOn state other →
          some known ∈ state.lastCacheItemVector ∨ (other, known) ∈ (tile, new) :: missing := by
      intro before
      rcases pending.found other known here before event with entered | late
      · exact .inl entered
      · exact .inr (mem_cons_of_mem _ late)
    by_cases same : other = tile
    · subst same
      rcases (mem known).mp lies with ⟨before, _⟩ | ⟨rfl, _⟩
      · exact late before
      · exact .inr mem_cons_self
    · rw [elsewhere other same] at lies
      exact late lies
  · exact pending.nodup
  · intro other
    by_cases same : other = tile
    · subst same
      rw [itemsOn_replace, update_self]
      apply (pending.tidy other).map_on
      intro first lies second lies' result
      by_cases one : first = old
      · by_cases two : second = old
        · rw [one, two]
        · rw [if_pos one, if_neg two] at result
          rw [result] at absent
          exact absurd lies' absent
      · by_cases two : second = old
        · rw [if_neg one, if_pos two] at result
          rw [← result] at absent
          exact absurd lies absent
        · rwa [if_neg one, if_neg two] at result
    · rw [elsewhere other same]
      exact pending.tidy other

end OTServ.Movement
