import OTServ.Movement.CacheCoherence

/-!
# Runs of the step event cache

The cache stays coherent in every run in which an item with a tile event comes
only to the tile that is remembered, is taken from its tile as a whole and not
replaced there, and in which the scripts move nothing; the events found by the
cache are then those which a scan of the tile would find.
-/

namespace OTServ.Movement

open Library.GuardedRuns
open Map
open List Function

variable {registry : Registry}

structure Event where
  operation : Operation
  scripts : Scripts

/--
What the tiles ensure: an item comes to a tile on which it is not, and only
items that lie on a tile are stacked upon, transformed or replaced.
-/
def Legal (state : State) : Operation → Prop
  | .add tile _ item _ => item ∉ itemsOn state tile
  | .grow tile item => item ∈ itemsOn state tile
  | .inside tile item => item ∉ itemsOn state tile
  | .move origin target item complete _ moved _ =>
    moved ∈ itemsOn state target → complete ∧ origin = target ∧ moved = item
  | .transform tile item _ => item ∈ itemsOn state tile
  | .replace tile old new =>
    old ∈ itemsOn state tile ∧ new ∉ itemsOn state tile
  | _ => True

def Step (registry : Registry) (state : State) (event : Event) (next : State) : Prop :=
  Legal state event.operation ∧
    ∃ fuel, perform registry event.scripts fuel state event.operation = some next

/-- The item that makes way has no tile event or its tile is not remembered. -/
def MakesWay (registry : Registry) (state : State) (tile : Position) (displaced : Option Nat) :
  Prop :=
  ∀ old, displaced = some old → state.hasTileEvent registry old → state.lastCacheTile ≠ some tile

def Respectful (registry : Registry) (state : State) : Operation → Prop
  | .add tile _ item displaced =>
    (state.hasTileEvent registry item →
      state.lastCacheTile = some tile) ∧
      MakesWay registry state tile displaced
  | .shrink _ item => ¬ state.hasTileEvent registry item
  | .grow tile item =>
    state.hasTileEvent registry item → state.lastCacheTile = some tile
  | .move origin target item complete _ moved displaced =>
    (complete = false → ¬ state.hasTileEvent registry item) ∧
      (state.hasTileEvent registry moved → origin = target) ∧
        MakesWay registry state target displaced
  | .replace tile _ new =>
    state.hasTileEvent registry new → state.lastCacheTile = some tile
  | _ => True

/-- The condition on an event: also, its scripts move nothing. -/
def RespectfulEvent (registry : Registry) (state : State) (event : Event) : Prop :=
  event.scripts = quiet ∧ Respectful registry state event.operation

/-! ## Single operations -/

variable {state next : State} {tile other : Position} {displaced : Option Nat}
  {index item known fuel : Nat} {eventType : MoveEventType}

lemma Coherent.unknown
  (coherent : Coherent registry state) (way : MakesWay registry state tile displaced) :
  ∀ old,
    displaced = some old →
      state.lastCacheTile = some tile → some old ∉ state.lastCacheItemVector := by
  intro old which here entered
  rcases coherent.entry tile old here entered with ⟨_, event⟩ | late
  · exact way old which event here
  · cases late

lemma filter_told (tile : Position) (item : Nat) :
  [(tile, item)].filter (· ≠ (tile, item)) = [] := by
  simp

lemma mem_itemsOn_place (state : State) (tile : Position) (index item : Nat) :
  item ∈ itemsOn (state.place tile index (.item item)) tile :=
  (itemsOn_place_perm state tile index item).mem_iff.mpr mem_cons_self

lemma mem_itemsOn_place_iff (state : State) :
  known ∈ itemsOn (state.place tile index (.item item)) other ↔
    other = tile ∧ known = item ∨ known ∈ itemsOn state other := by
  by_cases same : other = tile
  · subst same
    rw [(itemsOn_place_perm state other index item).mem_iff, mem_cons]
    simp
  · rw [itemsOn_place_of_ne state index _ same]
    simp [same]

lemma not_mem_itemsOn_take (nodup : (itemsOn state tile).Nodup) :
  item ∉ itemsOn (state.take tile (.item item)) tile := by
  rw [itemsOn_take_item, update_self, nodup.mem_erase_iff]
  intro found
  exact found.1 rfl

lemma mem_of_mem_take (lies : known ∈ itemsOn (state.take tile (.item item)) other) :
  known ∈ itemsOn state other := by
  rw [itemsOn_take_item] at lies
  by_cases same : other = tile
  · subst same
    rw [update_self] at lies
    exact mem_of_mem_erase lies
  · rwa [update_of_ne same] at lies

lemma mem_of_mem_displace (lies : known ∈ itemsOn (state.displace tile displaced) other) :
  known ∈ itemsOn state other := by
  cases displaced with
  | none => exact lies
  | some old => exact mem_of_mem_take lies

@[simp]
lemma displace_key (state : State) (tile : Position) (displaced : Option Nat) :
  (state.displace tile displaced).key = state.key := by
  cases displaced <;> rfl

@[simp]
lemma displace_lastCacheTile (state : State) (tile : Position) (displaced : Option Nat) :
  (state.displace tile displaced).lastCacheTile = state.lastCacheTile := by
  cases displaced <;> rfl

section

variable (coherent : Coherent registry state)
include coherent

lemma add_coherent (legal : Legal state (.add tile index item displaced))
  (respectful : Respectful registry state (.add tile index item displaced))
  (done : perform registry quiet fuel state (.add tile index item displaced) = some next) :
  Coherent registry next := by
  have left := coherent.displace (coherent.unknown respectful.2)
  have placed := left.place_item (fun lies => legal (mem_of_mem_displace lies)) index
  have told :=
    postAddItem_pending placed (mem_itemsOn_place _ tile index item)
      (by
        intro event
        simp only [State.hasTileEvent, State.place, displace_key] at event
        simp only [State.place, displace_lastCacheTile]
        exact respectful.1 event)
      done
  rw [filter_told] at told
  exact told.1

lemma remove_coherent
  (done : perform registry quiet fuel state (.remove tile item) = some next) :
  Coherent registry next := by
  have told := postRemoveItem_pending (coherent.take_item tile item) done
  rw [filter_told] at told
  apply told.1.drop_missing
  intro lies
  rw [itemsOn, told.2.2.2.1] at lies
  exact absurd lies (not_mem_itemsOn_take (coherent.tidy tile))

lemma postRemoveItem_coherent
  (needless : item ∈ itemsOn state tile → ¬ state.hasTileEvent registry item)
  (done : postRemoveItem registry quiet fuel state tile item = some next) :
  Coherent registry next := by
  have told := postRemoveItem_pending coherent done
  apply told.1.drop_missing
  rw [itemsOn, told.2.2.2.1, State.hasTileEvent, told.2.2.2.2]
  exact needless

lemma grow_coherent (legal : Legal state (.grow tile item))
  (respectful : Respectful registry state (.grow tile item))
  (done : perform registry quiet fuel state (.grow tile item) = some next) :
  Coherent registry next :=
  (postAddItem_pending coherent legal respectful done).1

lemma move_coherent {origin target : Position} {complete : Bool} {moved : Nat}
  (legal : Legal state (.move origin target item complete index moved displaced))
  (respectful :
    Respectful registry state (.move origin target item complete index moved displaced))
  (done :
    perform registry quiet fuel state
      (.move origin target item complete index moved displaced) = some next) :
  Coherent registry next := by
  rcases respectful with ⟨whole, home, way⟩
  rcases Option.bind_eq_some_iff.mp done with ⟨told, removal, addition⟩
  have unknown := coherent.unknown way
  -- what has been taken is stale, what has been put down is missing
  have taken :
      Pending registry [] (if complete then [(origin, item)] else [])
        (if complete then state.take origin (.item item) else state) := by
    cases complete with
    | false => exact coherent
    | true => exact coherent.take_item origin item
  have left := taken.displace (by cases complete <;> exact unknown)
  have absent :
      moved ∉
        itemsOn
          ((if complete then state.take origin (.item item)
            else state).displace target displaced) target := by
    intro lies
    have before := mem_of_mem_displace lies
    cases complete with
    | false =>
      rcases legal before with ⟨impossible, _⟩
      cases impossible
    | true =>
      rcases legal (mem_of_mem_take before) with ⟨_, rfl, rfl⟩
      exact not_mem_itemsOn_take (coherent.tidy origin) before
  have placed := left.place_item absent index
  have key :
      (state.shift origin target item complete index moved displaced).key =
        state.key := by
    simp only [State.shift, State.place, displace_key]
    cases complete <;> rfl
  have first := postRemoveItem_pending placed removal
  have second :=
    postAddItem_pending first.1
      (by
        rw [itemsOn, first.2.2.2.1]
        exact mem_itemsOn_place _ target index moved)
      (by
        intro event
        rw [State.hasTileEvent, first.2.2.2.2] at event
        rw [first.2.1, home (by rwa [State.hasTileEvent, ← key])])
      addition
  have stale : (if complete then [(origin, item)] else []).filter (· ≠ (origin, item)) = [] := by
    cases complete <;> simp
  rw [stale] at second
  by_cases back : (origin, item) = (target, moved)
  · rw [back] at second
    simpa [Coherent] using second.1
  · have missing :
        [(origin, item), (target, moved)].filter (· ≠ (target, moved)) = [(origin, item)] := by
      simp [back]
    rw [missing] at second
    apply second.1.drop_missing
    rw [itemsOn, second.2.2.1, first.2.2.2.1, State.hasTileEvent, second.2.2.2, first.2.2.2.2]
    intro lies
    rcases (mem_itemsOn_place_iff _).mp lies with ⟨rfl, rfl⟩ | before
    · exact absurd rfl back
    · cases complete with
      | false =>
        rw [State.place, displace_key]
        exact whole rfl
      | true =>
        exact absurd (mem_of_mem_displace before) (not_mem_itemsOn_take (coherent.tidy origin))

lemma transform_coherent {key : ItemKey} (legal : Legal state (.transform tile item key))
  (done : perform registry quiet fuel state (.transform tile item key) = some next) :
  Coherent registry next := by
  rcases Option.bind_eq_some_iff.mp done with ⟨told, removal, addition⟩
  rcases postRemoveItem_pending coherent removal with ⟨pending, here, unknown, things, _⟩
  have second :=
    postAddItem_pending (pending.relabel here unknown key)
      (by
        rw [itemsOn, State.relabel, things]
        exact legal)
      (fun _ => here) addition
  rw [filter_told] at second
  exact second.1

lemma replace_coherent {old new : Nat} (legal : Legal state (.replace tile old new))
  (respectful : Respectful registry state (.replace tile old new))
  (done : perform registry quiet fuel state (.replace tile old new) = some next) :
  Coherent registry next := by
  rcases Option.bind_eq_some_iff.mp done with ⟨told, addition, removal⟩
  have exchanged : Pending registry [(tile, new)] [(tile, old)] (state.replace tile old new) :=
    coherent.replace legal.2
  have lies : ∀ known,
      known ∈ itemsOn (state.replace tile old new) tile ↔
        ∃ item ∈ itemsOn state tile, (if item = old then new else item) = known := by
    intro known
    rw [itemsOn_replace, update_self, mem_map]
  have first :=
    postAddItem_pending exchanged ((lies new).mpr ⟨old, legal.1, if_pos rfl⟩) respectful addition
  have second := postRemoveItem_pending first.1 removal
  rw [filter_told, filter_told] at second
  apply second.1.drop_missing
  rw [itemsOn, second.2.2.2.1, first.2.2.1]
  intro still
  rcases (lies old).mp still with ⟨item, before, result⟩
  by_cases same : item = old
  · rw [if_pos same] at result
    rw [result] at legal
    exact absurd legal.1 legal.2
  · rw [if_neg same] at result
    exact absurd result same

lemma perform_coherent {operation : Operation} (legal : Legal state operation)
  (respectful : Respectful registry state operation)
  (done : perform registry quiet fuel state operation = some next) : Coherent registry next := by
  cases operation with
  | appear creature tile index =>
    exact onCreatureMove_coherent
      (coherent.congr_items (itemsOn_place_creature state tile index creature) rfl rfl rfl)
      done
  | vanish creature tile =>
    exact onCreatureMove_coherent
      (coherent.congr_items (itemsOn_take_creature state tile creature) rfl rfl rfl)
      done
  | walk creature origin target index =>
    rcases Option.bind_eq_some_iff.mp done with ⟨left, stepOut, stepIn⟩
    have shifted :
        Coherent registry
          ((state.take origin (.creature creature)).place target index (.creature creature)) := by
      refine coherent.congr_items ?_ rfl rfl rfl
      rw [itemsOn_place_creature, itemsOn_take_creature]
    exact onCreatureMove_coherent (onCreatureMove_coherent shifted stepOut) stepIn
  | add tile index item displaced =>
    exact add_coherent coherent legal respectful done
  | remove tile item => exact remove_coherent coherent done
  | shrink tile item =>
    exact postRemoveItem_coherent coherent (fun _ => respectful) done
  | grow tile item => exact grow_coherent coherent legal respectful done
  | inside tile item =>
    exact postRemoveItem_coherent coherent (fun lies => absurd lies legal) done
  | move origin target item complete index moved displaced =>
    exact move_coherent coherent legal respectful done
  | transform tile item key => exact transform_coherent coherent legal done
  | replace tile old new =>
    exact replace_coherent coherent legal respectful done

end

/-! ## The same events -/

def State.uncached (state : State) : State :=
  { state with lastCacheTile := none }

lemma raised_filter
  {key : Nat → ItemKey} {mover : Thing} (ofTile : eventType.OfTile) (items : List Nat) :
  raised registry key eventType mover
      (items.filter fun item => registry.hasTileEvent (key item)) =
    raised registry key eventType mover items := by
  rw [raised, filterMap_filter]
  apply filterMap_congr
  intro item _
  by_cases known : registry.hasTileEvent (key item)
  · rw [if_pos known]
  · have silent : registry.getEvent (key item) eventType = none := by
      by_contra found
      exact known (registry.hasTileEvent_of_getEvent ofTile (Option.isSome_iff_ne_none.mpr found))
    simp [known, silent]

lemma Coherent.perm
  (coherent : Coherent registry state) (here : state.lastCacheTile = some tile) :
  (state.lastCacheItemVector.filterMap id).Perm
    ((itemsOn state tile).filter fun item => registry.hasTileEvent (state.key item)) := by
  rw [perm_ext_iff_of_nodup coherent.nodup ((coherent.tidy tile).filter _)]
  intro item
  rw [mem_filterMap_id, mem_filter]
  constructor
  · intro entered
    rcases coherent.entry tile item here entered with found | late
    · exact found
    · cases late
  · rintro ⟨lies, event⟩
    rcases coherent.found tile item here lies event with entered | late
    · exact entered
    · cases late

/-- The cached loop and the scan fire the same events. -/
lemma fireTileItems_same (ofTile : eventType.OfTile) (coherent : Coherent registry state)
  (here : state.lastCacheTile = some tile) (mover : Thing) :
  ∃ fuel cached scanned,
    fireTileItems registry quiet fuel state tile eventType mover =
        some cached ∧
      fireTileItems registry quiet fuel state.uncached tile eventType
          mover = some scanned ∧
        cached.fired.Perm scanned.fired := by
  have returns :
      (fireCached registry quiet eventType mover
        (state.lastCacheItemVector.length + 1) 0 state).isSome :=
    fireCached_returns (Nat.zero_le _) (Nat.lt_succ_self _)
  rcases Option.isSome_iff_exists.mp returns with ⟨cached, done⟩
  refine ⟨state.lastCacheItemVector.length + 1, cached, _, ?_, rfl, ?_⟩
  · rw [fireTileItems, if_pos here, done]
  · rw [fireCached_quiet done, scanTile_quiet ofTile]
    apply List.Perm.append_left
    have all :
        (((state.uncached.things tile).drop 0).take
          (state.uncached.things tile).length).filterMap Thing.item? = itemsOn state tile := by
      simp [itemsOn, State.uncached]
    rw [drop_zero, all, ← raised_filter ofTile (itemsOn state tile)]
    exact (coherent.perm here).filterMap _

section

variable (coherent : Coherent registry state)
include coherent

lemma Coherent.logged (events : List Fired) : Coherent registry (state.logged events) :=
  coherent.congr_items rfl rfl rfl rfl

variable (here : state.lastCacheTile = some tile)
include here

lemma onCreatureMove_same (creature : Nat) (isIn : Bool) :
  ∃ fuel cached scanned,
    onCreatureMove registry quiet fuel state creature tile isIn =
        some cached ∧
      onCreatureMove registry quiet fuel state.uncached creature tile isIn =
          some scanned ∧
        cached.fired.Perm scanned.fired := by
  have ofTile : (if isIn then MoveEventType.stepIn else .stepOut).OfTile := by
    cases isIn <;> simp [MoveEventType.OfTile]
  simp only [onCreatureMove, State.fireFound_quiet]
  exact fireTileItems_same ofTile (coherent.logged _) here _

lemma onItemMove_same (item : Nat) (isAdd : Bool) :
  ∃ fuel cached scanned,
    onItemMove registry quiet fuel state item tile isAdd = some cached ∧
      onItemMove registry quiet fuel state.uncached item tile isAdd =
          some scanned ∧
        cached.fired.Perm scanned.fired := by
  have ofTile :
      (if isAdd then MoveEventType.addItemItemTile
        else .removeItemItemTile).OfTile := by
    cases isAdd <;> simp [MoveEventType.OfTile]
  simp only [onItemMove, State.fireFound_quiet]
  exact fireTileItems_same ofTile ((coherent.logged _).logged _) here _

end

structure Fresh (state : State) : Prop where
  tile : state.lastCacheTile = none
  cache : state.lastCacheItemVector = []
  tidy : ∀ tile, (itemsOn state tile).Nodup

lemma Fresh.coherent (fresh : Fresh state) : Coherent registry state where
  entry tile item here := by
    rw [fresh.tile] at here
    cases here
  found tile item here := by
    rw [fresh.tile] at here
    cases here
  nodup := by
    rw [fresh.cache]
    exact nodup_nil
  tidy := fresh.tidy

/--
In every respectful run the entries of the cache are the items on the
remembered tile which have a tile event, and the cached branches fire the same
events as a scan of the tile.
-/
theorem cache_stays_coherent (registry : Registry) (start finish : State) (fresh : Fresh start)
  (run : Reaches (Step registry) (RespectfulEvent registry) start finish) :
  Coherent registry finish ∧
    ∀ tile,
      finish.lastCacheTile = some tile →
        (∀ creature isIn,
          ∃ fuel cached scanned,
            onCreatureMove registry quiet fuel finish creature tile isIn =
                some cached ∧
              onCreatureMove registry quiet fuel finish.uncached creature
                  tile isIn = some scanned ∧
                cached.fired.Perm scanned.fired) ∧
          ∀ item isAdd,
            ∃ fuel cached scanned,
              onItemMove registry quiet fuel finish item tile isAdd =
                  some cached ∧
                onItemMove registry quiet fuel finish.uncached item tile
                    isAdd = some scanned ∧
                  cached.fired.Perm scanned.fired := by
  have coherent : Coherent registry finish := by
    apply run.invariant fresh.coherent
    rintro state ⟨operation, scripts⟩ next holds respectful taken
    rcases respectful with ⟨silence, respectful⟩
    subst silence
    rcases taken with ⟨legal, fuel, done⟩
    exact perform_coherent holds legal respectful done
  refine ⟨coherent, ?_⟩
  intro tile here
  exact ⟨onCreatureMove_same coherent here, onItemMove_same coherent here⟩

/-- The only event: items of type 5 have one for creatures stepping in. -/
def trapRegistry : Registry where
  uniqueIdMap _ _ := none
  actionIdMap _ _ := none
  itemIdMap id eventType := if id = 5 ∧ eventType = .stepIn then some 1 else none
  positionMap _ _ := none

def glade : Position := ⟨100, 100, 7⟩

/-- An empty map; item 1 is a trap, all other items are of type 6. -/
def meadow : State where
  things _ := []
  key item := ⟨0, 0, if item = 1 then 5 else 6⟩
  lastCacheTile := none
  lastCacheItemVector := []
  fired := []

lemma meadow_fresh : Fresh meadow :=
  ⟨rfl, rfl, fun _ => nodup_nil⟩

def laid (item : Nat) : State :=
  { meadow.place glade 0 (.item item) with lastCacheTile := some glade }

lemma meadow_step (item : Nat) :
  Step trapRegistry meadow ⟨.add glade 0 item none, quiet⟩ (laid item) := by
  refine ⟨by simp [Legal, itemsOn, meadow], 1, ?_⟩
  have silent : ∀ key,
      trapRegistry.getEvent key .addItem = none := by
    intro key
    simp [trapRegistry, Registry.getEvent]
  have nowhere : trapRegistry.positionMap glade .addItem = none := rfl
  simp [perform, State.displace, postAddItem, onAddTileItem, onItemMove,
    State.fireFound, fireTileItems, scanTile, State.place, meadow, laid,
    silent, nowhere]

/-- An item without a tile event is put on the glade. -/
theorem cache_stays_coherent_on_glade : Coherent trapRegistry (laid 2) := by
  have respectful : RespectfulEvent trapRegistry meadow ⟨.add glade 0 2 none, quiet⟩ := by
    refine ⟨rfl, ?_, ?_⟩
    · intro event
      exact absurd event (by decide)
    · intro old displaced
      cases displaced
  exact (cache_stays_coherent trapRegistry meadow (laid 2) meadow_fresh
    (.tail .refl respectful (meadow_step 2))).1

/-- A trap put on a tile that is not remembered is not in the cache. -/
theorem trap_left_out :
  Fresh meadow ∧
    ∃ finish,
      Reaches (Step trapRegistry) Always meadow finish ∧ ¬ Coherent trapRegistry finish := by
  refine ⟨meadow_fresh, laid 1, .tail .refl trivial (meadow_step 1), ?_⟩
  intro coherent
  have lies : 1 ∈ itemsOn (laid 1) glade := by decide
  have event : (laid 1).hasTileEvent trapRegistry 1 := by decide
  rcases coherent.found glade 1 rfl lies event with entered | late
  · cases entered
  · cases late

end OTServ.Movement
