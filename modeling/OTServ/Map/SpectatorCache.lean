import OTServ.Library.GuardedRuns
import OTServ.Map.Spectators

/-!
# The spectator cache

In every run what the cache keeps at a position is what a scan there would find.
Placing, removing and moving a creature clears the cache: a creature in a leaf
is always on the tile at its position, so it is found there when it is removed.
-/

namespace OTServ.Spectators

open Library.GuardedRuns
open OTServ.Map
open List Function

namespace Map

variable {map next : Map} {creature : Nat} {pos : Position}

lemma mem_foldl_of_step
  {Thing : Type} {takes : List Nat → Thing → List Nat} {finds : Thing → Nat → Prop}
  (step :
    ∀ list thing creature, creature ∈ takes list thing ↔ creature ∈ list ∨ finds thing creature)
  (things : List Thing) (list : List Nat) (creature : Nat) :
  creature ∈ things.foldl takes list ↔
    creature ∈ list ∨ ∃ thing ∈ things, finds thing creature := by
  induction things generalizing list with
  | nil => simp
  | cons thing rest ih =>
    rw [foldl_cons, ih, step, or_assoc]
    simp only [mem_cons, exists_eq_or_imp]

def Finds (map : Map) (centerPos : Position) (range : Range) (creature : Nat) : Prop :=
  ∃ ny ∈ rows centerPos range,
    ∃ nx ∈ columns centerPos range,
      ∃ found ∈ map.creatureList ⟨nx, ny⟩,
        map.spots centerPos range found = true ∧ creature = found

lemma mem_spot (map : Map) (centerPos : Position) (checkforduplicate : Bool) (range : Range)
  (list : List Nat) (found creature : Nat) :
  creature ∈ map.spot centerPos checkforduplicate range list found ↔
    creature ∈ list ∨ map.spots centerPos range found = true ∧ creature = found := by
  rw [spot]
  split
  · rename_i spotted
    split
    · rename_i known
      have listed : found ∈ list := by
        have both := (Bool.and_eq_true _ _).mp known
        exact contains_iff_mem.mp both.2
      constructor
      · exact .inl
      · rintro (old | ⟨_, rfl⟩)
        · exact old
        · exact listed
    · rw [mem_append, mem_singleton]
      simp only [spotted, true_and]
  · rename_i unseen
    constructor
    · exact .inl
    · rintro (old | ⟨spotted, _⟩)
      · exact old
      · exact absurd spotted unseen

lemma mem_getSpectatorsInternal (map : Map) (list : List Nat) (centerPos : Position)
  (checkforduplicate : Bool) (range : Range) (creature : Nat) :
  creature ∈
      map.getSpectatorsInternal list centerPos checkforduplicate range ↔
    creature ∈ list ∨ map.Finds centerPos range creature := by
  apply mem_foldl_of_step
  intro list ny creature
  apply mem_foldl_of_step
  intro list nx creature
  apply mem_foldl_of_step
  exact mem_spot map centerPos checkforduplicate range

/-! ## Creatures in leaves and on tiles -/

structure Sorted (map : Map) : Prop where
  once : ∀ node, (map.creatureList node).Nodup
  unique :
    ∀ creature node other,
      creature ∈ map.creatureList node → creature ∈ map.creatureList other → node = other

/-- A creature that is in a leaf is on the tile at its position. -/
def Stands (map : Map) (creature : Nat) : Prop :=
  ∀ node,
    creature ∈ map.creatureList node →
      ∃ position creatures,
        map.position creature = some position ∧
          map.creatures position = some creatures ∧ creature ∈ creatures

lemma swapRemove_perm {list rest : List Nat} (done : swapRemove creature list = some rest) :
  list.Perm (creature :: rest) := by
  rw [swapRemove] at done
  split at done
  · cases done
  · rename_i back last
    split at done
    · rename_i listed
      cases done
      rcases eq_append_cons_of_mem listed with ⟨before, after, rfl, absent⟩
      have index : (before ++ creature :: after).idxOf creature =
          before.length := by
        rw [idxOf_append_of_notMem absent]
        simp
      rw [index, set_append_right _ _ (le_refl _), Nat.sub_self, set_cons_zero]
      rcases eq_nil_or_concat after with rfl | ⟨front, other, rfl⟩
      · have same : back = creature := by
          simpa using last.symm
        rw [same, dropLast_concat]
        exact perm_append_comm
      · have same : back = other := by
          rw [concat_eq_append, ← cons_append, ← append_assoc, List.getLast?_concat] at last
          exact (Option.some.inj last).symm
        subst same
        have shape : before ++ back :: (front ++ [back]) =
            (before ++ back :: front) ++ [back] := by
          simp
        rw [concat_eq_append, shape, dropLast_concat]
        have moved : (front ++ [back]).Perm (back :: front) := perm_append_comm
        exact perm_middle.trans ((moved.append_left before).cons creature)
    · cases done

lemma nodeRemoveCreature_spec
  {node : Leaf} (sorted : Sorted map) (done : map.nodeRemoveCreature node creature = some next) :
  creature ∈ map.creatureList node ∧ Sorted next ∧
    (∀ other, creature ∉ next.creatureList other) ∧
      (∀ other place,
        other ∈ next.creatureList place → other ∈ map.creatureList place) ∧
        next.position = map.position ∧ next.creatures = map.creatures := by
  rcases Option.map_eq_some_iff.mp done with ⟨rest, removal, rfl⟩
  have perm := swapRemove_perm removal
  have nodup := nodup_cons.mp (perm.nodup_iff.mp (sorted.once node))
  have listed : creature ∈ map.creatureList node := perm.mem_iff.mpr mem_cons_self
  have fewer : ∀ other place,
      other ∈ update map.creatureList node rest place → other ∈ map.creatureList place := by
    intro other place mem
    by_cases same : place = node
    · subst same
      rw [update_self] at mem
      exact perm.mem_iff.mpr (mem_cons_of_mem _ mem)
    · rw [update_of_ne same] at mem
      exact mem
  refine ⟨listed, ⟨?_, ?_⟩, ?_, fewer, rfl, rfl⟩
  · intro place
    show (update map.creatureList node rest place).Nodup
    by_cases same : place = node
    · subst same
      rw [update_self]
      exact nodup.2
    · rw [update_of_ne same]
      exact sorted.once place
  · intro other first second here there
    exact sorted.unique other first second (fewer other first here) (fewer other second there)
  · intro other mem
    have before := fewer creature other mem
    have same := sorted.unique creature other node before listed
    subst same
    have still : creature ∈ update map.creatureList other rest other := mem
    rw [update_self] at still
    exact nodup.1 still

lemma nodeAddCreature_sorted
  {node : Leaf} (sorted : Sorted map) (absent : ∀ other, creature ∉ map.creatureList other) :
  Sorted (map.nodeAddCreature node creature) ∧
    ∀ other place,
      other ≠ creature →
        other ∈ (map.nodeAddCreature node creature).creatureList place →
          other ∈ map.creatureList place := by
  have origin : ∀ other place,
      other ∈ (map.nodeAddCreature node creature).creatureList place →
        other ∈ map.creatureList place ∨ other = creature ∧ place = node := by
    intro other place mem
    rw [nodeAddCreature] at mem
    by_cases same : place = node
    · subst same
      simpa using mem
    · simp only [update_of_ne same] at mem
      exact .inl mem
  refine ⟨⟨?_, ?_⟩, ?_⟩
  · intro place
    rw [nodeAddCreature]
    by_cases same : place = node
    · subst same
      simp only [update_self]
      apply nodup_append.mpr
      refine ⟨sorted.once place, nodup_singleton creature, ?_⟩
      rintro other listed found added rfl
      rw [mem_singleton.mp added] at listed
      exact absent place listed
    · simp only [update_of_ne same]
      exact sorted.once place
  · intro other first second here there
    rcases origin other first here with old | ⟨rfl, rfl⟩
    · rcases origin other second there with also | ⟨rfl, _⟩
      · exact sorted.unique other first second old also
      · exact absurd old (absent first)
    · rcases origin other second there with also | ⟨_, rfl⟩
      · exact absurd also (absent second)
      · rfl
  · intro other place ne mem
    rcases origin other place mem with old | ⟨same, _⟩
    · exact old
    · exact absurd same ne

lemma tileAddThing_spec (done : map.tileAddThing pos creature = some next) :
  next.creatureList = map.creatureList ∧
    next.spectatorCache = (fun _ => none) ∧
      Stands next creature ∧
        ∀ other, other ≠ creature → Stands map other → Stands next other := by
  rcases Option.map_eq_some_iff.mp done with ⟨creatures, here, rfl⟩
  refine ⟨rfl, rfl, ?_, ?_⟩
  · intro _ _
    refine ⟨pos, creature :: creatures, ?_, ?_, mem_cons_self⟩
    · exact update_self _ _ _
    · exact update_self _ _ _
  · intro other ne stands node listed
    rcases stands node listed with ⟨place, present, where_, there, mem⟩
    by_cases same : place = pos
    · subst same
      have both := here.symm.trans there
      cases both
      refine ⟨place, creature :: creatures, ?_, ?_, mem_cons_of_mem _ mem⟩
      · exact (update_of_ne ne _ _).trans where_
      · exact update_self _ _ _
    · refine ⟨place, present, ?_, ?_, mem⟩
      · exact (update_of_ne ne _ _).trans where_
      · exact (update_of_ne same _ _).trans there

lemma tileRemoveThing_spec (done : map.tileRemoveThing pos creature = some next) :
  next.creatureList = map.creatureList ∧ next.position = map.position ∧
    ∀ other, other ≠ creature → Stands map other → Stands next other := by
  rcases Option.map_eq_some_iff.mp done with ⟨creatures, here, result⟩
  split at result
  · subst result
    refine ⟨rfl, rfl, ?_⟩
    intro other ne stands node listed
    rcases stands node listed with ⟨place, present, where_, there, mem⟩
    by_cases same : place = pos
    · subst same
      have both := here.symm.trans there
      cases both
      exact ⟨place, creatures.erase creature, where_,
        update_self _ _ _,
        (mem_erase_of_ne ne).mpr mem⟩
    · exact ⟨place, present, where_, (update_of_ne same _ _).trans there, mem⟩
  · subst result
    exact ⟨rfl, rfl, fun other _ stands => stands⟩

lemma tileRemoveThing_clears
  {creatures : List Nat} (here : map.creatures pos = some creatures)
  (mem : creature ∈ creatures) (done : map.tileRemoveThing pos creature = some next) :
  next.spectatorCache = fun _ => none := by
  rw [tileRemoveThing, here, Option.map_some, if_pos mem] at done
  cases done
  rfl

/-- What a position has in the cache is what a scan there finds. -/
def Coherent (map : Map) : Prop :=
  ∀ centerPos list,
    map.spectatorCache centerPos = some list →
      ∀ creature,
        creature ∈ list ↔
          creature ∈ map.getSpectatorsInternal [] centerPos false (cachedRange centerPos)

structure Sound (map : Map) : Prop where
  sorted : Sorted map
  stands : ∀ creature, Stands map creature
  coherent : Coherent map

lemma coherent_of_clear (clear : map.spectatorCache = fun _ => none) : Coherent map := by
  intro centerPos list kept
  rw [clear] at kept
  cases kept

lemma Sound.remember {list : List Nat} (sound : Sound map)
  (scan : ∀ creature, creature ∈ list ↔ map.Finds pos (cachedRange pos) creature) :
  Sound (map.remember pos list) where
  sorted := ⟨sound.sorted.once, sound.sorted.unique⟩
  stands := sound.stands
  coherent := by
    intro centerPos kept there creature
    show creature ∈ kept ↔
      creature ∈ map.getSpectatorsInternal [] centerPos false (cachedRange centerPos)
    rw [Map.remember] at there
    by_cases same : centerPos = pos
    · subst same
      simp only [update_self, Option.some.injEq] at there
      subst there
      rw [scan, mem_getSpectatorsInternal]
      simp
    · simp only [update_of_ne same] at there
      exact sound.coherent centerPos kept there creature

lemma Query.of_cacheable {query : Query} (cacheable : query.cacheable = true) :
  query.list = [] ∧ query.range = cachedRange query.centerPos := by
  rw [Query.cacheable] at cacheable
  simp only [Bool.and_eq_true, decide_eq_true_eq, Bool.not_eq_true'] at cacheable
  rcases cacheable with ⟨⟨⟨⟨⟨minX, maxX⟩, minY⟩, maxY⟩, multifloor⟩, fresh⟩
  refine ⟨query.fresh fresh, ?_⟩
  rw [Query.range, minX, maxX, minY, maxY, multifloor, cachedRange]

section

variable (sound : Sound map)
include sound

lemma getSpectators_spec (query : Query) :
  Sound (map.getSpectators query).2 ∧
    ∀ creature,
      creature ∈ (map.getSpectators query).1 ↔
        creature ∈ query.list ∨
          creature ∈ map.getSpectatorsInternal [] query.centerPos true query.range := by
  have scan : ∀ creature,
      creature ∈ map.getSpectatorsInternal query.list query.centerPos true
          query.range ↔
        creature ∈ query.list ∨
          creature ∈ map.getSpectatorsInternal [] query.centerPos true query.range := by
    intro creature
    rw [mem_getSpectatorsInternal, mem_getSpectatorsInternal]
    simp
  rw [getSpectators]
  split
  · rename_i cacheable
    rcases Query.of_cacheable cacheable with ⟨empty, range⟩
    split
    · rename_i list kept
      refine ⟨sound, ?_⟩
      intro creature
      rw [sound.coherent _ _ kept, empty, mem_getSpectatorsInternal,
        mem_getSpectatorsInternal, range]
      simp
    · refine ⟨sound.remember ?_, scan⟩
      intro creature
      rw [mem_getSpectatorsInternal, empty, range]
      simp
  · exact ⟨sound, scan⟩

lemma getCachedSpectators_spec (centerPos : Position) :
  Sound (map.getCachedSpectators centerPos).2 ∧
    ∀ creature,
      creature ∈ (map.getCachedSpectators centerPos).1 ↔
        creature ∈ map.getSpectatorsInternal [] centerPos false (cachedRange centerPos) := by
  rw [getCachedSpectators]
  split
  · rename_i list kept
    exact ⟨sound, sound.coherent centerPos list kept⟩
  · refine ⟨sound.remember ?_, fun _ => Iff.rfl⟩
    intro creature
    rw [mem_getSpectatorsInternal]
    simp

/-! ## Placing, removing and moving -/

lemma placeCreature_sound
  (done : map.placeCreature creature pos = some next) : Sound next := by
  rw [placeCreature] at done
  split at done
  · cases done
  · rename_i new
    rcases Option.map_eq_some_iff.mp done with ⟨placed, placing, rfl⟩
    rcases tileAddThing_spec placing with ⟨lists, clear, stands, others⟩
    have absent : ∀ node, creature ∉ placed.creatureList node := by
      intro node listed
      rw [lists] at listed
      rcases sound.stands creature node listed with ⟨place, _, known, _⟩
      exact new (Option.isSome_iff_exists.mpr ⟨place, known⟩)
    have sorted : Sorted placed :=
      ⟨by rw [lists]; exact sound.sorted.once, by rw [lists]; exact sound.sorted.unique⟩
    have added : Sorted (placed.nodeAddCreature (qtNode pos) creature) ∧
        ∀ other place,
          other ≠ creature →
            other ∈
                (placed.nodeAddCreature (qtNode pos) creature ).creatureList place →
              other ∈ placed.creatureList place :=
      nodeAddCreature_sorted sorted absent
    refine ⟨added.1, ?_, coherent_of_clear clear⟩
    intro other node listed
    by_cases same : other = creature
    · subst same
      rcases Option.map_eq_some_iff.mp placing with ⟨creatures, here, rfl⟩
      exact ⟨pos, other :: creatures, update_self _ _ _, update_self _ _ _, mem_cons_self⟩
    · exact others other same (sound.stands other) node (added.2 other node same listed)

lemma removeCreature_sound (done : map.removeCreature creature = some next) : Sound next := by
  rw [removeCreature] at done
  split at done
  · cases done
    exact sound
  · rename_i place known
    rcases Option.bind_eq_some_iff.mp done with ⟨left, leaving, removing⟩
    rcases nodeRemoveCreature_spec sound.sorted leaving with
      ⟨listed, sorted, gone, fewer, positions, tiles⟩
    -- it has been in the leaf, so it is on the tile
    rcases sound.stands creature _ listed with ⟨pos, creatures, here, tile, mem⟩
    rw [known] at here
    cases here
    have clear := tileRemoveThing_clears (by rw [tiles]; exact tile) mem removing
    rcases tileRemoveThing_spec removing with ⟨lists, _, others⟩
    refine ⟨⟨by rw [lists]; exact sorted.once, by
      rw [lists]; exact sorted.unique⟩, ?_, coherent_of_clear clear⟩
    intro other node member'
    rw [lists] at member'
    by_cases same : other = creature
    · subst same
      exact absurd member' (gone node)
    · have before : Stands left other := by
        intro node' there
        rw [positions, tiles]
        exact sound.stands other node' (fewer other node' there)
      have after := others other same before
      exact after node (by rw [lists]; exact member')

lemma moveCreature_sound {tile toTile : Position}
  (done : map.moveCreature tile creature toTile = some next) : Sound next := by
  rcases Option.bind_eq_some_iff.mp done with ⟨removed, removing, rest⟩
  rcases Option.bind_eq_some_iff.mp rest with ⟨switched, switching, adding⟩
  rcases Option.map_eq_some_iff.mp adding with ⟨added, addition, rfl⟩
  rcases tileRemoveThing_spec removing with ⟨lists, _, others⟩
  have sorted : Sorted removed :=
    ⟨by rw [lists]; exact sound.sorted.once, by rw [lists]; exact sound.sorted.unique⟩
  have stands : ∀ other, other ≠ creature → Stands removed other :=
    fun other ne => others other ne (sound.stands other)
  -- the leaves stay sorted, whether the creature changes its leaf or not
  have moved : Sorted switched ∧
      ∀ other, other ≠ creature → Stands switched other := by
    split at switching
    · rcases Option.map_eq_some_iff.mp switching with ⟨left, leaving, rfl⟩
      rcases nodeRemoveCreature_spec sorted leaving with ⟨_, less, gone, fewer, positions, tiles⟩
      have entered : Sorted (left.nodeAddCreature (qtNode toTile) creature) ∧
          ∀ other place,
            other ≠ creature →
              other ∈
                  (left.nodeAddCreature (qtNode toTile) creature ).creatureList place →
                other ∈ left.creatureList place :=
        nodeAddCreature_sorted less gone
      refine ⟨entered.1, ?_⟩
      intro other ne node listed
      have before := entered.2 other node ne listed
      show ∃ pos creatures,
        left.position other = some pos ∧
          left.creatures pos = some creatures ∧ other ∈ creatures
      rw [positions, tiles]
      exact stands other ne node (fewer other node before)
    · cases switching
      exact ⟨sorted, stands⟩
  rcases tileAddThing_spec addition with ⟨lists', clear, here, others'⟩
  have fresh : Sound added := by
    refine ⟨⟨by rw [lists']; exact moved.1.once, by
      rw [lists']; exact moved.1.unique⟩, ?_, coherent_of_clear clear⟩
    intro other
    by_cases same : other = creature
    · subst same
      exact here
    · exact others' other same (moved.2 other same)
  have first := (getSpectators_spec fresh (Query.around tile)).1
  exact (getSpectators_spec first _).1

end

inductive Event where
  | placeCreature (creature : Nat) (position : Position)
  | removeCreature (creature : Nat)
  | moveCreature (tile : Position) (creature : Nat) (toTile : Position)
  | getSpectators (query : Query)
  | getCachedSpectators (centerPos : Position)

/-- The map after an event, unless an assertion fails or a tile is missing. -/
def perform (map : Map) : Event → Option Map
  | .placeCreature creature position => map.placeCreature creature position
  | .removeCreature creature => map.removeCreature creature
  | .moveCreature tile creature toTile =>
    map.moveCreature tile creature toTile
  | .getSpectators query => some (map.getSpectators query).2
  | .getCachedSpectators centerPos =>
    some (map.getCachedSpectators centerPos).2

def Step (map : Map) (event : Event) (next : Map) : Prop :=
  map.perform event = some next

lemma perform_sound {event : Event} (sound : Sound map) (done : map.perform event = some next) :
  Sound next := by
  cases event with
  | placeCreature creature pos => exact placeCreature_sound sound done
  | removeCreature creature => exact removeCreature_sound sound done
  | moveCreature tile creature toTile => exact moveCreature_sound sound done
  | getSpectators query =>
    cases done
    exact (getSpectators_spec sound query).1
  | getCachedSpectators centerPos =>
    cases done
    exact (getCachedSpectators_spec sound centerPos).1

def deserted (hasTile : Position → Bool) : Map where
  creatures position := if hasTile position then some [] else none
  creatureList _ := []
  position _ := none
  spectatorCache _ := none

lemma deserted_sound (hasTile : Position → Bool) : Sound (deserted hasTile) where
  sorted := ⟨fun _ => nodup_nil, fun _ _ _ listed _ => by cases listed⟩
  stands _ _ listed := by cases listed
  coherent := coherent_of_clear rfl

/-- The states that a run from a map without creatures reaches. -/
abbrev Reachable (hasTile : Position → Bool) : Map → Prop :=
  Reaches Step Always (deserted hasTile)

lemma Reachable.sound {hasTile : Position → Bool} (run : Reachable hasTile map) : Sound map := by
  apply run.invariant (deserted_sound hasTile)
  intro state event after sound _ taken
  exact perform_sound sound taken

/--
In every state reached, what the cache keeps, and what a query answers with or
without it, are what a scan of the map finds now.
-/
theorem spectators_fresh (hasTile : Position → Bool) (map : Map) (run : Reachable hasTile map) :
  (∀ centerPos list,
      map.spectatorCache centerPos = some list →
        ∀ creature,
          creature ∈ list ↔
            creature ∈ map.getSpectatorsInternal [] centerPos false (cachedRange centerPos)) ∧
    (∀ query creature,
      creature ∈ (map.getSpectators query).1 ↔
        creature ∈ query.list ∨
          creature ∈ map.getSpectatorsInternal [] query.centerPos true query.range) ∧
      ∀ centerPos creature,
        creature ∈ (map.getCachedSpectators centerPos).1 ↔
          creature ∈ map.getSpectatorsInternal [] centerPos false (cachedRange centerPos) :=
  ⟨run.sound.coherent, fun query => (getSpectators_spec run.sound query).2,
    fun centerPos => (getCachedSpectators_spec run.sound centerPos).2⟩

/-- A creature has been placed, and is found at the position. -/
theorem spectators_fresh_placed :
  ∃ map,
    (deserted fun _ => true).placeCreature 1 ⟨100, 100, 7⟩ = some map ∧
      (1 ∈ (map.getCachedSpectators ⟨100, 100, 7⟩).1 ↔
        1 ∈ map.getSpectatorsInternal [] ⟨100, 100, 7⟩ false (cachedRange ⟨100, 100, 7⟩)) := by
  refine ⟨_, rfl, ?_⟩
  have taken : Step (deserted fun _ => true) (.placeCreature 1 ⟨100, 100, 7⟩) _ := rfl
  have run : Reachable (fun _ => true) _ := .tail .refl trivial taken
  exact (spectators_fresh (fun _ => true) _ run).2.2 ⟨100, 100, 7⟩ 1

end Map

end OTServ.Spectators
