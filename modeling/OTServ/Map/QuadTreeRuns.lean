import OTServ.Map.QuadTreeScan
import OTServ.Map.SpectatorScan

/-!
# Runs of the map

Tiles are set, and creatures are placed, moved and removed.  What happens in the
map with its tree happens to the map without it, and the scan is exact in every
state, as long as creatures are moved from the tiles on which they stand.

`Tile::moveCreature` does not look whether they do.  When a script has sent a
creature away from the tile of a teleport, the teleport still moves it from there,
and it stays in the leaf of the place to which the script has sent it.
-/

namespace OTServ.Spectators

open Library.DigitTrees
open Library.GuardedRuns
open OTServ.Map
open List Function Option

namespace Map

variable {map : Map} (position : Position)

lemma addTile_creatures {other : Position} {creatures : List Nat}
  (there : (map.addTile position).creatures other = some creatures) :
  creatures = [] ∨ map.creatures other = some creatures := by
  rw [addTile] at there
  split at there
  · simp only at there
    by_cases same : other = position
    · subst same
      rw [update_self] at there
      exact .inl (some.inj there).symm
    · rw [update_of_ne same] at there
      exact .inr there
  · exact .inr there

lemma addTile_keeps
  {other : Position} {creatures : List Nat} (there : map.creatures other = some creatures) :
  (map.addTile position).creatures other = some creatures := by
  rw [addTile]
  split
  · rename_i free
    have ne : other ≠ position := by
      intro same
      subst same
      rw [there] at free
      cases free.2
    simp only
    rw [update_of_ne ne, there]
  · exact there

lemma addTile_frame (map : Map) (position : Position) :
  (map.addTile position).creatureList = map.creatureList ∧
    (map.addTile position).position = map.position ∧
      (map.addTile position).spectatorCache = map.spectatorCache := by
  rw [addTile]
  split
  · exact ⟨rfl, rfl, rfl⟩
  · exact ⟨rfl, rfl, rfl⟩

lemma Placed.addTile (placed : Placed map) : Placed (map.addTile position) := by
  have ⟨lists, positions, _⟩ := addTile_frame map position
  refine ⟨?_, ?_, ?_⟩
  · intro other creatures there
    rcases addTile_creatures position there with rfl | old
    · exact nodup_nil
    · exact placed.once old
  · intro other creatures creature there mem
    rw [positions]
    rcases addTile_creatures position there with rfl | old
    · cases mem
    · exact placed.parent old mem
  · intro other creatures creature there mem
    rw [lists]
    rcases addTile_creatures position there with rfl | old
    · cases mem
    · exact placed.listed old mem

lemma Sound.addTile (sound : Sound map) : Sound (map.addTile position) := by
  have ⟨lists, positions, cache⟩ := addTile_frame map position
  refine ⟨⟨?_, ?_⟩, ?_, ?_⟩
  · rw [lists]
    exact sound.sorted.once
  · rw [lists]
    exact sound.sorted.unique
  · intro creature node listed
    rw [lists] at listed
    rcases sound.stands creature node listed with ⟨place, creatures, parent, here, mem⟩
    rw [positions]
    exact ⟨place, creatures, parent, addTile_keeps position here, mem⟩
  · intro centerPos list kept creature
    rw [cache] at kept
    rw [sound.coherent centerPos list kept creature, mem_getSpectatorsInternal,
      mem_getSpectatorsInternal, Finds, Finds, lists]
    have spots :
        (map.addTile position).spots centerPos (cachedRange centerPos) =
          map.spots centerPos (cachedRange centerPos) := by
      funext other
      rw [Map.spots, Map.spots, positions]
    rw [spots]

end Map

namespace QuadMap

variable {map next : QuadMap} {creature : Nat} {position : Position}

/-! ## What happens with the tree happens without it -/

/-- The tree is linked, and the parents of creatures are tiles of the map. -/
structure Charted (map : QuadMap) : Prop where
  linked : Linked map
  parents :
    ∀ {creature position}, map.position creature = some position →
      map.getTile position = some position

lemma Charted.sameTree (charted : Charted map) (same : SameTree map next)
  (positions : next.position = map.position) : Charted next := by
  refine ⟨charted.linked.sameTree same, ?_⟩
  intro creature position parent
  rw [positions] at parent
  rw [same.getTile charted.linked]
  exact charted.parents parent

lemma Linked.leaf (linked : Linked map) (there : map.getTile position = some position) :
  map.leafOf (qtNode position) = some (map.tile position).qtNode :=
  (linked.tiles there).2

lemma getTile_self (linked : Linked map) {tile : Position}
  (there : map.getTile position = some tile) : tile = position :=
  (linked.tiles there).1

section

variable (charted : Charted map)
include charted

lemma setTile_charted (position : Position) :
  Charted (map.setTile position) ∧
    (map.setTile position).toMap = map.toMap.addTile position := by
  have ⟨linked, without⟩ := setTile_toMap charted.linked position
  refine ⟨⟨linked, ?_⟩, without⟩
  intro creature other parent
  have before : map.position creature = some other := by
    have positions := congrArg Map.position without
    rw [(Map.addTile_frame map.toMap position).2.1] at positions
    exact (congrFun positions creature).symm.trans parent
  have there := toMap_creatures charted.linked (charted.parents before)
  have after := Map.addTile_keeps position there
  rw [← without] at after
  rcases map_eq_some_iff.mp after with ⟨tile, found, _⟩
  rw [found, getTile_self linked found]

lemma tileAddThing_charted (there : map.getTile position = some position) (creature : Nat) :
  Charted (map.tileAddThing position creature) := by
  have same := (tileAddThing_toMap charted.linked there creature).1
  refine ⟨charted.linked.sameTree same, ?_⟩
  intro other place parent
  have update : update map.position creature (some position) other = some place := parent
  by_cases equal : other = creature
  · subst equal
    rw [update_self] at update
    cases update
    exact there
  · rw [update_of_ne equal] at update
    exact charted.parents update

lemma placeCreature_toMap (done : map.placeCreature creature position = some next) :
  Charted next ∧ map.toMap.placeCreature creature position = some next.toMap := by
  rw [placeCreature] at done
  split at done
  · cases done
  · rename_i new
    rcases map_eq_some_iff.mp done with ⟨tile, found, rfl⟩
    have pointed := getTile_self charted.linked found
    subst pointed
    have ⟨_, adding⟩ := tileAddThing_toMap charted.linked found creature
    have added := tileAddThing_charted charted found creature
    have leaf :
        (map.tileAddThing tile creature).leafOf (qtNode tile) = some (map.tile tile).qtNode :=
      charted.linked.leaf found
    have ⟨same, listing⟩ := nodeAddCreature_toMap added.linked (valid_qtNode tile) leaf creature
    refine ⟨added.sameTree same rfl, ?_⟩
    have absent : ¬ (map.toMap.position creature).isSome = true := new
    rw [Map.placeCreature, if_neg absent, adding, map_some, listing]

lemma removeCreature_toMap (done : map.removeCreature creature = some next) :
  Charted next ∧ map.toMap.removeCreature creature = some next.toMap := by
  rw [removeCreature] at done
  split at done
  · rename_i unplaced
    cases done
    have without : map.toMap.position creature = none := unplaced
    rw [Map.removeCreature, without]
    exact ⟨charted, rfl⟩
  · rename_i place parent
    rcases map_eq_some_iff.mp done with ⟨left, leaving, rfl⟩
    have there := charted.parents parent
    have leaf := charted.linked.leaf there
    rcases nodeRemoveCreature_toMap charted.linked (valid_qtNode place) leaf creature with ⟨same, without⟩
    rw [leaving, map_some] at without
    have kept := same left leaving
    have positions : left.position = map.position := by
      rcases map_eq_some_iff.mp leaving with ⟨list, _, rfl⟩
      rfl
    have onMap := charted.sameTree kept positions
    have thereLeft : left.getTile place = some place := by
      rw [kept.getTile charted.linked, there]
    rcases tileRemoveThing_toMap onMap.linked thereLeft creature with ⟨removed, removal⟩
    have placesKept : (left.tileRemoveThing place creature).position = left.position := by
      rw [tileRemoveThing]
      split
      · rfl
      · rfl
    refine ⟨onMap.sameTree removed placesKept, ?_⟩
    have known : map.toMap.position creature = some place := parent
    rw [Map.removeCreature, known]
    simp only
    rw [← without, bind_some, removal]

lemma remember_charted (centerPos : Position) (list : List Nat) :
  Charted (map.remember centerPos list) :=
  charted.sameTree
    ⟨charted.linked.even, charted.linked.present, fun _ _ => rfl, rfl,
      fun _ => rfl, fun _ => rfl, fun _ => rfl, fun _ => rfl⟩ rfl

lemma getSpectators_toMap (query : Map.Query) :
  Charted (map.getSpectators query).2 ∧
    map.toMap.getSpectators query =
      ((map.getSpectators query).1, (map.getSpectators query).2.toMap) := by
  have scan := getSpectatorsInternal_eq query.centerPos true query.range charted.linked query.list
  have cache : map.toMap.spectatorCache = map.spectatorCache := rfl
  rw [getSpectators, Map.getSpectators, scan, cache]
  split
  · cases map.spectatorCache query.centerPos with
    | some list => exact ⟨charted, rfl⟩
    | none => exact ⟨remember_charted charted _ _, rfl⟩
  · exact ⟨charted, rfl⟩

lemma getCachedSpectators_toMap (centerPos : Position) :
  Charted (map.getCachedSpectators centerPos).2 ∧
    map.toMap.getCachedSpectators centerPos =
      ((map.getCachedSpectators centerPos).1, (map.getCachedSpectators centerPos).2.toMap) := by
  have scan :=
    getSpectatorsInternal_eq centerPos false (Map.cachedRange centerPos) charted.linked []
  have cache : map.toMap.spectatorCache = map.spectatorCache := rfl
  rw [getCachedSpectators, Map.getCachedSpectators, scan, cache]
  cases map.spectatorCache centerPos with
  | some list => exact ⟨charted, rfl⟩
  | none => exact ⟨remember_charted charted _ _, rfl⟩

end

/-- The leaf of the creature changes with the leaf of its tile. -/
def switch (map : QuadMap) (creature from_leaf to_leaf : Nat) : Option QuadMap :=
  if from_leaf ≠ to_leaf then
    (map.nodeRemoveCreature from_leaf creature).map fun left =>
      left.nodeAddCreature to_leaf creature
  else
    some map

lemma switch_toMap (charted : Charted map) {place other : Leaf} {leaf otherLeaf : Nat}
  (valid : place.Valid) (also : other.Valid) (here : map.leafOf place = some leaf)
  (there : map.leafOf other = some otherLeaf)
  (done : map.switch creature leaf otherLeaf = some next) :
  (Charted next ∧ SameTree map next) ∧
    (if place ≠ other then
        (map.toMap.nodeRemoveCreature place creature).map fun left =>
          left.nodeAddCreature other creature
      else some map.toMap) =
      some next.toMap := by
  have same_iff : leaf = otherLeaf ↔ place = other := by
    constructor
    · intro equal
      subst equal
      exact charted.linked.apart valid also here there
    · intro equal
      subst equal
      rw [here] at there
      exact some.inj there
  rw [switch] at done
  split at done
  · rename_i ne
    rcases map_eq_some_iff.mp done with ⟨left, leaving, rfl⟩
    have ⟨same, without⟩ := nodeRemoveCreature_toMap charted.linked valid here creature
    rw [leaving, map_some] at without
    have kept := same left leaving
    have positions : left.position = map.position := by
      rcases map_eq_some_iff.mp leaving with ⟨list, _, rfl⟩
      rfl
    have onMap := charted.sameTree kept positions
    have leafLeft : left.leafOf other = some otherLeaf := by
      rw [kept.leafOf other also, there]
    have ⟨added, listing⟩ := nodeAddCreature_toMap onMap.linked also leafLeft creature
    have both : SameTree map (left.nodeAddCreature otherLeaf creature) :=
      { added with
        leafOf := fun at_place at_valid =>
          (added.leafOf at_place at_valid).trans (kept.leafOf at_place at_valid)
        leaves := added.leaves.trans kept.leaves
        leafE := fun id => (added.leafE id).trans (kept.leafE id)
        leafS := fun id => (added.leafS id).trans (kept.leafS id)
        array := fun id => (added.array id).trans (kept.array id)
        qtNode := fun tile => (added.qtNode tile).trans (kept.qtNode tile) }
    refine ⟨⟨onMap.sameTree added rfl, both⟩, ?_⟩
    rw [if_pos (fun equal => ne (same_iff.mpr equal)), ← without, map_some, listing]
  · rename_i equal
    cases done
    rw [not_not] at equal
    rw [if_neg (not_not.mpr (same_iff.mp equal))]
    exact ⟨⟨charted, ⟨charted.linked.even, charted.linked.present,
      fun _ _ => rfl, rfl, fun _ => rfl, fun _ => rfl, fun _ => rfl,
      fun _ => rfl⟩⟩, rfl⟩

lemma moveCreature_toMap {toPosition : Position} (charted : Charted map)
  (done : map.moveCreature position creature toPosition = some next) :
  Charted next ∧ map.toMap.moveCreature position creature toPosition = some next.toMap := by
  rw [moveCreature] at done
  split at done
  · rename_i tile toTile here there
    have pointed := getTile_self charted.linked here
    have alsoPointed := getTile_self charted.linked there
    subst pointed alsoPointed
    rcases map_eq_some_iff.mp done with ⟨switched, switching, rfl⟩
    rcases tileRemoveThing_toMap charted.linked here creature with ⟨removedSame, removal⟩
    have placesKept : (map.tileRemoveThing tile creature).position = map.position := by
      rw [tileRemoveThing]
      split
      · rfl
      · rfl
    have removed := charted.sameTree removedSame placesKept
    have leaf :
        (map.tileRemoveThing tile creature).leafOf (qtNode tile) =
          some (map.tile tile).qtNode := by
      rw [removedSame.leafOf _ (valid_qtNode tile)]
      exact charted.linked.leaf here
    have toLeaf :
        (map.tileRemoveThing tile creature).leafOf (qtNode toTile) =
          some (map.tile toTile).qtNode := by
      rw [removedSame.leafOf _ (valid_qtNode toTile)]
      exact charted.linked.leaf there
    rcases switch_toMap removed (valid_qtNode tile) (valid_qtNode toTile) leaf toLeaf switching with ⟨⟨switchedCharted, switchedSame⟩, moved⟩
    have thereSwitched : switched.getTile toTile = some toTile := by
      rw [switchedSame.getTile removed.linked, removedSame.getTile charted.linked, there]
    rcases tileAddThing_toMap switchedCharted.linked thereSwitched creature with ⟨_, adding⟩
    have added := tileAddThing_charted switchedCharted thereSwitched creature
    rcases getSpectators_toMap added (Map.Query.around tile) with ⟨first, firstSame⟩
    rcases getSpectators_toMap first
        (Map.Query.further
          ((switched.tileAddThing toTile creature).getSpectators (Map.Query.around tile)).1 toTile) with ⟨second, secondSame⟩
    refine ⟨second, ?_⟩
    rw [Map.moveCreature, removal, bind_some]
    rw [moved, bind_some, adding, map_some, firstSame]
    simp only
    rw [secondSame]
  · cases done

/-! ## Runs -/

inductive Event where
  | setTile (position : Position)
  | placeCreature (creature : Nat) (position : Position)
  | removeCreature (creature : Nat)
  | moveCreature (position : Position) (creature : Nat) (toPosition : Position)
  | getSpectators (query : Map.Query)
  | getCachedSpectators (centerPos : Position)

/-- The map after an event, unless an assertion fails or a tile is missing. -/
def perform (map : QuadMap) : Event → Option QuadMap
  | .setTile position => some (map.setTile position)
  | .placeCreature creature position => map.placeCreature creature position
  | .removeCreature creature => map.removeCreature creature
  | .moveCreature position creature toPosition =>
    map.moveCreature position creature toPosition
  | .getSpectators query => some (map.getSpectators query).2
  | .getCachedSpectators centerPos =>
    some (map.getCachedSpectators centerPos).2

def Step (map : QuadMap) (event : Event) (next : QuadMap) : Prop :=
  map.perform event = some next

def empty : QuadMap where
  root := .node fun _ => .missing
  leaves := 0
  node _ := .new
  tile _ := ⟨0, []⟩
  position _ := none
  spectatorCache _ := none

def FromItsTile (map : QuadMap) : Event → Prop
  | .moveCreature position creature _ =>
    ∃ tile, map.getTile position = some tile ∧ creature ∈ (map.tile tile).creatures
  | _ => True

structure Kept (map : QuadMap) : Prop where
  charted : Charted map
  sound : map.toMap.Sound
  placed : map.toMap.Placed

lemma empty_leafOf (place : Leaf) : empty.leafOf place = none :=
  Tree.find_bare place.digits

lemma empty_getTile (position : Position) : empty.getTile position = none := by
  rw [getTile_eq (Tree.even_bare 12), empty_leafOf]
  split
  · rfl
  · rfl

lemma empty_toMap : empty.toMap = Map.deserted fun _ => false := by
  apply Map.eq_of
  · intro position
    simp only [toMap]
    rw [empty_getTile]
    rfl
  · intro place
    by_cases valid : place.Valid
    · exact toMap_creatureList_none valid (empty_leafOf place)
    · exact toMap_creatureList_invalid valid
  · rfl
  · rfl

lemma empty_kept : Kept empty := by
  have root : Present empty.root := by
    intro impossible
    cases impossible
  refine ⟨⟨⟨Tree.even_bare 12, root, ?_, ?_, ?_, ?_, ?_⟩, ?_⟩, ?_, ?_⟩
  · intro place leaf _ there
    cases there
  · intro place other leaf _ _ there
    rw [empty_leafOf] at there
    cases there
  · intro place leaf _ there
    cases there
  · intro place leaf _ there
    rw [empty_leafOf] at there
    cases there
  · intro position tile there
    rw [empty_getTile] at there
    cases there
  · intro creature position parent
    cases parent
  · rw [empty_toMap]
    exact Map.deserted_sound _
  · rw [empty_toMap]
    refine ⟨?_, ?_, ?_⟩
    · intro position creatures there
      cases there
    · intro position creatures creature there
      cases there
    · intro position creatures creature there
      cases there

lemma perform_kept {event : Event} (kept : Kept map) (own : FromItsTile map event)
  (done : map.perform event = some next) : Kept next := by
  cases event with
  | setTile position =>
    cases done
    have ⟨charted, without⟩ := setTile_charted kept.charted position
    refine ⟨charted, ?_, ?_⟩
    · rw [without]
      exact kept.sound.addTile position
    · rw [without]
      exact kept.placed.addTile position
  | placeCreature creature position =>
    have ⟨charted, without⟩ := placeCreature_toMap kept.charted done
    exact ⟨charted, Map.placeCreature_sound kept.sound without,
      Map.placeCreature_placed kept.placed without⟩
  | removeCreature creature =>
    have ⟨charted, without⟩ := removeCreature_toMap kept.charted done
    exact ⟨charted, Map.removeCreature_sound kept.sound without,
      Map.removeCreature_placed kept.sound kept.placed without⟩
  | moveCreature position creature toPosition =>
    have ⟨charted, without⟩ := moveCreature_toMap kept.charted done
    rcases own with ⟨tile, there, mem⟩
    have pointed := getTile_self kept.charted.linked there
    subst pointed
    have stands : map.toMap.StandsOn creature tile :=
      ⟨_, toMap_creatures kept.charted.linked there, mem⟩
    exact ⟨charted, Map.moveCreature_sound kept.sound without,
      Map.moveCreature_placed kept.placed stands without⟩
  | getSpectators query =>
    cases done
    have ⟨charted, without⟩ := getSpectators_toMap kept.charted query
    have same : (map.toMap.getSpectators query).2 = (map.getSpectators query).2.toMap :=
      congrArg Prod.snd without
    refine ⟨charted, ?_, ?_⟩
    · rw [← same]
      exact (Map.getSpectators_spec kept.sound query).1
    · rw [← same]
      exact Map.getSpectators_placed kept.placed query
  | getCachedSpectators centerPos =>
    cases done
    have ⟨charted, without⟩ := getCachedSpectators_toMap kept.charted centerPos
    have same :
        (map.toMap.getCachedSpectators centerPos).2 =
          (map.getCachedSpectators centerPos).2.toMap :=
      congrArg Prod.snd without
    refine ⟨charted, ?_, ?_⟩
    · rw [← same]
      exact (Map.getCachedSpectators_spec kept.sound centerPos).1
    · rw [← same]
      exact Map.getCachedSpectators_placed kept.placed centerPos

/-- The creature is on a tile of the map, and this is its position. -/
def At (map : QuadMap) (creature : Nat) (cpos : Position) : Prop :=
  (∃ position tile,
    map.getTile position = some tile ∧ creature ∈ (map.tile tile).creatures) ∧
    map.position creature = some cpos

/--
The scan adds to the list exactly the creatures in range, each of them once; if
it looks for duplicates, those which are in the list already are left out.
-/
def Exact (map : QuadMap) : Prop :=
  ∀ (list : List Nat) (centerPos : Position) (checkforduplicate : Bool)
    (range : Map.Range),
    ∃ found,
      map.getSpectatorsInternal list centerPos checkforduplicate range =
          list ++ found ∧
        found.Nodup ∧
          ∀ creature,
            creature ∈ found ↔
              (∃ cpos,
                map.At creature cpos ∧ Map.InRange centerPos cpos range) ∧
                ¬ (checkforduplicate = true ∧ creature ∈ list)

lemma toMap_at_iff (map : QuadMap) (creature : Nat) (cpos : Position) :
  map.toMap.At creature cpos ↔ map.At creature cpos := by
  refine and_congr_left fun _ => ?_
  constructor
  · rintro ⟨position, creatures, there, mem⟩
    rcases map_eq_some_iff.mp there with ⟨tile, found, rfl⟩
    exact ⟨position, tile, found, mem⟩
  · rintro ⟨position, tile, found, mem⟩
    refine ⟨position, (map.tile tile).creatures, ?_, mem⟩
    simp only [toMap]
    rw [found]
    rfl

lemma Kept.exact (kept : Kept map) : Exact map := by
  intro list centerPos checkforduplicate range
  have ⟨found, scan, nodup, members⟩ :=
    Map.getSpectatorsInternal_exact kept.sound kept.placed list centerPos checkforduplicate range
  rw [← getSpectatorsInternal_eq centerPos checkforduplicate range kept.charted.linked] at scan
  refine ⟨found, scan, nodup, fun creature => ?_⟩
  rw [members]
  simp only [toMap_at_iff]

/--
In every run in which creatures are moved from the tiles on which they stand, the
scan is exact in every state.
-/
theorem scan_exact (map : QuadMap) (run : Reaches Step FromItsTile empty map) : Exact map := by
  have kept : Kept map := by
    apply run.invariant empty_kept
    intro state event after kept own taken
    exact perform_kept kept own taken
  exact kept.exact

def performAll (map : QuadMap) : List Event → Option QuadMap
  | [] => some map
  | event :: events =>
    (map.perform event).bind fun next => next.performAll events

lemma performAll_reaches
  {events : List Event} {start : QuadMap} (run : Reaches Step Always start map)
  (done : map.performAll events = some next) : Reaches Step Always start next := by
  induction events generalizing map with
  | nil =>
    cases done
    exact run
  | cons event events ih =>
    rcases bind_eq_some_iff.mp done with ⟨middle, taken, rest⟩
    exact ih (run.tail trivial taken) rest

/-- A creature comes to a tile of the map. -/
theorem scan_exact_placed :
  ∃ map,
    ((empty.setTile ⟨100, 100, 7⟩).placeCreature 1 ⟨100, 100, 7⟩ = some map) ∧ Exact map := by
  have there :
      ((empty.setTile ⟨100, 100, 7⟩).placeCreature 1 ⟨100, 100, 7⟩).isSome =
        true := by
    decide +kernel
  rcases isSome_iff_exists.mp there with ⟨map, placed⟩
  have first : Step empty (.setTile ⟨100, 100, 7⟩) (empty.setTile ⟨100, 100, 7⟩) := rfl
  have second : Step (empty.setTile ⟨100, 100, 7⟩) (.placeCreature 1 ⟨100, 100, 7⟩) map := placed
  have setting : FromItsTile empty (.setTile ⟨100, 100, 7⟩) := trivial
  have placing : FromItsTile (empty.setTile ⟨100, 100, 7⟩) (.placeCreature 1 ⟨100, 100, 7⟩) :=
    trivial
  exact ⟨map, placed, scan_exact map ((Reaches.refl.tail setting first).tail placing second)⟩

lemma Kept.finds_iff (kept : Kept map) (centerPos : Position) (checkforduplicate : Bool)
  (range : Map.Range) (creature : Nat) :
  creature ∈ map.toMap.getSpectatorsInternal [] centerPos checkforduplicate range ↔
    ∃ cpos, map.At creature cpos ∧ Map.InRange centerPos cpos range := by
  have ⟨found, scan, _, members⟩ :=
    Map.getSpectatorsInternal_exact kept.sound kept.placed [] centerPos checkforduplicate range
  rw [scan, nil_append, members]
  simp [toMap_at_iff]

lemma Kept.mem_getSpectators (kept : Kept map) (query : Map.Query) (creature : Nat) :
  creature ∈ (map.getSpectators query).1 ↔
    creature ∈ query.list ∨
      ∃ cpos, map.At creature cpos ∧ Map.InRange query.centerPos cpos query.range := by
  have listed := (Map.getSpectators_spec kept.sound query).2 creature
  rw [(getSpectators_toMap kept.charted query).2] at listed
  rw [listed, kept.finds_iff]

lemma Kept.mem_getCachedSpectators (kept : Kept map) (centerPos : Position) (creature : Nat) :
  creature ∈ (map.getCachedSpectators centerPos).1 ↔
    ∃ cpos,
      map.At creature cpos ∧ Map.InRange centerPos cpos (Map.cachedRange centerPos) := by
  have listed := (Map.getCachedSpectators_spec kept.sound centerPos).2 creature
  rw [(getCachedSpectators_toMap kept.charted centerPos).2] at listed
  rw [listed, kept.finds_iff]

lemma run_kept (run : Reaches Step FromItsTile empty map) : Kept map :=
  run.invariant empty_kept fun _ _ _ kept own taken => perform_kept kept own taken

/--
In these runs the lists that the two functions return hold the creatures in range,
whether they come from the cache or from a scan.
-/
theorem spectators_in_range
    (map : QuadMap) (run : Reaches Step FromItsTile empty map) :
    (∀ query creature,
        creature ∈ (map.getSpectators query).1 ↔
          creature ∈ query.list ∨
            ∃ cpos, map.At creature cpos ∧ Map.InRange query.centerPos cpos query.range) ∧
      ∀ centerPos creature,
        creature ∈ (map.getCachedSpectators centerPos).1 ↔
          ∃ cpos,
            map.At creature cpos ∧
              Map.InRange centerPos cpos (Map.cachedRange centerPos) :=
  ⟨(run_kept run).mem_getSpectators, (run_kept run).mem_getCachedSpectators⟩

lemma placed_reaches
  (placed : (empty.setTile ⟨100, 100, 7⟩).placeCreature 1 ⟨100, 100, 7⟩ = some map) :
  Reaches Step FromItsTile empty map := by
  have first : Step empty (.setTile ⟨100, 100, 7⟩) (empty.setTile ⟨100, 100, 7⟩) := rfl
  have second : Step (empty.setTile ⟨100, 100, 7⟩) (.placeCreature 1 ⟨100, 100, 7⟩) map := placed
  have setting : FromItsTile empty (.setTile ⟨100, 100, 7⟩) := trivial
  have placing : FromItsTile (empty.setTile ⟨100, 100, 7⟩) (.placeCreature 1 ⟨100, 100, 7⟩) :=
    trivial
  exact (Reaches.refl.tail setting first).tail placing second

/-- A creature that has been placed is found, and found again in the cache. -/
theorem spectators_in_range_placed :
  ∃ map,
    (empty.setTile ⟨100, 100, 7⟩).placeCreature 1 ⟨100, 100, 7⟩ = some map ∧
      (1 ∈ (map.getCachedSpectators ⟨100, 100, 7⟩).1 ↔
        ∃ cpos,
          map.At 1 cpos ∧
            Map.InRange ⟨100, 100, 7⟩ cpos (Map.cachedRange ⟨100, 100, 7⟩)) := by
  have there :
      ((empty.setTile ⟨100, 100, 7⟩).placeCreature 1 ⟨100, 100, 7⟩).isSome = true := by
    decide +kernel
  rcases isSome_iff_exists.mp there with ⟨map, placed⟩
  exact ⟨map, placed, (spectators_in_range map (placed_reaches placed)).2 ⟨100, 100, 7⟩ 1⟩

/--
A creature steps on a teleport that leads to the floor below.  A script sends it
far away, and the teleport moves it all the same.
-/
def sentAway : List Event :=
  [.setTile ⟨95, 100, 7⟩, .setTile ⟨96, 100, 7⟩, .setTile ⟨96, 100, 8⟩,
    .setTile ⟨200, 100, 7⟩, .placeCreature 1 ⟨95, 100, 7⟩,
    .moveCreature ⟨95, 100, 7⟩ 1 ⟨96, 100, 7⟩,
    .moveCreature ⟨96, 100, 7⟩ 1 ⟨200, 100, 7⟩,
    .moveCreature ⟨96, 100, 7⟩ 1 ⟨96, 100, 8⟩]

/-- The creature is not found where it stands. -/
theorem teleported_creature_missed : ¬ ∀ map, Reaches Step Always empty map → Exact map := by
  intro always
  have there : (empty.performAll sentAway).isSome = true := by
    decide +kernel
  rcases isSome_iff_exists.mp there with ⟨map, done⟩
  have stands :
      (empty.performAll sentAway).map (fun map =>
          (map.getTile ⟨96, 100, 8⟩, (map.tile ⟨96, 100, 8⟩).creatures, map.position 1)) =
        some (some ⟨96, 100, 8⟩, [1], some ⟨96, 100, 8⟩) := by
    decide +kernel
  have missed :
      (empty.performAll sentAway).map (fun map =>
          map.getSpectatorsInternal [] ⟨96, 100, 8⟩ false (Map.cachedRange ⟨96, 100, 8⟩)) =
        some [] := by
    decide +kernel
  rw [done, map_some, some.injEq] at stands missed
  rw [Prod.mk.injEq, Prod.mk.injEq] at stands
  rcases stands with ⟨tile, creatures, position⟩
  have exact_scan := always map (performAll_reaches .refl done)
  rcases exact_scan [] ⟨96, 100, 8⟩ false (Map.cachedRange ⟨96, 100, 8⟩) with
    ⟨found, scan, _, members⟩
  rw [missed, nil_append] at scan
  subst scan
  have at_tile : map.At 1 ⟨96, 100, 8⟩ := by
    refine ⟨⟨_, _, tile, ?_⟩, position⟩
    rw [creatures]
    exact mem_cons_self
  have near : Map.InRange ⟨96, 100, 8⟩ ⟨96, 100, 8⟩ (Map.cachedRange ⟨96, 100, 8⟩) :=
    (Map.inRange_iff _ _ _).mp (by decide)
  have found : 1 ∈ ([] : List Nat) :=
    (members 1).mpr ⟨⟨_, at_tile, near⟩, fun both => by cases both.1⟩
  cases found

end QuadMap

end OTServ.Spectators
