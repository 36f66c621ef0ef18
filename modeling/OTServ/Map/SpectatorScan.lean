import OTServ.Map.SpectatorCache

/-!
# What a scan finds

A creature on a tile is in the leaf of the tile, and once only.  The leaves that
are scanned around a position cover every position in range, whatever the floor.
So the scan finds the creatures in range, each of them once.

The leaf of a creature follows the tile from which it is moved.  It is the right
one as long as the creature stands on that tile.
-/

namespace OTServ.Spectators

open OTServ.Map
open List Function Option

variable {value : Int} {coordinate : UInt16} {creatures : List Nat} {node place : Leaf}
  {other : Nat}

namespace Map

variable {map next : Map} {creature : Nat} {position : Position}

/-- The floor of the position is in the interval, and its place in the shifted range. -/
def InRange (centerPos cpos : Position) (range : Range) : Prop :=
  let offsetZ : Int := centerPos.z.toNat - cpos.z.toNat
  (range.minZ ≤ cpos.z.toNat ∧ cpos.z.toNat ≤ range.maxZ) ∧
    (centerPos.x.toNat + range.minX + offsetZ ≤ cpos.x.toNat ∧
        cpos.x.toNat ≤ centerPos.x.toNat + range.maxX + offsetZ) ∧
      centerPos.y.toNat + range.minY + offsetZ ≤ cpos.y.toNat ∧
        cpos.y.toNat ≤ centerPos.y.toNat + range.maxY + offsetZ

lemma inRange_iff (centerPos cpos : Position) (range : Range) :
  inRange centerPos cpos range = true ↔ InRange centerPos cpos range := by
  rw [inRange, InRange]
  simp only [Bool.and_eq_true, Bool.not_eq_true', Bool.or_eq_false_iff, decide_eq_false_iff_not]
  omega

lemma mem_leavesBetween
  {first last value : Nat} (after : first ≤ value) (before : value ≤ last) :
  value / 8 ∈ leavesBetween first last := by
  rw [leavesBetween, mem_range'_1]
  omega

lemma clamp_le (less : value ≤ coordinate.toNat) : clamp value ≤ coordinate.toNat := by
  rw [clamp]
  omega

lemma le_clamp (more : (coordinate.toNat : Int) ≤ value) : coordinate.toNat ≤ clamp value := by
  have small := coordinate.toNat_lt
  rw [clamp]
  omega

lemma InRange.scanned
  {centerPos cpos : Position} {range : Range} (near : InRange centerPos cpos range) :
  (qtNode cpos).x ∈ columns centerPos range ∧ (qtNode cpos).y ∈ rows centerPos range := by
  rcases near with ⟨⟨low, high⟩, ⟨west, east⟩, north, south⟩
  constructor
  · exact mem_leavesBetween (clamp_le (by omega)) (le_clamp (by omega))
  · exact mem_leavesBetween (clamp_le (by omega)) (le_clamp (by omega))

def visited (map : Map) (centerPos : Position) (range : Range) : List Nat :=
  (rows centerPos range).flatMap fun ny =>
    (columns centerPos range).flatMap fun nx => map.creatureList ⟨nx, ny⟩

lemma getSpectatorsInternal_visited (map : Map) (list : List Nat) (centerPos : Position)
  (checkforduplicate : Bool) (range : Range) :
  map.getSpectatorsInternal list centerPos checkforduplicate range =
    (map.visited centerPos range).foldl (map.spot centerPos checkforduplicate range) list := by
  rw [getSpectatorsInternal, visited, foldl_flatMap]
  simp only [foldl_flatMap]

lemma nodup_leavesBetween (first last : Nat) : (leavesBetween first last).Nodup :=
  nodup_range'

lemma Sorted.visited_nodup (sorted : Sorted map) (centerPos : Position) (range : Range) :
  (map.visited centerPos range).Nodup := by
  rw [visited, nodup_flatMap]
  constructor
  · intro ny _
    rw [nodup_flatMap]
    constructor
    · intro nx _
      exact sorted.once ⟨nx, ny⟩
    · refine (nodup_leavesBetween _ _).imp ?_
      intro first second apart creature here there
      have same := sorted.unique creature _ _ here there
      rw [Leaf.mk.injEq] at same
      exact apart same.1
  · refine (nodup_leavesBetween _ _).imp ?_
    intro first second apart creature here there
    rw [mem_flatMap] at here there
    rcases here with ⟨_, _, here⟩
    rcases there with ⟨_, _, there⟩
    have same := sorted.unique creature _ _ here there
    rw [Leaf.mk.injEq] at same
    exact apart same.2

def taken (map : Map) (list : List Nat) (centerPos : Position) (checkforduplicate : Bool)
  (range : Range) (creature : Nat) : Bool :=
  map.spots centerPos range creature && !(checkforduplicate && list.contains creature)

lemma foldl_spot (map : Map) (list : List Nat) (centerPos : Position) (checkforduplicate : Bool)
  (range : Range) (nodup : creatures.Nodup) (found : List Nat)
  (fresh : ∀ creature ∈ creatures, creature ∉ found) :
  creatures.foldl (map.spot centerPos checkforduplicate range)
      (list ++ found) =
    list ++ (found ++ creatures.filter (map.taken list centerPos checkforduplicate range)) := by
  induction creatures generalizing found with
  | nil => rw [foldl_nil, filter_nil, append_nil]
  | cons creature creatures ih =>
    have ⟨absent, rest⟩ := nodup_cons.mp nodup
    have new : creature ∉ found := fresh creature mem_cons_self
    have others : ∀ other ∈ creatures, other ∉ found := fun other later =>
      fresh other (mem_cons_of_mem _ later)
    have known : (list ++ found).contains creature = list.contains creature := by
      rw [Bool.eq_iff_iff, contains_iff_mem, contains_iff_mem, mem_append]
      exact or_iff_left new
    rw [foldl_cons, spot, known]
    by_cases spotted : map.spots centerPos range creature = true
    · rw [if_pos spotted]
      by_cases duplicate : (checkforduplicate && list.contains creature) = true
      · have left : map.taken list centerPos checkforduplicate range creature ≠ true := by
          rw [taken, duplicate]
          simp
        rw [if_pos duplicate, ih rest found others, filter_cons_of_neg left]
      · have kept : map.taken list centerPos checkforduplicate range creature = true := by
          rw [taken, spotted, Bool.eq_false_of_not_eq_true duplicate]
          rfl
        have apart : ∀ other ∈ creatures, other ∉ found ++ [creature] := by
          intro other later mem
          rcases mem_append.mp mem with old | same
          · exact others other later old
          · rw [mem_singleton] at same
            exact absent (same ▸ later)
        rw [if_neg duplicate, append_assoc,
          ih rest (found ++ [creature]) apart, filter_cons_of_pos kept,
          append_assoc]
        rfl
    · have left : map.taken list centerPos checkforduplicate range creature ≠ true := by
        rw [taken, Bool.eq_false_of_not_eq_true spotted]
        simp
      rw [if_neg spotted, ih rest found others, filter_cons_of_neg left]

/-! ## Creatures are where their tiles are -/

def OnMap (map : Map) (creature : Nat) : Prop :=
  ∃ position creatures, map.creatures position = some creatures ∧ creature ∈ creatures

def Absent (map : Map) (creature : Nat) : Prop :=
  ∀ position creatures, map.creatures position = some creatures → creature ∉ creatures

/-- A creature on a tile has the tile as its parent and is in the leaf of the tile. -/
structure Placed (map : Map) : Prop where
  once : ∀ {position creatures}, map.creatures position = some creatures → creatures.Nodup
  parent :
    ∀ {position creatures creature},
      map.creatures position = some creatures → creature ∈ creatures →
        map.position creature = some position
  listed :
    ∀ {position creatures creature},
      map.creatures position = some creatures → creature ∈ creatures →
        creature ∈ map.creatureList (qtNode position)

/-- The lists of the others keep them, and no tile has the creature any more. -/
lemma Placed.without (placed : Placed map) (positions : next.position = map.position)
  (fewer :
    ∀ position after,
      next.creatures position = some after →
        ∃ before, map.creatures position = some before ∧ after.Sublist before ∧ creature ∉ after)
  (keeps :
    ∀ other place,
      other ≠ creature → other ∈ map.creatureList place → other ∈ next.creatureList place) :
  Placed next ∧ Absent next creature := by
  refine ⟨⟨?_, ?_, ?_⟩, ?_⟩
  · intro position after there
    rcases fewer position after there with ⟨before, here, sublist, _⟩
    exact (placed.once here).sublist sublist
  · intro position after other there mem
    rcases fewer position after there with ⟨before, here, sublist, _⟩
    rw [positions]
    exact placed.parent here (sublist.subset mem)
  · intro position after other there mem
    rcases fewer position after there with ⟨before, here, sublist, gone⟩
    have ne : other ≠ creature := fun same => gone (same ▸ mem)
    exact keeps other _ ne (placed.listed here (sublist.subset mem))
  · intro position after there mem
    rcases fewer position after there with ⟨_, _, _, gone⟩
    exact gone mem

lemma Placed.with_creature (placed : Placed map) (absent : Absent map creature)
  (here : map.creatures position = some creatures)
  (tiles : next.creatures = update map.creatures position (some (creature :: creatures)))
  (positions : next.position = update map.position creature (some position))
  (keeps : ∀ other place, other ∈ map.creatureList place → other ∈ next.creatureList place)
  (listed : creature ∈ next.creatureList (qtNode position)) : Placed next := by
  have origin :
      ∀ {place after}, next.creatures place = some after →
        place = position ∧ after = creature :: creatures ∨
          place ≠ position ∧ map.creatures place = some after := by
    intro place after there
    rw [tiles] at there
    by_cases same : place = position
    · subst same
      rw [update_self] at there
      exact .inl ⟨rfl, (some.inj there).symm⟩
    · rw [update_of_ne same] at there
      exact .inr ⟨same, there⟩
  have kept :
      ∀ {place before other}, map.creatures place = some before →
        other ∈ before →
          next.position other = some place ∧ other ∈ next.creatureList (qtNode place) := by
    intro place before other there mem
    have ne : other ≠ creature := by
      intro same
      subst same
      exact absent place before there mem
    rw [positions, update_of_ne ne]
    exact ⟨placed.parent there mem, keeps other _ (placed.listed there mem)⟩
  refine ⟨?_, ?_, ?_⟩
  · intro place after there
    rcases origin there with ⟨_, rfl⟩ | ⟨_, old⟩
    · exact nodup_cons.mpr ⟨absent position creatures here, placed.once here⟩
    · exact placed.once old
  · intro place after other there mem
    rcases origin there with ⟨rfl, rfl⟩ | ⟨_, old⟩
    · rcases mem_cons.mp mem with rfl | before
      · rw [positions, update_self]
      · exact (kept here before).1
    · exact (kept old mem).1
  · intro place after other there mem
    rcases origin there with ⟨rfl, rfl⟩ | ⟨_, old⟩
    · rcases mem_cons.mp mem with rfl | before
      · exact listed
      · exact (kept here before).2
    · exact (kept old mem).2

/-! ## What happens to creatures -/

lemma nodeRemoveCreature_keeps (done : map.nodeRemoveCreature node creature = some next)
  (ne : other ≠ creature) (mem : other ∈ map.creatureList place) :
  other ∈ next.creatureList place := by
  rcases map_eq_some_iff.mp done with ⟨rest, removal, rfl⟩
  have perm := swapRemove_perm removal
  show other ∈ update map.creatureList node rest place
  by_cases same : place = node
  · subst same
    rw [update_self]
    rcases mem_cons.mp (perm.mem_iff.mp mem) with equal | kept
    · exact absurd equal ne
    · exact kept
  · rw [update_of_ne same]
    exact mem

lemma mem_nodeAddCreature (mem : other ∈ map.creatureList place) :
  other ∈ (map.nodeAddCreature node creature).creatureList place := by
  rw [nodeAddCreature]
  simp only
  by_cases same : place = node
  · subst same
    rw [update_self]
    exact mem_append_left _ mem
  · rw [update_of_ne same]
    exact mem

lemma nodeAddCreature_self (map : Map) (node : Leaf) (creature : Nat) :
  creature ∈ (map.nodeAddCreature node creature).creatureList node := by
  rw [nodeAddCreature]
  simp only
  rw [update_self]
  exact mem_append_right _ mem_cons_self

lemma erase_fewer (placed : Placed map) (here : map.creatures position = some creatures)
  (mem : creature ∈ creatures) {place : Position} {after : List Nat}
  (there : update map.creatures position (some (creatures.erase creature)) place = some after) :
  ∃ before, map.creatures place = some before ∧ after.Sublist before ∧ creature ∉ after := by
  by_cases same : place = position
  · subst same
    rw [update_self] at there
    cases there
    exact ⟨creatures, here, erase_sublist, (placed.once here).not_mem_erase⟩
  · rw [update_of_ne same] at there
    refine ⟨after, there, List.Sublist.refl _, fun also => same ?_⟩
    have parent := placed.parent there also
    rw [placed.parent here mem] at parent
    exact (some.inj parent).symm

lemma tileRemoveThing_member (here : map.creatures position = some creatures)
  (mem : creature ∈ creatures) (done : map.tileRemoveThing position creature = some next) :
  next.creatures =
      update map.creatures position (some (creatures.erase creature)) ∧
    next.creatureList = map.creatureList ∧ next.position = map.position := by
  rw [tileRemoveThing, here, map_some, if_pos mem] at done
  cases done
  exact ⟨rfl, rfl, rfl⟩

lemma placeCreature_placed (placed : Placed map)
  (done : map.placeCreature creature position = some next) : Placed next := by
  rw [placeCreature] at done
  split at done
  · cases done
  · rename_i new
    rcases map_eq_some_iff.mp done with ⟨standing, adding, rfl⟩
    rcases map_eq_some_iff.mp adding with ⟨creatures, here, rfl⟩
    have absent : Absent map creature := by
      intro place before there mem
      have parent := placed.parent there mem
      exact new (isSome_iff_exists.mpr ⟨place, parent⟩)
    refine placed.with_creature absent here rfl rfl ?_ (nodeAddCreature_self _ _ _)
    intro other place mem
    exact mem_nodeAddCreature mem

lemma removeCreature_placed (sound : Sound map) (placed : Placed map)
  (done : map.removeCreature creature = some next) : Placed next := by
  rw [removeCreature] at done
  split at done
  · cases done
    exact placed
  · rename_i place known
    rcases bind_eq_some_iff.mp done with ⟨left, leaving, removing⟩
    rcases nodeRemoveCreature_spec sound.sorted leaving with ⟨listed, _, _, _, positions, tiles⟩
    rcases sound.stands creature _ listed with ⟨position, creatures, here, tile, mem⟩
    rw [known] at here
    cases here
    have tileLeft : left.creatures place = some creatures := by
      rw [tiles]
      exact tile
    rcases tileRemoveThing_member tileLeft mem removing with ⟨erased, lists, same⟩
    have both : Placed next ∧ Absent next creature := by
      refine placed.without (same.trans positions) ?_ ?_
      · intro position after there
        rw [erased, tiles] at there
        exact erase_fewer placed tile mem there
      · intro other place' ne before
        rw [lists]
        exact nodeRemoveCreature_keeps leaving ne before
    exact both.1

lemma Placed.of_same (placed : Placed map) (tiles : next.creatures = map.creatures)
  (lists : next.creatureList = map.creatureList) (positions : next.position = map.position) :
  Placed next := by
  refine ⟨?_, ?_, ?_⟩
  · intro position creatures there
    rw [tiles] at there
    exact placed.once there
  · intro position creatures other there mem
    rw [tiles] at there
    rw [positions]
    exact placed.parent there mem
  · intro position creatures other there mem
    rw [tiles] at there
    rw [lists]
    exact placed.listed there mem

lemma getSpectators_same (map : Map) (query : Query) :
  (map.getSpectators query).2.creatures = map.creatures ∧
    (map.getSpectators query).2.creatureList = map.creatureList ∧
      (map.getSpectators query).2.position = map.position := by
  rw [getSpectators]
  split
  · split
    · exact ⟨rfl, rfl, rfl⟩
    · exact ⟨rfl, rfl, rfl⟩
  · exact ⟨rfl, rfl, rfl⟩

lemma getCachedSpectators_same (map : Map) (centerPos : Position) :
  (map.getCachedSpectators centerPos).2.creatures = map.creatures ∧
    (map.getCachedSpectators centerPos).2.creatureList = map.creatureList ∧
      (map.getCachedSpectators centerPos).2.position = map.position := by
  rw [getCachedSpectators]
  split
  · exact ⟨rfl, rfl, rfl⟩
  · exact ⟨rfl, rfl, rfl⟩

lemma getSpectators_placed
  (placed : Placed map) (query : Query) : Placed (map.getSpectators query).2 :=
  have ⟨tiles, lists, positions⟩ := getSpectators_same map query
  placed.of_same tiles lists positions

lemma getCachedSpectators_placed (placed : Placed map) (centerPos : Position) :
  Placed (map.getCachedSpectators centerPos).2 :=
  have ⟨tiles, lists, positions⟩ := getCachedSpectators_same map centerPos
  placed.of_same tiles lists positions

def StandsOn (map : Map) (creature : Nat) (tile : Position) : Prop :=
  ∃ creatures, map.creatures tile = some creatures ∧ creature ∈ creatures

lemma moveCreature_placed
  {tile toTile : Position} (placed : Placed map) (stands : StandsOn map creature tile)
  (done : map.moveCreature tile creature toTile = some next) : Placed next := by
  rcases stands with ⟨creatures, here, mem⟩
  rcases bind_eq_some_iff.mp done with ⟨removed, removing, rest⟩
  rcases bind_eq_some_iff.mp rest with ⟨switched, switching, adding⟩
  rcases map_eq_some_iff.mp adding with ⟨added, addition, rfl⟩
  have ⟨erased, lists, positions⟩ := tileRemoveThing_member here mem removing
  -- the creature is off the tiles now, and its leaf is that of the next tile
  have moved :
      switched.creatures = removed.creatures ∧
        switched.position = removed.position ∧
          (∀ other place,
            other ≠ creature → other ∈ map.creatureList place →
              other ∈ switched.creatureList place) ∧
            creature ∈ switched.creatureList (qtNode toTile) := by
    split at switching
    · rcases map_eq_some_iff.mp switching with ⟨left, leaving, rfl⟩
      rcases map_eq_some_iff.mp leaving with ⟨list, _, same⟩
      refine ⟨by rw [← same]; rfl, by rw [← same]; rfl, ?_, nodeAddCreature_self _ _ _⟩
      intro other place ne before
      rw [← lists] at before
      exact mem_nodeAddCreature (nodeRemoveCreature_keeps leaving ne before)
    · rename_i same
      cases switching
      rw [not_not] at same
      rw [lists, ← same]
      exact ⟨rfl, rfl, fun _ _ _ before => before, placed.listed here mem⟩
  rcases moved with ⟨tiles, parents, keeps, listed⟩
  have ⟨between, absent⟩ : Placed switched ∧ Absent switched creature := by
    refine placed.without (parents.trans positions) ?_ keeps
    intro position after there
    rw [tiles, erased] at there
    exact erase_fewer placed here mem there
  rcases map_eq_some_iff.mp addition with ⟨waiting, there, rfl⟩
  have arrived :
      Placed
        { switched.clearSpectatorCache with
          position := update switched.position creature (some toTile)
          creatures := update switched.creatures toTile (some (creature :: waiting)) } :=
    between.with_creature absent there rfl rfl (fun _ _ before => before) listed
  exact getSpectators_placed (getSpectators_placed arrived _) _

def At (map : Map) (creature : Nat) (cpos : Position) : Prop :=
  map.OnMap creature ∧ map.position creature = some cpos

lemma Sound.at_leaf
  (sound : Sound map) (placed : Placed map) (listed : creature ∈ map.creatureList place) :
  ∃ cpos, map.At creature cpos ∧ place = qtNode cpos := by
  rcases sound.stands creature place listed with ⟨cpos, creatures, parent, here, mem⟩
  exact ⟨cpos, ⟨⟨cpos, creatures, here, mem⟩, parent⟩,
    sound.sorted.unique creature _ _ listed (placed.listed here mem)⟩

/--
The scan adds the creatures in range to the list, each of them once; if it looks
for duplicates, those which are in the list already are left out.
-/
lemma getSpectatorsInternal_exact (sound : Sound map) (placed : Placed map) (list : List Nat)
  (centerPos : Position) (checkforduplicate : Bool) (range : Range) :
  ∃ found,
    map.getSpectatorsInternal list centerPos checkforduplicate range =
        list ++ found ∧
      found.Nodup ∧
        ∀ creature,
          creature ∈ found ↔
            (∃ cpos, map.At creature cpos ∧ InRange centerPos cpos range) ∧
              ¬ (checkforduplicate = true ∧ creature ∈ list) := by
  have nodup := sound.sorted.visited_nodup centerPos range
  refine ⟨(map.visited centerPos range).filter
    (map.taken list centerPos checkforduplicate range), ?_,
    nodup.filter _, ?_⟩
  · have scanned :=
      foldl_spot map list centerPos checkforduplicate range nodup [] (fun _ _ => not_mem_nil)
    rw [append_nil, nil_append] at scanned
    rw [getSpectatorsInternal_visited, scanned]
  · intro creature
    rw [mem_filter, taken, Bool.and_eq_true, Bool.not_eq_true',
      ← Bool.not_eq_true, Bool.and_eq_true, contains_iff_mem, ← and_assoc]
    refine and_congr_left fun _ => ?_
    constructor
    · rintro ⟨seen, spotted⟩
      rw [visited, mem_flatMap] at seen
      rcases seen with ⟨ny, _, row⟩
      rw [mem_flatMap] at row
      rcases row with ⟨nx, _, listed⟩
      have ⟨cpos, at_cpos, _⟩ := sound.at_leaf placed listed
      rw [spots, at_cpos.2] at spotted
      exact ⟨cpos, at_cpos, (inRange_iff _ _ _).mp spotted⟩
    · rintro ⟨cpos, ⟨⟨place, creatures, here, mem⟩, parent⟩, near⟩
      have same := placed.parent here mem
      rw [parent] at same
      cases same
      have ⟨column, row⟩ := near.scanned
      constructor
      · rw [visited, mem_flatMap]
        refine ⟨_, row, ?_⟩
        rw [mem_flatMap]
        exact ⟨_, column, placed.listed here mem⟩
      · rw [spots, parent]
        exact (inRange_iff _ _ _).mpr near

end Map

end OTServ.Spectators
