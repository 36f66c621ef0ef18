import OTServ.Monsters.Spawn

/-!
# Runs of a spawn

Every entry of `spawnedMap` holds one reference, and no slot has two entries,
however the spawn runs.  The number of entries is that of the slots that are not
empty and of the strays, so that the comparison of sizes in `checkSpawn` goes
wrong where there are as many strays as empty slots.
-/

namespace OTServ.Monsters.Spawns

open Library.GuardedRuns
open List Function

variable {spawnId : Nat} {spawn : Spawn} {event : Event}

namespace Spawn

variable {spawn : Spawn} {scene : Scene}

/-! ## Accounts -/

/-- The entries have ids of slots, and hold one reference each. -/
structure Accounted (spawn : Spawn) : Prop where
  ids : spawn.ids = List.range' 1 spawn.spawnMap.length
  once : ∀ spawnId, spawnId ≠ 0 → (spawn.spawnedMap.map (·.1)).count spawnId ≤ 1
  known : ∀ entry ∈ spawn.spawnedMap, entry.1 ≠ 0 → entry.1 ∈ spawn.ids
  references :
    ∀ monster,
      spawn.used monster = spawn.released monster + (spawn.spawnedMap.map (·.2)).count monster
  single : ∀ monster, spawn.used monster ≤ 1
  fresh :
    ∀ monster,
      spawn.nextMonster ≤ monster → spawn.used monster = 0 ∧ spawn.isRemoved monster = false
  owned : ∀ entry ∈ spawn.spawnedMap, spawn.hasSpawn entry.2 = true

structure Sound (spawn : Spawn) : Prop extends Accounted spawn where
  idle :
    spawn.started = false →
      spawn.spawnedMap = [] ∧ spawn.checkSpawnEvent = false ∧ spawn.nextMonster = 0

lemma Accounted.ids_ne_zero
  (accounted : Accounted spawn) (mem : spawnId ∈ spawn.ids) : spawnId ≠ 0 := by
  rw [accounted.ids, mem_range'_1] at mem
  omega

lemma Accounted.nodup_ids (accounted : Accounted spawn) : spawn.ids.Nodup := by
  rw [accounted.ids]
  exact nodup_range'

lemma load_sound (intervals : List Nat) : Sound (load intervals) := by
  have adds : ∀ (rest : List Nat) (spawn : Spawn),
      Sound spawn → Sound (rest.foldl addMonster spawn) := by
    intro rest
    induction rest with
    | nil => exact fun _ sound => sound
    | cons interval rest ih =>
      intro spawn sound
      apply ih
      have ids : (spawn.addMonster interval).ids = spawn.ids ++ [spawn.spawnMap.length + 1] := by
        rw [Spawn.ids, addMonster, map_append]
        rfl
      refine { sound with ids := ?_, known := ?_ }
      · rw [ids, sound.ids, addMonster, length_append,
          length_singleton, List.range'_concat, Nat.one_mul,
          Nat.add_comm 1]
      · intro entry mem nonzero
        rw [ids]
        exact mem_append_left _ (sound.known entry mem nonzero)
  apply adds
  constructor
  · constructor
    · rfl
    · exact fun _ _ => Nat.zero_le 1
    · intro _ mem
      cases mem
    · exact fun _ => rfl
    · exact fun _ => Nat.zero_le 1
    · exact fun _ _ => ⟨rfl, rfl⟩
    · intro _ mem
      cases mem
  · exact fun _ => ⟨rfl, rfl, rfl⟩

lemma load_started (intervals : List Nat) : (load intervals).started = false := by
  have adds : ∀ (rest : List Nat) (spawn : Spawn),
      (rest.foldl addMonster spawn).started = spawn.started := by
    intro rest
    induction rest with
    | nil => exact fun _ => rfl
    | cons interval rest ih => exact fun _ => ih _
  exact adds intervals empty

@[simp]
lemma setLastSpawn_ids (spawnId : Nat) (now : Int) :
  (spawn.setLastSpawn spawnId now).ids = spawn.ids := by
  rw [ids, setLastSpawn, map_map]
  apply map_congr_left
  intro block _
  rw [comp_apply]
  split
  · rfl
  · rfl

lemma setLastSpawn_length (spawnId : Nat) (now : Int) :
  (spawn.setLastSpawn spawnId now).spawnMap.length = spawn.spawnMap.length :=
  length_map ..

lemma Accounted.setLastSpawn (accounted : Accounted spawn) (spawnId : Nat) (now : Int) :
  Accounted (spawn.setLastSpawn spawnId now) :=
  { accounted with
    ids := by
      rw [setLastSpawn_ids, setLastSpawn_length]
      exact accounted.ids
    known := by
      intro entry mem nonzero
      rw [setLastSpawn_ids]
      exact accounted.known entry mem nonzero }

lemma isVacant_iff (spawn : Spawn) (spawnId : Nat) :
  spawn.isVacant spawnId = true ↔ ∀ entry ∈ spawn.spawnedMap, entry.1 ≠ spawnId := by
  simp [isVacant]

lemma Accounted.spawnMonster (accounted : Accounted spawn) (known : spawnId ∈ spawn.ids)
  (vacant : spawn.isVacant spawnId) : Accounted (spawn.spawnMonster scene spawnId) := by
  rw [Spawn.spawnMonster]
  split
  · apply Accounted.setLastSpawn
    have unused := accounted.fresh spawn.nextMonster (le_refl _)
    have none_yet := accounted.references spawn.nextMonster
    refine
      { ids := accounted.ids
        once := ?_
        known := ?_
        references := ?_
        single := ?_
        fresh := ?_
        owned := ?_ }
    · intro other nonzero
      rw [map_cons, count_cons]
      by_cases same : spawnId = other
      · subst same
        have absent : spawnId ∉ spawn.spawnedMap.map (·.1) := by
          rw [mem_map]
          rintro ⟨entry, mem, here⟩
          exact (isVacant_iff spawn spawnId).mp vacant entry mem here
        rw [count_eq_zero.mpr absent]
        split <;> omega
      · simp only [beq_iff_eq, same, if_false, Nat.add_zero]
        exact accounted.once other nonzero
    · intro entry mem nonzero
      rcases mem_cons.mp mem with rfl | old
      · exact known
      · exact accounted.known entry old nonzero
    · intro monster
      rw [map_cons, count_cons]
      by_cases same : spawn.nextMonster = monster
      · subst same
        simp only [update_self, beq_self_eq_true, if_true]
        omega
      · have before := accounted.references monster
        simp only [update_of_ne (Ne.symm same), beq_iff_eq, same, if_false]
        omega
    · intro monster
      dsimp only
      by_cases same : monster = spawn.nextMonster
      · subst same
        rw [update_self]
        omega
      · rw [update_of_ne same]
        exact accounted.single monster
    · intro monster later
      have later' : spawn.nextMonster + 1 ≤ monster := later
      have ne : monster ≠ spawn.nextMonster := by omega
      dsimp only
      rw [update_of_ne ne]
      exact accounted.fresh monster (by omega)
    · intro entry mem
      rcases mem_cons.mp mem with rfl | old
      · exact update_self ..
      · dsimp only
        by_cases same : entry.2 = spawn.nextMonster
        · rw [same]
          exact update_self ..
        · rw [update_of_ne same]
          exact accounted.owned entry old
  · exact accounted

lemma spawnMonster_ids (spawnId : Nat) : (spawn.spawnMonster scene spawnId).ids = spawn.ids := by
  rw [Spawn.spawnMonster]
  split
  · exact setLastSpawn_ids _ _
  · rfl

lemma spawnMonster_isVacant (spawnId other : Nat) :
  (spawn.spawnMonster scene spawnId).isVacant other =
    (spawn.isVacant other && !(other = spawnId && scene.placeCreature spawnId)) := by
  rw [Spawn.spawnMonster]
  cases placed : scene.placeCreature spawnId with
  | false => simp
  | true =>
    simp only [if_true, isVacant, Spawn.setLastSpawn, any_cons, Bool.and_true, Bool.not_or]
    rw [Bool.and_comm]
    congr 2
    exact decide_eq_decide.mpr eq_comm

/-! ## The first loop -/

lemma fate_of_ne_zero
  {entry left : Nat × Nat} (fate : spawn.fate scene entry = some left) (nonzero : left.1 ≠ 0) :
  left = entry ∧ spawn.isRemoved entry.2 = false ∧ scene.isInSpawnZone entry.2 = true := by
  rw [Spawn.fate] at fate
  split at fate
  · cases fate
  · rename_i present
    split at fate
    · cases fate
      exact absurd rfl nonzero
    · rename_i inside
      cases fate
      refine ⟨rfl, Bool.eq_false_iff.mpr present, ?_⟩
      cases zone : scene.isInSpawnZone entry.2 with
      | true => rfl
      | false =>
        rw [zone] at inside
        simp only [Bool.not_false, Bool.true_and, bne_iff_ne, ne_eq, not_not] at inside
        exact absurd inside nonzero

lemma fate_monster {entry left : Nat × Nat} (fate : spawn.fate scene entry = some left) :
  left.2 = entry.2 ∧ spawn.isRemoved entry.2 = false := by
  rw [Spawn.fate] at fate
  split at fate
  · cases fate
  · rename_i present
    have there := Bool.eq_false_iff.mpr present
    split at fate
    · cases fate
      exact ⟨rfl, there⟩
    · cases fate
      exact ⟨rfl, there⟩

lemma fate_eq_none_iff (entry : Nat × Nat) :
  spawn.fate scene entry = none ↔ spawn.isRemoved entry.2 = true := by
  rw [Spawn.fate]
  split
  · rename_i removed
    exact ⟨fun _ => removed, fun _ => rfl⟩
  · rename_i present
    constructor
    · intro impossible
      split at impossible <;> cases impossible
    · exact fun removed => absurd removed present

lemma count_fate_le (entries : List (Nat × Nat)) (nonzero : spawnId ≠ 0) :
  ((entries.filterMap (spawn.fate scene)).map (·.1)).count spawnId ≤
    (entries.map (·.1)).count spawnId := by
  induction entries with
  | nil => exact le_refl _
  | cons entry rest ih =>
    rw [map_cons, count_cons]
    cases kept : spawn.fate scene entry with
    | none =>
      rw [filterMap_cons_none kept]
      omega
    | some left =>
      rw [filterMap_cons_some kept, map_cons, count_cons]
      by_cases here : left.1 = spawnId
      · have same := (fate_of_ne_zero kept (by rw [here]; exact nonzero)).1
        rw [same]
        omega
      · rw [if_neg (by rw [beq_iff_eq]; exact here)]
        omega

lemma count_fate (spawn : Spawn) (scene : Scene) (entries : List (Nat × Nat)) (monster : Nat) :
  ((entries.filter fun entry => spawn.isRemoved entry.2).map
        (·.2)).count monster +
      ((entries.filterMap (spawn.fate scene)).map (·.2)).count monster =
    (entries.map (·.2)).count monster := by
  induction entries with
  | nil => rfl
  | cons entry rest ih =>
    rw [map_cons, count_cons]
    cases kept : spawn.fate scene entry with
    | none =>
      have removed := (fate_eq_none_iff entry).mp kept
      rw [filterMap_cons_none kept, filter_cons, if_pos removed, map_cons, count_cons]
      omega
    | some left =>
      rcases fate_monster kept with ⟨same, present⟩
      rw [filterMap_cons_some kept, filter_cons,
        if_neg (Bool.eq_false_iff.mp present), map_cons,
        count_cons, same]
      omega

@[simp]
lemma sweep_ids (spawn : Spawn) (scene : Scene) : (spawn.sweep scene).ids = spawn.ids := by
  rw [ids, sweep, map_map]
  apply map_congr_left
  intro block _
  rw [comp_apply, refresh]
  split
  · rfl
  · rfl

lemma Accounted.sweep (accounted : Accounted spawn) (scene : Scene) :
  Accounted (spawn.sweep scene) where
  ids := by
    rw [sweep_ids, accounted.ids, Spawn.sweep, length_map]
  once spawnId nonzero :=
    (count_fate_le spawn.spawnedMap nonzero).trans (accounted.once spawnId nonzero)
  known left member nonzero := by
    rcases mem_filterMap.mp member with ⟨entry, old, kept⟩
    have same := (fate_of_ne_zero kept nonzero).1
    rw [sweep_ids, same]
    rw [same] at nonzero
    exact accounted.known entry old nonzero
  references monster := by
    have before := accounted.references monster
    have parts := count_fate spawn scene spawn.spawnedMap monster
    have after : (spawn.sweep scene).spawnedMap = spawn.spawnedMap.filterMap (spawn.fate scene) :=
      rfl
    rw [after]
    show spawn.used monster = spawn.released monster + _ + _
    omega
  single := accounted.single
  fresh := accounted.fresh
  owned left member := by
    rcases mem_filterMap.mp member with ⟨entry, old, kept⟩
    rw [(fate_monster kept).1]
    exact accounted.owned entry old

lemma sweep_isVacant (nonzero : spawnId ≠ 0) :
  (spawn.sweep scene).isVacant spawnId = !spawn.keeps scene spawnId := by
  rw [Bool.eq_iff_iff, isVacant_iff, Bool.not_eq_true', Spawn.keeps, any_eq_false]
  constructor
  · intro vacant entry mem kept
    simp only [Bool.and_eq_true, decide_eq_true_eq, Bool.not_eq_true'] at kept
    rcases kept with ⟨⟨here, present⟩, inside⟩
    have stays : spawn.fate scene entry = some entry := by
      rw [fate, present, inside]
      rfl
    exact vacant entry (mem_filterMap.mpr ⟨entry, mem, stays⟩) here
  · intro gone left mem here
    rcases mem_filterMap.mp mem with ⟨entry, old, kept⟩
    rcases fate_of_ne_zero kept (by rw [here]; exact nonzero) with ⟨same, present, inside⟩
    rw [same] at here
    apply gone entry old
    simp [here, present, inside]

/-- The number of entries under the id 0. -/
def astray (spawn : Spawn) : Nat :=
  spawn.spawnedMap.countP fun entry => entry.1 = 0

lemma sweep_astray : (spawn.sweep scene).astray = spawn.strays scene := by
  rw [astray, strays, sweep, countP_filterMap]
  apply countP_congr
  intro entry _
  cases removed : spawn.isRemoved entry.2 with
  | true => simp [fate, removed]
  | false =>
    cases inside : scene.isInSpawnZone entry.2 with
    | true => simp [fate, removed, inside]
    | false =>
      by_cases zero : entry.1 = 0
      · simp [fate, removed, inside, zero]
      · simp [fate, removed, inside, zero]

/-! ## The second loop -/

lemma respawn_ids (blocks : List SpawnBlock) (spawnCount : Nat) :
  (respawn scene blocks spawnCount spawn).ids = spawn.ids := by
  induction blocks generalizing spawn spawnCount with
  | nil => rfl
  | cons block rest ih =>
    simp only [respawn]
    split
    · split
      · rw [ih, setLastSpawn_ids]
      · split
        · exact spawnMonster_ids _
        · rw [ih, spawnMonster_ids]
    · exact ih _

/-- What holds of the spawn is kept by the loop, if each monster keeps it. -/
lemma respawn_invariant (holds : Spawn → Prop)
  (setLastSpawn : ∀ spawn spawnId now, holds spawn → holds (spawn.setLastSpawn spawnId now))
  (spawnMonster :
    ∀ spawn spawnId,
      holds spawn →
        spawnId ∈ spawn.ids → spawn.isVacant spawnId → holds (spawn.spawnMonster scene spawnId))
  (blocks : List SpawnBlock) (spawnCount : Nat)
  (known : ∀ block ∈ blocks, block.spawnId ∈ spawn.ids) (start : holds spawn) :
  holds (respawn scene blocks spawnCount spawn) := by
  induction blocks generalizing spawn spawnCount with
  | nil => exact start
  | cons block rest ih =>
    have here := known block mem_cons_self
    have later : ∀ other ∈ rest, other.spawnId ∈ spawn.ids :=
      fun other mem => known other (mem_cons_of_mem _ mem)
    simp only [respawn]
    split
    · rename_i due
      have vacant := (Bool.and_eq_true_iff.mp due).1
      have placed := spawnMonster spawn block.spawnId start here vacant
      split
      · apply ih
        · rw [setLastSpawn_ids]
          exact later
        · exact setLastSpawn spawn _ _ start
      · split
        · exact placed
        · apply ih
          · rw [spawnMonster_ids]
            exact later
          · exact placed
    · exact ih _ later start

def triedFrom (spawn : Spawn) (scene : Scene) (blocks : List SpawnBlock) (spawnCount : Nat) :
  List Nat :=
  ((blocks.filter fun block =>
      spawn.isVacant block.spawnId && isDue scene block &&
        !scene.findPlayer block.spawnId).map (·.spawnId)).take
    (max 1 scene.rateSpawn - spawnCount)

lemma respawn_isVacant (blocks : List SpawnBlock) (nodup : (blocks.map (·.spawnId)).Nodup)
  {spawnCount : Nat} (few : spawnCount < max 1 scene.rateSpawn) (spawnId : Nat) :
  (respawn scene blocks spawnCount spawn).isVacant spawnId =
    (spawn.isVacant spawnId &&
      !(spawnId ∈ triedFrom spawn scene blocks spawnCount && scene.placeCreature spawnId)) := by
  induction blocks generalizing spawn spawnCount with
  | nil => simp [respawn, triedFrom]
  | cons block rest ih =>
    have distinct := nodup_cons.mp nodup
    simp only [respawn]
    split
    · rename_i due
      split
      · -- a player is near
        rename_i near
        have skipped :
            triedFrom spawn scene (block :: rest) spawnCount =
              triedFrom (spawn.setLastSpawn block.spawnId scene.now) scene rest spawnCount := by
          rw [triedFrom, filter_cons, near]
          simp [triedFrom, isVacant, setLastSpawn]
        rw [ih distinct.2 few, skipped]
        rfl
      · rename_i away
        have first :
            triedFrom spawn scene (block :: rest) spawnCount =
              block.spawnId :: triedFrom spawn scene rest (spawnCount + 1) := by
          have room :
              max 1 scene.rateSpawn - spawnCount =
                max 1 scene.rateSpawn - (spawnCount + 1) + 1 := by
            omega
          rw [triedFrom, filter_cons, due, Bool.eq_false_iff.mpr away, room]
          rfl
        split
        · rename_i last
          have full : max 1 scene.rateSpawn - (spawnCount + 1) = 0 := by
            omega
          rw [spawnMonster_isVacant, first, triedFrom, full, take_zero]
          by_cases here : spawnId = block.spawnId
          · simp [here]
          · simp [here]
        · rename_i more
          have more' : spawnCount + 1 < max 1 scene.rateSpawn := by
            omega
          have others :
              triedFrom (spawn.spawnMonster scene block.spawnId) scene rest
                  (spawnCount + 1) =
                triedFrom spawn scene rest (spawnCount + 1) := by
            rw [triedFrom, triedFrom]
            congr 2
            apply filter_congr
            intro other mem
            have ne : other.spawnId ≠ block.spawnId := by
              intro same
              exact distinct.1 (mem_map.mpr ⟨other, mem, same⟩)
            rw [spawnMonster_isVacant]
            simp [ne]
          rw [ih distinct.2 more', others, spawnMonster_isVacant, first]
          by_cases here : spawnId = block.spawnId
          · subst here
            cases scene.placeCreature block.spawnId <;> simp
          · simp [here]
    · rename_i idle
      have skipped :
          triedFrom spawn scene (block :: rest) spawnCount =
            triedFrom spawn scene rest spawnCount := by
        rw [triedFrom, filter_cons, Bool.eq_false_iff.mpr idle]
        rfl
      rw [ih distinct.2 few, skipped]

lemma Accounted.length_add (accounted : Accounted spawn) :
  spawn.spawnedMap.length + (spawn.ids.filter spawn.isVacant).length =
    spawn.ids.length + spawn.astray := by
  have inSlots :
      ((spawn.spawnedMap.filter fun entry => entry.1 ≠ 0).map (·.1)).Perm
        (spawn.ids.filter fun spawnId => !spawn.isVacant spawnId) := by
    rw [perm_ext_iff_of_nodup]
    · intro spawnId
      simp only [mem_map, mem_filter, decide_eq_true_eq,
        Bool.not_eq_true', Bool.eq_false_iff, ne_eq, isVacant_iff, not_forall,
        not_not]
      constructor
      · rintro ⟨entry, ⟨mem, nonzero⟩, rfl⟩
        exact ⟨accounted.known entry mem nonzero, entry, mem, rfl⟩
      · rintro ⟨known, entry, mem, rfl⟩
        exact ⟨entry, ⟨mem, accounted.ids_ne_zero known⟩, rfl⟩
    · rw [nodup_iff_count_le_one]
      intro spawnId
      by_cases zero : spawnId = 0
      · have absent : spawnId ∉ (spawn.spawnedMap.filter fun entry => entry.1 ≠ 0).map (·.1) := by
          rw [mem_map]
          rintro ⟨entry, mem, here⟩
          have nonzero := of_decide_eq_true (mem_filter.mp mem).2
          exact nonzero (here.trans zero)
        rw [count_eq_zero.mpr absent]
        exact Nat.zero_le 1
      · have part :
            ((spawn.spawnedMap.filter fun entry => entry.1 ≠ 0).map
                (·.1)).Sublist (spawn.spawnedMap.map (·.1)) :=
          filter_sublist.map _
        exact (part.count_le spawnId).trans (accounted.once spawnId zero)
    · exact accounted.nodup_ids.filter _
  have entries :
      spawn.spawnedMap.length =
        (spawn.spawnedMap.filter fun entry => entry.1 = 0).length +
          (spawn.spawnedMap.filter fun entry => !decide (entry.1 = 0)).length :=
    length_eq_length_filter_add _
  have slots :
      spawn.ids.length =
        (spawn.ids.filter spawn.isVacant).length +
          (spawn.ids.filter fun spawnId => !spawn.isVacant spawnId).length :=
    length_eq_length_filter_add _
  have same := inSlots.length_eq
  rw [length_map] at same
  rw [entries, slots, astray, countP_eq_length_filter]
  simp only [ne_eq, decide_not] at same
  omega

lemma spawnMonster_astray (nonzero : spawnId ≠ 0) :
  (spawn.spawnMonster scene spawnId).astray = spawn.astray := by
  rw [Spawn.spawnMonster]
  split
  · simp [astray, Spawn.setLastSpawn, nonzero]
  · rfl

def AllPresent (spawn : Spawn) : Prop :=
  ∀ entry ∈ spawn.spawnedMap, spawn.isRemoved entry.2 = false

lemma sweep_allPresent : AllPresent (spawn.sweep scene) := by
  intro left mem
  rcases mem_filterMap.mp mem with ⟨entry, _, kept⟩
  rw [(fate_monster kept).1]
  exact (fate_monster kept).2

lemma AllPresent.spawnMonster (present : AllPresent spawn) (accounted : Accounted spawn)
  (spawnId : Nat) : AllPresent (spawn.spawnMonster scene spawnId) := by
  rw [Spawn.spawnMonster]
  split
  · intro entry mem
    rcases mem_cons.mp mem with rfl | old
    · exact (accounted.fresh _ (le_refl _)).2
    · exact present entry old
  · exact present

lemma sweep_known :
  ∀ block ∈ (spawn.sweep scene).spawnMap, block.spawnId ∈ (spawn.sweep scene).ids :=
  fun _ mem => mem_map_of_mem mem

lemma checkSpawn_facts (accounted : Accounted spawn) :
  Accounted (spawn.checkSpawn scene) ∧
    AllPresent (spawn.checkSpawn scene) ∧
      (spawn.checkSpawn scene).astray = spawn.strays scene := by
  have swept := accounted.sweep scene
  have kept : Accounted (respawn scene (spawn.sweep scene).spawnMap 0 _) ∧ _ ∧ _ :=
    respawn_invariant
      (fun after => Accounted after ∧ AllPresent after ∧ after.astray = spawn.strays scene)
      (fun _ spawnId now holds => ⟨holds.1.setLastSpawn spawnId now, holds.2.1, holds.2.2⟩)
      (fun _ spawnId holds known vacant =>
        ⟨holds.1.spawnMonster known vacant,
          holds.2.1.spawnMonster holds.1 spawnId,
          (spawnMonster_astray (holds.1.ids_ne_zero known)).trans holds.2.2⟩)
      (spawn.sweep scene).spawnMap 0 sweep_known
      ⟨swept, sweep_allPresent, sweep_astray⟩
  exact ⟨{ kept.1 with }, kept.2.1, kept.2.2⟩

lemma checkSpawn_ids : (spawn.checkSpawn scene).ids = spawn.ids := by
  have filled :
      (respawn scene (spawn.sweep scene).spawnMap 0 (spawn.sweep scene)).ids =
        spawn.ids := by
    rw [respawn_ids, sweep_ids]
  exact filled

lemma checkSpawn_vacant (accounted : Accounted spawn) :
  (spawn.checkSpawn scene).ids.filter (spawn.checkSpawn scene).isVacant =
    spawn.leftEmpty scene := by
  rw [checkSpawn_ids, leftEmpty]
  apply filter_congr
  intro spawnId mem
  have nonzero := accounted.ids_ne_zero mem
  have nodup : ((spawn.sweep scene).spawnMap.map (·.spawnId)).Nodup := by
    have same := sweep_ids spawn scene
    rw [ids] at same
    rw [same]
    exact accounted.nodup_ids
  have loop :
      (respawn scene (spawn.sweep scene).spawnMap 0 (spawn.sweep scene)).isVacant spawnId = _ :=
    respawn_isVacant (spawn.sweep scene).spawnMap nodup (by omega) spawnId
  have tried :
      triedFrom (spawn.sweep scene) scene (spawn.sweep scene).spawnMap 0 = spawn.tried scene := by
    rw [triedFrom, Spawn.tried, Nat.sub_zero]
    congr 2
    apply filter_congr
    intro block mem
    have known : block.spawnId ∈ spawn.ids := by
      rw [← sweep_ids spawn scene]
      exact sweep_known block mem
    rw [sweep_isVacant (accounted.ids_ne_zero known)]
  rw [tried, sweep_isVacant nonzero] at loop
  exact loop

lemma checkSpawn_event_iff (accounted : Accounted spawn) :
  (spawn.checkSpawn scene).checkSpawnEvent = true ↔
    spawn.strays scene < (spawn.leftEmpty scene).length := by
  have facts :
      Accounted (spawn.checkSpawn scene) ∧
        AllPresent (spawn.checkSpawn scene) ∧
          (spawn.checkSpawn scene).astray = spawn.strays scene :=
    checkSpawn_facts accounted
  rcases facts with ⟨after, _, astray⟩
  have sizes := after.length_add
  rw [checkSpawn_vacant accounted, astray] at sizes
  have slots : (spawn.checkSpawn scene).ids.length = (spawn.checkSpawn scene).spawnMap.length :=
    length_map ..
  have event :
      (spawn.checkSpawn scene).checkSpawnEvent =
        decide
          ((spawn.checkSpawn scene).spawnedMap.length <
            (spawn.checkSpawn scene).spawnMap.length) :=
    rfl
  rw [event, decide_eq_true_iff]
  omega

lemma startup_loop (scene : Scene) (rest : List Nat) (nodup : rest.Nodup)
  (known : ∀ spawnId ∈ rest, spawnId ∈ spawn.ids)
  (vacant : ∀ spawnId ∈ rest, spawn.isVacant spawnId) (accounted : Accounted spawn)
  (present : AllPresent spawn) :
  let filled := rest.foldl (fun spawn spawnId => spawn.spawnMonster scene spawnId) spawn
  Accounted filled ∧ AllPresent filled ∧ filled.ids = spawn.ids ∧
    ∀ spawnId,
      filled.isVacant spawnId =
        (spawn.isVacant spawnId && !(spawnId ∈ rest && scene.placeCreature spawnId)) := by
  induction rest generalizing spawn with
  | nil => exact ⟨accounted, present, rfl, fun _ => by simp⟩
  | cons first rest ih =>
    have distinct := nodup_cons.mp nodup
    have here := known first mem_cons_self
    have open_yet := vacant first mem_cons_self
    have rest_known : ∀ spawnId ∈ rest, spawnId ∈ (spawn.spawnMonster scene first).ids := by
      intro spawnId mem
      rw [spawnMonster_ids]
      exact known spawnId (mem_cons_of_mem _ mem)
    have rest_vacant : ∀ spawnId ∈ rest, (spawn.spawnMonster scene first).isVacant spawnId := by
      intro spawnId mem
      have ne : spawnId ≠ first := by
        rintro rfl
        exact distinct.1 mem
      rw [spawnMonster_isVacant, vacant spawnId (mem_cons_of_mem _ mem)]
      simp [ne]
    rcases ih distinct.2 rest_known rest_vacant
        (accounted.spawnMonster here open_yet)
        (present.spawnMonster accounted first) with
      ⟨accounted', present', ids, filled⟩
    refine ⟨accounted', present', ids.trans (spawnMonster_ids _), ?_⟩
    intro spawnId
    rw [foldl_cons, filled spawnId, spawnMonster_isVacant]
    by_cases same : spawnId = first
    · subst same
      cases scene.placeCreature spawnId <;> simp
    · simp [same]

lemma Sound.startup (sound : Sound spawn) (unstarted : spawn.started = false) :
  Sound (spawn.startup scene) ∧ AllPresent (spawn.startup scene) ∧
    (spawn.startup scene).ids = spawn.ids ∧
      ∀ spawnId ∈ spawn.ids,
        (spawn.startup scene).isVacant spawnId = !scene.placeCreature spawnId := by
  have nothing := (sound.idle unstarted).1
  have vacant : ∀ spawnId ∈ spawn.ids, spawn.isVacant spawnId := by
    intro spawnId _
    rw [isVacant, nothing]
    rfl
  have present : AllPresent spawn := by
    intro entry mem
    rw [nothing] at mem
    cases mem
  rcases startup_loop scene spawn.ids sound.nodup_ids
      (fun _ mem => mem) vacant sound.toAccounted present with
    ⟨accounted, present', ids, filled⟩
  refine ⟨⟨{ accounted with }, ?_⟩, present', ids, ?_⟩
  · intro impossible
    cases impossible
  · intro spawnId mem
    have last := filled spawnId
    rw [vacant spawnId mem] at last
    simp only [mem, decide_true, Bool.true_and] at last
    exact last

lemma Accounted.removeMonster (accounted : Accounted spawn) (monster : Nat) :
  Accounted (spawn.removeMonster monster) ∧
    ∀ entry ∈ (spawn.removeMonster monster).spawnedMap,
      entry ∈ spawn.spawnedMap ∧ entry.2 ≠ monster := by
  rw [Spawn.removeMonster]
  cases found : spawn.spawnedMap.find? fun entry => entry.2 = monster with
  | none =>
    refine ⟨accounted, ?_⟩
    intro entry mem
    have other := List.find?_eq_none.mp found entry mem
    rw [decide_eq_true_iff] at other
    exact ⟨mem, other⟩
  | some taken =>
    have own : taken.2 = monster := by
      have matching := List.find?_some found
      exact of_decide_eq_true matching
    have listed := mem_of_find?_eq_some found
    have perm := perm_cons_erase listed
    have counts : ∀ other,
        (spawn.spawnedMap.map (·.2)).count other =
          ((spawn.spawnedMap.erase taken).map (·.2)).count other +
            if monster = other then 1 else 0 := by
      intro other
      rw [(perm.map (·.2)).count_eq, map_cons, count_cons, own]
      simp only [beq_iff_eq]
    constructor
    · refine { accounted with
        once := ?_
        known := ?_
        references := ?_
        owned := ?_ }
      · intro spawnId nonzero
        have part :
            ((spawn.spawnedMap.erase taken).map (·.1)).Sublist (spawn.spawnedMap.map (·.1)) :=
          erase_sublist.map _
        exact (part.count_le spawnId).trans (accounted.once spawnId nonzero)
      · exact fun entry mem => accounted.known entry (mem_of_mem_erase mem)
      · intro other
        have before := accounted.references other
        rw [counts other] at before
        dsimp only
        by_cases same : other = monster
        · subst same
          rw [update_self]
          rw [if_pos rfl] at before
          omega
        · rw [update_of_ne same]
          rw [if_neg (Ne.symm same)] at before
          omega
      · exact fun entry mem => accounted.owned entry (mem_of_mem_erase mem)
    · intro entry mem
      refine ⟨mem_of_mem_erase mem, ?_⟩
      intro same
      have once := accounted.references monster
      have single := accounted.single monster
      rw [counts monster, if_pos rfl] at once
      have still : 0 < ((spawn.spawnedMap.erase taken).map (·.2)).count monster :=
        count_pos_iff.mpr (mem_map.mpr ⟨entry, mem, same⟩)
      omega

lemma removeMonster_frame (spawn : Spawn) (monster : Nat) :
  (spawn.removeMonster monster).started = spawn.started ∧
    (spawn.removeMonster monster).checkSpawnEvent =
        spawn.checkSpawnEvent ∧
      (spawn.removeMonster monster).ids = spawn.ids ∧
        (spawn.removeMonster monster).hasSpawn = spawn.hasSpawn ∧
          (spawn.removeMonster monster).isRemoved = spawn.isRemoved ∧
            ∀ entry ∈ spawn.spawnedMap,
              entry.2 ≠ monster → entry ∈ (spawn.removeMonster monster).spawnedMap := by
  rw [Spawn.removeMonster]
  split
  · exact ⟨rfl, rfl, rfl, rfl, rfl, fun _ mem _ => mem⟩
  · rename_i taken found
    refine ⟨rfl, rfl, rfl, rfl, rfl, ?_⟩
    intro entry mem other
    have own := List.find?_some found
    rw [decide_eq_true_iff] at own
    apply (mem_erase_of_ne ?_).mpr mem
    rintro rfl
    exact other own

end Spawn

/-! ## Steps -/

lemma Spawn.Sound.step {next : Spawn} (sound : spawn.Sound) (taken : step spawn event next) :
  next.Sound := by
  cases event with
  | startup scene =>
    rcases taken with ⟨unstarted, rfl⟩
    exact (sound.startup unstarted).1
  | check scene =>
    rcases taken with ⟨pending, rfl⟩
    refine ⟨(Spawn.checkSpawn_facts sound.toAccounted).1, ?_⟩
    intro unstarted
    have started : (spawn.checkSpawn scene).started = spawn.started := by
      have frame :=
        Spawn.respawn_invariant
          (fun after => after.started = spawn.started)
          (fun _ _ _ same => same)
          (fun before spawnId same _ _ => by
            show (before.spawnMonster scene spawnId).started = _
            rw [Spawn.spawnMonster]
            split
            · exact same
            · exact same)
          (spawn.sweep scene).spawnMap 0 Spawn.sweep_known rfl
      exact frame
    rw [started] at unstarted
    have idle := (sound.idle unstarted).2.1
    rw [idle] at pending
    cases pending
  | disappear monster =>
    rcases taken with ⟨⟨given, present⟩, rfl⟩
    have gone :
        Spawn.Accounted { spawn with isRemoved := update spawn.isRemoved monster true } := by
      refine { sound.toAccounted with fresh := ?_ }
      intro other later
      have ne : other ≠ monster := by
        rintro rfl
        exact absurd given (not_lt.mpr later)
      refine ⟨(sound.fresh other later).1, ?_⟩
      dsimp only
      rw [update_of_ne ne]
      exact (sound.fresh other later).2
    have idle : spawn.started = false → False := by
      intro unstarted
      rw [(sound.idle unstarted).2.2] at given
      exact absurd given (Nat.not_lt_zero _)
    simp only [Spawn.disappear]
    split
    · exact ⟨{ gone with }, fun unstarted => (idle unstarted).elim⟩
    · exact ⟨gone, fun unstarted => (idle unstarted).elim⟩
  | convince monster =>
    rcases taken with ⟨⟨given, _⟩, rfl⟩
    have idle : spawn.started = false → False := by
      intro unstarted
      rw [(sound.idle unstarted).2.2] at given
      exact absurd given (Nat.not_lt_zero _)
    rw [Spawn.convince]
    split
    · rcases sound.toAccounted.removeMonster monster with ⟨accounted, others⟩
      have frame := Spawn.removeMonster_frame spawn monster
      refine ⟨{ accounted with owned := ?_ }, ?_⟩
      · intro entry mem
        rcases others entry mem with ⟨old, ne⟩
        dsimp only
        rw [update_of_ne ne]
        exact sound.owned entry old
      · intro unstarted
        have same : (spawn.removeMonster monster).started = false := unstarted
        rw [frame.1] at same
        exact (idle same).elim
    · exact sound

structure Watched (spawn : Spawn) : Prop where
  empty :
    spawn.started = true →
      ∀ spawnId ∈ spawn.ids, spawn.isVacant spawnId → spawn.checkSpawnEvent = true
  lost : ∀ entry ∈ spawn.spawnedMap, spawn.isRemoved entry.2 = true → spawn.checkSpawnEvent = true

lemma Spawn.AllPresent.lost (present : spawn.AllPresent) :
  ∀ entry ∈ spawn.spawnedMap, spawn.isRemoved entry.2 = true → spawn.checkSpawnEvent = true := by
  intro entry mem removed
  rw [present entry mem] at removed
  cases removed

lemma Watched.step {next : Spawn} (watched : Watched spawn) (sound : spawn.Sound)
  (safe : IsSafe spawn event) (taken : step spawn event next) : Watched next := by
  cases event with
  | startup scene =>
    rcases taken with ⟨unstarted, rfl⟩
    have begun :
        (spawn.startup scene).Sound ∧ (spawn.startup scene).AllPresent ∧
          (spawn.startup scene).ids = spawn.ids ∧ _ :=
      sound.startup unstarted
    rcases begun with ⟨_, present, ids, filled⟩
    refine ⟨?_, present.lost⟩
    intro _ spawnId mem vacant
    rw [ids] at mem
    rw [filled spawnId mem, safe spawnId mem] at vacant
    cases vacant
  | check scene =>
    rcases taken with ⟨_, rfl⟩
    have facts :
        (spawn.checkSpawn scene).Accounted ∧
          (spawn.checkSpawn scene).AllPresent ∧
            (spawn.checkSpawn scene).astray = spawn.strays scene :=
      Spawn.checkSpawn_facts sound.toAccounted
    refine ⟨?_, facts.2.1.lost⟩
    intro _ spawnId mem vacant
    have left : spawnId ∈ spawn.leftEmpty scene := by
      rw [← Spawn.checkSpawn_vacant sound.toAccounted]
      exact mem_filter.mpr ⟨mem, vacant⟩
    apply (Spawn.checkSpawn_event_iff sound.toAccounted).mpr
    rcases safe with none_left | few
    · rw [none_left] at left
      cases left
    · exact few
  | disappear monster =>
    rcases taken with ⟨_, rfl⟩
    simp only [Spawn.disappear]
    split
    · exact ⟨fun _ _ _ _ => rfl, fun _ _ _ => rfl⟩
    · rename_i stranger
      refine ⟨watched.empty, ?_⟩
      intro entry mem removed
      have ne : entry.2 ≠ monster := by
        intro same
        apply stranger
        rw [← same]
        exact sound.owned entry mem
      have removed' : update spawn.isRemoved monster true entry.2 = true := removed
      rw [update_of_ne ne] at removed'
      exact watched.lost entry mem removed'
  | convince monster =>
    rcases taken with ⟨_, rfl⟩
    rw [Spawn.convince]
    split
    · rcases Spawn.removeMonster_frame spawn monster with ⟨started, event, ids, _, removed, kept⟩
      have others := (sound.toAccounted.removeMonster monster).2
      constructor
      · intro now spawnId mem vacant
        have known : spawnId ∈ spawn.ids := by
          rw [← ids]
          exact mem
        have going : spawn.started = true := by
          rw [← started]
          exact now
        rw [event]
        rcases safe with pending | outside
        · exact pending
        · apply watched.empty going spawnId known
          rw [Spawn.isVacant_iff]
          intro entry listed here
          by_cases own : entry.2 = monster
          · have zero := outside entry listed own
            rw [zero] at here
            exact sound.ids_ne_zero known here.symm
          · exact (Spawn.isVacant_iff _ spawnId).mp vacant entry (kept entry listed own) here
      · intro entry mem gone
        show (spawn.removeMonster monster).checkSpawnEvent = true
        rw [event]
        have gone' : (spawn.removeMonster monster).isRemoved entry.2 = true := gone
        rw [removed] at gone'
        exact watched.lost entry (others entry mem).1 gone'
    · exact watched

/--
However a spawn runs, no slot has two entries, and every entry holds the one
reference that has been taken for its monster.  In runs in which the startup
places all monsters, no check leaves slots empty without leaving more of them
than there are strays, and no monster of a slot is convinced while no check is
pending, a check is pending whenever a slot is empty or its monster is gone.
-/
theorem spawns_keep_respawning (intervals : List Nat) (finish : Spawn) :
  (Reaches step Always (Spawn.load intervals) finish →
      (∀ spawnId,
          spawnId ≠ 0 → (finish.spawnedMap.map (·.1)).count spawnId ≤ 1) ∧
        ∀ monster,
          finish.used monster ≤ 1 ∧
            finish.used monster =
              finish.released monster + (finish.spawnedMap.map (·.2)).count monster) ∧
    (Reaches step IsSafe (Spawn.load intervals) finish →
      (finish.started = true →
          ∀ spawnId ∈ finish.ids, finish.isVacant spawnId → finish.checkSpawnEvent = true) ∧
        ∀ entry ∈ finish.spawnedMap,
          finish.isRemoved entry.2 = true → finish.checkSpawnEvent = true) := by
  have start := Spawn.load_sound intervals
  constructor
  · intro run
    have sound : finish.Sound := run.invariant start fun _ _ _ sound _ taken => sound.step taken
    exact ⟨sound.once, fun monster => ⟨sound.single monster, sound.references monster⟩⟩
  · intro run
    have unstarted := Spawn.load_started intervals
    have initially : (Spawn.load intervals).Sound ∧ Watched (Spawn.load intervals) := by
      refine ⟨start, ?_, ?_⟩
      · intro started
        rw [unstarted] at started
        cases started
      · intro entry member
        rw [(start.idle unstarted).1] at member
        cases member
    have stays :
        ∀ spawn event next,
          spawn.Sound ∧ Watched spawn →
            IsSafe spawn event → step spawn event next → next.Sound ∧ Watched next :=
      fun _ _ _ holds safe taken => ⟨holds.1.step taken, holds.2.step holds.1 safe taken⟩
    have both := run.invariant initially stays
    exact ⟨both.2.empty, both.2.lost⟩

def quietScene : Scene where
  now := 0
  isInSpawnZone _ := true
  findPlayer _ := false
  placeCreature _ := true
  rateSpawn := 1

def lair : Spawn := (Spawn.load [60000]).startup quietScene

lemma lair_safe : Reaches step IsSafe (Spawn.load [60000]) lair := by
  have safe : IsSafe (Spawn.load [60000]) (.startup quietScene) := fun _ _ => rfl
  have taken : step (Spawn.load [60000]) (.startup quietScene) lair := ⟨rfl, rfl⟩
  exact .tail .refl safe taken

theorem spawns_keep_respawning_lair :
  lair.used 0 = lair.released 0 + 1 ∧
    ∀ spawnId ∈ lair.ids, lair.isVacant spawnId → lair.checkSpawnEvent = true := by
  have sound := (spawns_keep_respawning [60000] lair).1 lair_safe.always
  have watched := (spawns_keep_respawning [60000] lair).2 lair_safe
  exact ⟨(sound.2 0).2, watched.1 rfl⟩

/-- The monster is convinced, and nobody looks for it any more. -/
theorem convinced_monster_is_not_replaced :
  Reaches step Always (Spawn.load [60000]) (lair.convince 0) ∧
    (lair.convince 0).started = true ∧
      1 ∈ (lair.convince 0).ids ∧
        (lair.convince 0).isVacant 1 = true ∧ (lair.convince 0).checkSpawnEvent = false := by
  have alive : lair.isAlive 0 := by
    constructor
    · decide
    · decide
  have taken : step lair (.convince 0) (lair.convince 0) := ⟨alive, rfl⟩
  have run : Reaches step Always (Spawn.load [60000]) (lair.convince 0) :=
    .tail lair_safe.always trivial taken
  refine ⟨run, ?_, ?_, ?_, ?_⟩
  all_goals decide

end OTServ.Monsters.Spawns
