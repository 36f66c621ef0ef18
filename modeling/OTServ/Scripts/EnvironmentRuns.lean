import OTServ.Scripts.Environments
import OTServ.Library.GuardedRuns
import Mathlib.Data.List.Nodup
import Mathlib.Order.Nat

/-!
# Runs of the script environments

`resetEnv` goes over the whole table and not only over the items of its own
environment.  What is promised of the items therefore holds as long as every item
without a parent that the table holds at a release is of the environment which is
released.  It has to hold besides that the game has not handed the item over itself:
an item which was merged into a stack, or removed from the world, is still listed.

The table stays a map from environments to the items of the scripts which run in
them, since a release empties it.
-/

namespace OTServ.Scripts

open List Function

variable {item : Nat} {system : Environments}

namespace Environments

open Library.GuardedRuns

/-- What is promised of temporary items in every state. -/
structure LiveAsTheirScript (system : Environments) : Prop where
  /-- the release of an environment hands over the items of its script alone -/
  ownRelease : ∀ item run, (item, Cause.release run) ∈ system.freed → system.creator item = run
  /-- nothing is handed over twice -/
  once : (system.freed.map Prod.fst).Nodup
  /-- behind the release an item without a parent has been handed over, and by the
  release if it never had a parent -/
  released :
    ∀ item < system.nextItem, system.creator item ∉ system.running →
      system.temporary item = true → system.parent item = none →
        item ∈ system.freed.map Prod.fst ∧
        (system.placed item = false → (item, Cause.release (system.creator item)) ∈ system.freed)

/--
A release finds no items without a parent but those of the script which ends, and
none that has been handed over; and a script does not add an item which has been.
-/
def Sparing (system : Environments) : Operation → Prop
  | .releaseScriptEnv =>
    ∀ run, system.running.getLast? = some run →
      ∀ item ∈ system.listed, system.parent item = none →
        system.creator item = run ∧ item ∉ system.freed.map Prod.fst
  | .internalAddItem item adding =>
    system.CanAdd item → adding ≠ .refused → item ∉ system.freed.map Prod.fst
  | _ => True

/-- The table holds items of the scripts which run, each one once. -/
structure Listed (system : Environments) : Prop where
  few : system.running.length < environments
  runs : system.running.Nodup
  known : ∀ run ∈ system.running, run < system.nextRun
  creators : ∀ item < system.nextItem, system.creator item < system.nextRun
  own :
    ∀ env item, item ∈ system.m_tempItems env → system.running[env]? = some (system.creator item)
  items : ∀ env item, item ∈ system.m_tempItems env → item < system.nextItem
  nodup : ∀ env, (system.m_tempItems env).Nodup

structure Kept (system : Environments) : Prop where
  table : system.Listed
  lives : system.LiveAsTheirScript
  freed : ∀ item ∈ system.freed.map Prod.fst, item < system.nextItem ∧ system.parent item = none
  unplaced : ∀ item, system.placed item = false → system.parent item = none
  beyond : ∀ item, system.nextItem ≤ item → system.parent item = none
  running :
    ∀ item < system.nextItem, system.creator item ∈ system.running →
      system.temporary item = true →
        (system.parent item = none →
          item ∈ system.freed.map Prod.fst ∨ ∃ env, item ∈ system.m_tempItems env) ∧
        (system.placed item = false → ∃ env, item ∈ system.m_tempItems env)

namespace Listed

variable {system : Environments} (table : system.Listed)

include table

lemma env_lt {env : Nat} (mem : item ∈ system.m_tempItems env) : env < environments := by
  have inside := (List.getElem?_eq_some_iff.mp (table.own env item mem)).1
  exact inside.trans table.few

lemma mem_listed : item ∈ system.listed ↔ ∃ env, item ∈ system.m_tempItems env := by
  constructor
  · intro mem
    obtain ⟨env, -, inside⟩ := mem_flatMap.mp mem
    exact ⟨env, inside⟩
  · rintro ⟨env, inside⟩
    exact mem_flatMap.mpr ⟨env, mem_range.mpr (table.env_lt inside), inside⟩

lemma env_eq {env other : Nat} (one : item ∈ system.m_tempItems env)
  (two : item ∈ system.m_tempItems other) : env = other := by
  obtain ⟨inside, here⟩ := List.getElem?_eq_some_iff.mp (table.own env item one)
  obtain ⟨insideOther, there⟩ := List.getElem?_eq_some_iff.mp (table.own other item two)
  exact (List.Nodup.getElem_inj_iff table.runs).mp (here.trans there.symm)

lemma nodup_listed : system.listed.Nodup := by
  refine nodup_flatMap.mpr ⟨fun env _ => table.nodup env, ?_⟩
  refine nodup_range.imp ?_
  intro env other ne item one two
  exact ne (table.env_eq one two)

end Listed

/-! ## Reserving and releasing -/

lemma Kept.reserveScriptEnv (kept : system.Kept) : system.reserveScriptEnv.Kept := by
  rw [Environments.reserveScriptEnv]
  split_ifs with free
  · have inside : system.running.length < 15 := by
      rw [m_scriptEnvIndex] at free
      omega
    have fresh (item : Nat) (below : item < system.nextItem) :
        system.creator item ∈ system.running ++ [system.nextRun] ↔
          system.creator item ∈ system.running := by
      have old := kept.table.creators item below
      simp [old.ne]
    exact {
      table := {
        few := by
          rw [length_append]
          exact Nat.succ_lt_succ inside
        runs := by
          refine nodup_append.mpr ⟨kept.table.runs, nodup_singleton _, ?_⟩
          rintro run mem _ new rfl
          rw [mem_singleton.mp new] at mem
          exact (kept.table.known _ mem).false
        known := by
          intro run mem
          rcases mem_append.mp mem with old | new
          · exact Nat.lt_succ_of_lt (kept.table.known run old)
          · exact mem_singleton.mp new ▸ Nat.lt_succ_self _
        creators := fun item below => Nat.lt_succ_of_lt (kept.table.creators item below)
        own := by
          intro env item mem
          have inRunning := kept.table.own env item mem
          have bound := (List.getElem?_eq_some_iff.mp inRunning).1
          exact (List.getElem?_append_left bound).trans inRunning
        items := kept.table.items
        nodup := kept.table.nodup }
      lives := {
        ownRelease := kept.lives.ownRelease
        once := kept.lives.once
        released := fun item below notRunning =>
          kept.lives.released item below (mt (fresh item below).mpr notRunning) }
      freed := kept.freed
      unplaced := kept.unplaced
      beyond := kept.beyond
      running := fun item below runs => kept.running item below ((fresh item below).mp runs) }
  · exact kept

lemma mem_resetEnv_freed (table : system.Listed) {run : Nat} {cause : Cause} :
  (item, cause) ∈ (system.resetEnv run).freed ↔
    (item, cause) ∈ system.freed ∨
      cause = .release run ∧ system.parent item = none ∧
        ∃ env, item ∈ system.m_tempItems env := by
  rw [← table.mem_listed]
  simp only [resetEnv, mem_append, mem_map, mem_filter, decide_eq_true_eq, Prod.mk.injEq]
  constructor
  · rintro (old | ⟨other, ⟨mem, parentless⟩, rfl, rfl⟩)
    · exact Or.inl old
    · exact Or.inr ⟨rfl, parentless, mem⟩
  · rintro (old | ⟨rfl, parentless, mem⟩)
    · exact Or.inl old
    · exact Or.inr ⟨item, ⟨mem, parentless⟩, rfl, rfl⟩

lemma Kept.releaseScriptEnv (kept : system.Kept) (sparing : system.Sparing .releaseScriptEnv) :
  system.releaseScriptEnv.Kept := by
  rw [Environments.releaseScriptEnv]
  cases last : system.running.getLast? with
  | none => exact kept
  | some run =>
    have table := kept.table
    have finds (env item : Nat) (mem : item ∈ system.m_tempItems env)
        (parentless : system.parent item = none) :
        system.creator item = run ∧ item ∉ system.freed.map Prod.fst :=
      sparing run last item (table.mem_listed.mpr ⟨env, mem⟩) parentless
    have split : system.running.dropLast ++ [run] = system.running :=
      dropLast_append_getLast? run last
    have runs : (system.running.dropLast ++ [run]).Nodup := by
      rw [split]
      exact table.runs
    have ended : run ∉ system.running.dropLast := fun mem =>
      (nodup_append.mp runs).2.2 run mem run (mem_singleton_self _) rfl
    have freedIff {item : Nat} {cause : Cause} :
        (item, cause) ∈ (system.resetEnv run).freed ↔
          (item, cause) ∈ system.freed ∨
            cause = .release run ∧ system.parent item = none ∧
              ∃ env, item ∈ system.m_tempItems env :=
      mem_resetEnv_freed table
    have handed {item : Nat} :
        item ∈ (system.resetEnv run).freed.map Prod.fst ↔
          item ∈ system.freed.map Prod.fst ∨
            system.parent item = none ∧ ∃ env, item ∈ system.m_tempItems env := by
      simp only [mem_map, Prod.exists, exists_and_right, exists_eq_right]
      constructor
      · rintro ⟨cause, mem⟩
        rcases freedIff.mp mem with old | ⟨-, new⟩
        · exact Or.inl ⟨cause, old⟩
        · exact Or.inr new
      · rintro (⟨cause, old⟩ | new)
        · exact ⟨cause, freedIff.mpr (Or.inl old)⟩
        · exact ⟨_, freedIff.mpr (Or.inr ⟨rfl, new⟩)⟩
    exact {
      table := {
        few := by
          rw [length_dropLast]
          exact (Nat.sub_le _ _).trans_lt table.few
        runs := (nodup_append.mp runs).1
        known := fun other mem => table.known other (dropLast_subset _ mem)
        creators := table.creators
        own := fun _ _ mem => absurd mem not_mem_nil
        items := fun _ _ mem => absurd mem not_mem_nil
        nodup := fun _ => nodup_nil }
      lives := {
        ownRelease := by
          intro item other mem
          rcases freedIff.mp mem with old | ⟨same, parentless, env, inside⟩
          · exact kept.lives.ownRelease item other old
          · rw [Cause.release.inj same]
            exact (finds env item inside parentless).1
        once := by
          have new :
              ((system.listed.filter fun item => system.parent item = none).map
                fun item => (item, Cause.release run)).map Prod.fst =
                system.listed.filter fun item => system.parent item = none := by
            rw [map_map]
            exact map_id _
          show ((system.freed ++ _).map Prod.fst).Nodup
          rw [map_append, new]
          refine nodup_append.mpr ⟨kept.lives.once, table.nodup_listed.filter _, ?_⟩
          rintro item old _ mem rfl
          obtain ⟨inside, parentless⟩ := mem_filter.mp mem
          exact (sparing run last item inside (by simpa using parentless)).2 old
        released := by
          intro item below stopped temporary parentless
          by_cases own : system.creator item = run
          · have running : system.creator item ∈ system.running := by
              rw [← split, own]
              exact mem_append_right _ (mem_singleton_self _)
            obtain ⟨known, neverPlaced⟩ := kept.running item below running temporary
            constructor
            · exact handed.mpr ((known parentless).imp_right fun env => ⟨parentless, env⟩)
            · intro unplaced
              exact freedIff.mpr (Or.inr
                ⟨congrArg Cause.release own, parentless, neverPlaced unplaced⟩)
          · have before : system.creator item ∉ system.running := by
              rw [← split]
              intro mem
              rcases mem_append.mp mem with inside | same
              · exact stopped inside
              · exact own (mem_singleton.mp same)
            obtain ⟨freed, byRelease⟩ := kept.lives.released item below before temporary parentless
            exact ⟨handed.mpr (Or.inl freed), fun unplaced =>
              freedIff.mpr (Or.inl (byRelease unplaced))⟩ }
      freed := by
        intro item mem
        rcases handed.mp mem with old | ⟨parentless, env, inside⟩
        · exact kept.freed item old
        · exact ⟨table.items env item inside, parentless⟩
      unplaced := kept.unplaced
      beyond := kept.beyond
      running := by
        intro item below runs temporary
        have other : system.creator item ≠ run := fun same => ended (same ▸ runs)
        obtain ⟨known, neverPlaced⟩ := kept.running item below (dropLast_subset _ runs) temporary
        constructor
        · intro parentless
          rcases known parentless with freed | ⟨env, inside⟩
          · exact Or.inl (handed.mpr (Or.inl freed))
          · exact absurd (finds env item inside parentless).1 other
        · intro unplaced
          obtain ⟨env, inside⟩ := neverPlaced unplaced
          exact absurd (finds env item inside (kept.unplaced item unplaced)).1 other }

/-! ## Temporary items -/

lemma Kept.doCreateItemEx (kept : system.Kept) : system.doCreateItemEx.Kept := by
  rw [Environments.doCreateItemEx]
  cases last : system.running.getLast? with
  | none => exact kept
  | some run =>
    have table := kept.table
    have runs : run ∈ system.running := mem_of_getLast? last
    have unequal {item : Nat} (below : item < system.nextItem) : item ≠ system.nextItem := below.ne
    have listed {env item : Nat}
        (mem :
          item ∈ update system.m_tempItems (system.running.length - 1)
            (system.m_tempItems (system.running.length - 1) ++ [system.nextItem])
            env) :
        item ∈ system.m_tempItems env ∨
          item = system.nextItem ∧ env = system.running.length - 1 := by
      by_cases same : env = system.running.length - 1
      · subst same
        rw [update_self] at mem
        rcases mem_append.mp mem with old | new
        · exact Or.inl old
        · exact Or.inr ⟨mem_singleton.mp new, rfl⟩
      · rw [update_of_ne same] at mem
        exact Or.inl mem
    have stays {env item : Nat} (mem : item ∈ system.m_tempItems env) :
        item ∈ update system.m_tempItems (system.running.length - 1)
          (system.m_tempItems (system.running.length - 1) ++ [system.nextItem])
          env := by
      by_cases same : env = system.running.length - 1
      · subst same
        rw [update_self]
        exact mem_append_left _ mem
      · rw [update_of_ne same]
        exact mem
    have here :
        system.nextItem ∈
          update system.m_tempItems (system.running.length - 1)
            (system.m_tempItems (system.running.length - 1) ++ [system.nextItem])
            (system.running.length - 1) := by
      rw [update_self]
      exact mem_append_right _ (mem_singleton_self _)
    exact {
      table := {
        few := table.few
        runs := table.runs
        known := table.known
        creators := by
          intro item below
          dsimp only [addTempItem] at below ⊢
          rcases Nat.lt_succ_iff_lt_or_eq.mp below with old | rfl
          · rw [update_of_ne (unequal old)]
            exact table.creators item old
          · rw [update_self]
            exact table.known run runs
        own := by
          intro env item mem
          dsimp only [addTempItem] at mem ⊢
          rcases listed mem with old | ⟨rfl, rfl⟩
          · rw [update_of_ne (unequal (table.items env item old))]
            exact table.own env item old
          · rw [update_self, ← List.getLast?_eq_getElem?]
            exact last
        items := by
          intro env item mem
          rcases listed mem with old | ⟨rfl, -⟩
          · exact Nat.lt_succ_of_lt (table.items env item old)
          · exact Nat.lt_succ_self _
        nodup := by
          intro env
          dsimp only [addTempItem]
          by_cases same : env = system.running.length - 1
          · rw [same, update_self]
            refine nodup_append.mpr ⟨table.nodup _, nodup_singleton _, ?_⟩
            rintro item mem _ new rfl
            exact unequal (table.items _ item mem) (mem_singleton.mp new)
          · rw [update_of_ne same]
            exact table.nodup env }
      lives := {
        ownRelease := by
          intro item other mem
          have below := (kept.freed item (mem_map_of_mem mem)).1
          dsimp only [addTempItem] at mem ⊢
          rw [update_of_ne (unequal below)]
          exact kept.lives.ownRelease item other mem
        once := kept.lives.once
        released := by
          intro item below stopped temporary parentless
          dsimp only [addTempItem] at below stopped temporary parentless ⊢
          rcases Nat.lt_succ_iff_lt_or_eq.mp below with old | rfl
          · rw [update_of_ne (unequal old)] at stopped temporary parentless
            rw [update_of_ne (unequal old), update_of_ne (unequal old)]
            exact kept.lives.released item old stopped temporary parentless
          · rw [update_self] at stopped
            exact absurd runs stopped }
      freed := by
        intro item mem
        obtain ⟨below, parentless⟩ := kept.freed item mem
        refine ⟨Nat.lt_succ_of_lt below, ?_⟩
        dsimp only [addTempItem]
        rw [update_of_ne (unequal below)]
        exact parentless
      unplaced := by
        intro item unplaced
        dsimp only [addTempItem] at unplaced ⊢
        by_cases same : item = system.nextItem
        · rw [same, update_self]
        · rw [update_of_ne same] at unplaced ⊢
          exact kept.unplaced item unplaced
      beyond := by
        intro item behind
        dsimp only [addTempItem]
        rw [update_of_ne (Nat.ne_of_gt behind)]
        exact kept.beyond item (Nat.le_of_succ_le behind)
      running := by
        intro item below runs temporary
        dsimp only [addTempItem] at below runs temporary ⊢
        rcases Nat.lt_succ_iff_lt_or_eq.mp below with old | rfl
        · rw [update_of_ne (unequal old)] at runs temporary
          rw [update_of_ne (unequal old), update_of_ne (unequal old)]
          obtain ⟨known, neverPlaced⟩ := kept.running item old runs temporary
          exact ⟨fun parentless => (known parentless).imp_right fun ⟨env, inside⟩ =>
            ⟨env, stays inside⟩, fun unplaced => (neverPlaced unplaced).imp
              fun _ inside => stays inside⟩
        · exact ⟨fun _ => Or.inr ⟨_, here⟩, fun _ => ⟨_, here⟩⟩ }

lemma Kept.removeTempItemOf (env item : Nat) (kept : system.Kept) :
  (system.removeTempItemOf env item).Kept := by
  rw [Environments.removeTempItemOf]
  split_ifs with mem
  · have table := kept.table
    have erased {other listed : Nat}
        (inside :
          listed ∈ update system.m_tempItems env ((system.m_tempItems env).erase item) other) :
        listed ∈ system.m_tempItems other := by
      by_cases same : other = env
      · subst same
        rw [update_self] at inside
        exact mem_of_mem_erase inside
      · rw [update_of_ne same] at inside
        exact inside
    have stays {other listed : Nat}
        (ne : listed ≠ item)
        (inside : listed ∈ system.m_tempItems other) :
        listed ∈ update system.m_tempItems env ((system.m_tempItems env).erase item) other := by
      by_cases same : other = env
      · subst same
        rw [update_self]
        exact (mem_erase_of_ne ne).mpr inside
      · rw [update_of_ne same]
        exact inside
    have isTemporary {listed : Nat}
        (temporary : update system.temporary item false listed = true) :
        listed ≠ item ∧ system.temporary listed = true := by
      by_cases same : listed = item
      · rw [same, update_self] at temporary
        cases temporary
      · rw [update_of_ne same] at temporary
        exact ⟨same, temporary⟩
    exact {
      table := {
        few := table.few
        runs := table.runs
        known := table.known
        creators := table.creators
        own := fun other listed inside => table.own other listed (erased inside)
        items := fun other listed inside => table.items other listed (erased inside)
        nodup := by
          intro other
          dsimp only
          by_cases same : other = env
          · rw [same, update_self]
            exact (table.nodup env).erase item
          · rw [update_of_ne same]
            exact table.nodup other }
      lives := {
        ownRelease := kept.lives.ownRelease
        once := kept.lives.once
        released := fun listed below stopped temporary =>
          kept.lives.released listed below stopped (isTemporary temporary).2 }
      freed := kept.freed
      unplaced := kept.unplaced
      beyond := kept.beyond
      running := by
        intro listed below runs temporary
        obtain ⟨ne, before⟩ := isTemporary temporary
        obtain ⟨known, neverPlaced⟩ := kept.running listed below runs before
        exact ⟨fun parentless => (known parentless).imp_right fun ⟨other, inside⟩ =>
          ⟨other, stays ne inside⟩, fun unplaced => (neverPlaced unplaced).imp
            fun _ inside => stays ne inside⟩ }
  · exact kept

lemma Kept.removeTempItem
  (item : Nat) (kept : system.Kept) : (system.removeTempItem item).Kept := by
  rw [Environments.removeTempItem]
  cases system.environmentOf item with
  | none => exact kept
  | some env => exact kept.removeTempItemOf env item

/-! ## The game -/

lemma Kept.handOver (kept : system.Kept) (below : item < system.nextItem)
  (first : item ∉ system.freed.map Prod.fst) :
  (({ system with parent := update system.parent item none } :
    Environments).freeThing item).Kept := by
  have table := kept.table
  have handed {other : Nat} :
      other ∈ (system.freed ++ [(item, Cause.game)]).map Prod.fst ↔
        other ∈ system.freed.map Prod.fst ∨ other = item := by
    rw [map_append, mem_append]
    exact Iff.or Iff.rfl mem_singleton
  have parentless {other : Nat}
      (without : update system.parent item none other = none) :
      other = item ∨ system.parent other = none := by
    by_cases same : other = item
    · exact Or.inl same
    · rw [update_of_ne same] at without
      exact Or.inr without
  have stays {other : Nat} (without : system.parent other = none) :
      update system.parent item none other = none := by
    by_cases same : other = item
    · rw [same, update_self]
    · rw [update_of_ne same]
      exact without
  exact {
    table := ⟨table.few, table.runs, table.known, table.creators, table.own,
      table.items, table.nodup⟩
    lives := {
      ownRelease := by
        intro other run mem
        rcases mem_append.mp mem with old | new
        · exact kept.lives.ownRelease other run old
        · cases mem_singleton.mp new
      once := by
        show ((system.freed ++ [(item, Cause.game)]).map Prod.fst).Nodup
        rw [map_append]
        refine nodup_append.mpr ⟨kept.lives.once, nodup_singleton _, ?_⟩
        rintro other mem _ new rfl
        obtain rfl : other = item := mem_singleton.mp new
        exact first mem
      released := by
        intro other inside stopped temporary without
        constructor
        · rcases parentless without with same | before
          · exact handed.mpr (Or.inr same)
          · exact handed.mpr (Or.inl (kept.lives.released other inside stopped temporary before).1)
        · intro unplaced
          exact mem_append_left _
            ((kept.lives.released other inside stopped temporary
              (kept.unplaced other unplaced)).2 unplaced) }
    freed := by
      intro other mem
      rcases handed.mp mem with old | rfl
      · obtain ⟨inside, before⟩ := kept.freed other old
        exact ⟨inside, stays before⟩
      · exact ⟨below, update_self ..⟩
    unplaced := fun other unplaced => stays (kept.unplaced other unplaced)
    beyond := fun other behind => stays (kept.beyond other behind)
    running := by
      intro other inside runs temporary
      obtain ⟨known, neverPlaced⟩ := kept.running other inside runs temporary
      refine ⟨fun without => ?_, neverPlaced⟩
      rcases parentless without with same | before
      · exact Or.inl (handed.mpr (Or.inr same))
      · exact (known before).imp_left fun old => handed.mpr (Or.inl old) }

lemma Kept.place (cylinder : Nat) (kept : system.Kept) (below : item < system.nextItem)
  (first : item ∉ system.freed.map Prod.fst) :
  (system.internalAddItem item (.into cylinder)).Kept := by
  have table := kept.table
  have parentless {other : Nat}
      (without : update system.parent item (some cylinder) other = none) :
      other ≠ item ∧ system.parent other = none := by
    by_cases same : other = item
    · rw [same, update_self] at without
      cases without
    · rw [update_of_ne same] at without
      exact ⟨same, without⟩
  have never {other : Nat}
      (unplaced : update system.placed item true other = false) :
      other ≠ item ∧ system.placed other = false := by
    by_cases same : other = item
    · rw [same, update_self] at unplaced
      cases unplaced
    · rw [update_of_ne same] at unplaced
      exact ⟨same, unplaced⟩
  have stays {other : Nat}
      (ne : other ≠ item) (without : system.parent other = none) :
      update system.parent item (some cylinder) other = none := by
    rw [update_of_ne ne]
    exact without
  exact {
    table := ⟨table.few, table.runs, table.known, table.creators, table.own,
      table.items, table.nodup⟩
    lives := {
      ownRelease := kept.lives.ownRelease
      once := kept.lives.once
      released := fun other inside stopped temporary without =>
        have ⟨handed, byRelease⟩ :=
          kept.lives.released other inside stopped temporary (parentless without).2
        ⟨handed, fun unplaced => byRelease (never unplaced).2⟩ }
    freed := by
      intro other mem
      obtain ⟨inside, before⟩ := kept.freed other mem
      refine ⟨inside, stays ?_ before⟩
      rintro rfl
      exact first mem
    unplaced := fun other unplaced =>
      stays (never unplaced).1 (kept.unplaced other (never unplaced).2)
    beyond := by
      intro other behind
      refine stays ?_ (kept.beyond other behind)
      rintro rfl
      exact absurd below (Nat.not_lt.mpr behind)
    running := fun other inside runs temporary =>
      have ⟨known, neverPlaced⟩ := kept.running other inside runs temporary
      ⟨fun without => known (parentless without).2, fun unplaced =>
        neverPlaced (never unplaced).2⟩ }

lemma Kept.inCylinder (kept : system.Kept) (inside : system.parent item ≠ none) :
  item < system.nextItem ∧ item ∉ system.freed.map Prod.fst ∧ system.placed item = true := by
  refine ⟨?_, fun mem => inside (kept.freed item mem).2, ?_⟩
  · by_contra behind
    exact inside (kept.beyond item (Nat.not_lt.mp behind))
  · by_contra unplaced
    exact inside (kept.unplaced item (by simpa using unplaced))

lemma Kept.internalAddItem {adding : Adding} (kept : system.Kept) (canAdd : system.CanAdd item)
  (first : adding ≠ .refused → item ∉ system.freed.map Prod.fst) :
  (system.internalAddItem item adding).Kept := by
  obtain ⟨below, -, parentless⟩ := canAdd
  cases adding with
  | into cylinder => exact kept.place cylinder below (first (by simp))
  | merged =>
    have handed := kept.handOver below (first (by simp))
    rw [← parentless, update_eq_self] at handed
    exact handed
  | refused => exact kept

lemma Kept.internalMoveItem (item cylinder : Nat) (kept : system.Kept) :
  (system.internalMoveItem item cylinder).Kept := by
  rw [Environments.internalMoveItem]
  split_ifs with parentless
  · exact kept
  · obtain ⟨below, first, placed⟩ := kept.inCylinder parentless
    have moved := kept.place cylinder below first
    rw [Environments.internalAddItem, ← placed, update_eq_self] at moved
    exact moved

lemma Kept.internalRemoveItem
  (item : Nat) (kept : system.Kept) : (system.internalRemoveItem item).Kept := by
  rw [Environments.internalRemoveItem]
  split_ifs with parentless
  · exact kept
  · obtain ⟨below, first, -⟩ := kept.inCylinder parentless
    exact kept.handOver below first

lemma step_kept
  {operation : Operation} (kept : system.Kept)
  (sparing : system.Sparing operation) : (system.step operation).Kept := by
  cases operation with
  | reserveScriptEnv => exact kept.reserveScriptEnv
  | releaseScriptEnv => exact kept.releaseScriptEnv sparing
  | doCreateItemEx => exact kept.doCreateItemEx
  | removeTempItem item => exact kept.removeTempItem item
  | removeTempItemOf env item => exact kept.removeTempItemOf env item
  | internalAddItem item adding =>
    rw [step]
    split_ifs with canAdd
    · exact kept.internalAddItem canAdd (sparing canAdd)
    · exact kept
  | internalMoveItem item cylinder => exact kept.internalMoveItem item cylinder
  | internalRemoveItem item => exact kept.internalRemoveItem item

lemma initial_kept : initial.Kept where
  table := {
    few := by decide
    runs := nodup_nil
    known := by simp [initial]
    creators := by simp [initial]
    own := by simp [initial]
    items := by simp [initial]
    nodup := fun _ => nodup_nil }
  lives := {
    ownRelease := by simp [initial]
    once := nodup_nil
    released := by simp [initial] }
  freed := by simp [initial]
  unplaced _ _ := rfl
  beyond _ _ := rfl
  running := by simp [initial]

/-- Temporary items live as long as their script in a run of sparing operations. -/
theorem liveAsTheirScript_of_sparing {system : Environments}
  (run :
    Reaches (fun system operation next => next = Environments.step system operation)
      Sparing initial system) : system.LiveAsTheirScript := by
  have preserved :
      ∀ system operation next, Kept system → system.Sparing operation →
        next = system.step operation → next.Kept := by
    rintro system operation _ kept sparing rfl
    exact step_kept kept sparing
  exact (run.invariant initial_kept preserved).lives

def created : Environments :=
  (initial.step .reserveScriptEnv).step .doCreateItemEx

lemma created_sparing : created.Sparing .releaseScriptEnv := by
  intro run last item _ _
  obtain rfl : 0 = run := by
    have first : created.running.getLast? = some 0 := by decide
    exact Option.some.inj (first.symm.trans last)
  refine ⟨?_, not_mem_nil⟩
  by_cases same : item = 0
  · rw [same]
    decide
  · exact update_of_ne same ..

/-- The item is handed over as its script ends. -/
theorem liveAsTheirScript_one_script :
  (created.step .releaseScriptEnv).freed = [(0, .release 0)] ∧
    (created.step .releaseScriptEnv).LiveAsTheirScript := by
  have reserves : initial.Sparing .reserveScriptEnv := trivial
  have creates : (initial.step .reserveScriptEnv).Sparing .doCreateItemEx := trivial
  have run :
      Reaches (fun system operation next => next = Environments.step system operation)
        Sparing initial created :=
    (Reaches.refl.tail reserves rfl).tail creates rfl
  refine ⟨by decide, ?_⟩
  exact liveAsTheirScript_of_sparing (run.tail created_sparing rfl)

/-- An event which the script triggers runs and ends while the script goes on. -/
def nested : Environments :=
  (created.step .reserveScriptEnv).step .releaseScriptEnv

/-- The release of the inner script hands over the item of the outer one. -/
theorem nested_release_frees :
  ¬ ∀ system,
    Reaches (fun system operation next => next = Environments.step system operation)
      Always initial system → system.LiveAsTheirScript := by
  intro always
  have one : Always initial Operation.reserveScriptEnv := trivial
  have two : Always (initial.step .reserveScriptEnv) Operation.doCreateItemEx := trivial
  have three : Always created Operation.reserveScriptEnv := trivial
  have four : Always (created.step .reserveScriptEnv) Operation.releaseScriptEnv := trivial
  have run :
      Reaches (fun system operation next => next = Environments.step system operation)
        Always initial created :=
    (Reaches.refl.tail one rfl).tail two rfl
  have reserved :
      Reaches (fun system operation next => next = Environments.step system operation)
        Always initial nested :=
    (run.tail three rfl).tail four rfl
  have handed : (0, Cause.release 1) ∈ nested.freed := by decide
  have own := (always _ reserved).ownRelease 0 1 handed
  exact absurd own (by decide)

end Environments

end OTServ.Scripts
