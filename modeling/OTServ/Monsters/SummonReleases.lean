import OTServ.Monsters.Summons
import Mathlib.Data.Finset.Card
import Mathlib.Order.Nat

/-!
# Releases of summons

In the middle of a loop over summons the list in memory still has those which have
been let go.  So the invariant takes the lists as a parameter, and between
operations it is stated for the lists in memory.

Masters are only taken away by a release, however far it goes, and every destruction
leaves one creature less to be destroyed.
-/

namespace OTServ.Monsters.Summons

open List Function Option

variable {c fuel : Nat} {change each : Creature → Creature} {last : Game} {rest : List Nat}
  {release : Game → Nat → Game}

namespace Game

/-! ## The invariant -/

def getMaster (game : Game) (c : Nat) : Option Nat :=
  (game.creatures c).master

def fromMaster (master : Option Nat) : Int :=
  if master.isSome then 1 else 0

def summonsOf (game : Game) (m : Nat) : List Nat :=
  (game.creatures m).summons

/-- The references that are not anybody's to release, with those still to be freed. -/
def owed (pending : List Nat) (game : Game) (c : Nat) : Nat :=
  pending.count c +
    (if (game.creatures c).onMap then 1 else 0) +
    if (game.creatures c).spawned then 1 else 0

/-- The invariant for given lists of summons, and for references still to be freed. -/
structure Kept (listed : Nat → List Nat) (pending : List Nat) (game : Game) : Prop where
  related : ∀ c m, game.getMaster c = some m ↔ c ∈ listed m
  nodup : ∀ m, (listed m).Nodup
  inside : ∀ c m, game.getMaster c = some m → c < game.next ∧ m < game.next
  counted :
    ∀ c, (game.creatures c).deleted = false →
      (game.creatures c).useCount = (game.creatures c).holds + fromMaster (game.getMaster c)
  gone :
    ∀ c, (game.creatures c).deleted = true → game.getMaster c = none ∧ (game.creatures c).holds = 0
  owed : ∀ c, owed pending game c ≤ (game.creatures c).holds
  /-- a creature that may be destroyed is not in the middle of a loop -/
  settled :
    ∀ m, (game.creatures m).deleted = false → (game.creatures m).holds = 0 →
      listed m = game.summonsOf m
  fresh : ∀ c, game.next ≤ c → listed c = []
  unheld : ∀ c, game.next ≤ c → (game.creatures c).holds = 0

section Changes

variable {game next : Game} {listed : Nat → List Nat} {pending : List Nat}

@[simp]
lemma modify_self (c : Nat) (change : Creature → Creature) :
  (game.modify c change).creatures c = change (game.creatures c) :=
  update_self ..

lemma modify_other {other : Nat} (change : Creature → Creature) (ne : other ≠ c) :
  (game.modify c change).creatures other = game.creatures other :=
  update_of_ne ne ..

lemma modify_field {Value : Type} (field : Creature → Value)
  (same : field (change (game.creatures c)) = field (game.creatures c)) (other : Nat) :
  field ((game.modify c change).creatures other) = field (game.creatures other) := by
  by_cases itself : other = c
  · subst itself
    rw [modify_self, same]
  · rw [modify_other change itself]

lemma Kept.listed_exists (kept : Kept listed pending game) {m : Nat} (mem : c ∈ listed m) :
  game.exist c := by
  have master := (kept.related c m).mpr mem
  refine ⟨(kept.inside c m master).1, ?_⟩
  by_contra deleted
  rw [(kept.gone c (by simpa using deleted)).1] at master
  cases master

lemma Kept.held (kept : Kept listed pending game) (onMap : (game.creatures c).onMap = true) :
  1 ≤ (game.creatures c).holds := by
  have owed := kept.owed c
  unfold Game.owed at owed
  rw [if_pos onMap] at owed
  omega

/-! ## What a release leaves alone -/

structure Frame (game next : Game) : Prop where
  created : next.next = game.next
  toRelease : next.ToReleaseThings = game.ToReleaseThings
  exhausted : next.exhausted = game.exhausted
  master : ∀ c m, next.getMaster c = some m → game.getMaster c = some m
  removed : ∀ c, (next.creatures c).isInternalRemoved = (game.creatures c).isInternalRemoved
  placed : ∀ c, (next.creatures c).placed = (game.creatures c).placed
  kind : ∀ c, (next.creatures c).kind = (game.creatures c).kind

lemma Frame.trans (first : Frame game next) (second : Frame next last) : Frame game last where
  created := second.created.trans first.created
  toRelease := second.toRelease.trans first.toRelease
  exhausted := second.exhausted.trans first.exhausted
  master c m same := first.master c m (second.master c m same)
  removed c := (second.removed c).trans (first.removed c)
  placed c := (second.placed c).trans (first.placed c)
  kind c := (second.kind c).trans (first.kind c)

lemma Frame.onMap (frame : Frame game next) (c : Nat) :
  (next.creatures c).onMap = (game.creatures c).onMap := by
  unfold Creature.onMap
  rw [frame.placed, frame.removed]

/-- Masters have been taken away and creatures destroyed, and nothing else. -/
structure Shrinks (game next : Game) : Prop extends Frame game next where
  spawned : ∀ c, (next.creatures c).spawned = (game.creatures c).spawned
  holds : ∀ c, (next.creatures c).holds = (game.creatures c).holds
  fate :
    ∀ c,
      (next.creatures c).deleted = (game.creatures c).deleted ∧
          next.summonsOf c = game.summonsOf c ∨
        (game.creatures c).deleted = false ∧ (next.creatures c).deleted = true ∧
          next.summonsOf c = [] ∧ (game.creatures c).holds = 0

lemma Shrinks.refl (game : Game) : Shrinks game game where
  created := rfl
  toRelease := rfl
  exhausted := rfl
  master _ _ same := same
  removed _ := rfl
  placed _ := rfl
  spawned _ := rfl
  holds _ := rfl
  kind _ := rfl
  fate _ := .inl ⟨rfl, rfl⟩

lemma Shrinks.trans
  (first : Shrinks game next) (second : Shrinks next last) : Shrinks game last where
  toFrame := first.toFrame.trans second.toFrame
  spawned c := (second.spawned c).trans (first.spawned c)
  holds c := (second.holds c).trans (first.holds c)
  fate := by
    intro c
    rcases first.fate c with ⟨alive, same⟩ | ⟨alive, dead, empty, unheld⟩
    · rcases second.fate c with ⟨again, sameAgain⟩ | ⟨before, dead, empty, unheld⟩
      · exact .inl ⟨again.trans alive, sameAgain.trans same⟩
      · rw [first.holds] at unheld
        exact .inr ⟨alive ▸ before, dead, empty, unheld⟩
    · rcases second.fate c with ⟨again, sameAgain⟩ | ⟨before, -⟩
      · exact .inr ⟨alive, again.trans dead, sameAgain.trans empty, unheld⟩
      · rw [dead] at before
        cases before

lemma Shrinks.spared (shrinks : Shrinks game next)
  (safe : (game.creatures c).deleted = true ∨ 1 ≤ (game.creatures c).holds) :
  (next.creatures c).deleted = (game.creatures c).deleted ∧
    next.summonsOf c = game.summonsOf c := by
  refine (shrinks.fate c).resolve_right ?_
  rintro ⟨alive, -, -, unheld⟩
  rcases safe with deleted | held
  · rw [alive] at deleted
    cases deleted
  · omega

/-- The lists without those of the creatures that have been destroyed. -/
def trim (game next : Game) (listed : Nat → List Nat) (m : Nat) : List Nat :=
  if (next.creatures m).deleted = (game.creatures m).deleted then listed m else []

lemma trim_same (same : ∀ m, (next.creatures m).deleted = (game.creatures m).deleted) :
  trim game next listed = listed := by
  funext m
  exact if_pos (same m)

lemma Shrinks.trim_trans
  (first : Shrinks game next) (second : Shrinks next last) (listed : Nat → List Nat) :
  trim next last (trim game next listed) = trim game last listed := by
  funext m
  unfold trim
  rcases first.fate m with ⟨alive, -⟩ | ⟨alive, dead, -⟩
  · rw [if_pos alive, alive]
  · have both : (last.creatures m).deleted = true := by
      rcases second.fate m with ⟨again, -⟩ | ⟨before, -⟩
      · exact again.trans dead
      · rw [dead] at before
        cases before
    rw [if_pos (both.trans dead.symm), if_neg (by rw [alive, dead]; simp),
      if_neg (by rw [alive, both]; simp)]

lemma Shrinks.trim_summonsOf (shrinks : Shrinks game next) :
  trim game next game.summonsOf = next.summonsOf := by
  funext m
  unfold trim
  rcases shrinks.fate m with ⟨alive, same⟩ | ⟨alive, dead, empty, -⟩
  · rw [if_pos alive, same]
  · rw [if_neg (by rw [alive, dead]; simp), empty]

def alive (game : Game) : Nat :=
  ((Finset.range game.next).filter fun c => (game.creatures c).deleted = false).card

lemma alive_le (game : Game) : game.alive ≤ game.next :=
  (Finset.card_filter_le _ _).trans_eq (Finset.card_range _)

lemma Shrinks.alive_le (shrinks : Shrinks game next) : next.alive ≤ game.alive := by
  refine Finset.card_le_card ?_
  intro c mem
  rw [Finset.mem_filter, Finset.mem_range] at mem ⊢
  rw [shrinks.created] at mem
  refine ⟨mem.1, ?_⟩
  rcases shrinks.fate c with ⟨same, -⟩ | ⟨alive, -⟩
  · exact same ▸ mem.2
  · exact alive

/-! ## Releases -/

/-- A change of one creature that takes no master away keeps all that is shrunk. -/
lemma modify_shrinks
  (master :
    (change (game.creatures c)).master = (game.creatures c).master ∨
      (change (game.creatures c)).master = none)
  (removed :
    (change (game.creatures c)).isInternalRemoved = (game.creatures c).isInternalRemoved)
  (placed : (change (game.creatures c)).placed = (game.creatures c).placed)
  (spawned : (change (game.creatures c)).spawned = (game.creatures c).spawned)
  (holds : (change (game.creatures c)).holds = (game.creatures c).holds)
  (kind : (change (game.creatures c)).kind = (game.creatures c).kind)
  (deleted : (change (game.creatures c)).deleted = (game.creatures c).deleted)
  (summons : (change (game.creatures c)).summons = (game.creatures c).summons) :
  Shrinks game (game.modify c change) where
  created := rfl
  toRelease := rfl
  exhausted := rfl
  master := by
    intro other m same
    unfold getMaster at same ⊢
    by_cases itself : other = c
    · subst itself
      rw [modify_self] at same
      rcases master with kept | gone
      · rw [← kept, same]
      · rw [gone] at same
        cases same
    · rwa [modify_other change itself] at same
  removed := modify_field Creature.isInternalRemoved removed
  placed := modify_field Creature.placed placed
  spawned := modify_field Creature.spawned spawned
  holds := modify_field Creature.holds holds
  kind := modify_field Creature.kind kind
  fate other :=
    .inl ⟨modify_field Creature.deleted deleted other, modify_field Creature.summons summons other⟩

lemma modify_frame (master : (change (game.creatures c)).master = (game.creatures c).master)
  (removed :
    (change (game.creatures c)).isInternalRemoved = (game.creatures c).isInternalRemoved)
  (placed : (change (game.creatures c)).placed = (game.creatures c).placed)
  (kind : (change (game.creatures c)).kind = (game.creatures c).kind) :
  Frame game (game.modify c change) where
  created := rfl
  toRelease := rfl
  exhausted := rfl
  master other m same := by
    rw [← same]
    exact (modify_field Creature.master master other).symm
  removed := modify_field Creature.isInternalRemoved removed
  placed := modify_field Creature.placed placed
  kind := modify_field Creature.kind kind

lemma countDown_shrinks (game : Game) (c : Nat) : Shrinks game (game.countDown c) :=
  modify_shrinks (.inl rfl) rfl rfl rfl rfl rfl rfl rfl

/-- What is asked of a release: the invariant holds once the counter is down. -/
def Releases (release : Game → Nat → Game) (fuel : Nat) : Prop :=
  ∀ (game : Game) (listed : Nat → List Nat) (pending : List Nat) (c : Nat),
    Kept listed pending (game.countDown c) → game.exist c → game.alive ≤ fuel →
      Kept (trim game (release game c) listed) pending (release game c) ∧
        Shrinks game (release game c)

def Harmless (each : Creature → Creature) : Prop :=
  ∀ creature, ∃ health lootDrop skillLoss,
    each creature =
      { creature with
        health := health
        lootDrop := lootDrop
        skillLoss := skillLoss }

lemma Kept.loseMaster
  (kept : Kept listed pending game) {summon : Nat} (list : listed c = summon :: rest)
  (safe : (game.creatures c).deleted = true ∨ 1 ≤ (game.creatures c).holds)
  (harmless : Harmless each) :
  Kept (update listed c rest) pending
    ((game.modify summon fun creature =>
      { each creature with master := none }).countDown summon) := by
  have mem : summon ∈ listed c := by
    rw [list]
    exact mem_cons_self
  have master := (kept.related summon c).mpr mem
  have distinct := kept.nodup c
  rw [list, nodup_cons] at distinct
  obtain ⟨inside, existing⟩ := kept.listed_exists mem
  obtain ⟨health, lootDrop, skillLoss, each_eq⟩ := harmless (game.creatures summon)
  have self :
      ((game.modify summon fun creature =>
        { each creature with master := none }).countDown summon).creatures summon =
        { game.creatures summon with
          health := health
          lootDrop := lootDrop
          skillLoss := skillLoss
          master := none
          useCount := (game.creatures summon).useCount - 1 } := by
    unfold countDown
    rw [modify_self, modify_self, each_eq]
  have other :
      ∀ {one}, one ≠ summon →
        ((game.modify summon fun creature =>
          { each creature with master := none }).countDown summon).creatures one =
          game.creatures one := by
    intro one ne
    unfold countDown
    rw [modify_other _ ne, modify_other _ ne]
  have unlisted : ∀ m, summon ∉ update listed c rest m := by
    intro m again
    by_cases itself : m = c
    · subst itself
      rw [update_self] at again
      exact distinct.1 again
    · rw [update_of_ne itself] at again
      have second := (kept.related summon m).mpr again
      rw [master] at second
      exact itself (some.inj second).symm
  have remains : ∀ {one m}, one ≠ summon → (one ∈ update listed c rest m ↔ one ∈ listed m) := by
    intro one m ne
    by_cases itself : m = c
    · subst itself
      rw [update_self, list, mem_cons]
      exact ⟨.inr, fun found => found.resolve_left ne⟩
    · rw [update_of_ne itself]
  exact
    { related := by
        intro one m
        unfold getMaster
        by_cases itself : one = summon
        · subst itself
          rw [self]
          exact ⟨fun impossible => (nomatch impossible), fun again => (unlisted m again).elim⟩
        · rw [other itself, remains itself]
          exact kept.related one m
      nodup := by
        intro m
        by_cases itself : m = c
        · subst itself
          rw [update_self]
          exact distinct.2
        · rw [update_of_ne itself]
          exact kept.nodup m
      inside := by
        intro one m found
        unfold getMaster at found
        by_cases itself : one = summon
        · subst itself
          rw [self] at found
          cases found
        · rw [other itself] at found
          exact kept.inside one m found
      counted := by
        intro one living
        unfold getMaster
        by_cases itself : one = summon
        · subst itself
          have before := kept.counted one existing
          rw [master] at before
          rw [self]
          simp only [fromMaster, isSome_some, isSome_none, if_true,
            Bool.false_eq_true, if_false] at before ⊢
          omega
        · rw [other itself] at living ⊢
          exact kept.counted one living
      gone := by
        intro one dead
        unfold getMaster
        by_cases itself : one = summon
        · subst itself
          rw [self] at dead
          rw [existing] at dead
          cases dead
        · rw [other itself] at dead ⊢
          exact kept.gone one dead
      owed := by
        intro one
        unfold Game.owed
        by_cases itself : one = summon
        · subst itself
          rw [self]
          exact kept.owed one
        · rw [other itself]
          exact kept.owed one
      settled := by
        intro m living unheld
        have same :
            ((game.modify summon fun creature =>
              { each creature with master := none }).countDown summon).summonsOf m =
              game.summonsOf m ∧ (game.creatures m).deleted = false ∧
                (game.creatures m).holds = 0 := by
          unfold summonsOf
          by_cases itself : m = summon
          · subst itself
            rw [self] at living unheld ⊢
            exact ⟨rfl, living, unheld⟩
          · rw [other itself] at living unheld ⊢
            exact ⟨rfl, living, unheld⟩
        rw [same.1, update_of_ne]
        · exact kept.settled m same.2.1 same.2.2
        · rintro rfl
          rcases safe with deleted | held
          · rw [same.2.1] at deleted
            cases deleted
          · omega
      fresh := by
        intro m far
        have before := kept.fresh m far
        rw [update_of_ne]
        · exact before
        · rintro rfl
          rw [list] at before
          cases before
      unheld := by
        intro one far
        have before := kept.unheld one far
        by_cases itself : one = summon
        · subst itself
          rw [self]
          exact before
        · rw [other itself]
          exact before }

lemma Kept.letGo (releases : Releases release fuel) (harmless : Harmless each)
    (kept : Kept listed pending game) {summon : Nat} (list : listed c = summon :: rest)
    (safe : (game.creatures c).deleted = true ∨ 1 ≤ (game.creatures c).holds)
    (enough : game.alive ≤ fuel) :
    let last :=
      release (game.modify summon fun creature => { each creature with master := none }) summon
    Kept (trim game last (update listed c rest)) pending last ∧ Shrinks game last := by
  intro last
  obtain ⟨health, lootDrop, skillLoss, each_eq⟩ := harmless (game.creatures summon)
  have changed :
      Shrinks game (game.modify summon fun creature => { each creature with master := none }) := by
    refine modify_shrinks (.inr rfl) ?_ ?_ ?_ ?_ ?_ ?_ ?_ <;> rw [each_eq]
  have existing : game.exist summon := by
    refine kept.listed_exists (m := c) ?_
    rw [list]
    exact mem_cons_self
  have existsStill :
      (game.modify summon fun creature => { each creature with master := none }).exist summon := by
    refine ⟨existing.1, ?_⟩
    rw [modify_self, each_eq]
    exact existing.2
  obtain ⟨after, shrinks⟩ :=
    releases _ _ pending summon (kept.loseMaster list safe harmless) existsStill
      (changed.alive_le.trans enough)
  have lists := changed.trim_trans shrinks (update listed c rest)
  rw [trim_same (modify_field Creature.deleted (by rw [each_eq]))] at lists
  refine ⟨?_, changed.trans shrinks⟩
  rw [← lists]
  exact after

lemma Kept.reorder (kept : Kept listed pending game) {m : Nat} {list : List Nat}
  (permuted : list.Perm (listed m)) (held : 1 ≤ (game.creatures m).holds) :
  Kept (update listed m list) pending game :=
  { kept with
    related := by
      intro c owner
      rw [kept.related c owner]
      by_cases itself : owner = m
      · subst itself
        rw [update_self, permuted.mem_iff]
      · rw [update_of_ne itself]
    nodup := by
      intro owner
      by_cases itself : owner = m
      · subst itself
        rw [update_self, permuted.nodup_iff]
        exact kept.nodup owner
      · rw [update_of_ne itself]
        exact kept.nodup owner
    settled := by
      intro owner living unheld
      rw [update_of_ne]
      · exact kept.settled owner living unheld
      · rintro rfl
        omega
    fresh := by
      intro owner far
      rw [update_of_ne]
      · exact kept.fresh owner far
      · rintro rfl
        have unheld := kept.unheld owner far
        omega }

lemma Kept.loop (releases : Releases release fuel) (harmless : Harmless each)
    (kept : Kept listed pending game) (list : listed c = rest)
    (safe : (game.creatures c).deleted = true ∨ 1 ≤ (game.creatures c).holds)
    (enough : game.alive ≤ fuel) :
    let last :=
      rest.foldl
        (fun game summon =>
          release
            (game.modify summon fun creature => { each creature with master := none })
            summon)
        game
    Kept (update (trim game last listed) c []) pending last ∧ Shrinks game last := by
  induction rest generalizing game listed with
  | nil =>
    refine ⟨?_, Shrinks.refl game⟩
    rw [foldl_nil, trim_same (fun _ => rfl), ← list, update_eq_self]
    exact kept
  | cons summon rest ih =>
    intro last
    obtain ⟨after, shrinks⟩ := kept.letGo releases harmless list safe enough
    have spared := shrinks.spared safe
    have safeStill :
        ((release
          (game.modify summon fun creature => { each creature with master := none })
            summon).creatures c).deleted = true ∨
          1 ≤ ((release
            (game.modify summon fun creature => { each creature with master := none })
              summon).creatures c).holds := by
      rw [spared.1, shrinks.holds]
      exact safe
    have left :
        trim game
          (release
            (game.modify summon fun creature => { each creature with master := none })
            summon) (update listed c rest) c = rest := by
      unfold trim
      rw [if_pos spared.1, update_self]
    obtain ⟨final, shrinksOn⟩ := ih after left safeStill (shrinks.alive_le.trans enough)
    refine ⟨?_, shrinks.trans shrinksOn⟩
    rw [shrinks.trim_trans shrinksOn] at final
    have lists :
        update (trim game last (update listed c rest)) c [] =
          update (trim game last listed) c [] := by
      funext m
      by_cases itself : m = c
      · subst itself
        rw [update_self, update_self]
      · unfold trim
        rw [update_of_ne itself, update_of_ne itself, update_of_ne itself]
    rw [← lists]
    exact final

/-- Counters, masters and lists are the same in all creatures. -/
lemma Kept.same {left : List Nat} (kept : Kept listed pending game)
  (created : next.next = game.next) (master : ∀ c, next.getMaster c = game.getMaster c)
  (useCount : ∀ c, (next.creatures c).useCount = (game.creatures c).useCount)
  (holds : ∀ c, (next.creatures c).holds = (game.creatures c).holds)
  (deleted : ∀ c, (next.creatures c).deleted = (game.creatures c).deleted)
  (owed : ∀ c, Game.owed left next c ≤ (game.creatures c).holds)
  (settled :
    ∀ m, (game.creatures m).deleted = false → listed m = game.summonsOf m →
      listed m = next.summonsOf m) : Kept listed left next where
  related c m := by
    rw [master]
    exact kept.related c m
  nodup := kept.nodup
  inside c m := by
    rw [master, created]
    exact kept.inside c m
  counted c := by
    rw [deleted, useCount, holds, master]
    exact kept.counted c
  gone c := by
    rw [deleted, holds, master]
    exact kept.gone c
  owed c := by
    rw [holds]
    exact owed c
  settled m := by
    rw [deleted, holds]
    intro living unheld
    exact settled m living (kept.settled m living unheld)
  fresh c := by
    rw [created]
    exact kept.fresh c
  unheld c := by
    rw [created, holds]
    exact kept.unheld c

lemma Kept.clear (kept : Kept listed pending game) (empty : listed c = []) :
  Kept listed pending (game.modify c fun creature => { creature with summons := [] }) := by
  refine
    kept.same rfl (modify_field Creature.master rfl) (modify_field Creature.useCount rfl)
      (modify_field Creature.holds rfl) (modify_field Creature.deleted rfl) ?_ ?_
  · intro one
    unfold Game.owed
    rw [modify_field Creature.onMap rfl, modify_field Creature.spawned rfl]
    exact kept.owed one
  · intro m living same
    unfold summonsOf at same ⊢
    by_cases itself : m = c
    · subst itself
      rw [modify_self, empty]
    · rw [modify_other _ itself, same]

lemma Kept.destroy (releases : Releases release fuel) (kept : Kept listed pending game)
  (existing : game.exist c) (free : game.getMaster c = none)
  (unheld : (game.creatures c).holds = 0) (enough : game.alive ≤ fuel + 1) :
  Kept (trim game (destroy release game c) listed) pending (destroy release game c) ∧
    Shrinks game (destroy release game c) := by
  have settled := kept.settled c existing.2 unheld
  let dead := game.modify c fun creature => { creature with deleted := true }
  have self : dead.creatures c = { game.creatures c with deleted := true } := modify_self ..
  have other : ∀ {one}, one ≠ c → dead.creatures one = game.creatures one :=
    fun ne => modify_other _ ne
  have sameMaster : ∀ one, dead.getMaster one = game.getMaster one :=
    modify_field Creature.master rfl
  have sameHolds : ∀ one, (dead.creatures one).holds = (game.creatures one).holds :=
    modify_field Creature.holds rfl
  have keptDead : Kept listed pending dead :=
    { kept with
      related := by
        intro one m
        rw [sameMaster]
        exact kept.related one m
      inside := by
        intro one m
        rw [sameMaster]
        exact kept.inside one m
      counted := by
        intro one living
        by_cases itself : one = c
        · subst itself
          rw [self] at living
          cases living
        · rw [sameMaster]
          rw [other itself] at living ⊢
          exact kept.counted one living
      gone := by
        intro one gone
        by_cases itself : one = c
        · subst itself
          rw [sameMaster, sameHolds]
          exact ⟨free, unheld⟩
        · rw [sameMaster]
          rw [other itself] at gone ⊢
          exact kept.gone one gone
      owed := by
        intro one
        have same : Game.owed pending dead one = Game.owed pending game one := by
          unfold Game.owed
          rw [modify_field Creature.onMap rfl, modify_field Creature.spawned rfl]
        rw [same, sameHolds]
        exact kept.owed one
      settled := by
        intro m living free
        by_cases itself : m = c
        · subst itself
          rw [self] at living
          cases living
        · unfold summonsOf
          rw [other itself] at living free ⊢
          exact kept.settled m living free
      unheld := by
        intro one far
        rw [sameHolds]
        exact kept.unheld one far }
  have fewer : dead.alive < game.alive := by
    refine Finset.card_lt_card ?_
    rw [Finset.ssubset_iff_of_subset]
    · refine ⟨c, ?_, ?_⟩
      · rw [Finset.mem_filter, Finset.mem_range]
        exact existing
      · rw [Finset.mem_filter, self]
        simp
    · intro one mem
      rw [Finset.mem_filter] at mem ⊢
      refine ⟨mem.1, ?_⟩
      by_cases itself : one = c
      · subst itself
        exact existing.2
      · rw [← other itself]
        exact mem.2
  have deadNow : (dead.creatures c).deleted = true := by
    rw [self]
  have sameSummons : ∀ one, dead.summonsOf one = game.summonsOf one :=
    modify_field Creature.summons rfl
  have unchanged : Harmless id := fun creature =>
    ⟨creature.health, creature.lootDrop, creature.skillLoss, rfl⟩
  let last :=
    (dead.summonsOf c).foldl
      (fun game summon =>
        release (game.modify summon fun creature => { id creature with master := none }) summon)
      dead
  have result :
      Game.destroy release game c =
        last.modify c fun creature => { creature with summons := [] } := rfl
  obtain ⟨after, shrinks⟩ :
      Kept (update (trim dead last listed) c []) pending last ∧ Shrinks dead last :=
    keptDead.loop releases unchanged (settled.trans (sameSummons c).symm)
      (.inl deadNow) (Nat.lt_succ_iff.mp (fewer.trans_le enough))
  have cleared := after.clear (c := c) (update_self ..)
  have spared := shrinks.spared (.inl deadNow)
  have deletedAfter : ((Game.destroy release game c).creatures c).deleted = true := by
    rw [result, modify_self]
    exact spared.1.trans deadNow
  have lists :
      update (trim dead last listed) c [] = trim game (Game.destroy release game c) listed := by
    funext m
    unfold trim
    by_cases itself : m = c
    · subst itself
      rw [update_self, deletedAfter, existing.2]
      rfl
    · rw [update_of_ne itself, other itself, result, modify_other _ itself]
  refine ⟨lists ▸ cleared, ?_⟩
  exact
    { shrinks with
      master := by
        intro one m same
        have lastMaster : (Game.destroy release game c).getMaster one = last.getMaster one := by
          rw [result]
          exact modify_field Creature.master rfl one
        rw [lastMaster] at same
        rw [← sameMaster]
        exact shrinks.master one m same
      removed := by
        intro one
        rw [result, modify_field Creature.isInternalRemoved rfl, shrinks.removed]
        exact modify_field Creature.isInternalRemoved rfl one
      placed := by
        intro one
        rw [result, modify_field Creature.placed rfl, shrinks.placed]
        exact modify_field Creature.placed rfl one
      spawned := by
        intro one
        rw [result, modify_field Creature.spawned rfl, shrinks.spawned]
        exact modify_field Creature.spawned rfl one
      holds := by
        intro one
        rw [result, modify_field Creature.holds rfl, shrinks.holds, sameHolds]
      kind := by
        intro one
        rw [result, modify_field Creature.kind rfl, shrinks.kind]
        exact modify_field Creature.kind rfl one
      fate := by
        intro one
        by_cases itself : one = c
        · subst itself
          refine .inr ⟨existing.2, deletedAfter, ?_, unheld⟩
          unfold summonsOf
          rw [result, modify_self]
        · have before := shrinks.fate one
          unfold summonsOf at before ⊢
          rw [other itself] at before
          rw [result, modify_other _ itself]
          exact before }

lemma releaseThing2_releases (fuel : Nat) : Releases (releaseThing2 fuel) fuel := by
  induction fuel with
  | zero =>
    intro game listed pending c kept existing enough
    have empty := Finset.card_eq_zero.mp (Nat.le_zero.mp enough)
    have mem : c ∈ (Finset.range game.next).filter
        fun one => (game.creatures one).deleted = false := by
      rw [Finset.mem_filter, Finset.mem_range]
      exact existing
    rw [empty] at mem
    cases mem
  | succ fuel ih =>
    intro game listed pending c kept existing enough
    have counting := countDown_shrinks game c
    have sameDeleted :
        ∀ m, ((game.countDown c).creatures m).deleted = (game.creatures m).deleted :=
      modify_field Creature.deleted rfl
    have existingStill : (game.countDown c).exist c := by
      refine ⟨existing.1, ?_⟩
      rw [sameDeleted]
      exact existing.2
    unfold releaseThing2
    split_ifs with more
    · rw [trim_same sameDeleted]
      exact ⟨kept, counting⟩
    · have counted := kept.counted c existingStill.2
      have free : (game.countDown c).getMaster c = none := by
        cases master : (game.countDown c).getMaster c with
        | none => rfl
        | some m =>
          rw [master] at counted
          simp only [fromMaster, isSome_some, if_true] at counted
          omega
      have unheld : ((game.countDown c).creatures c).holds = 0 := by
        simp only [fromMaster, isSome_none, Bool.false_eq_true, if_false] at counted
        omega
      obtain ⟨after, shrinks⟩ :=
        kept.destroy ih existingStill free unheld (counting.alive_le.trans enough)
      refine ⟨?_, counting.trans shrinks⟩
      have lists := counting.trim_trans shrinks listed
      rw [trim_same sameDeleted] at lists
      rw [← lists]
      exact after

end Changes

end Game

end OTServ.Monsters.Summons
