import OTServ.Monsters.SummonReleases
import OTServ.Library.Forests
import OTServ.Library.GuardedRuns

/-!
# Runs of masters and summons

A creature is given a master only when it is new, or when it lets go of all its own
summons; so the pointers to masters stay grounded, and every walk over masters ends.

A removed master takes its summons with it.  While they are being removed some of
them still stand on the map, so the statement that nobody there has a removed master
is proved with exceptions, which the recursion uses up.
-/

namespace OTServ.Monsters.Summons

open List Function Option

variable {c m : Nat} {list : List Nat}

namespace Game

open Library.Forests
open Library.GuardedRuns

/-! ## What is promised -/

/-- What is promised of masters and summons between operations. -/
structure Agree (game : Game) : Prop where
  /-- the relation is the same from both ends -/
  related : ∀ c m, game.getMaster c = some m ↔ c ∈ (game.creatures m).summons
  /-- a summon is listed once -/
  once : ∀ m, (game.creatures m).summons.Nodup
  /-- its master holds one reference to it -/
  counted :
    ∀ c, game.exist c →
      (game.creatures c).useCount = (game.creatures c).holds + fromMaster (game.getMaster c)
  /-- masters and summons exist -/
  existing : ∀ c m, game.getMaster c = some m → game.exist c ∧ game.exist m
  /-- on the map nobody has a removed master -/
  attended :
    ∀ c m, (game.creatures c).onMap → game.getMaster c = some m →
      (game.creatures m).isInternalRemoved = false
  /-- the recursions over the masters end -/
  killedEnds : ∀ c, ∃ fuel, (game.onKilledCreature fuel c).isSome
  gainEnds : ∀ c gainExp, ∃ fuel, (game.onGainExperience fuel c gainExp).isSome
  /-- the recursions of destructions and removals have ended -/
  ended : game.exhausted = false

def Attends (game : Game) : Operation → Prop
  | .summon m _ => (game.creatures m).isInternalRemoved = false
  | _ => True

/-! ## The invariant between operations -/

structure Proper (game : Game) : Prop where
  buried : ∀ m, (game.creatures m).deleted = true → game.summonsOf m = []
  grounded : Grounded game.getMaster
  masterPlaced : ∀ c m, game.getMaster c = some m → (game.creatures m).placed = true
  ended : game.exhausted = false

/-- The invariant between operations, with references still to be freed. -/
structure Sound (pending : List Nat) (game : Game) : Prop extends Proper game where
  kept : Kept game.summonsOf pending game

def AttendedBut (exceptions : Nat → Prop) (game : Game) : Prop :=
  ∀ c m, (game.creatures c).onMap = true → game.getMaster c = some m →
    (game.creatures m).isInternalRemoved = true → exceptions c

section Operations

variable {game next : Game} {pending left : List Nat} {exceptions : Nat → Prop}

lemma AttendedBut.frame (attended : AttendedBut exceptions game) (frame : Frame game next) :
  AttendedBut exceptions next := by
  intro c m onMap master removed
  rw [frame.onMap] at onMap
  rw [frame.removed] at removed
  exact attended c m onMap (frame.master c m master) removed

lemma Proper.frame (proper : Proper game) (frame : Frame game next)
  (buried : ∀ m, (next.creatures m).deleted = true → next.summonsOf m = []) : Proper next where
  buried := buried
  grounded := proper.grounded.shrink frame.master
  masterPlaced c m master := by
    rw [frame.placed]
    exact proper.masterPlaced c m (frame.master c m master)
  ended := frame.exhausted.trans proper.ended

lemma Proper.shrink (proper : Proper game) (shrinks : Shrinks game next) : Proper next := by
  refine proper.frame shrinks.toFrame ?_
  intro m deleted
  rcases shrinks.fate m with ⟨same, list⟩ | ⟨-, -, empty, -⟩
  · rw [list]
    exact proper.buried m (same ▸ deleted)
  · exact empty

lemma Sound.exist (sound : Sound pending game) (held : 1 ≤ (game.creatures c).holds) :
  game.exist c := by
  constructor
  · by_contra far
    rw [sound.kept.unheld c (Nat.not_lt.mp far)] at held
    omega
  · by_contra deleted
    rw [(sound.kept.gone c (by simpa using deleted)).2] at held
    omega

lemma Proper.release (proper : Proper game)
  (kept : Kept game.summonsOf pending (game.countDown c)) (existing : game.exist c) :
  Sound pending (game.release c) ∧ Shrinks game (game.release c) := by
  obtain ⟨after, shrinks⟩ :=
    releaseThing2_releases game.next game game.summonsOf pending c kept existing (alive_le game)
  rw [shrinks.trim_summonsOf] at after
  exact ⟨{ proper.shrink shrinks with kept := after }, shrinks⟩

/-- The counters of one creature change alike. -/
lemma Kept.recount (kept : Kept game.summonsOf pending game) (existing : game.exist c)
  (created : next.next = game.next) {useCount : Int} {holds : Nat}
  (self :
    next.creatures c = { game.creatures c with useCount := useCount, holds := holds })
  (alike : useCount + (game.creatures c).holds = (game.creatures c).useCount + holds)
  (other : ∀ {one}, one ≠ c → next.creatures one = game.creatures one)
  (owed : ∀ one, Game.owed left next one ≤ (next.creatures one).holds) :
  Kept game.summonsOf left next := by
  have masters : ∀ one, next.getMaster one = game.getMaster one := by
    intro one
    unfold getMaster
    by_cases itself : one = c
    · rw [itself, self]
    · rw [other itself]
  exact
    { related := by
        intro one m
        rw [masters]
        exact kept.related one m
      nodup := kept.nodup
      inside := by
        intro one m
        rw [masters, created]
        exact kept.inside one m
      counted := by
        intro one living
        rw [masters]
        by_cases itself : one = c
        · subst itself
          have before := kept.counted one existing.2
          rw [self]
          dsimp only
          omega
        · rw [other itself] at living ⊢
          exact kept.counted one living
      gone := by
        intro one dead
        by_cases itself : one = c
        · rw [itself, self] at dead
          exact absurd dead (ne_true_of_eq_false existing.2)
        · rw [other itself] at dead ⊢
          rw [masters]
          exact kept.gone one dead
      owed := owed
      settled := by
        intro m _ _
        unfold summonsOf
        by_cases itself : m = c
        · rw [itself, self]
        · rw [other itself]
      fresh := by
        rw [created]
        exact kept.fresh
      unheld := by
        intro one far
        rw [created] at far
        rw [other (existing.1.trans_le far).ne']
        exact kept.unheld one far }

lemma Sound.drop
  (sound : Sound pending game) (room : Game.owed left game c < (game.creatures c).holds)
  (others : ∀ other, other ≠ c → Game.owed left game other ≤ (game.creatures other).holds) :
  Sound left (game.drop c) ∧ Frame game (game.drop c) := by
  have existing : game.exist c := sound.exist (by omega)
  let dropped := game.modify c fun creature => { creature with holds := creature.holds - 1 }
  have sameMaster : ∀ one, dropped.getMaster one = game.getMaster one :=
    modify_field Creature.master rfl
  have sameDeleted : ∀ one, (dropped.creatures one).deleted = (game.creatures one).deleted :=
    modify_field Creature.deleted rfl
  have sameSummons : dropped.summonsOf = game.summonsOf :=
    funext (modify_field Creature.summons rfl)
  have frame : Frame game dropped := modify_frame rfl rfl rfl rfl
  have proper : Proper dropped := by
    refine sound.toProper.frame frame ?_
    intro m deleted
    rw [sameDeleted] at deleted
    rw [sameSummons]
    exact sound.buried m deleted
  have self :
      (dropped.countDown c).creatures c =
        { game.creatures c with
          holds := (game.creatures c).holds - 1
          useCount := (game.creatures c).useCount - 1 } := by
    unfold countDown
    rw [modify_self, modify_self]
  have other : ∀ {one}, one ≠ c → (dropped.countDown c).creatures one = game.creatures one := by
    intro one ne
    unfold countDown
    rw [modify_other _ ne, modify_other _ ne]
  have kept : Kept dropped.summonsOf left (dropped.countDown c) := by
    rw [sameSummons]
    refine sound.kept.recount existing rfl self (by omega) other ?_
    intro one
    unfold Game.owed at room others ⊢
    by_cases itself : one = c
    · subst itself
      rw [self]
      exact Nat.le_sub_one_of_lt room
    · rw [other itself]
      exact others one itself
  obtain ⟨after, shrinks⟩ := proper.release kept ⟨existing.1, by
    rw [sameDeleted]
    exact existing.2⟩
  exact ⟨after, frame.trans shrinks.toFrame⟩

lemma Kept.settle {listed : Nat → List Nat} (kept : Kept listed pending game)
  {change : Creature → Creature}
  (same :
    ∀ creature, ∃ health lootDrop skillLoss summons,
      change creature =
        { creature with
          health := health
          lootDrop := lootDrop
          skillLoss := skillLoss
          summons := summons }) (settled : listed = (game.modify c change).summonsOf) :
  Kept (game.modify c change).summonsOf pending (game.modify c change) := by
  obtain ⟨health, lootDrop, skillLoss, summons, change_eq⟩ := same (game.creatures c)
  have onMap : ∀ one, ((game.modify c change).creatures one).onMap = (game.creatures one).onMap :=
    modify_field Creature.onMap (by rw [change_eq]; rfl)
  have spawned :
      ∀ one, ((game.modify c change).creatures one).spawned = (game.creatures one).spawned :=
    modify_field Creature.spawned (by rw [change_eq])
  rw [← settled]
  refine
    kept.same rfl (modify_field Creature.master (by rw [change_eq]))
      (modify_field Creature.useCount (by rw [change_eq]))
      (modify_field Creature.holds (by rw [change_eq]))
      (modify_field Creature.deleted (by rw [change_eq])) ?_ ?_
  · intro one
    unfold Game.owed
    rw [onMap, spawned]
    exact kept.owed one
  · intro m _ _
    rw [settled]

/-! ## Summons -/

lemma Sound.removeSummon (sound : Sound pending game) (master : game.getMaster c = some m)
  (held : 1 ≤ (game.creatures m).holds) :
  Sound pending (game.removeSummon m c) ∧ Frame game (game.removeSummon m c) ∧
    (game.removeSummon m c).getMaster c = none := by
  have mem : c ∈ game.summonsOf m := (sound.kept.related c m).mp master
  let each := fun creature : Creature => { creature with lootDrop := false, skillLoss := true }
  let last := (game.modify c fun creature => { each creature with master := none }).release c
  have result :
      game.removeSummon m c =
        last.modify m fun creature => { creature with summons := creature.summons.erase c } :=
    if_pos mem
  have harmless : Harmless each := fun creature => ⟨creature.health, false, true, rfl⟩
  have front : (c :: (game.summonsOf m).erase c).Perm (game.summonsOf m) :=
    (perm_cons_erase mem).symm
  obtain ⟨after, shrinks⟩ :
      Kept
          (trim game last
            (update
              (update game.summonsOf m (c :: (game.summonsOf m).erase c)) m
              ((game.summonsOf m).erase c))) pending last ∧
        Shrinks game last :=
    (sound.kept.reorder front held).letGo (releaseThing2_releases game.next) harmless
      (update_self ..) (.inr held) (alive_le game)
  have spared := shrinks.spared (.inr held)
  have lists :
      trim game last
          (update
            (update game.summonsOf m (c :: (game.summonsOf m).erase c)) m
            ((game.summonsOf m).erase c)) =
        (last.modify m fun creature =>
          { creature with summons := creature.summons.erase c }).summonsOf := by
    funext owner
    unfold trim
    by_cases itself : owner = m
    · subst itself
      unfold summonsOf
      rw [if_pos spared.1, update_self, modify_self]
      exact congrArg (List.erase · c) spared.2.symm
    · rw [update_of_ne itself, update_of_ne itself]
      refine (congrFun shrinks.trim_summonsOf owner).trans ?_
      unfold summonsOf
      rw [modify_other _ itself]
  have kept := Kept.settle after (fun creature =>
    ⟨creature.health, creature.lootDrop, creature.skillLoss, _, rfl⟩) lists
  have erased :
      Frame last (last.modify m fun creature =>
        { creature with summons := creature.summons.erase c }) :=
    modify_frame rfl rfl rfl rfl
  have frame := shrinks.toFrame.trans erased
  have proper : Proper (last.modify m fun creature =>
      { creature with summons := creature.summons.erase c }) := by
    refine sound.toProper.frame frame ?_
    intro owner deleted
    rw [modify_field Creature.deleted rfl] at deleted
    have empty := (sound.toProper.shrink shrinks).buried owner deleted
    unfold summonsOf at empty ⊢
    by_cases itself : owner = m
    · subst itself
      rw [modify_self, empty]
      rfl
    · rw [modify_other _ itself, empty]
  rw [result]
  refine ⟨{ proper with kept := kept }, frame, ?_⟩
  by_contra still
  obtain ⟨owner, again⟩ := ne_none_iff_exists'.mp still
  have before := frame.master c owner again
  rw [master, some.injEq] at before
  subst before
  have listed := (kept.related c m).mp again
  rw [← lists] at listed
  unfold trim at listed
  rw [if_pos spared.1, update_self] at listed
  exact (sound.kept.nodup m).not_mem_erase listed

lemma addSummon_master (m c one : Nat) :
  (game.addSummon m c).getMaster one = if one = c then some m else game.getMaster one := by
  unfold addSummon getMaster
  rw [modify_field Creature.master rfl]
  split_ifs with itself
  · subst itself
    rw [modify_self]
  · rw [modify_other _ itself]

lemma addSummon_summonsOf (m c one : Nat) :
  (game.addSummon m c).summonsOf one =
    if one = m then game.summonsOf m ++ [c] else game.summonsOf one := by
  unfold addSummon summonsOf
  split_ifs with itself
  · subst itself
    rw [modify_self]
    exact congrArg (· ++ [c]) (modify_field Creature.summons rfl one)
  · rw [modify_other _ itself]
    exact modify_field Creature.summons rfl one

lemma addSummon_useCount (m c one : Nat) :
  ((game.addSummon m c).creatures one).useCount =
    (game.creatures one).useCount + if one = c then 1 else 0 := by
  unfold addSummon
  rw [modify_field Creature.useCount rfl]
  split_ifs with itself
  · subst itself
    rw [modify_self]
  · rw [modify_other _ itself, Int.add_zero]

lemma addSummon_field (game : Game) {Value : Type} (field : Creature → Value) (m c : Nat)
  (same :
    ∀ creature useCount lootDrop skillLoss master summons,
      field
          { creature with
            useCount := useCount
            lootDrop := lootDrop
            skillLoss := skillLoss
            master := master
            summons := summons } =
        field creature) (one : Nat) :
  field ((game.addSummon m c).creatures one) = field (game.creatures one) := by
  unfold addSummon
  rw [modify_field field (same ..), modify_field field (same ..)]

lemma Kept.addSummon (kept : Kept game.summonsOf pending game) (free : game.getMaster c = none)
  (existing : game.exist c) (inside : m < game.next) :
  Kept (game.addSummon m c).summonsOf pending (game.addSummon m c) := by
  have unlisted : ∀ owner, c ∉ game.summonsOf owner := by
    intro owner mem
    rw [(kept.related c owner).mpr mem] at free
    cases free
  have deleted := addSummon_field game Creature.deleted m c fun _ _ _ _ _ _ => rfl
  have holds := addSummon_field game Creature.holds m c fun _ _ _ _ _ _ => rfl
  have onMap := addSummon_field game Creature.onMap m c fun _ _ _ _ _ _ => rfl
  have spawned := addSummon_field game Creature.spawned m c fun _ _ _ _ _ _ => rfl
  exact
    { related := by
        intro one owner
        rw [addSummon_master, addSummon_summonsOf]
        by_cases itself : one = c
        · subst itself
          rw [if_pos rfl, some.injEq]
          split_ifs with same
          · simp [same]
          · constructor
            · rintro rfl
              exact (same rfl).elim
            · intro mem
              exact (unlisted owner mem).elim
        · rw [if_neg itself, kept.related one owner]
          split_ifs with same
          · subst same
            rw [mem_append, mem_singleton, or_iff_left itself]
          · rfl
      nodup := by
        intro owner
        rw [addSummon_summonsOf]
        split_ifs with same
        · rw [nodup_append]
          refine ⟨kept.nodup m, nodup_singleton c, ?_⟩
          intro one mem other found alike
          rw [alike, mem_singleton.mp found] at mem
          exact unlisted m mem
        · exact kept.nodup owner
      inside := by
        intro one owner master
        rw [addSummon_master] at master
        split_ifs at master with itself
        · subst itself
          rw [some.injEq] at master
          subst master
          exact ⟨existing.1, inside⟩
        · exact kept.inside one owner master
      counted := by
        intro one living
        rw [deleted] at living
        rw [addSummon_master, addSummon_useCount, holds, kept.counted one living]
        split_ifs with itself
        · subst itself
          rw [free]
          simp [fromMaster]
        · rw [Int.add_zero]
      gone := by
        intro one dead
        rw [deleted] at dead
        rw [addSummon_master, holds, if_neg]
        · exact kept.gone one dead
        · rintro rfl
          rw [existing.2] at dead
          cases dead
      owed := by
        intro one
        unfold Game.owed
        rw [onMap, spawned, holds]
        exact kept.owed one
      settled := fun _ _ _ => rfl
      fresh := by
        intro owner far
        rw [addSummon_summonsOf, if_neg]
        · exact kept.fresh owner far
        · rintro rfl
          exact absurd inside (Nat.not_lt.mpr far)
      unheld := by
        intro one far
        rw [holds]
        exact kept.unheld one far }

section

variable (sound : Sound pending game)
include sound

lemma Sound.create (kind : CreatureKind) :
  Sound pending (game.create kind) ∧
    (∀ one, (game.create kind).getMaster one = game.getMaster one) ∧
    (∀ one, one ≠ game.next → (game.create kind).creatures one = game.creatures one) := by
  have self : (game.create kind).creatures game.next = .new kind := update_self ..
  have other : ∀ one, one ≠ game.next → (game.create kind).creatures one = game.creatures one :=
    fun _ different => update_of_ne different ..
  have masters : ∀ one, (game.create kind).getMaster one = game.getMaster one := by
    intro one
    unfold getMaster
    by_cases itself : one = game.next
    · subst itself
      rw [self]
      cases master : (game.creatures game.next).master with
      | none => rfl
      | some m => exact absurd (sound.kept.inside _ m master).1 (Nat.lt_irrefl _)
    · rw [other one itself]
  have lists : (game.create kind).summonsOf = game.summonsOf := by
    funext m
    by_cases itself : m = game.next
    · subst itself
      rw [sound.kept.fresh game.next le_rfl]
      unfold summonsOf
      rw [self]
      rfl
    · unfold summonsOf
      rw [other m itself]
  have unpending : pending.count game.next = 0 := by
    have owed := sound.kept.owed game.next
    rw [sound.kept.unheld game.next le_rfl] at owed
    unfold Game.owed at owed
    omega
  refine ⟨?_, masters, other⟩
  exact
    { buried := by
        intro m deleted
        rw [lists]
        by_cases itself : m = game.next
        · subst itself
          exact sound.kept.fresh _ le_rfl
        · rw [other m itself] at deleted
          exact sound.buried m deleted
      grounded := sound.grounded.shrink fun one m same => masters one ▸ same
      masterPlaced := by
        intro c m master
        rw [masters] at master
        have inside := (sound.kept.inside c m master).2
        rw [other m inside.ne]
        exact sound.masterPlaced c m master
      ended := sound.ended
      kept :=
        { related := by
            intro one m
            rw [masters, lists]
            exact sound.kept.related one m
          nodup := by
            intro m
            rw [lists]
            exact sound.kept.nodup m
          inside := by
            intro one m master
            rw [masters] at master
            obtain ⟨low, high⟩ := sound.kept.inside one m master
            exact ⟨Nat.lt_succ_of_lt low, Nat.lt_succ_of_lt high⟩
          counted := by
            intro one living
            rw [masters]
            by_cases itself : one = game.next
            · subst itself
              have free : game.getMaster game.next = none := by
                rw [← masters]
                unfold getMaster
                rw [self]
                rfl
              rw [self, free]
              rfl
            · rw [other one itself] at living ⊢
              exact sound.kept.counted one living
          gone := by
            intro one dead
            rw [masters]
            by_cases itself : one = game.next
            · subst itself
              rw [self] at dead
              cases dead
            · rw [other one itself] at dead ⊢
              exact sound.kept.gone one dead
          owed := by
            intro one
            have before := sound.kept.owed one
            unfold Game.owed at before ⊢
            by_cases itself : one = game.next
            · subst itself
              rw [self, unpending]
              exact Nat.zero_le _
            · rw [other one itself]
              exact before
          settled := fun _ _ _ => rfl
          fresh := by
            intro m far
            rw [lists]
            exact sound.kept.fresh m (Nat.le_of_succ_le far)
          unheld := by
            intro one far
            rw [other one (Nat.ne_of_gt far)]
            exact sound.kept.unheld one (Nat.le_of_succ_le far) } }

/-- Flags are changed, and references are reserved that there are. -/
lemma Sound.flag (created : next.next = game.next) (exhausted : next.exhausted = game.exhausted)
  (master : ∀ c, next.getMaster c = game.getMaster c)
  (useCount : ∀ c, (next.creatures c).useCount = (game.creatures c).useCount)
  (holds : ∀ c, (next.creatures c).holds = (game.creatures c).holds)
  (deleted : ∀ c, (next.creatures c).deleted = (game.creatures c).deleted)
  (summons : ∀ c, next.summonsOf c = game.summonsOf c)
  (placed : ∀ c, (game.creatures c).placed = true → (next.creatures c).placed = true)
  (owed : ∀ c, Game.owed left next c ≤ (game.creatures c).holds) : Sound left next where
  buried m dead := by
    rw [deleted] at dead
    rw [summons]
    exact sound.buried m dead
  grounded := sound.grounded.shrink fun c m same => master c ▸ same
  masterPlaced c m same := by
    rw [master] at same
    exact placed m (sound.masterPlaced c m same)
  ended := exhausted.trans sound.ended
  kept := by
    have same : next.summonsOf = game.summonsOf := funext summons
    rw [same]
    refine sound.kept.same created master useCount holds deleted owed ?_
    intro m _ _
    exact (summons m).symm

lemma Sound.hold (existing : game.exist c) :
  Sound pending (game.hold c) ∧ Frame game (game.hold c) ∧
    Game.owed pending (game.hold c) c < ((game.hold c).creatures c).holds := by
  have self :
      (game.hold c).creatures c =
        { game.creatures c with
          useCount := (game.creatures c).useCount + 1
          holds := (game.creatures c).holds + 1 } :=
    modify_self ..
  have other : ∀ {one}, one ≠ c → (game.hold c).creatures one = game.creatures one :=
    fun ne => modify_other _ ne
  have frame : Frame game (game.hold c) := modify_frame rfl rfl rfl rfl
  have masters : ∀ one, (game.hold c).getMaster one = game.getMaster one :=
    modify_field Creature.master rfl
  have deleted : ∀ one, ((game.hold c).creatures one).deleted = (game.creatures one).deleted :=
    modify_field Creature.deleted rfl
  have owed : ∀ one, Game.owed pending (game.hold c) one = Game.owed pending game one := by
    intro one
    unfold Game.owed Game.hold
    rw [modify_field Creature.onMap rfl, modify_field Creature.spawned rfl]
  have lists : (game.hold c).summonsOf = game.summonsOf :=
    funext (modify_field Creature.summons rfl)
  have proper : Proper (game.hold c) := by
    refine sound.toProper.frame frame ?_
    intro m dead
    rw [deleted] at dead
    rw [lists]
    exact sound.buried m dead
  refine ⟨{ proper with kept := ?_ }, frame, ?_⟩
  · rw [lists]
    refine sound.kept.recount existing rfl self (by push_cast; omega) other ?_
    intro one
    rw [owed]
    have before := sound.kept.owed one
    by_cases itself : one = c
    · subst itself
      rw [self]
      exact Nat.le_succ_of_le before
    · rw [other itself]
      exact before
  · rw [owed, self]
    exact Nat.lt_succ_of_le (sound.kept.owed c)

/-- A creature is placed on the map. -/
lemma Sound.internalPlaceCreature (existing : game.exist c) (answer : Bool) :
  Sound pending (game.internalPlaceCreature c answer).1 ∧
    (∀ one, (game.internalPlaceCreature c answer).1.getMaster one = game.getMaster one) ∧
    (∀ one, ((game.internalPlaceCreature c answer).1.creatures one).isInternalRemoved =
      (game.creatures one).isInternalRemoved) ∧
    (∀ one, ((game.internalPlaceCreature c answer).1.creatures one).placed =
      if (game.internalPlaceCreature c answer).2 ∧ one = c then true
      else (game.creatures one).placed) ∧
    (game.internalPlaceCreature c answer).1.ToReleaseThings = game.ToReleaseThings := by
  unfold Game.internalPlaceCreature
  split_ifs with refused
  · exact ⟨sound, fun _ => rfl, fun _ => rfl, fun _ => by simp, rfl⟩
  · obtain ⟨held, frame, room⟩ := sound.hold existing
    let next := (game.hold c).modify c fun creature => { creature with placed := true }
    have masters : ∀ one, next.getMaster one = (game.hold c).getMaster one :=
      modify_field Creature.master rfl
    have summons : ∀ one, next.summonsOf one = (game.hold c).summonsOf one :=
      modify_field Creature.summons rfl
    have spawned : ∀ one, (next.creatures one).spawned = ((game.hold c).creatures one).spawned :=
      modify_field Creature.spawned rfl
    have removed :
        ∀ one, (next.creatures one).isInternalRemoved =
          ((game.hold c).creatures one).isInternalRemoved :=
      modify_field Creature.isInternalRemoved rfl
    have self : (next.creatures c).placed = true := by
      rw [modify_self]
    have other : ∀ {one}, one ≠ c → next.creatures one = (game.hold c).creatures one :=
      fun ne => modify_other _ ne
    have owed : ∀ one, Game.owed pending next one ≤ ((game.hold c).creatures one).holds := by
      intro one
      have before := held.kept.owed one
      by_cases itself : one = c
      · subst itself
        unfold Game.owed at room ⊢
        rw [spawned]
        split_ifs at room ⊢ <;> omega
      · unfold Game.owed at before ⊢
        rw [other itself]
        exact before
    have placed :
        ∀ one, ((game.hold c).creatures one).placed = true →
          (next.creatures one).placed = true := by
      intro one before
      by_cases itself : one = c
      · subst itself
        exact self
      · rwa [other itself]
    have sound : Sound pending next :=
      held.flag rfl rfl masters (modify_field Creature.useCount rfl)
        (modify_field Creature.holds rfl) (modify_field Creature.deleted rfl) summons
        placed owed
    refine ⟨sound, ?_, ?_, ?_, rfl⟩
    · intro one
      refine (masters one).trans ?_
      exact modify_field Creature.master rfl one
    · intro one
      exact (removed one).trans (frame.removed one)
    · intro one
      by_cases itself : one = c
      · subst itself
        rw [if_pos ⟨rfl, rfl⟩]
        exact self
      · rw [if_neg (by simp [itself])]
        exact (congrArg Creature.placed (other itself)).trans (frame.placed one)

end

/-! ## The whole invariant -/

structure Inv (game : Game) : Prop where
  sound : Sound game.ToReleaseThings game
  attended : AttendedBut (fun _ => False) game
  summonPlaced : ∀ c m, game.getMaster c = some m → (game.creatures c).placed = true

lemma Inv.frame (inv : Inv game) (frame : Frame game next)
  (sound : Sound game.ToReleaseThings next) : Inv next where
  sound := by
    rw [frame.toRelease]
    exact sound
  attended := inv.attended.frame frame
  summonPlaced c m master := by
    rw [frame.placed]
    exact inv.summonPlaced c m (frame.master c m master)

lemma Inv.master_onMap (inv : Inv game) (onMap : (game.creatures c).onMap = true)
  (master : game.getMaster c = some m) : (game.creatures m).onMap = true := by
  have placed := inv.sound.masterPlaced c m master
  have present : (game.creatures m).isInternalRemoved = false := by
    by_contra removed
    exact inv.attended c m onMap master (by simpa using removed)
  unfold Creature.onMap
  rw [placed, present]
  rfl

lemma Inv.summon
  (inv : Inv game) (existing : game.exist m) (placed : (game.creatures m).placed = true)
  (present : (game.creatures m).isInternalRemoved = false) (answer : Bool) :
  Inv (game.summon m answer) := by
  obtain ⟨created, masters, other⟩ := inv.sound.create .monster
  have old : m ≠ game.next := existing.1.ne
  have self : (game.create .monster).creatures game.next = .new .monster := update_self ..
  have unowned : ∀ lower, game.getMaster lower ≠ some game.next := fun lower master =>
    Nat.lt_irrefl _ (inv.sound.kept.inside lower game.next master).2
  have existingNew : (game.create .monster).exist game.next := by
    refine ⟨Nat.lt_succ_self _, ?_⟩
    rw [self]
    rfl
  have free : (game.create .monster).getMaster game.next = none := by
    unfold getMaster
    rw [self]
    rfl
  let added := (game.create .monster).addSummon m game.next
  have deleted :=
    addSummon_field (game.create .monster) Creature.deleted m game.next fun _ _ _ _ _ _ => rfl
  have placedSame :=
    addSummon_field (game.create .monster) Creature.placed m game.next fun _ _ _ _ _ _ => rfl
  have removedSame :=
    addSummon_field (game.create .monster) Creature.isInternalRemoved m game.next
      fun _ _ _ _ _ _ => rfl
  have holds :=
    addSummon_field (game.create .monster) Creature.holds m game.next fun _ _ _ _ _ _ => rfl
  have addedMaster : ∀ one, added.getMaster one =
      if one = game.next then some m else game.getMaster one := by
    intro one
    rw [← masters]
    exact addSummon_master m game.next one
  have sound : Sound game.ToReleaseThings added :=
    { buried := by
        intro owner dead
        rw [deleted] at dead
        rw [addSummon_summonsOf, if_neg]
        · exact created.buried owner dead
        · rintro rfl
          rw [other owner old, existing.2] at dead
          cases dead
      grounded := by
        refine created.grounded.attach (?_ : ∀ lower, _ ≠ some game.next) ?_
        · intro lower
          rw [addedMaster]
          split_ifs
          · simpa using old
          · exact unowned lower
        · intro lower upper different master
          rw [addedMaster, if_neg different] at master
          rw [masters]
          exact master
      masterPlaced := by
        intro c owner master
        rw [placedSame]
        rw [addedMaster] at master
        split_ifs at master
        · rw [some.injEq] at master
          subst master
          rw [other m old]
          exact placed
        · rw [← masters] at master
          exact created.masterPlaced c owner master
      ended := inv.sound.ended
      kept := created.kept.addSummon free existingNew (Nat.lt_succ_of_lt existing.1) }
  have existingAdded : added.exist game.next := by
    refine ⟨existingNew.1, ?_⟩
    rw [deleted]
    exact existingNew.2
  obtain ⟨soundPlaced, mastersPlaced, removedPlaced, placedPlaced, toRelease⟩ :=
    sound.internalPlaceCreature existingAdded answer
  unfold Game.summon
  dsimp only
  generalize result : added.internalPlaceCreature game.next answer = answered at *
  rcases answered with ⟨after, _ | _⟩
  · -- it has not been placed
    have same : after = added := by
      unfold Game.internalPlaceCreature at result
      split_ifs at result
      · exact (Prod.mk.inj result).1.symm
      · cases (Prod.mk.inj result).2
    rw [same]
    have heldBefore : 1 ≤ (game.creatures m).holds := by
      refine inv.sound.kept.held ?_
      unfold Creature.onMap
      rw [placed, present]
      rfl
    have held : 1 ≤ (added.creatures m).holds := by
      rw [holds, other m old]
      exact heldBefore
    have master : added.getMaster game.next = some m := by
      rw [addedMaster, if_pos rfl]
    obtain ⟨soundGone, frame, gone⟩ := sound.removeSummon master held
    have before :
        ∀ {c owner}, (added.removeSummon m game.next).getMaster c = some owner →
          c ≠ game.next ∧ game.getMaster c = some owner := by
      intro c owner found
      have different : c ≠ game.next := by
        rintro rfl
        rw [gone] at found
        cases found
      have early := frame.master c owner found
      rw [addedMaster, if_neg different] at early
      exact ⟨different, early⟩
    exact
      { sound := by
          rw [frame.toRelease]
          exact soundGone
        attended := by
          intro c owner onMap found removed
          obtain ⟨different, early⟩ := before found
          rw [frame.onMap] at onMap
          rw [frame.removed, removedSame] at removed
          have inside := (inv.sound.kept.inside c owner early).2
          rw [other owner inside.ne] at removed
          refine inv.attended c owner ?_ early removed
          unfold Creature.onMap at onMap ⊢
          rwa [placedSame, removedSame, other c different] at onMap
        summonPlaced := by
          intro c owner found
          obtain ⟨different, early⟩ := before found
          rw [frame.placed, placedSame, other c different]
          exact inv.summonPlaced c owner early }
  · show Inv after
    have toReleaseSame : after.ToReleaseThings = game.ToReleaseThings := toRelease
    exact
      { sound := by
          rw [toReleaseSame]
          exact soundPlaced
        attended := by
          intro c owner onMap found removed
          rw [mastersPlaced, addedMaster] at found
          rw [removedPlaced, removedSame] at removed
          split_ifs at found with itself
          · rw [some.injEq] at found
            subst found
            rw [other m old, present] at removed
            cases removed
          · have inside := (inv.sound.kept.inside c owner found).2
            rw [other owner inside.ne] at removed
            refine inv.attended c owner ?_ found removed
            unfold Creature.onMap at onMap ⊢
            rwa [placedPlaced, removedPlaced, if_neg (by simp [itself]), placedSame,
              removedSame, other c itself] at onMap
        summonPlaced := by
          intro c owner found
          rw [placedPlaced]
          rw [mastersPlaced, addedMaster] at found
          by_cases itself : c = game.next
          · rw [if_pos ⟨rfl, itself⟩]
          · rw [if_neg itself] at found
            rw [if_neg (by simp [itself]), placedSame, other c itself]
            exact inv.summonPlaced c owner found }

/-! ## Dying and being convinced -/

lemma killSummons_kept
  (kept : Kept game.summonsOf pending game) (held : 1 ≤ (game.creatures c).holds) :
  Kept (game.killSummons c).summonsOf pending (game.killSummons c) ∧
    Frame game (game.killSummons c) ∧
    (game.killSummons c).summonsOf c = [] ∧
    ((∀ m, (game.creatures m).deleted = true → game.summonsOf m = []) →
      ∀ m, ((game.killSummons c).creatures m).deleted = true →
        (game.killSummons c).summonsOf m = []) := by
  let each := fun creature : Creature => creature.changeHealth (-creature.health)
  let last :=
    (game.summonsOf c).foldl
      (fun game summon =>
        (game.modify summon fun creature => { each creature with master := none }).release summon)
      game
  have result :
      game.killSummons c = last.modify c fun creature => { creature with summons := [] } := rfl
  have releases : Releases Game.release game.next :=
    fun start listed pending one kept existing _ =>
      releaseThing2_releases start.next start listed pending one kept existing (alive_le start)
  have harmless : Harmless each := fun creature => ⟨_, creature.lootDrop, creature.skillLoss, rfl⟩
  obtain ⟨after, shrinks⟩ :
      Kept (update (trim game last game.summonsOf) c []) pending last ∧ Shrinks game last :=
    kept.loop releases harmless rfl (.inr held) (alive_le game)
  have cleared : Frame last (last.modify c fun creature => { creature with summons := [] }) :=
    modify_frame rfl rfl rfl rfl
  have lists :
      update (trim game last game.summonsOf) c [] =
        (last.modify c fun creature => { creature with summons := [] }).summonsOf := by
    funext m
    unfold summonsOf
    by_cases itself : m = c
    · subst itself
      rw [update_self, modify_self]
    · rw [update_of_ne itself, modify_other _ itself]
      exact congrFun shrinks.trim_summonsOf m
  rw [result]
  refine ⟨?_, shrinks.toFrame.trans cleared, ?_, ?_⟩
  · exact after.settle (fun creature =>
      ⟨creature.health, creature.lootDrop, creature.skillLoss, [], rfl⟩) lists
  · rw [← lists, update_self]
  · intro buried m dead
    rw [modify_field Creature.deleted rfl] at dead
    rw [← lists]
    by_cases itself : m = c
    · subst itself
      rw [update_self]
    · rw [update_of_ne itself, shrinks.trim_summonsOf]
      rcases shrinks.fate m with ⟨same, list⟩ | ⟨-, -, empty, -⟩
      · rw [list]
        exact buried m (same ▸ dead)
      · exact empty

section

variable (inv : Inv game)
include inv

lemma Inv.killSummons (onMap : (game.creatures c).onMap = true) :
  Inv (game.killSummons c) ∧ Frame game (game.killSummons c) := by
  obtain ⟨kept, frame, -, buried⟩ := killSummons_kept inv.sound.kept (inv.sound.kept.held onMap)
  have proper := inv.sound.toProper.frame frame (buried inv.sound.buried)
  exact ⟨inv.frame frame { proper with kept := kept }, frame⟩

lemma Inv.removeSummon
  (onMap : (game.creatures c).onMap = true) (master : game.getMaster c = some m) :
  Inv (game.removeSummon m c) ∧ Frame game (game.removeSummon m c) ∧
    (game.removeSummon m c).getMaster c = none := by
  have held := inv.sound.kept.held (inv.master_onMap onMap master)
  obtain ⟨sound, frame, gone⟩ := inv.sound.removeSummon master held
  exact ⟨inv.frame frame sound, frame, gone⟩

lemma Inv.removeMonster (c : Nat) : Inv (game.removeMonster c) := by
  unfold Game.removeMonster
  split_ifs with spawned
  · let freed := game.modify c fun creature => { creature with spawned := false }
    have masters : ∀ one, freed.getMaster one = game.getMaster one :=
      modify_field Creature.master rfl
    have summons : ∀ one, freed.summonsOf one = game.summonsOf one :=
      modify_field Creature.summons rfl
    have holds : ∀ one, (freed.creatures one).holds = (game.creatures one).holds :=
      modify_field Creature.holds rfl
    have onMap : ∀ one, (freed.creatures one).onMap = (game.creatures one).onMap :=
      modify_field Creature.onMap rfl
    have placed : ∀ one, (freed.creatures one).placed = (game.creatures one).placed :=
      modify_field Creature.placed rfl
    have self : (freed.creatures c).spawned = false := by
      rw [modify_self]
    have other : ∀ {one}, one ≠ c → freed.creatures one = game.creatures one :=
      fun ne => modify_other _ ne
    have room : Game.owed game.ToReleaseThings freed c < (freed.creatures c).holds := by
      have before := inv.sound.kept.owed c
      unfold Game.owed at before ⊢
      rw [if_pos spawned] at before
      rw [onMap, self, holds]
      simp only [Bool.false_eq_true, if_false]
      omega
    have others :
        ∀ one, one ≠ c →
          Game.owed game.ToReleaseThings freed one ≤ (freed.creatures one).holds := by
      intro one ne
      have before := inv.sound.kept.owed one
      unfold Game.owed at before ⊢
      rw [other ne]
      exact before
    have sound : Sound game.ToReleaseThings freed := by
      refine inv.sound.flag rfl rfl masters (modify_field Creature.useCount rfl) holds
        (modify_field Creature.deleted rfl) summons ?_ ?_
      · intro one before
        rw [placed]
        exact before
      · intro one
        rw [← holds]
        by_cases itself : one = c
        · subst itself
          exact room.le
        · exact others one itself
    have frame : Frame game freed := modify_frame rfl rfl rfl rfl
    obtain ⟨after, dropped⟩ := sound.drop room others
    exact inv.frame (frame.trans dropped) after
  · exact inv

lemma Inv.takeOver {this creature : Nat} (onMap : (game.creatures this).onMap = true)
  (convincer : (game.creatures creature).onMap = true) (free : game.getMaster this = none) :
  Inv (game.takeOver this creature) := by
  have existing : game.exist this := inv.sound.exist (inv.sound.kept.held onMap)
  have convincerExists : game.exist creature := inv.sound.exist (inv.sound.kept.held convincer)
  let added := game.addSummon creature this
  have deleted := addSummon_field game Creature.deleted creature this fun _ _ _ _ _ _ => rfl
  have placed := addSummon_field game Creature.placed creature this fun _ _ _ _ _ _ => rfl
  have onMapSame := addSummon_field game Creature.onMap creature this fun _ _ _ _ _ _ => rfl
  have removed :=
    addSummon_field game Creature.isInternalRemoved creature this fun _ _ _ _ _ _ => rfl
  have kept : Kept added.summonsOf game.ToReleaseThings added :=
    inv.sound.kept.addSummon free existing convincerExists.1
  have held : 1 ≤ (added.creatures this).holds := by
    refine kept.held ?_
    rw [onMapSame]
    exact onMap
  have buriedAdded : ∀ m, (added.creatures m).deleted = true → added.summonsOf m = [] := by
    intro m dead
    rw [deleted] at dead
    rw [addSummon_summonsOf, if_neg]
    · exact inv.sound.buried m dead
    · rintro rfl
      rw [convincerExists.2] at dead
      cases dead
  obtain ⟨after, frame, empty, buried⟩ := killSummons_kept kept held
  have masters :
      ∀ c m, (added.killSummons this).getMaster c = some m →
        c = this ∧ m = creature ∨ c ≠ this ∧ game.getMaster c = some m := by
    intro c m master
    have before := frame.master c m master
    rw [addSummon_master] at before
    split_ifs at before with itself
    · exact .inl ⟨itself, (some.inj before).symm⟩
    · exact .inr ⟨itself, before⟩
  have childless : ∀ lower, (added.killSummons this).getMaster lower ≠ some this := by
    intro lower master
    have member := (after.related lower this).mp master
    rw [empty] at member
    cases member
  have parts : (game.creatures creature).placed = true ∧
      (game.creatures creature).isInternalRemoved = false := by
    unfold Creature.onMap at convincer
    simpa using convincer
  have whole : Inv (added.killSummons this) :=
    { sound :=
        { buried := buried buriedAdded
          grounded := by
            refine inv.sound.grounded.attach childless ?_
            intro lower upper ne master
            rcases masters lower upper master with ⟨itself, -⟩ | ⟨-, before⟩
            · exact (ne itself).elim
            · exact before
          masterPlaced := by
            intro c m master
            rw [frame.placed, placed]
            rcases masters c m master with ⟨-, rfl⟩ | ⟨-, before⟩
            · exact parts.1
            · exact inv.sound.masterPlaced c m before
          ended := frame.exhausted.trans inv.sound.ended
          kept := by
            rw [frame.toRelease]
            exact after }
      attended := by
        intro c m here master gone
        rw [frame.onMap, onMapSame] at here
        rw [frame.removed, removed] at gone
        rcases masters c m master with ⟨-, rfl⟩ | ⟨-, before⟩
        · rw [parts.2] at gone
          cases gone
        · exact inv.attended c m here before gone
      summonPlaced := by
        intro c m master
        rw [frame.placed, placed]
        rcases masters c m master with ⟨rfl, -⟩ | ⟨-, before⟩
        · unfold Creature.onMap at onMap
          rw [Bool.and_eq_true] at onMap
          exact onMap.1
        · exact inv.summonPlaced c m before }
  exact whole.removeMonster this

lemma Inv.convinceCreature {this creature : Nat} (onMap : (game.creatures this).onMap = true)
  (convincer : (game.creatures creature).onMap = true) (convinceable : Bool) :
  Inv (game.convinceCreature this creature convinceable).1 := by
  unfold Game.convinceCreature
  split_ifs
  · exact inv
  · exact inv
  · cases master : (game.creatures this).master with
    | none => exact inv.takeOver onMap convincer master
    | some oldMaster =>
      dsimp only
      split_ifs
      · exact inv
      · obtain ⟨after, frame, free⟩ := inv.removeSummon onMap master
        refine after.takeOver ?_ ?_ free
        · rw [frame.onMap]
          exact onMap
        · rw [frame.onMap]
          exact convincer

lemma Inv.onDie (onMap : (game.creatures c).onMap = true) :
  Inv (game.onDie c) ∧ (game.onDie c).next = game.next := by
  unfold Game.onDie
  have died :
      ∀ {next : Game} {m : Nat}, Inv next → (next.creatures c).onMap = true →
        next.next = game.next → (next.creatures c).master = some m →
          Inv (next.removeSummon m c) ∧ (next.removeSummon m c).next = game.next := by
    intro next m inv onMap created master
    obtain ⟨after, frame, -⟩ := inv.removeSummon onMap master
    exact ⟨after, frame.created.trans created⟩
  cases kind : (game.creatures c).kind with
  | monster =>
    obtain ⟨after, frame⟩ := inv.killSummons onMap
    dsimp only
    split
    · rename_i master
      refine died after ?_ frame.created master
      rw [frame.onMap]
      exact onMap
    · exact ⟨after, frame.created⟩
  | player | npc =>
    dsimp only
    split
    · rename_i master
      exact died inv onMap rfl master
    · exact ⟨inv, rfl⟩

end

/-! ## Removing -/

/-- The invariant while some creatures are still to be removed. -/
structure InvBut (exceptions : Nat → Prop) (game : Game) : Prop where
  sound : Sound game.ToReleaseThings game
  attended : AttendedBut exceptions game
  summonPlaced : ∀ c m, game.getMaster c = some m → (game.creatures c).placed = true

structure Removes (game next : Game) : Prop where
  created : next.next = game.next
  master : ∀ c m, next.getMaster c = some m → game.getMaster c = some m
  removed :
    ∀ c, (game.creatures c).isInternalRemoved = true → (next.creatures c).isInternalRemoved = true

lemma Removes.trans {last : Game} (first : Removes game next) (second : Removes next last) :
  Removes game last where
  created := second.created.trans first.created
  master c m same := first.master c m (second.master c m same)
  removed c before := second.removed c (first.removed c before)

lemma Frame.removes (frame : Frame game next) : Removes game next where
  __ := frame
  removed c before := by
    rw [frame.removed]
    exact before

def unremoved (game : Game) : Nat :=
  ((Finset.range game.next).filter fun c => (game.creatures c).isInternalRemoved = false).card

lemma unremoved_le (game : Game) : game.unremoved ≤ game.next :=
  (Finset.card_filter_le _ _).trans_eq (Finset.card_range _)

lemma Removes.unremoved_le (removes : Removes game next) : next.unremoved ≤ game.unremoved := by
  refine Finset.card_le_card ?_
  intro c mem
  rw [Finset.mem_filter] at mem ⊢
  rw [removes.created] at mem
  refine ⟨mem.1, ?_⟩
  by_contra before
  rw [removes.removed c (by simpa using before)] at mem
  cases mem.2

lemma Removes.unremoved_lt (removes : Removes game next) (inside : c < game.next)
  (before : (game.creatures c).isInternalRemoved = false)
  (after : (next.creatures c).isInternalRemoved = true) : next.unremoved < game.unremoved := by
  refine Finset.card_lt_card ?_
  rw [Finset.ssubset_iff_of_subset]
  · refine ⟨c, ?_, ?_⟩
    · rw [Finset.mem_filter, Finset.mem_range]
      exact ⟨inside, before⟩
    · rw [Finset.mem_filter, after]
      simp
  · intro one mem
    rw [Finset.mem_filter] at mem ⊢
    rw [removes.created] at mem
    refine ⟨mem.1, ?_⟩
    by_contra earlier
    rw [removes.removed one (by simpa using earlier)] at mem
    cases mem.2

section

variable (inv : InvBut exceptions game)
include inv

lemma InvBut.frame (frame : Frame game next) (sound : Sound game.ToReleaseThings next) :
  InvBut exceptions next where
  sound := by
    rw [frame.toRelease]
    exact sound
  attended := inv.attended.frame frame
  summonPlaced c m master := by
    rw [frame.placed]
    exact inv.summonPlaced c m (frame.master c m master)

lemma InvBut.weaken {more : Nat → Prop}
  (weaker : ∀ c, (game.creatures c).onMap = true → exceptions c → more c) : InvBut more game :=
  { inv with
    attended := fun c m onMap master removed =>
      weaker c onMap (inv.attended c m onMap master removed) }

lemma InvBut.onCreatureDisappear (c : Nat) :
  InvBut exceptions (game.onCreatureDisappear c) ∧ Frame game (game.onCreatureDisappear c) := by
  unfold Game.onCreatureDisappear
  have refl : Frame game game := (Shrinks.refl game).toFrame
  cases master : (game.creatures c).master with
  | none => exact ⟨inv, refl⟩
  | some m =>
    dsimp only
    split_ifs with removed
    · exact ⟨inv, refl⟩
    · have held : 1 ≤ (game.creatures m).holds := by
        refine inv.sound.kept.held ?_
        unfold Creature.onMap
        rw [inv.sound.masterPlaced c m master]
        simpa using removed
      obtain ⟨sound, frame, -⟩ := inv.sound.removeSummon master held
      exact ⟨inv.frame frame sound, frame⟩

lemma InvBut.setRemoved (onMap : (game.creatures c).onMap = true) :
  InvBut
      (fun one => exceptions one ∧ one ≠ c ∨ one ∈ (game.setRemoved c).summonsOf c)
      (game.setRemoved c) ∧
    Removes game (game.setRemoved c) ∧
    ((game.setRemoved c).creatures c).isInternalRemoved = true := by
  have self :
      (game.setRemoved c).creatures c = { game.creatures c with isInternalRemoved := true } := by
    rw [creatures]
    exact modify_self ..
  have other : ∀ {one}, one ≠ c → (game.setRemoved c).creatures one = game.creatures one := by
    intro one ne
    rw [creatures]
    exact modify_other _ ne
  have field :
      ∀ {Value : Type} (field : Creature → Value),
        field { game.creatures c with isInternalRemoved := true } =
            field (game.creatures c) →
          ∀ one, field ((game.setRemoved c).creatures one) = field (game.creatures one) := by
    intro Value field same one
    rw [creatures]
    exact modify_field field same one
  have masters : ∀ one, (game.setRemoved c).getMaster one = game.getMaster one :=
    field Creature.master rfl
  have summons : ∀ one, (game.setRemoved c).summonsOf one = game.summonsOf one :=
    field Creature.summons rfl
  have placed : ∀ one, ((game.setRemoved c).creatures one).placed = (game.creatures one).placed :=
    field Creature.placed rfl
  have notThere : ((game.setRemoved c).creatures c).onMap = false := by
    rw [self]
    unfold Creature.onMap
    simp
  refine ⟨?_, ?_, ?_⟩
  · exact
      { sound := by
          refine inv.sound.flag rfl rfl masters (field Creature.useCount rfl)
            (field Creature.holds rfl) (field Creature.deleted rfl) summons
            (fun one before => (placed one).trans before) ?_
          intro one
          have before := inv.sound.kept.owed one
          have spawned :
              ((game.setRemoved c).creatures one).spawned = (game.creatures one).spawned :=
            field Creature.spawned rfl one
          unfold Game.owed at before ⊢
          show (game.ToReleaseThings ++ [c]).count one + _ + _ ≤ _
          rw [spawned, count_append]
          by_cases itself : one = c
          · subst itself
            rw [notThere, count_singleton_self]
            rw [if_pos onMap] at before
            simpa using before
          · rw [other itself, count_singleton, if_neg (by simpa using Ne.symm itself)]
            exact before
        attended := by
          intro one m here master removed
          have itself : one ≠ c := by
            rintro rfl
            rw [notThere] at here
            cases here
          rw [masters] at master
          by_cases owner : m = c
          · subst owner
            rw [summons]
            exact .inr ((inv.sound.kept.related one m).mp master)
          · rw [other itself] at here
            rw [other owner] at removed
            exact .inl ⟨inv.attended one m here master removed, itself⟩
        summonPlaced := by
          intro one m master
          rw [placed]
          rw [masters] at master
          exact inv.summonPlaced one m master }
  · exact
      { created := rfl
        master := fun one m same => masters one ▸ same
        removed := by
          intro one before
          by_cases itself : one = c
          · subst itself
            rw [self]
          · rw [other itself]
            exact before }
  · rw [self]

end

def RemovesOne (remove : Game → Nat → Game) (fuel : Nat) : Prop :=
  ∀ (game : Game) (exceptions : Nat → Prop) (c : Nat),
    InvBut exceptions game → c < game.next → game.unremoved ≤ fuel →
      InvBut (fun one => exceptions one ∧ one ≠ c) (remove game c) ∧ Removes game (remove game c)

lemma InvBut.removeAll {remove : Game → Nat → Game} {fuel : Nat}
    (removesOne : RemovesOne remove fuel)
    (inv : InvBut (fun one => exceptions one ∨ one ∈ list) game)
    (inside : ∀ summon ∈ list, summon < game.next) (enough : game.unremoved ≤ fuel) :
    let last :=
      list.foldl
        (fun game summon =>
          remove (game.modify summon fun creature => { creature with skillLoss := false }) summon)
        game
    InvBut exceptions last ∧ Removes game last := by
  induction list generalizing game with
  | nil =>
    refine ⟨inv.weaken fun c _ some => ?_, (Shrinks.refl game).toFrame.removes⟩
    exact some.resolve_right (by simp)
  | cons summon list ih =>
    let changed := game.modify summon fun creature => { creature with skillLoss := false }
    have frame : Frame game changed := modify_frame rfl rfl rfl rfl
    have masters : ∀ one, changed.getMaster one = game.getMaster one :=
      modify_field Creature.master rfl
    have summons : ∀ one, changed.summonsOf one = game.summonsOf one :=
      modify_field Creature.summons rfl
    have sound : Sound game.ToReleaseThings changed := by
      refine inv.sound.flag rfl rfl masters (modify_field Creature.useCount rfl)
        (modify_field Creature.holds rfl) (modify_field Creature.deleted rfl) summons
        (fun one before => (frame.placed one).trans before) ?_
      intro one
      have spawned : (changed.creatures one).spawned = (game.creatures one).spawned :=
        modify_field Creature.spawned rfl one
      have before := inv.sound.kept.owed one
      unfold Game.owed at before ⊢
      rw [frame.onMap, spawned]
      exact before
    obtain ⟨removed, removes⟩ :=
      removesOne changed _ summon (inv.frame frame sound)
        (inside summon mem_cons_self) (frame.removes.unremoved_le.trans enough)
    have removesBoth := frame.removes.trans removes
    have still : InvBut (fun one => exceptions one ∨ one ∈ list) (remove changed summon) := by
      refine removed.weaken ?_
      rintro one - ⟨excepted | mem, ne⟩
      · exact .inl excepted
      · exact .inr ((mem_cons.mp mem).resolve_left ne)
    obtain ⟨after, removesOn⟩ :=
      ih still
        (fun one mem => by
          rw [removesBoth.created]
          exact inside one (mem_cons_of_mem summon mem))
        (removesBoth.unremoved_le.trans enough)
    exact ⟨after, removesBoth.trans removesOn⟩

lemma removeCreatureBy_removesOne (fuel : Nat) : RemovesOne (removeCreatureBy fuel) fuel := by
  induction fuel with
  | zero =>
    intro game exceptions c inv inside enough
    unfold removeCreatureBy
    split_ifs with already
    · refine ⟨inv.weaken ?_, (Shrinks.refl game).toFrame.removes⟩
      rintro one onMap excepted
      refine ⟨excepted, ?_⟩
      rintro rfl
      unfold Creature.onMap at onMap
      simp_all
    · rw [Bool.or_eq_true, not_or] at already
      have empty := Finset.card_eq_zero.mp (Nat.le_zero.mp enough)
      have mem : c ∈ (Finset.range game.next).filter
          fun one => (game.creatures one).isInternalRemoved = false := by
        rw [Finset.mem_filter, Finset.mem_range]
        exact ⟨inside, by simpa using already.1⟩
      rw [empty] at mem
      cases mem
  | succ fuel ih =>
    intro game exceptions c inv inside enough
    unfold removeCreatureBy
    split_ifs with already
    · refine ⟨inv.weaken ?_, (Shrinks.refl game).toFrame.removes⟩
      rintro one onMap excepted
      refine ⟨excepted, ?_⟩
      rintro rfl
      unfold Creature.onMap at onMap
      simp_all
    · have onMap : (game.creatures c).onMap = true := by
        unfold Creature.onMap
        simpa [and_comm] using already
      have before : (game.creatures c).isInternalRemoved = false := by
        simp_all
      obtain ⟨left, frame⟩ := inv.onCreatureDisappear c
      obtain ⟨marked, removes, gone⟩ := left.setRemoved (by
        rw [frame.onMap]
        exact onMap)
      have removesBoth := frame.removes.trans removes
      have fewer := removesBoth.unremoved_lt inside before gone
      obtain ⟨after, removesOn⟩ :=
        marked.removeAll ih
          (fun summon mem =>
            (marked.sound.kept.inside summon c
              ((marked.sound.kept.related summon c).mpr mem)).1)
          (Nat.lt_succ_iff.mp (fewer.trans_le enough))
      exact ⟨after, removesBoth.trans removesOn⟩

section

variable (inv : Inv game)
include inv

lemma Inv.removeCreature (inside : c < game.next) :
  Inv (game.removeCreature c) ∧ Removes game (game.removeCreature c) := by
  have start : InvBut (fun _ => False) game := { inv with }
  obtain ⟨after, removes⟩ :=
    removeCreatureBy_removesOne game.next game _ c start inside (unremoved_le game)
  have fine := after.weaken fun _ _ excepted => excepted.1
  exact ⟨{ fine with }, removes⟩

lemma Inv.removeCreatures (inside : ∀ c ∈ list, c < game.next) :
  Inv (list.foldl Game.removeCreature game) := by
  induction list generalizing game with
  | nil => exact inv
  | cons c list ih =>
    obtain ⟨after, removes⟩ := inv.removeCreature (inside c mem_cons_self)
    refine ih after fun one mem => ?_
    rw [removes.created]
    exact inside one (mem_cons_of_mem c mem)

lemma Inv.onCreatureMove
  (c : Nat) (outOfRange : List Nat) : Inv (game.onCreatureMove c outOfRange) := by
  refine inv.removeCreatures fun one mem => ?_
  have listed : one ∈ game.summonsOf c := (mem_filter.mp mem).1
  exact (inv.sound.kept.listed_exists listed).1

lemma Inv.doDeathDelay (existing : game.exist c) (placed : (game.creatures c).placed = true) :
  Inv (game.doDeathDelay c) := by
  unfold Game.doDeathDelay
  split_ifs with removed
  · exact inv
  · have onMap : (game.creatures c).onMap = true := by
      unfold Creature.onMap
      rw [placed]
      simpa using removed
    obtain ⟨after, created⟩ := inv.onDie onMap
    refine (after.removeCreature ?_).1
    rw [created]
    exact existing.1

end

/-! ## The other operations -/

lemma Sound.releaseAll (sound : Sound pending game) :
  Sound [] (pending.foldl Game.drop game) ∧ Frame game (pending.foldl Game.drop game) := by
  induction pending generalizing game with
  | nil => exact ⟨sound, (Shrinks.refl game).toFrame⟩
  | cons c pending ih =>
    have room : Game.owed pending game c < (game.creatures c).holds := by
      have before := sound.kept.owed c
      unfold Game.owed at before ⊢
      rw [count_cons_self] at before
      omega
    have others :
        ∀ other, other ≠ c → Game.owed pending game other ≤ (game.creatures other).holds := by
      intro other ne
      have before := sound.kept.owed other
      unfold Game.owed at before ⊢
      rwa [count_cons_of_ne (Ne.symm ne)] at before
    obtain ⟨after, frame⟩ := sound.drop room others
    obtain ⟨final, frameOn⟩ := ih after
    exact ⟨final, frame.trans frameOn⟩

variable (inv : Inv game)
include inv

lemma Inv.cleanup : Inv game.cleanup := by
  obtain ⟨sound, frame⟩ := inv.sound.releaseAll
  have cleared : Sound [] game.cleanup :=
    sound.flag rfl rfl (fun _ => rfl) (fun _ => rfl) (fun _ => rfl) (fun _ => rfl)
      (fun _ => rfl) (fun _ same => same) sound.kept.owed
  exact
    { sound := cleared
      attended := fun c m onMap master removed => inv.attended.frame frame c m onMap master removed
      summonPlaced := by
        intro c m master
        refine (frame.placed c).trans ?_
        exact inv.summonPlaced c m (frame.master c m master) }

section

variable (existing : game.exist c)
include existing

lemma Inv.delete (unused : (game.creatures c).useCount = 0) :
  Inv (destroy (releaseThing2 game.next) game c) := by
  have counted := inv.sound.kept.counted c existing.2
  have free : game.getMaster c = none := by
    cases master : game.getMaster c with
    | none => rfl
    | some m =>
      rw [master, unused] at counted
      simp only [fromMaster, isSome_some, if_true] at counted
      omega
  have unheld : (game.creatures c).holds = 0 := by
    simp only [fromMaster, isSome_none, Bool.false_eq_true, if_false] at counted
    omega
  obtain ⟨after, shrinks⟩ :=
    inv.sound.kept.destroy (releaseThing2_releases game.next) existing free unheld
      (Nat.le_succ_of_le (alive_le game))
  rw [shrinks.trim_summonsOf] at after
  have proper := inv.sound.toProper.shrink shrinks
  exact inv.frame shrinks.toFrame { proper with kept := after }

lemma Inv.placeCreature (answer : Bool) : Inv (game.internalPlaceCreature c answer).1 := by
  obtain ⟨sound, masters, removed, placed, toRelease⟩ :=
    inv.sound.internalPlaceCreature existing answer
  exact
    { sound := by
        rw [toRelease]
        exact sound
      attended := by
        intro one m onMap master gone
        rw [masters] at master
        rw [removed] at gone
        refine inv.attended one m ?_ master gone
        unfold Creature.onMap at onMap ⊢
        rw [removed, Bool.and_eq_true] at onMap
        rw [inv.summonPlaced one m master, Bool.true_and]
        exact onMap.2
      summonPlaced := by
        intro one m master
        rw [masters] at master
        rw [placed]
        split_ifs
        · rfl
        · exact inv.summonPlaced one m master }

lemma Inv.hold : Inv (game.hold c) := by
  obtain ⟨sound, frame, -⟩ := inv.sound.hold existing
  exact inv.frame frame sound

lemma Inv.spawnMonster :
  Inv ((game.hold c).modify c fun creature => { creature with spawned := true }) := by
  obtain ⟨held, frame, room⟩ := inv.sound.hold existing
  let next := (game.hold c).modify c fun creature => { creature with spawned := true }
  have masters : ∀ one, next.getMaster one = (game.hold c).getMaster one :=
    modify_field Creature.master rfl
  have summons : ∀ one, next.summonsOf one = (game.hold c).summonsOf one :=
    modify_field Creature.summons rfl
  have onMap : ∀ one, (next.creatures one).onMap = ((game.hold c).creatures one).onMap :=
    modify_field Creature.onMap rfl
  have marked : Frame (game.hold c) next := modify_frame rfl rfl rfl rfl
  refine inv.frame (frame.trans marked) ?_
  refine held.flag rfl rfl masters (modify_field Creature.useCount rfl)
    (modify_field Creature.holds rfl) (modify_field Creature.deleted rfl) summons
    (fun one before => (marked.placed one).trans before) ?_
  intro one
  have before := held.kept.owed one
  by_cases itself : one = c
  · subst itself
    unfold Game.owed at room ⊢
    rw [onMap]
    split_ifs at room ⊢ <;> omega
  · unfold Game.owed at before ⊢
    rw [modify_other _ itself]
    exact before

end

lemma Inv.changeHealth (c : Nat) (healthChange : Int) :
  Inv (game.modify c fun creature => creature.changeHealth healthChange) := by
  let next := game.modify c fun creature => creature.changeHealth healthChange
  have frame : Frame game next := modify_frame rfl rfl rfl rfl
  have masters : ∀ one, next.getMaster one = game.getMaster one := modify_field Creature.master rfl
  have summons : ∀ one, next.summonsOf one = game.summonsOf one :=
    modify_field Creature.summons rfl
  have spawned : ∀ one, (next.creatures one).spawned = (game.creatures one).spawned :=
    modify_field Creature.spawned rfl
  refine inv.frame frame ?_
  refine inv.sound.flag rfl rfl masters (modify_field Creature.useCount rfl)
    (modify_field Creature.holds rfl) (modify_field Creature.deleted rfl) summons
    (fun one before => (frame.placed one).trans before) ?_
  intro one
  have before := inv.sound.kept.owed one
  unfold Game.owed at before ⊢
  rw [frame.onMap, spawned]
  exact before

lemma Inv.create (kind : CreatureKind) : Inv (game.create kind) := by
  obtain ⟨sound, masters, other⟩ := inv.sound.create kind
  have inside : ∀ {c m}, (game.create kind).getMaster c = some m →
      game.getMaster c = some m ∧ c ≠ game.next ∧ m ≠ game.next := by
    intro c m master
    rw [masters] at master
    obtain ⟨low, high⟩ := inv.sound.kept.inside c m master
    exact ⟨master, low.ne, high.ne⟩
  exact
    { sound := sound
      attended := by
        intro c m onMap master removed
        obtain ⟨before, low, high⟩ := inside master
        rw [other c low] at onMap
        rw [other m high] at removed
        exact inv.attended c m onMap before removed
      summonPlaced := by
        intro c m master
        obtain ⟨before, low, -⟩ := inside master
        rw [other c low]
        exact inv.summonPlaced c m before }

lemma Inv.step {operation : Operation} (attends : game.Attends operation) :
  Inv (game.step operation) := by
  unfold Game.step
  split_ifs with enabled
  · cases operation with
    | create kind => exact inv.create kind
    | delete c => exact inv.delete enabled.1 enabled.2.2
    | placeCreature c answer => exact inv.placeCreature enabled answer
    | spawnMonster c => exact inv.spawnMonster enabled.1
    | checkSpawn c => exact inv.removeMonster c
    | useThing2 c => exact inv.hold enabled
    | releaseThing2 c =>
      obtain ⟨sound, frame⟩ := inv.sound.drop enabled.2 fun other _ => inv.sound.kept.owed other
      exact inv.frame frame sound
    | changeHealth c healthChange => exact inv.changeHealth c healthChange
    | summon m answer => exact inv.summon enabled.1 enabled.2 attends answer
    | doConvinceCreature cid target convinceable =>
      show Inv (if _ then _ else _)
      split_ifs with both
      · rw [Bool.and_eq_true] at both
        exact inv.convinceCreature both.2 both.1 convinceable
      · exact inv
    | doDeathDelay c => exact inv.doDeathDelay enabled.1 enabled.2
    | removeCreature c => exact (inv.removeCreature enabled.1).1
    | onCreatureMove c outOfRange => exact inv.onCreatureMove c outOfRange
    | cleanup => exact inv.cleanup
  · exact inv

end Operations

lemma initial_inv : Inv initial where
  sound :=
    { buried := fun _ _ => rfl
      grounded := Grounded.none
      masterPlaced := fun _ _ master => nomatch master
      ended := rfl
      kept :=
        { related := fun _ _ => ⟨fun master => (nomatch master), fun mem => nomatch mem⟩
          nodup := fun _ => nodup_nil
          inside := fun _ _ master => nomatch master
          counted := fun _ _ => rfl
          gone := fun _ _ => ⟨rfl, rfl⟩
          owed := fun _ => Nat.le_refl 0
          settled := fun _ _ _ => rfl
          fresh := fun _ _ => rfl
          unheld := fun _ _ => rfl } }
  attended := fun _ _ onMap => nomatch onMap
  summonPlaced := fun _ _ master => nomatch master

lemma Inv.agree {game : Game} (inv : Inv game) : Agree game where
  related := inv.sound.kept.related
  once := inv.sound.kept.nodup
  counted c existing := inv.sound.kept.counted c existing.2
  existing := by
    intro c m master
    have member := (inv.sound.kept.related c m).mp master
    refine ⟨inv.sound.kept.listed_exists member, ?_⟩
    refine ⟨(inv.sound.kept.inside c m master).2, ?_⟩
    by_contra deleted
    rw [inv.sound.buried m (by simpa using deleted)] at member
    cases member
  attended := by
    intro c m onMap master
    by_contra removed
    exact inv.attended c m onMap master (by simpa using removed)
  killedEnds := by
    intro c
    induction c using inv.sound.grounded.induction with
    | h c ih =>
      cases master : (game.creatures c).master with
      | none =>
        refine ⟨1, ?_⟩
        rw [onKilledCreature, master]
        rfl
      | some m =>
        obtain ⟨fuel, ends⟩ := ih m master
        refine ⟨fuel + 1, ?_⟩
        rw [onKilledCreature, master, isSome_map]
        exact ends
  gainEnds := by
    intro c
    induction c using inv.sound.grounded.induction with
    | h c ih =>
      intro gainExp
      cases master : (game.creatures c).master with
      | none =>
        refine ⟨1, ?_⟩
        rw [onGainExperience, master]
        split_ifs <;> rfl
      | some m =>
        obtain ⟨fuel, ends⟩ := ih m master (gainExp / 2)
        refine ⟨fuel + 1, ?_⟩
        rw [onGainExperience, master]
        split_ifs
        · rw [isSome_map]
          exact ends
        · rfl
  ended := inv.sound.ended

/-- While nobody is summoned for a removed creature, masters and summons agree. -/
theorem agree_of_attends {game : Game}
  (run : Reaches (fun game operation next => next = game.step operation) Attends initial game) :
  game.Agree := by
  refine Inv.agree (run.invariant initial_inv ?_)
  rintro state operation _ inv attends rfl
  exact inv.step attends

instance (game : Game) (operation : Operation) : Decidable (game.Attends operation) :=
  match operation with
  | .summon _ _ => inferInstanceAs (Decidable (_ = _))
  | .create _ | .delete _ | .placeCreature _ _ | .spawnMonster _ | .checkSpawn _
  | .useThing2 _ | .releaseThing2 _ | .changeHealth _ _ | .doConvinceCreature _ _ _
  | .doDeathDelay _ | .removeCreature _ | .onCreatureMove _ _ | .cleanup => isTrue trivial

/--
A monster has summoned another, which convinces a third one and then its own master;
the master dies, and what is left is freed.
-/
def convincedMaster : List Operation :=
  [.create .monster, .placeCreature 0 true, .spawnMonster 0, .summon 0 true,
    .summon 0 false, .create .monster, .placeCreature 3 true,
    .doConvinceCreature 1 3 true, .doConvinceCreature 1 0 true, .doDeathDelay 1, .cleanup,
    .removeCreature 0, .cleanup]

theorem convincedMaster_agree :
  (convincedMaster.foldl step initial).Agree ∧
    ((convincedMaster.foldl step initial).creatures 1).deleted = true ∧
    ((convincedMaster.foldl step initial).creatures 3).health = 0 :=
  ⟨agree_of_attends (Reaches.refl.of_allowed convincedMaster (by decide +kernel)),
    by decide +kernel, by decide +kernel⟩

/--
A monster of a spawn is removed by the script of a spell which it casts in its defence,
and goes on to its summons.
-/
def selfRemoval : List Operation :=
  [.create .monster, .placeCreature 0 true, .spawnMonster 0, .removeCreature 0, .summon 0 true]

/-- The summon stands on the map with a removed master. -/
theorem selfRemoval_leaves_summon :
  ¬ ∀ game : Game,
    Reaches (fun game operation next => next = game.step operation) Always initial
      game →
      game.Agree := by
  intro always
  have agree := always _ (Reaches.of_list initial selfRemoval)
  have attended := agree.attended 1 0 (by decide +kernel) (by decide +kernel)
  revert attended
  decide +kernel

end Game

end OTServ.Monsters.Summons
