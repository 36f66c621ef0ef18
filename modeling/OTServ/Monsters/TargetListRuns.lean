import OTServ.Library.GuardedRuns
import OTServ.Monsters.TargetLists

/-!
# Runs of a monster

In every run the lists hold one reference for each entry, have no creature
twice, and never the monster itself.  A creature that leaves is dropped as long
as it passes, when it leaves, the tests of the lists in which it is, and the
monster is told about it.
-/

namespace OTServ.Monsters

open Library.GuardedRuns
open Map
open Spectators
open List Function Option

/-! ## One reference for each entry -/

namespace Lists

variable {lists : Lists} {creature other : Nat}

/-- No creature is in a list twice, and each entry has one reference. -/
structure Sound (lists : Lists) : Prop where
  friends : lists.friendList.Nodup
  targets : lists.targetList.Nodup
  references :
    ∀ creature,
      lists.references creature = lists.friendList.count creature + lists.targetList.count creature

lemma Sound.findFriend
  (sound : Sound lists) (creature : Nat) : Sound (lists.findFriend creature) := by
  rw [Lists.findFriend]
  split
  · exact sound
  · rename_i absent
    refine ⟨?_, sound.targets, ?_⟩
    · apply nodup_append.mpr
      refine ⟨sound.friends, nodup_singleton creature, ?_⟩
      rintro known listed new added rfl
      rw [mem_singleton.mp added] at listed
      exact absent listed
    · intro other
      have before := sound.references other
      simp only [use, count_append, count_singleton]
      by_cases same : other = creature
      · subst same
        simp only [update_self, beq_self_eq_true, if_true]
        omega
      · have ne : (creature == other) = false := beq_false_of_ne (Ne.symm same)
        simp only [update_of_ne same, ne]
        simp only [Bool.false_eq_true, if_false]
        omega

lemma Sound.findTarget (sound : Sound lists) (creature : Nat) (pushFront : Bool) :
  Sound (lists.findTarget creature pushFront) := by
  rw [Lists.findTarget]
  split
  · exact sound
  · rename_i absent
    have perm :
        (if pushFront then creature :: lists.targetList
          else lists.targetList ++ [creature]).Perm
          (creature :: lists.targetList) := by
      split
      · exact List.Perm.refl _
      · exact perm_append_comm
    refine ⟨sound.friends, ?_, ?_⟩
    · exact perm.nodup_iff.mpr (nodup_cons.mpr ⟨absent, sound.targets⟩)
    · intro other
      have before := sound.references other
      rw [perm.count_eq, count_cons, use]
      by_cases same : other = creature
      · subst same
        simp only [update_self, beq_self_eq_true, if_true]
        omega
      · have ne : (creature == other) = false := beq_false_of_ne (Ne.symm same)
        simp only [update_of_ne same, ne]
        simp only [Bool.false_eq_true, if_false]
        omega

lemma count_erase_release
  {list : List Nat} (mem : creature ∈ list) (references : Nat → Int) (other : Nat) :
  update references creature (references creature - 1) other -
      (list.erase creature).count other =
    references other - list.count other := by
  have positive : 0 < list.count creature := count_pos_iff.mpr mem
  by_cases same : other = creature
  · subst same
    rw [update_self, count_erase_self]
    omega
  · rw [update_of_ne same, count_erase_of_ne same]

lemma Sound.dropFriend
  (sound : Sound lists) (creature : Nat) : Sound (lists.dropFriend creature) := by
  rw [Lists.dropFriend]
  split
  · rename_i mem
    refine ⟨sound.friends.erase creature, sound.targets, ?_⟩
    intro other
    have before := sound.references other
    have erased := count_erase_release mem lists.references other
    simp only [release]
    omega
  · exact sound

lemma Sound.dropTarget
  (sound : Sound lists) (creature : Nat) : Sound (lists.dropTarget creature) := by
  rw [Lists.dropTarget]
  split
  · rename_i mem
    refine ⟨sound.friends, sound.targets.erase creature, ?_⟩
    intro other
    have before := sound.references other
    have erased := count_erase_release mem lists.references other
    simp only [release]
    omega
  · exact sound

lemma Sound.followComplete
  (sound : Sound lists) (creature : Nat) (hasFollowPath isSummon : Bool) :
  Sound (lists.followComplete creature hasFollowPath isSummon) := by
  rw [Lists.followComplete]
  split
  · rename_i mem
    have perm := perm_cons_erase mem
    have nodup := perm.nodup_iff.mp sound.targets
    have kept : ∀ list : List Nat,
        list.Perm (creature :: lists.targetList.erase creature) →
          Sound { lists with targetList := list } := by
      intro list same
      refine ⟨sound.friends, same.nodup_iff.mpr nodup, ?_⟩
      intro other
      rw [same.count_eq, ← perm.count_eq]
      exact sound.references other
    split
    · exact kept _ (List.Perm.refl _)
    · split
      · exact kept _ perm_append_comm
      · have dropped := sound.dropTarget creature
        rw [Lists.dropTarget, if_pos mem] at dropped
        exact dropped
  · exact sound

lemma releaseAll_lists (creatures : List Nat) :
  (lists.releaseAll creatures).friendList = lists.friendList ∧
    (lists.releaseAll creatures).targetList = lists.targetList := by
  rw [releaseAll]
  induction creatures generalizing lists with
  | nil => exact ⟨rfl, rfl⟩
  | cons creature rest ih =>
    have further :
        (rest.foldl release (lists.release creature)).friendList =
            (lists.release creature).friendList ∧
          (rest.foldl release (lists.release creature)).targetList =
            (lists.release creature).targetList :=
      ih
    exact further

lemma releaseAll_references (creatures : List Nat) (other : Nat) :
  (lists.releaseAll creatures).references other =
    lists.references other - creatures.count other := by
  rw [releaseAll]
  induction creatures generalizing lists with
  | nil => simp
  | cons creature rest ih =>
    have further :
        (rest.foldl release (lists.release creature)).references other =
          (lists.release creature).references other - rest.count other :=
      ih
    rw [foldl_cons, further, release, count_cons]
    by_cases same : other = creature
    · subst same
      simp only [update_self, beq_self_eq_true, if_true]
      omega
    · have ne : (creature == other) = false := beq_false_of_ne (Ne.symm same)
      simp only [update_of_ne same, ne]
      simp

lemma count_filter_not (keeps : Nat → Bool) (list : List Nat) (other : Nat) :
  (list.filter keeps).count other + (list.filter (!keeps ·)).count other = list.count other := by
  induction list with
  | nil => rfl
  | cons creature rest ih =>
    cases kept : keeps creature <;>
      simp only [filter_cons, kept, Bool.not_true, Bool.not_false,
        Bool.false_eq_true, if_true, if_false, count_cons] <;>
      omega

lemma Sound.sweep (sound : Sound lists) (keeps : Nat → Bool) : Sound (lists.sweep keeps) := by
  refine ⟨?_, ?_, ?_⟩
  · show (releaseAll _ _).friendList.Nodup
    rw [(releaseAll_lists _).1]
    exact sound.friends.filter _
  · exact sound.targets.filter _
  · intro other
    have before := sound.references other
    have friends := count_filter_not keeps lists.friendList other
    have targets := count_filter_not keeps lists.targetList other
    show (releaseAll _ _).references other =
      (((releaseAll _ _).friendList.count other : Nat) : Int) +
        ((lists.targetList.filter keeps).count other : Nat)
    rw [releaseAll_references, (releaseAll_lists _).1]
    show (releaseAll _ _).references other - _ =
      (((lists.friendList.filter keeps).count other : Nat) : Int) + _
    rw [releaseAll_references]
    omega

lemma Sound.clear (sound : Sound lists) : Sound lists.clear := by
  refine ⟨nodup_nil, ?_, ?_⟩
  · show (releaseAll _ _).targetList.Nodup
    rw [(releaseAll_lists _).2]
    exact nodup_nil
  · intro other
    have before := sound.references other
    show (releaseAll _ _).references other =
      ((([] : List Nat).count other : Nat) : Int) + ((releaseAll _ _).targetList.count other : Nat)
    rw [releaseAll_references, (releaseAll_lists _).2]
    rw [releaseAll_references]
    simp only [count_nil]
    omega

/-! ## What is in the lists -/

lemma has_findFriend (has : (lists.findFriend creature).Has other) :
  lists.Has other ∨ other = creature := by
  rw [findFriend] at has
  split at has
  · exact .inl has
  · rcases has with friend | target
    · rcases mem_append.mp friend with old | new
      · exact .inl (.inl old)
      · exact .inr (mem_singleton.mp new)
    · exact .inl (.inr target)

lemma has_findTarget {pushFront : Bool} (has : (lists.findTarget creature pushFront).Has other) :
  lists.Has other ∨ other = creature := by
  rw [findTarget] at has
  split at has
  · exact .inl has
  · rcases has with friend | target
    · exact .inl (.inl friend)
    · have mem : other ∈ creature :: lists.targetList := by
        cases pushFront with
        | true => exact target
        | false => exact perm_append_comm.mem_iff.mp target
      rcases mem_cons.mp mem with same | old
      · exact .inr same
      · exact .inl (.inr old)

lemma dropFriend_spec (sound : Sound lists) (creature : Nat) :
  creature ∉ (lists.dropFriend creature).friendList ∧
    (lists.dropFriend creature).targetList = lists.targetList ∧
      ∀ other, (lists.dropFriend creature).Has other → lists.Has other := by
  rw [dropFriend]
  split
  · refine ⟨sound.friends.not_mem_erase, rfl, ?_⟩
    rintro other (friend | target)
    · exact .inl (mem_of_mem_erase friend)
    · exact .inr target
  · rename_i absent
    exact ⟨absent, rfl, fun _ has => has⟩

lemma dropTarget_spec (sound : Sound lists) (creature : Nat) :
  creature ∉ (lists.dropTarget creature).targetList ∧
    (lists.dropTarget creature).friendList = lists.friendList ∧
      ∀ other, (lists.dropTarget creature).Has other → lists.Has other := by
  rw [dropTarget]
  split
  · refine ⟨sound.targets.not_mem_erase, rfl, ?_⟩
    rintro other (friend | target)
    · exact .inl friend
    · exact .inr (mem_of_mem_erase target)
  · rename_i absent
    exact ⟨absent, rfl, fun _ has => has⟩

lemma has_followComplete {hasFollowPath isSummon : Bool}
  (has : (lists.followComplete creature hasFollowPath isSummon).Has other) :
  lists.Has other := by
  rw [followComplete] at has
  split at has
  · rename_i mem
    have back : other ∈ creature :: lists.targetList.erase creature → lists.Has other := by
      intro listed
      exact .inr ((perm_cons_erase mem).mem_iff.mpr listed)
    split at has
    · rcases has with friend | target
      · exact .inl friend
      · exact back target
    · split at has
      · rcases has with friend | target
        · exact .inl friend
        · exact back (perm_append_comm.mem_iff.mp target)
      · rcases has with friend | target
        · exact .inl friend
        · exact .inr (mem_of_mem_erase target)
  · exact has

lemma has_sweep {keeps : Nat → Bool} (has : (lists.sweep keeps).Has other) :
  lists.Has other ∧ keeps other = true := by
  rcases has with friend | target
  · have mem : other ∈ lists.friendList.filter keeps := by
      have friend' : other ∈ (releaseAll _ _).friendList := friend
      rw [(releaseAll_lists _).1] at friend'
      exact friend'
    rcases mem_filter.mp mem with ⟨listed, kept⟩
    exact ⟨.inl listed, kept⟩
  · rcases mem_filter.mp target with ⟨listed, kept⟩
    exact ⟨.inr listed, kept⟩

lemma not_has_clear : ¬ lists.clear.Has other := by
  rintro (friend | target)
  · cases friend
  · have mem : other ∈ (releaseAll _ _).targetList := target
    rw [(releaseAll_lists _).2] at mem
    cases mem

end Lists

/-! ## What the monster does when it is told -/

variable {before after : State}

namespace State

variable {self : Nat} {state next : State} {creature other : Nat}

structure SameWorld (before after : State) : Prop where
  creature : after.creature = before.creature
  present : after.present = before.present
  isPartner : after.isPartner = before.isPartner

lemma SameWorld.refl (state : State) : SameWorld state state :=
  ⟨rfl, rfl, rfl⟩

lemma SameWorld.trans {first second third : State} (early : SameWorld first second)
  (late : SameWorld second third) : SameWorld first third :=
  ⟨late.creature.trans early.creature, late.present.trans early.present,
    late.isPartner.trans early.isPartner⟩

lemma SameWorld.sees (same : SameWorld before after) (self other : Nat) :
  after.sees self other = before.sees self other := by
  rw [State.sees, State.sees, position, position, same.creature]

lemma onCreatureFound_spec (self : Nat) (state : State) (creature : Nat) (pushFront : Bool)
  (sound : state.toLists.Sound) :
  SameWorld state (state.onCreatureFound self creature pushFront) ∧
    (state.onCreatureFound self creature pushFront).toLists.Sound ∧
      ∀ other,
        (state.onCreatureFound self creature pushFront).Has other →
          state.Has other ∨ other = creature := by
  rw [onCreatureFound]
  have friend : ∀ found,
      found =
          (if state.isFriend self creature then
            state.withLists (state.findFriend creature)
          else state) →
        SameWorld state found ∧ found.toLists.Sound ∧
          ∀ other, found.Has other → state.Has other ∨ other = creature := by
    rintro found rfl
    split
    · exact ⟨⟨rfl, rfl, rfl⟩, sound.findFriend creature, fun _ has => Lists.has_findFriend has⟩
    · exact ⟨.refl state, sound, fun _ has => .inl has⟩
  rcases friend _ rfl with ⟨world, sound', has'⟩
  split
  · refine ⟨world.trans ⟨rfl, rfl, rfl⟩, sound'.findTarget creature pushFront, ?_⟩
    intro other has
    rcases Lists.has_findTarget has with old | new
    · exact has' other old
    · exact .inr new
  · exact ⟨world, sound', has'⟩

/-- The creature passes the tests of the lists in which it is. -/
def Agrees (self : Nat) (state : State) (creature : Nat) : Prop :=
  (creature ∈ state.friendList → state.isFriend self creature = true) ∧
    (creature ∈ state.targetList → state.isOpponent self creature = true)

lemma onCreatureLeave_spec
  (self : Nat) (state : State) (creature : Nat) (sound : state.toLists.Sound) :
  SameWorld state (state.onCreatureLeave self creature) ∧
    (state.onCreatureLeave self creature).toLists.Sound ∧
      (∀ other,
        (state.onCreatureLeave self creature).Has other → state.Has other) ∧
        (Agrees self state creature → ¬ (state.onCreatureLeave self creature).Has creature) := by
  rw [onCreatureLeave]
  have friend : ∀ left,
      left =
          (if state.isFriend self creature then
            state.withLists (state.dropFriend creature)
          else state) →
        SameWorld state left ∧ left.toLists.Sound ∧
          (∀ other, left.Has other → state.Has other) ∧
            left.targetList = state.targetList ∧
              (Agrees self state creature → creature ∉ left.friendList) := by
    rintro left rfl
    have dropped := Lists.dropFriend_spec sound creature
    split
    · exact ⟨⟨rfl, rfl, rfl⟩, sound.dropFriend creature, dropped.2.2,
        dropped.2.1, fun _ => dropped.1⟩
    · rename_i stranger
      exact ⟨.refl state, sound, fun _ has => has, rfl,
        fun agrees listed => stranger (agrees.1 listed)⟩
  rcases friend _ rfl with ⟨world, sound', has', targets, gone⟩
  have dropped := Lists.dropTarget_spec sound' creature
  split
  · refine ⟨world.trans ⟨rfl, rfl, rfl⟩, sound'.dropTarget creature, ?_, ?_⟩
    · exact fun other has => has' other (dropped.2.2 other has)
    · rintro agrees (friend | target)
      · have listed : creature ∈ (Lists.dropTarget _ creature).friendList := friend
        rw [dropped.2.1] at listed
        exact gone agrees listed
      · exact dropped.1 target
  · rename_i harmless
    refine ⟨world, sound', has', ?_⟩
    rintro agrees (friend | target)
    · exact gone agrees friend
    · rw [targets] at target
      exact harmless (agrees.2 target)

lemma updateTargetList_spec (self : Nat) (state : State) (sound : state.toLists.Sound) :
  SameWorld state (state.updateTargetList self) ∧
    (state.updateTargetList self).toLists.Sound ∧
      ∀ other,
        (state.updateTargetList self).Has other →
          state.sees self other = true ∧ (state.Has other ∨ other ≠ self) := by
  rw [updateTargetList]
  have looking : ∀ (spectators : List Nat) (seen : State),
      SameWorld state seen → seen.toLists.Sound →
        (∀ other,
          seen.Has other → state.sees self other = true ∧ (state.Has other ∨ other ≠ self)) →
          let found :=
            spectators.foldl
              (fun state creature =>
                if creature ≠ self && state.sees self creature then
                  state.onCreatureFound self creature false
                else state)
              seen
          SameWorld state found ∧ found.toLists.Sound ∧
            ∀ other,
              found.Has other →
                state.sees self other = true ∧ (state.Has other ∨ other ≠ self) := by
    intro spectators
    induction spectators with
    | nil => exact fun seen world sound has => ⟨world, sound, has⟩
    | cons creature rest ih =>
      intro seen world sound has
      rw [foldl_cons]
      apply ih
      · split
        · exact world.trans (onCreatureFound_spec self seen creature false sound).1
        · exact world
      · split
        · exact (onCreatureFound_spec self seen creature false sound).2.1
        · exact sound
      · intro other listed
        split at listed
        · rename_i visible
          have both := (Bool.and_eq_true _ _).mp visible
          rcases (onCreatureFound_spec self seen creature false sound).2.2
              other listed with old | rfl
          · exact has other old
          · refine ⟨?_, .inr (of_decide_eq_true both.1)⟩
            rw [← world.sees]
            exact both.2
        · exact has other listed
  apply looking
  · exact ⟨rfl, rfl, rfl⟩
  · exact sound.sweep _
  · intro other listed
    rcases Lists.has_sweep listed with ⟨had, kept⟩
    refine ⟨?_, .inl had⟩
    simp only [Bool.not_eq_true', Bool.or_eq_false_iff, Bool.not_eq_false'] at kept
    exact kept.2

lemma inRange_of_canSee {myPos pos : Position} (floor : pos.z < 16)
  (visible : canSee myPos pos = true) : Map.inRange pos myPos (Map.cachedRange pos) = true := by
  simp only [canSee, creatureCanSee, Bool.and_eq_true, decide_eq_true_eq] at visible
  rcases visible with ⟨sameFloor, ⟨⟨⟨_, minX⟩, maxX⟩, minY⟩, maxY⟩
  have level := congrArg UInt16.toNat sameFloor
  have below : pos.z.toNat < 16 := UInt16.lt_iff_toNat_lt.mp floor
  rw [sameFloor, sub_self, UInt32.le_iff_toNat_le] at minX maxX minY maxY
  simp only [add_zero, UInt32.toNat_sub, UInt32.toNat_add,
    UInt16.toNat_toUInt32, UInt32.toNat_ofNat] at minX maxX minY maxY
  have myX := myPos.x.toNat_lt
  have myY := myPos.y.toNat_lt
  simp only [Map.inRange, Map.cachedRange, Map.queryRange, Map.floors,
    Map.maxViewport, if_true, Bool.and_eq_true, Bool.not_eq_true',
    Bool.or_eq_false_iff, decide_eq_false_iff_not, not_lt]
  refine ⟨⟨⟨?_, ?_⟩, ?_, ?_⟩, ?_, ?_⟩
  · split_ifs <;> omega
  · split_ifs <;> omega
  all_goals omega

/-! ## Events -/

structure SameView (before after : State) : Prop where
  present : after.present = before.present
  position : ∀ creature, (after.creature creature).position = (before.creature creature).position
  placed : ∀ creature, (after.creature creature).placed = (before.creature creature).placed

lemma SameView.refl (state : State) : SameView state state :=
  ⟨rfl, fun _ => rfl, fun _ => rfl⟩

lemma SameView.trans {first second third : State} (early : SameView first second)
  (late : SameView second third) : SameView first third where
  present := late.present.trans early.present
  position creature := (late.position creature).trans (early.position creature)
  placed creature := (late.placed creature).trans (early.placed creature)

lemma SameWorld.view (same : SameWorld before after) : SameView before after where
  present := same.present
  position creature := by rw [same.creature]
  placed creature := by rw [same.creature]

lemma SameView.sees (same : SameView before after) (self other : Nat) :
  after.sees self other = before.sees self other := by
  rw [State.sees, State.sees, State.position, State.position,
    same.position self, same.position other]

lemma setCreature_view
  {value : Creature} (position : value.position = (state.creature creature).position)
  (placed : value.placed = (state.creature creature).placed) :
  SameView state (state.setCreature creature value) := by
  refine ⟨rfl, ?_, ?_⟩
  · intro other
    by_cases same : other = creature
    · subst same
      simp only [setCreature, update_self]
      exact position
    · simp only [setCreature, update_of_ne same]
  · intro other
    by_cases same : other = creature
    · subst same
      simp only [setCreature, update_self]
      exact placed
    · simp only [setCreature, update_of_ne same]

lemma destroySummons_view (state : State) (creature : Nat) :
  SameView state (state.destroySummons creature) := by
  refine ⟨rfl, ?_, ?_⟩
  · intro other
    simp only [destroySummons]
    split <;> rfl
  · intro other
    simp only [destroySummons]
    split <;> rfl

lemma leaveMaster_view (state : State) (creature : Nat) :
  SameView state (state.leaveMaster creature) ∧
    (state.leaveMaster creature).toLists = state.toLists := by
  rw [leaveMaster]
  split
  · split
    · exact ⟨setCreature_view rfl rfl, rfl⟩
    · exact ⟨.refl state, rfl⟩
  · exact ⟨.refl state, rfl⟩

structure Tidy (monster : Nat) (state : State) : Prop where
  sound : state.toLists.Sound
  others : ¬ state.Has monster
  floors : ∀ creature ∈ state.present, (state.creature creature).position.z < 16
  placed : ∀ creature ∈ state.present, (state.creature creature).placed = true

/--
The creature leaves the view of the monster, or the game, while the monster is
there.
-/
def Departs (self : Nat) (before after : State) (creature : Nat) : Prop :=
  self ∈ before.present ∧ self ∈ after.present ∧
    creature ∈ before.present ∧
      (creature ∉ after.present ∨
        before.sees self creature = true ∧ after.sees self creature = false)

def Drops (self : Nat) (before after : State) : Prop :=
  ∀ creature, before.Has creature → after.Has creature → ¬ Departs self before after creature

lemma SameView.drops (same : SameView before after) (self : Nat) : Drops self before after := by
  rintro creature _ _ ⟨_, _, there, gone | ⟨seen, hidden⟩⟩
  · rw [same.present] at gone
    exact gone there
  · rw [same.sees, seen] at hidden
    cases hidden

lemma Tidy.of_view (tidy : Tidy self before) (same : SameView before after)
  (sound : after.toLists.Sound) (others : after.Has self → before.Has self) :
  Tidy self after where
  sound := sound
  others has := tidy.others (others has)
  floors creature listed := by
    rw [same.present] at listed
    rw [same.position]
    exact tidy.floors creature listed
  placed creature listed := by
    rw [same.present] at listed
    rw [same.placed]
    exact tidy.placed creature listed

section

variable (tidy : Tidy self state)
include tidy

lemma Tidy.updateTargetList :
  Tidy self (state.updateTargetList self) ∧ SameView state (state.updateTargetList self) := by
  rcases updateTargetList_spec self state tidy.sound with ⟨world, sound, has⟩
  refine ⟨tidy.of_view world.view sound ?_, world.view⟩
  intro listed
  rcases (has self listed).2 with old | impossible
  · exact old
  · exact absurd rfl impossible

lemma Tidy.onCreatureEnter (other : creature ≠ self) :
  Tidy self (state.onCreatureEnter self creature) ∧
    SameView state (state.onCreatureEnter self creature) := by
  rcases onCreatureFound_spec self state creature true tidy.sound with ⟨world, sound, has⟩
  refine ⟨tidy.of_view world.view sound ?_, world.view⟩
  intro listed
  rcases has self listed with old | same
  · exact old
  · exact absurd same.symm other

lemma appear_tidy
  {position : Position} (done : state.appear self creature position = some next) :
  Tidy self next ∧ Drops self state next := by
  simp only [appear] at done
  split at done
  · cases done
  · rename_i possible
    rw [Bool.or_eq_true, not_or] at possible
    rcases possible with ⟨new, floor⟩
    have absent : creature ∉ state.present := fun listed => new (tidy.placed creature listed)
    have below : position.z < 16 := by
      rw [decide_eq_true_eq] at floor
      exact UInt16.not_le.mp floor
    -- the state before the monster is told
    have placed : ∀ added,
        added =
            { state.setCreature creature
                { state.creature creature with
                  position := position
                  placed := true } with
              present := state.present ++ [creature] } →
          Tidy self added ∧
            (∀ other,
              other ≠ creature → (added.creature other) = state.creature other) ∧
              (∀ other, other ∈ state.present → other ∈ added.present) := by
      rintro added rfl
      have kept : ∀ other,
          other ≠ creature →
            (state.setCreature creature
                { state.creature creature with
                  position := position
                  placed := true }).creature other =
              state.creature other :=
        fun other ne => update_of_ne ne _ _
      refine ⟨⟨tidy.sound, tidy.others, ?_, ?_⟩, kept,
        fun other listed => mem_append_left _ listed⟩
      · intro other listed
        rcases mem_append.mp listed with old | added
        · have ne : other ≠ creature := by
            rintro rfl
            exact absent old
          rw [kept other ne]
          exact tidy.floors other old
        · rw [mem_singleton.mp added]
          simp only [setCreature, update_self]
          exact below
      · intro other listed
        rcases mem_append.mp listed with old | added
        · have ne : other ≠ creature := by
            rintro rfl
            exact absent old
          rw [kept other ne]
          exact tidy.placed other old
        · rw [mem_singleton.mp added]
          simp only [setCreature, update_self]
    rcases placed _ rfl with ⟨tidy', kept, more⟩
    have result : ∀ after,
        Tidy self after →
          SameView
              { state.setCreature creature
                  { state.creature creature with
                    position := position
                    placed := true } with
                present := state.present ++ [creature] } after →
            Tidy self after ∧ Drops self state after := by
      intro after tidyAfter view
      refine ⟨tidyAfter, ?_⟩
      rintro other _ _ ⟨here, _, there, gone | ⟨seen, hidden⟩⟩
      · rw [view.present] at gone
        exact gone (more other there)
      · have ne : ∀ known, known ∈ state.present → known ≠ creature := by
          rintro known listed rfl
          exact absent listed
        rw [view.sees, sees, State.position, kept other (ne other
          there), kept self (ne self here)] at hidden
        rw [sees, State.position] at seen
        rw [seen] at hidden
        cases hidden
    cases done
    split
    · exact result _ tidy'.updateTargetList.1 tidy'.updateTargetList.2
    · rename_i other
      split
      · exact result _ (tidy'.onCreatureEnter other).1 (tidy'.onCreatureEnter other).2
      · exact result _ tidy' (.refl _)

end

/-- What a monster has to be told, and to find, when a creature is removed. -/
def NoticesRemoval (self : Nat) (state : State) (creature : Nat) (selfFirst : Bool) : Prop :=
  state.told self (state.creature creature).position = true ∧
    Agrees self (state.gone creature selfFirst) creature

lemma disappear_tidy {selfFirst : Bool} (tidy : Tidy self state)
  (done : state.disappear self creature selfFirst = some next) :
  Tidy self next ∧
    ((self ∈ state.present → state.Has creature →
        NoticesRemoval self state creature selfFirst) →
      Drops self state next) := by
  simp only [disappear] at done
  split at done
  · rename_i listed
    have removed : ∀ left,
        left = { state with present := state.present.erase creature } → Tidy self left := by
      rintro left rfl
      exact ⟨tidy.sound, tidy.others,
        fun other there => tidy.floors other (mem_of_mem_erase there),
        fun other there => tidy.placed other (mem_of_mem_erase there)⟩
    have gone :
        Tidy self (state.gone creature selfFirst) ∧
          (state.gone creature selfFirst).toLists = state.toLists ∧
            SameView { state with present := state.present.erase creature }
              (state.gone creature selfFirst) := by
      rw [State.gone]
      have left := leaveMaster_view { state with present := state.present.erase creature } creature
      split
      · refine ⟨(removed _ rfl).of_view left.1 ?_ ?_, left.2, left.1⟩
        · rw [left.2]
          exact tidy.sound
        · rw [left.2]
          exact id
      · exact ⟨removed _ rfl, rfl, .refl _⟩
    rcases gone with ⟨tidy', lists, view⟩
    rcases onCreatureLeave_spec self (state.gone creature selfFirst) creature
        tidy'.sound with ⟨world, sound, has, dropped⟩
    -- what the monster does, and what comes after it
    have told : ∀ after,
        after =
            (if creature ≠ self && state.told self (state.creature creature).position
            then (state.gone creature selfFirst).onCreatureLeave self creature
            else state.gone creature selfFirst) →
          SameView { state with present := state.present.erase creature }
              after ∧
            Tidy self after ∧
              (NoticesRemoval self state creature selfFirst →
                creature ≠ self → ¬ after.Has creature) := by
      rintro after rfl
      split
      · refine ⟨view.trans world.view, tidy'.of_view world.view sound (has self), ?_⟩
        intro notices _
        exact dropped notices.2
      · rename_i untold
        refine ⟨view, tidy', ?_⟩
        intro notices other
        exfalso
        apply untold
        rw [Bool.and_eq_true, decide_eq_true_eq]
        exact ⟨other, notices.1⟩
    rcases told _ rfl with ⟨view', tidyTold, droppedTold⟩
    have final : ∀ after,
        SameView { state with present := state.present.erase creature }
            after →
          Tidy self after →
            (NoticesRemoval self state creature selfFirst →
              creature ≠ self → ¬ after.Has creature) →
              Tidy self after ∧
                ((self ∈ state.present → state.Has creature →
                    NoticesRemoval self state creature selfFirst) →
                  Drops self state after) := by
      intro after viewAfter tidyAfter droppedAfter
      refine ⟨tidyAfter, ?_⟩
      rintro notices other had still ⟨here, _, there, departs⟩
      by_cases same : other = creature
      · subst same
        have ne : other ≠ self := by
          rintro rfl
          exact tidy.others had
        exact droppedAfter (notices here had) ne still
      · rcases departs with gone | ⟨seen, hidden⟩
        · rw [viewAfter.present] at gone
          exact gone ((mem_erase_of_ne same).mpr there)
        · rw [viewAfter.sees] at hidden
          have same' : state.sees self other = false := hidden
          rw [seen] at same'
          cases same'
    cases done
    split
    · exact final _ view' tidyTold droppedTold
    · have left := leaveMaster_view
        (if creature ≠ self && state.told self (state.creature creature).position
        then (state.gone creature selfFirst).onCreatureLeave self creature
        else state.gone creature selfFirst) creature
      refine final _ (view'.trans left.1) ?_ ?_
      · refine tidyTold.of_view left.1 ?_ ?_
        · rw [left.2]
          exact tidyTold.sound
        · rw [left.2]
          exact id
      · intro notices other
        rw [left.2]
        exact droppedTold notices other
  · cases done


lemma agrees_setPosition (self : Nat) (state : State) (creature : Nat) (position : Position)
  (agrees : Agrees self state creature) :
  Agrees self
    (state.setCreature creature { state.creature creature with position := position })
    creature := by
  have kind : ∀ other,
      ((state.setCreature creature
          { state.creature creature with
            position := position }).creature other).kind =
        (state.creature other).kind := by
    intro other
    by_cases same : other = creature
    · rw [same]
      simp only [setCreature, update_self]
    · simp only [setCreature, update_of_ne same]
  have master : ∀ other,
      ((state.setCreature creature
          { state.creature creature with
            position := position }).creature other).master =
        (state.creature other).master := by
    intro other
    by_cases same : other = creature
    · rw [same]
      simp only [setCreature, update_self]
    · simp only [setCreature, update_of_ne same]
  have player :
      (state.setCreature creature
          { state.creature creature with position := position }).isPlayer =
        state.isPlayer := by
    funext other
    simp only [isPlayer, kind]
  rcases agrees with ⟨friend, opponent⟩
  refine ⟨fun listed => ?_, fun listed => ?_⟩
  · rw [← friend listed]
    simp only [isFriend, masterPlayer, isSummon, kind, master, player]
    rfl
  · rw [← opponent listed]
    simp only [isOpponent, masterPlayer, kind, master, player]

/-- What a monster has to find when a creature goes out of its sight. -/
def NoticesMove (self : Nat) (state : State) (creature : Nat) (newPos : Position) : Prop :=
  canSee (state.position self) newPos = false →
    state.sees self creature = true → Agrees self state creature

lemma move_tidy {newPos : Position} (tidy : Tidy self state)
  (done : state.move self creature newPos = some next) :
  Tidy self next ∧
    ((creature ≠ self → state.Has creature →
        NoticesMove self state creature newPos) →
      Drops self state next) := by
  simp only [move] at done
  split at done
  · rename_i possible
    rcases possible with ⟨listed, floor⟩
    have kept : ∀ other,
        other ≠ creature →
          (state.setCreature creature
              { state.creature creature with position := newPos }).creature other =
            state.creature other :=
      fun other ne => update_of_ne ne _ _
    have stands :
        ((state.setCreature creature
            { state.creature creature with position := newPos }).creature creature) =
          { state.creature creature with position := newPos } :=
      update_self _ _ _
    have moved :
        Tidy self
          (state.setCreature creature { state.creature creature with position := newPos }) := by
      refine ⟨tidy.sound, tidy.others, ?_, ?_⟩
      · intro other there
        by_cases same : other = creature
        · rw [same, stands]
          exact floor
        · rw [kept other same]
          exact tidy.floors other there
      · intro other there
        by_cases same : other = creature
        · rw [same, stands]
          exact tidy.placed creature listed
        · rw [kept other same]
          exact tidy.placed other there
    cases done
    split
    · -- the monster itself has moved, and looks around
      refine ⟨moved.updateTargetList.1, fun _ => ?_⟩
      rintro other _ still ⟨_, _, there, gone | ⟨_, hidden⟩⟩
      · rw [moved.updateTargetList.2.present] at gone
        exact gone there
      · have seen := ((updateTargetList_spec self _ moved.sound).2.2 other still).1
        rw [moved.updateTargetList.2.sees, seen] at hidden
        cases hidden
    · rename_i another
      have here : self ≠ creature := Ne.symm another
      have position :
          (state.setCreature creature
              { state.creature creature with position := newPos }).position self =
            state.position self := by
        rw [State.position, kept self here, State.position]
      -- only the creature that moves can depart
      have result : ∀ after,
          Tidy self after →
            SameView
                (state.setCreature creature { state.creature creature with position := newPos })
                after →
              (state.sees self creature = true →
                canSee (state.position self) newPos = false →
                  state.Has creature → self ∈ state.present →
                    (creature ≠ self → state.Has creature →
                      NoticesMove self state creature newPos) →
                      ¬ after.Has creature) →
                Tidy self after ∧
                  ((creature ≠ self → state.Has creature →
                      NoticesMove self state creature newPos) →
                    Drops self state after) := by
        intro after tidyAfter view dropped
        refine ⟨tidyAfter, ?_⟩
        rintro notices other had still ⟨present, _, there, departs⟩
        rcases departs with gone | ⟨seen, hidden⟩
        · rw [view.present] at gone
          exact gone there
        · rw [view.sees, sees, position] at hidden
          by_cases same : other = creature
          · subst same
            rw [stands] at hidden
            exact dropped seen hidden had present notices still
          · rw [kept other same] at hidden
            rw [sees] at seen
            rw [seen] at hidden
            cases hidden
      rw [position]
      split
      · split
        · refine result _ (moved.onCreatureEnter another).1 (moved.onCreatureEnter another).2 ?_
          rename_i appears
          intro _ hidden
          rw [hidden] at appears
          cases appears
        · split
          · rcases onCreatureLeave_spec self
                (state.setCreature creature { state.creature creature with position := newPos })
                creature moved.sound with ⟨world, sound, has, dropped⟩
            refine result _ (moved.of_view world.view sound (has self)) world.view ?_
            intro seen hidden had _ notices
            exact dropped (agrees_setPosition self state creature newPos
              (notices another had hidden seen))
          · refine result _ moved (.refl _) ?_
            rename_i stays
            intro seen hidden
            rw [sees] at seen
            rw [hidden, seen] at stays
            cases stays rfl
      · rename_i untold
        refine result _ moved (.refl _) ?_
        intro seen _ _ present
        exfalso
        apply untold
        rw [Bool.or_eq_true]
        refine .inl (decide_eq_true (mem_filter.mpr ⟨present, ?_⟩))
        rw [kept self here]
        exact inRange_of_canSee (tidy.floors creature listed) seen
  · cases done

lemma convince_tidy {convincer : Nat} (tidy : Tidy self state)
  (done : state.convince self convincer creature = some next) :
  Tidy self next ∧ Drops self state next := by
  simp only [convince] at done
  split at done
  · cases done
  · have view :
        SameView state ((state.setMaster creature (some convincer)).destroySummons creature) := by
      have named : SameView state (state.setMaster creature (some convincer)) :=
        setCreature_view rfl rfl
      exact named.trans (destroySummons_view _ creature)
    have convinced := tidy.of_view view tidy.sound (fun has => has)
    have updated : ∀ after,
        after =
            (if creature = self then
              ((state.setMaster creature (some convincer)).destroySummons
                creature).updateTargetList self
            else
              (state.setMaster creature (some convincer)).destroySummons creature) →
          Tidy self after ∧ SameView state after := by
      rintro after rfl
      split
      · exact ⟨convinced.updateTargetList.1, view.trans convinced.updateTargetList.2⟩
      · exact ⟨convinced, view⟩
    have convincing : ∀ after,
        Tidy self after → SameView state after →
          ∀ told : Bool,
            Tidy self
                (if told then
                  after.onCreatureConvinced self convincer creature
                else after) ∧
              Drops self state
                (if told then
                  after.onCreatureConvinced self convincer creature
                else after) := by
      intro after tidyAfter same told
      cases told with
      | false => exact ⟨tidyAfter, same.drops self⟩
      | true =>
        simp only [if_true, onCreatureConvinced]
        split
        · exact ⟨tidyAfter.updateTargetList.1,
            (same.trans tidyAfter.updateTargetList.2).drops self⟩
        · exact ⟨tidyAfter, same.drops self⟩
    cases done
    exact convincing _ (updated _ rfl).1 (updated _ rfl).2 _

/--
Where a creature goes out of sight or out of the game, the monster is told, and
the creature passes at that time the tests of the lists in which it is.
-/
def Notices (self : Nat) (state : State) : Event → Prop
  | .disappear creature selfFirst =>
    self ∈ state.present → state.Has creature → NoticesRemoval self state creature selfFirst
  | .move creature newPos =>
    creature ≠ self → state.Has creature → NoticesMove self state creature newPos
  | _ => True

lemma perform_tidy
  {event : Event} (tidy : Tidy self state) (done : state.perform self event = some next) :
  Tidy self next ∧ (Notices self state event → Drops self state next) := by
  have unseen : ∀ after,
      SameView state after → after.toLists.Sound →
        (after.Has self → state.Has self) →
          Tidy self after ∧ (Notices self state event → Drops self state after) :=
    fun after view sound has => ⟨tidy.of_view view sound has, fun _ => view.drops self⟩
  cases event with
  | appear creature position =>
    have both := appear_tidy tidy done
    exact ⟨both.1, fun _ => both.2⟩
  | disappear creature selfFirst => exact disappear_tidy tidy done
  | move creature newPos => exact move_tidy tidy done
  | followComplete creature hasFollowPath =>
    cases done
    exact unseen _ ⟨rfl, fun _ => rfl, fun _ => rfl⟩
      (tidy.sound.followComplete _ _ _) Lists.has_followComplete
  | convince convincer creature =>
    have both := convince_tidy tidy done
    exact ⟨both.1, fun _ => both.2⟩
  | setMaster creature master | changeHealth creature health =>
    cases done
    exact unseen _ (setCreature_view rfl rfl) tidy.sound id
  | changeParties isPartner =>
    cases done
    exact unseen _ ⟨rfl, fun _ => rfl, fun _ => rfl⟩ tidy.sound id
  | die =>
    cases done
    have view := destroySummons_view state self
    refine unseen _ ⟨view.present, view.position, view.placed⟩ tidy.sound.clear ?_
    exact fun has => absurd has Lists.not_has_clear

end State

/-! ## Runs -/

/--
A state of a run, and the creatures that have left the view of the monster or
the game while in its lists.
-/
structure Watched where
  state : State
  departed : Nat → Prop

namespace Watched

variable {self : Nat} {watched next : Watched}

def Step (self : Nat) (watched : Watched) (event : State.Event) (next : Watched) : Prop :=
  watched.state.perform self event = some next.state ∧
    ∀ creature,
      next.departed creature ↔
        watched.state.Has creature ∧
          (watched.departed creature ∨ State.Departs self watched.state next.state creature)

def Noticed (self : Nat) (watched : Watched) (event : State.Event) : Prop :=
  State.Notices self watched.state event

structure Fresh (watched : Watched) : Prop where
  friendList : watched.state.friendList = []
  targetList : watched.state.targetList = []
  references : ∀ creature, watched.state.references creature = 0
  present : watched.state.present = []
  departed : ∀ creature, ¬ watched.departed creature

lemma Fresh.tidy (fresh : Fresh watched) (self : Nat) : State.Tidy self watched.state where
  sound := by
    refine ⟨?_, ?_, ?_⟩
    · rw [fresh.friendList]
      exact nodup_nil
    · rw [fresh.targetList]
      exact nodup_nil
    · intro creature
      rw [fresh.friendList, fresh.targetList]
      exact fresh.references creature
  others := by
    rintro (friend | target)
    · rw [fresh.friendList] at friend
      cases friend
    · rw [fresh.targetList] at target
      cases target
  floors creature listed := by
    rw [fresh.present] at listed
    cases listed
  placed creature listed := by
    rw [fresh.present] at listed
    cases listed

lemma Reaches.tidy (fresh : Fresh watched) (run : Reaches (Step self) Always watched next) :
  State.Tidy self next.state := by
  apply run.invariant (fresh.tidy self)
  intro state event after tidy _ taken
  exact (State.perform_tidy tidy taken.1).1

lemma Reaches.current
  (fresh : Fresh watched) (run : Reaches (Step self) (Noticed self) watched next) :
  ∀ creature, next.state.Has creature → ¬ next.departed creature := by
  have both :
      State.Tidy self next.state ∧
        ∀ creature, next.state.Has creature → ¬ next.departed creature := by
    apply run.invariant
    · exact ⟨fresh.tidy self, fun creature _ => fresh.departed creature⟩
    · rintro state event after ⟨tidy, current⟩ noticed taken
      rcases State.perform_tidy tidy taken.1 with ⟨tidy', drops⟩
      refine ⟨tidy', ?_⟩
      intro creature has departed
      rcases (taken.2 creature).mp departed with ⟨had, early | late⟩
      · exact current creature had early
      · exact drops noticed creature had has late
  exact both.2

/--
In every run no creature is in a list twice, each entry has one reference, and
the monster is in no list.  In every run in which each creature that leaves is
noticed, no creature that has left is in a list.
-/
theorem lists_current (self : Nat) (start : Watched) (fresh : Fresh start) :
  (∀ watched,
      Reaches (Step self) Always start watched →
        watched.state.friendList.Nodup ∧
          watched.state.targetList.Nodup ∧
            (∀ creature,
              watched.state.references creature =
                watched.state.friendList.count creature +
                  watched.state.targetList.count creature) ∧
              ¬ watched.state.Has self) ∧
    ∀ watched,
      Reaches (Step self) (Noticed self) start watched →
        ∀ creature, watched.state.Has creature → ¬ watched.departed creature := by
  refine ⟨?_, fun watched run => Reaches.current fresh run⟩
  intro watched run
  have tidy := Reaches.tidy fresh run
  exact ⟨tidy.sound.friends, tidy.sound.targets, tidy.sound.references, tidy.others⟩


def dawn : Watched where
  state :=
    { friendList := []
      targetList := []
      references := fun _ => 0
      creature := fun creature =>
        { kind := if creature = 2 then .player false else .monster
          position := ⟨0, 0, 0⟩
          placed := false
          health := 100
          master := none }
      present := []
      isPartner := fun _ _ => false }
  departed _ := False

lemma dawn_fresh : Fresh dawn :=
  ⟨rfl, rfl, fun _ => rfl, rfl, fun _ => id⟩

def follow (self : Nat) (watched : Watched) (event : State.Event) : Watched :=
  let state := (watched.state.perform self event).getD watched.state
  { state := state
    departed := fun creature =>
      watched.state.Has creature ∧
        (watched.departed creature ∨ State.Departs self watched.state state creature) }

lemma step_follow
  {event : State.Event} (possible : (watched.state.perform self event).isSome = true) :
  Step self watched event (watched.follow self event) := by
  refine ⟨?_, fun _ => Iff.rfl⟩
  rcases isSome_iff_exists.mp possible with ⟨state, done⟩
  rw [follow, done, getD_some]

def meeting : Watched :=
  (dawn.follow 1 (.appear 1 ⟨100, 100, 7⟩)).follow 1 (.appear 2 ⟨111, 100, 7⟩)

lemma meeting_reached (guard : Watched → State.Event → Prop)
  (allowed : ∀ watched creature position, guard watched (.appear creature position)) :
  Reaches (Step 1) guard dawn meeting :=
  .tail (.tail .refl (allowed _ _ _) (step_follow rfl)) (allowed _ _ _) (step_follow rfl)

/-- A player comes and is a target. -/
theorem lists_current_meeting : meeting.state.Has 2 ∧ ¬ meeting.departed 2 := by
  have run : Reaches (Step 1) (Noticed 1) dawn meeting := meeting_reached _ fun _ _ _ => trivial
  have has : meeting.state.Has 2 := .inr mem_cons_self
  exact ⟨has, (lists_current 1 dawn dawn_fresh).2 _ run 2 has⟩

/--
A monster comes, becomes the summon of the player, and goes out of sight.  It is
a friend no more by then, and stays in the list of friends.
-/
def conviction : Watched :=
  ((meeting.follow 1 (.appear 3 ⟨111, 101, 7⟩)).follow 1
    (.convince 2 3)).follow 1 (.move 3 ⟨112, 101, 7⟩)

theorem convinced_stays :
  ¬ ∀ self start watched,
    Fresh start → Reaches (Step self) Always start watched →
      ∀ creature, watched.state.Has creature → ¬ watched.departed creature := by
  intro all
  have start : Reaches (Step 1) Always dawn meeting := meeting_reached _ fun _ _ _ => trivial
  have run : Reaches (Step 1) Always dawn conviction :=
    .tail (.tail (.tail start trivial (step_follow rfl)) trivial
      (step_follow rfl)) trivial (step_follow rfl)
  have before :
      ((meeting.follow 1 (.appear 3 ⟨111, 101, 7⟩)).follow 1 (.convince 2 3)).state.Has 3 :=
    .inl (by decide)
  refine all 1 dawn conviction dawn_fresh run 3 (.inl (by decide)) ?_
  refine ⟨before, .inr ⟨?_, ?_, ?_, .inr ⟨rfl, rfl⟩⟩⟩
  all_goals decide

end Watched

end OTServ.Monsters
