import OTServ.Conditions.Lifecycle

/-!
# Runs of condition operations

In every run from a creature without conditions the list holds at most one condition of
a type and id, a condition which started is ended by the creature and deleted once, and
one which was merged or did not start is deleted and not ended.

Nothing is used after it was deleted either, unless an item is destroyed while one of
its conditions is dispelled and gives up another one which the copied list still has.
-/

namespace OTServ.Conditions

open Library.Histories
open Library.Lifecycles
open List

variable {condition other : Nat} {dispels : Nat → Dispel} {type : UInt32}

namespace Creature

section Operations

variable {build : Build} {creature : Creature}

lemma addCondition_course
  (scene : Scene) (condition : Option Object) (sound : creature.registry.Sound) :
  Course creature (creature.addCondition build scene condition).2 :=
  addConditionWith_course affect_harmless condition sound

lemma behind_listed (found : creature.behind condition = some other) :
  other ∈ creature.conditions := by
  have inTail := mem_of_mem_head? found
  exact (dropWhile_sublist _).subset (mem_of_mem_tail inTail)

lemma behind_ne (distinct : creature.conditions.Nodup)
  (found : creature.behind condition = some other) : other ≠ condition := by
  rintro rfl
  have inTail := mem_of_mem_head? found
  cases rest : creature.conditions.dropWhile (· ≠ other) with
  | nil =>
    rw [rest] at inTail
    cases inTail
  | cons first tail =>
    rw [rest] at inTail
    have atFirst := head_dropWhile_not (· ≠ other) (l := creature.conditions)
      (by rw [rest]; exact cons_ne_nil first tail)
    simp only [rest, head_cons, decide_eq_false_iff_not, not_not] at atFirst
    have suffix := (dropWhile_sublist (l := creature.conditions) (· ≠ other))
    rw [rest, atFirst] at suffix
    exact (nodup_cons.1 (suffix.nodup distinct)).1 inTail

lemma executeFrom_course (interval : Int32) (scenes : List Scene) (place : Option Nat)
  (listed : ∀ condition, place = some condition → condition ∈ creature.conditions)
  (sound : creature.registry.Sound) :
  Course creature (executeFrom build interval scenes place creature).2 := by
  induction scenes generalizing place creature with
  | nil => exact Course.refl creature
  | cons scene scenes inductionHypothesis =>
    cases place with
    | none => exact Course.refl creature
    | some condition =>
      have member := listed condition rfl
      have executed :
          Reacted IsHarmless creature
              (executeCondition build (affect build) scene interval condition creature).2 ∧
            condition ∈
              (executeCondition build (affect build) scene interval condition
                creature).2.conditions :=
        executeCondition_reacted affect_harmless (fun _ harmless => harmless) interval member sound
      simp only [executeFrom]
      generalize executeCondition build (affect build) scene interval condition
        creature = outcome at executed
      rcases outcome with ⟨goesOn, after⟩
      rcases executed with ⟨reacted, stays⟩
      have soundThen := reacted.course.sound sound
      cases goesOn with
      | true =>
        refine reacted.course.trans (inductionHypothesis _ ?_ soundThen)
        intro other found
        exact behind_listed found
      | false =>
        have read := course_use (.inl stays)
        have finished : Course after ((after.use condition).finish condition false) :=
          read.trans (course_finish stays)
        refine (reacted.course.trans finished).trans
          (inductionHypothesis _ ?_ (finished.sound soundThen))
        intro other found
        exact soundThen.nodup.mem_erase_iff.2
          ⟨behind_ne soundThen.nodup found, behind_listed found⟩

lemma executeConditions_course
  (interval : Int32) (scenes : List Scene) (sound : creature.registry.Sound) :
  Course creature (creature.executeConditions build interval scenes) :=
  executeFrom_course interval scenes _ (fun _ found => mem_of_mem_head? found) sound

lemma die_course (sound : creature.registry.Sound) : Course creature creature.die := by
  unfold die
  split
  · exact removeWhere_course sound _ true
  · exact Course.refl creature
  · exact Course.refl creature

def destroyedFor (dispels : Nat → Dispel) (type : UInt32) (creature : Creature) (condition : Nat) :
  Option (List Effect) :=
  if creature.kind = .player ∧ (creature.object condition).conditionType = type ∧
      isSlot (creature.object condition).id then
    (dispels condition).destroyed
  else none

/-- No item is destroyed which gives up a condition listed behind the one which is
dispelled. -/
def Spares (dispels : Nat → Dispel) (type : UInt32) (creature : Creature) : Prop :=
  creature.conditions.Pairwise fun condition later =>
    ∀ effects, creature.destroyedFor dispels type condition = some effects →
      ∀ effect ∈ effects, effect.givesUp (creature.object later).key = false

lemma destroyedFor_congr {after : Creature} (kind : after.kind = creature.kind)
  (key : (after.object condition).key = (creature.object condition).key) :
  after.destroyedFor dispels type condition = creature.destroyedFor dispels type condition := by
  rw [destroyedFor, destroyedFor, kind,
    show (after.object condition).conditionType =
      (creature.object condition).conditionType from congrArg Prod.fst key,
    show (after.object condition).id = (creature.object condition).id from congrArg Prod.snd key]

/-- A condition is removed, given up with its item, or keeps some of its time. -/
lemma onCombatRemoveCondition_reacted (mem : condition ∈ creature.conditions)
  (ofType : (creature.object condition).conditionType = type) (sound : creature.registry.Sound) :
  Reacted
    (fun key => key = (creature.object condition).key ∨
      ∃ effects, creature.destroyedFor dispels type condition = some effects ∧
        ∃ effect ∈ effects, effect.givesUp key = true)
    creature
    (creature.onCombatRemoveCondition build (dispels condition) condition) := by
  have read := unchanged_use (.inl mem)
  have soundThen := read.course.sound sound
  unfold onCombatRemoveCondition
  split
  case h_1 player =>
    simp only
    split
    · split
      case isTrue slot =>
        cases destroyed : (dispels condition).destroyed with
        | none => exact read.reacted
        | some effects =>
          refine read.reacted.trans sound ?_
          refine (affectAll_reacted effects soundThen).mono fun key given => ?_
          refine .inr ⟨effects, ?_, given⟩
          rw [destroyedFor, if_pos ⟨player, ofType, slot⟩, destroyed]
      case isFalse => exact read.reacted
    · split
      · exact read.reacted.trans sound (removeCondition_reacted soundThen (.inl rfl))
      · have written :
            Course (creature.use condition)
              ((creature.use condition).write condition
                (((creature.use condition).object condition).setTicks
                  (dispels condition).now (dispels condition).delay)) :=
          course_write rfl
        exact read.reacted.trans sound (written.reacted rfl)
  case h_2 => exact removeCondition_reacted sound (.inl rfl)
  case h_3 => exact removeCondition_reacted sound (.inl rfl)

lemma dispelAll_course
  (conditions : List Nat) (listed : ∀ condition ∈ conditions, condition ∈ creature.conditions)
  (distinct : conditions.Nodup)
  (spared :
    conditions.Pairwise fun condition later =>
      ∀ effects, creature.destroyedFor dispels type condition = some effects →
        ∀ effect ∈ effects, effect.givesUp (creature.object later).key = false)
  (sound : creature.registry.Sound) :
  Course creature (dispelAll build dispels type conditions creature) := by
  induction conditions generalizing creature with
  | nil => exact Course.refl creature
  | cons condition rest inductionHypothesis =>
    have member := listed condition mem_cons_self
    have read := unchanged_use (.inl member)
    rcases nodup_cons.1 distinct with ⟨notIn, distinctRest⟩
    rcases pairwise_cons.1 spared with ⟨sparedNow, sparedRest⟩
    -- The rest is judged by the keys alone, which stay.
    have goesOn {after : Creature}
        (course : Course creature after)
        (still : ∀ other ∈ rest, other ∈ after.conditions) :
        Course creature (dispelAll build dispels type rest after) := by
      have key {other : Nat} (inside : other ∈ rest) :
          (after.object other).key = (creature.object other).key :=
        course.key (sound.held_made other (listed other (mem_cons_of_mem condition inside)))
      refine course.trans (inductionHypothesis still distinctRest ?_ (course.sound sound))
      refine sparedRest.imp_of_mem fun {first later} inFirst inLater judged => ?_
      rw [destroyedFor_congr course.kind (key inFirst), key inLater]
      exact judged
    simp only [dispelAll]
    split
    case isFalse =>
      refine goesOn read.course fun other inside => ?_
      exact listed other (mem_cons_of_mem condition inside)
    case isTrue ofType =>
      have memberThen : condition ∈ (creature.use condition).conditions := member
      have turn :
          Reacted
            (fun key => key = (creature.object condition).key ∨
              ∃ effects,
                creature.destroyedFor dispels type condition = some effects ∧
                  ∃ effect ∈ effects, effect.givesUp key = true)
            (creature.use condition)
            ((creature.use condition).onCombatRemoveCondition build
              (dispels condition) condition) :=
        onCombatRemoveCondition_reacted memberThen ofType (read.course.sound sound)
      refine goesOn (read.course.trans turn.course) fun other inside => ?_
      have before := listed other (mem_cons_of_mem condition inside)
      refine (turn.stays other before).resolve_right fun given => ?_
      rcases given with same | ⟨effects, destroyed, effect, among, given⟩
      · have equal : other = condition := inj_on_of_nodup_map sound.distinct before member same
        exact notIn (equal ▸ inside)
      · have judged := sparedNow other inside effects destroyed effect among
        exact absurd given (judged ▸ Bool.false_ne_true)

lemma removeConditionBy_course
  (spares : creature.Spares dispels type) (sound : creature.registry.Sound) :
  Course creature (creature.removeConditionBy build dispels type) :=
  dispelAll_course creature.conditions (fun _ mem => mem) sound.nodup spares sound

end Operations

/-- Where the destroyed item gives up two conditions, the second one is read after it
was deleted. -/
example :
  List.isSublist [.deed 1 .deleted, .deed 1 .used]
    (run ⟨false⟩ (new .player)
      [.addCondition { now := 0 }
          (some { conditionType := conditionInvisible, id := 9, ticks := -1 }),
        .addCondition { now := 0 }
          (some { conditionType := conditionManaShield, id := 9, ticks := -1 }),
        .removeConditionBy
          (fun _ =>
            { destroyed := some [.deEquipItem 9 { invisible := true, manaShield := true }] })
          conditionInvisible]).history = true := by
  decide +kernel

/-! ## Runs -/

def Spared (creature : Creature) : Operation → Prop
  | .removeConditionBy dispels type => creature.Spares dispels type
  | _ => True

def SparedRun (build : Build) : Creature → List Operation → Prop
  | _, [] => True
  | creature, operation :: operations =>
    creature.Spared operation ∧ SparedRun build (perform build creature operation) operations

/-- How often a condition received an `endCondition`, where `counted` says which deeds
count as one. -/
def endings (counted : Deed → Bool) (creature : Creature) (condition : Nat) : Nat :=
  creature.history.countP fun occurrence =>
    match occurrence with
    | .deed other deed => other == condition && counted deed
    | .holding _ => false

def deletions (creature : Creature) (condition : Nat) : Nat :=
  creature.history.count (.deed condition .deleted)

structure CaredFor (counted : Deed → Bool) (creature : Creature) : Prop where
  unique :
    ∀ conditions, .holding conditions ∈ creature.history →
      (conditions.map fun condition => (creature.object condition).key).Nodup
  decided :
    ∀ condition < creature.next,
      .deed condition .accepted ∈ creature.history ∨
        .deed condition .refused ∈ creature.history ∨ .deed condition .merged ∈ creature.history
  kept :
    ∀ condition ∈ creature.conditions,
      creature.endings counted condition = 0 ∧ creature.deletions condition = 0
  left :
    ∀ condition, .deed condition .accepted ∈ creature.history →
      condition ∉ creature.conditions →
        creature.endings counted condition = 1 ∧ creature.deletions condition = 1
  turnedDown :
    ∀ condition deed, deed = .refused ∨ deed = .merged →
      .deed condition deed ∈ creature.history →
        creature.endings counted condition = 0 ∧ creature.deletions condition = 1
  usable : Lawful BeforeDeletion creature.history

def byCreature (deed : Deed) : Bool := deed == .ended

def byAnyone (deed : Deed) : Bool := deed == .ended || deed == .renewed

section Runs

variable {build : Build} {creature : Creature}

lemma sound_new (kind : CreatureKind) : (new kind).registry.Sound :=
  Registry.sound_empty _

lemma perform_course {operation : Operation} (spared : creature.Spared operation)
  (sound : creature.registry.Sound) : Course creature (perform build creature operation) := by
  cases operation with
  | addCondition scene condition => exact addCondition_course scene condition sound
  | removeConditionType type => exact removeConditionType_course type sound
  | removeConditionTypeId type id =>
    exact removeWhere_course sound (fun object => object.key == (type, id)) false
  | removeConditionBy dispels type => exact removeConditionBy_course spared sound
  | removeCondition condition =>
    have removed : Reacted (fun _ => True) creature (creature.removeCondition condition) :=
      removeCondition_reacted sound trivial
    exact removed.course
  | executeConditions interval scenes =>
    exact executeConditions_course interval scenes sound
  | die => exact die_course sound

lemma run_course (operations : List Operation) (spared : SparedRun build creature operations)
  (sound : creature.registry.Sound) : Course creature (run build creature operations) := by
  induction operations generalizing creature with
  | nil => exact Course.refl creature
  | cons operation operations inductionHypothesis =>
    have step : Course creature (perform build creature operation) := perform_course spared.1 sound
    exact step.trans (inductionHypothesis spared.2 (step.sound sound))

lemma endings_byCreature (condition : Nat) :
  creature.endings byCreature condition = creature.history.count (.deed condition .ended) := by
  rw [endings, List.count]
  congr 1
  funext occurrence
  cases occurrence with
  | deed other deed =>
    rw [Bool.eq_iff_iff]
    simp [byCreature]
  | holding conditions => rfl

lemma caredFor_of_sound (sound : creature.registry.Sound) (settled : creature.pending = []) :
  CaredFor byCreature creature where
  unique := fun conditions held => (sound.holdings conditions held).1
  decided := fun condition made => by
    refine sound.decided made ?_
    rw [show creature.registry.pending = creature.pending from rfl, settled]
    exact not_mem_nil
  kept := fun condition mem => by
    rw [endings_byCreature]
    exact sound.held_counts mem
  left := fun condition accepted notListed => by
    rw [endings_byCreature]
    exact sound.accepted_counts accepted notListed
  turnedDown := fun condition deed rejecting rejected => by
    rw [endings_byCreature]
    exact sound.rejected_counts rejecting rejected
  usable := sound.lawful

theorem run_caredFor (build : Build) (kind : CreatureKind) (operations : List Operation)
  (spared : SparedRun build (new kind) operations) :
  CaredFor byCreature (run build (new kind) operations) := by
  have course := run_course operations spared (sound_new kind)
  exact caredFor_of_sound (course.sound (sound_new kind)) course.pending

end Runs

/-- A ring which makes invisible is destroyed when that is dispelled. -/
theorem run_caredFor_ring :
  CaredFor byCreature
    (run ⟨false⟩ (new .player)
      [.addCondition { now := 0 }
          (some { conditionType := conditionInvisible, id := 9, ticks := -1 }),
        .removeConditionBy
          (fun _ => { destroyed := some [.deEquipItem 9 { invisible := true }] })
          conditionInvisible]) := by
  refine run_caredFor ⟨false⟩ .player _ ⟨trivial, ?_, trivial⟩
  exact pairwise_singleton _ _

/-- A condition which changes attributes takes over the values of another one. -/
theorem attributes_end_twice :
  ¬ ∀ (build : Build) (kind : CreatureKind) (operations : List Operation),
      CaredFor byAnyone (run build (new kind) operations) := by
  intro always
  have caredFor :=
    always ⟨false⟩ .player
      [.addCondition { now := 5 }
          (some { conditionType := conditionAttributes, id := 0, ticks := 1000 }),
        .addCondition { now := 6 }
          (some { conditionType := conditionAttributes, id := 0, ticks := 1000 }),
        .removeConditionType conditionAttributes]
  have twice := caredFor.left 0 (by decide +kernel) (by decide +kernel)
  exact absurd twice.1 (by decide +kernel)

end Creature

end OTServ.Conditions
