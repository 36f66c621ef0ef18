import OTServ.Conditions.Creature

/-!
# The life of a condition

Each function of a creature is a course of moves of its registry.  A hit, and the loss
of an item, leave the conditions listed which are not given up, and add such as deal no
damage; so the condition which is started or executed meanwhile is neither removed nor
added a second time.
-/

namespace OTServ.Conditions

open Library.Histories
open Library.Lifecycles
open List Function

def Effect.givesUp (effect : Effect) (key : UInt32 × UInt32) : Bool :=
  match effect with
  | .addInFightTicks _ _ | .equipItem _ _ _ => false
  | .deEquipItem slot abilities =>
    key.2 == slot &&
      (abilities.invisible && key.1 == conditionInvisible ||
        abilities.manaShield && key.1 == conditionManaShield ||
          abilities.regeneration && key.1 == conditionRegeneration)
  | .drainHealth _ => key.1 == conditionInvisible

variable {deed : Deed} {object : Object} {gone : UInt32 × UInt32 → Prop} {type id : UInt32}
  {condition : Nat} {after : Creature}

namespace Creature

/-- The creature went through moves of its registry, and nothing waits which did not
wait before. -/
structure Course (creature after : Creature) : Prop where
  moves : Registry.Moves creature.registry after.registry
  pending : after.pending = creature.pending
  kind : after.kind = creature.kind

def IsHarmless (key : UInt32 × UInt32) : Prop :=
  key.1 = conditionInFight ∨ key.1 = conditionInvisible ∨
    key.1 = conditionManaShield ∨ key.1 = conditionRegeneration

/-- Of the conditions listed only such were let go as are given up, and harmless ones
were listed behind the rest. -/
structure Reacted (gone : UInt32 × UInt32 → Prop) (creature after : Creature) : Prop where
  course : Course creature after
  relisted :
    ∃ kept added,
      after.conditions = kept ++ added ∧
        kept.Sublist creature.conditions ∧
          ∀ condition ∈ added, IsHarmless (after.object condition).key
  stays :
    ∀ condition ∈ creature.conditions,
      condition ∈ after.conditions ∨ gone (creature.object condition).key

section Courses

variable {creature middle after : Creature} {condition : Nat}

lemma Course.refl (creature : Creature) : Course creature creature :=
  ⟨.refl, rfl, rfl⟩

lemma Course.trans (first : Course creature middle) (second : Course middle after) :
  Course creature after where
  moves := first.moves.trans second.moves
  pending := second.pending.trans first.pending
  kind := second.kind.trans first.kind

lemma Course.sound (course : Course creature after) (sound : creature.registry.Sound) :
  after.registry.Sound :=
  course.moves.sound sound

lemma Course.key (course : Course creature after) (made : condition < creature.next) :
  (after.object condition).key = (creature.object condition).key :=
  (course.moves.kept made).2

lemma course_note
  (move : Registry.Move creature.registry (creature.registry.note condition deed)) :
  Course creature (creature.note condition deed) :=
  ⟨.single move, rfl, rfl⟩

lemma course_use (alive : condition ∈ creature.conditions ∨ condition ∈ creature.pending) :
  Course creature (creature.use condition) :=
  course_note (.use creature.registry condition alive)

lemma write_object_self (object : Object) :
  (creature.write condition object).object condition = object := by
  simp only [write, update_self]

lemma write_object_of_ne {other : Nat} (object : Object) (ne : other ≠ condition) :
  (creature.write condition object).object other = creature.object other := by
  simp only [write, update_of_ne ne]

lemma make_object_self (object : Object) :
  (creature.make object).object creature.next = object := by
  simp only [make, update_self]

section

variable (same : object.key = (creature.object condition).key)
include same

lemma write_registry : (creature.write condition object).registry = creature.registry := by
  have keys :
      (fun other => ((creature.write condition object).object other).key) =
        fun other => (creature.object other).key := by
    funext other
    by_cases here : other = condition
    · subst here
      rw [write_object_self, same]
    · rw [write_object_of_ne object here]
  simp only [registry, keys]
  rfl

lemma course_write : Course creature (creature.write condition object) := by
  refine ⟨?_, rfl, rfl⟩
  rw [write_registry same]

end

lemma make_registry (object : Object) :
  (creature.make object).registry = creature.registry.make object.key := by
  have keys :
      (fun other => ((creature.make object).object other).key) =
        update (fun other => (creature.object other).key) creature.next
          object.key := by
    funext other
    by_cases here : other = creature.next
    · subst here
      rw [make_object_self, update_self]
    · rw [update_of_ne here]
      simp only [make, update_of_ne here]
  simp only [registry, keys]
  rfl

lemma course_finish {again : Bool} (mem : condition ∈ creature.conditions) :
  Course creature (creature.finish condition again) :=
  ⟨.single (.release creature.registry condition again mem), rfl, rfl⟩

lemma Course.reacted (course : Course creature after)
  (same : after.conditions = creature.conditions) : Reacted gone creature after where
  course := course
  relisted :=
    ⟨creature.conditions, [], by rw [same, append_nil], List.Sublist.refl _,
      fun _ mem => absurd mem not_mem_nil⟩
  stays := fun condition mem => by
    rw [same]
    exact .inl mem

lemma Reacted.refl (creature : Creature) : Reacted gone creature creature :=
  (Course.refl creature).reacted rfl

lemma Reacted.mono {laxer : UInt32 × UInt32 → Prop} (reacted : Reacted gone creature after)
  (more : ∀ key, gone key → laxer key) : Reacted laxer creature after where
  course := reacted.course
  relisted := reacted.relisted
  stays := fun condition mem => (reacted.stays condition mem).imp_right (more _)

lemma Reacted.trans (sound : creature.registry.Sound) (first : Reacted gone creature middle)
  (second : Reacted gone middle after) : Reacted gone creature after where
  course := first.course.trans second.course
  relisted := by
    rcases first.relisted with ⟨kept, added, split, sublist, harmless⟩
    rcases second.relisted with ⟨keptThen, addedThen, splitThen, sublistThen, harmlessThen⟩
    rw [split] at sublistThen
    rcases sublist_append_iff.1 sublistThen with ⟨front, back, rfl, ofKept, ofAdded⟩
    refine ⟨front, back ++ addedThen, by rw [splitThen, append_assoc],
      ofKept.trans sublist, fun condition mem => ?_⟩
    rcases mem_append.1 mem with older | newer
    · have listed : condition ∈ middle.conditions := by
        rw [split]
        exact mem_append_right _ (ofAdded.subset older)
      rw [second.course.key ((first.course.sound sound).held_made condition listed)]
      exact harmless condition (ofAdded.subset older)
    · exact harmlessThen condition newer
  stays := fun condition mem => by
    rcases first.stays condition mem with listed | left
    · rw [← first.course.key (sound.held_made condition mem)]
      exact second.stays condition listed
    · exact .inr left

end Courses

section Searching

variable {creature after : Creature} {condition : Nat}

structure Unchanged (creature after : Creature) : Prop where
  course : Course creature after
  conditions : after.conditions = creature.conditions
  object : after.object = creature.object
  next : after.next = creature.next

lemma Unchanged.reacted (unchanged : Unchanged creature after) : Reacted gone creature after :=
  unchanged.course.reacted unchanged.conditions

lemma unchanged_use (alive : condition ∈ creature.conditions ∨ condition ∈ creature.pending) :
  Unchanged creature (creature.use condition) :=
  ⟨course_use alive, rfl, rfl, rfl⟩

lemma Unchanged.trans {middle : Creature} (first : Unchanged creature middle)
  (second : Unchanged middle after) : Unchanged creature after where
  course := first.course.trans second.course
  conditions := second.conditions.trans first.conditions
  object := second.object.trans first.object
  next := second.next.trans first.next

lemma unchanged_foldl_use (conditions : List Nat) (creature : Creature)
  (listed : ∀ condition ∈ conditions, condition ∈ creature.conditions) :
  Unchanged creature
    (conditions.foldl (fun creature condition => creature.use condition) creature) := by
  induction conditions generalizing creature with
  | nil => exact ⟨Course.refl creature, rfl, rfl, rfl⟩
  | cons condition conditions inductionHypothesis =>
    have first := unchanged_use (.inl (listed condition mem_cons_self))
    refine first.trans (inductionHypothesis (creature.use condition) ?_)
    intro other mem
    exact listed other (mem_cons_of_mem condition mem)

lemma looked_listed {test : Object → Bool} (mem : condition ∈ creature.looked test) :
  condition ∈ creature.conditions := by
  rcases mem_append.1 mem with before | found
  · exact (takeWhile_sublist _).subset before
  · exact mem_of_find?_eq_some (Option.mem_toList.1 found)

lemma unchanged_look (test : Object → Bool) (creature : Creature) :
  Unchanged creature (creature.look test) :=
  unchanged_foldl_use _ creature fun _ mem => looked_listed mem

end Searching

/-! ## Removing -/

section Removing

variable {creature : Creature} {condition : Nat}

def removeTurn (test : Object → Bool) (again : Bool) (creature : Creature) (condition : Nat) :
  Creature :=
  let read := creature.use condition
  if test (read.object condition) then read.finish condition again else read

section

variable (test : Object → Bool)
include test

variable (again : Bool)
include again

lemma removeTurn_course (mem : condition ∈ creature.conditions) :
  Course creature (creature.removeTurn test again condition) := by
  have read := course_use (.inl mem)
  simp only [removeTurn]
  split
  · exact read.trans (course_finish mem)
  · exact read

lemma removeTurn_object :
  (creature.removeTurn test again condition).object = creature.object := by
  simp only [removeTurn]
  split
  · rfl
  · rfl

lemma removeTurn_conditions (condition : Nat) (distinct : creature.conditions.Nodup) :
  (creature.removeTurn test again condition).conditions =
    creature.conditions.filter fun other =>
      !(other == condition && test (creature.object other)) := by
  simp only [removeTurn]
  by_cases found : test (creature.object condition)
  · rw [show (creature.use condition).object = creature.object from rfl, if_pos found]
    refine (distinct.erase_eq_filter condition).trans ?_
    refine filter_congr fun other _ => ?_
    by_cases same : other = condition
    · rw [same, found]
      simp
    · have apart : (other == condition) = false := beq_false_of_ne same
      rw [bne, apart, Bool.false_and]
  · rw [show (creature.use condition).object = creature.object from rfl, if_neg found]
    refine (filter_eq_self.2 fun other _ => ?_).symm
    by_cases same : other = condition
    · rw [same]
      simp [found]
    · simp [same]

lemma foldl_removeTurn (conditions : List Nat) (creature : Creature)
  (listed : ∀ condition ∈ conditions, condition ∈ creature.conditions)
  (distinct : conditions.Nodup) (sound : creature.registry.Sound) :
  Course creature (conditions.foldl (removeTurn test again) creature) ∧
    (conditions.foldl (removeTurn test again) creature).object = creature.object ∧
      (conditions.foldl (removeTurn test again) creature).conditions =
        creature.conditions.filter fun other =>
          !(conditions.contains other && test (creature.object other)) := by
  induction conditions generalizing creature with
  | nil =>
    refine ⟨Course.refl creature, rfl, ?_⟩
    exact (filter_eq_self.2 fun _ _ => rfl).symm
  | cons condition conditions inductionHypothesis =>
    have member := listed condition mem_cons_self
    have turn := removeTurn_course test again member
    have conditions_eq := removeTurn_conditions test again condition sound.nodup
    have object_eq : (creature.removeTurn test again condition).object =
        creature.object := removeTurn_object test again
    rcases nodup_cons.1 distinct with ⟨notIn, distinctRest⟩
    have listedThen :
        ∀ other ∈ conditions, other ∈ (creature.removeTurn test again condition).conditions := by
      intro other inside
      have ne : other ≠ condition := by
        rintro rfl
        exact notIn inside
      rw [conditions_eq, mem_filter]
      refine ⟨listed other (mem_cons_of_mem condition inside), ?_⟩
      simp [ne]
    rcases inductionHypothesis (creature.removeTurn test again condition)
        listedThen distinctRest (turn.sound sound)
      with ⟨course, object, left⟩
    refine ⟨turn.trans course, object.trans object_eq, ?_⟩
    rw [foldl_cons, left, conditions_eq, object_eq, filter_filter]
    refine filter_congr fun other _ => ?_
    rw [contains_cons]
    cases other == condition <;> cases conditions.contains other <;>
      cases test (creature.object other) <;> rfl

end

variable (sound : creature.registry.Sound) (test : Object → Bool) (again : Bool)

include sound

lemma removeWhere_course : Course creature (creature.removeWhere test again) :=
  (foldl_removeTurn test again creature.conditions creature
    (fun _ mem => mem) sound.nodup sound).1

lemma removeWhere_conditions :
  (creature.removeWhere test again).conditions =
    creature.conditions.filter fun other => !test (creature.object other) := by
  refine (foldl_removeTurn test again creature.conditions creature
    (fun _ mem => mem) sound.nodup sound).2.2.trans ?_
  refine filter_congr fun other mem => ?_
  rw [contains_iff_mem.2 mem, Bool.true_and]

lemma removeWhere_reacted (given : ∀ object, test object = true → gone object.key) :
  Reacted gone creature (creature.removeWhere test again) where
  course := removeWhere_course sound test again
  relisted := by
    refine ⟨_, [], (append_nil _).symm, ?_, fun _ mem => absurd mem not_mem_nil⟩
    rw [removeWhere_conditions sound test again]
    exact filter_sublist
  stays := fun condition mem => by
    by_cases found : test (creature.object condition) = true
    · exact .inr (given _ found)
    · left
      rw [removeWhere_conditions sound test again, mem_filter]
      simp [mem, found]

lemma removeConditionType_reacted (given : ∀ id, gone (type, id)) :
  Reacted gone creature (creature.removeConditionType type) := by
  refine removeWhere_reacted sound _ false fun object found => ?_
  rw [show object.key = (type, object.id) from congrArg (·, object.id) (eq_of_beq found)]
  exact given object.id

lemma removeConditionTypeId_reacted (given : gone (type, id)) :
  Reacted gone creature (creature.removeConditionTypeId type id) := by
  refine removeWhere_reacted sound _ false fun object found => ?_
  rw [eq_of_beq found]
  exact given

lemma removeCondition_reacted (given : gone (creature.object condition).key) :
  Reacted gone creature (creature.removeCondition condition) := by
  rw [removeCondition]
  split
  case isFalse => exact Reacted.refl creature
  case isTrue mem =>
    refine ⟨course_finish mem, ⟨_, [], (append_nil _).symm, ?_, fun _ inside =>
      absurd inside not_mem_nil⟩, fun other listed => ?_⟩
    · exact erase_sublist
    · by_cases same : other = condition
      · rw [same]
        exact .inr given
      · exact .inl (sound.nodup.mem_erase_iff.2 ⟨same, listed⟩)

end Removing

/-! ## Starting and executing -/

lemma kind_eq_of_key {build : Build} {other : Object} (same : object.key = other.key) :
  object.kind build = other.kind build := by
  rw [Object.kind, Object.kind, show object.conditionType = other.conditionType from
    congrArg Prod.fst same]

lemma kind_ne_damage_of_harmless (build : Build) (harmless : IsHarmless object.key) :
  object.kind build ≠ .damage := by
  rcases harmless with type | type | type | type
  all_goals
    rw [Object.kind, show object.conditionType = _ from type]
    rcases build with ⟨_ | _⟩
    · decide
    · decide

section Reaction

variable {build : Build} {react : Effect → Creature → Creature} {gone : UInt32 × UInt32 → Prop}
  {creature : Creature} {condition : Nat} {scene : Scene}

lemma wrote_reacted (alive : condition ∈ creature.conditions ∨ condition ∈ creature.pending)
  (same : object.key = (creature.object condition).key) :
  Reacted gone creature ((creature.use condition).write condition object) :=
  ((course_use alive).trans (course_write same)).reacted rfl

lemma renewed_reacted (mem : condition ∈ creature.conditions) :
  Reacted gone creature (creature.note condition .renewed) :=
  (course_note (.renew creature.registry condition mem)).reacted rfl

lemma reactAll_reacted (effects : List Effect)
  (reacts :
    ∀ effect ∈ effects, ∀ creature : Creature,
      creature.registry.Sound → Reacted gone creature (react effect creature))
  (sound : creature.registry.Sound) :
  Reacted gone creature (reactAll react effects creature) := by
  induction effects generalizing creature with
  | nil => exact Reacted.refl creature
  | cons effect effects inductionHypothesis =>
    have first := reacts effect mem_cons_self creature sound
    refine first.trans sound ?_
    refine inductionHypothesis (fun other mem => ?_) (first.course.sound sound)
    exact reacts other (mem_cons_of_mem effect mem)

variable
  (reacts :
    ∀ effect, ∀ creature : Creature,
      creature.registry.Sound → Reacted gone creature (react effect creature))

include reacts

lemma doDamage_reacted
  (scene : Scene) (type : UInt32) (damage : Int32) (sound : creature.registry.Sound) :
  Reacted gone creature (doDamage react scene type damage creature).2 := by
  have met :=
    reactAll_reacted (scene.blow damage).blockEffects (fun effect _ => reacts effect) sound
  have hurt :=
    reactAll_reacted (scene.blow damage).healthEffects (fun effect _ => reacts effect)
      (met.course.sound sound)
  simp only [doDamage]
  split
  · exact Reacted.refl creature
  · split
    · exact met
    · exact met.trans sound hurt

lemma startCondition_reacted
  (waiting : condition ∈ creature.pending) (sound : creature.registry.Sound) :
  Reacted gone creature (startCondition build react scene condition creature).2 := by
  have wrote (object : Object) (same : object.key = (creature.object condition).key) :
      Reacted gone creature ((creature.use condition).write condition object) :=
    wrote_reacted (.inr waiting) same
  have timed :
      (((creature.use condition).object condition).startTime scene.now).key =
        (creature.object condition).key :=
    Object.key_startTime _ _
  simp only [startCondition]
  split
  case h_1 =>
    have started := (Object.key_init scene
      (((creature.use condition).object condition).startTime scene.now)).trans timed
    split
    · split
      · exact wrote _ started
      · have next := (Object.key_getNextDamage
          ((((creature.use condition).object condition).startTime scene.now).init
            scene).2).trans started
        split
        case h_1 object drawn =>
          rw [drawn] at next
          exact wrote object next
        case h_2 damage object drawn =>
          rw [drawn] at next
          refine (wrote object next).trans sound ?_
          exact doDamage_reacted reacts _ _ _ ((wrote object next).course.sound sound)
    · exact wrote _ started
  case h_2 => exact wrote _ timed

lemma mergeCondition_reacted {added : Nat} (mem : condition ∈ creature.conditions)
  (waiting : added ∈ creature.pending) (sound : creature.registry.Sound) :
  Reacted gone creature (mergeCondition build react scene condition added creature) := by
  have read : Reacted gone creature ((creature.use condition).use added) :=
    ((unchanged_use (.inl mem)).trans (unchanged_use (.inr waiting))).reacted
  have wrote (object : Object) (same : object.key = (creature.object condition).key) :
      Reacted gone creature (((creature.use condition).use added).write condition object) := by
    have written :
        Course ((creature.use condition).use added)
          (((creature.use condition).use added).write condition object) :=
      course_write same
    exact read.trans sound (written.reacted rfl)
  have merged (ticks : Int32) :
      Reacted gone creature
        (((creature.use condition).use added).write condition
          ((((creature.use condition).use added).object condition).setTicks scene.now ticks)) :=
    wrote _ rfl
  have taken := Object.key_takeDamage scene
    (((creature.use condition).use added).object condition)
    (((creature.use condition).use added).object added)
  simp only [mergeCondition]
  split
  case h_1 =>
    split
    · split
      case h_1 object took =>
        rw [took] at taken
        exact wrote object taken
      case h_2 damage object took =>
        rw [took] at taken
        refine (wrote object taken).trans sound ?_
        exact doDamage_reacted reacts _ _ _ ((wrote object taken).course.sound sound)
    · exact read
  case h_2 =>
    split
    · exact read
    · split
      · exact read
      · exact merged _
  case h_3 =>
    split
    · exact (merged _).trans sound (renewed_reacted mem)
    · exact read
  case h_4 =>
    split
    · exact merged _
    · exact read

lemma executeCondition_reacted (harmless : ∀ key, gone key → IsHarmless key) (interval : Int32)
  (mem : condition ∈ creature.conditions) (sound : creature.registry.Sound) :
  Reacted gone creature
      (executeCondition build react scene interval condition creature).2 ∧
    condition ∈
      (executeCondition build react scene interval condition creature).2.conditions := by
  have wrote (object : Object) (same : object.key = (creature.object condition).key) :
      Reacted gone creature ((creature.use condition).write condition object) :=
    wrote_reacted (.inl mem) same
  have ticked := Object.key_tick scene interval ((creature.use condition).object condition)
  simp only [executeCondition]
  split
  case h_2 => exact ⟨wrote _ (Object.key_executeTime _ _ _), mem⟩
  case h_1 damage =>
    rcases dueNow : ((creature.use condition).object condition).tick scene interval
      with ⟨due, removes, object⟩
    rw [dueNow] at ticked
    cases due with
    | none =>
      refine ⟨(wrote object ticked).trans sound ((course_write ?_).reacted rfl), mem⟩
      exact Object.key_afterTick scene interval removes _
    | some due =>
      have hit := doDamage_reacted reacts scene
        ((creature.use condition).object condition).conditionType due
        ((wrote object ticked).course.sound sound)
      have stays :
          condition ∈
            (doDamage react scene
              ((creature.use condition).object condition).conditionType due
              ((creature.use condition).write condition object)).2.conditions := by
        refine (hit.stays condition mem).resolve_right fun given => ?_
        refine kind_ne_damage_of_harmless build (harmless _ given) ?_
        rw [write_object_self, kind_eq_of_key ticked]
        exact damage
      have whole := (wrote object ticked).trans sound hit
      have used := whole.trans sound (unchanged_use (.inl stays)).reacted
      refine ⟨used.trans sound ((course_write ?_).reacted rfl), stays⟩
      exact Object.key_afterTick scene interval removes _

omit reacts in
lemma startCondition_of_not_damage (plain : (creature.object condition).kind build ≠ .damage) :
  (startCondition build react scene condition creature).1 = true ∧
    (startCondition build react scene condition creature).2.conditions =
      creature.conditions := by
  have timed :
      (((creature.use condition).object condition).startTime scene.now).kind build =
        (creature.object condition).kind build := by
    exact kind_eq_of_key (Object.key_startTime _ _)
  simp only [startCondition]
  split
  case h_1 damage => exact absurd (timed.symm.trans damage) plain
  case h_2 => exact ⟨rfl, rfl⟩

end Reaction

/-! ## Adding -/

section Adding

variable {build : Build} {react : Effect → Creature → Creature} {gone : UInt32 × UInt32 → Prop}
  {creature : Creature} {object : Object} {scene : Scene}

lemma removeConditionType_course (type : UInt32) (sound : creature.registry.Sound) :
  Course creature (creature.removeConditionType type) :=
  removeWhere_course sound _ false

lemma onAddCondition_course (type : UInt32) (sound : creature.registry.Sound) :
  Course creature (creature.onAddCondition scene type) := by
  have removed (other : UInt32) :
      Course creature
        (if scene.isSuppress other then creature
        else
          if creature.hasCondition scene other then
            (creature.look (runs scene.now other)).removeConditionType other
          else creature.look (runs scene.now other)) := by
    have look := (unchanged_look (runs scene.now other) creature).course
    split
    · exact Course.refl creature
    · split
      · exact look.trans (removeConditionType_course other (look.sound sound))
      · exact look
  simp only [onAddCondition]
  split
  · exact Course.refl creature
  · split
    · exact removed conditionHaste
    · split
      · exact removed conditionParalyze
      · exact Course.refl creature
  · split
    · exact removed conditionHaste
    · split
      · exact removed conditionParalyze
      · exact Course.refl creature

lemma onAddCondition_of_harmless
  (harmless :
    type = conditionInFight ∨ type = conditionInvisible ∨
      type = conditionManaShield ∨ type = conditionRegeneration) :
  creature.onAddCondition scene type = creature := by
  have slow : type ≠ conditionParalyze := by
    rcases harmless with rfl | rfl | rfl | rfl
    all_goals decide
  have fast : type ≠ conditionHaste := by
    rcases harmless with rfl | rfl | rfl | rfl
    all_goals decide
  simp only [onAddCondition, if_neg slow, if_neg fast]
  split
  · rfl
  · rfl
  · rfl

/-- The condition is made and read, and the list searched for its key. -/
def searched (object : Object) (creature : Creature) : Creature :=
  ((creature.make object).use creature.next).look fun other => other.key == object.key

lemma searched_unchanged : Unchanged (creature.make object) (creature.searched object) := by
  have used : Unchanged (creature.make object) ((creature.make object).use creature.next) :=
    unchanged_use (.inr mem_cons_self)
  exact used.trans (unchanged_look _ _)

lemma searched_moves (object : Object) :
  Registry.Moves creature.registry (creature.searched object).registry := by
  refine Relation.ReflTransGen.trans (.single ?_) searched_unchanged.course.moves
  rw [make_registry]
  exact .make creature.registry object.key

lemma searched_pending :
  (creature.searched object).pending = creature.next :: creature.pending :=
  searched_unchanged.course.pending

lemma searched_conditions : (creature.searched object).conditions = creature.conditions :=
  searched_unchanged.conditions

lemma searched_key : ((creature.searched object).object creature.next).key = object.key := by
  rw [searched_unchanged.object, make_object_self]

lemma searched_key_of_listed
  (sound : creature.registry.Sound) (mem : condition ∈ creature.conditions) :
  ((creature.searched object).object condition).key = (creature.object condition).key :=
  ((searched_moves object).kept (sound.held_made condition mem)).2

lemma searched_made : creature.next < (creature.searched object).next := by
  rw [searched_unchanged.next]
  exact Nat.lt_succ_self _

lemma discard_course (course : Course (creature.searched object) after)
  (rejecting : deed = .refused ∨ deed = .merged) :
  Course creature (after.discard creature.next deed) := by
  have pending : after.pending = creature.next :: creature.pending :=
    course.pending.trans searched_pending
  have waiting : after.registry.pending.head? = some creature.next := by
    rw [show after.registry.pending = after.pending from rfl, pending]
    rfl
  refine ⟨((searched_moves object).trans course.moves).tail
    (.reject after.registry creature.next deed waiting rejecting), ?_, ?_⟩
  · rw [show (after.discard creature.next deed).pending = after.pending.tail from rfl, pending]
    rfl
  · exact course.kind.trans searched_unchanged.course.kind

lemma pushBack_course (course : Course (creature.searched object) after)
  (free : object.key ∉ after.conditions.map fun other => (after.object other).key) :
  Course creature ((after.pushBack creature.next).use creature.next) := by
  have pending : after.pending = creature.next :: creature.pending :=
    course.pending.trans searched_pending
  have waiting : after.registry.pending.head? = some creature.next := by
    rw [show after.registry.pending = after.pending from rfl, pending]
    rfl
  have key : (after.object creature.next).key = object.key :=
    (course.key searched_made).trans searched_key
  have accepted : Registry.Move after.registry (after.pushBack creature.next).registry := by
    refine .accept after.registry creature.next waiting ?_
    rw [show after.registry.key creature.next = (after.object creature.next).key from rfl, key]
    exact free
  have used :
      Course (after.pushBack creature.next) ((after.pushBack creature.next).use creature.next) :=
    course_use (.inl (mem_append_right _ mem_cons_self))
  refine ⟨(((searched_moves object).trans course.moves).tail accepted).trans used.moves, ?_, ?_⟩
  · refine used.pending.trans ?_
    rw [show (after.pushBack creature.next).pending = after.pending.tail from rfl, pending]
    rfl
  · exact used.kind.trans (course.kind.trans searched_unchanged.course.kind)

lemma key_ne_of_getCondition_none
  (absent : creature.getCondition object.conditionType object.id = none)
  (mem : condition ∈ creature.conditions) : (creature.object condition).key ≠ object.key := by
  intro same
  refine List.find?_eq_none.1 absent condition mem ?_
  rw [same]
  exact beq_self_eq_true _

lemma mem_of_getCondition (found : creature.getCondition type id = some condition) :
  condition ∈ creature.conditions :=
  mem_of_find?_eq_some found

/-- The key is still free after the start: a damage condition's start adds harmless
conditions only, and no other start adds any. -/
lemma free_of_started (build : Build) (sound : creature.registry.Sound)
  (absent : creature.getCondition object.conditionType object.id = none)
  (started : Reacted gone (creature.searched object) after)
  (adds : object.kind build = .damage ∨
    after.conditions = (creature.searched object).conditions) :
  object.key ∉ after.conditions.map fun other => (after.object other).key := by
  have listed {condition : Nat} (mem : condition ∈ (creature.searched object).conditions) :
      (after.object condition).key ≠ object.key := by
    have soundThen := (searched_moves object).sound sound
    rw [started.course.key (soundThen.held_made condition mem)]
    rw [searched_conditions] at mem
    rw [searched_key_of_listed sound mem]
    exact key_ne_of_getCondition_none absent mem
  intro taken
  rcases mem_map.1 taken with ⟨condition, mem, same⟩
  rcases adds with damage | unchanged
  · rcases started.relisted with ⟨kept, added, split, sublist, harmless⟩
    rw [split] at mem
    rcases mem_append.1 mem with old | new
    · exact listed (sublist.subset old) same
    · have deals := harmless condition new
      rw [same] at deals
      exact kind_ne_damage_of_harmless build deals damage
  · rw [unchanged] at mem
    exact listed mem same

lemma addConditionWith_course
  (reacts :
    ∀ effect, ∀ creature : Creature,
      creature.registry.Sound → Reacted gone creature (react effect creature))
  (condition : Option Object) (sound : creature.registry.Sound) :
  Course creature (addConditionWith build react scene condition creature).2 := by
  cases condition with
  | none => exact Course.refl creature
  | some object =>
    have soundThen := (searched_moves object).sound sound
    have waiting : creature.next ∈ (creature.searched object).pending := by
      rw [searched_pending]
      exact mem_cons_self
    simp only [addConditionWith]
    rw [← searched]
    split
    case h_1 previous found =>
      refine discard_course (mergeCondition_reacted reacts ?_ waiting soundThen).course (.inr rfl)
      rw [searched_conditions]
      exact mem_of_getCondition found
    case h_2 absent =>
      have started :
          Reacted gone (creature.searched object)
            (startCondition build react scene creature.next (creature.searched object)).2 :=
        startCondition_reacted reacts waiting soundThen
      have plain (other : object.kind build ≠ .damage) :
          (startCondition build react scene creature.next
            (creature.searched object)).2.conditions = (creature.searched object).conditions :=
        (startCondition_of_not_damage (by rw [kind_eq_of_key searched_key]; exact other)).2
      generalize startCondition build react scene creature.next
        (creature.searched object) = outcome at started plain
      rcases outcome with ⟨_ | _, after⟩
      · exact discard_course started.course (.inl rfl)
      · have free := free_of_started build sound absent started
          (Classical.or_iff_not_imp_left.2 plain)
        have pushed := pushBack_course started.course free
        exact pushed.trans (onAddCondition_course _ (pushed.sound sound))

/-- What adding a harmless condition does to the list after the key was searched. -/
lemma addConditionWith_of_harmless
  (reacts :
    ∀ effect, ∀ creature : Creature,
      creature.registry.Sound → Reacted gone creature (react effect creature))
  (plain : IsHarmless object.key) (sound : creature.registry.Sound) :
  ∃ after,
    Reacted gone (creature.searched object) after ∧
      (addConditionWith build react scene (some object) creature).2.object =
          after.object ∧
        ((addConditionWith build react scene (some object) creature).2.conditions =
            after.conditions ∨
          (addConditionWith build react scene (some object) creature).2.conditions =
            after.conditions ++ [creature.next]) := by
  have soundThen := (searched_moves object).sound sound
  have waiting : creature.next ∈ (creature.searched object).pending := by
    rw [searched_pending]
    exact mem_cons_self
  simp only [addConditionWith]
  rw [← searched]
  split
  case h_1 previous found =>
    have listed : previous ∈ (creature.searched object).conditions := by
      rw [searched_conditions]
      exact mem_of_getCondition found
    exact ⟨_, mergeCondition_reacted reacts listed waiting soundThen, rfl, .inl rfl⟩
  case h_2 absent =>
    have started :
        Reacted gone (creature.searched object)
          (startCondition build react scene creature.next (creature.searched object)).2 :=
      startCondition_reacted reacts waiting soundThen
    generalize startCondition build react scene creature.next
      (creature.searched object) = outcome at started
    rcases outcome with ⟨_ | _, after⟩
    · exact ⟨after, started, rfl, .inl rfl⟩
    · have quiet (pushed : Creature) : pushed.onAddCondition scene object.conditionType = pushed :=
        onAddCondition_of_harmless plain
      refine ⟨after, started, ?_⟩
      simp only [quiet]
      exact ⟨rfl, .inr rfl⟩

lemma addConditionWith_reacted
  (reacts :
    ∀ effect, ∀ creature : Creature,
      creature.registry.Sound → Reacted gone creature (react effect creature))
  (plain : IsHarmless object.key) (sound : creature.registry.Sound) :
  Reacted gone creature (addConditionWith build react scene (some object) creature).2 := by
  have course : Course creature (addConditionWith build react scene (some object) creature).2 :=
    addConditionWith_course reacts (some object) sound
  rcases addConditionWith_of_harmless reacts plain sound with ⟨after, reacted, objects, conditions⟩
  rcases reacted.relisted with ⟨kept, added, split, sublist, fresh⟩
  rw [searched_conditions] at sublist
  refine ⟨course, ?_, fun condition mem => ?_⟩
  · rcases conditions with same | longer
    · refine ⟨kept, added, same.trans split, sublist, ?_⟩
      rw [objects]
      exact fresh
    · refine ⟨kept, added ++ [creature.next], ?_, sublist, fun condition mem => ?_⟩
      · rw [longer, split, append_assoc]
      · rw [objects]
        rcases mem_append.1 mem with old | new
        · exact fresh condition old
        · rw [mem_singleton.1 new, reacted.course.key searched_made, searched_key]
          exact plain
  · have stays := reacted.stays condition (searched_conditions.symm ▸ mem)
    rw [searched_key_of_listed sound mem] at stays
    refine stays.imp_left fun listed => ?_
    rcases conditions with same | longer
    · rw [same]
      exact listed
    · rw [longer]
      exact mem_append_left _ listed

end Adding

/-! ## What a hit does -/

section Effects

variable {build : Build} {gone : UInt32 × UInt32 → Prop} {creature : Creature}

lemma addPlain_reacted {now : Int} {ticks : Int32} (harmless : IsHarmless (type, id))
  (sound : creature.registry.Sound) :
  Reacted gone creature (creature.addPlain build now id type ticks) := by
  rw [addPlain, Object.createCondition]
  cases kindOf build type with
  | none => exact Reacted.refl creature
  | some kind =>
    exact addConditionWith_reacted (fun _ creature _ => Reacted.refl creature) harmless sound

lemma equipItem_reacted
  (slot : UInt32) (abilities : Abilities) (now : Int) (sound : creature.registry.Sound) :
  Reacted gone creature (creature.equipItem build slot abilities now) := by
  have first :
      Reacted gone creature
        (if abilities.invisible then
          creature.addPlain build now slot conditionInvisible (-1)
        else creature) := by
    split
    · exact addPlain_reacted (.inr (.inl rfl)) sound
    · exact Reacted.refl creature
  have second {middle : Creature} (soundThen : middle.registry.Sound) :
      Reacted gone middle
        (if abilities.manaShield then
          middle.addPlain build now slot conditionManaShield (-1)
        else middle) := by
    split
    · exact addPlain_reacted (.inr (.inr (.inl rfl))) soundThen
    · exact Reacted.refl middle
  have third {middle : Creature} (soundThen : middle.registry.Sound) :
      Reacted gone middle
        (if abilities.regeneration then
          middle.addPlain build now slot conditionRegeneration (-1)
        else middle) := by
    split
    · exact addPlain_reacted (.inr (.inr (.inr rfl))) soundThen
    · exact Reacted.refl middle
  have two := first.trans sound (second (first.course.sound sound))
  exact two.trans sound (third (two.course.sound sound))

lemma deEquipItem_reacted
  (slot : UInt32) (abilities : Abilities) (sound : creature.registry.Sound) :
  Reacted (fun key => (Effect.deEquipItem slot abilities).givesUp key) creature
    (creature.deEquipItem slot abilities) := by
  have first :
      Reacted (fun key => (Effect.deEquipItem slot abilities).givesUp key) creature
        (if abilities.invisible then
          creature.removeConditionTypeId conditionInvisible slot
        else creature) := by
    split
    case isTrue given =>
      exact removeConditionTypeId_reacted sound (by simp [Effect.givesUp, given])
    case isFalse => exact Reacted.refl creature
  have second {middle : Creature} (soundThen : middle.registry.Sound) :
      Reacted (fun key => (Effect.deEquipItem slot abilities).givesUp key) middle
        (if abilities.manaShield then
          middle.removeConditionTypeId conditionManaShield slot
        else middle) := by
    split
    case isTrue given =>
      exact removeConditionTypeId_reacted soundThen (by simp [Effect.givesUp, given])
    case isFalse => exact Reacted.refl middle
  have third {middle : Creature} (soundThen : middle.registry.Sound) :
      Reacted (fun key => (Effect.deEquipItem slot abilities).givesUp key) middle
        (if abilities.regeneration then
          middle.removeConditionTypeId conditionRegeneration slot
        else middle) := by
    split
    case isTrue given =>
      exact removeConditionTypeId_reacted soundThen (by simp [Effect.givesUp, given])
    case isFalse => exact Reacted.refl middle
  have two := first.trans sound (second (first.course.sound sound))
  exact two.trans sound (third (two.course.sound sound))

lemma drainHealth_reacted (now : Int) (sound : creature.registry.Sound) :
  Reacted (fun key => (Effect.drainHealth now).givesUp key) creature
    (creature.drainHealth now) := by
  have look := (unchanged_look (runs now conditionInvisible) creature)
  simp only [drainHealth]
  split
  · refine look.reacted.trans sound ?_
    refine removeConditionType_reacted (look.course.sound sound) fun id => ?_
    simp [Effect.givesUp]
  · exact look.reacted

lemma affect_reacted (effect : Effect) (sound : creature.registry.Sound) :
  Reacted (fun key => effect.givesUp key) creature (affect build effect creature) := by
  unfold affect
  split
  · exact addPlain_reacted (.inl rfl) sound
  · exact equipItem_reacted _ _ _ sound
  · exact deEquipItem_reacted _ _ sound
  · exact drainHealth_reacted _ sound
  · exact Reacted.refl creature

lemma harmless_of_givesUp {effect : Effect} {key : UInt32 × UInt32}
  (given : effect.givesUp key = true) : IsHarmless key := by
  cases effect with
  | addInFightTicks | equipItem => cases given
  | drainHealth now => exact .inr (.inl (eq_of_beq given))
  | deEquipItem slot abilities =>
    simp only [Effect.givesUp, Bool.and_eq_true, Bool.or_eq_true, beq_iff_eq] at given
    rcases given.2 with (first | second) | third
    · exact .inr (.inl first.2)
    · exact .inr (.inr (.inl second.2))
    · exact .inr (.inr (.inr third.2))

lemma affect_harmless (effect : Effect) (creature : Creature) (sound : creature.registry.Sound) :
  Reacted IsHarmless creature (affect build effect creature) :=
  (affect_reacted effect sound).mono fun _ given => harmless_of_givesUp given

lemma affectAll_reacted (effects : List Effect) (sound : creature.registry.Sound) :
  Reacted (fun key => ∃ effect ∈ effects, effect.givesUp key) creature
    (creature.affectAll build effects) := by
  refine reactAll_reacted effects (fun effect mem creature soundThen => ?_) sound
  exact (affect_reacted effect soundThen).mono fun key given => ⟨effect, mem, given⟩

end Effects

end Creature

end OTServ.Conditions
