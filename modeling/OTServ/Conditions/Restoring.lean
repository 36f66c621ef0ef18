import OTServ.Conditions.Condition

/-!
# What is read back of a condition

`Fed` follows the tagged values of a condition into the members they are stored in.
Every class reads all that it wrote and stops at the byte behind it, so the bytes of
a condition are taken exactly (`stored_reads`) and the conditions of a player come
back one by one (`load_save`).  `restored` is the condition which comes back.
-/

namespace OTServ.Conditions

open Library.ByteStreams
open MapStore
open List

inductive Fed : Condition → Stream → Condition → Prop
  | done (condition : Condition) : Fed condition [] condition
  | tag
      {condition next last : Condition} {attr : UInt8} {bytes more : Stream} :
      attr ≠ attrEnd →
      Reads (unserializeClass condition attr) bytes next →
      Fed next more last →
      Fed condition (tagged attr bytes ++ more) last

variable {attr : UInt8} {build : Build} {condition : Condition} {conditions : List Condition}

section Fed

variable {condition next last : Condition} {bytes more : Stream}

lemma Fed.one
  (open_tag : attr ≠ attrEnd) (reads : Reads (unserializeClass condition attr) bytes next) :
  Fed condition (tagged attr bytes) next := by
  have fed := Fed.tag open_tag reads (.done next)
  rwa [append_nil] at fed

lemma Fed.append (fed : Fed condition bytes next) (then_fed : Fed next more last) :
  Fed condition (bytes ++ more) last := by
  induction fed with
  | done condition => exact then_fed
  | tag open_tag reads _ ih =>
    rw [append_assoc]
    exact .tag open_tag reads (ih then_fed)

lemma Fed.rounds (fed : Fed condition bytes last) :
  ∀ (rounds : Nat) (rest : Stream), bytes.length < rounds →
    unserializeRounds rounds condition
        (bytes ++ (addUInt8 attrEnd ++ rest)) =
      (some last, rest) := by
  induction fed with
  | done condition =>
    intro rounds rest enough
    cases rounds with
    | zero => exact absurd enough (Nat.not_lt_zero _)
    | succ rounds =>
      have read := getUInt8_reads attrEnd rest
      simp only [nil_append, unserializeRounds, read, if_true]
  | @tag condition next last attr bytes more open_tag reads _ ih =>
    intro rounds rest enough
    have shorter : more.length < rounds - 1 := by
      rw [length_append, tagged, length_append] at enough
      have byte : (addUInt8 attr).length = 1 := littleEndian_length 1 _
      omega
    cases rounds with
    | zero => exact absurd enough (Nat.not_lt_zero _)
    | succ rounds =>
      have tag := getUInt8_reads attr (bytes ++ (more ++ (addUInt8 attrEnd ++ rest)))
      have value := reads (more ++ (addUInt8 attrEnd ++ rest))
      simp only [tagged, append_assoc, unserializeRounds, tag, if_neg open_tag, value]
      exact ih rounds rest shorter

lemma Fed.unserialize (fed : Fed condition bytes last) :
  Reads condition.unserialize (bytes ++ addUInt8 attrEnd) last := by
  intro rest
  rw [Condition.unserialize, append_assoc]
  apply fed.rounds
  rw [length_append]
  omega

end Fed

/-! ## The members -/

def runTicks (ticks : Int32) (damageList : List IntervalInfo) : Int32 :=
  damageList.foldl
    (fun ticks info => if ticks ≠ -1 then ticks + info.interval else ticks)
    ticks

lemma getIntervalInfo_reads (info : IntervalInfo) :
  Reads getIntervalInfo
    (addInt32 info.timeLeft ++ (addInt32 info.value ++ addInt32 info.interval))
    info :=
  (getInt32_reads info.timeLeft).andThen
    ((getInt32_reads info.value).andThen
      ((getInt32_reads info.interval).map fun interval => { info with interval := interval }))

lemma getOutfit_reads (outfit : Outfit) :
  Reads getOutfit
    (addUInt32 outfit.lookType ++ (addUInt32 outfit.lookTypeEx ++
      (addUInt32 outfit.lookHead ++ (addUInt32 outfit.lookBody ++
        (addUInt32 outfit.lookLegs ++ addUInt32 outfit.lookFeet)))))
    outfit :=
  (getUInt32_reads outfit.lookType).andThen
    ((getUInt32_reads outfit.lookTypeEx).andThen
      ((getUInt32_reads outfit.lookHead).andThen
        ((getUInt32_reads outfit.lookBody).andThen
          ((getUInt32_reads outfit.lookLegs).andThen
            ((getUInt32_reads outfit.lookFeet).map fun lookFeet =>
              { outfit with lookFeet := lookFeet })))))

section Members

variable (type id : UInt32) (ticks : Int32) (outside : Bool)

lemma fed_damageList (damageList : List IntervalInfo) (members : ConditionDamage) :
  Fed ⟨type, id, ticks, .damage members, outside⟩
    (damageList.flatMap IntervalInfo.serialize)
    ⟨type, id, runTicks ticks damageList,
      .damage { members with damageList := members.damageList ++ damageList },
      outside⟩ := by
  induction damageList generalizing ticks members with
  | nil =>
    rw [append_nil]
    exact .done _
  | cons info damageList ih =>
    rw [flatMap_cons]
    have reads :
        Reads
          (unserializeClass ⟨type, id, ticks, .damage members, outside⟩ attrIntervalData)
          (addInt32 info.timeLeft ++ (addInt32 info.value ++ addInt32 info.interval))
          (Condition.pushDamage ⟨type, id, ticks, .damage members, outside⟩ members info) :=
      (getIntervalInfo_reads info).map _
    have later :=
      ih (if ticks ≠ -1 then ticks + info.interval else ticks)
        { members with damageList := members.damageList ++ [info] }
    rw [append_assoc] at later
    exact Fed.append (.one (by decide) reads) later

lemma fed_damage (members : ConditionDamage) :
  Fed ⟨type, id, ticks, .damage {}, outside⟩ members.serialize
    ⟨type, id, runTicks ticks members.damageList,
      .damage
        { delayed := members.delayed
          periodDamage := members.periodDamage
          owner := members.owner
          damageList := members.damageList },
      outside⟩ := by
  have delayed :
      Reads
        (unserializeClass ⟨type, id, ticks, .damage {}, outside⟩ attrDelayed)
        (addUInt8 (if members.delayed then 1 else 0))
        ⟨type, id, ticks, .damage { delayed := members.delayed }, outside⟩ := by
    have reads :=
      (getUInt8_reads (if members.delayed then 1 else 0)).map
        fun value : UInt8 => Condition.mk type id ticks (.damage { delayed := value != 0 }) outside
    cases delayed : members.delayed <;> rw [delayed] at reads <;> exact reads
  refine Fed.append (.one (by decide) delayed) ?_
  refine Fed.append (.one (by decide) ((getInt32_reads members.periodDamage).map _)) ?_
  refine Fed.append (.one (by decide) ((getUInt32_reads members.owner).map _)) ?_
  exact fed_damageList type id ticks outside members.damageList _

lemma fed_speed (members start : ConditionSpeed) :
  Fed ⟨type, id, ticks, .speed start, outside⟩ members.serialize
    ⟨type, id, ticks, .speed members, outside⟩ := by
  refine Fed.append (.one (by decide) ((getInt32_reads members.speedDelta).map _)) ?_
  refine Fed.append (.one (by decide) ((getUInt32_reads members.mina).map _)) ?_
  refine Fed.append (.one (by decide) ((getUInt32_reads members.minb).map _)) ?_
  refine Fed.append (.one (by decide) ((getUInt32_reads members.maxa).map _)) ?_
  exact .one (by decide) ((getUInt32_reads members.maxb).map _)

lemma fed_outfits (outfits before : List Outfit) :
  Fed ⟨type, id, ticks, .outfit before, outside⟩
    (outfits.flatMap Outfit.serialize)
    ⟨type, id, ticks, .outfit (before ++ outfits), outside⟩ := by
  induction outfits generalizing before with
  | nil =>
    rw [append_nil]
    exact .done _
  | cons outfit outfits ih =>
    have later := ih (before ++ [outfit])
    rw [append_assoc] at later
    exact Fed.append (.one (by decide) ((getOutfit_reads outfit).map _)) later

lemma fed_light (members start : ConditionLight) :
  Fed ⟨type, id, ticks, .light start, outside⟩ members.serialize
    ⟨type, id, ticks, .light members, outside⟩ := by
  refine Fed.append (.one (by decide) ((getUInt32_reads members.color).map _)) ?_
  refine Fed.append (.one (by decide) ((getUInt32_reads members.level).map _)) ?_
  refine Fed.append (.one (by decide) ((getUInt32_reads members.internalLightTicks).map _)) ?_
  exact .one (by decide) ((getUInt32_reads members.lightChangeInterval).map _)

lemma fed_regeneration (members start : ConditionRegeneration) :
  Fed ⟨type, id, ticks, .regeneration start, outside⟩ members.serialize
    ⟨type, id, ticks, .regeneration members, outside⟩ := by
  refine Fed.append (.one (by decide) ((getUInt32_reads members.healthTicks).map _)) ?_
  refine Fed.append (.one (by decide) ((getUInt32_reads members.healthGain).map _)) ?_
  refine Fed.append (.one (by decide) ((getUInt32_reads members.manaTicks).map _)) ?_
  exact .one (by decide) ((getUInt32_reads members.manaGain).map _)

lemma fed_soul (members start : ConditionSoul) :
  Fed ⟨type, id, ticks, .soul start, outside⟩ members.serialize
    ⟨type, id, ticks, .soul members, outside⟩ := by
  refine Fed.append (.one (by decide) ((getUInt32_reads members.soulGain).map _)) ?_
  exact .one (by decide) ((getUInt32_reads members.soulTicks).map _)

/-- The values for the skills are stored from the cursor on, also behind the end. -/
lemma fed_skills (skill : attr = attrSkills ∨ attr = attrSkillsPercent) (values : List Int32)
  (members : ConditionAttributes) :
  ∃ skills behind,
    Fed ⟨type, id, ticks, .attributes members, outside⟩
        (values.flatMap fun value => tagged attr (addInt32 value))
        ⟨type, id, ticks,
          .attributes
            { members with
              skills := skills
              currentSkill := members.currentSkill + values.length },
          behind⟩ ∧
      skills.length = members.skills.length ∧
      (outside = true → behind = true) ∧
      (members.skills.length < members.currentSkill + values.length →
        values ≠ [] → behind = true) := by
  induction values generalizing members outside with
  | nil =>
    exact ⟨members.skills, outside, .done _, rfl, fun out => out, fun _ none => absurd rfl none⟩
  | cons value values ih =>
    have reads :
        Reads
          (unserializeClass ⟨type, id, ticks, .attributes members, outside⟩ attr)
          (addInt32 value)
          (Condition.storeSkill
            ⟨type, id, ticks, .attributes members, outside⟩ members
            value) := by
      rcases skill with rfl | rfl <;> exact (getInt32_reads value).map _
    have open_tag : attr ≠ attrEnd := by
      rcases skill with rfl | rfl <;> decide
    rcases ih (outside || !(members.currentSkill < members.skills.length))
        { members with
          skills := members.skills.set members.currentSkill value
          currentSkill := members.currentSkill + 1 } with
      ⟨skills, behind, fed, length, kept, reached⟩
    rw [length_set] at length
    have cursor :
        members.currentSkill + 1 + values.length =
          members.currentSkill + (value :: values).length := by
      rw [length_cons]
      omega
    rw [cursor] at fed
    refine ⟨skills, behind, ?_, length, ?_, ?_⟩
    · rw [flatMap_cons]
      exact Fed.append (.one open_tag reads) fed
    · intro out
      exact kept (by rw [out]; rfl)
    · intro long _
      rw [length_cons] at long
      by_cases last : values = []
      · subst last
        have outside : ¬ members.currentSkill < members.skills.length := by
          rw [length_nil] at long
          omega
        exact kept (by rw [decide_eq_false outside, Bool.not_false, Bool.or_true])
      · refine reached ?_ last
        simp only [length_set]
        omega

lemma fed_stats (values : List Int32) (members : ConditionAttributes) :
  ∃ stats behind,
    Fed ⟨type, id, ticks, .attributes members, outside⟩
        (values.flatMap fun value => tagged attrStats (addInt32 value))
        ⟨type, id, ticks,
          .attributes
            { members with
              stats := stats
              currentStat := members.currentStat + values.length },
          behind⟩ ∧
      (outside = true → behind = true) := by
  induction values generalizing members outside with
  | nil => exact ⟨members.stats, outside, .done _, fun out => out⟩
  | cons value values ih =>
    rcases ih (outside || !(members.currentStat < members.stats.length))
        { members with
          stats := members.stats.set members.currentStat value
          currentStat := members.currentStat + 1 } with
      ⟨stats, behind, fed, kept⟩
    have cursor :
        members.currentStat + 1 + values.length =
          members.currentStat + (value :: values).length := by
      rw [length_cons]
      omega
    rw [cursor] at fed
    refine ⟨stats, behind, ?_, fun out => kept (by rw [out]; rfl)⟩
    rw [flatMap_cons]
    exact Fed.append (.one (by decide) ((getInt32_reads value).map _)) fed

lemma fed_attributes {members start : ConditionAttributes}
  (room : start.skills.length = skillCount) (begin : start.currentSkill = 0)
  (skills : members.skills.length = skillCount)
  (percents : members.skillsPercent.length = skillCount) :
  ∃ read,
    Fed ⟨type, id, ticks, .attributes start, outside⟩ members.serialize
      ⟨type, id, ticks, .attributes read, true⟩ := by
  rcases fed_skills type id ticks outside (.inl rfl) members.skills start with
    ⟨first, outside', fed, length, _, _⟩
  rcases fed_skills type id ticks outside' (.inr rfl) members.skillsPercent
      { start with
        skills := first
        currentSkill := start.currentSkill + members.skills.length } with
    ⟨second, outside'', fed', _, _, reached⟩
  have some : members.skillsPercent ≠ [] := by
    intro none
    rw [none] at percents
    exact absurd percents (by decide)
  have behind : outside'' = true := by
    refine reached ?_ some
    simp only [length, room, begin, skills, percents]
    decide
  rcases fed_stats type id ticks outside'' members.stats
      { start with
        skills := second
        currentSkill :=
          start.currentSkill + members.skills.length + members.skillsPercent.length } with
    ⟨stats, outside''', fed'', kept⟩
  rw [kept behind] at fed''
  exact ⟨_, fed.append (fed'.append fed'')⟩

end Members

structure Built (build : Build) (condition : Condition) : Prop where
  kind : kindOf build condition.conditionType = some condition.body.kind
  inside : condition.outside = false
  sizes :
    ∀ members, condition.body = .attributes members →
      members.skills.length = skillCount ∧
        members.skillsPercent.length = skillCount ∧
        members.stats.length = statCount build ∧
        members.statsPercent.length = statCount build

lemma expectUInt32_reads (attr : UInt8) (value : UInt32) :
  Reads (expectUInt32 attr) (tagged attr (addUInt32 value)) value := by
  refine (getUInt8_reads attr).andThen ?_
  rw [if_pos rfl]
  exact getUInt32_reads value

lemma readCondition_reads (built : Built build condition) :
  Reads (readCondition build)
    (tagged attrType (addUInt32 condition.conditionType) ++
      (tagged attrId (addUInt32 condition.id) ++
        (tagged attrTicks (addInt32 condition.ticks) ++ [])))
    (condition.body.kind.construct build condition.id condition.conditionType
      condition.ticks 0) := by
  refine (expectUInt32_reads attrType condition.conditionType).andThen ?_
  refine (expectUInt32_reads attrId condition.id).andThen ?_
  refine (expectUInt32_reads attrTicks condition.ticks.toUInt32).andThen ?_
  intro rest
  rw [createCondition, built.kind, Int32.toInt32_toUInt32]
  rfl

/-- `createCondition` and `unserialize`, as `loadPlayer` calls them. -/
def readStored (build : Build) : Reader Condition :=
  (readCondition build).andThen Condition.unserialize

def restoredBody : Body → Body
  | .damage members =>
    .damage
      { delayed := members.delayed
        periodDamage := members.periodDamage
        owner := members.owner
        damageList := members.damageList }
  | body => body

/-- The ticks of a damage condition are counted anew from its list. -/
def restoredTicks (condition : Condition) : Int32 :=
  match condition.body with
  | .damage members => runTicks 0 members.damageList
  | _ => condition.ticks

def Restores (condition loaded : Condition) : Prop :=
  match condition.body with
  | .attributes _ => loaded.outside = true
  | body =>
    loaded =
      ⟨condition.conditionType, condition.id, restoredTicks condition, restoredBody body, false⟩

lemma stored_reads (built : Built build condition) :
  ∃ loaded, Reads (readStored build) condition.stored loaded ∧ Restores condition loaded := by
  have head := readCondition_reads built
  have whole {loaded : Condition}
      (fed :
        Fed
          (condition.body.kind.construct build condition.id
            condition.conditionType condition.ticks 0)
          condition.body.serialize loaded) :
      Reads (readStored build) condition.stored loaded := by
    have reads := head.andThen fed.unserialize
    exact reads
  rcases condition with ⟨type, id, ticks, body, outside⟩
  cases body with
  | generic => exact ⟨_, whole (.done _), rfl⟩
  | damage members => exact ⟨_, whole (fed_damage type id 0 false members), rfl⟩
  | speed members => exact ⟨_, whole (fed_speed type id ticks false members _), rfl⟩
  | outfit outfits => exact ⟨_, whole (fed_outfits type id ticks false outfits []), rfl⟩
  | light members => exact ⟨_, whole (fed_light type id ticks false members _), rfl⟩
  | regeneration members =>
    exact ⟨_, whole (fed_regeneration type id ticks false members _), rfl⟩
  | soul members => exact ⟨_, whole (fed_soul type id ticks false members _), rfl⟩
  | attributes members =>
    have sizes := built.sizes members rfl
    rcases @fed_attributes type id ticks false members
        { skills := List.replicate skillCount 0
          skillsPercent := List.replicate skillCount 0
          stats := List.replicate (statCount build) 0
          statsPercent := List.replicate (statCount build) 0 }
        (length_replicate) rfl sizes.1 sizes.2.1 with ⟨read, fed⟩
    exact ⟨_, whole fed, rfl⟩

lemma andThen_some {α β : Type} {read : Reader α} {next : α → Reader β} {stream rest : Stream}
  {result : β} (both : read.andThen next stream = (some result, rest)) :
  ∃ value between,
    read stream = (some value, between) ∧ next value between = (some result, rest) := by
  rw [Reader.andThen] at both
  split at both
  · rename_i value between first
    exact ⟨value, between, first, both⟩
  · cases both

lemma stored_length (condition : Condition) : 0 < condition.stored.length := by
  rw [Condition.stored, length_append]
  have byte : (addUInt8 attrEnd).length = 1 := littleEndian_length 1 _
  omega

variable (built : ∀ condition ∈ conditions, Built build condition)
include built

lemma loadRounds_stored :
  ∀ rounds, (conditions.flatMap Condition.stored).length < rounds →
    List.Forall₂ Restores conditions
      (loadRounds build rounds (conditions.flatMap Condition.stored)) := by
  induction conditions with
  | nil =>
    intro rounds enough
    cases rounds with
    | zero => exact absurd enough (Nat.not_lt_zero _)
    | succ rounds => exact .nil
  | cons condition conditions ih =>
    intro rounds enough
    rw [flatMap_cons, length_append] at enough
    have some_bytes := stored_length condition
    rcases stored_reads (built condition mem_cons_self) with ⟨loaded, reads, restores⟩
    rcases andThen_some (reads (conditions.flatMap Condition.stored)) with
      ⟨created, between, first, second⟩
    cases rounds with
    | zero => exact absurd enough (Nat.not_lt_zero _)
    | succ rounds =>
      rw [flatMap_cons, loadRounds, first]
      simp only [second]
      exact .cons restores
        (ih (fun other among => built other (mem_cons_of_mem _ among)) rounds (by omega))

lemma load_save :
  List.Forall₂ Restores (conditions.filter Condition.isPersistent)
    (loadConditions build (saveConditions conditions)) := by
  apply loadRounds_stored
  · intro condition among
    exact built condition (mem_of_mem_filter among)
  · exact Nat.lt_succ_self _

end OTServ.Conditions
