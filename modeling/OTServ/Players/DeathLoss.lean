import Mathlib.Data.Rat.Cast.Order
import OTServ.Players.Experience

/-!
# What a player loses by dying

A share of all mana ever spent and of all tries of every skill is lost, and of the
experience.  `die` goes down the magic levels and the levels of the skills, and tells
the level that the reduced experience is enough for; `preSave` reduces the experience
and goes down to that level.
-/

namespace OTServ.Players.Dying

open Library.Levels

/-- Numbers of type `double` as far as the losses need them. -/
structure Doubles where
  round : ℚ → ℚ
  mono : Monotone round
  whole (value : Nat) : value < 2 ^ 53 → round value = value

structure Vocation where
  getReqMana : Nat → Nat
  getReqSkillTries : Fin 7 → Nat → Nat
  gainHP : Nat
  gainMana : Nat
  gainCap : Nat

structure Skill where
  level : Nat
  tries : Nat

/-- `setLossPercent` lets no percentage be more than 100. -/
structure LossPercent where
  experience : Nat
  manaSpent : Nat
  skillTries : Nat
  atMost : experience ≤ 100 ∧ manaSpent ≤ 100 ∧ skillTries ≤ 100

structure Player where
  level : Nat
  experience : Nat
  magLevel : Nat
  manaSpent : Nat
  magLevelPercent : Nat
  skills : Fin 7 → Skill
  skillLoss : Bool
  lossPercent : LossPercent
  vocationId : Nat
  health : Int
  healthMax : Int
  mana : Int
  manaMax : Int
  capacity : ℚ

variable (doubles : Doubles) (vocations : Nat → Vocation) (levelToRook : Nat)

def Player.vocation (player : Player) : Vocation := vocations player.vocationId

/-- A magic level or the level of a skill, what the levels above the lowest one take,
and the percentage that is lost. -/
structure Progress where
  req : Nat → Nat
  lowest : Nat
  level : Nat
  rest : Nat
  percent : Nat

def Player.magic (player : Player) : Progress :=
  ⟨(player.vocation vocations).getReqMana, 0, player.magLevel, player.manaSpent,
    player.lossPercent.manaSpent⟩

def Player.skill (player : Player) (skill : Fin 7) : Progress :=
  ⟨(player.vocation vocations).getReqSkillTries skill, 10, (player.skills skill).level,
    (player.skills skill).tries, player.lossPercent.skillTries⟩

/-- `std::ceil(sum * ((double)percent / 100))` -/
def lostAmount (sum percent : Nat) : Nat :=
  ⌈doubles.round (sum * doubles.round (percent / 100))⌉.toNat

/-- `std::max((int32_t)0, (int32_t)value)` -/
def kept (value : Nat) : Nat := if value < 2 ^ 31 then value else 0

def Progress.sum (progress : Progress) : Nat :=
  total progress.req progress.lowest progress.level progress.rest

def Progress.lost (progress : Progress) : Nat :=
  lostAmount doubles (progress.sum % 2 ^ 32) progress.percent

def Progress.left (progress : Progress) : Nat × Nat :=
  let left :=
    descend progress.req progress.lowest progress.level progress.rest (progress.lost doubles)
  (left.1, kept left.2)

def Player.getLostExperience (player : Player) : Nat :=
  if player.skillLoss then
    player.experience * player.lossPercent.experience % 2 ^ 64 / 100
  else 0

def Player.leftExperience (player : Player) : Nat :=
  (player.experience + 2 ^ 64 - player.getLostExperience) % 2 ^ 64

def newLevel (experience : Nat) : Nat → Nat
  | 0 => 0
  | 1 => 1
  | level + 2 =>
    if experience < getExpForLevel (level + 2) then newLevel experience (level + 1)
    else level + 2

/-- `Player::sendToRook`, of a player without items. -/
def Player.sendToRook (player : Player) : Player :=
  { player with
    vocationId := 0
    level := 1
    healthMax := 150
    manaMax := 0
    manaSpent := 0
    magLevel := 0
    capacity := 400
    experience := 0
    skills := fun _ => ⟨10, 0⟩ }

/-- What a dead player is told: the new level, and whether it is that of rook. -/
structure Death where
  player : Player
  downgraded : Option Nat
  rooked : Bool

def Player.loseSkills (player : Player) : Player :=
  let (magLevel, manaSpent) := (player.magic vocations).left doubles
  { player with
    magLevel := magLevel
    manaSpent := manaSpent
    magLevelPercent :=
      getPercentLevel manaSpent ((player.vocation vocations).getReqMana (magLevel + 1))
    skills := fun skill =>
      let (level, tries) := (player.skill vocations skill).left doubles
      ⟨level, tries⟩ }

def die (player : Player) : Death :=
  if player.skillLoss then
    let after := player.loseSkills doubles vocations
    let level := newLevel player.leftExperience player.level
    if level = player.level then ⟨after, none, false⟩
    else if level ≤ levelToRook ∧ player.vocationId ≠ 0 then
      ⟨after.sendToRook, some 1, true⟩
    else ⟨after, some level, false⟩
  else ⟨player, none, false⟩

/-- The loop of `preSave`, from a level on. -/
def levelsDown (vocation : Vocation) : Nat → Player → Player
  | 0, player => { player with level := 0 }
  | 1, player => { player with level := 1 }
  | level + 2, player =>
    if player.experience < getExpForLevel (level + 2) then
      levelsDown vocation (level + 1)
        { player with
          healthMax := max 0 (player.healthMax - vocation.gainHP)
          manaMax := max 0 (player.manaMax - vocation.gainMana)
          capacity := max 0 (player.capacity - vocation.gainCap) }
    else { player with level := level + 2 }

def preSave (player : Player) : Player :=
  if player.health ≤ 0 then
    let player :=
      levelsDown (player.vocation vocations) player.level
        { player with experience := player.leftExperience }
    { player with
      health := player.healthMax
      mana := player.manaMax }
  else player

/-! ## The losses -/

/-- Exactly what has been computed is taken, and the rest is too little for the next
level. -/
structure Loses (before after : Progress) : Prop where
  exactly : after.sum + before.lost doubles = before.sum
  little : after.rest < after.req (after.level + 1)

/-- Magic and skills lose what has been computed, and `preSave` arrives at the level
that was told. -/
structure Accounts (player : Player) (death : Death) : Prop where
  magic : Loses doubles (player.magic vocations) (death.player.magic vocations)
  skills (skill : Fin 7) :
    Loses doubles (player.skill vocations skill) (death.player.skill vocations skill)
  level : death.rooked = false →
    (preSave vocations death.player).level = death.downgraded.getD player.level

/-- The sum is an `int32_t`, and the rest too little for the next level, or just
enough where something is lost. -/
structure Regular (progress : Progress) : Prop where
  bounded : progress.sum < 2 ^ 31
  little : progress.rest ≤ progress.req (progress.level + 1)
  less : progress.rest < progress.req (progress.level + 1) ∨ 0 < progress.lost doubles

variable {doubles vocations levelToRook} {player : Player} {progress : Progress}

lemma lostAmount_le {sum percent : Nat} (bounded : sum < 2 ^ 53) (atMost : percent ≤ 100) :
  lostAmount doubles sum percent ≤ sum := by
  have share : doubles.round (percent / 100) ≤ 1 := by
    have one := doubles.whole 1 (by decide)
    rw [Nat.cast_one] at one
    rw [← one]
    refine doubles.mono ?_
    rw [div_le_one (by norm_num)]
    exact_mod_cast atMost
  have product : doubles.round (sum * doubles.round (percent / 100)) ≤ sum := by
    refine le_of_le_of_eq (doubles.mono ?_) (doubles.whole sum bounded)
    exact mul_le_of_le_one_right (Nat.cast_nonneg _) share
  exact Int.toNat_le.2 (Int.ceil_le.2 (by exact_mod_cast product))

lemma left_loses (regular : Regular doubles progress) (atMost : progress.percent ≤ 100) :
  Loses doubles progress
    { progress with
      level := (progress.left doubles).1
      rest := (progress.left doubles).2 } := by
  have bounded := regular.bounded
  have sum : progress.sum % 2 ^ 32 = progress.sum := Nat.mod_eq_of_lt (by omega)
  have enough : progress.lost doubles ≤ progress.sum := by
    rw [Progress.lost, sum]
    exact lostAmount_le (by omega) atMost
  have exactly := descend_total enough
  have rest : (progress.left doubles).2 =
      (descend progress.req progress.lowest progress.level progress.rest
        (progress.lost doubles)).2 :=
    if_pos (by
      rw [Progress.sum] at bounded
      rw [total] at exactly
      omega)
  constructor
  · rw [Progress.sum, rest]
    exact exactly
  · rw [rest]
    exact descend_little enough regular.little regular.less

lemma levelsDown_level (vocation : Vocation) (level : Nat) (player : Player) :
  (levelsDown vocation level player).level = newLevel player.experience level := by
  fun_induction levelsDown vocation level player with
  | case1 => rfl
  | case2 => rfl
  | case3 level player less ih => rw [ih, newLevel, if_pos less]
  | case4 level player enough => rw [newLevel, if_neg enough]

lemma preSave_level (dead : player.health ≤ 0) :
  (preSave vocations player).level = newLevel player.leftExperience player.level := by
  rw [preSave, if_pos dead]
  exact levelsDown_level _ _ _

def exact : Doubles := ⟨id, monotone_id, fun _ _ => rfl⟩

/-- Every level takes as much mana, and 50 tries. -/
def even (mana : Nat) : Vocation := ⟨fun _ => mana, fun _ _ => 50, 5, 5, 10⟩

def dying (magLevel manaSpent percent : Nat) (atMost : percent ≤ 100 := by decide) : Player where
  level := 9
  experience := getExpForLevel 9
  magLevel := magLevel
  manaSpent := manaSpent
  magLevelPercent := 0
  skills := fun _ => ⟨10, 0⟩
  skillLoss := true
  lossPercent := ⟨percent, percent, percent, atMost, atMost, atMost⟩
  vocationId := 1
  health := 0
  healthMax := 185
  mana := 0
  manaMax := 35
  capacity := 470

end OTServ.Players.Dying
