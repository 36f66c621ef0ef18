import OTServ.Players.MagicLevels

/-!
# Experience and levels

A player's level goes up while the experience reaches that of the next level.  How far
the player is on the way to the next level is shown in per cent, for which the width
of the level is cut off at 32 bits.
-/

namespace OTServ.Players

/-- `Player::getExpForLevel` -/
def getExpForLevel (level : Nat) : Nat :=
  let x : Int := level - 1
  ((50 * x ^ 3 - 150 * x ^ 2 + 400 * x) % 2 ^ 64).toNat / 3

/-- The last level whose experience is computed without an overflow. -/
def lastLevel : Nat := 717216

lemma getExpForLevel_succ {x : Nat} (low : x < lastLevel) :
  ((getExpForLevel (x + 1) : Nat) : Int) = (50 * x ^ 3 - 150 * x ^ 2 + 400 * x) / 3 := by
  have most : (x : Int) ≤ 717215 := by
    rw [lastLevel] at low
    omega
  have cube : (x : Int) ^ 3 ≤ 717215 ^ 3 := pow_le_pow_left₀ (Int.natCast_nonneg x) most 3
  have nonneg : (0 : Int) ≤ 50 * x ^ 3 - 150 * x ^ 2 + 400 * x := by
    have factors : (0 : Int) ≤ x * ((2 * x - 3) ^ 2 + 23) := by positivity
    linarith
  have less : (50 * x ^ 3 - 150 * x ^ 2 + 400 * x : Int) < 2 ^ 64 := by
    have square := sq_nonneg (3 * (x : Int) - 4)
    linarith
  have before : (((x + 1 : Nat) : Int) - 1) = x := by
    push_cast
    ring
  rw [getExpForLevel, before, Int.emod_eq_of_lt nonneg less, Int.natCast_ediv,
    Int.toNat_of_nonneg nonneg]
  rfl

lemma getExpForLevel_lt {level : Nat} (first : 1 ≤ level) (low : level < lastLevel) :
  getExpForLevel level < getExpForLevel (level + 1) := by
  rcases Nat.exists_eq_add_of_le' first with ⟨x, rfl⟩
  have here := getExpForLevel_succ (Nat.lt_of_succ_lt low)
  have there := getExpForLevel_succ low
  have width : (50 * ((x + 1 : Nat) : Int) ^ 3 - 150 * ((x + 1 : Nat) : Int) ^ 2 +
      400 * ((x + 1 : Nat) : Int)) =
      50 * x ^ 3 - 150 * x ^ 2 + 400 * x + (50 * (x ^ 2 - x + 2)) * 3 := by
    push_cast
    ring
  have positive : (0 : Int) < 50 * (x ^ 2 - x + 2) := by
    have square := sq_nonneg (2 * (x : Int) - 1)
    linarith
  omega

lemma getExpForLevel_mono {level other : Nat} (first : 1 ≤ level) (up : level ≤ other)
  (low : other ≤ lastLevel) : getExpForLevel level ≤ getExpForLevel other := by
  induction other, up using Nat.le_induction with
  | base => exact le_rfl
  | succ other up ih =>
    exact (ih (by omega)).trans (getExpForLevel_lt (first.trans up) low).le

namespace Experience

/-- The value of a number that is kept as an `int32_t`. -/
def int32 (value : Int) : Int := value.bmod (2 ^ 32)

structure Player where
  level : Nat
  experience : Nat
  health : Int
  healthMax : Int
  mana : Int
  manaMax : Int
  capacity : ℚ
  levelPercent : Nat
  /-- Of the player's vocation. -/
  gainHP : Nat
  gainMana : Nat
  gainCap : Nat
  /-- Both are kept as an `int32_t`. -/
  fits : int32 healthMax = healthMax ∧ int32 manaMax = manaMax

lemma int32_int32 (value : Int) : int32 (int32 value) = int32 value := Int.bmod_bmod ..

def Player.gain (player : Player) : Player :=
  { player with
    healthMax := int32 (player.healthMax + player.gainHP)
    health := int32 (player.health + player.gainHP)
    manaMax := int32 (player.manaMax + player.gainMana)
    mana := int32 (player.mana + player.gainMana)
    capacity := player.capacity + player.gainCap
    fits := ⟨int32_int32 _, int32_int32 _⟩ }

/-- The loop of `addExperience`, with at most so many turns. -/
def levelUps : Nat → Nat → Player → Option (Nat × Player)
  | 0, _, _ => none
  | turns + 1, newLevel, player =>
    if getExpForLevel (newLevel + 1) ≤ player.experience then
      levelUps turns (newLevel + 1) player.gain
    else some (newLevel, player)

/-- `Player::addExperience` -/
def addExperience (turns : Nat) (player : Player) (exp : Nat) : Option Player :=
  let player := { player with experience := (player.experience + exp) % 2 ^ 64 }
  if getExpForLevel (player.level + 1) < getExpForLevel player.level then some player
  else
    (levelUps turns player.level player).map fun (level, player) =>
      let currLevelExp := getExpForLevel level
      let nextLevelExp := getExpForLevel (level + 1)
      { player with
        level := level
        levelPercent :=
          if currLevelExp < nextLevelExp then
            getPercentLevel (player.experience - currLevelExp)
              ((nextLevelExp - currLevelExp) % 2 ^ 32)
          else 0 }

/-- The experience is between those of the level and of the next one. -/
def At (level experience : Nat) : Prop :=
  1 ≤ level ∧ getExpForLevel level ≤ experience ∧ experience < getExpForLevel (level + 1)

/-- All of the experience is counted, and every level brings what it is to bring. -/
structure Accounts (player : Player) (exp : Nat) (after : Player) : Prop where
  placed : At after.level after.experience
  experience : after.experience = player.experience + exp
  up : player.level ≤ after.level
  healthMax : after.healthMax =
    player.healthMax + (after.level - player.level : Nat) * player.gainHP
  manaMax : after.manaMax = player.manaMax + (after.level - player.level : Nat) * player.gainMana
  capacity : after.capacity = player.capacity + (after.level - player.level : Nat) * player.gainCap
  percent : after.levelPercent ≤ 99

/-- Health and mana stay within an `int32_t`, and the level is narrower than 2^32 or
what is beyond it is not the whole of the width that is left of 32 bits. -/
def Fits (player : Player) (experience level : Nat) : Prop :=
  let width := getExpForLevel (level + 1) - getExpForLevel level
  let beyond := experience - getExpForLevel level
  player.healthMax + (level - player.level : Nat) * player.gainHP < 2 ^ 31 ∧
    player.manaMax + (level - player.level : Nat) * player.gainMana < 2 ^ 31 ∧
    (width < 2 ^ 32 ∨ width % 2 ^ 32 = 0 ∨ beyond * 100 / (width % 2 ^ 32) % 2 ^ 32 ≠ 100)

variable {player after : Player} {turns newLevel level other exp experience : Nat}

lemma int32_eq_iff (value : Int) : int32 value = value ↔ -2 ^ 31 ≤ value ∧ value < 2 ^ 31 := by
  rw [int32, Int.bmod]
  split <;> omega

lemma int32_add (value more : Int) : int32 (int32 value + more) = int32 (value + more) :=
  Int.bmod_add_bmod ..

lemma gain_iterate (player : Player) (count : Nat) :
  (Player.gain^[count] player).experience = player.experience ∧
    (Player.gain^[count] player).gainHP = player.gainHP ∧
    (Player.gain^[count] player).gainMana = player.gainMana ∧
    (Player.gain^[count] player).gainCap = player.gainCap ∧
    (Player.gain^[count] player).healthMax = int32 (player.healthMax + count * player.gainHP) ∧
    (Player.gain^[count] player).manaMax = int32 (player.manaMax + count * player.gainMana) ∧
    (Player.gain^[count] player).capacity = player.capacity + count * player.gainCap := by
  induction count with
  | zero => simp [player.fits]
  | succ count ih =>
    rcases ih with ⟨sameExp, sameHP, sameMana, sameCap, health, mana, capacity⟩
    rw [Function.iterate_succ_apply']
    refine ⟨sameExp, sameHP, sameMana, sameCap, ?_, ?_, ?_⟩
    · simp only [Player.gain, health, sameHP, int32_add]
      congr 1
      push_cast
      ring
    · simp only [Player.gain, mana, sameMana, int32_add]
      congr 1
      push_cast
      ring
    · simp only [Player.gain, capacity, sameCap]
      push_cast
      ring

lemma levelUps_spec (ended : levelUps turns newLevel player = some (level, after))
  (placed : 1 ≤ newLevel ∧ getExpForLevel newLevel ≤ player.experience)
  (inRange : newLevel < lastLevel) (less : player.experience < getExpForLevel lastLevel) :
  newLevel ≤ level ∧ level < lastLevel ∧ At level player.experience ∧
    after = Player.gain^[level - newLevel] player := by
  induction turns generalizing newLevel player with
  | zero => cases ended
  | succ turns ih =>
    rw [levelUps] at ended
    split at ended
    · rename_i enough
      have notLast : newLevel + 1 ≠ lastLevel := by
        rintro last
        exact absurd (last ▸ enough) (Nat.not_le_of_lt less)
      rcases ih ended ⟨by omega, enough⟩ (by omega) less with ⟨up, below, placed, same⟩
      have one : level - newLevel = level - (newLevel + 1) + 1 := by omega
      exact ⟨by omega, below, placed, by rw [one, Function.iterate_succ_apply, same]⟩
    · rename_i little
      cases ended
      refine ⟨le_rfl, inRange, ⟨placed.1, placed.2, Nat.lt_of_not_le little⟩, ?_⟩
      rw [Nat.sub_self, Function.iterate_zero_apply]

lemma levelUps_isSome (left : newLevel + turns = lastLevel) (inRange : newLevel < lastLevel)
  (less : player.experience < getExpForLevel lastLevel) :
  (levelUps turns newLevel player).isSome := by
  induction turns generalizing newLevel player with
  | zero => omega
  | succ turns ih =>
    rw [levelUps]
    split
    · rename_i enough
      have notLast : newLevel + 1 ≠ lastLevel := by
        rintro last
        exact absurd (last ▸ enough) (Nat.not_le_of_lt less)
      exact ih (by omega) (by omega) less
    · rfl

lemma at_unique (one : At level experience) (two : At other experience) (low : level < lastLevel)
  (lowOther : other < lastLevel) : level = other := by
  by_contra ne
  rcases Nat.lt_or_gt_of_ne ne with less | less
  · have mono := getExpForLevel_mono (by omega) less lowOther.le
    exact absurd (mono.trans two.2.1) (Nat.not_le_of_lt one.2.2)
  · have mono := getExpForLevel_mono (by omega) less low.le
    exact absurd (mono.trans one.2.1) (Nat.not_le_of_lt two.2.2)

lemma getPercentLevel_le_iff {beyond width : Nat} (less : beyond < width) :
  getPercentLevel beyond (width % 2 ^ 32) ≤ 99 ↔
    width < 2 ^ 32 ∨ width % 2 ^ 32 = 0 ∨ beyond * 100 / (width % 2 ^ 32) % 2 ^ 32 ≠ 100 := by
  rw [getPercentLevel]
  by_cases narrow : width < 2 ^ 32
  · have little : beyond * 100 / width < 100 := Nat.div_lt_of_lt_mul (by omega)
    rw [Nat.mod_eq_of_lt narrow, if_pos (by omega)]
    rw [Nat.mod_eq_of_lt (little.trans (by decide)), if_neg (by omega)]
    exact iff_of_true (by omega) (.inl narrow)
  · dsimp only
    split_ifs <;> omega

/-! ## All that is counted -/

lemma addExperience_spec (added : addExperience turns player exp = some after)
  (placed : At player.level player.experience) (inRange : player.level < lastLevel)
  (noOverflow : player.experience + exp < getExpForLevel lastLevel) :
  after.level < lastLevel ∧ At after.level (player.experience + exp) ∧
    (Accounts player exp after ↔ Fits player (player.experience + exp) after.level) := by
  have bound : getExpForLevel lastLevel < 2 ^ 64 := by decide +kernel
  have noWrap : (player.experience + exp) % 2 ^ 64 = player.experience + exp :=
    Nat.mod_eq_of_lt (noOverflow.trans bound)
  have next : getExpForLevel player.level ≤ getExpForLevel (player.level + 1) :=
    (placed.2.1.trans_lt placed.2.2).le
  rw [addExperience, noWrap] at added
  rw [if_neg (Nat.not_lt_of_le next)] at added
  rcases Option.map_eq_some_iff.1 added with ⟨⟨level, grown⟩, ended, rfl⟩
  rcases levelUps_spec ended
      ⟨placed.1, placed.2.1.trans (Nat.le_add_right _ _)⟩ inRange noOverflow with
    ⟨up, low, reached, rfl⟩
  rcases gain_iterate { player with experience := player.experience + exp }
      (level - player.level) with ⟨sameExp, -, -, -, health, mana, capacity⟩
  have width : getExpForLevel level < getExpForLevel (level + 1) :=
    reached.2.1.trans_lt reached.2.2
  have less : player.experience + exp - getExpForLevel level <
      getExpForLevel (level + 1) - getExpForLevel level :=
    Nat.sub_lt_sub_right reached.2.1 reached.2.2
  have percent := getPercentLevel_le_iff less
  have healthFits := (int32_eq_iff _).1 player.fits.1
  have manaFits := (int32_eq_iff _).1 player.fits.2
  have more (value : Int) (gain : Nat) (least : -2 ^ 31 ≤ value) :
      -2 ^ 31 ≤ value + (level - player.level : Nat) * gain :=
    least.trans (le_add_of_nonneg_right (by positivity))
  refine ⟨low, reached, ?_⟩
  constructor
  · intro accounts
    refine ⟨?_, ?_, percent.1 ?_⟩
    · exact ((int32_eq_iff _).1 (health.symm.trans accounts.healthMax)).2
    · exact ((int32_eq_iff _).1 (mana.symm.trans accounts.manaMax)).2
    · have shown := accounts.percent
      dsimp only at shown
      rwa [if_pos width, sameExp] at shown
  · rintro ⟨healthLess, manaLess, shown⟩
    exact
      { placed := sameExp.symm ▸ reached
        experience := sameExp
        up := up
        healthMax := health.trans ((int32_eq_iff _).2 ⟨more _ _ healthFits.1, healthLess⟩)
        manaMax := mana.trans ((int32_eq_iff _).2 ⟨more _ _ manaFits.1, manaLess⟩)
        capacity := capacity
        percent := by
          dsimp only
          rw [if_pos width, sameExp]
          exact percent.2 shown }

/-- At a level which is 2^32 + 287404 wide. -/
def wide (beyond : Nat) : Player where
  level := 9270
  experience := 13268042386300 + beyond
  health := 0
  healthMax := 0
  mana := 0
  manaMax := 0
  capacity := 0
  levelPercent := 0
  gainHP := 15
  gainMana := 5
  gainCap := 25
  fits := ⟨rfl, rfl⟩

end Experience

end OTServ.Players
