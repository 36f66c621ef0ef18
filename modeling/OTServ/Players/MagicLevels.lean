import Mathlib.Algebra.Order.Field.Rat
import Mathlib.Algebra.Order.Floor.Ring
import Mathlib.Data.Rat.Floor
import OTServ.Library.Levels

/-!
# Magic levels

The mana that a player spends is kept until it is what the next magic level
requires.  The requirement is looked at once before the levels are gone up, so that
only the first one is known to be positive.
-/

namespace OTServ.Players

open Library.Levels

/-- The conversion of a number that is not negative to `uint32_t`. -/
def uint32 (value : ℚ) : Nat := ⌊value⌋.toNat % 2 ^ 32

/-- `Vocation::getReqMana`, of the levels from 1 on. -/
def getReqMana (manaMultiplier : ℚ) (magLevel : Nat) : Nat :=
  uint32 (1600 * manaMultiplier ^ (magLevel - 1))

/-- `Player::getPercentLevel` -/
def getPercentLevel (count nextLevelCount : Nat) : Nat :=
  if 0 < nextLevelCount then
    let result := count * 100 / nextLevelCount % 2 ^ 32
    if 100 < result then 0 else result
  else 0

namespace Magic

structure Player where
  magLevel : Nat
  manaSpent : Nat
  magLevelPercent : Nat
  /-- Of the player's vocation. -/
  manaMultiplier : ℚ
  /-- `getRateValue(LEVEL_MAGIC)` -/
  rateValue : ℚ
  /-- `hasFlag(PlayerFlag_NotGainMana)` -/
  notGainMana : Bool

variable (rateMagic : Nat) (player : Player) (amount : Nat) (useMultiplier : Bool)

def Player.getReqMana : Nat → Nat := Players.getReqMana player.manaMultiplier

def credit : Nat :=
  (if useMultiplier then uint32 (amount * player.rateValue) else amount) * rateMagic

/-- How many levels can still be tried: `getReqMana` takes an `int`. -/
def Player.levelsLeft : Nat := 2 ^ 31 - 1 - player.magLevel

/-- `Player::addManaSpent`, without an answer where the loop is not done with the last
level that is an `int`. -/
def addManaSpent : Option Player :=
  if amount ≠ 0 ∧ player.notGainMana = false then
    let manaSpent := (player.manaSpent + credit rateMagic player amount useMultiplier) % 2 ^ 32
    if player.getReqMana (player.magLevel + 1) = 0 then
      some { player with manaSpent := manaSpent }
    else
      (climb player.getReqMana player.levelsLeft player.magLevel manaSpent).map
        fun (magLevel, manaSpent) =>
          { player with
            magLevel := magLevel
            manaSpent := manaSpent
            magLevelPercent := getPercentLevel manaSpent (player.getReqMana (magLevel + 1)) }
  else some player

/-- The mana spent is too little for the next level, and with what the levels gained
required it is what there was and what was added. -/
structure Advances (added : Nat) (after : Player) : Prop where
  noWrap : player.manaSpent + added < 2 ^ 32
  little : after.manaSpent < player.getReqMana (after.magLevel + 1)
  up : player.magLevel ≤ after.magLevel
  progress :
    next player.getReqMana player.magLevel (after.magLevel - player.magLevel) +
        after.manaSpent =
      player.manaSpent + added

variable {rateMagic player amount useMultiplier}

/-- What is added does not wrap, the first requirement is not 0, and those of the
levels left come to more than the mana spent; or nothing is added, and there was too
little before. -/
theorem addManaSpent_advances_iff :
  (∃ after, addManaSpent rateMagic player amount useMultiplier = some after ∧
    Advances player
      (if amount ≠ 0 ∧ player.notGainMana = false then
        credit rateMagic player amount useMultiplier
      else 0)
      after) ↔
    if amount ≠ 0 ∧ player.notGainMana = false then
      let manaSpent := player.manaSpent + credit rateMagic player amount useMultiplier
      manaSpent < 2 ^ 32 ∧ player.getReqMana (player.magLevel + 1) ≠ 0 ∧
        manaSpent < next player.getReqMana player.magLevel player.levelsLeft
    else
      player.manaSpent < 2 ^ 32 ∧
        player.manaSpent < player.getReqMana (player.magLevel + 1) := by
  rw [addManaSpent]
  split_ifs with gains zero
  · -- The guard leaves all of the mana, which is not less than 0.
    refine iff_of_false ?_ fun met => met.2.1 zero
    rintro ⟨after, same, advances⟩
    cases same
    exact absurd (zero ▸ advances.little) (Nat.not_lt_zero _)
  · constructor
    · rintro ⟨after, added, advances⟩
      rw [Nat.mod_eq_of_lt advances.noWrap] at added
      rcases Option.map_eq_some_iff.1 added with ⟨reached, climbed, -⟩
      have ends := climb_isSome_iff.1 (Option.isSome_of_eq_some climbed)
      exact ⟨advances.noWrap, zero, ends⟩
    · rintro ⟨noWrap, -, more⟩
      rcases Option.isSome_iff_exists.1 (climb_isSome_iff.2 more) with ⟨reached, climbed⟩
      rcases climb_spec climbed with ⟨up, little, progress⟩
      rw [Nat.mod_eq_of_lt noWrap]
      dsimp only
      rw [climbed]
      exact ⟨_, rfl, noWrap, little, up, progress⟩
  · constructor
    · rintro ⟨after, same, advances⟩
      cases same
      exact ⟨advances.noWrap, advances.little⟩
    · rintro ⟨noWrap, little⟩
      refine ⟨player, rfl, noWrap, little, le_rfl, ?_⟩
      rw [Nat.sub_self, next, Finset.sum_range_zero, Nat.zero_add]
      rfl

/-- Each level requires half of what the level before it does, and from the twelfth
on nothing. -/
def halving : Player where
  magLevel := 0
  manaSpent := 0
  magLevelPercent := 0
  manaMultiplier := 1 / 2
  rateValue := 1
  notGainMana := false

lemma halving_getReqMana (level : Nat) : halving.getReqMana (level + 12) = 0 := by
  have little : (1600 : ℚ) * (1 / 2) ^ (level + 11) < 1 := by
    have power : (1 / 2 : ℚ) ^ level ≤ 1 := pow_le_one₀ (by norm_num) (by norm_num)
    rw [pow_add]
    linarith
  have floor : ⌊(1600 : ℚ) * (1 / 2) ^ (level + 11)⌋ ≤ 0 :=
    Int.lt_add_one_iff.1 (Int.floor_lt.2 (by exact_mod_cast little))
  change ⌊(1600 : ℚ) * (1 / 2) ^ (level + 11)⌋.toNat % 2 ^ 32 = 0
  rw [Int.toNat_of_nonpos floor, Nat.zero_mod]

theorem halving_not_advances :
  ¬ ∃ after, addManaSpent 1 halving 4000 false = some after ∧ Advances halving 4000 after := by
  rintro ⟨after, -, advances⟩
  have low : ∀ level < 11, next halving.getReqMana 0 level +
      halving.getReqMana (level + 1) ≤ 4000 := by
    decide +kernel
  have progress : next halving.getReqMana 0 after.magLevel + after.manaSpent = 4000 :=
    advances.progress
  rcases lt_or_ge after.magLevel 11 with less | high
  · have least := low _ less
    have little := advances.little
    omega
  · rcases Nat.exists_eq_add_of_le' high with ⟨level, same⟩
    have little := advances.little
    rw [same, halving_getReqMana] at little
    exact Nat.not_lt_zero _ little

end Magic

end OTServ.Players
