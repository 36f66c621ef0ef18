import OTServ.Library.GuardedRuns
import OTServ.Players.DeathLoss

/-!
# Health and mana

Both are to stay between zero and their effective maximum, which is the base and a bonus
that items and conditions move, cut off at its least value.  A level raises the base and
the current value by the same number, and `preSave` gives a dead player the base; neither
looks at the bonus.
-/

namespace OTServ.Players.Vitals

open Library.GuardedRuns

/-- `stats_t` -/
inductive Stat where
  | STAT_MAXHITPOINTS
  | STAT_MAXMANAPOINTS
  | STAT_MAGICPOINTS
deriving DecidableEq

structure Player extends Dying.Player where
  varStats : Stat → Int

variable (vocations : Nat → Dying.Vocation)

namespace Player

def getMaxHealth (player : Player) : Int :=
  max 1 (player.healthMax + player.varStats .STAT_MAXHITPOINTS)

def getMaxMana (player : Player) : Int :=
  max 0 (player.manaMax + player.varStats .STAT_MAXMANAPOINTS)

/-- A change of a value below its maximum. -/
def changed (value maximum change : Int) : Int :=
  if 0 < change then value + min change (maximum - value) else max 0 (value + change)

def changeHealth (player : Player) (healthChange : Int) : Player :=
  { player with health := changed player.health player.getMaxHealth healthChange }

def changeMana (player : Player) (manaChange : Int) : Player :=
  { player with mana := changed player.mana player.getMaxMana manaChange }

def setVarStats (player : Player) (stat : Stat) (modifier : Int) : Player :=
  let player :=
    { player with
      varStats := Function.update player.varStats stat (player.varStats stat + modifier) }
  match stat with
  | .STAT_MAXHITPOINTS =>
    if player.getMaxHealth < player.health then
      player.changeHealth (player.getMaxHealth - player.health)
    else player
  | .STAT_MAXMANAPOINTS =>
    if player.getMaxMana < player.mana then player.changeMana (player.getMaxMana - player.mana)
    else player
  | .STAT_MAGICPOINTS => player

/-- The loop of `addExperience`, with at most so many turns. -/
def levelUps (vocation : Dying.Vocation) : Nat → Nat → Player → Option Player
  | 0, _, _ => none
  | turns + 1, newLevel, player =>
    if getExpForLevel (newLevel + 1) ≤ player.experience then
      levelUps vocation turns (newLevel + 1)
        { player with
          healthMax := player.healthMax + vocation.gainHP
          health := player.health + vocation.gainHP
          manaMax := player.manaMax + vocation.gainMana
          mana := player.mana + vocation.gainMana
          capacity := player.capacity + vocation.gainCap }
    else some { player with level := newLevel }

def addExperience (turns : Nat) (player : Player) (exp : Nat) : Option Player :=
  let player := { player with experience := (player.experience + exp) % 2 ^ 64 }
  if getExpForLevel (player.level + 1) < getExpForLevel player.level then some player
  else levelUps (vocations player.vocationId) turns player.level player

def preSave (player : Player) : Player :=
  { player with toPlayer := Dying.preSave vocations player.toPlayer }

end Player

/-! ## Runs -/

inductive Operation where
  | changeHealth (healthChange : Int)
  | changeMana (manaChange : Int)
  | setVarStats (stat : Stat) (modifier : Int)
  | addExperience (exp : Nat)
  | preSave

/-- An operation that ends; the loop of `addExperience` may take any number of turns. -/
def Step (player : Player) : Operation → Player → Prop
  | .changeHealth healthChange, next => next = player.changeHealth healthChange
  | .changeMana manaChange, next => next = player.changeMana manaChange
  | .setVarStats stat modifier, next => next = player.setVarStats stat modifier
  | .addExperience exp, next => ∃ turns, player.addExperience vocations turns exp = some next
  | .preSave, next => next = player.preSave vocations

structure Bounded (player : Player) : Prop where
  health : 0 ≤ player.health ∧ player.health ≤ player.getMaxHealth
  mana : 0 ≤ player.mana ∧ player.mana ≤ player.getMaxMana

/--
A level is gained only while neither maximum is cut off below the current value, and who is
saved dead has no bonus below zero.
-/
def Uncut (player : Player) : Operation → Prop
  | .addExperience exp =>
    let vocation := vocations player.vocationId
    (player.experience + exp) % 2 ^ 64 < getExpForLevel (player.level + 1) ∨
      (vocation.gainHP = 0 ∨
          player.health ≤ player.healthMax + player.varStats .STAT_MAXHITPOINTS) ∧
        (vocation.gainMana = 0 ∨ player.mana ≤ player.manaMax + player.varStats .STAT_MAXMANAPOINTS)
  | .preSave =>
    0 < player.health ∨
      0 ≤ player.varStats .STAT_MAXHITPOINTS ∧
        (player.manaMax = 0 ∨ 0 ≤ player.varStats .STAT_MAXMANAPOINTS)
  | _ => True

variable {vocations} {player next : Player}

lemma getMaxHealth_nonneg (player : Player) : 0 ≤ player.getMaxHealth :=
  le_max_of_le_left Int.one_nonneg

lemma changed_bounds {value maximum : Int} (change : Int) (low : 0 ≤ value)
  (high : value ≤ maximum) :
  0 ≤ Player.changed value maximum change ∧ Player.changed value maximum change ≤ maximum := by
  unfold Player.changed
  split <;> omega

lemma changed_down {value maximum : Int} (low : 0 ≤ maximum) (above : maximum < value) :
  0 ≤ Player.changed value maximum (maximum - value) ∧
    Player.changed value maximum (maximum - value) ≤ maximum := by
  unfold Player.changed
  split <;> omega

/-- The levels raise the values and their bases alike. -/
lemma levelUps_spec {vocation : Dying.Vocation} {turns newLevel : Nat}
  (ended : player.levelUps vocation turns newLevel = some next) :
  next.varStats = player.varStats ∧
    ∃ health mana : Nat,
      (next.healthMax = player.healthMax + health ∧ next.health = player.health + health) ∧
        (next.manaMax = player.manaMax + mana ∧ next.mana = player.mana + mana) ∧
          ((vocation.gainHP = 0 → health = 0) ∧ (vocation.gainMana = 0 → mana = 0)) ∧
            (player.experience < getExpForLevel (newLevel + 1) → health = 0 ∧ mana = 0) := by
  induction turns generalizing newLevel player with
  | zero => cases ended
  | succ turns ih =>
    rw [Player.levelUps] at ended
    split at ended
    · rename_i enough
      obtain ⟨same, health, mana, ⟨healthMax, healthNow⟩, ⟨manaMax, manaNow⟩, none, -⟩ := ih ended
      refine ⟨same, health + vocation.gainHP, mana + vocation.gainMana, ?_⟩
      dsimp only at healthMax healthNow manaMax manaNow
      omega
    · cases ended
      exact ⟨rfl, 0, 0, by simp⟩

lemma levelsDown_bases (vocation : Dying.Vocation) (level : Nat) (player : Dying.Player)
  (health : 0 ≤ player.healthMax) (mana : 0 ≤ player.manaMax) :
  0 ≤ (Dying.levelsDown vocation level player).healthMax ∧
    0 ≤ (Dying.levelsDown vocation level player).manaMax ∧
      (player.manaMax = 0 → (Dying.levelsDown vocation level player).manaMax = 0) := by
  fun_induction Dying.levelsDown vocation level player with
  | case1 | case2 | case4 => exact ⟨health, mana, id⟩
  | case3 level player less ih =>
    obtain ⟨health, mana, none⟩ := ih (le_max_left ..) (le_max_left ..)
    exact ⟨health, mana, fun zero => none (by simp [zero])⟩

/-- What the operations keep, with the bases. -/
structure Kept (player : Player) : Prop where
  bounded : Bounded player
  bases : 0 ≤ player.healthMax ∧ 0 ≤ player.manaMax

lemma Kept.setVarStats (kept : Kept player) (stat : Stat) (modifier : Int) :
  Kept (player.setVarStats stat modifier) := by
  obtain ⟨⟨health, mana⟩, bases⟩ := kept
  cases stat with
  | STAT_MAXHITPOINTS =>
    unfold Player.setVarStats
    dsimp only
    split
    · rename_i above
      exact ⟨⟨changed_down (getMaxHealth_nonneg _) above, mana⟩, bases⟩
    · rename_i below
      exact ⟨⟨⟨health.1, not_lt.mp below⟩, mana⟩, bases⟩
  | STAT_MAXMANAPOINTS =>
    unfold Player.setVarStats
    dsimp only
    split
    · rename_i above
      exact ⟨⟨health, changed_down (le_max_left ..) above⟩, bases⟩
    · rename_i below
      exact ⟨⟨health, ⟨mana.1, not_lt.mp below⟩⟩, bases⟩
  | STAT_MAGICPOINTS => exact ⟨⟨health, mana⟩, bases⟩

lemma Kept.step {operation : Operation} (kept : Kept player)
  (uncut : Uncut vocations player operation) (step : Step vocations player operation next) :
  Kept next := by
  obtain ⟨⟨health, mana⟩, bases⟩ := id kept
  cases operation with
  | changeHealth healthChange =>
    cases step
    exact ⟨⟨changed_bounds healthChange health.1 health.2, mana⟩, bases⟩
  | changeMana manaChange =>
    cases step
    exact ⟨⟨health, changed_bounds manaChange mana.1 mana.2⟩, bases⟩
  | setVarStats stat modifier =>
    cases step
    exact kept.setVarStats stat modifier
  | addExperience exp =>
    obtain ⟨turns, added⟩ := step
    unfold Player.addExperience at added
    dsimp only at added
    split at added
    · cases added
      exact ⟨⟨health, mana⟩, bases⟩
    · obtain ⟨same, healthUp, manaUp, raisedHealth, raisedMana, idle, stays⟩ := levelUps_spec added
      unfold Uncut at uncut
      unfold Player.getMaxHealth at health
      unfold Player.getMaxMana at mana
      dsimp only at uncut raisedHealth raisedMana stays
      refine ⟨⟨?_, ?_⟩, by omega⟩
      · rw [Player.getMaxHealth, same, raisedHealth.1, raisedHealth.2]
        dsimp only
        omega
      · rw [Player.getMaxMana, same, raisedMana.1, raisedMana.2]
        dsimp only
        omega
  | preSave =>
    cases step
    unfold Uncut at uncut
    dsimp only at uncut
    unfold Player.preSave Dying.preSave
    split
    · rename_i dead
      obtain ⟨healthMax, manaMax, none⟩ :=
        levelsDown_bases (Dying.Player.vocation vocations player.toPlayer) player.level
          { player.toPlayer with experience := player.leftExperience } bases.1 bases.2
      refine ⟨⟨⟨healthMax, ?_⟩, manaMax, ?_⟩, healthMax, manaMax⟩
      · unfold Player.getMaxHealth
        dsimp only
        omega
      · unfold Player.getMaxMana
        dsimp only at none ⊢
        omega
    · exact ⟨⟨health, mana⟩, bases⟩

/-- Health and mana stay in bounds in every run that is uncut throughout. -/
theorem vitals_stay_bounded (start finish : Player)
  (bases : 1 ≤ start.healthMax ∧ 1 ≤ start.manaMax) (bounded : Bounded start)
  (run : Reaches (Step vocations) (Uncut vocations) start finish) : Bounded finish := by
  have kept : Kept finish :=
    run.invariant ⟨bounded, by omega⟩ fun _ _ _ kept uncut step => kept.step uncut step
  exact kept.bounded

/-- A player of the first level, with a bonus to the hit points. -/
def weakened (health bonus : Int) : Player where
  level := 1
  experience := 0
  magLevel := 0
  manaSpent := 0
  magLevelPercent := 0
  skills := fun _ => ⟨10, 0⟩
  skillLoss := true
  lossPercent := ⟨0, 0, 0, by decide⟩
  vocationId := 0
  health := health
  healthMax := 100
  mana := 0
  manaMax := 5
  capacity := 400
  varStats := fun stat => if stat = .STAT_MAXHITPOINTS then bonus else 0

theorem vitals_stay_bounded_healing :
  Bounded ((weakened 40 (-10)).changeHealth 60) :=
  @vitals_stay_bounded (fun _ => Dying.even 100) (weakened 40 (-10)) _ (by decide)
    ⟨by decide, by decide⟩
    (.tail .refl (show Uncut _ _ (.changeHealth 60) from trivial) rfl)

/-- A dead player gets the base, which is more than the effective maximum. -/
theorem saved_above_maximum :
  ¬ ∀ (vocations : Nat → Dying.Vocation) (start finish : Player),
      1 ≤ start.healthMax ∧ 1 ≤ start.manaMax → Bounded start →
        Reaches (Step vocations) Always start finish → Bounded finish := by
  intro all
  have bounded :=
    all (fun _ => Dying.even 100) (weakened 0 (-10)) _ (by decide) ⟨by decide, by decide⟩
      (.tail .refl trivial (show Step _ _ .preSave _ from rfl))
  exact absurd bounded.health.2 (by decide)

end OTServ.Players.Vitals
