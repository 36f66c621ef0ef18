import OTServ.Library.OrderedMap
import OTServ.Players.Experience
import Mathlib.Algebra.BigOperators.Field
import Mathlib.Algebra.Order.BigOperators.Group.Finset
import Mathlib.Data.Int.ModEq

/-!
# The experience of a kill

Every attacker gets a share of what the killed creature loses, by the damage it has
done.  The shares are computed one by one, each from the whole map of damages; they
are rounded down, so that together they never exceed what is lost.
-/

namespace OTServ.Players.Kills

open Experience Library List

/-- `CountBlock_t` -/
structure CountBlock where
  total : Int
  ticks : Int

/-- A creature, with what `getLostExperience` returns. -/
structure Creature where
  damageMap : OrderedMap Nat CountBlock
  lastHitCreature : Nat
  lostExperience : Nat

/-- The arguments of `addDamagePoints`, and the time. -/
structure Hit where
  attacker : Option Nat
  damagePoints : Int
  time : Int

/-- Unknown attackers have the key 0. -/
def Hit.attackerId (hit : Hit) : Nat := hit.attacker.getD 0

/-- `Creature::addDamagePoints` -/
def Creature.addDamagePoints (creature : Creature) (hit : Hit) : Creature :=
  if hit.damagePoints > 0 then
    let cb : CountBlock :=
      match creature.damageMap.find? hit.attackerId with
      | none => ⟨hit.damagePoints, hit.time⟩
      | some cb => ⟨int32 (cb.total + hit.damagePoints), hit.time⟩
    { creature with
      damageMap := creature.damageMap.insert hit.attackerId cb
      lastHitCreature := hit.attackerId }
  else creature

/-- The loop of `getDamageRatio`: `totalDamage` and `attackerDamage`. -/
def Creature.damages (creature : Creature) (attacker : Nat) : Int × Int :=
  creature.damageMap.entries.foldl
    (fun sums entry =>
      (int32 (sums.1 + entry.2.total),
        if entry.1 = attacker then int32 (sums.2 + entry.2.total) else sums.2))
    (0, 0)

/-- `Creature::getDamageRatio`, with an exact quotient. -/
def Creature.getDamageRatio (creature : Creature) (attacker : Nat) : ℚ :=
  (creature.damages attacker).2 / (creature.damages attacker).1

/-- What `getGainedExperience` begins with. -/
def Creature.share (creature : Creature) (attacker : Nat) : Int :=
  ⌊creature.getDamageRatio attacker * creature.lostExperience⌋

/-- `Creature::getGainedExperience`, with the rate of the player that it goes to, if any. -/
def Creature.getGainedExperience
  (creature : Creature) (attacker : Nat) (rateValue : Option ℚ) (RATE_EXPERIENCE : ℚ) : Int :=
  let retValue := creature.share attacker
  let retValue := rateValue.elim retValue fun rate => ⌊retValue * rate⌋
  ⌊retValue * RATE_EXPERIENCE⌋

def unharmed (lostExperience : Nat) : Creature :=
  ⟨OrderedMap.empty, 0, lostExperience⟩

def weigh (weight : Nat → Int) (entries : List (Nat × CountBlock)) : Int :=
  (entries.map fun entry => weight entry.1 * entry.2.total).sum

/-- The damages that have been done, by a weight of the attackers. -/
def dealt (weight : Nat → Int) (hits : List Hit) : Int :=
  (hits.map fun hit => weight hit.attackerId * hit.damagePoints).sum

def only (attacker : Nat) (id : Nat) : Int := if id = attacker then 1 else 0

variable {weight : Nat → Int} {entries : List (Nat × CountBlock)} {hits : List Hit}
  {creature : Creature}

lemma weigh_place
  (sorted : entries.Pairwise fun left right => left.1 < right.1) (id : Nat) (cb : CountBlock) :
  weigh weight (OrderedMap.place id cb entries) +
      weight id * ((OrderedMap.lookup id entries).elim 0 CountBlock.total) =
    weigh weight entries + weight id * cb.total := by
  induction sorted with
  | nil => simp [weigh, OrderedMap.place, OrderedMap.lookup]
  | @cons first rest after sorted ih =>
    rcases lt_trichotomy id first.1 with before | rfl | behind
    · have unknown : OrderedMap.lookup id rest = none := by
        by_contra known
        obtain ⟨value, found⟩ := Option.ne_none_iff_exists'.mp known
        have later := after _ ((OrderedMap.mem_iff_lookup sorted id value).mpr found)
        exact lt_irrefl id (before.trans later)
      simp [OrderedMap.place, OrderedMap.lookup, before, before.ne, unknown, weigh]
      ring
    · simp [OrderedMap.place, OrderedMap.lookup, weigh]
      ring
    · simp only [OrderedMap.place, OrderedMap.lookup, if_neg behind.not_gt, if_neg behind.ne',
        weigh, map_cons, sum_cons] at ih ⊢
      linarith

lemma int32_modEq (value : Int) : int32 value ≡ value [ZMOD 2 ^ 32] :=
  Int.bmod_emod

lemma addDamagePoints_weigh (creature : Creature) {hit : Hit} (positive : 0 < hit.damagePoints) :
  weigh weight (creature.addDamagePoints hit).damageMap.entries ≡
    weigh weight creature.damageMap.entries + weight hit.attackerId * hit.damagePoints
    [ZMOD 2 ^ 32] := by
  have placed := @weigh_place weight _ creature.damageMap.sorted hit.attackerId
  unfold Creature.addDamagePoints
  rw [if_pos positive]
  change ∀ cb, weigh weight (creature.damageMap.insert hit.attackerId cb).entries +
    weight hit.attackerId * (creature.damageMap.find? hit.attackerId).elim 0 _ = _ at placed
  dsimp only
  cases found : creature.damageMap.find? hit.attackerId with
  | none => exact congrArg (· % 2 ^ 32) (by simpa [found] using placed _)
  | some old =>
    have more := (int32_modEq (old.total + hit.damagePoints)).mul_left (weight hit.attackerId)
    have sums := placed ⟨int32 (old.total + hit.damagePoints), hit.time⟩
    rw [found, Option.elim_some] at sums
    rw [← eq_sub_iff_add_eq] at sums
    rw [sums]
    refine ((more.add_left _).sub_right _).trans (congrArg (· % 2 ^ 32) ?_)
    ring

/-- The map tells the damages, but for multiples of `2 ^ 32`. -/
lemma hits_weigh (lost : Nat) (positive : ∀ hit ∈ hits, 0 < hit.damagePoints) :
  weigh weight (hits.foldl Creature.addDamagePoints (unharmed lost)).damageMap.entries ≡
    dealt weight hits [ZMOD 2 ^ 32] := by
  induction hits using List.reverseRecOn with
  | nil => exact Int.ModEq.refl 0
  | append_singleton hits hit ih =>
    rw [foldl_append]
    refine (addDamagePoints_weigh _ (positive hit (by simp))).trans ?_
    refine ((ih fun other mem => positive other (by simp [mem])).add_right _).trans ?_
    simp [dealt, Int.ModEq.refl]

lemma int32_eq {value other : Int} (same : value ≡ other [ZMOD 2 ^ 32]) :
  int32 value = int32 other := by
  unfold int32
  rw [← Int.emod_bmod value, ← Int.emod_bmod other]
  exact congrArg (Int.bmod · _) same

lemma damages_weigh (creature : Creature) (attacker : Nat) :
  creature.damages attacker =
    (int32 (weigh 1 creature.damageMap.entries),
      int32 (weigh (only attacker) creature.damageMap.entries)) := by
  have loop : ∀ (entries : List (Nat × CountBlock)) (total own : Int),
      entries.foldl
          (fun sums entry =>
            (int32 (sums.1 + entry.2.total),
              if entry.1 = attacker then int32 (sums.2 + entry.2.total) else sums.2))
          (int32 total, int32 own) =
        (int32 (total + weigh 1 entries), int32 (own + weigh (only attacker) entries)) := by
    intro entries
    induction entries with
    | nil => simp [weigh]
    | cons first rest ih =>
      intro total own
      rw [foldl_cons]
      by_cases same : first.1 = attacker
      · rw [if_pos same, int32_add, int32_add, ih]
        simp [weigh, only, same, add_assoc]
      · rw [if_neg same, int32_add, ih]
        simp [weigh, only, same, add_assoc]
  have sums := loop creature.damageMap.entries 0 0
  rw [zero_add, zero_add] at sums
  exact sums

/-! ## Shares -/

section Shares

variable (positive : ∀ hit ∈ hits, 0 < hit.damagePoints)
include positive

lemma dealt_nonneg (attacker : Nat) : 0 ≤ dealt (only attacker) hits := by
  refine sum_nonneg ?_
  simp only [mem_map]
  rintro _ ⟨hit, mem, rfl⟩
  have damage := positive hit mem
  unfold only
  split_ifs <;> omega

/-- Each damage has been done by one of the attackers at most. -/
lemma sum_dealt_le (attackers : Finset Nat) :
  ∑ attacker ∈ attackers, dealt (only attacker) hits ≤ dealt 1 hits := by
  induction hits with
  | nil => simp [dealt]
  | cons hit rest ih =>
    have later := ih fun other mem => positive other (mem_cons_of_mem hit mem)
    have damage := positive hit mem_cons_self
    simp only [dealt, map_cons, sum_cons, Finset.sum_add_distrib, ← Finset.sum_mul] at later ⊢
    refine add_le_add ?_ later
    simp only [only, Finset.sum_ite_eq]
    split_ifs
    · simp
    · simp [damage.le]

variable (bounded : dealt 1 hits < 2 ^ 31)
include bounded

lemma damages_dealt (lost attacker : Nat) :
  (hits.foldl Creature.addDamagePoints (unharmed lost)).damages attacker =
    (dealt 1 hits, dealt (only attacker) hits) := by
  have own := dealt_nonneg positive attacker
  have most := sum_dealt_le positive {attacker}
  rw [Finset.sum_singleton] at most
  rw [damages_weigh, int32_eq (hits_weigh lost positive), int32_eq (hits_weigh lost positive),
    (int32_eq_iff _).mpr (by omega), (int32_eq_iff _).mpr (by omega)]

lemma share_eq (lost attacker : Nat) :
  (hits.foldl Creature.addDamagePoints (unharmed lost)).share attacker =
    ⌊(dealt (only attacker) hits / dealt 1 hits * lost : ℚ)⌋ := by
  have same : (hits.foldl Creature.addDamagePoints (unharmed lost)).lostExperience = lost := by
    clear positive bounded
    induction hits using List.reverseRecOn with
    | nil => rfl
    | append_singleton hits hit ih =>
      rw [foldl_append]
      refine Eq.trans ?_ ih
      simp only [foldl_cons, foldl_nil, Creature.addDamagePoints]
      split_ifs <;> rfl
  unfold Creature.share Creature.getDamageRatio
  rw [damages_dealt positive bounded, same]

/-- The shares of a kill are at most what is lost, and whoever did it alone gets all. -/
theorem kill_experience_shared (nonempty : hits ≠ []) (lost : Nat) :
  let killed := hits.foldl Creature.addDamagePoints (unharmed lost)
  (∀ attacker, (killed.damages attacker).1 ≠ 0) ∧
    (∀ attackers : Finset Nat, ∑ attacker ∈ attackers, killed.share attacker ≤ lost) ∧
    (∀ attacker, 0 ≤ killed.share attacker ∧ killed.share attacker ≤ lost) ∧
    ∀ attacker, (∀ hit ∈ hits, hit.attackerId = attacker) → killed.share attacker = lost := by
  intro killed
  have hurt : 0 < dealt 1 hits := by
    refine sum_pos _ (by simpa [dealt] using positive) ?_
    simpa using nonempty
  have total : (0 : ℚ) < dealt 1 hits := by exact_mod_cast hurt
  have shares (attackers : Finset Nat) : ∑ attacker ∈ attackers, killed.share attacker ≤ lost := by
    have parts : (∑ attacker ∈ attackers, dealt (only attacker) hits : ℚ) ≤ dealt 1 hits := by
      exact_mod_cast sum_dealt_le positive attackers
    have rounded : (∑ attacker ∈ attackers, killed.share attacker : ℚ) ≤ lost := calc
      _ ≤ ∑ attacker ∈ attackers, (dealt (only attacker) hits / dealt 1 hits * lost : ℚ) := by
        refine Finset.sum_le_sum fun attacker _ => ?_
        rw [share_eq positive bounded]
        exact Int.floor_le _
      _ = (∑ attacker ∈ attackers, dealt (only attacker) hits : ℚ) / dealt 1 hits * lost := by
        rw [Finset.sum_div, Finset.sum_mul]
      _ ≤ 1 * lost :=
        mul_le_mul_of_nonneg_right ((div_le_one total).mpr parts) (Nat.cast_nonneg lost)
      _ = lost := one_mul _
    exact_mod_cast rounded
  refine ⟨?_, shares, ?_, ?_⟩
  · intro attacker
    rw [damages_dealt positive bounded]
    exact hurt.ne'
  · intro attacker
    constructor
    · have own : (0 : ℚ) ≤ dealt (only attacker) hits := by
        exact_mod_cast dealt_nonneg positive attacker
      rw [share_eq positive bounded]
      exact Int.floor_nonneg.mpr (by positivity)
    · simpa using shares {attacker}
  · intro attacker alone
    have all : dealt (only attacker) hits = dealt 1 hits := by
      refine congrArg List.sum (map_congr_left fun hit member => ?_)
      rw [only, if_pos (alone hit member)]
      rfl
    rw [share_eq positive bounded, all, div_self total.ne', one_mul]
    exact Int.floor_natCast lost

end Shares

/-- Two attackers share a hundred points, and round down. -/
theorem kill_experience_shared_rounds :
  [1, 2].map
      ([⟨some 1, 2, 0⟩, ⟨some 2, 1, 5⟩, ⟨none, 3, 7⟩, ⟨some 1, 1, 9⟩].foldl
        Creature.addDamagePoints (unharmed 100)).share = [42, 14] ∧
    ([⟨some 1, 2, 0⟩, ⟨some 2, 1, 5⟩, ⟨none, 3, 7⟩, ⟨some 1, 1, 9⟩].foldl
        Creature.addDamagePoints (unharmed 100)).share 0 ≤ 100 :=
  ⟨by decide +kernel,
    ((kill_experience_shared (by decide) (by decide) (by decide) 100).2.2.1 0).2⟩

end OTServ.Players.Kills
