import Mathlib.Logic.Function.Basic
import Mathlib.Data.List.Infix
import Mathlib.Data.UInt

/-!
# The attempts to log in

An address with too many failed attempts is disabled for some time.  The count is
set back by the attempt after that time, and not before.  As the times have 32
bits, the time at which an address is free again may lie before the attempt.
-/

namespace OTServ.LoginAttempts

open Function
open List

structure LoginBlock where
  lastLoginTime : UInt32
  numberOfLogins : UInt32

/-- The fields of `BanManager` from the configuration. -/
structure Limits where
  loginTimeout : UInt32
  maxLoginTries : UInt32
  retryTimeout : UInt32

/-- `IpLoginMap` -/
abbrev IpLoginMap : Type := UInt32 → Option LoginBlock

structure Attempt where
  clientip : UInt32
  currentTime : UInt32
  isSuccess : Bool

variable (limits : Limits)

def LoginBlock.isDisabled (block : LoginBlock) (currentTime : UInt32) : Bool :=
  limits.maxLoginTries ≤ block.numberOfLogins &&
    currentTime < block.lastLoginTime + limits.loginTimeout

def isIpDisabled (ipLoginMap : IpLoginMap) (clientip currentTime : UInt32) : Bool :=
  if limits.maxLoginTries = 0 then false
  else if clientip ≠ 0 then
    match ipLoginMap clientip with
    | some block => block.isDisabled limits currentTime
    | none => false
  else false

def LoginBlock.add (block : LoginBlock) (attempt : Attempt) : LoginBlock :=
  let numberOfLogins :=
    if limits.maxLoginTries ≤ block.numberOfLogins then 0 else block.numberOfLogins
  { numberOfLogins :=
      if !attempt.isSuccess || attempt.currentTime < block.lastLoginTime + limits.retryTimeout then
        numberOfLogins + 1
      else 0
    lastLoginTime := attempt.currentTime }

def addLoginAttempt (ipLoginMap : IpLoginMap) (attempt : Attempt) : IpLoginMap :=
  if attempt.clientip ≠ 0 then
    update ipLoginMap attempt.clientip
      (some (((ipLoginMap attempt.clientip).getD ⟨0, 0⟩).add limits attempt))
  else ipLoginMap

/-- Attempts from the address are made only while it is not disabled. -/
def Admitted (clientip : UInt32) : IpLoginMap → List Attempt → Prop
  | _, [] => True
  | ipLoginMap, attempt :: rest =>
    (attempt.clientip = clientip →
      isIpDisabled limits ipLoginMap clientip attempt.currentTime = false) ∧
      Admitted clientip (addLoginAttempt limits ipLoginMap attempt) rest

/-- Among any failed attempts on end, one more than allowed, two are apart. -/
def Throttles (clientip : UInt32) (attempts : List Attempt) : Prop :=
  ∀ failed,
    failed <:+: attempts.filter (·.clientip = clientip) →
      failed.length = limits.maxLoginTries.toNat + 1 →
        (∀ attempt ∈ failed, attempt.isSuccess = false) →
          ∃ first second,
            [first, second] <:+: failed ∧
              first.currentTime.toNat + limits.loginTimeout.toNat ≤ second.currentTime.toNat

variable {limits : Limits} {ipLoginMap : IpLoginMap} {block : LoginBlock} {attempt : Attempt}
  {clientip : UInt32}

/-! ## The block of one address -/

/-- The attempts from an address are made while its block allows them. -/
def LoginBlock.Admits (limits : Limits) : LoginBlock → List Attempt → Prop
  | _, [] => True
  | block, attempt :: rest =>
    block.isDisabled limits attempt.currentTime = false ∧
      Admits limits (block.add limits attempt) rest

lemma isIpDisabled_eq (possible : limits.maxLoginTries ≠ 0) (ip : clientip ≠ 0)
  (currentTime : UInt32) :
  isIpDisabled limits ipLoginMap clientip currentTime =
    ((ipLoginMap clientip).getD ⟨0, 0⟩).isDisabled limits currentTime := by
  rw [isIpDisabled, if_neg possible, if_pos ip]
  cases ipLoginMap clientip with
  | some block => rfl
  | none =>
    have few : ¬ limits.maxLoginTries ≤ 0 := by
      rwa [UInt32.le_zero_iff]
    simp [LoginBlock.isDisabled, few]

/-- What is done from other addresses does not matter to the block. -/
lemma Admitted.own (possible : limits.maxLoginTries ≠ 0) (ip : clientip ≠ 0)
  {attempts : List Attempt} (admitted : Admitted limits clientip ipLoginMap attempts) :
  ((ipLoginMap clientip).getD ⟨0, 0⟩).Admits limits
    (attempts.filter (·.clientip = clientip)) := by
  induction attempts generalizing ipLoginMap with
  | nil => trivial
  | cons attempt rest ih =>
    obtain ⟨allowed, later⟩ := admitted
    have tail := ih later
    by_cases own : attempt.clientip = clientip
    · rw [filter_cons_of_pos (by simpa using own)]
      subst own
      rw [addLoginAttempt, if_pos ip, update_self] at tail
      exact ⟨(isIpDisabled_eq possible ip _).symm.trans (allowed rfl), tail⟩
    · rw [filter_cons_of_neg (by simpa using own)]
      rw [addLoginAttempt] at tail
      split at tail
      · rwa [update_of_ne (Ne.symm own)] at tail
      · exact tail

lemma LoginBlock.Admits.tail {before after : List Attempt}
  (admits : block.Admits limits (before ++ after)) :
  ∃ block' : LoginBlock, block'.Admits limits after := by
  induction before generalizing block with
  | nil => exact ⟨block, admits⟩
  | cons attempt rest ih => exact ih admits.2

/-- A failed attempt counts, and the count starts again when it is full. -/
lemma LoginBlock.add_failed (possible : limits.maxLoginTries ≠ 0)
  (failed : attempt.isSuccess = false) :
  (block.add limits attempt).numberOfLogins.toNat =
    (if limits.maxLoginTries ≤ block.numberOfLogins then 0
      else block.numberOfLogins.toNat) + 1 := by
  have bound := limits.maxLoginTries.toNat_lt
  have some : 0 < limits.maxLoginTries.toNat :=
    Nat.pos_of_ne_zero fun none => possible (UInt32.toNat_inj.mp none)
  simp only [add, failed, Bool.not_false, Bool.true_or, if_true]
  split
  · rfl
  · rename_i few
    rw [UInt32.le_iff_toNat_le] at few
    rw [UInt32.toNat_add, UInt32.toNat_one]
    omega

/-- The count reaches the limit, if no two attempts have been apart. -/
lemma LoginBlock.Admits.apart (possible : limits.maxLoginTries ≠ 0)
  {last : Attempt} {failed after : List Attempt} (admits : block.Admits limits (failed ++ after))
  (time : block.lastLoginTime = last.currentTime)
  (small : block.numberOfLogins ≤ limits.maxLoginTries)
  (many : limits.maxLoginTries.toNat < block.numberOfLogins.toNat + failed.length)
  (failing : ∀ attempt ∈ failed, attempt.isSuccess = false)
  (early :
    ∀ attempt ∈ last :: failed,
      attempt.currentTime.toNat + limits.loginTimeout.toNat < 2 ^ 32) :
  ∃ first second,
    [first, second] <:+: last :: failed ∧
      first.currentTime.toNat + limits.loginTimeout.toNat ≤ second.currentTime.toNat := by
  rw [UInt32.le_iff_toNat_le] at small
  induction failed generalizing block last with
  | nil =>
    rw [length_nil] at many
    omega
  | cons attempt rest ih =>
    obtain ⟨allowed, later⟩ := admits
    by_cases full : limits.maxLoginTries ≤ block.numberOfLogins
    · have waited : ¬ attempt.currentTime < block.lastLoginTime + limits.loginTimeout := by
        simpa [isDisabled, full] using allowed
      have noWrap := early last mem_cons_self
      rw [time, UInt32.lt_iff_toNat_lt, UInt32.toNat_add, Nat.mod_eq_of_lt noWrap] at waited
      exact
        ⟨last, attempt, (prefix_append [last, attempt] rest).isInfix, Nat.le_of_not_lt waited⟩
    · have counted := @LoginBlock.add_failed limits block _ possible (failing _ mem_cons_self)
      rw [if_neg full] at counted
      rw [UInt32.le_iff_toNat_le] at full
      rw [length_cons] at many
      obtain ⟨first, second, inside, apart⟩ :=
        ih later rfl (by omega) (by omega)
          (fun other mem => failing other (mem_cons_of_mem _ mem))
          (fun other mem => early other (mem_cons_of_mem _ mem))
      exact ⟨first, second, inside.trans (suffix_cons last _).isInfix, apart⟩

/-- As long as no attempt is close to the end of the clock, attempts are throttled. -/
theorem failed_attempts_throttled (possible : limits.maxLoginTries ≠ 0) (ip : clientip ≠ 0)
  (attempts : List Attempt) (admitted : Admitted limits clientip ipLoginMap attempts)
  (early :
    ∀ attempt ∈ attempts,
      attempt.clientip = clientip →
        attempt.currentTime.toNat + limits.loginTimeout.toNat < 2 ^ 32) :
  Throttles limits clientip attempts := by
  intro failed inside enough failing
  obtain ⟨before, after, own⟩ := inside
  have admits := admitted.own possible ip
  rw [← own, append_assoc] at admits
  obtain ⟨block, admits⟩ := admits.tail
  cases failed with
  | nil => cases enough
  | cons first rest =>
    have begun := @LoginBlock.add_failed limits block _ possible (failing _ mem_cons_self)
    have limit := limits.maxLoginTries.toNat_lt
    have some : 0 < limits.maxLoginTries.toNat :=
      Nat.pos_of_ne_zero fun none => possible (UInt32.toNat_inj.mp none)
    rw [length_cons] at enough
    apply admits.2.apart possible rfl
    · rw [UInt32.le_iff_toNat_le, begun]
      split
      · omega
      · rename_i few
        rw [UInt32.le_iff_toNat_le] at few
        omega
    · omega
    · exact fun other member => failing other (mem_cons_of_mem _ member)
    · intro other member
      have listed : other ∈ attempts.filter (·.clientip = clientip) := by
        rw [← own]
        exact mem_append_left _ (mem_append_right _ member)
      rw [mem_filter] at listed
      exact early other listed.1 (by simpa using listed.2)

/-- With one try in five seconds, the next attempt is made five seconds later. -/
theorem failed_attempts_throttled_later :
  Throttles ⟨5, 1, 5⟩ 1 [⟨1, 100, false⟩, ⟨1, 105, false⟩] := by
  refine @failed_attempts_throttled _ (fun _ => none) _ (by decide) (by decide) _ ?_ (by decide)
  exact ⟨fun _ => rfl, fun _ => rfl, trivial⟩

/-- In the last second of the clock nobody is disabled. -/
theorem last_second_unlimited :
  ¬ ∀ (limits : Limits) (clientip : UInt32) (attempts : List Attempt),
      limits.maxLoginTries ≠ 0 → clientip ≠ 0 →
        attempts.Pairwise (fun first second => first.currentTime ≤ second.currentTime) →
          Admitted limits clientip (fun _ => none) attempts →
            Throttles limits clientip attempts := by
  intro all
  let attempt : Attempt := ⟨1, 0xFFFFFFFF, false⟩
  obtain ⟨first, second, inside, apart⟩ :=
    all ⟨5, 1, 5⟩ 1 [attempt, attempt] (by decide) (by decide) (by decide)
      ⟨fun _ => rfl, fun _ => by decide +kernel, trivial⟩ [attempt, attempt] (infix_refl _) rfl
      (by decide)
  have late := second.currentTime.toNat_lt
  have last : first = attempt := by
    simpa using inside.subset (mem_cons_self : first ∈ [first, second])
  rw [last] at apart
  simp only [attempt, UInt32.reduceToNat] at apart
  omega

end OTServ.LoginAttempts
