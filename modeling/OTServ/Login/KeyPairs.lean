import Mathlib.FieldTheory.Finite.Basic
import Mathlib.Tactic.Lemma

/-!
# The key of the server

`RSA::decrypt` computes the power modulo each of the two primes, with exponents that are
reduced, and puts the results together.  The plain power, which the file shows in a
comment, is the same number unless a reduced exponent is 0.
-/

namespace OTServ.Login.Keys

open Nat

/-- The inverse in the range of the modulus, as GMP finds it. -/
def mpz_invert (a modulus : Nat) : Nat :=
  (a.gcdA modulus % modulus).toNat

structure RSA where
  m_p : Nat
  m_q : Nat
  m_u : Nat
  m_dp : Nat
  m_dq : Nat

def setKey (p q d : Nat) : RSA where
  m_p := p
  m_q := q
  m_u := mpz_invert p q
  m_dp := d % (p - 1)
  m_dq := d % (q - 1)

/-- `RSA::decrypt`, for the number that the 128 bytes make. -/
def RSA.decrypt (rsa : RSA) (c : Nat) : Nat :=
  let v1 := (c % rsa.m_p) ^ rsa.m_dp % rsa.m_p
  let v2 := (c % rsa.m_q) ^ rsa.m_dq % rsa.m_q
  let u2 := ((v2 : Int) - v1) * rsa.m_u % rsa.m_q
  v1 + u2.toNat * rsa.m_p

variable {p q : Nat} (d c : Nat)

lemma mpz_invert_spec (coprime : p.Coprime q) (positive : 0 < q) :
  (p : Int) * mpz_invert p q ≡ 1 [ZMOD q] := by
  have bezout := gcd_eq_gcd_ab p q
  rw [coprime.gcd_eq_one] at bezout
  have range := Int.emod_nonneg (p.gcdA q) (Int.natCast_ne_zero.mpr positive.ne')
  rw [mpz_invert, Int.toNat_of_nonneg range]
  calc
    (p : Int) * (p.gcdA q % q) ≡ p * p.gcdA q [ZMOD q] := (Int.mod_modEq _ _).mul_left _
    _ ≡ p * p.gcdA q + q * p.gcdB q [ZMOD q] := by simp [Int.ModEq]
    _ = 1 := by rw [← bezout]; rfl

/-- The number below the product with the two remainders. -/
lemma decrypt_spec (coprime : p.Coprime q) (some : 0 < p) (positive : 0 < q) :
  (setKey p q d).decrypt c < p * q ∧
    (setKey p q d).decrypt c ≡ (c % p) ^ (d % (p - 1)) [MOD p] ∧
      (setKey p q d).decrypt c ≡ (c % q) ^ (d % (q - 1)) [MOD q] := by
  simp only [RSA.decrypt, setKey]
  generalize (c % p) ^ (d % (p - 1)) = first
  generalize (c % q) ^ (d % (q - 1)) = second
  have low := mod_lt first some
  have nonneg := Int.emod_nonneg (((second % q : Nat) - (first % p : Nat) : Int) * mpz_invert p q)
    (Int.natCast_ne_zero.mpr positive.ne')
  have bound := Int.emod_lt_of_pos (((second % q : Nat) - (first % p : Nat) : Int) * mpz_invert p q)
    (Int.natCast_pos.mpr positive)
  have joined := Int.toNat_of_nonneg nonneg
  have residue := Int.mod_modEq (((second % q : Nat) - (first % p : Nat) : Int) * mpz_invert p q) q
  generalize (((second % q : Nat) - (first % p : Nat) : Int) * mpz_invert p q % q).toNat = u2 at *
  rw [← joined] at bound residue
  refine ⟨?_, ?_, ?_⟩
  · calc
      first % p + u2 * p < p + u2 * p := Nat.add_lt_add_right low _
      _ = p * (u2 + 1) := by ring
      _ ≤ p * q := Nat.mul_le_mul_left p (by omega)
  · simp [ModEq]
  · rw [← Int.natCast_modEq_iff]
    push_cast
    calc
      (first % p : Int) + u2 * p ≡
          (first % p : Int) + ((second % q : Int) - first % p) * mpz_invert p q * p [ZMOD q] :=
        (residue.mul_right _).add_left _
      _ = (first % p : Int) + ((second % q : Int) - first % p) * (p * mpz_invert p q) := by ring
      _ ≡ first % p + ((second % q : Int) - first % p) * 1 [ZMOD q] :=
        ((mpz_invert_spec coprime positive).mul_left _).add_left _
      _ = (second % q : Int) := by ring
      _ ≡ second [ZMOD q] := Int.mod_modEq _ _

/-- Fermat's theorem; a number without remainder has the power 1 if nothing is left of `d`. -/
lemma power_reduced (prime : p.Prime) :
  (∀ c, (c % p) ^ (d % (p - 1)) ≡ c ^ d [MOD p]) ↔ (d = 0 ∨ ¬ p - 1 ∣ d) := by
  constructor
  · intro same
    by_contra vanishes
    rw [not_or, not_not] at vanishes
    have one := same p
    rw [mod_self, mod_eq_zero_of_dvd vanishes.2, Nat.pow_zero] at one
    have none : p ^ d ≡ 0 [MOD p] := (modEq_zero_iff_dvd).mpr (dvd_pow_self p vanishes.1)
    exact prime.one_lt.ne' (dvd_one.mp ((modEq_zero_iff_dvd).mp (one.trans none)))
  · intro remains c
    by_cases whole : p ∣ c
    · rcases remains with rfl | remains
      · rw [zero_mod, Nat.pow_zero, Nat.pow_zero]
      · have positive : d ≠ 0 := fun zero => remains (zero ▸ dvd_zero _)
        have left : d % (p - 1) ≠ 0 := fun zero => remains (dvd_of_mod_eq_zero zero)
        rw [mod_eq_zero_of_dvd whole, zero_pow left]
        exact ((modEq_zero_iff_dvd).mpr (whole.trans (dvd_pow_self c positive))).symm
    · have fermat := ModEq.pow_totient ((prime.coprime_iff_not_dvd.mpr whole).symm)
      rw [totient_prime prime] at fermat
      calc
        (c % p) ^ (d % (p - 1)) ≡ c ^ (d % (p - 1)) * 1 [MOD p] := by
          rw [Nat.mul_one]
          exact (mod_modEq c p).pow _
        _ ≡ c ^ (d % (p - 1)) * (c ^ (p - 1)) ^ (d / (p - 1)) [MOD p] := by
          simpa using (fermat.pow (d / (p - 1))).symm.mul_left (c ^ (d % (p - 1)))
        _ = c ^ d := by rw [← Nat.pow_mul, ← Nat.pow_add, mod_add_div]

lemma decrypt_power (prime : p.Prime) (prime' : q.Prime) (differ : p ≠ q)
  (first : d = 0 ∨ ¬ p - 1 ∣ d) (second : d = 0 ∨ ¬ q - 1 ∣ d) :
  (setKey p q d).decrypt c = c ^ d % (p * q) := by
  have coprime := (coprime_primes prime prime').mpr differ
  have ⟨low, left, right⟩ := decrypt_spec d c coprime prime.pos prime'.pos
  have both := (modEq_and_modEq_iff_modEq_mul coprime).mp
    ⟨left.trans ((power_reduced d prime).mpr first c),
      right.trans ((power_reduced d prime').mpr second c)⟩
  rw [← mod_eq_of_lt low]
  exact both

lemma power_inverse {e d : Nat} (prime : p.Prime) (odd : 2 < p)
  (inverse : e * d ≡ 1 [MOD p - 1]) (m : Nat) : ¬ p - 1 ∣ d ∧ m ^ (e * d) ≡ m [MOD p] := by
  have one : e * d % (p - 1) = 1 := Eq.trans inverse (mod_eq_of_lt (by omega))
  have apart : ¬ p - 1 ∣ e * d := fun divides => by
    rw [mod_eq_zero_of_dvd divides] at one
    cases one
  have power := (power_reduced (e * d) prime).mpr (.inr apart) m
  rw [one, Nat.pow_one] at power
  exact ⟨fun divides => apart (divides.mul_left e), power.symm.trans (mod_modEq m p)⟩

end OTServ.Login.Keys
