import Mathlib.Data.List.Prime
import Mathlib.NumberTheory.LucasPrimality
import ConfidentialToken.Proofs.Algebra.Residue

/-!
Primes with certificates.

By Lucas's criterion a number is prime if some base has the order of a prime
field modulo it. The prime factors of that order are certified first, so that a
list of certificates, each of which builds on those before it, is checked by
computing powers.
-/

namespace ConfidentialToken

/-- The least representative of a power modulo a number. -/
def powerModulo (modulus base exponent : Nat) : Nat :=
  composeTimes (fun a b => a * b % modulus) 1 base exponent % modulus

theorem cast_powerModulo (modulus base exponent : Nat) :
    (powerModulo modulus base exponent : ZMod modulus) =
      (base : ZMod modulus) ^ exponent := by
  have respects (a b : Nat) : ((a * b % modulus : Nat) : ZMod modulus) = a * b := by
    rw [ZMod.natCast_mod, Nat.cast_mul]
  rw [powerModulo, ZMod.natCast_mod, map_composeTimes Nat.cast _ (· * ·) respects,
    Nat.cast_one, composeTimes_eq_pow]

theorem powerModulo_eq_one {modulus : Nat} (large : 1 < modulus) (base exponent : Nat) :
    powerModulo modulus base exponent = 1 ↔ (base : ZMod modulus) ^ exponent = 1 := by
  have congruent :=
    ZMod.natCast_eq_natCast_iff' (powerModulo modulus base exponent) 1 modulus
  rw [Nat.cast_one, cast_powerModulo, powerModulo, Nat.mod_mod, Nat.mod_eq_of_lt large]
    at congruent
  exact congruent.symm

structure PrimeCertificate where
  number : Nat
  /-- A number whose powers modulo `number` are all residues but zero. -/
  base : Nat
  /-- The prime factors of the number before, with their exponents. -/
  factors : List (Nat × Nat)

namespace PrimeCertificate

/-- A certificate proves its number prime if the known numbers are prime. -/
def Holds (known : List Nat) (certificate : PrimeCertificate) : Prop :=
  let ⟨number, base, factors⟩ := certificate
  1 < number ∧ (factors.map fun factor => factor.1 ^ factor.2).prod + 1 = number ∧
    powerModulo number base (number - 1) = 1 ∧
    ∀ factor ∈ factors,
      factor.1 ∈ known ∧ powerModulo number base ((number - 1) / factor.1) ≠ 1

instance (known : List Nat) (certificate : PrimeCertificate) :
    Decidable (certificate.Holds known) :=
  inferInstanceAs (Decidable (_ ∧ _))

/-- Each certificate proves its number prime if the known numbers and those
certified before it are prime. -/
def AllHold : (known : List Nat) → List PrimeCertificate → Prop
  | _, [] => True
  | known, certificate :: certificates =>
      certificate.Holds known ∧ AllHold (certificate.number :: known) certificates

instance decidableAllHold : (known : List Nat) → (certificates : List PrimeCertificate) →
    Decidable (AllHold known certificates)
  | _, [] => .isTrue trivial
  | known, certificate :: certificates =>
      have := decidableAllHold (certificate.number :: known) certificates
      inferInstanceAs (Decidable (_ ∧ _))

theorem prime_of_holds {known : List Nat} {certificate : PrimeCertificate}
    (primes : ∀ prime ∈ known, prime.Prime) (holds : certificate.Holds known) :
    certificate.number.Prime := by
  obtain ⟨number, base, factors⟩ := certificate
  obtain ⟨large, product, fermat, order⟩ := holds
  have less : number - 1 = (factors.map fun factor => factor.1 ^ factor.2).prod := by
    omega
  refine lucas_primality number base ((powerModulo_eq_one large _ _).mp fermat) ?_
  intro q prime divides one
  rw [less] at divides
  obtain ⟨power, powerMembership, powerDivisor⟩ :=
    (Prime.dvd_prod_iff prime.prime).mp divides
  obtain ⟨factor, membership, rfl⟩ := List.mem_map.mp powerMembership
  obtain ⟨among, different⟩ := order factor membership
  have divisor := prime.dvd_of_dvd_pow powerDivisor
  obtain rfl := (Nat.prime_dvd_prime_iff_eq prime (primes factor.1 among)).mp divisor
  exact different ((powerModulo_eq_one large _ _).mpr one)

/-- What a list of certificates certifies is prime. -/
theorem prime_of_allHold {known : List Nat} {certificates : List PrimeCertificate}
    (primes : ∀ prime ∈ known, prime.Prime) (hold : AllHold known certificates) :
    ∀ certificate ∈ certificates, certificate.number.Prime := by
  induction certificates generalizing known with
  | nil => simp
  | cons certificate certificates inductionHypothesis =>
      have first := prime_of_holds primes hold.1
      have rest := inductionHypothesis (by simpa using ⟨first, primes⟩) hold.2
      simpa using ⟨first, rest⟩

end PrimeCertificate

end ConfidentialToken
