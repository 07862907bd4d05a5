import ConfidentialToken.Proofs.Bulletproof.Hiding

/-!
Which values have range proofs over bits.

A prover who knows an opening makes a proof for any value, but only the bits for
which there are generators enter it. The commitments to the coefficients
announce an inner product with the whole value, and the vectors have one with
what its lower bits spell. As both are less than the order, they differ as soon
as the value has a bit that the proof leaves out.
-/

namespace ConfidentialToken.Bulletproof

variable {S : Suite} [LawfulG1 S]

theorem toNat_lt_order (value : UInt64) : value.toNat < LawfulScalars.order S.Scalar :=
  calc value.toNat
      < 2 ^ 64 := value.toNat_lt
    _ ≤ 2 ^ 128 := by decide
    _ ≤ LawfulScalars.order S.Scalar := LawfulScalars.order_wide

theorem natCast_mod_eq_iff (value : UInt64) (count : Nat) :
    ((value.toNat % 2 ^ count : Nat) : S.Scalar) = (value.toNat : S.Scalar) ↔
      value.toNat < 2 ^ count := by
  have remainder : value.toNat % 2 ^ count < LawfulScalars.order S.Scalar :=
    Nat.lt_of_le_of_lt (Nat.mod_le _ _) (toNat_lt_order value)
  rw [natCast_inj_of_lt remainder (toNat_lt_order value),
    Nat.mod_eq_iff_lt (Nat.ne_of_gt (Nat.two_pow_pos count))]

namespace Statement

variable {statement : Statement S} {value : UInt64} {blindingFactor : S.Scalar}
  {proof : RangeProof S}

/-- What a proof announces is off by what the lower bits lack, times the square
of the challenge that goes with the value. -/
theorem Makes.announces_iff {u v : Fin statement.parameters.bitLength.toNat → S.Scalar}
    {rho eta tau1 tau2 : S.Scalar}
    (makes : statement.Makes value blindingFactor u v rho eta tau1 tau2 proof)
    (opened : statement.commitment =
      (ScalarOperations.ofNat value.toNat : S.Scalar) • statement.g +
        blindingFactor • statement.h) :
    let z := (statement.challenges proof).z
    let spelled := value.toNat % 2 ^ statement.parameters.bitLength.toNat
    statement.Announces (statement.challenges proof) proof.t1 proof.t2 proof.innerProduct
        proof.tau ↔
      (z * z * ((spelled : S.Scalar) - value.toNat)) • statement.g = 0 := by
  intro z spelled
  have difference :
      proof.innerProduct • statement.g + proof.tau • statement.h -
          (statement.challenges proof).x • proof.t1 -
          ((statement.challenges proof).x * (statement.challenges proof).x) • proof.t2 -
        ((z * z) • statement.commitment +
          constantTerm z
            (powers (statement.challenges proof).y statement.parameters.bitLength.toNat)
            (powers (1 + 1) statement.parameters.bitLength.toNat) • statement.g) =
        (z * z * ((spelled : S.Scalar) - value.toNat)) • statement.g := by
    rw [makes.innerProduct, statement.dotProduct_at, opened, makes.tau, makes.t1,
      makes.t2, ofNat_eq_natCast]
    module
  rw [← difference, sub_eq_zero]
  rfl

theorem Makes.announces_iff_lt {u v : Fin statement.parameters.bitLength.toNat → S.Scalar}
    {rho eta tau1 tau2 : S.Scalar}
    (makes : statement.Makes value blindingFactor u v rho eta tau1 tau2 proof)
    (opened : statement.commitment =
      (ScalarOperations.ofNat value.toNat : S.Scalar) • statement.g +
        blindingFactor • statement.h)
    (base : statement.g ≠ 0) (nonzero : (statement.challenges proof).z ≠ 0) :
    statement.Announces (statement.challenges proof) proof.t1 proof.t2 proof.innerProduct
        proof.tau ↔
      value.toNat < 2 ^ statement.parameters.bitLength.toNat := by
  apply (makes.announces_iff opened).trans
  rw [smul_eq_zero_iff_left base, mul_eq_zero_iff_left (mul_ne_zero nonzero nonzero),
    sub_eq_zero, natCast_mod_eq_iff]

/-- The proof that is made with an opening of a commitment is accepted exactly
if the value has no more bits than there are generators. -/
theorem verify_iff_in_range {R : Type} [RandomSource S R]
    (sized : statement.parameters.Sized) (base : statement.g ≠ 0)
    (opened : statement.commitment =
      (ScalarOperations.ofNat value.toNat : S.Scalar) • statement.g +
        blindingFactor • statement.h)
    (gives : Sampling.Gives (R := R) (statement.prove value blindingFactor) proof)
    (nonzero : (statement.challenges proof).z ≠ 0) :
    statement.verify proof = .ok () ↔
      value.toNat < 2 ^ statement.parameters.bitLength.toNat := by
  constructor
  · intro verified
    obtain ⟨⟨u, v, rho, eta, tau1, tau2⟩, drawn, proved⟩ := gives.bind
    obtain ⟨uLength, vLength⟩ := sample_gives drawn
    obtain ⟨u, rfl⟩ := exists_ofFn uLength
    obtain ⟨v, rfl⟩ := exists_ofFn vLength
    have makes := proveWith_eq_ok.mp proved.lift
    apply (makes.announces_iff_lt opened base nonzero).mp
    exact (verify_eq_ok.mp verified).2.1
  · intro bounded
    exact verify_prove sized ⟨opened, bounded⟩ gives

end Statement

namespace Sample

open Bn254 Sampling

def proofOutOfRange : RangeProof suite :=
  (statement.proveWith 456 (-507 : Fr)
    ⟨List.ofFn u, List.ofFn v, 73, 79, 83, 89⟩).toOption.get (by decide +kernel)

theorem verify_iff_in_range_sample :
    Gives (R := Tape suite) (statement.prove 200 (5 : Fr)) proof ∧
      statement.verify proof = .ok () ∧
      Gives (R := Tape suite) (statement.prove 456 (-507 : Fr)) proofOutOfRange ∧
      statement.verify proofOutOfRange ≠ .ok () := by
  have sized : statement.parameters.Sized := ⟨rfl, rfl⟩
  have base : statement.g ≠ (0 : Fr) := by decide +kernel
  have inRange : Gives (R := Tape suite) (statement.prove 200 (5 : Fr)) proof :=
    gives_of_run making.property.2
  have outOfRange :
      Gives (R := Tape suite) (statement.prove 456 (-507 : Fr)) proofOutOfRange :=
    gives_of_run (Statement.run_prove_eq_ok.mpr
      (Statement.proveWith_eq_ok.mp (eq_ok_get _)))
  refine ⟨inRange, ?_, outOfRange, ?_⟩
  · apply (Statement.verify_iff_in_range sized base opens.commitment inRange ?_).mpr
    · decide
    · decide +kernel
  · intro verified
    have opened : statement.commitment =
        (ScalarOperations.ofNat (456 : UInt64).toNat : Fr) • statement.g +
          (-507 : Fr) • statement.h := by
      decide +kernel
    have challenge : (statement.challenges proofOutOfRange).z ≠ (0 : Fr) := by
      decide +kernel
    have bounded :=
      (Statement.verify_iff_in_range sized base opened outOfRange challenge).mp verified
    exact absurd bounded (by decide)

end Sample

end ConfidentialToken.Bulletproof
