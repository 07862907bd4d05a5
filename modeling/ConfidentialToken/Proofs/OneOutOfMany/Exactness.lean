import ConfidentialToken.Proofs.OneOutOfMany.Extraction

/-!
When one-out-of-many proofs are made.

A prover that knows the factor of the commitment at its index makes a proof that
is accepted, for sets of all sizes, at all positions in them, and whatever it
draws. A prover that lacks it, or whose set has another size, fails before it
draws anything.
-/

namespace ConfidentialToken.OneOutOfMany

variable {S : Suite} {R : Type} [RandomSource S R] {statement : Statement S}
  {witness : Witness S}
  {g0 g1 : S.G1}

/-- The commitments are as many as there are indices of the given number of
bits, and the one at the index is the known multiple of the second base. -/
structure Knows (statement : Statement S) (witness : Witness S) (g1 : S.G1) : Prop where
  size : statement.commitments.length = 2 ^ statement.bitLength.toNat
  index : witness.index.toNat < 2 ^ statement.bitLength.toNat
  opened : statement.commitments[witness.index.toNat]? = some (witness.randomness • g1)

theorem Knows.setSize (knows : Knows statement witness g1)
    (addressable : statement.commitments.length < UInt64.size) :
    setSize? statement.bitLength = some statement.commitments.length := by
  apply setSize?_eq_some.mpr
  have word : 2 ^ statement.bitLength.toNat < 2 ^ 64 := knows.size ▸ addressable
  exact ⟨(Nat.pow_lt_pow_iff_right Nat.one_lt_two).mp word, knows.size⟩

theorem checkWitness_eq_ok_iff_knows (pedersen : statement.pedersen = [g0, g1])
    (addressable : statement.commitments.length < UInt64.size) :
    checkWitness statement witness = .ok (g0, g1) ↔ Knows statement witness g1 := by
  rw [checkWitness_eq_ok]
  constructor
  · intro fits
    have size := (setSize?_eq_some.mp fits.size).2
    have inRange := fits.index
    have opened := fits.opened
    rw [List.getD_eq_getElem?_getD, List.getElem?_eq_getElem inRange, Option.getD_some]
      at opened
    exact ⟨size, size ▸ inRange, opened ▸ List.getElem?_eq_getElem inRange⟩
  · intro knows
    have inRange : witness.index.toNat < statement.commitments.length :=
      knows.size ▸ knows.index
    refine ⟨pedersen, knows.setSize addressable, inRange, ?_⟩
    rw [List.getD_eq_getElem?_getD, knows.opened, Option.getD_some]

theorem prove_fails {failure : Error}
    (refused : checkWitness statement witness = .error failure) :
    Sampling.Fails (R := R) (prove statement witness) failure := by
  unfold prove
  apply Sampling.Fails.bind
  intro source
  rw [refused]
  rfl

theorem exists_prove_fails (pedersen : statement.pedersen = [g0, g1])
    (addressable : statement.commitments.length < UInt64.size)
    (ignorant : ¬ Knows statement witness g1) :
    ∃ failure, Sampling.Fails (R := R) (prove statement witness) failure := by
  cases checked : checkWitness statement witness with
  | error failure => exact ⟨failure, prove_fails checked⟩
  | ok bases =>
      have fits := checkWitness_eq_ok.mp checked
      have same : [bases.1, bases.2] = [g0, g1] := fits.pedersen.symm.trans pedersen
      simp only [List.cons.injEq, and_true] at same
      rw [← Prod.mk.eta (p := bases), same.1, same.2] at checked
      exact absurd ((checkWitness_eq_ok_iff_knows pedersen addressable).mp checked)
        ignorant

/-- Whatever is drawn, a proof is made and accepted if the prover knows the
factor of the commitment at its index, among as many as there are indices, and
none is made otherwise. -/
theorem prove_completes [LawfulG1 S] (pedersen : statement.pedersen = [g0, g1])
    (addressable : statement.commitments.length < UInt64.size) :
    (Knows statement witness g1 → ∀ source : R, ∃ proof rest,
      prove statement witness source = .ok (proof, rest) ∧
        statement.verify proof = .ok ()) ∧
    (¬ Knows statement witness g1 →
      ∃ failure, ∀ source : R, prove statement witness source = .error failure) := by
  constructor
  · intro knows source
    have fits := checkWitness_eq_ok.mp
      ((checkWitness_eq_ok_iff_knows pedersen addressable).mpr knows)
    obtain ⟨proof, rest, run⟩ := prove_succeeds fits source
    exact ⟨proof, rest, run, verify_prove (Sampling.gives_of_run run)⟩
  · exact exists_prove_fails pedersen addressable

/-- The prover of the sample succeeds at the index `2`. It fails at another
index, behind the last one, and where a commitment is missing. -/
theorem prove_completes_sample :
    let fewer : Statement Bn254.exponentSuite :=
      { sampleStatement with commitments := [7, 8, 15] }
    (∀ source : Sampling.Tape Bn254.exponentSuite, ∃ proof rest,
      prove sampleStatement ⟨2, 3⟩ source = .ok (proof, rest) ∧
        sampleStatement.verify proof = .ok ()) ∧
    (∃ failure, ∀ source : Sampling.Tape Bn254.exponentSuite,
      prove sampleStatement ⟨1, 3⟩ source = .error failure) ∧
    (∃ failure, ∀ source : Sampling.Tape Bn254.exponentSuite,
      prove sampleStatement ⟨4, 3⟩ source = .error failure) ∧
    ∃ failure, ∀ source : Sampling.Tape Bn254.exponentSuite,
      prove fewer ⟨2, 3⟩ source = .error failure := by
  intro fewer
  have addressable : sampleStatement.commitments.length < UInt64.size := by decide
  have fewerAddressable : fewer.commitments.length < UInt64.size := by decide
  refine ⟨(prove_completes rfl addressable).1 ?_, (prove_completes rfl addressable).2 ?_,
    (prove_completes rfl addressable).2 ?_, (prove_completes rfl fewerAddressable).2 ?_⟩
  · exact ⟨rfl, by decide, by decide +kernel⟩
  · intro knows
    have other :
        sampleStatement.commitments[1]? ≠ some ((3 : Bn254.Fr) • (5 : Bn254.Fr)) := by
      decide +kernel
    exact other knows.opened
  · intro knows
    exact absurd knows.index (by decide)
  · intro knows
    exact absurd knows.size (by decide)

end ConfidentialToken.OneOutOfMany
