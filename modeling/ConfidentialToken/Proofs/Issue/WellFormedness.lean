import ConfidentialToken.Proofs.TypeCommitment
import ConfidentialToken.Proofs.Token
import ConfidentialToken.Issue.WellFormedness

/-!
Honest proofs that issued tokens are well formed are accepted.
-/

namespace ConfidentialToken

variable {S : Suite}

namespace Issue.WellFormedness

namespace Statement

theorem commonType_eq_ok {statement : Statement S} {openings : List (Opening S)}
    {tokenType : String} (typed : ∀ opening ∈ openings, opening.tokenType = tokenType)
    {result : String} (common : statement.commonType openings = .ok result) :
    statement.generators.length = 3 ∧ result = tokenType := by
  obtain ⟨_, generators, common⟩ := bind_eq_ok.mp common
  rw [checkGenerators, ite_error_eq_ok, not_not] at generators
  refine ⟨generators.1, ?_⟩
  cases openings with
  | nil => exact absurd common throw_ne_ok
  | cons first openings =>
      simp only [guard_eq_ok, pure_eq_ok] at common
      rw [← common.2.2, typed first List.mem_cons_self]

theorem checkShape_eq_ok {statement : Statement S} {proof : Proof S} :
    statement.checkShape proof = .ok () ↔
      statement.generators.length = 3 ∧ proof.values.length = statement.tokens.length ∧
      proof.blindingFactors.length = statement.tokens.length ∧
      (statement.anonymous = false → proof.disclosedType ≠ "") := by
  simp only [checkShape, checkGenerators, bind_eq_ok, guard_eq_ok, ite_throw_eq_ok,
    ite_error_eq_ok, pure_eq_ok, ne_eq, not_not, not_or, not_and, Bool.and_eq_true,
    Bool.not_eq_true', String.isEmpty_iff, and_true]
  constructor
  · rintro ⟨⟨⟩, generators, ⟨values, blinding⟩, disclosed⟩
    exact ⟨generators, values, blinding, disclosed⟩
  · rintro ⟨generators, values, blinding, disclosed⟩
    exact ⟨(), generators, ⟨values, blinding⟩, disclosed⟩

theorem verify_eq_ok {statement : Statement S} {proof : Proof S} :
    statement.verify proof = .ok () ↔
      statement.generators.length = 3 ∧ proof.values.length = statement.tokens.length ∧
      proof.blindingFactors.length = statement.tokens.length ∧
      (statement.anonymous = false → proof.disclosedType ≠ "") ∧
      statement.challenge proof.commitmentToType (statement.recompute proof) =
        proof.challenge := by
  simp only [verify, bind_eq_ok, ite_throw_eq_ok, pure_eq_ok, ne_eq, not_not, and_true]
  constructor
  · rintro ⟨⟨⟩, shape, same⟩
    obtain ⟨generators, values, blinding, disclosed⟩ := checkShape_eq_ok.mp shape
    exact ⟨generators, values, blinding, disclosed, same⟩
  · rintro ⟨generators, values, blinding, disclosed, same⟩
    exact ⟨(), checkShape_eq_ok.mpr ⟨generators, values, blinding, disclosed⟩, same⟩

end Statement

theorem sample_gives {R : Type} [RandomSource S R] {anonymous : Bool} {count : Nat}
    {randomness : Randomness S}
    (gives : Sampling.Gives (R := R) (sample anonymous count) randomness) :
    (anonymous = false → randomness.tokenType = 0) ∧ randomness.values.length = count ∧
      randomness.blindingFactors.length = count := by
  have drawn : ∃ tokenType : S.Scalar, (anonymous = false → tokenType = 0) ∧
      Sampling.Gives (R := R) (do
        let values ← Sampling.scalars count
        let blindingFactors ← Sampling.scalars count
        let typeBlinding ← Sampling.scalar
        return { tokenType, values, blindingFactors, typeBlinding }) randomness := by
    cases anonymous with
    | false =>
        obtain ⟨tokenType, zero, gives⟩ := gives.bind
        exact ⟨tokenType, fun _ => zero.pure.symm, gives⟩
    | true =>
        obtain ⟨tokenType, -, gives⟩ := gives.bind
        exact ⟨tokenType, Bool.noConfusion, gives⟩
  obtain ⟨tokenType, zero, gives⟩ := drawn
  obtain ⟨values, valuesDrawn, gives⟩ := gives.bind
  obtain ⟨blindingFactors, blindingDrawn, gives⟩ := gives.bind
  obtain ⟨typeBlinding, -, gives⟩ := gives.bind
  cases gives.pure
  exact ⟨zero, valuesDrawn.length_times, blindingDrawn.length_times⟩

variable [LawfulG1 S]

namespace Statement

/-- The responses of the prover give back its first messages. -/
theorem recompute_proveWith {statement : Statement S} {openings : List (Opening S)}
    {tokenType : String} {typeCommitment : TypeCommitment S} {randomness : Randomness S}
    {proof : Proof S}
    (opens : OpenAll statement.generators tokenType openings statement.tokens)
    (typeOpens : typeCommitment.Opens statement.generators tokenType)
    (noBlinding : statement.anonymous = false → randomness.tokenType = 0)
    (valuesLength : randomness.values.length = openings.length)
    (blindingLength : randomness.blindingFactors.length = openings.length)
    (proved : statement.proveWith openings typeCommitment randomness = .ok proof) :
    statement.recompute proof = statement.firstMessages randomness := by
  obtain ⟨found, common, proved⟩ := bind_eq_ok.mp proved
  cases pure_eq_ok.mp proved
  obtain ⟨-, rfl⟩ := commonType_eq_ok opens.typed common
  set challenge :=
    statement.challenge typeCommitment.commitment (statement.firstMessages randomness)
  have response (values blindingFactors : List S.Scalar) (typeBlinding : S.Scalar) :
      statement.typeResponse {
        tokenType :=
          if statement.anonymous then randomness.tokenType +
            challenge * typeScalar found else 0
        values := values
        blindingFactors := blindingFactors
        typeBlinding := typeBlinding
        disclosedType := if statement.anonymous then "" else found
        commitmentToType := typeCommitment.commitment
        challenge := challenge } =
          randomness.tokenType + challenge * typeScalar found := by
    cases anonymous : statement.anonymous with
    | false => simp [typeResponse, anonymous, noBlinding anonymous]
    | true => simp [typeResponse, anonymous]
  rw [recompute, response, typeOpens, commitType_respond, opens.tokens_eq,
    Schnorr.zipWith_firstMessage_respond]
  · rfl
  · simp
  · simp [valuesLength]
  · simp [blindingLength]

/-- An honest proof is accepted; a type that is disclosed must not be empty. -/
theorem verify_prove {R : Type} [RandomSource S R] {statement : Statement S}
    {openings : List (Opening S)} {tokenType : String}
    {typeCommitment : TypeCommitment S} {proof : Proof S}
    (opens : OpenAll statement.generators tokenType openings statement.tokens)
    (typeOpens : typeCommitment.Opens statement.generators tokenType)
    (disclosed : statement.anonymous = false → tokenType ≠ "")
    (gives : Sampling.Gives (R := R) (statement.prove openings typeCommitment) proof) :
    statement.verify proof = .ok () ∧
      proof.commitmentToType = typeCommitment.commitment := by
  obtain ⟨found, common, gives⟩ := gives.bind
  obtain ⟨randomness, drawn, gives⟩ := gives.bind
  obtain ⟨generators, rfl⟩ := commonType_eq_ok opens.typed common.lift
  obtain ⟨noBlinding, valuesLength, blindingLength⟩ := sample_gives drawn
  have proved := gives.lift
  have recomputed :=
    recompute_proveWith opens typeOpens noBlinding valuesLength blindingLength proved
  obtain ⟨_, again, proved⟩ := bind_eq_ok.mp proved
  cases pure_eq_ok.mp proved
  obtain ⟨-, rfl⟩ := commonType_eq_ok opens.typed again
  have count := opens.length_eq
  refine ⟨verify_eq_ok.mpr ⟨generators, ?_, ?_, ?_, ?_⟩, rfl⟩
  · simp [valuesLength, count]
  · simp [blindingLength, count]
  · intro named
    simpa [named] using disclosed named
  · rw [recomputed]

end Statement

end Issue.WellFormedness

end ConfidentialToken
