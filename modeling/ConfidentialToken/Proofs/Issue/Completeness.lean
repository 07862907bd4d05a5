import ConfidentialToken.Proofs.Issue.WellFormedness
import ConfidentialToken.Proofs.Json.Elementwise
import ConfidentialToken.Proofs.RangeCorrectness
import ConfidentialToken.Proofs.Validation.Actions
import ConfidentialToken.Issue.Issuer

/-!
Honest issues are valid.
-/

namespace ConfidentialToken

variable {S : Suite} {R : Type} [RandomSource S R]

theorem Issue.Statement.verify_prove [BilinearPairing S] {statement : Issue.Statement S}
    {openings : List (Opening S)} {tokenType : String} {typeCommitment : TypeCommitment S}
    {proof : Issue.Proof S} (certified : statement.parameters.Certified)
    (opens : OpenAll statement.parameters.pedersen tokenType openings statement.tokens)
    (typeOpens : typeCommitment.Opens statement.parameters.pedersen tokenType)
    (disclosed : statement.anonymous = false → tokenType ≠ "")
    (gives : Sampling.Gives (R := R) (statement.prove openings typeCommitment) proof) :
    openings ≠ [] ∧ statement.verifyProof proof = .ok () ∧
      proof.wellFormedness.commitmentToType = typeCommitment.commitment := by
  obtain ⟨shape, gives⟩ := gives.guard
  obtain ⟨wellFormedness, formed, gives⟩ := gives.bind
  obtain ⟨rangeCorrectness, ranged, gives⟩ := gives.bind
  cases gives.pure
  rw [not_or, List.isEmpty_iff] at shape
  have formedOpens : OpenAll statement.wellFormedness.generators tokenType openings
      statement.wellFormedness.tokens := opens
  obtain ⟨formedAccepted, same⟩ :=
    WellFormedness.Statement.verify_prove formedOpens typeOpens disclosed formed.during
  have rangedAccepted := RangeCorrectness.verify_prove certified opens typeOpens
    (fun _ => same) ranged.during
  refine ⟨shape.1, bind_eq_ok.mpr ⟨(), during_eq_ok.mpr formedAccepted, ?_⟩, same⟩
  exact during_eq_ok.mpr rangedAccepted

namespace Issuer

/-- What an honest issuer puts into an action. -/
structure Makes (issuer : Issuer S) (anonymous : Bool) (typeCommitment : TypeCommitment S)
    (action : IssueAction S) : Prop where
  identity : issuer.signer.identity = .ok action.issuer
  mode : action.anonymous = anonymous
  outputs : action.outputs ≠ []
  owners : ∀ token ∈ action.outputs, token.isRedeemed = false
  proof : ∃ proof : Issue.Proof S, action.proof = Json.write proof ∧
    Issue.Statement.verifyProof ⟨issuer.parameters, action.commitments,
      anonymous⟩ proof = .ok () ∧
    proof.wellFormedness.commitmentToType = typeCommitment.commitment

variable (R) in
/-- What an issue gives: fresh tokens for owners, and a proof of what is known
about them. -/
structure Issued (issuer : Issuer S) (values : List UInt64) (anonymous : Bool)
    (typeCommitment : TypeCommitment S) (action : IssueAction S) : Prop where
  identity : issuer.signer.identity = .ok action.issuer
  mode : action.anonymous = anonymous
  owners : ∀ token ∈ action.outputs, token.isRedeemed = false
  proof : ∃ (openings : List (Opening S)) (proof : Issue.Proof S),
    OpenAll issuer.parameters.pedersen issuer.tokenType openings action.commitments ∧
    openings.map Opening.value = values ∧ action.proof = Json.write proof ∧
    Sampling.Gives (R := R)
      (Issue.Statement.prove ⟨issuer.parameters, action.commitments, anonymous⟩ openings
        typeCommitment) proof

theorem issued_of_issueWith {issuer : Issuer S} {values : List UInt64}
    {owners : List Bytes} {anonymous : Bool} {typeCommitment : TypeCommitment S}
    {action : IssueAction S} {openings : List (Metadata S)}
    (gives : Sampling.Gives (R := R)
      (issuer.issueWith values owners anonymous typeCommitment) (action, openings)) :
    issuer.Issued R values anonymous typeCommitment action := by
  obtain ⟨owned, gives⟩ := gives.guard
  obtain ⟨⟨tokens, opened⟩, created, gives⟩ := gives.bind
  obtain ⟨proof, proved, gives⟩ := gives.bind
  obtain ⟨identity, known, gives⟩ := gives.bind
  obtain ⟨made, formed, gives⟩ := gives.bind
  obtain ⟨rfl, rfl⟩ := Prod.mk.inj gives.pure
  obtain ⟨opens, mapped⟩ := Opening.createTokens_gives created.during
  obtain ⟨lengths, form⟩ := ite_error_eq_ok.mp formed.lift
  cases form
  rw [ne_eq, not_not] at lengths
  have commitments :
      (List.zipWith Token.mk owners tokens).map Token.commitment = tokens :=
    Token.map_commitment_zipWith lengths.symm
  refine ⟨known.lift, rfl, ?_, opened, proof, ?_, mapped, rfl, ?_⟩
  · intro token membership
    have among := List.mem_map_of_mem (f := Token.owner) membership
    rw [Token.map_owner_zipWith lengths.symm] at among
    have each : owners.any List.isEmpty = false := Bool.eq_false_iff.mpr owned
    exact Bool.eq_false_iff.mpr (List.any_eq_false.mp each token.owner among)
  · rw [IssueAction.commitments, commitments]
    exact opens
  · rw [IssueAction.commitments, commitments]
    exact proved

theorem Issued.outputs_ne_nil {issuer : Issuer S} {values : List UInt64}
    {anonymous : Bool} {typeCommitment : TypeCommitment S} {action : IssueAction S}
    (issued : issuer.Issued R values anonymous typeCommitment action) :
    action.outputs ≠ [] := by
  obtain ⟨openings, proof, opens, -, -, gives⟩ := issued.proof
  obtain ⟨shape, -⟩ := gives.guard
  rw [not_or, List.isEmpty_iff] at shape
  rintro empty
  refine shape.1 (List.length_eq_zero_iff.mp ?_)
  rw [opens.length_eq, IssueAction.commitments, empty, List.map_nil, List.length_nil]

theorem makes_of_issueWith [BilinearPairing S] {issuer : Issuer S} {values : List UInt64}
    {owners : List Bytes} {anonymous : Bool} {typeCommitment : TypeCommitment S}
    {action : IssueAction S} {openings : List (Metadata S)}
    (certified : issuer.parameters.Certified)
    (typeOpens : typeCommitment.Opens issuer.parameters.pedersen issuer.tokenType)
    (disclosed : anonymous = false → issuer.tokenType ≠ "")
    (gives : Sampling.Gives (R := R)
      (issuer.issueWith values owners anonymous typeCommitment) (action, openings)) :
    issuer.Makes anonymous typeCommitment action := by
  have issued := issued_of_issueWith gives
  obtain ⟨opened, proof, opens, -, written, proved⟩ := issued.proof
  obtain ⟨-, accepted, same⟩ :=
    Issue.Statement.verify_prove certified opens typeOpens disclosed proved
  exact ⟨issued.identity, issued.mode, issued.outputs_ne_nil, issued.owners, proof,
    written, accepted, same⟩

/-- An action of an honest issuer is valid where the issuer may act. -/
theorem Makes.valid [FaithfulEncoding S.Scalar] [FaithfulEncoding S.G1]
    {issuer : Issuer S} {anonymous : Bool} {typeCommitment : TypeCommitment S}
    {action : IssueAction S} (makes : issuer.Makes anonymous typeCommitment action)
    (known : action.issuer.bytes ≠ [])
    (listed : anonymous = false →
      issuer.parameters.issuers = [] ∨ action.issuer ∈ issuer.parameters.issuers) :
    action.Valid issuer.parameters := by
  obtain ⟨proof, written, accepted, -⟩ := makes.proof
  refine ⟨?_, ⟨proof, ?_, makes.mode ▸ accepted⟩, makes.mode ▸ listed⟩
  · have owned : action.outputs.any Token.isRedeemed = false := by
      simpa using makes.owners
    simp [IssueAction.validate, Identity.isNone, known, makes.outputs, owned]
  · simp [Issue.Proof.deserialize, written]

end Issuer

end ConfidentialToken
