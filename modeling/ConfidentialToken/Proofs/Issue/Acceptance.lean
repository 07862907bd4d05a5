import ConfidentialToken.Proofs.Issue.Completeness
import ConfidentialToken.Proofs.Usability

/-!
Which actions of issuers are accepted.

An issuer hands out no action with a value out of range, and verifiers accept
what it hands out, with one exception: a prover discloses the empty type like
any other, while verifiers take an empty type for one that is not disclosed. An
issuer whose signer has no identity is found out by validation.
-/

namespace ConfidentialToken

variable {S : Suite} {R : Type} [RandomSource S R]

theorem Opening.succeeds_createTokens {generators : List S.G1} {tokenType : String}
    {values : List UInt64} (length : generators.length = 3) :
    Sampling.Succeeds (R := R) (createTokens generators tokenType values) := by
  have drawn : Sampling.Succeeds (R := R) (sample (S := S) tokenType values) :=
    Sampling.succeeds_mapM fun _ => Sampling.succeeds_scalar.bind fun _ =>
      Sampling.succeeds_pure _
  refine drawn.bind fun openings => ?_
  have committed : commitAll generators openings = .ok (openings.map fun opening =>
      linearCombination generators
        [typeScalar opening.tokenType, wordScalar opening.value,
          opening.blindingFactor]) := by
    refine commitAllFrom_eq_ok.mpr (List.forall₂_map_right_iff.mpr ?_)
    exact List.forall₂_same.mpr fun opening _ => commit_eq_ok.mpr ⟨length, rfl⟩
  exact (Sampling.succeeds_lift (during_eq_ok.mpr committed)).bind fun _ =>
    Sampling.succeeds_pure _

namespace Issue

namespace WellFormedness.Statement

theorem disclosedType_prove {statement : Statement S} {openings : List (Opening S)}
    {tokenType : String} {typeCommitment : TypeCommitment S} {proof : Proof S}
    (typed : ∀ opening ∈ openings, opening.tokenType = tokenType)
    (gives : Sampling.Gives (R := R) (statement.prove openings typeCommitment) proof) :
    proof.disclosedType = if statement.anonymous then "" else tokenType := by
  obtain ⟨found, -, gives⟩ := gives.bind
  obtain ⟨randomness, -, gives⟩ := gives.bind
  obtain ⟨_, common, proved⟩ := bind_eq_ok.mp gives.lift
  cases pure_eq_ok.mp proved
  rw [(commonType_eq_ok typed common).2]

theorem commonType_of_openAll {statement : Statement S} {openings : List (Opening S)}
    {tokenType : String} (generators : statement.generators.length = 3)
    (nonempty : openings ≠ [])
    (opens : OpenAll statement.generators tokenType openings statement.tokens) :
    statement.commonType openings = .ok tokenType := by
  obtain ⟨first, others, rfl⟩ := List.exists_cons_of_ne_nil nonempty
  have firstTyped := opens.typed first List.mem_cons_self
  have noOther : ¬ ∃ opening ∈ others, opening.tokenType ≠ tokenType := by
    rintro ⟨opening, among, other⟩
    exact other (opens.typed opening (List.mem_cons_of_mem _ among))
  have checked : statement.checkGenerators = .ok () := by
    simp [checkGenerators, generators]
  simp only [commonType, checked, ← opens.length_eq, firstTyped]
  simp [firstTyped, noOther, -not_exists]

/-- Openings of one type that open the tokens are all that a prover needs. -/
theorem succeeds_prove {statement : Statement S} {openings : List (Opening S)}
    {tokenType : String} {typeCommitment : TypeCommitment S}
    (generators : statement.generators.length = 3) (nonempty : openings ≠ [])
    (opens : OpenAll statement.generators tokenType openings statement.tokens) :
    Sampling.Succeeds (R := R) (statement.prove openings typeCommitment) := by
  have common := commonType_of_openAll generators nonempty opens
  refine (Sampling.succeeds_lift common).bind fun _ =>
      Sampling.Succeeds.bind ?_ fun randomness =>
    Sampling.succeeds_lift (bind_eq_ok.mpr ⟨tokenType, common, rfl⟩)
  have drawn (tokenType : S.Scalar) : Sampling.Succeeds (R := R) (do
      let values ← Sampling.scalars openings.length
      let blindingFactors ← Sampling.scalars openings.length
      let typeBlinding ← Sampling.scalar
      return ({ tokenType, values, blindingFactors, typeBlinding } : Randomness S)) :=
    Sampling.succeeds_scalars.bind fun _ => Sampling.succeeds_scalars.bind fun _ =>
      Sampling.succeeds_scalar.bind fun _ => Sampling.succeeds_pure _
  cases statement.anonymous with
  | false => exact (Sampling.succeeds_pure 0).bind drawn
  | true => exact Sampling.succeeds_scalar.bind drawn

end WellFormedness.Statement

/-- A prover refuses the first value that is out of range. -/
theorem fails_proveRange {parameters : PublicParameters S} {tokens : List S.G1}
    {openings : List (Opening S)} {typeCommitment : TypeCommitment S} {value : UInt64}
    (lengths : openings.length = tokens.length)
    (large : (openings.map Opening.value).find? (parameters.maxToken < ·) = some value) :
    Sampling.Fails (R := R)
      (RangeCorrectness.prove parameters tokens openings typeCommitment)
      (.outOfRange value parameters.maxToken) := by
  rw [List.find?_map] at large
  obtain ⟨opening, found, rfl⟩ := Option.map_eq_some_iff.mp large
  intro source
  have first : (openings.find? fun opening => parameters.maxToken < opening.value) =
      some opening :=
    found
  rw [RangeCorrectness.prove, if_neg (not_not.mpr lengths), first]
  rfl

/-- A prover refuses tokens of which one has a value out of range, after all
that comes before. -/
theorem Statement.fails_prove {statement : Statement S} {openings : List (Opening S)}
    {tokenType : String} {typeCommitment : TypeCommitment S} {value : UInt64}
    (generators : statement.parameters.pedersen.length = 3)
    (opens : OpenAll statement.parameters.pedersen tokenType openings statement.tokens)
    (large : (openings.map Opening.value).find? (statement.parameters.maxToken < ·) =
      some value) :
    Sampling.Fails (R := R) (statement.prove openings typeCommitment)
      (.context "failed to generate range proof for issue"
        (.outOfRange value statement.parameters.maxToken)) := by
  have nonempty : openings ≠ [] := by
    rintro rfl
    cases large
  have shape : ¬ (openings.isEmpty ∨ openings.length ≠ statement.tokens.length) := by
    simp [nonempty, opens.length_eq]
  rw [prove, if_neg shape]
  refine (WellFormedness.Statement.succeeds_prove generators nonempty
    opens).during.bind_fails
    fun _ _ => ?_
  exact (fails_proveRange opens.length_eq large).during.bind

/-- Honest proofs are accepted unless they disclose the empty type. -/
theorem Statement.verifyProof_prove_iff [BilinearPairing S] {statement : Statement S}
    {openings : List (Opening S)} {tokenType : String} {typeCommitment : TypeCommitment S}
    {proof : Proof S} (certified : statement.parameters.Certified)
    (opens : OpenAll statement.parameters.pedersen tokenType openings statement.tokens)
    (typeOpens : typeCommitment.Opens statement.parameters.pedersen tokenType)
    (gives : Sampling.Gives (R := R) (statement.prove openings typeCommitment) proof) :
    statement.verifyProof proof = .ok () ↔
      (statement.anonymous = false → tokenType ≠ "") := by
  constructor
  · intro accepted named
    obtain ⟨-, gives⟩ := gives.guard
    obtain ⟨wellFormedness, formed, gives⟩ := gives.bind
    obtain ⟨rangeCorrectness, -, gives⟩ := gives.bind
    cases gives.pure
    have disclosed :=
      WellFormedness.Statement.disclosedType_prove opens.typed formed.during
    obtain ⟨⟨⟩, formedAccepted, -⟩ := bind_eq_ok.mp accepted
    obtain ⟨-, -, -, asked, -⟩ :=
      WellFormedness.Statement.verify_eq_ok.mp (during_eq_ok.mp formedAccepted)
    have shown := asked named
    have hidden : statement.wellFormedness.anonymous = false := named
    rw [disclosed] at shown
    simpa [hidden] using shown
  · intro disclosed
    exact (verify_prove certified opens typeOpens disclosed gives).2.1

end Issue

namespace Issuer

variable {issuer : Issuer S} {values : List UInt64} {owners : List Bytes}
  {anonymous : Bool}
  {typeCommitment : TypeCommitment S} {action : IssueAction S}

/-- Nothing but an issuer without an identity is found in the shape of an
action. -/
theorem Issued.validate_iff
    (issued : issuer.Issued R values anonymous typeCommitment action) :
    action.validate = .ok () ↔ action.issuer.bytes ≠ [] := by
  have owned : action.outputs.any Token.isRedeemed = false := by
    simpa using issued.owners
  simp [IssueAction.validate, Identity.isNone, issued.outputs_ne_nil, owned]

theorem Issued.verify_iff [BilinearPairing S] [FaithfulEncoding S.Scalar]
    [FaithfulEncoding S.G1]
    (issued : issuer.Issued R values anonymous typeCommitment action)
    (certified : issuer.parameters.Certified)
    (typeOpens : typeCommitment.Opens issuer.parameters.pedersen issuer.tokenType) :
    Issue.Statement.verify ⟨issuer.parameters, action.commitments, action.anonymous⟩
        action.proof = .ok () ↔ (anonymous = false → issuer.tokenType ≠ "") := by
  obtain ⟨openings, proof, opens, -, written, gives⟩ := issued.proof
  have back : Issue.Proof.deserialize action.proof = .ok proof := by
    simp [Issue.Proof.deserialize, written]
  rw [Issue.Statement.verify, back, issued.mode]
  exact Issue.Statement.verifyProof_prove_iff certified opens typeOpens gives

/-- How a value out of range is refused; an owner that is not set is found
before. -/
def refusal (owners : List Bytes) (value max : UInt64) : Error :=
  if [] ∈ owners then .invalidInput "all recipients should be defined"
  else .context "failed to generate range proof for issue" (.outOfRange value max)

theorem fails_issueWith {value : UInt64}
    (generators : issuer.parameters.pedersen.length = 3)
    (large : values.find? (issuer.parameters.maxToken < ·) = some value) :
    Sampling.Fails (R := R) (issuer.issueWith values owners anonymous typeCommitment)
      (refusal owners value issuer.parameters.maxToken) := by
  by_cases unowned : [] ∈ owners
  · have refused : owners.any List.isEmpty = true :=
      List.any_eq_true.mpr ⟨[], unowned, rfl⟩
    rw [issueWith, if_pos refused, refusal, if_pos unowned]
    exact Sampling.Fails.bind fun _ => rfl
  · have owned : ¬ owners.any List.isEmpty = true := by
      simpa using unowned
    rw [issueWith, if_neg owned, refusal, if_neg unowned]
    refine (Opening.succeeds_createTokens generators).during.bind_fails
      fun (tokens, openings) created => ?_
    obtain ⟨opens, mapped⟩ := Opening.createTokens_gives created.during
    rw [← mapped] at large
    exact (Issue.Statement.fails_prove generators opens large).bind

/-- What an issuer hands out is accepted, by the shape of the action unless the
issuer has no identity and by the verifier of its proof unless the type is
disclosed and empty; a value out of range is refused whatever is drawn. -/
theorem issued_accepted_iff [LawfulPairing S] [FaithfulEncoding S.Scalar]
    [FaithfulEncoding S.G1] {Q : Type} [RandomSource S Q] (issuer : Issuer S)
    (produced : issuer.parameters.Produced Q)
    (valid : issuer.parameters.validate = .ok ()) (values : List UInt64)
    (owners : List Bytes) :
    (∀ action openings,
      Sampling.Gives (R := R) (issuer.issue values owners) (action, openings) →
      (action.validate = .ok () ↔ action.issuer.bytes ≠ []) ∧
      (Issue.Statement.verify ⟨issuer.parameters, action.commitments, action.anonymous⟩
        action.proof = .ok () ↔ issuer.tokenType ≠ "")) ∧
    (∀ typeCommitment : TypeCommitment S,
      typeCommitment.Opens issuer.parameters.pedersen issuer.tokenType →
      ∀ action openings, Sampling.Gives (R := R)
        (issuer.issueAnonymously values owners typeCommitment) (action, openings) →
      (action.validate = .ok () ↔ action.issuer.bytes ≠ []) ∧
      Issue.Statement.verify ⟨issuer.parameters, action.commitments, action.anonymous⟩
        action.proof = .ok ()) ∧
    ∀ value, values.find? (issuer.parameters.maxToken < ·) = some value →
      Sampling.Fails (R := R) (issuer.issue values owners)
        (refusal owners value issuer.parameters.maxToken) ∧
      ∀ typeCommitment : TypeCommitment S,
        Sampling.Fails (R := R) (issuer.issueAnonymously values owners typeCommitment)
          (refusal owners value issuer.parameters.maxToken) := by
  obtain ⟨generators, -⟩ := PublicParameters.pedersen_of_validate valid
  refine ⟨?_, ?_, ?_⟩
  · intro action openings gives
    obtain ⟨typeCommitment, drawn, gives⟩ := gives.bind
    have typeOpens := TypeCommitment.opens_of_sample drawn
    have issued := issued_of_issueWith gives
    exact ⟨issued.validate_iff,
      (issued.verify_iff produced.certified typeOpens).trans (by simp)⟩
  · intro typeCommitment typeOpens action openings gives
    have issued := issued_of_issueWith gives
    exact ⟨issued.validate_iff,
      (issued.verify_iff produced.certified typeOpens).mpr nofun⟩
  · intro value large
    refine ⟨?_, fun _ => fails_issueWith generators large⟩
    have drawn : Sampling.Succeeds (R := R)
        (TypeCommitment.sample issuer.parameters.pedersen issuer.tokenType) := by
      refine Sampling.Succeeds.bind (fun _ => ⟨_, _, rfl⟩) fun factor =>
        Sampling.succeeds_lift (ite_error_eq_ok.mpr ⟨?_, rfl⟩)
      exact not_not.mpr generators
    exact drawn.bind_fails fun _ _ => fails_issueWith generators large

end Issuer

namespace Issuer.Sample

open Bn254

def issuer (tokenType : String) : Issuer exponentSuite :=
  ⟨tokenType, ⟨.ok, .ok ⟨[7]⟩⟩, PublicParameters.Sample.base⟩

def named : IssueAction exponentSuite × List (Metadata exponentSuite) :=
  Sampling.valueFrom ((issuer "ABC").issue [1, 0] [[1], [2]]) Ones.mk (by decide +kernel)

theorem named_given :
    Sampling.Gives (R := Ones) ((issuer "ABC").issue [1, 0] [[1], [2]]) named :=
  Sampling.gives_valueFrom _ _ _

def untyped : IssueAction exponentSuite × List (Metadata exponentSuite) :=
  Sampling.valueFrom ((issuer "").issue [1, 0] [[1], [2]]) Ones.mk (by decide +kernel)

theorem untyped_given :
    Sampling.Gives (R := Ones) ((issuer "").issue [1, 0] [[1], [2]]) untyped :=
  Sampling.gives_valueFrom _ _ _

theorem base_valid : PublicParameters.Sample.base.validate = .ok () :=
  toOption_eq_some.mp (by decide +kernel)

/-- An issue of the empty type is handed out and refused. -/
theorem untyped_refused :
    Issue.Statement.verify ⟨PublicParameters.Sample.base, named.1.commitments,
      named.1.anonymous⟩ named.1.proof = .ok () ∧
    Issue.Statement.verify
      ⟨PublicParameters.Sample.base, untyped.1.commitments, untyped.1.anonymous⟩
      untyped.1.proof ≠ .ok () ∧
    Sampling.Fails (R := Ones) ((issuer "ABC").issue [1, 2] [[1], [2]])
      (.context "failed to generate range proof for issue" (.outOfRange 2 1)) := by
  have produced : PublicParameters.Sample.base.Produced Ones :=
    .setup PublicParameters.Sample.base_given
  obtain ⟨typed, -⟩ :=
    issued_accepted_iff (R := Ones) (issuer "ABC") produced base_valid [1, 0] [[1], [2]]
  obtain ⟨empty, -⟩ :=
    issued_accepted_iff (R := Ones) (issuer "") produced base_valid [1, 0] [[1], [2]]
  obtain ⟨-, -, large⟩ :=
    issued_accepted_iff (R := Ones) (issuer "ABC") produced base_valid [1, 2] [[1], [2]]
  refine ⟨?_, ?_, ?_⟩
  · exact (typed _ _ named_given).2.mpr (by decide)
  · exact fun accepted => (empty _ _ untyped_given).2.mp accepted rfl
  · exact (large 2 (by decide +kernel)).1

end Issuer.Sample

end ConfidentialToken
