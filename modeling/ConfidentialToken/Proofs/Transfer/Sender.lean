import ConfidentialToken.Proofs.RangeCorrectness
import ConfidentialToken.Proofs.Json.Elementwise
import ConfidentialToken.Proofs.Validation.Actions
import ConfidentialToken.Transfer.Sender

/-!
Honest transfers are valid.
-/

namespace ConfidentialToken

variable {S : Suite} {R : Type} [RandomSource S R]

namespace Transfer

theorem Statement.commonType_eq_ok {statement : Statement S}
    {inputs outputs : List (Opening S)} {tokenType result : String}
    (typed : ∀ opening ∈ inputs, opening.tokenType = tokenType)
    (common : statement.commonType inputs outputs = .ok result) :
    result = tokenType := by
  cases inputs with
  | nil => cases common
  | cons first inputs =>
      simp only [commonType, ite_error_eq_ok] at common
      cases common.2.2
      exact typed first List.mem_cons_self

/-- The sum of the values of openings is that of the numbers. -/
theorem sum_valuesOf [LawfulG1 S] (openings : List (Opening S)) :
    sum (valuesOf openings) =
      (((openings.map fun opening => opening.value.toNat).sum : Nat) : S.Scalar) := by
  induction openings with
  | nil => simp [valuesOf]
  | cons opening openings inductionHypothesis =>
      rw [valuesOf, List.map_cons, sum_cons, List.map_cons, List.sum_cons, Nat.cast_add,
        ← inductionHypothesis]
      rfl

variable (R) in
/-- A proof of conservation that is given in the way that the parameters ask
for. -/
inductive Statement.ProvesConservation (statement : Statement S)
    (inputs outputs : List (Opening S)) (typeCommitment : TypeCommitment S) :
    Conservation S → Prop
  | wellFormedness {proof : WellFormedness.Proof S}
      (engine : statement.parameters.engine = .membership)
      (gives : Sampling.Gives (R := R) (statement.wellFormedness.prove inputs outputs)
        proof) :
      statement.ProvesConservation inputs outputs typeCommitment (.wellFormedness proof)
  | typeAndSum {proof : TypeAndSum.Proof S}
      (engine : statement.parameters.engine = .bulletproof)
      (gives : Sampling.Gives (R := R)
        (statement.typeAndSum.prove inputs outputs typeCommitment) proof) :
      statement.ProvesConservation inputs outputs typeCommitment (.typeAndSum proof)

theorem Statement.proveConservation_gives {statement : Statement S}
    {inputs outputs : List (Opening S)} {typeCommitment : TypeCommitment S}
    {conservation : Conservation S}
    (gives : Sampling.Gives (R := R)
      (statement.proveConservation inputs outputs typeCommitment) conservation) :
    statement.ProvesConservation R inputs outputs typeCommitment conservation := by
  have gives := gives.during
  cases engine : statement.parameters.engine with
  | membership =>
      simp only [engine] at gives
      obtain ⟨proof, proved, made⟩ := gives.bind
      cases made.pure
      exact .wellFormedness engine proved
  | bulletproof =>
      simp only [engine] at gives
      obtain ⟨proof, proved, made⟩ := gives.bind
      cases made.pure
      exact .typeAndSum engine proved

variable (R) in
/-- The parts of a proof that is given with a commitment to the type. -/
structure Statement.Proves (statement : Statement S) (inputs outputs : List (Opening S))
    (typeCommitment : TypeCommitment S) (proof : Proof S) : Prop where
  conservation :
    statement.ProvesConservation R inputs outputs typeCommitment proof.conservation
  range : statement.changesOwnerOnly = false → ∃ correctness,
    proof.rangeCorrectness = some correctness ∧ Sampling.Gives (R := R)
      (RangeCorrectness.prove statement.parameters statement.outputs outputs
        typeCommitment)
      correctness

theorem Statement.prove_gives {statement : Statement S} {tokenType : String}
    {inputs outputs : List (Opening S)} {proof : Proof S}
    (typed : ∀ opening ∈ inputs, opening.tokenType = tokenType)
    (gives : Sampling.Gives (R := R) (statement.prove inputs outputs) proof) :
    ∃ typeCommitment : TypeCommitment S,
      typeCommitment.Opens statement.parameters.pedersen tokenType ∧
      statement.Proves R inputs outputs typeCommitment proof := by
  obtain ⟨found, common, gives⟩ := gives.bind
  cases commonType_eq_ok typed common.lift
  obtain ⟨typeCommitment, sampled, gives⟩ := gives.bind
  obtain ⟨conservation, conserved, gives⟩ := gives.bind
  have conserved := proveConservation_gives conserved
  refine ⟨typeCommitment, TypeCommitment.opens_of_sample sampled, ?_⟩
  by_cases alone : statement.changesOwnerOnly = true
  · rw [if_pos alone] at gives
    cases gives.pure
    exact ⟨conserved, fun several => nomatch alone.symm.trans several⟩
  · rw [if_neg alone] at gives
    obtain ⟨correctness, ranged, gives⟩ := gives.bind
    cases gives.pure
    exact ⟨conserved, fun _ => ⟨correctness, rfl, ranged.during⟩⟩

theorem Statement.ProvesConservation.verify [BilinearPairing S]
    {statement : Statement S} {tokenType : String} {inputs outputs : List (Opening S)}
    {typeCommitment : TypeCommitment S} {conservation : Conservation S}
    (proves : statement.ProvesConservation R inputs outputs typeCommitment conservation)
    (inputsOpen : OpenAll statement.parameters.pedersen tokenType inputs statement.inputs)
    (outputsOpen : OpenAll statement.parameters.pedersen tokenType outputs
      statement.outputs)
    (typeOpens : typeCommitment.Opens statement.parameters.pedersen tokenType)
    (sums : sum (valuesOf inputs) = sum (valuesOf outputs)) :
    ∃ commitmentToType, statement.verifyConservation conservation = .ok commitmentToType ∧
      (statement.parameters.engine = .bulletproof →
        commitmentToType = typeCommitment.commitment) := by
  cases proves with
  | wellFormedness engine gives =>
      have inputsOpen : OpenAll statement.wellFormedness.generators tokenType inputs
          statement.wellFormedness.inputs := inputsOpen
      have accepted :=
        WellFormedness.Statement.verify_prove inputsOpen outputsOpen sums gives
      -- With digits, the commitment to the type has no part in the proof.
      refine ⟨0, ?_, fun bits => nomatch engine.symm.trans bits⟩
      simp [verifyConservation, engine, accepted]
  | @typeAndSum proof engine gives =>
      have inputsOpen : OpenAll statement.typeAndSum.generators tokenType inputs
          statement.typeAndSum.inputs := inputsOpen
      obtain ⟨accepted, same⟩ :=
        TypeAndSum.Statement.verify_prove inputsOpen outputsOpen typeOpens sums gives
      refine ⟨proof.commitmentToType, ?_, fun _ => same⟩
      simp [verifyConservation, engine, accepted]

/-- An honest proof is accepted if both sides have one sum. -/
theorem Statement.verify_prove [BilinearPairing S] {statement : Statement S}
    {tokenType : String} {inputs outputs : List (Opening S)} {proof : Proof S}
    (certified : statement.parameters.Certified)
    (inputsOpen : OpenAll statement.parameters.pedersen tokenType inputs statement.inputs)
    (outputsOpen : OpenAll statement.parameters.pedersen tokenType outputs
      statement.outputs)
    (sums : sum (valuesOf inputs) = sum (valuesOf outputs))
    (gives : Sampling.Gives (R := R) (statement.prove inputs outputs) proof) :
    statement.verifyProof proof = .ok () := by
  obtain ⟨typeCommitment, typeOpens, proves⟩ := prove_gives inputsOpen.typed gives
  obtain ⟨commitmentToType, accepted, same⟩ :=
    proves.conservation.verify inputsOpen outputsOpen typeOpens sums
  cases alone : statement.changesOwnerOnly with
  | true => simp [verifyProof, accepted, alone]
  | false =>
      obtain ⟨correctness, present, ranged⟩ := proves.range alone
      have rangeAccepted :=
        RangeCorrectness.verify_prove certified outputsOpen typeOpens same ranged
      simp [verifyProof, accepted, alone, present, rangeAccepted]

end Transfer

namespace Sender

/-- The metadata of an input opens its token. -/
def Opened (sender : Sender S) (input : Spendable S) : Prop :=
  commitToken sender.parameters.pedersen input.opening.tokenType input.opening.value
    input.opening.blindingFactor = .ok input.token.commitment

/-- An opening that a sender uses for an input is that of the metadata. -/
structure Uses (sender : Sender S) (input : Spendable S) (opening : Opening S) :
    Prop where
  tokenType : input.opening.tokenType = sender.tokenType
  typed : opening.tokenType = sender.tokenType
  value : opening.value.toNat = ScalarOperations.toNat input.opening.value
  blindingFactor : opening.blindingFactor = input.opening.blindingFactor

theorem uses_of_inputOpening {sender : Sender S} {input : Spendable S}
    {opening : Opening S} (found : sender.inputOpening input = .ok opening) :
    sender.Uses input opening := by
  simp only [inputOpening, guard_eq_ok, pure_eq_ok, ne_eq, not_not, Nat.not_le] at found
  obtain ⟨same, fits, rfl⟩ := found
  exact ⟨same, rfl, UInt64.toNat_ofNat_of_lt fits, rfl⟩

theorem Uses.commit_eq_ok [LawfulG1 S] {sender : Sender S} {input : Spendable S}
    {opening : Opening S} (uses : sender.Uses input opening)
    (opened : sender.Opened input) :
    opening.commit sender.parameters.pedersen = .ok input.token.commitment := by
  have value : (wordScalar opening.value : S.Scalar) = input.opening.value := by
    rw [wordScalar, uses.value, ofNat_eq_natCast, natCast_toNat]
  rw [Opening.commit, value, uses.typed, uses.blindingFactor, ← uses.tokenType]
  exact opened

theorem openAll_of_uses [LawfulG1 S] {sender : Sender S} {inputs : List (Spendable S)}
    {openings : List (Opening S)} (uses : List.Forall₂ sender.Uses inputs openings)
    (opened : ∀ input ∈ inputs, sender.Opened input) :
    OpenAll sender.parameters.pedersen sender.tokenType openings
      ((inputs.map Spendable.token).map Token.commitment) := by
  constructor
  · intro opening membership
    obtain ⟨input, -, used⟩ := exists_of_forall₂ uses.flip membership
    exact used.typed
  · rw [List.map_map, List.forall₂_map_right_iff]
    refine List.forall₂_iff_zip.mpr
      ⟨uses.length_eq.symm, fun {opening input} paired => ?_⟩
    exact (List.forall₂_zip uses.flip paired).commit_eq_ok
      (opened input (List.of_mem_zip paired).2)

theorem sum_valuesOf_of_uses [LawfulG1 S] {sender : Sender S}
    {inputs : List (Spendable S)} {openings : List (Opening S)}
    (uses : List.Forall₂ sender.Uses inputs openings) :
    sum (Transfer.valuesOf openings) =
      (((inputs.map fun input => ScalarOperations.toNat input.opening.value).sum : Nat) :
        S.Scalar) := by
  have numbers : openings.map (fun opening => opening.value.toNat) =
      inputs.map fun input => ScalarOperations.toNat input.opening.value := by
    rw [← List.forall₂_eq_eq_eq, List.forall₂_map_left_iff, List.forall₂_map_right_iff]
    exact uses.flip.imp fun _ _ used => used.value
  rw [Transfer.sum_valuesOf, numbers]

/-- What an honest sender puts into an action. -/
structure Makes (sender : Sender S) (owners : List Bytes) (action : TransferAction S) :
    Prop where
  inputs : action.inputs = sender.inputs.map Spendable.id
  inputTokens : action.inputTokens = sender.inputs.map Spendable.token
  owners : action.outputs.map Token.owner = owners
  proof : Transfer.Statement.verify
    ⟨sender.parameters, action.inputCommitments,
      action.outputCommitments⟩ action.proof = .ok ()

theorem makes_of_transfer [BilinearPairing S] [FaithfulEncoding S.Scalar]
    [FaithfulEncoding S.G1] {sender : Sender S} {values : List UInt64}
    {owners : List Bytes} {action : TransferAction S} {openings : List (Metadata S)}
    (certified : sender.parameters.Certified)
    (opened : ∀ input ∈ sender.inputs, sender.Opened input)
    (balanced :
      (sender.inputs.map fun input => ScalarOperations.toNat input.opening.value).sum =
      (values.map UInt64.toNat).sum)
    (gives : Sampling.Gives (R := R) (sender.transfer values owners) (action, openings)) :
    values.length = owners.length ∧ sender.Makes owners action := by
  obtain ⟨lengths, gives⟩ := gives.guard
  obtain ⟨inputOpenings, found, gives⟩ := gives.bind
  obtain ⟨⟨outputs, outputOpenings⟩, created, gives⟩ := gives.bind
  obtain ⟨tokenType, -, gives⟩ := gives.bind
  obtain ⟨proof, proved, gives⟩ := gives.bind
  obtain ⟨made, formed, gives⟩ := gives.bind
  obtain ⟨rfl, rfl⟩ := Prod.mk.inj gives.pure
  rw [ne_eq, not_not] at lengths
  obtain ⟨outputsOpen, outputValues⟩ := Opening.createTokens_gives created.during
  have uses : List.Forall₂ sender.Uses sender.inputs inputOpenings :=
    found.mapM.imp fun _ _ given => uses_of_inputOpening given.lift
  have formed := during_eq_ok.mp formed.lift
  obtain ⟨recipients, formed⟩ := ite_error_eq_ok.mp formed
  obtain ⟨-, form⟩ := ite_error_eq_ok.mp formed
  cases form
  rw [ne_eq, not_not] at recipients
  have inputsOpen := openAll_of_uses uses opened
  have sums :
      sum (Transfer.valuesOf inputOpenings) = sum (Transfer.valuesOf outputOpenings) := by
    rw [sum_valuesOf_of_uses uses, Transfer.sum_valuesOf, balanced, ← outputValues,
      List.map_map]
    rfl
  have accepted : Transfer.Statement.verifyProof ⟨sender.parameters,
      (sender.inputs.map Spendable.token).map Token.commitment, outputs⟩ proof = .ok () :=
    Transfer.Statement.verify_prove certified inputsOpen outputsOpen sums proved.during
  have read : Transfer.Proof.deserialize (S := S) (Json.write proof) = .ok proof := by
    simp [Transfer.Proof.deserialize]
  refine ⟨lengths, rfl, rfl, Token.map_owner_zipWith recipients, ?_⟩
  rw [TransferAction.inputCommitments, TransferAction.outputCommitments,
    Token.map_commitment_zipWith recipients]
  exact bind_eq_ok.mpr ⟨proof, read, accepted⟩

/-- A transfer of an honest sender is valid where its inputs are on the ledger
and its outputs go to owners who can spend them. -/
theorem Makes.valid {sender : Sender S} {owners : List Bytes}
    {action : TransferAction S} {ledger : Ledger} {now : UInt64}
    (makes : sender.Makes owners action) (nonempty : owners ≠ [])
    (onLedger : ∀ input ∈ sender.inputs, ledger.Holds input.id input.token)
    (owned : ∀ output ∈ action.outputs, output.HasValidOwner now) :
    action.Valid sender.parameters ledger now where
  shape := by
    refine TransferAction.validate_eq_ok.mpr ⟨?_, ?_, fun none => nonempty ?_⟩
    · simp [makes.inputs, Sender.inputs]
    · simp [makes.inputs, makes.inputTokens]
    · rw [← makes.owners, none, List.map_nil]
  onLedger := by
    rw [makes.inputs, makes.inputTokens, List.forall₂_map_left_iff,
      List.forall₂_map_right_iff, List.forall₂_same]
    exact onLedger
  proof := makes.proof
  owners := owned

end Sender

end ConfidentialToken
