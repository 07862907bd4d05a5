import ConfidentialToken.Proofs.MembershipProof.Completeness
import ConfidentialToken.Proofs.SignatureProof.Responses

/-!
Honest signature proofs are accepted, however the messages are split.

The prover draws randomness for the hidden messages only, and the verifier puts
the disclosed ones, multiplied by the challenge, in their places. Together these
are the responses for all messages, with no randomness for the disclosed ones.
-/

namespace ConfidentialToken

open PsSignature SignatureKnowledge

variable {S : Suite}

/-- The responses of a prover with a signature give back the first message. -/
theorem SignatureKnowledge.Parameters.firstMessage_respond [BilinearPairing S]
    (parameters : Parameters S) {signature : Signature S}
    {messages responses : List S.Scalar} {hash hashBlinding challenge : S.Scalar}
    {part : S.G2} (certified : parameters.key.Certifies messages hash signature)
    (combined : parameters.messagePart responses (hashBlinding + challenge * hash) =
      part + challenge • parameters.messagePart messages hash)
    (factor blindingFactor signatureFactor : S.Scalar) :
    let obfuscated := obfuscateWith signature parameters.blindingPoint blindingFactor
      signatureFactor
    parameters.firstMessage ⟨challenge, obfuscated, responses,
      hashBlinding + challenge * hash,
        factor + challenge * blindingFactor⟩ =
      S.pairingSum [(obfuscated.r, part),
        (factor • parameters.blindingPoint, parameters.keyBase)] := by
  intro obfuscated
  have equation : parameters.linearSide obfuscated.r messages hash blindingFactor =
      parameters.statement obfuscated :=
    linearSide_obfuscateWith certified blindingFactor signatureFactor
  simp only [Parameters.firstMessage, ← equation, Parameters.linearSide, combined,
    pairingSum_pair, add_smul, mul_smul, BilinearPairing.pairing_add_left,
    BilinearPairing.pairing_add_right, BilinearPairing.pairing_smul_left,
    BilinearPairing.pairing_smul_right]
  module

namespace SignatureProof

/-- The randomized signature of a prover. -/
def obfuscated (statement : Statement S) (witness : Witness S)
    (randomness : Randomness S) : Signature S :=
  obfuscateWith witness.signature statement.parameters.blindingPoint
    randomness.signatureBlinding randomness.signatureFactor

/-- The first messages for a randomized signature, where `masks` is randomness
for the disclosed messages. An honest prover has none. -/
def firstMessages (statement : Statement S) (signature : Signature S)
    (randomness : Randomness S) (masks : List S.Scalar) : FirstMessages S where
  commitment := linearCombination statement.pedersen
    (randomness.hidden ++ [randomness.commitmentBlinding])
  signature := S.pairingSum [
    (signature.r, randomness.hash • statement.parameters.keyParts.getLastD 0 +
      (linearCombination (statement.partsAt statement.hiddenIndices) randomness.hidden +
        linearCombination (statement.partsAt statement.disclosedIndices) masks)),
    (randomness.signatureBlindingResponse • statement.parameters.blindingPoint,
      statement.parameters.keyBase)]

/-- The proof of a prover that draws `masks` for the disclosed messages. -/
def answer (statement : Statement S) (witness : Witness S) (randomness : Randomness S)
    (masks : List S.Scalar) : Proof S :=
  let signature := obfuscated statement witness randomness
  let challenge := statement.challenge signature
    (firstMessages statement signature randomness masks)
  { challenge := challenge
    hidden := Schnorr.respond challenge witness.hidden randomness.hidden
    commitmentBlinding :=
      randomness.commitmentBlinding + challenge * witness.commitmentBlinding
    signatureBlinding := randomness.signatureBlindingResponse +
      challenge * randomness.signatureBlinding
    hash := randomness.hash + challenge * witness.hash
    signature := signature
    commitment := statement.commitment }

namespace Statement

variable {statement : Statement S} {witness : Witness S} {randomness : Randomness S}
  {messages : List S.Scalar}

/-- The indices split the messages: each message has one index, with which it is
hidden or disclosed, and the messages stand in the order of their indices. -/
structure Splits (statement : Statement S) (witness : Witness S)
    (messages : List S.Scalar) : Prop where
  indices :
    ((statement.hiddenIndices ++ statement.disclosedIndices).map UInt64.toNat).Perm
      (List.range messages.length)
  hidden : witness.hidden = statement.hiddenIndices.map fun index =>
    messages.getD index.toNat 0
  disclosed : statement.disclosed =
    statement.disclosedIndices.map fun index => messages.getD index.toNat 0

theorem Splits.indexed (splits : statement.Splits witness messages)
    (count : messages.length = statement.messageCount) : statement.Indexed where
  distinct := splits.indices.nodup_iff.mpr List.nodup_range
  inRange index membership := by
    rw [← count, ← List.mem_range, ← splits.indices.mem_iff]
    exact List.mem_map_of_mem membership

theorem Splits.length (splits : statement.Splits witness messages) :
    witness.hidden.length + statement.disclosed.length = messages.length := by
  have lengths := splits.indices.length_eq
  simpa [splits.hidden, splits.disclosed] using lengths

theorem Splits.linearCombination_eq [BilinearPairing S]
    (splits : statement.Splits witness messages) :
    linearCombination statement.parameters.keyParts.tail messages =
      linearCombination (statement.partsAt statement.hiddenIndices) witness.hidden +
        linearCombination (statement.partsAt statement.disclosedIndices)
          statement.disclosed := by
  rw [linearCombination_of_perm _ splits.indices, List.map_map, List.map_map,
    List.map_append, List.map_append, linearCombination_append _ _ (by simp),
    splits.hidden, splits.disclosed]
  rfl

theorem Indexed.hiddenParts_eq_ok (indexed : statement.Indexed)
    (addressable : statement.parameters.keyParts.length < UInt64.size) :
    hiddenParts statement = .ok (statement.partsAt statement.hiddenIndices) := by
  rw [hiddenParts, mapM_eq_ok, partsAt, List.forall₂_map_right_iff, List.forall₂_same]
  intro index membership
  have bound := indexed.inRange index (List.mem_append_left _ membership)
  rw [messageCount] at bound
  have next : (index + 1).toNat = index.toNat + 1 := by
    rw [UInt64.toNat_add]
    exact Nat.mod_eq_of_lt (by simp [UInt64.size] at addressable ⊢; omega)
  have inside : index.toNat + 1 < statement.parameters.keyParts.length := by omega
  rw [next, List.getElem?_eq_getElem inside, List.getD_eq_getElem?_getD,
    List.getElem?_tail, List.getElem?_eq_getElem inside]
  rfl

/-- An honest prover gives the answer without masks. -/
theorem Indexed.proveWith_eq_ok [BilinearPairing S] (indexed : statement.Indexed)
    (addressable : statement.parameters.keyParts.length < UInt64.size)
    (bases : statement.pedersen.length = randomness.hidden.length + 1) :
    proveWith statement witness randomness =
      .ok (answer statement witness randomness []) := by
  have committed : Pedersen.commit (randomness.hidden ++ [randomness.commitmentBlinding])
      statement.pedersen = .ok (linearCombination statement.pedersen
        (randomness.hidden ++ [randomness.commitmentBlinding])) :=
    Pedersen.commit_eq_ok.mpr ⟨by simp [bases], rfl⟩
  simp only [proveWith, committed, indexed.hiddenParts_eq_ok addressable, answer,
    firstMessages, obfuscated, linearCombination_nil, add_zero]
  rfl

/-- The statement about the same commitment and key with other disclosed
messages. -/
def disclosing (statement : Statement S) (values : List S.Scalar) : Statement S :=
  { statement with disclosed := values }

theorem Splits.fits_answer {masks values : List S.Scalar}
    (splits : statement.Splits witness messages)
    (count : messages.length = statement.messageCount)
    (sized : randomness.hidden.length = witness.hidden.length)
    (valuesLength : values.length = statement.disclosed.length) :
    (statement.disclosing values).Fits (answer statement witness randomness masks) := by
  have answeredLength : (answer statement witness randomness masks).hidden.length =
      witness.hidden.length := by
    simp [answer, sized]
  refine ⟨?_, answeredLength.trans ?_, valuesLength.trans ?_⟩
  · rw [answeredLength]
    exact (congrArg (witness.hidden.length + ·) valuesLength).trans
      (splits.length.trans count)
  · rw [splits.hidden, List.length_map]
    rfl
  · rw [splits.disclosed, List.length_map]
    rfl

theorem recompute_commitment_answer [LawfulG1 S] {masks : List S.Scalar}
    (committed : Pedersen.commit (witness.hidden ++ [witness.commitmentBlinding])
      statement.pedersen = .ok statement.commitment)
    (sized : randomness.hidden.length = witness.hidden.length) :
    Schnorr.recompute statement.pedersen ⟨statement.commitment,
        (answer statement witness randomness masks).commitmentResponses,
        (answer statement witness randomness masks).challenge⟩ =
      .ok (linearCombination statement.pedersen
        (randomness.hidden ++ [randomness.commitmentBlinding])) := by
  obtain ⟨bases, opened⟩ := Pedersen.commit_eq_ok.mp committed
  set proof := answer statement witness randomness masks
  have lengths : (witness.hidden ++ [witness.commitmentBlinding]).length =
      (randomness.hidden ++ [randomness.commitmentBlinding]).length := by
    simp [sized]
  have responses : proof.commitmentResponses = Schnorr.respond proof.challenge
      (witness.hidden ++ [witness.commitmentBlinding])
      (randomness.hidden ++ [randomness.commitmentBlinding]) := by
    rw [Schnorr.respond, List.zipWith_append sized.symm]
    rfl
  refine Schnorr.recompute_eq_ok.mpr ⟨?_, ?_⟩
  · rw [responses, Schnorr.length_respond, ← lengths, Nat.min_self, bases]
  · have restored :=
      Schnorr.firstMessage_respond statement.pedersen proof.challenge lengths
    rwa [← responses, opened] at restored

variable [BilinearPairing S]

/-- Whatever masks are drawn, the answer is accepted for disclosed values that,
multiplied by the challenge, are the responses for the signed messages with
these masks. -/
theorem Splits.verify_answer {masks values : List S.Scalar}
    (splits : statement.Splits witness messages)
    (signed : statement.parameters.key.verifyWithHash messages witness.hash
      witness.signature =
      .ok ())
    (committed : Pedersen.commit (witness.hidden ++ [witness.commitmentBlinding])
      statement.pedersen = .ok statement.commitment)
    (sized : randomness.hidden.length = witness.hidden.length)
    (valuesLength : values.length = statement.disclosed.length)
    (claimed : let challenge := (answer statement witness randomness masks).challenge
      challenge • linearCombination (statement.partsAt statement.disclosedIndices)
        values =
        linearCombination (statement.partsAt statement.disclosedIndices) masks +
          challenge •
          linearCombination (statement.partsAt statement.disclosedIndices)
            statement.disclosed) :
    (statement.disclosing values).verify (answer statement witness randomness masks) =
      .ok () := by
  obtain ⟨enough, count, -, certified⟩ := VerificationKey.verifyWithHash_eq_ok.mp signed
  set proof := answer statement witness randomness masks
  have fits : (statement.disclosing values).Fits proof :=
    splits.fits_answer count sized valuesLength
  have indexed : (statement.disclosing values).Indexed :=
    ⟨(splits.indexed count).distinct, (splits.indexed count).inRange⟩
  obtain ⟨responses, placed, responsesLength, combined⟩ :=
    indexed.exists_messageResponses fits
  have hidden :
      proof.hidden = Schnorr.respond proof.challenge witness.hidden randomness.hidden :=
    rfl
  refine verify_eq_ok.mpr ⟨rfl,
    firstMessages statement (obfuscated statement witness randomness) randomness masks,
    recompute_eq_ok.mpr ⟨fits, recompute_commitment_answer committed sized, responses,
      placed, ?_⟩, rfl⟩
  refine SignatureKnowledge.Parameters.recompute_eq_ok.mpr ⟨enough, responsesLength, ?_⟩
  refine statement.parameters.firstMessage_respond certified ?_ _ _ _
  have combinedHidden := Schnorr.linearCombination_respond
    (statement.partsAt statement.hiddenIndices) proof.challenge sized.symm
  have combinedAll : linearCombination statement.parameters.keyParts.tail responses =
      linearCombination (statement.partsAt statement.hiddenIndices) proof.hidden +
        proof.challenge • linearCombination
          (statement.partsAt statement.disclosedIndices) values :=
    combined
  simp only [Parameters.messagePart, combinedAll, splits.linearCombination_eq, claimed,
    hidden, combinedHidden]
  module

theorem Splits.verify_honest (splits : statement.Splits witness messages)
    (signed : statement.parameters.key.verifyWithHash messages witness.hash
      witness.signature =
      .ok ())
    (committed : Pedersen.commit (witness.hidden ++ [witness.commitmentBlinding])
      statement.pedersen = .ok statement.commitment)
    (sized : randomness.hidden.length = witness.hidden.length) :
    statement.verify (answer statement witness randomness []) = .ok () :=
  splits.verify_answer signed committed sized rfl (by simp)

end Statement

variable {R : Type} [RandomSource S R] {statement : Statement S} {witness : Witness S}
  {messages : List S.Scalar}

theorem checkSizes_eq_ok :
    checkSizes statement witness = .ok () ↔
      statement.hiddenIndices.length = witness.hidden.length ∧
      statement.disclosedIndices.length = statement.disclosed.length ∧
      statement.pedersen.length = witness.hidden.length + 1 ∧
      statement.parameters.keyParts.length =
        witness.hidden.length + statement.disclosed.length + 2 := by
  simp only [checkSizes, guard_eq_ok, ite_throw_eq_ok, pure_eq_ok, not_or, not_not,
    and_true, and_assoc]

theorem sample_run (count : Nat) (source : R) :
    ∃ (randomness : Randomness S) (rest : R),
      sample count source = .ok (randomness, rest) ∧
        randomness.hidden.length = count := by
  have succeeds : Sampling.Succeeds (R := R) (sample (S := S) count) :=
    Sampling.succeeds_scalar.bind fun _ => Sampling.succeeds_scalar.bind fun _ =>
      Sampling.succeeds_scalars.bind fun _ => Sampling.succeeds_scalar.bind fun _ =>
        Sampling.succeeds_scalar.bind fun _ => Sampling.succeeds_scalar.bind fun _ =>
          Sampling.succeeds_pure _
  obtain ⟨randomness, rest, run⟩ := succeeds source
  obtain ⟨_, -, gives⟩ := (Sampling.gives_of_run run).bind
  obtain ⟨_, -, gives⟩ := gives.bind
  obtain ⟨_, drawn, gives⟩ := gives.bind
  obtain ⟨_, -, gives⟩ := gives.bind
  obtain ⟨_, -, gives⟩ := gives.bind
  obtain ⟨_, -, gives⟩ := gives.bind
  cases gives.pure
  exact ⟨_, rest, run, drawn.length_times⟩

/-- Whoever has a signature on messages and has committed to those to be hidden
proves this for every split of the messages, whatever is drawn. -/
theorem proves_every_split [BilinearPairing S]
    (addressable : statement.parameters.keyParts.length < UInt64.size)
    (signed : statement.parameters.key.verifyWithHash messages witness.hash
      witness.signature =
      .ok ())
    (splits : statement.Splits witness messages)
    (committed : Pedersen.commit (witness.hidden ++ [witness.commitmentBlinding])
      statement.pedersen = .ok statement.commitment) (source : R) :
    ∃ proof rest, prove statement witness source = .ok (proof, rest) ∧
      statement.verify proof = .ok () := by
  obtain ⟨enough, count, -, -⟩ := VerificationKey.verifyWithHash_eq_ok.mp signed
  obtain ⟨bases, -⟩ := Pedersen.commit_eq_ok.mp committed
  have total := splits.length
  have hiddenLength : witness.hidden.length = statement.hiddenIndices.length := by
    rw [splits.hidden, List.length_map]
  have disclosedLength :
      statement.disclosed.length = statement.disclosedIndices.length := by
    rw [splits.disclosed, List.length_map]
  have basesLength : statement.pedersen.length = witness.hidden.length + 1 := by
    simpa using bases.symm
  have keyLength : statement.parameters.keyParts.length =
      witness.hidden.length + statement.disclosed.length + 2 := by
    rw [total, count]
    exact (Nat.sub_add_cancel enough).symm
  have checked := checkSizes_eq_ok.mpr
    ⟨hiddenLength.symm, disclosedLength.symm, basesLength, keyLength⟩
  obtain ⟨randomness, rest, sampled, sized⟩ :=
    sample_run (S := S) witness.hidden.length source
  have proved : proveWith statement witness randomness =
      .ok (answer statement witness randomness []) :=
    (splits.indexed count).proveWith_eq_ok addressable (by rw [sized, basesLength])
  refine ⟨answer statement witness randomness [], rest, ?_,
    splits.verify_honest signed committed sized⟩
  rw [prove, Sampling.run_bind_eq_ok]
  refine ⟨(), source, Sampling.run_lift_eq_ok.mpr ⟨checked, rfl⟩, ?_⟩
  exact (Sampling.run_make_eq_ok sampled).mpr proved

def sampleStatement : Statement Bn254.exponentSuite where
  parameters := ⟨31, 1, [3, 5, 11, 13, 17]⟩
  hiddenIndices := [2, 0]
  disclosedIndices := [1]
  disclosed := [4]
  pedersen := [23, 29, 37]
  commitment := 529

def sampleWitness : Witness Bn254.exponentSuite :=
  ⟨[6, 2], 8, ⟨2, 542⟩, 9⟩

theorem sample_splits : sampleStatement.Splits sampleWitness [2, 4, 6] :=
  ⟨by decide, by decide +kernel, by decide +kernel⟩

theorem sample_signed :
    sampleStatement.parameters.key.verifyWithHash [2, 4, 6] sampleWitness.hash
      sampleWitness.signature = .ok () :=
  VerificationKey.verifyWithHash_eq_ok.mpr
    ⟨by decide, by decide, by decide +kernel, by decide +kernel⟩

theorem sample_committed :
    Pedersen.commit (sampleWitness.hidden ++ [sampleWitness.commitmentBlinding])
      sampleStatement.pedersen = .ok sampleStatement.commitment :=
  Pedersen.commit_eq_ok.mpr ⟨by decide, by decide +kernel⟩

theorem split_sample :
    ∃ proof rest, prove sampleStatement sampleWitness (⟨1⟩ : Bn254.Counter) =
      .ok (proof, rest) ∧
      sampleStatement.verify proof = .ok () :=
  proves_every_split (by decide) sample_signed sample_splits sample_committed _

end SignatureProof

end ConfidentialToken
