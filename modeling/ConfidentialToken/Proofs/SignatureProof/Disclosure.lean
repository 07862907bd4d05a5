import ConfidentialToken.Proofs.SignatureProof.Completeness
import ConfidentialToken.Proofs.Encoding

/-!
What a signature proof says about the disclosed messages.

The hashed bytes determine the randomized signature and the first messages, but
the disclosed messages are not among them: they enter the verification through
one element of the target group only. A signature whose first part is zero
removes them from it, so that one proof is good for all disclosed values. And a
holder of a signature that draws masks for the disclosed messages can compute
the values that it discloses after the challenge.
-/

namespace ConfidentialToken.SignatureProof

open PsSignature SignatureKnowledge

variable {S : Suite}

namespace Statement

/-- The bytes that are hashed when a proof is verified. -/
def hashedBytes (statement : Statement S) (proof : Proof S) : Result Bytes := do
  let first ← statement.recompute proof
  return statement.transcript proof.signature first

variable {statement : Statement S}

theorem transcript_inj [FixedWidthEncoding S.G1] [FixedWidthEncoding S.Gt]
    {signature otherSignature : Signature S} {first otherFirst : FirstMessages S} :
    statement.transcript signature first =
      statement.transcript otherSignature otherFirst ↔
      signature = otherSignature ∧ first = otherFirst := by
  obtain ⟨r, s⟩ := signature
  obtain ⟨otherR, otherS⟩ := otherSignature
  obtain ⟨commitment, value⟩ := first
  obtain ⟨otherCommitment, otherValue⟩ := otherFirst
  simp only [transcript, List.append_assoc, List.append_cancel_left_eq, encode_append_inj,
    encode_inj, Signature.mk.injEq, FirstMessages.mk.injEq]
  tauto

theorem hashedBytes_eq_ok {proof : Proof S} {bytes : Bytes} :
    statement.hashedBytes proof = .ok bytes ↔
      ∃ first, statement.recompute proof = .ok first ∧
        statement.transcript proof.signature first = bytes := by
  simp only [hashedBytes, bind_eq_ok, pure_eq_ok]

/-- What disclosed messages contribute to the equation of the signature: they
are combined with their parts of the key, paired with the first part of the
randomized signature, and multiplied by the challenge. -/
def contribution (statement : Statement S) (proof : Proof S) (values : List S.Scalar) :
    S.Gt :=
  proof.challenge • Suite.pairing proof.signature.r
    (linearCombination (statement.partsAt statement.disclosedIndices) values)

theorem Indexed.disclosing (indexed : statement.Indexed) (values : List S.Scalar) :
    (statement.disclosing values).Indexed :=
  ⟨indexed.distinct, indexed.inRange⟩

theorem Fits.disclosing {values : List S.Scalar} {proof : Proof S}
    (fits : statement.Fits proof)
    (length : values.length = statement.disclosed.length) :
    (statement.disclosing values).Fits proof :=
  ⟨length ▸ fits.count, fits.hidden, length.trans fits.disclosed⟩

/-- Two proofs show one randomized signature and answer one challenge alike: the
bases and the key parts combine with their responses to the same values. -/
structure Agree (statement : Statement S) (left right : Proof S)
    (responses otherResponses : List S.Scalar) : Prop where
  signature : left.signature = right.signature
  challenge : left.challenge = right.challenge
  commitment : linearCombination statement.pedersen left.commitmentResponses =
    linearCombination statement.pedersen right.commitmentResponses
  messages :
    statement.parameters.linearSide left.signature.r responses left.hash
      left.signatureBlinding =
      statement.parameters.linearSide right.signature.r otherResponses right.hash
        right.signatureBlinding

/-- The first messages to which a proof with responses for all messages
belongs. -/
def firstOf (statement : Statement S) (proof : Proof S) (responses : List S.Scalar) :
    FirstMessages S where
  commitment := Schnorr.firstMessage statement.pedersen statement.commitment
    proof.commitmentResponses proof.challenge
  signature := statement.parameters.firstMessage (proof.responses responses)

theorem hashedBytes_of_accepted {proof : Proof S} {responses : List S.Scalar}
    (accepted : statement.verify proof = .ok ())
    (placed : statement.messageResponses proof = .ok responses) :
    statement.hashedBytes proof =
        .ok (statement.transcript proof.signature (statement.firstOf proof responses)) ∧
      statement.challenge proof.signature (statement.firstOf proof responses) =
        proof.challenge := by
  obtain ⟨-, first, recomputed, challenged⟩ := verify_eq_ok.mp accepted
  obtain ⟨-, committed, _, samePlaced, signed⟩ := recompute_eq_ok.mp recomputed
  cases placed.symm.trans samePlaced
  have same : first = statement.firstOf proof responses := by
    rw [firstOf, (Parameters.recompute_eq_ok.mp signed).2.2,
      (Schnorr.recompute_eq_ok.mp committed).2]
  exact ⟨hashedBytes_eq_ok.mpr ⟨first, recomputed, congrArg _ same⟩, same ▸ challenged⟩

variable [BilinearPairing S]

theorem firstOf_eq_iff {left right : Proof S} {responses otherResponses : List S.Scalar}
    (signature : left.signature = right.signature)
    (challenge : left.challenge = right.challenge) :
    statement.firstOf left responses = statement.firstOf right otherResponses ↔
      statement.Agree left right responses otherResponses := by
  simp only [firstOf, FirstMessages.mk.injEq, Schnorr.firstMessage,
    Parameters.firstMessage, Proof.responses, challenge, signature, sub_left_inj]
  constructor
  · rintro ⟨commitment, messages⟩
    exact ⟨signature, challenge, commitment, signature ▸ messages⟩
  · rintro ⟨-, -, commitment, messages⟩
    exact ⟨commitment, signature ▸ messages⟩

/-- Accepted proofs for different disclosed messages hash the same bytes exactly
if they agree. -/
theorem hashedBytes_eq_iff [FixedWidthEncoding S.G1] [FixedWidthEncoding S.Gt]
    {values responses otherResponses : List S.Scalar} {left right : Proof S}
    (accepted : statement.verify left = .ok ())
    (otherAccepted : (statement.disclosing values).verify right = .ok ())
    (placed : statement.messageResponses left = .ok responses)
    (otherPlaced : (statement.disclosing values).messageResponses right =
      .ok otherResponses) :
    statement.hashedBytes left = (statement.disclosing values).hashedBytes right ↔
      statement.Agree left right responses otherResponses := by
  obtain ⟨bytes, challenged⟩ := hashedBytes_of_accepted accepted placed
  obtain ⟨otherBytes, otherChallenged⟩ :=
    hashedBytes_of_accepted otherAccepted otherPlaced
  have same :
    statement.hashedBytes left = (statement.disclosing values).hashedBytes right ↔
      left.signature = right.signature ∧
        statement.firstOf left responses = statement.firstOf right otherResponses := by
    rw [bytes, otherBytes, Except.ok.injEq]
    exact transcript_inj
  rw [same]
  constructor
  · rintro ⟨signature, first⟩
    have challenge : left.challenge = right.challenge := by
      rw [← challenged, ← otherChallenged, signature, first]
      rfl
    exact (firstOf_eq_iff signature challenge).mp first
  · intro agree
    exact ⟨agree.signature, (firstOf_eq_iff agree.signature agree.challenge).mpr agree⟩

theorem linearSide_zero (parameters : Parameters S) (messages : List S.Scalar)
    (hash factor : S.Scalar) :
    parameters.linearSide 0 messages hash factor =
      Suite.pairing (factor • parameters.blindingPoint) parameters.keyBase := by
  have zero : Suite.pairing (0 : S.G1) (parameters.messagePart messages hash) = 0 := by
    rw [← zero_smul S.Scalar (0 : S.G1), BilinearPairing.pairing_smul_left, zero_smul]
  rw [Parameters.linearSide, pairingSum_pair, zero, zero_add]

theorem recompute_disclosing {values : List S.Scalar} {proof : Proof S}
    {first : FirstMessages S} (length : values.length = statement.disclosed.length)
    (zero : proof.signature.r = 0)
    (recomputed : statement.recompute proof = .ok first) :
    (statement.disclosing values).recompute proof = .ok first := by
  obtain ⟨fits, committed, responses, placed, signed⟩ := recompute_eq_ok.mp recomputed
  obtain ⟨inRange, rfl⟩ := fits.messageResponses_eq_ok.mp placed
  obtain ⟨enough, -, firstMessage⟩ := Parameters.recompute_eq_ok.mp signed
  refine recompute_eq_ok.mpr ⟨fits.disclosing length, committed, _,
    (fits.disclosing length).messageResponses_eq_ok.mpr ⟨inRange, rfl⟩,
    Parameters.recompute_eq_ok.mpr ⟨enough, ?_, ?_⟩⟩
  · exact (length_placed _ _).trans ((length_placed _ _).trans List.length_replicate)
  · rw [← firstMessage]
    simp only [Parameters.firstMessage, Proof.responses, zero, linearSide_zero]
    rfl

/-- With an index for each message, other disclosed messages change what a proof
belongs to by the difference between the contributions. -/
theorem Indexed.exists_recompute_disclosing (indexed : statement.Indexed)
    {values : List S.Scalar} {proof : Proof S} {first : FirstMessages S}
    (length : values.length = statement.disclosed.length)
    (recomputed : statement.recompute proof = .ok first) :
    ∃ value, (statement.disclosing values).recompute proof =
      .ok ⟨first.commitment, value⟩ ∧
      value - first.signature =
        statement.contribution proof values -
          statement.contribution proof statement.disclosed := by
  obtain ⟨fits, committed, responses, placed, signed⟩ := recompute_eq_ok.mp recomputed
  obtain ⟨enough, -, firstMessage⟩ := Parameters.recompute_eq_ok.mp signed
  obtain ⟨_, samePlaced, -, combined⟩ := indexed.exists_messageResponses fits
  cases placed.symm.trans samePlaced
  obtain ⟨otherResponses, otherPlaced, count, otherCombined⟩ :=
    (indexed.disclosing values).exists_messageResponses (fits.disclosing length)
  have otherLinear : linearCombination statement.parameters.keyParts.tail otherResponses =
      linearCombination (statement.partsAt statement.hiddenIndices) proof.hidden +
        proof.challenge •
          linearCombination (statement.partsAt statement.disclosedIndices) values :=
    otherCombined
  refine ⟨statement.parameters.firstMessage (proof.responses otherResponses),
    recompute_eq_ok.mpr ⟨fits.disclosing length, committed, otherResponses, otherPlaced,
      Parameters.recompute_eq_ok.mpr ⟨enough, count, rfl⟩⟩, ?_⟩
  rw [← firstMessage]
  simp only [contribution, Parameters.firstMessage, Proof.responses,
    Parameters.linearSide, Parameters.messagePart, pairingSum_pair, combined,
    otherLinear, BilinearPairing.pairing_add_right, BilinearPairing.pairing_smul_right]
  module

/-- For other disclosed messages one proof is accepted with the same hashed
bytes exactly if they contribute the same. -/
theorem Indexed.accepted_disclosing_iff [FixedWidthEncoding S.G1]
    [FixedWidthEncoding S.Gt] (indexed : statement.Indexed) {values : List S.Scalar}
    {proof : Proof S} (length : values.length = statement.disclosed.length)
    (accepted : statement.verify proof = .ok ()) :
    ((statement.disclosing values).verify proof = .ok () ∧
        (statement.disclosing values).hashedBytes proof = statement.hashedBytes proof) ↔
      statement.contribution proof values =
        statement.contribution proof statement.disclosed := by
  obtain ⟨same, ⟨commitment, signature⟩, recomputed, challenged⟩ :=
    verify_eq_ok.mp accepted
  obtain ⟨value, otherRecomputed, difference⟩ :=
    indexed.exists_recompute_disclosing length recomputed
  have bytes :
    (statement.disclosing values).hashedBytes proof = statement.hashedBytes proof ↔
      value = signature := by
    rw [hashedBytes_eq_ok.mpr ⟨_, otherRecomputed, rfl⟩,
      hashedBytes_eq_ok.mpr ⟨_, recomputed, rfl⟩, Except.ok.injEq]
    exact transcript_inj.trans (by simp)
  rw [bytes, ← sub_eq_zero (a := value), difference, sub_eq_zero, and_iff_right_iff_imp]
  intro equal
  obtain rfl : value = signature :=
    sub_eq_zero.mp (difference.trans (sub_eq_zero.mpr equal))
  exact verify_eq_ok.mpr ⟨same, _, otherRecomputed, challenged⟩

end Statement

/-- The values that a prover with masks for the disclosed messages discloses
after the challenge. -/
def valuesAfter (challenge : S.Scalar) (masks known : List S.Scalar) : List S.Scalar :=
  List.zipWith (fun mask message => message + challenge⁻¹ * mask) masks known

variable [BilinearPairing S] {statement : Statement S} {witness : Witness S}
  {messages masks : List S.Scalar} {randomness : Randomness S}

theorem linearCombination_valuesAfter {G : Type} [AddCommGroup G] [Module S.Scalar G]
    (bases : List G) {challenge : S.Scalar} (nonzero : challenge ≠ 0)
    {known : List S.Scalar} (lengths : masks.length = known.length) :
    challenge • linearCombination bases (valuesAfter challenge masks known) =
      linearCombination bases masks + challenge • linearCombination bases known := by
  have combined : linearCombination bases (valuesAfter challenge masks known) =
      linearCombination bases known + challenge⁻¹ • linearCombination bases masks :=
    Schnorr.linearCombination_respond bases challenge⁻¹ lengths
  rw [combined, smul_add, smul_inv_smul₀ nonzero, add_comm]

theorem eq_zero_of_valuesAfter_eq {challenge : S.Scalar} (nonzero : challenge ≠ 0)
    {known : List S.Scalar} (lengths : masks.length = known.length)
    (same : valuesAfter challenge masks known = known) : ∀ mask ∈ masks, mask = 0 := by
  induction masks generalizing known with
  | nil => simp
  | cons mask masks inductionHypothesis =>
      obtain ⟨message, known, rfl⟩ := List.exists_cons_of_length_eq_add_one lengths.symm
      obtain ⟨first, rest⟩ := List.cons.inj same
      refine List.forall_mem_cons.mpr
        ⟨?_, inductionHypothesis (Nat.succ.inj lengths) rest⟩
      exact (mul_eq_zero.mp (add_eq_left.mp first)).resolve_left (inv_ne_zero nonzero)

/-- A holder of a signature can draw masks, learn the challenge, and then
disclose other values than the signed ones. -/
theorem Statement.Splits.verify_valuesAfter (splits : statement.Splits witness messages)
    (signed : statement.parameters.key.verifyWithHash messages witness.hash
      witness.signature =
      .ok ())
    (committed : Pedersen.commit (witness.hidden ++ [witness.commitmentBlinding])
      statement.pedersen = .ok statement.commitment)
    (sized : randomness.hidden.length = witness.hidden.length)
    (masksLength : masks.length = statement.disclosed.length)
    (nonzero : (answer statement witness randomness masks).challenge ≠ 0) :
    let proof := answer statement witness randomness masks
    (statement.disclosing
      (valuesAfter proof.challenge masks statement.disclosed)).verify proof =
      .ok () := by
  have valuesLength :
    (valuesAfter (answer statement witness randomness masks).challenge masks
      statement.disclosed).length = statement.disclosed.length := by
    simp [valuesAfter, masksLength]
  exact splits.verify_answer signed committed sized valuesLength
    (linearCombination_valuesAfter _ nonzero masksLength)

/-- The hashed bytes leave the disclosed messages open. Accepted proofs for
different disclosed messages hash the same bytes exactly if they agree. One
proof is accepted with the same bytes for other disclosed messages exactly if
they contribute the same, and for any if the first part of its signature is
zero. Whoever has a signature can also choose what to disclose after the
challenge, up to the masks. -/
theorem disclosed_left_open [FixedWidthEncoding S.G1] [FixedWidthEncoding S.Gt] :
    (∀ (statement : Statement S) (values responses otherResponses : List S.Scalar)
        (left right : Proof S),
      statement.verify left = .ok () →
        (statement.disclosing values).verify right = .ok () →
      statement.messageResponses left = .ok responses →
      (statement.disclosing values).messageResponses right = .ok otherResponses →
      (statement.hashedBytes left = (statement.disclosing values).hashedBytes right ↔
        statement.Agree left right responses otherResponses)) ∧
    (∀ (statement : Statement S) (values : List S.Scalar) (proof : Proof S),
      statement.Indexed → values.length = statement.disclosed.length →
      statement.verify proof = .ok () →
      (((statement.disclosing values).verify proof = .ok () ∧
          (statement.disclosing values).hashedBytes proof = statement.hashedBytes proof) ↔
        statement.contribution proof values =
          statement.contribution proof statement.disclosed)) ∧
    (∀ (statement : Statement S) (values : List S.Scalar) (proof : Proof S),
      values.length = statement.disclosed.length → proof.signature.r = 0 →
      statement.verify proof = .ok () →
      (statement.disclosing values).verify proof = .ok () ∧
        (statement.disclosing values).hashedBytes proof = statement.hashedBytes proof) ∧
    (∀ (statement : Statement S) (witness : Witness S) (messages masks : List S.Scalar)
        (randomness : Randomness S),
      statement.Splits witness messages →
      statement.parameters.key.verifyWithHash messages witness.hash witness.signature =
        .ok () →
      Pedersen.commit (witness.hidden ++ [witness.commitmentBlinding])
        statement.pedersen =
        .ok statement.commitment →
      randomness.hidden.length = witness.hidden.length →
      masks.length = statement.disclosed.length →
      let proof := answer statement witness randomness masks
      let values := valuesAfter proof.challenge masks statement.disclosed
      proof.challenge ≠ 0 →
      (statement.disclosing values).verify proof = .ok () ∧
        (values = statement.disclosed → ∀ mask ∈ masks, mask = 0)) := by
  refine ⟨?_, ?_, ?_, ?_⟩
  · intro statement values responses otherResponses left right accepted otherAccepted
      placed otherPlaced
    exact Statement.hashedBytes_eq_iff accepted otherAccepted placed otherPlaced
  · intro statement values proof indexed length accepted
    exact indexed.accepted_disclosing_iff length accepted
  · intro statement values proof length zero accepted
    obtain ⟨same, first, recomputed, challenged⟩ := Statement.verify_eq_ok.mp accepted
    have otherRecomputed := Statement.recompute_disclosing length zero recomputed
    refine ⟨Statement.verify_eq_ok.mpr ⟨same, first, otherRecomputed, challenged⟩, ?_⟩
    rw [Statement.hashedBytes_eq_ok.mpr ⟨first, recomputed, rfl⟩]
    exact Statement.hashedBytes_eq_ok.mpr ⟨first, otherRecomputed, rfl⟩
  · intro statement witness messages masks randomness splits signed committed sized
      masksLength proof values nonzero
    exact ⟨splits.verify_valuesAfter signed committed sized masksLength nonzero,
      eq_zero_of_valuesAfter_eq nonzero masksLength⟩

def sampleRandomness (factor : Bn254.Fr) : Randomness Bn254.exponentSuite where
  signatureBlinding := 41
  signatureFactor := factor
  hidden := [43, 47]
  hash := 53
  commitmentBlinding := 59
  signatureBlindingResponse := 61

/-- An honest proof for the sample, whose randomized signature is zero. -/
def sampleProof : Proof Bn254.exponentSuite :=
  answer sampleStatement sampleWitness (sampleRandomness 0) []

theorem sampleProof_accepted : sampleStatement.verify sampleProof = .ok () :=
  sample_splits.verify_honest sample_signed sample_committed rfl

/-- A proof for the sample with a mask for the disclosed message. -/
def maskedProof : Proof Bn254.exponentSuite :=
  answer sampleStatement sampleWitness (sampleRandomness 3) [1]

def maskedStatement : Statement Bn254.exponentSuite :=
  sampleStatement.disclosing (valuesAfter maskedProof.challenge [1] [4])

theorem maskedProof_challenge :
    maskedProof.challenge ≠ 0 ∧
      maskedStatement.contribution maskedProof [1000] ≠
        maskedStatement.contribution maskedProof maskedStatement.disclosed := by
  decide +kernel

/-- The message `4` of the sample is signed. With a randomized signature that is
zero a proof is good for `1000` as well, and with another one it is good for a
value that follows from the challenge, but not for `1000` with the same
bytes. -/
theorem disclosed_left_open_sample :
    (sampleStatement.verify sampleProof = .ok () ∧
      (sampleStatement.disclosing [1000]).verify sampleProof = .ok () ∧
      sampleStatement.hashedBytes sampleProof =
        (sampleStatement.disclosing [1000]).hashedBytes sampleProof ∧
      ∃ responses otherResponses,
        sampleStatement.Agree sampleProof sampleProof responses otherResponses) ∧
    maskedProof.signature.r ≠ 0 ∧ valuesAfter maskedProof.challenge [1] [4] ≠ [4] ∧
      maskedStatement.verify maskedProof = .ok () ∧
      ¬ ((maskedStatement.disclosing [1000]).verify maskedProof = .ok () ∧
        (maskedStatement.disclosing [1000]).hashedBytes maskedProof =
          maskedStatement.hashedBytes maskedProof) := by
  obtain ⟨iff, difference, zero, after⟩ := disclosed_left_open (S := Bn254.exponentSuite)
  obtain ⟨otherAccepted, bytes⟩ :=
    zero sampleStatement [1000] sampleProof rfl (by decide +kernel) sampleProof_accepted
  have indexed := sample_splits.indexed rfl
  have fits : sampleStatement.Fits sampleProof := sample_splits.fits_answer rfl rfl rfl
  obtain ⟨responses, placed, -⟩ := indexed.exists_messageResponses fits
  obtain ⟨otherResponses, otherPlaced, -⟩ :=
    (indexed.disclosing [1000]).exists_messageResponses (fits.disclosing rfl)
  obtain ⟨nonzero, different⟩ := maskedProof_challenge
  obtain ⟨maskedAccepted, unmasked⟩ := after sampleStatement sampleWitness [2, 4, 6] [1]
    (sampleRandomness 3) sample_splits sample_signed sample_committed rfl rfl nonzero
  refine ⟨⟨sampleProof_accepted, otherAccepted, bytes.symm, responses, otherResponses,
    ?_⟩, by decide +kernel, ?_, maskedAccepted, ?_⟩
  · exact (iff sampleStatement [1000] responses otherResponses sampleProof sampleProof
      sampleProof_accepted otherAccepted placed otherPlaced).mp bytes.symm
  · intro same
    exact absurd (unmasked same 1 (by simp)) (by decide +kernel)
  · have length : [1000].length = maskedStatement.disclosed.length := by
      simp [maskedStatement, Statement.disclosing, valuesAfter]
    exact mt (difference maskedStatement [1000] maskedProof (indexed.disclosing _) length
      maskedAccepted).mp different

end ConfidentialToken.SignatureProof
