import Mathlib.Algebra.Module.Defs
import ConfidentialToken.MembershipProof
import ConfidentialToken.Proofs.PsSignature
import ConfidentialToken.Proofs.Schnorr.Extraction

/-!
What a proof of knowledge of a signature guarantees.

Two answers to one first message give away messages, a hash and the factor of
the blinding point. Once the multiple of the blinding point is taken off, the
obfuscated signature satisfies the pairing equation of a signature on these
messages. The plain check also refuses a signature whose first part is zero,
which the proof lets pass: such an obfuscated signature is no evidence of any
signature.
-/

namespace ConfidentialToken

open PsSignature

open Schnorr (extract extractAll)

variable {S : Suite}

namespace SignatureKnowledge

/-- What two answers to one first message give away. -/
structure Witness (S : Suite) where
  messages : List S.Scalar
  hash : S.Scalar
  blindingFactor : S.Scalar

/-- The witness that follows from two answers to one first message. -/
def Witness.ofResponses (left right : Responses S) : Witness S where
  messages := extractAll left.challenge right.challenge left.messages right.messages
  hash := extract left.challenge right.challenge left.hash right.hash
  blindingFactor :=
    extract left.challenge right.challenge left.blindingFactor right.blindingFactor

namespace Parameters

/-- The key to which a signature behind an obfuscated one belongs. -/
def key (parameters : Parameters S) : VerificationKey S :=
  ⟨parameters.keyParts, parameters.keyBase⟩

/-- The signature behind an obfuscated one: the multiple of the blinding point
is taken off. -/
def uncover (parameters : Parameters S) (signature : Signature S) (factor : S.Scalar) :
    Signature S :=
  ⟨signature.r, signature.s - factor • parameters.blindingPoint⟩

theorem recompute_eq_ok {parameters : Parameters S} {responses : Responses S}
    {first : S.Gt} :
    parameters.recompute responses = .ok first ↔
      2 ≤ parameters.keyParts.length ∧
      responses.messages.length = parameters.keyParts.length - 2 ∧
      parameters.firstMessage responses = first := by
  simp only [recompute, ite_error_eq_ok, not_or, not_not, not_lt, and_assoc,
    Except.ok.injEq]

variable [BilinearPairing S] {challenge otherChallenge : S.Scalar}

theorem linearSide_extract (parameters : Parameters S) (r : S.G1)
    {messages otherMessages : List S.Scalar}
    (lengths : messages.length = otherMessages.length)
    (hash otherHash factor otherFactor : S.Scalar) :
    parameters.linearSide r (extractAll challenge otherChallenge messages otherMessages)
        (extract challenge otherChallenge hash otherHash)
        (extract challenge otherChallenge factor otherFactor) =
      (challenge - otherChallenge)⁻¹ •
        (parameters.linearSide r messages hash factor -
          parameters.linearSide r otherMessages otherHash otherFactor) := by
  simp only [linearSide, messagePart, pairingSum_pair, Schnorr.extract_smul,
    Schnorr.linearCombination_extractAll _ lengths, BilinearPairing.pairing_add_right,
    BilinearPairing.pairing_smul_left, BilinearPairing.pairing_smul_right,
    pairing_sub_left, pairing_sub_right]
  module

theorem pairingSum_uncover (parameters : Parameters S) (signature : Signature S)
    (messages : List S.Scalar) (hash factor : S.Scalar) :
    S.pairingSum
        [((parameters.uncover signature factor).r,
          keyValue parameters.key.parts messages hash),
        (-(parameters.uncover signature factor).s, parameters.key.base)] =
      parameters.linearSide signature.r messages hash factor -
        parameters.statement signature := by
  simp only [uncover, key, keyValue, linearSide, statement, messagePart, pairingSum_pair,
    BilinearPairing.pairing_add_right, pairing_neg_left, pairing_sub_left]
  abel

theorem linearSide_eq_statement {parameters : Parameters S} {left right : Responses S}
    (sameSignature : left.signature = right.signature)
    (distinct : left.challenge ≠ right.challenge)
    (lengths : left.messages.length = right.messages.length)
    (sameFirst : parameters.firstMessage left = parameters.firstMessage right) :
    parameters.linearSide left.signature.r (Witness.ofResponses left right).messages
        (Witness.ofResponses left right).hash
          (Witness.ofResponses left right).blindingFactor =
      parameters.statement left.signature := by
  rw [Witness.ofResponses, linearSide_extract parameters _ lengths]
  apply Schnorr.eq_of_same_first distinct
  rw [firstMessage, firstMessage, ← sameSignature] at sameFirst
  exact sameFirst

/-- Two answers to one first message give away a signature, exactly if the first
part of the obfuscated signature is not zero. -/
theorem verifyWithHash_ofResponses {parameters : Parameters S} {left right : Responses S}
    {first : S.Gt} (sameSignature : left.signature = right.signature)
    (distinct : left.challenge ≠ right.challenge)
    (leftFirst : parameters.recompute left = .ok first)
    (rightFirst : parameters.recompute right = .ok first) :
    let witness := Witness.ofResponses left right
    parameters.key.verifyWithHash witness.messages witness.hash
        (parameters.uncover left.signature witness.blindingFactor) = .ok () ↔
      left.signature.r ≠ 0 := by
  intro witness
  obtain ⟨enough, leftLength, leftMessage⟩ := recompute_eq_ok.mp leftFirst
  obtain ⟨-, rightLength, rightMessage⟩ := recompute_eq_ok.mp rightFirst
  have equation := linearSide_eq_statement sameSignature distinct
    (leftLength.trans rightLength.symm) (leftMessage.trans rightMessage.symm)
  have messagesLength : witness.messages.length = parameters.keyParts.length - 2 := by
    simp [witness, Witness.ofResponses, leftLength, rightLength]
  rw [VerificationKey.verifyWithHash_eq_ok, pairingSum_uncover, equation, sub_self]
  constructor
  · rintro ⟨-, -, nonzero, -⟩
    exact nonzero
  · intro nonzero
    exact ⟨enough, messagesLength, nonzero, rfl⟩

end Parameters

end SignatureKnowledge

namespace MembershipProof

open SignatureKnowledge

/-- The answers of a proof to the challenge for the signature. -/
def Proof.responses (proof : Proof S) : Responses S where
  challenge := proof.challenge
  signature := proof.signature
  messages := [proof.value]
  hash := proof.hash
  blindingFactor := proof.signatureBlinding

/-- The answers of a proof to the challenge for the commitment. -/
def Proof.commitmentResponses (proof : Proof S) : List S.Scalar :=
  [proof.value, proof.commitmentBlinding]

theorem Statement.recompute_eq_ok {statement : Statement S} {proof : Proof S}
    {first : FirstMessages S} :
    statement.recompute proof = .ok first ↔
      statement.parameters.recompute proof.responses = .ok first.signature ∧
      Schnorr.recompute statement.pedersen
        ⟨statement.commitment, proof.commitmentResponses, proof.challenge⟩ =
          .ok first.commitment := by
  obtain ⟨commitment, signature⟩ := first
  simp only [recompute, bind_eq_ok, pure_eq_ok, FirstMessages.mk.injEq]
  constructor
  · rintro ⟨_, signatureFirst, _, commitmentFirst, rfl, rfl⟩
    exact ⟨signatureFirst, commitmentFirst⟩
  · rintro ⟨signatureFirst, commitmentFirst⟩
    exact ⟨_, signatureFirst, _, commitmentFirst, rfl, rfl⟩

theorem Statement.commit_of_same_first [LawfulG1 S] {statement : Statement S}
    {left right : Proof S} {first : FirstMessages S}
    (distinct : left.challenge ≠ right.challenge)
    (leftFirst : statement.recompute left = .ok first)
    (rightFirst : statement.recompute right = .ok first) :
    Pedersen.commit (extractAll left.challenge right.challenge left.commitmentResponses
      right.commitmentResponses) statement.pedersen = .ok statement.commitment := by
  obtain ⟨length, leftMessage⟩ :=
    Schnorr.recompute_eq_ok.mp (Statement.recompute_eq_ok.mp leftFirst).2
  obtain ⟨-, rightMessage⟩ :=
    Schnorr.recompute_eq_ok.mp (Statement.recompute_eq_ok.mp rightFirst).2
  refine Pedersen.commit_eq_ok.mpr ⟨length, ?_⟩
  exact Schnorr.linearCombination_eq_of_same_firstMessage distinct rfl
    (leftMessage.trans rightMessage.symm)

end MembershipProof

/-- Whoever answers two challenges for one first message knows a signature,
exactly if the first part of the obfuscated signature is not zero; if it proves
a membership, it also opens the commitment to the signed value. -/
theorem signature_known_iff [LawfulPairing S] :
    (∀ (parameters : SignatureKnowledge.Parameters S)
      (left right : SignatureKnowledge.Responses S)
        (first : S.Gt),
      left.signature = right.signature → left.challenge ≠ right.challenge →
      parameters.recompute left = .ok first → parameters.recompute right = .ok first →
      let witness := SignatureKnowledge.Witness.ofResponses left right
      (parameters.key.verifyWithHash witness.messages witness.hash
          (parameters.uncover left.signature witness.blindingFactor) = .ok () ↔
        left.signature.r ≠ 0)) ∧
    (∀ (statement : MembershipProof.Statement S) (left right : MembershipProof.Proof S)
        (first : MembershipProof.FirstMessages S),
      left.signature = right.signature → left.challenge ≠ right.challenge →
      statement.recompute left = .ok first → statement.recompute right = .ok first →
      let value := extract left.challenge right.challenge left.value right.value
      let hash := extract left.challenge right.challenge left.hash right.hash
      let signatureBlinding :=
        extract left.challenge right.challenge left.signatureBlinding
          right.signatureBlinding
      let commitmentBlinding :=
        extract left.challenge right.challenge left.commitmentBlinding
          right.commitmentBlinding
      (statement.parameters.key.verifyWithHash [value] hash
          (statement.parameters.uncover left.signature signatureBlinding) = .ok () ↔
        left.signature.r ≠ 0) ∧
      Pedersen.commit [value, commitmentBlinding] statement.pedersen =
        .ok statement.commitment) := by
  constructor
  · intro parameters left right first sameSignature distinct leftFirst rightFirst
    exact SignatureKnowledge.Parameters.verifyWithHash_ofResponses sameSignature
      distinct leftFirst rightFirst
  · intro statement left right first sameSignature distinct leftFirst rightFirst
    constructor
    · have leftSignature := (MembershipProof.Statement.recompute_eq_ok.mp leftFirst).1
      have rightSignature := (MembershipProof.Statement.recompute_eq_ok.mp rightFirst).1
      have sameResponses : left.responses.signature = right.responses.signature :=
        sameSignature
      have distinctResponses : left.responses.challenge ≠ right.responses.challenge :=
        distinct
      exact SignatureKnowledge.Parameters.verifyWithHash_ofResponses sameResponses
        distinctResponses leftSignature rightSignature
    · exact MembershipProof.Statement.commit_of_same_first distinct leftFirst rightFirst

namespace MembershipProof

def sampleStatement : Statement Bn254.exponentSuite where
  parameters := ⟨31, 7, [3, 5, 11]⟩
  pedersen := [23, 29]
  commitment := 220

def sampleProof (signature : Signature Bn254.exponentSuite) (challenge : Bn254.Fr) :
    Proof Bn254.exponentSuite where
  challenge := challenge
  signature := signature
  value := 13 + challenge * 2
  commitmentBlinding := 37 + challenge * 6
  signatureBlinding := 19 + challenge * 4
  hash := 17 + challenge * 2
  commitment := 220

def sampleFirst (r : Bn254.Fr) : FirstMessages Bn254.exponentSuite where
  commitment := 13 * 23 + 37 * 29
  signature := sampleStatement.parameters.linearSide r [13] 17 19

/-- From the obfuscated signature `(2, 134)` a signature follows, from `(0,
124)` none. -/
theorem signature_known_sample :
    let witness (signature : Signature Bn254.exponentSuite) :=
      SignatureKnowledge.Witness.ofResponses (sampleProof signature 2).responses
        (sampleProof signature 9).responses
    let verified (signature : Signature Bn254.exponentSuite) :=
      sampleStatement.parameters.key.verifyWithHash (witness signature).messages
        (witness signature).hash
        (sampleStatement.parameters.uncover signature (witness signature).blindingFactor)
    verified ⟨2, 134⟩ = .ok () ∧ verified ⟨0, 124⟩ ≠ .ok () ∧
      Pedersen.commit [2, 6] sampleStatement.pedersen =
        .ok sampleStatement.commitment := by
  have recomputed (signature : Signature Bn254.exponentSuite) (challenge : Bn254.Fr)
      (signatureFirst : sampleStatement.parameters.firstMessage
        (sampleProof signature challenge).responses = (sampleFirst signature.r).signature)
      (commitmentFirst :
        Schnorr.firstMessage sampleStatement.pedersen sampleStatement.commitment
          (sampleProof signature challenge).commitmentResponses challenge =
          (sampleFirst signature.r).commitment) :
      sampleStatement.recompute (sampleProof signature challenge) =
        .ok (sampleFirst signature.r) :=
    Statement.recompute_eq_ok.mpr
      ⟨SignatureKnowledge.Parameters.recompute_eq_ok.mpr ⟨by decide, rfl, signatureFirst⟩,
        Schnorr.recompute_eq_ok.mpr ⟨rfl, commitmentFirst⟩⟩
  have known := signature_known_iff (S := Bn254.exponentSuite)
  have signed := known.2 sampleStatement (sampleProof ⟨2, 134⟩ 2) (sampleProof ⟨2, 134⟩ 9)
    (sampleFirst 2) rfl (by decide +kernel)
    (recomputed _ _ (by decide +kernel) (by decide +kernel))
    (recomputed _ _ (by decide +kernel) (by decide +kernel))
  have forged := known.1 sampleStatement.parameters (sampleProof ⟨0, 124⟩ 2).responses
    (sampleProof ⟨0, 124⟩ 9).responses (sampleFirst 0).signature rfl (by decide +kernel)
    (Statement.recompute_eq_ok.mp
      (recomputed _ _ (by decide +kernel) (by decide +kernel))).1
    (Statement.recompute_eq_ok.mp
      (recomputed _ _ (by decide +kernel) (by decide +kernel))).1
  refine ⟨signed.1.mpr (by decide +kernel), fun verified => forged.mp verified rfl, ?_⟩
  have opening : extract (S := Bn254.exponentSuite) 2 9 (13 + 2 * 2) (13 + 9 * 2) = 2 ∧
      extract (S := Bn254.exponentSuite) 2 9 (37 + 2 * 6) (37 + 9 * 6) = 6 := by
    decide +kernel
  have opened := signed.2
  exact opening.1 ▸ opening.2 ▸ opened

end MembershipProof

end ConfidentialToken
