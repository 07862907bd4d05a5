import ConfidentialToken.Proofs.BlindSignature.Completeness

/-!
What a blind signer signs.

Two encryption proofs with one first message give away what they are about:
messages to which the commitment opens and of which the ciphertexts are
encryptions. As decryption is linear, the answer to the request then decrypts to
the second part of a signature on these messages, whatever key the requester has
chosen for the encryption.
-/

namespace ConfidentialToken.BlindSignature

open ElGamal PsSignature

open Schnorr (extract extractAll)

variable {S : Suite}

/-- What two encryption proofs with one first message give away. -/
structure Witness (S : Suite) where
  messages : List S.Scalar
  encryptionRandomness : List S.Scalar
  blindingFactor : S.Scalar

/-- The witness that follows from two encryption proofs with one first
message. -/
def Witness.ofProofs (left right : EncryptionProof S) : Witness S where
  messages := extractAll left.challenge right.challenge left.messages right.messages
  encryptionRandomness :=
    extractAll left.challenge right.challenge left.encryptionRandomness
      right.encryptionRandomness
  blindingFactor :=
    extract left.challenge right.challenge left.blindingFactor right.blindingFactor

/-- The commitment opens to the messages, and the ciphertexts are encryptions of
them. -/
structure Witness.Explains (witness : Witness S) (statement : Statement S) : Prop where
  commitment :
    Pedersen.commit (witness.messages ++ [witness.blindingFactor]) statement.pedersen =
    .ok statement.commitment
  encryptionRandomness : witness.encryptionRandomness.length = witness.messages.length
  ciphertexts : statement.ciphertexts = encryptAll statement.encryptionKey
    (signaturePoint statement.commitment) witness.messages witness.encryptionRandomness

section Extraction

variable [LawfulG1 S] {statement : Statement S} {left right : EncryptionProof S}

theorem commit_ofProofs (leftFits : statement.Fits left)
    (rightFits : statement.Fits right) (distinct : left.challenge ≠ right.challenge)
    (same : statement.recompute left = statement.recompute right) :
    Pedersen.commit ((Witness.ofProofs left right).messages ++
        [(Witness.ofProofs left right).blindingFactor]) statement.pedersen =
      .ok statement.commitment := by
  have lengths : left.messages.length = right.messages.length :=
    leftFits.messages.trans rightFits.messages.symm
  have appended : (Witness.ofProofs left right).messages ++
      [(Witness.ofProofs left right).blindingFactor] =
      extractAll left.challenge right.challenge (left.messages ++ [left.blindingFactor])
        (right.messages ++ [right.blindingFactor]) := by
    rw [extractAll, List.zipWith_append lengths]
    rfl
  rw [appended]
  refine Pedersen.commit_eq_ok.mpr ⟨?_, ?_⟩
  · simp [leftFits.messages, rightFits.messages, leftFits.pedersen]
  · exact Schnorr.linearCombination_eq_of_same_firstMessage distinct (by simp [lengths])
      (congrArg FirstMessages.commitment same)

theorem eq_encryptWith_of_same_first {challenge otherChallenge : S.Scalar}
    (distinct : challenge ≠ otherChallenge) {key : ElGamal.PublicKey S} {point : S.G1}
    {ciphertext : Ciphertext S}
    {message otherMessage randomness otherRandomness : S.Scalar}
    (first : randomness • key.generator - challenge • ciphertext.c1 =
      otherRandomness • key.generator - otherChallenge • ciphertext.c1)
    (second : randomness • key.multiple + message • point - challenge • ciphertext.c2 =
      otherRandomness • key.multiple + otherMessage • point -
        otherChallenge • ciphertext.c2) :
    ciphertext = key.encryptWith
      (extract challenge otherChallenge message otherMessage • point)
      (extract challenge otherChallenge randomness otherRandomness) := by
  have c1 := Schnorr.eq_of_same_first distinct first
  have c2 := Schnorr.eq_of_same_first distinct second
  refine congrArg₂ Ciphertext.mk (c1.symm.trans ?_) (c2.symm.trans ?_)
  · rw [Schnorr.extract_smul]
  · rw [Schnorr.extract_smul, Schnorr.extract_smul, ← smul_add]
    congr 1
    abel

theorem encryptAll_ofProofs (leftFits : statement.Fits left)
    (rightFits : statement.Fits right) (distinct : left.challenge ≠ right.challenge)
    (same : statement.recompute left = statement.recompute right) :
    statement.ciphertexts = encryptAll statement.encryptionKey
      (signaturePoint statement.commitment) (Witness.ofProofs left right).messages
      (Witness.ofProofs left right).encryptionRandomness := by
  apply List.ext_getElem
  · simp [encryptAll, Witness.ofProofs, leftFits.messages, rightFits.messages,
      leftFits.encryptionRandomness, rightFits.encryptionRandomness]
  · intro index bound otherBound
    -- The length checks leave no list of responses short, so that there are
    -- first messages at the index.
    have leftBound :
        index < left.messages.length ∧ index < left.encryptionRandomness.length := by
      rw [leftFits.messages, leftFits.encryptionRandomness]
      exact ⟨bound, bound⟩
    have first := List.getElem_of_eq (congrArg FirstMessages.c1 same) (i := index)
      (by simp [Statement.recompute, bound, leftBound])
    have second := List.getElem_of_eq (congrArg FirstMessages.c2 same) (i := index)
      (by simp [Statement.recompute, bound, leftBound])
    simp only [Statement.recompute, List.getElem_zipWith, List.getElem_zip]
      at first second
    simp only [encryptAll, Witness.ofProofs, extractAll, List.getElem_zipWith]
    exact eq_encryptWith_of_same_first distinct first second

theorem explains_ofProofs (leftFits : statement.Fits left)
    (rightFits : statement.Fits right) (distinct : left.challenge ≠ right.challenge)
    (same : statement.recompute left = statement.recompute right) :
    (Witness.ofProofs left right).Explains statement where
  commitment := commit_ofProofs leftFits rightFits distinct same
  encryptionRandomness := by
    simp [Witness.ofProofs, leftFits.messages, rightFits.messages,
      leftFits.encryptionRandomness, rightFits.encryptionRandomness]
  ciphertexts := encryptAll_ofProofs leftFits rightFits distinct same

/-- The answer for explained ciphertexts decrypts to what signs the messages
behind them. -/
theorem Witness.Explains.decrypt_evaluateEncrypted {witness : Witness S}
    (explains : witness.Explains statement) {opening : S.Scalar}
    (opened : statement.encryptionKey.multiple =
      opening • statement.encryptionKey.generator)
    {secret : List S.Scalar} (length : secret.length = statement.ciphertexts.length + 2)
    (hash : S.Scalar) :
    SecretKey.decrypt ⟨opening, statement.encryptionKey⟩ (evaluateEncrypted secret
        (signaturePoint statement.commitment) statement.ciphertexts hash) =
      exponent secret witness.messages hash • signaturePoint statement.commitment := by
  have counted : statement.ciphertexts.length = witness.messages.length := by
    rw [explains.ciphertexts, length_encryptAll explains.encryptionRandomness]
  rw [explains.ciphertexts]
  exact BlindSignature.decrypt_evaluateEncrypted opened (counted ▸ length)
    explains.encryptionRandomness _ hash

/-- Two encryption proofs with one first message open the commitment to messages
of which the ciphertexts are encryptions; with any secret to the requester's
key, the answer of a signer decrypts to the second part of the signature on
these messages. -/
theorem signs_committed_messages (leftFits : statement.Fits left)
    (rightFits : statement.Fits right) (distinct : left.challenge ≠ right.challenge)
    (same : statement.recompute left = statement.recompute right) :
    let witness := Witness.ofProofs left right
    let point := S.hashToG1 (encode statement.commitment)
    witness.Explains statement ∧
    ∀ opening : S.Scalar,
      statement.encryptionKey.multiple = opening • statement.encryptionKey.generator →
      (∀ secret : List S.Scalar, secret.length = statement.ciphertexts.length + 2 →
        ∀ hash : S.Scalar,
          SecretKey.decrypt ⟨opening, statement.encryptionKey⟩
              (evaluateEncrypted secret point statement.ciphertexts hash) =
            exponent secret witness.messages hash • point) ∧
      ∀ (pair : KeyPair S) (text : Bytes) (response : Response S),
        2 ≤ pair.secret.length →
        sign pair statement.pedersen
            ⟨statement.commitment, statement.ciphertexts, text, statement.encryptionKey⟩ =
          .ok response →
        SecretKey.decrypt ⟨opening, statement.encryptionKey⟩ response.ciphertext =
          exponent pair.secret witness.messages response.hash • point := by
  intro witness point
  have explains := explains_ofProofs leftFits rightFits distinct same
  refine ⟨explains, fun opening opened => ⟨?_, ?_⟩⟩
  · intro secret length hash
    exact explains.decrypt_evaluateEncrypted opened length hash
  · intro pair text response enough signed
    obtain ⟨counted, -, rfl⟩ := sign_eq_ok.mp signed
    have length := (Nat.sub_eq_iff_eq_add enough).mp counted.symm
    exact explains.decrypt_evaluateEncrypted opened length _

end Extraction

def sampleStatement : Statement Bn254.exponentSuite where
  pedersen := [23, 29]
  commitment := 162
  ciphertexts :=
    encryptAll ⟨5, 30⟩ (signaturePoint (S := Bn254.exponentSuite) 162) [2] [3]
  encryptionKey := ⟨5, 30⟩

def sampleProof (challenge : Bn254.Fr) : EncryptionProof Bn254.exponentSuite where
  messages := [7 + challenge * 2]
  encryptionRandomness := [11 + challenge * 3]
  blindingFactor := 13 + challenge * 4
  challenge := challenge

/-- The answers to the challenges `2` and `9` give away the message `2`, and
what the requester decrypts is the first part of a signature on it times `3 + 5
* 2 + 11 * 7`. -/
theorem signs_committed_sample :
    let point : Bn254.exponentSuite.G1 := signaturePoint sampleStatement.commitment
    sampleStatement.Fits (sampleProof 2) ∧ sampleStatement.Fits (sampleProof 9) ∧
    sampleStatement.recompute (sampleProof 2) =
      sampleStatement.recompute (sampleProof 9) ∧
    Pedersen.commit [2, 4] sampleStatement.pedersen = .ok sampleStatement.commitment ∧
    SecretKey.decrypt ⟨6, sampleStatement.encryptionKey⟩
        (evaluateEncrypted [3, 5, 11] point sampleStatement.ciphertexts 7) =
      (90 : Bn254.exponentSuite.Scalar) • point := by
  intro point
  have fits (challenge : Bn254.Fr) : sampleStatement.Fits (sampleProof challenge) :=
    ⟨rfl, rfl, rfl⟩
  have same : sampleStatement.recompute (sampleProof 2) =
      sampleStatement.recompute (sampleProof 9) := by
    rw [Statement.recompute, Statement.recompute, FirstMessages.mk.injEq]
    decide +kernel
  have messages : (Witness.ofProofs (sampleProof 2) (sampleProof 9)).messages = [2] := by
    decide +kernel
  have blindingFactor :
      (Witness.ofProofs (sampleProof 2) (sampleProof 9)).blindingFactor = 4 := by
    decide +kernel
  have value : exponent (S := Bn254.exponentSuite) [3, 5, 11] [2] 7 = 90 := by
    decide +kernel
  obtain ⟨explains, signed⟩ :=
    signs_committed_messages (fits 2) (fits 9) (by decide +kernel) same
  have decrypted := (signed 6 (by decide +kernel)).1 [3, 5, 11] rfl 7
  rw [messages, value] at decrypted
  have committed := explains.commitment
  rw [messages, blindingFactor] at committed
  exact ⟨fits 2, fits 9, same, committed, decrypted⟩

end ConfidentialToken.BlindSignature
