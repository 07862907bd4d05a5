import Mathlib.Tactic.Module
import ConfidentialToken.BlindSignature
import ConfidentialToken.Proofs.Bn254.Exponents
import ConfidentialToken.Proofs.Json.Elementwise
import ConfidentialToken.Proofs.PsSignature
import ConfidentialToken.Proofs.Schnorr.Completeness
import ConfidentialToken.Proofs.Schnorr.Extraction

/-!
Blind signing succeeds.

The value of a secret key at encrypted messages is computed without the
messages, since decryption is linear. What the recipient decrypts is thus the
signature on its messages, and the signer is shown the challenge that the
recipient has hashed.
-/

namespace ConfidentialToken

open Json PsSignature

variable {S : Suite}

namespace ElGamal.SecretKey

variable [LawfulG1 S] {key : SecretKey S}

theorem decrypt_encryptWith
    (paired : key.publicKey.multiple = key.secret • key.publicKey.generator)
    (message : S.G1) (randomness : S.Scalar) :
    key.decrypt (key.publicKey.encryptWith message randomness) = message := by
  rw [decrypt, PublicKey.encryptWith, paired, smul_comm, add_sub_cancel_right]

/-- A combination of ciphertexts encrypts the combination of what they
encrypt. -/
theorem decrypt_linearCombination (key : SecretKey S) (ciphertexts : List (Ciphertext S))
    (factors : List S.Scalar) :
    key.decrypt ⟨linearCombination (ciphertexts.map Ciphertext.c1) factors,
        linearCombination (ciphertexts.map Ciphertext.c2) factors⟩ =
      linearCombination (ciphertexts.map key.decrypt) factors := by
  induction ciphertexts generalizing factors with
  | nil => simp [decrypt]
  | cons ciphertext ciphertexts inductionHypothesis =>
      cases factors with
      | nil => simp [decrypt]
      | cons factor factors =>
          have rest := inductionHypothesis factors
          simp only [decrypt] at rest
          simp only [List.map_cons, linearCombination_cons, decrypt, ← rest]
          module

end ElGamal.SecretKey

namespace BlindSignature

open ElGamal

instance : ElementwiseForm (EncryptionProof S) where
  Decodes proof := Decodes proof.messages ∧ Decodes proof.encryptionRandomness ∧
    Decodes proof.blindingFactor ∧ Decodes proof.challenge
  roundTrips := by
    intro proof decodes
    have fields : (toJson proof).fields [
          "messages", "enc_randomness", "com_blinding_factor", "challenge"] = some [
          some (toJson proof.messages), some (toJson proof.encryptionRandomness),
          some (toJson proof.blindingFactor), some (toJson proof.challenge)] :=
      fields_object rfl (by decide)
    exact ⟨.object (by simp [decodes]), by simp [fromJson, fields, decodes]⟩

instance [FaithfulEncoding S.Scalar] : FaithfulForm (EncryptionProof S) :=
  ⟨fun _ => ⟨decodes _, decodes _, decodes _, decodes _⟩⟩

namespace Statement

/-- A proof has a response for each ciphertext, and each ciphertext a base. -/
structure Fits (statement : Statement S) (proof : EncryptionProof S) : Prop where
  pedersen : statement.pedersen.length = statement.ciphertexts.length + 1
  messages : proof.messages.length = statement.ciphertexts.length
  encryptionRandomness : proof.encryptionRandomness.length = statement.ciphertexts.length

theorem verify_eq_ok {statement : Statement S} {text : Bytes} :
    statement.verify text = .ok () ↔ ∃ proof : EncryptionProof S,
      read? text = some proof ∧ statement.Fits proof ∧
        statement.challenge (statement.recompute proof) = proof.challenge := by
  simp only [verify, guard_eq_ok, List.isEmpty_iff]
  cases found : read? (α := EncryptionProof S) text with
  | none => simp
  | some proof =>
      simp only [guard_eq_ok, ite_throw_eq_ok, pure_eq_ok, Option.some.injEq,
        exists_eq_left', not_or, not_not, and_true, ← List.length_eq_zero_iff]
      constructor
      · rintro ⟨nonempty, counted, ⟨messages, encryptionRandomness⟩, same⟩
        exact ⟨⟨by omega, by omega, by omega⟩, same⟩
      · rintro ⟨⟨pedersen, messages, encryptionRandomness⟩, same⟩
        exact ⟨by omega, by omega, ⟨by omega, by omega⟩, same⟩

end Statement

theorem sign_eq_ok {pair : KeyPair S} {pedersen : List S.G1} {request : Request S}
    {response : Response S} :
    sign pair pedersen request = .ok response ↔
      request.ciphertexts.length = pair.secret.length - 2 ∧
      Statement.verify ⟨pedersen, request.commitment, request.ciphertexts,
        request.encryptionKey⟩ request.proof = .ok () ∧
      response = ⟨S.hashToScalar request.proof, evaluateEncrypted pair.secret
        (signaturePoint request.commitment) request.ciphertexts
          (S.hashToScalar request.proof)⟩ := by
  simp only [sign, guard_eq_ok, bind_eq_ok, pure_eq_ok, not_not]
  refine and_congr_right fun _ => ⟨?_, ?_⟩
  · rintro ⟨⟨⟩, verified, answered⟩
    exact ⟨verified, answered.symm⟩
  · rintro ⟨verified, answered⟩
    exact ⟨(), verified, answered.symm⟩

/-- The multiples of a point by messages, encrypted with given randomness. -/
def encryptAll (key : ElGamal.PublicKey S) (point : S.G1)
    (messages randomness : List S.Scalar) : List (Ciphertext S) :=
  List.zipWith (fun message factor => key.encryptWith (message • point) factor) messages
    randomness

theorem length_encryptAll {key : ElGamal.PublicKey S} {point : S.G1}
    {messages randomness : List S.Scalar}
    (lengths : randomness.length = messages.length) :
    (encryptAll key point messages randomness).length = messages.length := by
  rw [encryptAll, List.length_zipWith, lengths, Nat.min_self]

theorem decrypt_encryptAll [LawfulG1 S] {key : SecretKey S}
    (paired : key.publicKey.multiple = key.secret • key.publicKey.generator)
    (point : S.G1) {messages randomness : List S.Scalar}
    (lengths : randomness.length = messages.length) :
    (encryptAll key.publicKey point messages randomness).map key.decrypt =
      messages.map (· • point) := by
  apply List.ext_getElem
  · rw [List.length_map, List.length_map, length_encryptAll lengths]
  · intro index bound otherBound
    simp only [encryptAll, List.getElem_map, List.getElem_zipWith,
      SecretKey.decrypt_encryptWith paired]

/-- The value of a secret key at encrypted messages is that at the messages,
encrypted. -/
theorem decrypt_evaluateEncrypted [LawfulG1 S] {key : SecretKey S}
    (paired : key.publicKey.multiple = key.secret • key.publicKey.generator)
    {secret messages randomness : List S.Scalar}
    (length : secret.length = messages.length + 2)
    (randomnessLength : randomness.length = messages.length) (point : S.G1)
    (hash : S.Scalar) :
    key.decrypt (evaluateEncrypted secret point
        (encryptAll key.publicKey point messages randomness) hash) =
      exponent secret messages hash • point := by
  have combined := key.decrypt_linearCombination
    (encryptAll key.publicKey point messages randomness) secret.tail
  rw [decrypt_encryptAll paired point randomnessLength, linearCombination_map_smul,
    dotProduct_eq] at combined
  simp only [SecretKey.decrypt] at combined
  rw [← keyValue_eq_exponent length, keyValue, add_smul, add_smul, ← combined]
  simp only [SecretKey.decrypt, evaluateEncrypted, smul_eq_mul]
  abel

namespace Recipient

variable {recipient : Recipient S} {encryptionRandomness : List S.Scalar}
  {randomness : ProofRandomness S}

/-- The ciphertexts of the messages with given randomness. -/
def ciphertexts (recipient : Recipient S) (encryptionRandomness : List S.Scalar) :
    List (Ciphertext S) :=
  encryptAll recipient.encryptionKey.publicKey (signaturePoint recipient.commitment)
    recipient.messages encryptionRandomness

/-- The request that a recipient makes with given randomness. -/
def requestWith (recipient : Recipient S) (encryptionRandomness : List S.Scalar)
    (randomness : ProofRandomness S) : Request S where
  commitment := recipient.commitment
  ciphertexts := recipient.ciphertexts encryptionRandomness
  proof := Json.write (recipient.proveWith (recipient.ciphertexts encryptionRandomness)
    encryptionRandomness randomness)
  encryptionKey := recipient.encryptionKey.publicKey

/-- Every message has a base and randomness of each kind. -/
structure Draws (recipient : Recipient S) (encryptionRandomness : List S.Scalar)
    (randomness : ProofRandomness S) : Prop where
  pedersen : recipient.messages.length + 1 = recipient.pedersen.length
  encryptionRandomness : encryptionRandomness.length = recipient.messages.length
  messages : randomness.messages.length = recipient.messages.length
  encryption : randomness.encryption.length = recipient.messages.length

theorem length_ciphertexts (draws : recipient.Draws encryptionRandomness randomness) :
    (recipient.ciphertexts encryptionRandomness).length = recipient.messages.length :=
  length_encryptAll draws.encryptionRandomness

section Request

variable {R : Type} [RandomSource S R]

theorem encrypted_gives {key : ElGamal.PublicKey S} {point : S.G1}
    {messages : List S.Scalar} {encrypted : List (Ciphertext S × S.Scalar)}
    (gives : Sampling.Gives (R := R)
      (messages.mapM fun message => key.encrypt (message • point)) encrypted) :
    encrypted.length = messages.length ∧
      encrypted.map Prod.fst =
        encryptAll key point messages (encrypted.map Prod.snd) := by
  have each := gives.mapM
  clear gives
  induction each with
  | nil => exact ⟨rfl, rfl⟩
  | cons first _ inductionHypothesis =>
      obtain ⟨lengths, same⟩ := inductionHypothesis
      obtain ⟨drawn, -, made⟩ := first.bind
      cases made.pure
      exact ⟨congrArg (· + 1) lengths, congrArg (List.cons _) same⟩

theorem request_gives {request : Request S}
    (gives : Sampling.Gives (R := R) recipient.request request) :
    ∃ encryptionRandomness randomness, recipient.Draws encryptionRandomness randomness ∧
      request = recipient.requestWith encryptionRandomness randomness := by
  obtain ⟨encrypted, drawn, gives⟩ := gives.bind
  obtain ⟨lengths, same⟩ := encrypted_gives drawn
  obtain ⟨counted, gives⟩ := gives.guard
  obtain ⟨randomness, sampled, gives⟩ := gives.bind
  obtain ⟨blindingFactor, -, sampled⟩ := sampled.bind
  obtain ⟨messages, messagesDrawn, sampled⟩ := sampled.bind
  obtain ⟨encryption, encryptionDrawn, sampled⟩ := sampled.bind
  cases sampled.pure
  cases gives.pure
  refine ⟨encrypted.map Prod.snd, ⟨blindingFactor, messages, encryption⟩,
    ⟨not_not.mp counted, ?_, messagesDrawn.length_times, encryptionDrawn.length_times⟩,
    ?_⟩
  · rw [List.length_map, lengths]
  · simp only [requestWith, ciphertexts, same]

theorem succeeds_request
    (counted : recipient.messages.length + 1 = recipient.pedersen.length) :
    Sampling.Succeeds (R := R) recipient.request := by
  refine (Sampling.succeeds_mapM fun message => Sampling.succeeds_scalar.bind fun _ =>
    Sampling.succeeds_pure _).bind fun encrypted => ?_
  simp only [ne_eq, counted, not_true_eq_false, if_false]
  exact (Sampling.succeeds_scalar.bind fun _ => Sampling.succeeds_scalars.bind fun _ =>
    Sampling.succeeds_scalars.bind fun _ => Sampling.succeeds_pure _).bind fun _ =>
      Sampling.succeeds_pure _

end Request

/-- The responses for the messages and the blinding factor are those of one
Schnorr proof. -/
theorem respond_append (draws : recipient.Draws encryptionRandomness randomness)
    (challenge : S.Scalar) :
    List.zipWith (fun r message => r + challenge * message) randomness.messages
        recipient.messages ++
          [randomness.blindingFactor + challenge * recipient.blindingFactor] =
      Schnorr.respond challenge (recipient.messages ++ [recipient.blindingFactor])
        (randomness.messages ++ [randomness.blindingFactor]) := by
  rw [Schnorr.respond, List.zipWith_append draws.messages.symm, List.zipWith_comm]
  rfl

section Laws

variable [LawfulG1 S]

/-- What the signer recomputes is what the recipient has hashed. -/
theorem recompute_proveWith (draws : recipient.Draws encryptionRandomness randomness)
    (committed : Pedersen.commit (recipient.messages ++ [recipient.blindingFactor])
      recipient.pedersen = .ok recipient.commitment) :
    (recipient.statement (recipient.ciphertexts encryptionRandomness)).recompute
        (recipient.proveWith (recipient.ciphertexts encryptionRandomness)
          encryptionRandomness randomness) =
      recipient.firstMessages randomness := by
  obtain ⟨-, opened⟩ := Pedersen.commit_eq_ok.mp committed
  have ciphertextsLength := length_ciphertexts draws
  rw [Statement.recompute, firstMessages, FirstMessages.mk.injEq]
  refine ⟨?_, ?_, ?_⟩
  · apply List.ext_getElem
    · simp [statement, proveWith, ciphertextsLength, draws.encryptionRandomness,
        draws.encryption]
    · intro index bound otherBound
      simp only [statement, proveWith, ciphertexts, encryptAll, PublicKey.encryptWith,
        List.getElem_zipWith, List.getElem_map]
      module
  · apply List.ext_getElem
    · simp [statement, proveWith, ciphertextsLength, draws.encryptionRandomness,
        draws.messages, draws.encryption]
    · intro index bound otherBound
      simp only [statement, proveWith, ciphertexts, encryptAll, PublicKey.encryptWith,
        List.getElem_zipWith, List.getElem_zip]
      module
  · have lengths : (recipient.messages ++ [recipient.blindingFactor]).length =
        (randomness.messages ++ [randomness.blindingFactor]).length := by
      simp [draws.messages]
    have recomputed := Schnorr.firstMessage_respond recipient.pedersen
      ((recipient.statement (recipient.ciphertexts encryptionRandomness)).challenge
        (recipient.firstMessages randomness)) lengths
    rw [← respond_append draws, opened] at recomputed
    exact recomputed

theorem verify_requestWith [FaithfulEncoding S.Scalar]
    (draws : recipient.Draws encryptionRandomness randomness)
    (committed : Pedersen.commit (recipient.messages ++ [recipient.blindingFactor])
      recipient.pedersen = .ok recipient.commitment) :
    (recipient.statement (recipient.ciphertexts encryptionRandomness)).verify
      (recipient.requestWith encryptionRandomness randomness).proof = .ok () := by
  have counted := length_ciphertexts draws
  refine Statement.verify_eq_ok.mpr ⟨_, read?_write _, ⟨?_, ?_, ?_⟩, ?_⟩
  · exact draws.pedersen.symm.trans (congrArg (· + 1) counted.symm)
  · simp [statement, proveWith, counted, draws.messages]
  · simp [statement, proveWith, counted, draws.encryption, draws.encryptionRandomness]
  · rw [recompute_proveWith draws committed]
    rfl

end Laws

end Recipient

/-- A recipient that wants the signature of a key pair on messages that it has
committed to. -/
structure Recipient.Wants (recipient : Recipient S) (pair : KeyPair S) (count : Nat) :
    Prop where
  messages : recipient.messages.length = count
  commitment : Pedersen.commit (recipient.messages ++ [recipient.blindingFactor])
    recipient.pedersen = .ok recipient.commitment
  encryptionKey : recipient.encryptionKey.publicKey.multiple =
    recipient.encryptionKey.secret • recipient.encryptionKey.publicKey.generator
  signatureKey : recipient.signatureKey = pair.verification

section Wants

variable [BilinearPairing S] {recipient : Recipient S} {pair : KeyPair S} {count : Nat}
  {encryptionRandomness : List S.Scalar} {randomness : ProofRandomness S}

theorem sign_requestWith [FaithfulEncoding S.Scalar] (matching : pair.Matches count)
    (wants : recipient.Wants pair count)
    (draws : recipient.Draws encryptionRandomness randomness) :
    let request := recipient.requestWith encryptionRandomness randomness
    sign pair recipient.pedersen request = .ok ⟨S.hashToScalar request.proof,
      evaluateEncrypted pair.secret (signaturePoint recipient.commitment)
        (recipient.ciphertexts encryptionRandomness) (S.hashToScalar request.proof)⟩ := by
  intro request
  refine sign_eq_ok.mpr ⟨?_, Recipient.verify_requestWith draws wants.commitment, rfl⟩
  rw [matching.length, Nat.add_sub_cancel, ← wants.messages]
  exact Recipient.length_ciphertexts draws

theorem signature_answer (matching : pair.Matches count)
    (wants : recipient.Wants pair count)
    (draws : recipient.Draws encryptionRandomness randomness)
    (nonzero : signaturePoint recipient.commitment ≠ 0) (hash : S.Scalar) :
    recipient.signature ⟨hash, evaluateEncrypted pair.secret
        (signaturePoint recipient.commitment)
        (recipient.ciphertexts encryptionRandomness) hash⟩ =
      .ok ⟨signaturePoint recipient.commitment,
        exponent pair.secret recipient.messages hash •
          signaturePoint recipient.commitment⟩ := by
  have decrypted := decrypt_evaluateEncrypted wants.encryptionKey
    (matching.length.trans (congrArg (· + 2) wants.messages.symm))
    draws.encryptionRandomness
    (signaturePoint recipient.commitment) hash
  have verified : pair.verification.verifyWithHash recipient.messages hash
      ⟨signaturePoint recipient.commitment,
        exponent pair.secret recipient.messages hash •
          signaturePoint recipient.commitment⟩ =
      .ok () :=
    -- The base of a generated key may be zero; the equation of the pairing
    -- holds all the same.
    matching.verifyWithHash_iff_certifies.mpr
      ⟨wants.messages, nonzero, matching.certifies_of_eq wants.messages rfl⟩
  rw [Recipient.signature, Recipient.ciphertexts, decrypted, wants.signatureKey, verified]
  rfl

/-- Whatever is drawn, a recipient that has committed to its messages gets a
request accepted, and from the answer the signature on its messages for the hash
of the proof in its request. -/
theorem signing_completes [FaithfulEncoding S.Scalar] {R K : Type} [RandomSource S R]
    [RandomSource S K]
    (generated : Sampling.Gives (R := K) (KeyPair.generate count) pair)
    (wants : recipient.Wants pair count)
    (nonzero : S.hashToG1 (encode recipient.commitment) ≠ 0) (source : R) :
    ∃ request rest response,
      recipient.request source = .ok (request, rest) ∧
      sign pair recipient.pedersen request = .ok response ∧
      recipient.signature response = .ok ⟨S.hashToG1 (encode recipient.commitment),
        exponent pair.secret recipient.messages (S.hashToScalar request.proof) •
          S.hashToG1 (encode recipient.commitment)⟩ := by
  have matching := KeyPair.matches_of_generate generated
  have counted := (Pedersen.commit_eq_ok.mp wants.commitment).1
  rw [List.length_append, List.length_singleton] at counted
  obtain ⟨request, rest, run⟩ := Recipient.succeeds_request counted source
  obtain ⟨encryptionRandomness, randomness, draws, rfl⟩ :=
    Recipient.request_gives (Sampling.gives_of_run run)
  exact ⟨_, rest, _, run, sign_requestWith matching wants draws,
    signature_answer matching wants draws nonzero _⟩

/-- The key with the parts `2`, `3`, `4` and `5` signs `13` and `17`, which it
is not shown. -/
theorem signing_sample :
    let pair : KeyPair Bn254.exponentSuite := .ofSecret 1 [2, 3, 4, 5]
    let recipient : Recipient Bn254.exponentSuite :=
      ⟨[13, 17], 19, 257, .ofSecret 23 11, [3, 5, 7], pair.verification⟩
    let point : Bn254.exponentSuite.G1 := signaturePoint recipient.commitment
    ∃ request rest response,
      recipient.request (⟨1⟩ : Bn254.Counter) = .ok (request, rest) ∧
      sign pair recipient.pedersen request = .ok response ∧
      recipient.signature response =
        .ok ⟨point, (109 + Bn254.hashToScalar request.proof * 5) • point⟩ := by
  intro pair recipient point
  have generated : Sampling.Gives (R := Bn254.Counter) (KeyPair.generate 2) pair :=
    ⟨⟨1⟩, ⟨6⟩, rfl⟩
  have value (hash : Bn254.Fr) :
      exponent (S := Bn254.exponentSuite) pair.secret recipient.messages hash =
        109 + hash * 5 := by
    have constant : pair.secret.headD 0 +
        linearCombination pair.secret.tail recipient.messages = 109 := by
      decide +kernel
    rw [← keyValue_eq_exponent rfl, keyValue, constant]
    rfl
  have wants : recipient.Wants pair 2 :=
    ⟨rfl, Pedersen.commit_eq_ok.mpr ⟨rfl, by decide +kernel⟩, by decide +kernel, rfl⟩
  obtain ⟨request, rest, response, requested, signed, opened⟩ :=
    signing_completes generated wants (by decide +kernel) (⟨1⟩ : Bn254.Counter)
  exact ⟨request, rest, response, requested, signed, value _ ▸ opened⟩

end Wants

end BlindSignature

end ConfidentialToken
