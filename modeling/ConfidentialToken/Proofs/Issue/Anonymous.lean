import ConfidentialToken.Proofs.TypeCommitment
import ConfidentialToken.Proofs.OneOutOfMany.Completeness
import ConfidentialToken.Proofs.SigningKey
import ConfidentialToken.Issue.Anonymous

/-!
Signatures of anonymous issuers are accepted.
-/

namespace ConfidentialToken

open Json

variable {S : Suite}

theorem IssuingPolicy.validate_eq_ok {policy : IssuingPolicy S} :
    policy.validate = .ok () ↔
      OneOutOfMany.setSize? policy.bitLength = some policy.keys.length ∧
      policy.issuerCount.toNat ≤ policy.keys.length := by
  simp only [validate, ite_error_eq_ok, ne_eq, not_not, Nat.not_lt, and_true]

namespace AnonymousIssuer

theorem Key.secret_smul_of_ofSecret {parameters : PublicParameters S}
    {secret : S.Scalar} {key : Key S} {base : S.G1} {others : List S.G1}
    (own : Key.ofSecret parameters secret = .ok key)
    (generators : parameters.pedersen = base :: others) :
    key.secret • base = key.point := by
  rw [Key.ofSecret, generators] at own
  cases own
  rfl

theorem VerificationKey.ofParameters_eq_ok {parameters : PublicParameters S}
    {pseudonym commitmentToType : S.G1} {key : VerificationKey S} :
    ofParameters parameters pseudonym commitmentToType = .ok key ↔
      parameters.policy.keys ≠ [] ∧ parameters.policy.validate = .ok () ∧
      ∃ base, parameters.pedersen = [key.g, base, key.h] ∧
        key =
          ⟨pseudonym, commitmentToType, parameters.policy.keys,
          parameters.policy.bitLength, key.g, key.h⟩ := by
  simp only [ofParameters, guard_eq_ok, bind_eq_ok, List.isEmpty_iff]
  refine and_congr_right fun _ => ?_
  constructor
  · rintro ⟨⟨⟩, valid, made⟩
    split at made
    case h_1 g base h generators =>
      cases pure_eq_ok.mp made
      exact ⟨valid, base, generators, rfl⟩
    case h_2 =>
      exact absurd made throw_ne_ok
  · rintro ⟨valid, base, generators, form⟩
    refine ⟨(), valid, ?_⟩
    rw [generators, form]
    rfl

theorem VerificationKey.verifyType_eq_ok {key : VerificationKey S} {message : Bytes}
    {proof : TypeProof S} :
    key.verifyType message proof = .ok () ↔
      (proof.pseudonym.length = 2 ∧ proof.commitmentToType.length = 2) ∧
        key.challenge (key.recompute proof) message = proof.challenge := by
  simp only [verifyType, ite_error_eq_ok, not_or, ne_eq, not_not, and_true]

theorem VerificationKey.verify_eq_ok {key : VerificationKey S} {message : Bytes}
    {signature : Signature S} :
    key.verify message signature = .ok () ↔
      (key.authorization message).verify signature.authorization = .ok () ∧
        key.verifyType message signature.typeProof = .ok () := by
  simp only [verify, bind_eq_ok, during_eq_ok]
  constructor
  · rintro ⟨_, authorized, typeAccepted⟩
    exact ⟨authorized, typeAccepted⟩
  · rintro ⟨authorized, typeAccepted⟩
    exact ⟨(), authorized, typeAccepted⟩

namespace SigningKey

theorem indexOf_eq_ok {policy : IssuingPolicy S} {key : Key S} {index : UInt64}
    (valid : policy.validate = .ok ()) (found : indexOf policy key = .ok index) :
    index.toNat < policy.keys.length ∧ policy.keys.getD index.toNat 0 = key.point := by
  obtain ⟨size, -⟩ := IssuingPolicy.validate_eq_ok.mp valid
  obtain ⟨few, size⟩ := OneOutOfMany.setSize?_eq_some.mp size
  unfold indexOf at found
  split at found
  case h_1 place located =>
    cases found
    obtain ⟨bound, same, -⟩ := List.findIdx?_eq_some_iff_getElem.mp located
    -- The place was found among the issuers, which are the first keys of the
    -- policy.
    have inRange : place < policy.keys.length :=
      Nat.lt_of_lt_of_le bound (List.length_take_le' _ _)
    have word : (UInt64.ofNat place).toNat = place := by
      refine UInt64.toNat_ofNat_of_lt (Nat.lt_trans inRange ?_)
      rw [size]
      exact Nat.pow_lt_pow_right Nat.one_lt_two few
    rw [word]
    refine ⟨inRange, ?_⟩
    simpa [inRange] using same
  case h_2 =>
    cases found

theorem ofBlinding_eq_ok {parameters : PublicParameters S} {key : Key S}
    {tokenType : String} {typeCommitment : TypeCommitment S} {blinding : S.Scalar}
    {signer : SigningKey S} :
    ofBlinding parameters key tokenType typeCommitment blinding = .ok signer ↔
      ∃ index verification, indexOf parameters.policy key = .ok index ∧
        VerificationKey.ofParameters parameters
          (key.secret • verification.g + blinding • verification.h)
          typeCommitment.commitment =
            .ok verification ∧
        ⟨key, index, blinding, typeScalar tokenType, typeCommitment.blindingFactor,
          verification⟩ = signer := by
  constructor
  · intro made
    obtain ⟨index, found, made⟩ := bind_eq_ok.mp made
    split at made
    case h_1 g base h generators =>
      obtain ⟨verification, verified, formed⟩ := bind_eq_ok.mp made
      obtain ⟨-, -, _, same, -⟩ := VerificationKey.ofParameters_eq_ok.mp verified
      cases generators.symm.trans same
      exact ⟨index, verification, found, verified, pure_eq_ok.mp formed⟩
    case h_2 =>
      exact absurd made throw_ne_ok
  · rintro ⟨index, verification, found, verified, rfl⟩
    obtain ⟨-, -, _, generators, -⟩ := VerificationKey.ofParameters_eq_ok.mp verified
    refine bind_eq_ok.mpr ⟨index, found, ?_⟩
    rw [generators]
    exact bind_eq_ok.mpr ⟨verification, verified, rfl⟩

/-- What an anonymous issuer has: its public key is one of the policy, and it
can open its pseudonym and the commitment to the type. -/
structure Entitled (signer : SigningKey S) (parameters : PublicParameters S)
    (commitmentToType : S.G1) : Prop where
  verification : VerificationKey.ofParameters parameters signer.verification.pseudonym
    commitmentToType = .ok signer.verification
  pseudonym : signer.verification.pseudonym =
    linearCombination [signer.verification.g, signer.verification.h]
      [signer.key.secret, signer.pseudonymBlinding]
  commitmentToType : signer.verification.commitmentToType =
    linearCombination [signer.verification.g, signer.verification.h]
      [signer.tokenType, signer.typeBlinding]
  fits : ∀ message, OneOutOfMany.Fits (signer.verification.authorization message)
    ⟨signer.index, signer.pseudonymBlinding⟩ signer.verification.g signer.verification.h

theorem sign_succeeds {R : Type} [RandomSource S R] {signer : SigningKey S}
    {parameters : PublicParameters S} {commitmentToType : S.G1}
    (entitled : signer.Entitled parameters commitmentToType) (message : Bytes) :
    Sampling.Succeeds (R := R) (signer.sign message) :=
  (OneOutOfMany.prove_succeeds (entitled.fits message)).during.bind fun _ =>
    Sampling.succeeds_scalars.bind fun _ => Sampling.succeeds_scalars.bind fun _ =>
      Sampling.succeeds_pure _

/-- An issuer whose key belongs to its secret is entitled. -/
theorem entitled_of_ofBlinding [LawfulG1 S] {parameters : PublicParameters S}
    {secret : S.Scalar} {key : Key S} {tokenType : String}
    {typeCommitment : TypeCommitment S} {blinding : S.Scalar} {signer : SigningKey S}
    (own : Key.ofSecret parameters secret = .ok key)
    (typeOpens : typeCommitment.Opens parameters.pedersen tokenType)
    (made : ofBlinding parameters key tokenType typeCommitment blinding = .ok signer) :
    signer.Entitled parameters typeCommitment.commitment := by
  obtain ⟨index, verification, found, verified, rfl⟩ := ofBlinding_eq_ok.mp made
  obtain ⟨-, valid, _, generators, form⟩ := VerificationKey.ofParameters_eq_ok.mp verified
  obtain ⟨inRange, atIndex⟩ := indexOf_eq_ok valid found
  obtain ⟨size, -⟩ := IssuingPolicy.validate_eq_ok.mp valid
  have point := Key.secret_smul_of_ofSecret own generators
  rw [form] at verified ⊢
  refine ⟨verified, ?_, ?_, fun message => ⟨rfl, ?_, ?_, ?_⟩⟩
  · simp
  · change typeCommitment.commitment = _
    rw [typeOpens, generators, commitType, linearCombination_triple]
    simp
  · simpa [VerificationKey.authorization] using size
  · simpa [VerificationKey.authorization] using inRange
  · have opened : key.secret • verification.g + blinding • verification.h -
        parameters.policy.keys.getD index.toNat 0 = blinding • verification.h := by
      rw [atIndex, point, add_sub_cancel_left]
    simpa [VerificationKey.authorization, inRange] using opened

theorem entitled_of_generate [LawfulG1 S] {R : Type} [RandomSource S R]
    {parameters : PublicParameters S} {secret : S.Scalar} {key : Key S}
    {tokenType : String} {typeCommitment : TypeCommitment S} {signer : SigningKey S}
    (own : Key.ofSecret parameters secret = .ok key)
    (typeOpens : typeCommitment.Opens parameters.pedersen tokenType)
    (gives : Sampling.Gives (R := R) (generate parameters key tokenType typeCommitment)
      signer) :
    signer.Entitled parameters typeCommitment.commitment := by
  obtain ⟨_, -, gives⟩ := gives.bind
  exact entitled_of_ofBlinding own typeOpens gives.lift

variable [LawfulG1 S]

/-- The responses for both openings give back the first messages. -/
theorem recompute_respond {signer : SigningKey S} {parameters : PublicParameters S}
    {commitmentToType : S.G1} (entitled : signer.Entitled parameters commitmentToType)
    (challenge : S.Scalar) {pseudonymRandomness typeRandomness : List S.Scalar}
    (pseudonymLength : pseudonymRandomness.length = 2)
    (typeLength : typeRandomness.length = 2) :
    signer.verification.recompute {
        challenge := challenge
        pseudonym :=
          Schnorr.respond challenge [signer.key.secret, signer.pseudonymBlinding]
            pseudonymRandomness
        commitmentToType :=
          Schnorr.respond challenge [signer.tokenType, signer.typeBlinding]
            typeRandomness } =
      (linearCombination [signer.verification.g, signer.verification.h]
        pseudonymRandomness,
        linearCombination [signer.verification.g, signer.verification.h]
          typeRandomness) := by
  have pseudonymFirst := Schnorr.firstMessage_respond
    [signer.verification.g, signer.verification.h] challenge
    (show [signer.key.secret, signer.pseudonymBlinding].length =
      _ from pseudonymLength.symm)
  have typeFirst := Schnorr.firstMessage_respond
    [signer.verification.g, signer.verification.h] challenge
    (show [signer.tokenType, signer.typeBlinding].length = _ from typeLength.symm)
  rw [← entitled.pseudonym] at pseudonymFirst
  rw [← entitled.commitmentToType] at typeFirst
  exact Prod.ext pseudonymFirst typeFirst

theorem verifyType_proveType {signer : SigningKey S} {parameters : PublicParameters S}
    {commitmentToType : S.G1} (entitled : signer.Entitled parameters commitmentToType)
    (message : Bytes) {pseudonymRandomness typeRandomness : List S.Scalar}
    (pseudonymLength : pseudonymRandomness.length = 2)
    (typeLength : typeRandomness.length = 2) :
    signer.verification.verifyType message
      (signer.proveType message pseudonymRandomness typeRandomness) = .ok () := by
  refine VerificationKey.verifyType_eq_ok.mpr ⟨?_, ?_⟩
  · simp [proveType, pseudonymLength, typeLength]
  · exact congrArg (fun first => signer.verification.challenge first message)
      (recompute_respond entitled _ pseudonymLength typeLength)

variable {R : Type} [RandomSource S R]

/-- The signature of an entitled issuer is accepted. -/
theorem verify_sign {signer : SigningKey S} {parameters : PublicParameters S}
    {commitmentToType : S.G1} (entitled : signer.Entitled parameters commitmentToType)
    {message : Bytes} {signature : Signature S}
    (gives : Sampling.Gives (R := R) (signer.sign message) signature) :
    signer.verification.verify message signature = .ok () := by
  obtain ⟨authorization, proved, gives⟩ := gives.bind
  obtain ⟨pseudonymRandomness, pseudonymDrawn, gives⟩ := gives.bind
  obtain ⟨typeRandomness, typeDrawn, gives⟩ := gives.bind
  cases gives.pure
  exact VerificationKey.verify_eq_ok.mpr ⟨OneOutOfMany.verify_prove proved.during,
    verifyType_proveType entitled message pseudonymDrawn.length_times
      typeDrawn.length_times⟩

/-- An entitled issuer signs, and its signature is accepted and makes nothing
known. -/
theorem exists_signature [FaithfulEncoding S.Scalar] [FaithfulEncoding S.G1]
    {signer : SigningKey S} {parameters : PublicParameters S} {commitmentToType : S.G1}
    (entitled : signer.Entitled parameters commitmentToType) (source : R)
    (message : Bytes) :
    ∃ signature, (signer.signer source).sign message = .ok signature ∧
      signer.verification.verifier message signature = .ok () ∧
      (Action.ofSignature? signature : Option (Action S)) = none := by
  obtain ⟨signature, rest, run⟩ := sign_succeeds entitled message source
  have accepted := verify_sign entitled (Sampling.gives_of_run run)
  refine ⟨write signature, ?_, ?_, Action.ofSignature?_write_eq_none signature rfl⟩
  · simp [SigningKey.signer, run, Except.map]
  · simp [VerificationKey.verifier, Signature.deserialize, accepted]

end SigningKey

end AnonymousIssuer

end ConfidentialToken
