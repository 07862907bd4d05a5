import ConfidentialToken.Proofs.Bn254.Exponents
import ConfidentialToken.Proofs.Issue.Anonymous
import ConfidentialToken.Proofs.OneOutOfMany.Hiding

/-!
Anonymous issuers are hidden among the keys of the policy.

A pseudonym with a signature that is accepted could have been made by every
issuer of the policy: for each of them there is exactly one choice of the
scalars that are drawn for which it makes this pseudonym and this signature. As
all choices are equally likely, so are all issuers.
-/

namespace ConfidentialToken.AnonymousIssuer

open Sampling

variable {S : Suite}

/-- The scalars that are drawn for a signature: for the proof of authorization,
and for the openings of the pseudonym and of the commitment to the type. -/
structure Draws (S : Suite) where
  authorization : OneOutOfMany.Randomness S
  pseudonym : List S.Scalar
  typeOpening : List S.Scalar

structure Draws.Sized (draws : Draws S) (count : Nat) : Prop where
  authorization : draws.authorization.Sized count
  pseudonym : draws.pseudonym.length = 2
  typeOpening : draws.typeOpening.length = 2

/-- The scalars in the order in which they are drawn. -/
def Draws.scalars (draws : Draws S) : List S.Scalar :=
  draws.authorization.scalars ++ (draws.pseudonym ++ draws.typeOpening)

theorem Draws.Sized.length_scalars {draws : Draws S} {count : Nat}
    (sized : draws.Sized count) : draws.scalars.length = 5 * count + 4 := by
  rw [scalars, List.length_append, List.length_append, sized.authorization.length_scalars,
    sized.pseudonym, sized.typeOpening]

namespace SigningKey

/-- The signer gives the signature when it draws the scalars. -/
structure Signs (signer : SigningKey S) (message : Bytes) (draws : Draws S)
    (signature : Signature S) : Prop where
  authorization : OneOutOfMany.proveWith (signer.verification.authorization message)
    ⟨signer.index, signer.pseudonymBlinding⟩ draws.authorization =
      .ok signature.authorization
  typeProof :
    signer.proveType message draws.pseudonym draws.typeOpening = signature.typeProof

theorem run_generate_eq_ok {parameters : PublicParameters S} {key : Key S}
    {tokenType : String} {typeCommitment : TypeCommitment S} {blinding : S.Scalar}
    {tape : List S.Scalar} {signer : SigningKey S} {rest : Tape S} :
    generate parameters key tokenType typeCommitment (⟨blinding :: tape⟩ : Tape S) =
        .ok (signer, rest) ↔
      ofBlinding parameters key tokenType typeCommitment blinding = .ok signer ∧
        ⟨tape⟩ = rest :=
  run_lift_eq_ok

theorem run_sign_eq_ok {signer : SigningKey S} {message : Bytes} {tape : List S.Scalar}
    {signature : Signature S}
    (length : tape.length = 5 * signer.verification.bitLength.toNat + 4) :
    signer.sign message (⟨tape⟩ : Tape S) = .ok (signature, ⟨[]⟩) ↔
      ∃ draws : Draws S, draws.Sized signer.verification.bitLength.toNat ∧
        tape = draws.scalars ∧
        signer.Signs message draws signature := by
  have enough : 5 * (signer.verification.authorization message).bitLength.toNat ≤
      tape.length :=
    length ▸ Nat.le_add_right _ _
  constructor
  · intro run
    obtain ⟨proof, ⟨afterProof⟩, proved, openings⟩ := run_bind_eq_ok.mp run
    obtain ⟨authorization, sized, rfl, made⟩ :=
      (OneOutOfMany.run_prove_eq_ok enough).mp (during_eq_ok.mp proved)
    have four : afterProof.length = 4 := by
      rw [List.length_append, sized.length_scalars] at length
      exact Nat.add_left_cancel length
    obtain ⟨pseudonym, _, pseudonymLength, rfl, afterPseudonym⟩ :=
      (run_scalars_bind_eq_ok (by omega)).mp openings
    rw [List.length_append, pseudonymLength] at four
    obtain ⟨typeOpening, _, typeLength, rfl, given⟩ :=
      (run_scalars_bind_eq_ok (by omega)).mp afterPseudonym
    cases given
    refine ⟨⟨authorization, pseudonym, typeOpening⟩,
      ⟨sized, pseudonymLength, typeLength⟩, ?_, made, rfl⟩
    rw [List.append_nil, Draws.scalars]
  · rintro ⟨⟨authorization, pseudonym, typeOpening⟩,
      ⟨sized, pseudonymLength, typeLength⟩, rfl, proved, typeProof⟩
    have authorized :=
      (OneOutOfMany.run_prove_eq_ok enough).mpr ⟨authorization, sized, rfl, proved⟩
    refine run_bind_eq_ok.mpr ⟨_, _, during_eq_ok.mpr authorized, ?_⟩
    refine (run_scalars_bind_eq_ok (by simp [pseudonymLength])).mpr
      ⟨pseudonym, typeOpening, pseudonymLength, rfl, ?_⟩
    refine (run_scalars_bind_eq_ok typeLength.ge).mpr
      ⟨typeOpening, [], typeLength, (List.append_nil typeOpening).symm, ?_⟩
    exact run_pure_eq_ok.mpr ⟨congrArg (Signature.mk _) typeProof, rfl⟩

theorem bitLength_of_ofBlinding {parameters : PublicParameters S} {key : Key S}
    {tokenType : String} {typeCommitment : TypeCommitment S} {blinding : S.Scalar}
    {signer : SigningKey S}
    (made : ofBlinding parameters key tokenType typeCommitment blinding = .ok signer) :
    signer.verification.bitLength = parameters.policy.bitLength := by
  obtain ⟨_, verification, -, verified, rfl⟩ := ofBlinding_eq_ok.mp made
  obtain ⟨-, -, _, -, form⟩ := VerificationKey.ofParameters_eq_ok.mp verified
  exact congrArg VerificationKey.bitLength form

variable [LawfulG1 S]

theorem proveType_eq_iff {signer : SigningKey S} {parameters : PublicParameters S}
    {commitmentToType : S.G1} (entitled : signer.Entitled parameters commitmentToType)
    {message : Bytes} {proof : TypeProof S}
    (accepted : signer.verification.verifyType message proof = .ok ())
    {pseudonym typeOpening : List S.Scalar} (pseudonymLength : pseudonym.length = 2)
    (typeLength : typeOpening.length = 2) :
    signer.proveType message pseudonym typeOpening = proof ↔
      pseudonym =
        Schnorr.unblind proof.challenge [signer.key.secret, signer.pseudonymBlinding]
          proof.pseudonym ∧
        typeOpening =
          Schnorr.unblind proof.challenge [signer.tokenType, signer.typeBlinding]
            proof.commitmentToType := by
  obtain ⟨⟨pseudonymFormed, typeFormed⟩, hashed⟩ :=
    VerificationKey.verifyType_eq_ok.mp accepted
  have pseudonymIff :
    Schnorr.respond proof.challenge [signer.key.secret, signer.pseudonymBlinding]
      pseudonym = proof.pseudonym ↔ _ :=
        Schnorr.respond_eq_iff pseudonymLength pseudonymFormed
  have typeIff : Schnorr.respond proof.challenge [signer.tokenType, signer.typeBlinding]
      typeOpening = proof.commitmentToType ↔ _ :=
        Schnorr.respond_eq_iff typeLength typeFormed
  rw [← pseudonymIff, ← typeIff]
  constructor
  · rintro rfl
    exact ⟨rfl, rfl⟩
  · rintro ⟨pseudonymResponses, typeResponses⟩
    have first := recompute_respond entitled proof.challenge pseudonymLength typeLength
    rw [pseudonymResponses, typeResponses] at first
    have same : signer.verification.challenge
        (linearCombination [signer.verification.g, signer.verification.h] pseudonym,
          linearCombination [signer.verification.g, signer.verification.h] typeOpening)
            message =
        proof.challenge := by
      rw [← first]
      exact hashed
    rw [proveType, same, pseudonymResponses, typeResponses]

/-- The scalars that a signer draws when it gives a signature. -/
def draws (log : S.G1 → S.Scalar) (signer : SigningKey S) (message : Bytes)
    (signature : Signature S) : Draws S where
  authorization := signature.authorization.randomness log
    (signer.verification.authorization message) signer.verification.g
    (OneOutOfMany.indexBits signer.index signer.verification.bitLength.toNat)
  pseudonym := Schnorr.unblind signature.typeProof.challenge
    [signer.key.secret, signer.pseudonymBlinding] signature.typeProof.pseudonym
  typeOpening := Schnorr.unblind signature.typeProof.challenge
    [signer.tokenType, signer.typeBlinding] signature.typeProof.commitmentToType

/-- A signature that is accepted is given with exactly one choice of scalars. -/
theorem signs_iff {log : S.G1 → S.Scalar} {signer : SigningKey S}
    {parameters : PublicParameters S} {commitmentToType : S.G1}
    (logarithm : IsLogarithm log signer.verification.h)
    (entitled : signer.Entitled parameters commitmentToType) {message : Bytes}
    {signature : Signature S}
    (accepted : signer.verification.verify message signature = .ok ()) {drawn : Draws S}
    (sized : drawn.Sized signer.verification.bitLength.toNat) :
    signer.Signs message drawn signature ↔
      drawn = signer.draws log message signature := by
  obtain ⟨authorized, typeAccepted⟩ := VerificationKey.verify_eq_ok.mp accepted
  have authorizationIff := OneOutOfMany.proveWith_eq_ok_iff_of_verify logarithm
    (entitled.fits message) authorized sized.authorization
  have typeIff := proveType_eq_iff entitled typeAccepted sized.pseudonym sized.typeOpening
  constructor
  · rintro ⟨authorization, typeProof⟩
    obtain ⟨pseudonym, typeOpening⟩ := typeIff.mp typeProof
    obtain ⟨_, _, _⟩ := drawn
    exact congr (congr (congrArg Draws.mk (authorizationIff.mp authorization))
      pseudonym) typeOpening
  · rintro rfl
    exact ⟨authorizationIff.mpr rfl, typeIff.mpr ⟨rfl, rfl⟩⟩

omit [LawfulG1 S] in
theorem sized_draws {log : S.G1 → S.Scalar} {signer : SigningKey S} {message : Bytes}
    {signature : Signature S}
    (accepted : signer.verification.verify message signature = .ok ()) :
    (signer.draws log message signature).Sized signer.verification.bitLength.toNat := by
  obtain ⟨authorized, typeAccepted⟩ := VerificationKey.verify_eq_ok.mp accepted
  obtain ⟨_, _, -, -, sized, answered⟩ :=
    OneOutOfMany.Statement.verify_eq_ok.mp authorized
  obtain ⟨formed, -⟩ := VerificationKey.verifyType_eq_ok.mp typeAccepted
  refine ⟨OneOutOfMany.Proof.sized_randomness (by simp [OneOutOfMany.indexBits]) sized
    answered.sized, ?_, ?_⟩
  · simp [draws, Schnorr.unblind, formed.1]
  · simp [draws, Schnorr.unblind, formed.2]

/-- The issuer with a key of the policy under a given pseudonym. -/
def under (log : S.G1 → S.Scalar) (key : Key S) (index : UInt64) (tokenType : String)
    (typeCommitment : TypeCommitment S) (verification : VerificationKey S) :
    SigningKey S where
  key := key
  index := index
  pseudonymBlinding := log (verification.pseudonym - key.point)
  tokenType := typeScalar tokenType
  typeBlinding := typeCommitment.blindingFactor
  verification := verification

/-- An issuer gets a pseudonym with exactly one blinding factor. -/
theorem ofBlinding_eq_ok_iff_under {log : S.G1 → S.Scalar}
    {parameters : PublicParameters S} {secret : S.Scalar} {key : Key S} {index : UInt64}
    {tokenType : String} {typeCommitment : TypeCommitment S} {pseudonym : S.G1}
    {verification : VerificationKey S} (logarithm : IsLogarithm log verification.h)
    (own : Key.ofSecret parameters secret = .ok key)
    (authorized : indexOf parameters.policy key = .ok index)
    (verifier :
      VerificationKey.ofParameters parameters pseudonym typeCommitment.commitment =
      .ok verification) {blinding : S.Scalar} {signer : SigningKey S} :
    ofBlinding parameters key tokenType typeCommitment blinding = .ok signer ∧
        signer.verification.pseudonym = pseudonym ↔
      blinding = log (pseudonym - key.point) ∧
        signer = under log key index tokenType typeCommitment verification := by
  obtain ⟨-, -, _, generators, form⟩ := VerificationKey.ofParameters_eq_ok.mp verifier
  have point := Key.secret_smul_of_ofSecret own generators
  have named : verification.pseudonym = pseudonym :=
    congrArg VerificationKey.pseudonym form
  constructor
  · rintro ⟨made, otherNamed⟩
    obtain ⟨otherIndex, other, found, verified, rfl⟩ := ofBlinding_eq_ok.mp made
    cases Except.ok.inj (authorized.symm.trans found)
    obtain ⟨-, -, _, -, otherForm⟩ := VerificationKey.ofParameters_eq_ok.mp verified
    have formed : key.secret • other.g + blinding • other.h = pseudonym :=
      (congrArg VerificationKey.pseudonym otherForm).symm.trans otherNamed
    rw [formed] at verified
    cases Except.ok.inj (verifier.symm.trans verified)
    have blindingEq : blinding = log (pseudonym - key.point) :=
      logarithm.eq_iff.mp (by rw [← formed, point, add_sub_cancel_left])
    exact ⟨blindingEq, by rw [under, named, ← blindingEq]⟩
  · rintro ⟨rfl, rfl⟩
    have formed :
      key.secret • verification.g + log (pseudonym - key.point) • verification.h =
        pseudonym := by
      rw [logarithm.smul, point, add_sub_cancel]
    exact ⟨ofBlinding_eq_ok.mpr ⟨index, verification, authorized, formed.symm ▸ verifier,
      by rw [under, named]⟩, named⟩

end SigningKey

/-- What an issuer does from its key on: it takes a pseudonym, and signs under
it. -/
def signUnderPseudonym {R : Type} [RandomSource S R] (parameters : PublicParameters S)
    (key : Key S) (tokenType : String) (typeCommitment : TypeCommitment S)
    (message : Bytes) : Sampling R (S.G1 × Signature S) := do
  let signer ← SigningKey.generate parameters key tokenType typeCommitment
  let signature ← signer.sign message
  return (signer.verification.pseudonym, signature)

theorem run_signUnderPseudonym_eq_ok {parameters : PublicParameters S} {key : Key S}
    {tokenType : String} {typeCommitment : TypeCommitment S} {message : Bytes}
    {pseudonym : S.G1} {signature : Signature S} {blinding : S.Scalar}
    {tape : List S.Scalar}
    (length : tape.length = 5 * parameters.policy.bitLength.toNat + 4) :
    signUnderPseudonym parameters key tokenType typeCommitment message
        (⟨blinding :: tape⟩ : Tape S) = .ok ((pseudonym, signature), ⟨[]⟩) ↔
      ∃ signer draws,
        (SigningKey.ofBlinding parameters key tokenType typeCommitment blinding =
          .ok signer ∧
          signer.verification.pseudonym = pseudonym) ∧
        draws.Sized parameters.policy.bitLength.toNat ∧ tape = draws.scalars ∧
        signer.Signs message draws signature := by
  constructor
  · intro run
    obtain ⟨signer, _, generated, run⟩ := run_bind_eq_ok.mp run
    obtain ⟨made, rfl⟩ := SigningKey.run_generate_eq_ok.mp generated
    obtain ⟨given, _, signed, run⟩ := run_bind_eq_ok.mp run
    obtain ⟨same, rfl⟩ := run_pure_eq_ok.mp run
    obtain ⟨rfl, rfl⟩ := Prod.mk.inj same
    have bits := SigningKey.bitLength_of_ofBlinding made
    obtain ⟨draws, sized, onTape, signs⟩ :=
      (SigningKey.run_sign_eq_ok (bits ▸ length)).mp signed
    exact ⟨signer, draws, ⟨made, rfl⟩, bits ▸ sized, onTape, signs⟩
  · rintro ⟨signer, draws, ⟨made, rfl⟩, sized, onTape, signs⟩
    have bits := SigningKey.bitLength_of_ofBlinding made
    have signed := (SigningKey.run_sign_eq_ok (bits ▸ length)).mpr
      ⟨draws, bits ▸ sized, onTape, signs⟩
    exact run_bind_eq_ok.mpr ⟨signer, _, SigningKey.run_generate_eq_ok.mpr ⟨made, rfl⟩,
      run_bind_eq_ok.mpr ⟨signature, _, signed, rfl⟩⟩

variable [LawfulG1 S]

theorem verify_signUnderPseudonym {R : Type} [RandomSource S R]
    {parameters : PublicParameters S} {secret : S.Scalar} {key : Key S}
    {tokenType : String} {typeCommitment : TypeCommitment S} {message : Bytes}
    {made : S.G1 × Signature S} (own : Key.ofSecret parameters secret = .ok key)
    (opens : typeCommitment.Opens parameters.pedersen tokenType)
    (gives : Gives (R := R)
      (signUnderPseudonym parameters key tokenType typeCommitment message) made) :
    ∃ verification, VerificationKey.ofParameters parameters made.1
      typeCommitment.commitment =
      .ok verification ∧ verification.verify message made.2 = .ok () := by
  obtain ⟨signer, generated, gives⟩ := gives.bind
  obtain ⟨signature, signed, gives⟩ := gives.bind
  cases gives.pure
  have entitled := SigningKey.entitled_of_generate own opens generated
  exact ⟨signer.verification, entitled.verification,
    SigningKey.verify_sign entitled signed⟩

/-- For every issuer of the policy there is exactly one choice of the scalars
that it draws for which it takes a given pseudonym and gives a given signature
that is accepted. -/
theorem existsUnique_tape {parameters : PublicParameters S} {pseudonym : S.G1}
    {tokenType : String} {typeCommitment : TypeCommitment S} {message : Bytes}
    {signature : Signature S} {verification : VerificationKey S} {secret : S.Scalar}
    {key : Key S} {index : UInt64} (cyclic : CyclicG1 S)
    (opens : typeCommitment.Opens parameters.pedersen tokenType)
    (verifier :
      VerificationKey.ofParameters parameters pseudonym typeCommitment.commitment =
      .ok verification)
    (blinds : verification.h ≠ 0)
    (accepted : verification.verify message signature = .ok ())
    (own : Key.ofSecret parameters secret = .ok key)
    (authorized : SigningKey.indexOf parameters.policy key = .ok index) :
    ∃! scalars : List S.Scalar,
      scalars.length = 5 * parameters.policy.bitLength.toNat + 5 ∧
      signUnderPseudonym parameters key tokenType typeCommitment message
        (⟨scalars⟩ : Tape S) =
        .ok ((pseudonym, signature), ⟨[]⟩) := by
  obtain ⟨log, logarithm⟩ := cyclic.exists_isLogarithm blinds
  let signer := SigningKey.under log key index tokenType typeCommitment verification
  have underIff (blinding : S.Scalar) (other : SigningKey S) :
      SigningKey.ofBlinding parameters key tokenType typeCommitment blinding = .ok other ∧
        other.verification.pseudonym = pseudonym ↔ _ ∧ other = signer :=
    SigningKey.ofBlinding_eq_ok_iff_under logarithm own authorized verifier
  have made := (underIff _ _).mpr ⟨rfl, rfl⟩
  have entitled := SigningKey.entitled_of_ofBlinding own opens made.1
  have bits : verification.bitLength = _ := SigningKey.bitLength_of_ofBlinding made.1
  have sized : (signer.draws log message signature).Sized verification.bitLength.toNat :=
    SigningKey.sized_draws accepted
  have length := sized.length_scalars
  rw [bits] at sized length
  refine ⟨log (pseudonym - key.point) :: (signer.draws log message signature).scalars,
    ⟨congrArg (· + 1) length, ?_⟩, ?_⟩
  · have signs :=
      (SigningKey.signs_iff logarithm entitled accepted (bits ▸ sized)).mpr rfl
    exact (run_signUnderPseudonym_eq_ok length).mpr ⟨signer, _, made, sized, rfl, signs⟩
  · rintro tape ⟨tapeLength, run⟩
    obtain ⟨blinding, tape, rfl⟩ := List.exists_cons_of_length_eq_add_one tapeLength
    obtain ⟨other, drawn, otherMade, drawnSized, rfl, signs⟩ :=
      (run_signUnderPseudonym_eq_ok (Nat.succ.inj tapeLength)).mp run
    obtain ⟨rfl, rfl⟩ := (underIff _ _).mp otherMade
    rw [(SigningKey.signs_iff logarithm entitled accepted (bits ▸ drawnSized)).mp signs]

namespace Sample

open Bn254

def parameters : PublicParameters exponentSuite where
  label := "sample"
  curve := .bn254
  pedersen := [2, 3, 5]
  bulletproof := none
  membership := none
  credentialKey := []
  auditor := ⟨[]⟩
  issuers := []
  policy := ⟨[14, 22], 2, 1⟩
  maxToken := 255
  precision := 8

def typeCommitment : TypeCommitment exponentSuite where
  commitment := commitType parameters.pedersen (typeScalar "ABC") (6 : Fr)
  blindingFactor := 6

def made : Fr × Signature exponentSuite :=
  valueFrom (signUnderPseudonym parameters ⟨7, 14⟩ "ABC" typeCommitment [1, 2])
    (⟨[13, 17, 19, 23, 29, 31, 37, 41, 43, 47]⟩ : Tape exponentSuite) (by decide +kernel)

/-- The second issuer could have made the signature of the first one, in one
way. -/
theorem existsUnique_tape_other :
    ∃! scalars : List Fr, scalars.length = 10 ∧
      signUnderPseudonym parameters ⟨11, 22⟩ "ABC" typeCommitment [1, 2]
        (⟨scalars⟩ : Tape exponentSuite) = .ok ((made.1, made.2), ⟨[]⟩) := by
  have opens : typeCommitment.Opens parameters.pedersen "ABC" := rfl
  have first : Key.ofSecret parameters (7 : Fr) = .ok ⟨7, 14⟩ := rfl
  obtain ⟨verification, verifier, accepted⟩ := verify_signUnderPseudonym first opens
    (gives_valueFrom _ _ _ : Gives _ made)
  have blinds : verification.h ≠ 0 := by
    obtain ⟨-, -, _, generators, -⟩ := VerificationKey.ofParameters_eq_ok.mp verifier
    have third : verification.h = parameters.pedersen.getD 2 0 := by rw [generators]; rfl
    rw [third]
    decide +kernel
  have own : Key.ofSecret parameters (11 : Fr) = .ok ⟨11, 22⟩ := rfl
  have authorized : SigningKey.indexOf parameters.policy ⟨11, 22⟩ = .ok 1 := rfl
  exact existsUnique_tape exponents_cyclic opens verifier blinds accepted own authorized

end Sample

end ConfidentialToken.AnonymousIssuer
