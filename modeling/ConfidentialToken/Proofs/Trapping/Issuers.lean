import Mathlib.Data.List.Basic
import ConfidentialToken.Issue.Anonymous
import ConfidentialToken.Proofs.Trapping.Identities

/-!
The verification of anonymous issuers does not trap.

A proof gives one entry of each list for every bit of the index, and a signature
two responses for each opening. Both are checked to be as long as that before an
entry is read.
-/

namespace ConfidentialToken

open Trapping

variable {S : Suite}

namespace OneOutOfMany

/-- `indexFactor`, reading the responses by their index. -/
def indexFactorTrapping (challenge : S.Scalar) (responses : List S.Scalar)
    (count index : Nat) : Trapping S.Scalar :=
  (List.range count).foldlM
    (fun factor place => do
      let isSet ← Trapping.bit (.ofNat index) place
      let response ← item responses place
      return factor * if isSet then response else challenge - response) 1

theorem indexFactorTrapping_eq (challenge : S.Scalar) {responses : List S.Scalar}
    {count : Nat} (sized : responses.length = count) (index : Nat) :
    indexFactorTrapping challenge responses count index =
      pure (indexFactor challenge responses index) := by
  unfold indexFactorTrapping indexFactor
  refine foldlM_range_eq_pure (by simpa using sized) (fun factor place bound => ?_) 1
  rw [List.length_map, List.length_zipIdx] at bound
  simp [item_of_lt bound]

namespace Statement

/-- `checkBit`, reading the commitments and responses by their index. -/
def checkBitTrapping (g0 g1 : S.G1) (challenge : S.Scalar) (proof : Proof S)
    (place : Nat) : Trapping Unit := do
  let l ← item proof.commitments.l place
  let a ← item proof.commitments.a place
  let vl ← item proof.values.l place
  let va ← item proof.values.a place
  if challenge • l + a ≠ vl • g0 + va • g1 then
    throw (.invalidProof "verification of first equation of one out of many proof failed")
  let b ← item proof.commitments.b place
  let vb ← item proof.values.b place
  if (challenge - vl) • l + b ≠ vb • g1 then
    throw (.invalidProof
      "verification of second equation of one out of many proof failed")

/-- `collapsed`, reading the responses by their index. -/
def collapsedTrapping (statement : Statement S) (challenge : S.Scalar) (proof : Proof S) :
    Trapping S.G1 := do
  let factors ← (List.range statement.commitments.length).mapM
    (indexFactorTrapping challenge proof.values.l statement.bitLength.toNat)
  return linearCombination statement.commitments factors -
    linearCombination proof.commitments.d (powers challenge proof.commitments.d.length)

/-- `verify`, reading all lists by their index. -/
def verifyTrapping (statement : Statement S) (proof : Proof S) : Trapping Unit := do
  if statement.pedersen.length ≠ 2 then
    throw (.invalidInput "length of Pedersen parameters != 2")
  let count := statement.bitLength.toNat
  if setSize? statement.bitLength ≠ some statement.commitments.length then
    throw (.invalidInput <|
      "the number of commitments is not 2^bitlength " ++
      s!"[{statement.commitments.length} != 2^{count}]")
  let c := proof.commitments
  if c.l.length ≠ count ∨ c.a.length ≠ count ∨ c.b.length ≠ count ∨
      c.d.length ≠ count then
    throw (.invalidInput <|
      "the size of the commitments in one out of many proof is not a multiple " ++
      s!"of {count}")
  let v := proof.values
  if v.l.length ≠ count ∨ v.a.length ≠ count ∨ v.b.length ≠ count then
    throw (.invalidInput
      s!"the size of the proofs in one out of many proof is not a multiple of {count}")
  let challenge := statement.challenge c
  let g0 ← item statement.pedersen 0
  let g1 ← item statement.pedersen 1
  (List.range count).forM (checkBitTrapping g0 g1 challenge proof)
  if (← statement.collapsedTrapping challenge proof) ≠ v.d • g1 then
    throw (.invalidProof "verification of third equation of one out of many proof failed")

/-- The equations of one bit, where all lists have an entry for it. -/
theorem checkBitTrapping_eq (g0 g1 : S.G1) (challenge : S.Scalar) {proof : Proof S}
    {place : Nat} (l : place < proof.commitments.l.length)
    (a : place < proof.commitments.a.length) (b : place < proof.commitments.b.length)
    (vl : place < proof.values.l.length) (va : place < proof.values.a.length)
    (vb : place < proof.values.b.length) :
    checkBitTrapping g0 g1 challenge proof place =
      done (checkBit g0 g1 challenge
        ((proof.commitments.l[place], proof.commitments.a[place],
          proof.commitments.b[place]),
          (proof.values.l[place], proof.values.a[place], proof.values.b[place]))) :=
  item_eq_done l <| item_eq_done a <| item_eq_done vl <| item_eq_done va <|
    guard_eq_done fun _ => item_eq_done b <| item_eq_done vb check_eq_done

theorem collapsedTrapping_eq {statement : Statement S} (challenge : S.Scalar)
    {proof : Proof S} (sized : proof.values.l.length = statement.bitLength.toNat) :
    statement.collapsedTrapping challenge proof =
      pure (statement.collapsed challenge proof) := by
  have factors : (List.range statement.commitments.length).mapM
      (indexFactorTrapping challenge proof.values.l statement.bitLength.toNat) =
      pure ((List.range statement.commitments.length).map
        (indexFactor challenge proof.values.l)) :=
    mapM_range_eq_pure (by simp) fun index bound => by
      rw [indexFactorTrapping_eq challenge sized, List.getElem_map, List.getElem_range]
  rw [collapsedTrapping, factors, pure_bind, collapsed]

theorem verifyTrapping_eq (statement : Statement S) (proof : Proof S) :
    statement.verifyTrapping proof = done (statement.verify proof) := by
  obtain ⟨commitments, message, pedersen, bitLength⟩ := statement
  match pedersen with
  | [] | [_] | _ :: _ :: _ :: _ => rfl
  | [g0, g1] =>
      refine guard_eq_done fun _ => guard_eq_done fun committed =>
        guard_eq_done fun answered => ?_
      simp only [not_or, Decidable.not_not] at committed answered
      obtain ⟨cl, ca, cb, -⟩ := committed
      obtain ⟨vl, va, vb⟩ := answered
      refine item_eq_done (by simp) <| item_eq_done (by simp) <|
        bind_eq_done (forM_range_eq_done ?_ fun place bound => ?_) fun _ _ => ?_
      · simp [cl, ca, cb, vl, va, vb]
      · simp only [List.length_zip, Nat.lt_min] at bound
        obtain ⟨⟨l, a, b⟩, vl, va, vb⟩ := bound
        simpa using checkBitTrapping_eq g0 g1 _ l a b vl va vb
      · rw [collapsedTrapping_eq _ vl, pure_bind]
        exact check_eq_done

end Statement

end OneOutOfMany

namespace AnonymousIssuer.VerificationKey

/-- `ofParameters`, reading the generators by their index. -/
def ofParametersTrapping (parameters : PublicParameters S)
    (pseudonym commitmentToType : S.G1) : Trapping (VerificationKey S) := do
  let policy := parameters.policy
  if policy.keys.isEmpty then
    throw (.invalidParameters "no anonymous issuers are authorized")
  done policy.validate
  if parameters.pedersen.length ≠ 3 then throw invalidGenerators
  let g ← item parameters.pedersen 0
  let h ← item parameters.pedersen 2
  return {
    pseudonym := pseudonym
    commitmentToType := commitmentToType
    keys := policy.keys
    bitLength := policy.bitLength
    g := g
    h := h }

/-- `verifyType`, reading the responses by their index. -/
def verifyTypeTrapping (key : VerificationKey S) (message : Bytes) (proof : TypeProof S) :
    Trapping Unit := do
  if proof.pseudonym.length ≠ 2 ∨ proof.commitmentToType.length ≠ 2 then
    throw (.invalidInput "type correctness proof not well formed")
  let secret ← item proof.pseudonym 0
  let pseudonymBlinding ← item proof.pseudonym 1
  let tokenType ← item proof.commitmentToType 0
  let typeBlinding ← item proof.commitmentToType 1
  let first :=
    (Schnorr.firstMessage [key.g, key.h] key.pseudonym [secret, pseudonymBlinding]
      proof.challenge,
     Schnorr.firstMessage [key.g, key.h] key.commitmentToType [tokenType, typeBlinding]
      proof.challenge)
  if key.challenge first message ≠ proof.challenge then
    throw (.invalidProof "invalid type correctness proof")

/-- `verifier`, which reads the lists of a signature by their index. -/
def verifierTrapping (key : VerificationKey S) :
    TrappingVerifier := fun message text => do
  let signature ← done (Signature.deserialize text)
  Trapping.during "anonymous issuer is not authorized"
    ((key.authorization message).verifyTrapping signature.authorization)
  key.verifyTypeTrapping message signature.typeProof

theorem ofParametersTrapping_eq (parameters : PublicParameters S)
    (pseudonym commitmentToType : S.G1) :
    ofParametersTrapping parameters pseudonym commitmentToType =
      done (ofParameters parameters pseudonym commitmentToType) := by
  refine guard_eq_done fun _ => bind_eq_done rfl fun _ _ => ?_
  match parameters.pedersen with
  | [] | [_] | [_, _] | _ :: _ :: _ :: _ :: _ | [_, _, _] => rfl

theorem verifyTypeTrapping_eq (key : VerificationKey S) (message : Bytes)
    (proof : TypeProof S) :
    key.verifyTypeTrapping message proof = done (key.verifyType message proof) := by
  refine guard_error_eq_done fun sized => ?_
  simp only [not_or, Decidable.not_not, List.length_eq_two] at sized
  obtain ⟨⟨secret, pseudonymBlinding, pseudonym⟩, tokenType, typeBlinding, commitment⟩ :=
    sized
  rw [recompute, pseudonym, commitment]
  exact check_eq_done

theorem verifierTrapping_total (key : VerificationKey S) :
    key.verifierTrapping = key.verifier.total := by
  funext message text
  refine bind_eq_done rfl fun signature _ => bind_eq_done ?_ fun _ _ => ?_
  · exact during_eq_done _ (OneOutOfMany.Statement.verifyTrapping_eq _ _)
  · exact verifyTypeTrapping_eq key message signature.typeProof

end AnonymousIssuer.VerificationKey

end ConfidentialToken
