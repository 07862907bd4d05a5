import ConfidentialToken.DigitRange.RangeProof
import ConfidentialToken.Proofs.Trapping.Basic

/-!
The verification of range proofs by digits does not trap.

The key that signs the digits is taken apart only where it has two parts more
than there are messages. The lists of a range proof have an entry for each
token, and this is checked before the entries of a token are read.
-/

namespace ConfidentialToken

open Trapping

variable {S : Suite}

namespace SignatureKnowledge.Parameters

/-- `recompute`, taking the key apart by index. -/
def recomputeTrapping (parameters : Parameters S) (responses : Responses S) :
    Trapping S.Gt := do
  let parts := parameters.keyParts
  let mismatch : Error := .invalidInput <|
    "length of signature public key does not match number of signed messages: " ++
    s!"expect [{parts.length - 2}], got [{responses.messages.length}]"
  if parts.length < 2 then throw mismatch
  let messages ← difference parts.length 2
  if responses.messages.length ≠ messages then throw mismatch
  let last ← difference parts.length 1
  let hashPart ← item parts last
  let messageParts ← itemsFrom parts 1
  let messagePart :=
    responses.hash • hashPart + linearCombination messageParts responses.messages
  let signature := responses.signature
  let firstPart ← item parts 0
  let statement := S.pairingSum [
    (signature.s, parameters.keyBase),
    (-signature.r, firstPart)]
  return S.pairingSum [
    (signature.r, messagePart),
    (responses.blindingFactor • parameters.blindingPoint, parameters.keyBase)] -
      responses.challenge • statement

theorem recomputeTrapping_eq (parameters : Parameters S) (responses : Responses S) :
    parameters.recomputeTrapping responses = done (parameters.recompute responses) := by
  obtain ⟨blindingPoint, keyBase, parts⟩ := parameters
  unfold recomputeTrapping recompute
  dsimp only
  by_cases short : parts.length < 2
  · rw [if_pos short, if_pos (.inl short)]
    rfl
  · have enough : 2 ≤ parts.length := Nat.le_of_not_lt short
    rw [if_neg short, difference_of_le enough, pure_bind]
    simp only [short, false_or]
    refine guard_error_eq_done fun _ => ?_
    rw [difference_of_le (by omega), pure_bind, item_last (by omega) 0, pure_bind,
      itemsFrom_of_le (by omega), pure_bind]
    match parts with
    | _ :: _ => rfl

end SignatureKnowledge.Parameters

namespace MembershipProof.Statement

/-- `recompute`, taking the key apart by index. -/
def recomputeTrapping (statement : Statement S) (proof : Proof S) :
    Trapping (FirstMessages S) := do
  let signature ← statement.parameters.recomputeTrapping {
    challenge := proof.challenge
    signature := proof.signature
    messages := [proof.value]
    hash := proof.hash
    blindingFactor := proof.signatureBlinding }
  let commitment ← done (Schnorr.recompute statement.pedersen {
    statement := statement.commitment
    responses := [proof.value, proof.commitmentBlinding]
    challenge := proof.challenge })
  return { commitment, signature }

/-- `verify`, taking the key apart by index. -/
def verifyTrapping (statement : Statement S) (proof : Proof S) : Trapping Unit := do
  done statement.checkSizes
  if proof.commitment ≠ statement.commitment then
    throw (.invalidProof "invalid membership proof")
  let first ← statement.recomputeTrapping proof
  if statement.challenge proof.signature first ≠ proof.challenge then
    throw (.invalidProof "invalid membership proof")

theorem verifyTrapping_eq (statement : Statement S) (proof : Proof S) :
    statement.verifyTrapping proof = done (statement.verify proof) := by
  have recomputes :
      statement.recomputeTrapping proof = done (statement.recompute proof) :=
    bind_eq_done (SignatureKnowledge.Parameters.recomputeTrapping_eq ..) fun _ _ =>
      bind_eq_done rfl fun _ _ => rfl
  exact bind_eq_done rfl fun _ _ => guard_eq_done fun _ =>
    bind_eq_done recomputes fun _ _ => check_eq_done

end MembershipProof.Statement

namespace DigitRange.Statement

/-- `recomputeToken` for the token at a place, reading the lists of the proof by
their index. -/
def recomputeTokenTrapping (statement : Statement S) (digitGenerators : List S.G1)
    (proof : RangeProof S) (place : Nat) : Trapping (S.G1 × S.G1) := do
  let token ← item statement.tokens place
  let value ← item proof.equality.values place
  let tokenBlinding ← item proof.equality.tokenBlinding place
  let first ← done (Schnorr.recompute statement.generators {
    statement := token
    responses := [proof.equality.tokenType, value, tokenBlinding]
    challenge := proof.challenge })
  let digits ← item proof.digits place
  let digitBlinding ← item proof.equality.digitBlinding place
  let digit ← done (Schnorr.recompute digitGenerators {
    statement := statement.weigh digits.commitments
    responses := [value, digitBlinding]
    challenge := proof.challenge })
  return (first, digit)

/-- `recompute`, reading the lists of the proof by their index. -/
def recomputeTrapping (statement : Statement S) (proof : RangeProof S) :
    Trapping (FirstMessages S) := do
  let count := statement.tokens.length
  let equality := proof.equality
  if equality.values.length ≠ count ∨ equality.tokenBlinding.length ≠ count ∨
      equality.digitBlinding.length ≠ count then
    throw notWellFormed
  let digitGenerators ← itemsBefore statement.generators 2
  let messages ←
    (List.range count).mapM (statement.recomputeTokenTrapping digitGenerators proof)
  return { tokens := messages.map Prod.fst, digits := messages.map Prod.snd }

/-- `verifyDigits` over given generators. -/
def verifyDigitsTrapping (statement : Statement S) (digitGenerators : List S.G1)
    (digits : DigitProofs S) : Trapping Unit :=
  (digits.commitments.zip digits.memberships).forM fun (commitment, proof) =>
    Trapping.during "failed to verify range proof"
      (MembershipProof.Statement.verifyTrapping
        ⟨(statement.membership commitment).parameters, digitGenerators, commitment⟩ proof)

/-- `verify`, reading the lists of the proof and the generators by their
index. -/
def verifyTrapping (statement : Statement S) (proof : RangeProof S) : Trapping Unit := do
  if statement.generators.length ≠ 3 then
    throw (.invalidInput <|
      "range proof verification needs [3] Pedersen generators, got " ++
      s!"[{statement.generators.length}]")
  if proof.digits.length ≠ statement.tokens.length then throw notWellFormed
  let exponent := statement.parameters.exponent.toNat
  if proof.digits.any fun digits =>
      digits.commitments.length ≠ exponent || digits.memberships.length ≠ exponent then
    throw notWellFormed
  let digitGenerators ← itemsBefore statement.generators 2
  proof.digits.forM (statement.verifyDigitsTrapping digitGenerators)
  let first ← statement.recomputeTrapping proof
  if statement.challenge first (proof.digits.map DigitProofs.commitments) ≠
      proof.challenge then
    throw (.invalidProof "invalid range proof")

theorem verifyDigitsTrapping_eq (statement : Statement S) (digits : DigitProofs S) :
    statement.verifyDigitsTrapping (statement.generators.take 2) digits =
      done (statement.verifyDigits digits) :=
  forM_eq_done fun (commitment, proof) _ => during_eq_done _
    (MembershipProof.Statement.verifyTrapping_eq (statement.membership commitment) proof)

theorem recomputeTokenTrapping_eq {statement : Statement S} {proof : RangeProof S}
    {place : Nat} (token : place < statement.tokens.length)
    (digits : place < proof.digits.length)
    (value : place < proof.equality.values.length)
    (tokenBlinding : place < proof.equality.tokenBlinding.length)
    (digitBlinding : place < proof.equality.digitBlinding.length) :
    statement.recomputeTokenTrapping (statement.generators.take 2) proof place =
      done (statement.recomputeToken proof
        (statement.tokens[place], proof.digits[place].commitments,
          proof.equality.values[place],
          proof.equality.tokenBlinding[place], proof.equality.digitBlinding[place])) :=
  item_eq_done token <| item_eq_done value <| item_eq_done tokenBlinding <|
    bind_eq_done rfl fun _ _ => item_eq_done digits <| item_eq_done digitBlinding <|
      bind_eq_done rfl fun _ _ => rfl

theorem recomputeTrapping_eq {statement : Statement S} {proof : RangeProof S}
    (generators : statement.generators.length = 3)
    (digits : proof.digits.length = statement.tokens.length) :
    statement.recomputeTrapping proof = done (statement.recompute proof) := by
  refine guard_eq_done fun sized => ?_
  simp only [not_or, Decidable.not_not] at sized
  obtain ⟨values, tokenBlinding, digitBlinding⟩ := sized
  rw [itemsBefore_of_le (by omega), pure_bind]
  refine bind_eq_done (mapM_range_eq_done ?_ fun place bound => ?_) fun _ _ => rfl
  · simp [digits, values, tokenBlinding, digitBlinding]
  · simp only [List.length_zip, List.length_map, Nat.lt_min] at bound
    obtain ⟨token, digit, value, first, second⟩ := bound
    simpa using recomputeTokenTrapping_eq token digit value first second

theorem verifyTrapping_eq (statement : Statement S) (proof : RangeProof S) :
    statement.verifyTrapping proof = done (statement.verify proof) := by
  refine guard_eq_done fun generators => guard_eq_done fun digits =>
    guard_eq_done fun _ => ?_
  rw [Decidable.not_not] at generators digits
  rw [itemsBefore_of_le (by omega), pure_bind]
  exact bind_eq_done
    (forM_eq_done fun digits _ => verifyDigitsTrapping_eq statement digits)
    fun _ _ => bind_eq_done (recomputeTrapping_eq generators digits) fun _ _ =>
      check_eq_done

end DigitRange.Statement

end ConfidentialToken
