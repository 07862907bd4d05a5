import ConfidentialToken.DigitRange.Parameters
import ConfidentialToken.MembershipProof
import ConfidentialToken.Token

/-!
Range proofs by digits.

Each digit of a value is committed to separately, and proven to be one of the
signed digits. An equality proof ties the commitments, weighted with the powers
of the base, to the token.
-/

namespace ConfidentialToken.DigitRange

open Json

variable {S : Suite}

/-- The commitments to the digits of one token, with a membership proof for
each. -/
structure DigitProofs (S : Suite) where
  commitments : List S.G1
  memberships : List (MembershipProof.Proof S)

instance : JsonForm (DigitProofs S) where
  toJson proofs := .object [
    ("commitments", toJson proofs.commitments),
    ("signature_proofs", toJson proofs.memberships)]
  fromJson value := do
    let [commitments, memberships] ←
      value.fields ["commitments", "signature_proofs"] | none
    return {
      commitments := ← required commitments
      memberships := ← required memberships }

/-- The responses that tie tokens to their digits. All tokens have one type; the
other lists have an entry for each token. -/
structure EqualityProofs (S : Suite) where
  tokenType : S.Scalar
  values : List S.Scalar
  tokenBlinding : List S.Scalar
  digitBlinding : List S.Scalar

instance : JsonForm (EqualityProofs S) where
  toJson proofs := .object [
    ("type", toJson proofs.tokenType),
    ("value", toJson proofs.values),
    ("token_blinding_factor", toJson proofs.tokenBlinding),
    ("commitment_blinding_factor", toJson proofs.digitBlinding)]
  fromJson json := do
    let [tokenType, values, tokenBlinding, digitBlinding] ← json.fields
      ["type", "value", "token_blinding_factor", "commitment_blinding_factor"] | none
    return {
      tokenType := ← required tokenType
      values := ← required values
      tokenBlinding := ← required tokenBlinding
      digitBlinding := ← required digitBlinding }

structure RangeProof (S : Suite) where
  challenge : S.Scalar
  equality : EqualityProofs S
  /-- The digits of each token. -/
  digits : List (DigitProofs S)

instance : JsonForm (RangeProof S) where
  toJson proof := .object [
    ("challenge", toJson proof.challenge),
    ("equality_proofs", toJson proof.equality),
    ("membership_proofs", toJson proof.digits)]
  fromJson value := do
    let [challenge, equality, digits] ← value.fields
      ["challenge", "equality_proofs", "membership_proofs"] | none
    return {
      challenge := ← required challenge
      equality := ← required equality
      digits := ← required digits }

structure Statement (S : Suite) where
  tokens : List S.G1
  /-- The bases for type, value and blinding factor of tokens. Digits use the
  first two. -/
  generators : List S.G1
  parameters : Parameters S

/-- The first messages of a prover, one of each kind for every token. -/
structure FirstMessages (S : Suite) where
  tokens : List S.G1
  digits : List S.G1

/-- The failure for a proof whose lists do not have the right lengths. -/
def notWellFormed : Error :=
  .invalidProof "range proof not well formed"

namespace Statement

def transcript (statement : Statement S) (first : FirstMessages S)
    (digits : List (List S.G1)) : Bytes :=
  encode statement.parameters.blindingPoint ++ Transcript.encodeAll statement.tokens ++
    Transcript.encodeAll first.tokens ++ Transcript.encodeAll first.digits ++
    Transcript.encodeAll statement.generators ++ encode statement.parameters.keyBase ++
    Transcript.encodeAll statement.parameters.keyParts ++
    digits.flatMap Transcript.encodeAll

/-- The challenge for first messages and the commitments to digits. -/
def challenge (statement : Statement S) (first : FirstMessages S)
    (digits : List (List S.G1)) : S.Scalar :=
  S.hashToScalar (statement.transcript first digits)

def digitGenerators (statement : Statement S) : List S.G1 :=
  statement.generators.take 2

/-- The statement about the membership of one digit. -/
def membership (statement : Statement S) (commitment : S.G1) :
    MembershipProof.Statement S where
  parameters := {
    blindingPoint := statement.parameters.blindingPoint
    keyBase := statement.parameters.keyBase
    keyParts := statement.parameters.keyParts }
  pedersen := statement.digitGenerators
  commitment := commitment

/-- The sum of the commitments to digits, weighted with the powers of the
base. -/
def weigh (statement : Statement S) (commitments : List S.G1) : S.G1 :=
  linearCombination commitments
    (powers (wordScalar (S := S) statement.parameters.base) commitments.length)

/-- Recomputes the first messages that belong to one token. -/
def recomputeToken (statement : Statement S) (proof : RangeProof S) :
    S.G1 × List S.G1 × S.Scalar × S.Scalar × S.Scalar → Result (S.G1 × S.G1)
  | (token, digits, value, tokenBlinding, digitBlinding) => do
      let first ← Schnorr.recompute statement.generators {
        statement := token
        responses := [proof.equality.tokenType, value, tokenBlinding]
        challenge := proof.challenge }
      let digit ← Schnorr.recompute statement.digitGenerators {
        statement := statement.weigh digits
        responses := [value, digitBlinding]
        challenge := proof.challenge }
      return (first, digit)

def recompute (statement : Statement S) (proof : RangeProof S) :
    Result (FirstMessages S) := do
  let count := statement.tokens.length
  let equality := proof.equality
  if equality.values.length ≠ count ∨ equality.tokenBlinding.length ≠ count ∨
      equality.digitBlinding.length ≠ count then
    throw notWellFormed
  let messages ← (statement.tokens.zip ((proof.digits.map DigitProofs.commitments).zip
    (equality.values.zip (equality.tokenBlinding.zip equality.digitBlinding)))).mapM
      (statement.recomputeToken proof)
  return { tokens := messages.map Prod.fst, digits := messages.map Prod.snd }

/-- Checks the membership proofs of the digits of one token. -/
def verifyDigits (statement : Statement S) (digits : DigitProofs S) : Result Unit :=
  (digits.commitments.zip digits.memberships).forM fun (commitment, proof) =>
    during "failed to verify range proof" ((statement.membership commitment).verify proof)

def verify (statement : Statement S) (proof : RangeProof S) : Result Unit := do
  if statement.generators.length ≠ 3 then
    throw (.invalidInput <|
      "range proof verification needs [3] Pedersen generators, got " ++
      s!"[{statement.generators.length}]")
  if proof.digits.length ≠ statement.tokens.length then throw notWellFormed
  let exponent := statement.parameters.exponent.toNat
  if proof.digits.any fun digits =>
      digits.commitments.length ≠ exponent || digits.memberships.length ≠ exponent then
    throw notWellFormed
  proof.digits.forM statement.verifyDigits
  let first ← statement.recompute proof
  if statement.challenge first (proof.digits.map DigitProofs.commitments) ≠
      proof.challenge then
    throw (.invalidProof "invalid range proof")

end Statement

/-- The digits of a value, the least significant first. -/
def digitsOf (base : UInt64) : (count : Nat) → UInt64 → List UInt64
  | 0, _ => []
  | count + 1, value => value % base :: digitsOf base count (value / base)

/-- A digit with its commitment and its signature. -/
structure CommittedDigit (S : Suite) where
  commitment : S.G1
  witness : MembershipProof.Witness S

/-- The items in chunks of a size, of which the last one can be shorter. -/
def chunks {α : Type} (size : Nat) (items : List α) : List (List α) :=
  (List.range ((items.length + size - 1) / size)).map fun index =>
    (items.drop (index * size)).take size

namespace Statement

def commitDigit (statement : Statement S) (digit : UInt64) (blindingFactor : S.Scalar) :
    Result (CommittedDigit S) :=
  match statement.parameters.signatures[digit.toNat]? with
  | some signature =>
      let value := wordScalar (S := S) digit
      .ok ⟨linearCombination statement.digitGenerators [value, blindingFactor],
        ⟨signature, value, blindingFactor⟩⟩
  | none => .error (.invalidParameters s!"no signature for digit [{digit}]")

/-- Splits the value of an opening into digits and commits to them. -/
def decompose {R : Type} [RandomSource S R] (statement : Statement S)
    (opening : Opening S) : Sampling R (List (CommittedDigit S)) := do
  let max := statement.parameters.maxValue
  if max < opening.value then throw (.outOfRange opening.value max)
  (digitsOf statement.parameters.base statement.parameters.exponent.toNat
    opening.value).mapM
    fun digit => do statement.commitDigit digit (← Sampling.scalar)

/-- Proves the membership of the digits of all tokens, each with an independent
source of randomness, and gives every token its share of the proofs. -/
def proveMembership {R : Type} [RandomSource S R] (statement : Statement S)
    (digits : List (List (CommittedDigit S))) : Sampling R (List (DigitProofs S)) := do
  let memberships ← digits.flatten.mapM fun digit =>
    Sampling.forked S (MembershipProof.prove (statement.membership digit.commitment)
      digit.witness)
  return List.zipWith
    (fun committed share => ⟨committed.map CommittedDigit.commitment, share⟩)
    digits (chunks statement.parameters.exponent.toNat memberships)

/-- Whether the openings fit the statement and have one type. -/
def checkOpenings (statement : Statement S) (openings : List (Opening S)) :
    Result Unit := do
  if openings.length ≠ statement.tokens.length ∨ openings.isEmpty then
    throw (.invalidInput <|
      s!"cannot compute range proof: [{statement.tokens.length}] tokens, " ++
      s!"[{openings.length}] witnesses")
  if statement.generators.length ≠ 3 then
    throw (.invalidInput "cannot compute range proof: expect [3] Pedersen generators")
  checkShape statement.parameters.base statement.parameters.exponent
  if openings.any fun opening =>
      some opening.tokenType ≠ openings.head?.map Opening.tokenType then
    throw (.invalidInput "cannot compute range proof: tokens have different types")

end Statement

/-- The random scalars of the equality proofs. -/
structure EqualityRandomness (S : Suite) where
  tokenType : S.Scalar
  values : List S.Scalar
  tokenBlinding : List S.Scalar
  digitBlinding : List S.Scalar

/-- Draws the random scalars of the equality proofs. -/
def sampleEquality {R : Type} [RandomSource S R] (count : Nat) :
    Sampling R (EqualityRandomness S) := do
  let tokenType ← Sampling.scalar
  let values ← Sampling.scalars count
  let tokenBlinding ← Sampling.scalars count
  let digitBlinding ← Sampling.scalars count
  return { tokenType, values, tokenBlinding, digitBlinding }

namespace Statement

def firstMessages (statement : Statement S) (randomness : EqualityRandomness S) :
    FirstMessages S where
  tokens := List.zipWith
    (fun value blinding =>
      linearCombination statement.generators [randomness.tokenType, value, blinding])
    randomness.values randomness.tokenBlinding
  digits := List.zipWith
    (fun value blinding => linearCombination statement.digitGenerators [value, blinding])
    randomness.values randomness.digitBlinding

/-- The blinding factor of the weighted sum of the commitments to digits. -/
def weighBlinding (statement : Statement S) (digits : List (CommittedDigit S)) :
    S.Scalar :=
  dotProduct (digits.map fun digit => digit.witness.commitmentBlinding)
    (powers (wordScalar (S := S) statement.parameters.base) digits.length)

def equalityResponses (statement : Statement S) (openings : List (Opening S))
    (digits : List (List (CommittedDigit S))) (randomness : EqualityRandomness S)
    (challenge : S.Scalar) : EqualityProofs S where
  tokenType := randomness.tokenType +
    challenge * typeScalar ((openings.head?.map Opening.tokenType).getD "")
  values :=
    Schnorr.respond challenge (openings.map fun opening => wordScalar opening.value)
      randomness.values
  tokenBlinding := Schnorr.respond challenge (openings.map Opening.blindingFactor)
    randomness.tokenBlinding
  digitBlinding := Schnorr.respond challenge (digits.map statement.weighBlinding)
    randomness.digitBlinding

/-- Proves that the tokens, of one type, have values in range. -/
def prove {R : Type} [RandomSource S R] (statement : Statement S)
    (openings : List (Opening S)) : Sampling R (RangeProof S) := do
  statement.checkOpenings openings
  let digits ← openings.mapM statement.decompose
  let digitProofs ← statement.proveMembership digits
  let randomness ← sampleEquality openings.length
  let challenge := statement.challenge (statement.firstMessages randomness)
    (digits.map fun committed => committed.map CommittedDigit.commitment)
  return {
    challenge := challenge
    equality := statement.equalityResponses openings digits randomness challenge
    digits := digitProofs }

end Statement

end ConfidentialToken.DigitRange
