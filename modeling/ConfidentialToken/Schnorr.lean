import ConfidentialToken.Arithmetic
import ConfidentialToken.Json.Schema

/-!
Pedersen commitments, and Schnorr proofs of knowledge of what they open to.

With witness `w` and randomness `r`, the responses to a challenge `c` are `r + c
w`. A verifier recomputes the first message of the prover from the responses and
compares challenges.
-/

namespace ConfidentialToken.Pedersen

variable {S : Suite}

/-- The commitment to an opening: the sum of the bases, each multiplied by its
part of the opening. -/
def commit (opening : List S.Scalar) (bases : List S.G1) : Result S.G1 :=
  if opening.length ≠ bases.length then
    .error (.invalidInput <|
      s!"can't compute Pedersen commitment: expect [{bases.length}] values, got " ++
      s!"[{opening.length}]")
  else .ok (linearCombination bases opening)

end ConfidentialToken.Pedersen

namespace ConfidentialToken.Schnorr

open Json

variable {S : Suite}

/-- The responses to a challenge, without a look at the lengths. -/
def respond (challenge : S.Scalar) (witness randomness : List S.Scalar) : List S.Scalar :=
  List.zipWith (fun secret blinding => blinding + challenge * secret) witness randomness

def prove (witness randomness : List S.Scalar) (challenge : S.Scalar) :
    Result (List S.Scalar) :=
  if witness.length ≠ randomness.length then
    .error (.invalidInput <|
      s!"cannot compute Schnorr proof: witness has [{witness.length}] elements, " ++
      s!"randomness [{randomness.length}]")
  else .ok (respond challenge witness randomness)

/-- A proof of knowledge of an opening of the statement. -/
structure Proof (S : Suite) where
  statement : S.G1
  responses : List S.Scalar
  challenge : S.Scalar

instance : JsonForm (Proof S) where
  toJson proof := .object [
    ("statement", toJson proof.statement),
    ("proof", toJson proof.responses),
    ("challenge", toJson proof.challenge)]
  fromJson value := do
    let [statement, responses, challenge] ←
      value.fields ["statement", "proof", "challenge"] | none
    return {
      statement := ← required statement
      responses := ← required responses
      challenge := ← required challenge }

/-- The first message of the prover to which responses belong. -/
def firstMessage (bases : List S.G1) (statement : S.G1) (responses : List S.Scalar)
    (challenge : S.Scalar) : S.G1 :=
  linearCombination bases responses - challenge • statement

/-- Recomputes the first message of the prover of a proof. -/
def recompute (bases : List S.G1) (proof : Proof S) : Result S.G1 :=
  if proof.responses.length ≠ bases.length then
    .error (.invalidInput <|
      s!"length of Schnorr proof [{proof.responses.length}] does not match " ++
      s!"number of bases [{bases.length}]")
  else .ok (firstMessage bases proof.statement proof.responses proof.challenge)

/-- Recomputes the first messages of several proofs. -/
def recomputeAll (bases : List S.G1) (proofs : List (Proof S)) : Result (List S.G1) :=
  proofs.mapM (recompute bases)

end ConfidentialToken.Schnorr
