import ConfidentialToken.Json.Schema
import ConfidentialToken.Random.Source
import ConfidentialToken.Schnorr

/-!
Confidential tokens.

A token on the ledger has an owner and a Pedersen commitment to its type, its
value and a blinding factor. The opening of the commitment travels outside the
ledger. The type that several tokens have in common is committed to by a token
without a value.
-/

namespace ConfidentialToken

open Json

/-- Where a token stands on the ledger: the transaction that created it and its
place among the outputs of that transaction. -/
structure TokenId where
  transaction : String
  index : UInt64
deriving DecidableEq

namespace TokenId

/-- The text of an identifier, which is its key on the ledger. -/
def text (id : TokenId) : String :=
  s!"[{id.transaction}:{id.index}]"

/-- Identifiers are ordered by the bytes of the transaction, then by index. -/
def le (left right : TokenId) : Bool :=
  if left.transaction = right.transaction then left.index ≤ right.index
  else Bytes.lexLe (Bytes.ofText left.transaction) (Bytes.ofText right.transaction)

end TokenId

instance : JsonForm TokenId where
  toJson id := .object [("tx_id", toJson id.transaction), ("index", toJson id.index)]
  fromJson value := do
    let [transaction, index] ← value.fields ["tx_id", "index"] | none
    return { transaction := ← required transaction, index := ← required index }

variable {S : Suite}

structure Token (S : Suite) where
  /-- The serialized identity of the owner, empty when the token is redeemed. -/
  owner : Bytes
  /-- The commitment to type, value and blinding factor. -/
  commitment : S.G1
deriving DecidableEq

instance : JsonForm (Token S) where
  toJson token := .object [("owner", hex token.owner), ("data", toJson token.commitment)]
  fromJson value := do
    let [owner, commitment] ← value.fields ["owner", "data"] | none
    return { owner := ← requiredHex owner, commitment := ← required commitment }

structure ClearToken where
  tokenType : String
  /-- The value in hexadecimal digits after `0x`. -/
  quantity : String
  owner : Bytes

instance : JsonForm ClearToken where
  toJson token := .object [
    ("type", toJson token.tokenType),
    ("quantity", toJson token.quantity),
    ("owner", hex token.owner)]
  fromJson value := do
    let [tokenType, quantity, owner] ← value.fields ["type", "quantity", "owner"] | none
    return {
      tokenType := ← required tokenType
      quantity := ← required quantity
      owner := ← requiredHex owner }

/-- The opening of a token as its creator hands it to the recipient. -/
structure Metadata (S : Suite) where
  tokenType : String
  value : S.Scalar
  blindingFactor : S.Scalar
  /-- What an auditor needs to know about the owner. -/
  owner : Bytes
  /-- The identity of the issuer, for issued tokens only. -/
  issuer : Bytes

instance : JsonForm (Metadata S) where
  toJson metadata := .object [
    ("type", toJson metadata.tokenType),
    ("value", toJson metadata.value),
    ("blinding_factor", toJson metadata.blindingFactor),
    ("owner", hex metadata.owner),
    ("issuer", hex metadata.issuer)]
  fromJson json := do
    let [tokenType, value, blindingFactor, owner, issuer] ← json.fields
      ["type", "value", "blinding_factor", "owner", "issuer"] | none
    return {
      tokenType := ← required tokenType
      value := ← required value
      blindingFactor := ← required blindingFactor
      owner := ← optionalHex owner
      issuer := ← optionalHex issuer }

/-- The scalar that stands for a token type in commitments. -/
def typeScalar (tokenType : String) : S.Scalar :=
  S.hashToScalar (Bytes.ofText tokenType)

/-- The opening of a token as a prover uses it. -/
structure Opening (S : Suite) where
  tokenType : String
  value : UInt64
  blindingFactor : S.Scalar

def wordScalar (word : UInt64) : S.Scalar :=
  ScalarOperations.ofNat word.toNat

/-- The commitment to a type, a value and a blinding factor. -/
def commitToken (generators : List S.G1) (tokenType : String)
    (value blindingFactor : S.Scalar) : Result S.G1 :=
  Pedersen.commit [typeScalar tokenType, value, blindingFactor] generators

namespace Opening

/-- Openings of one type with the given values and blinding factors. -/
def ofValues (tokenType : String) (values : List UInt64)
    (blindingFactors : List S.Scalar) : Result (List (Opening S)) :=
  if values.length ≠ blindingFactors.length then
    .error (.invalidInput <|
      s!"cannot create token witness: [{values.length}] values, " ++
      s!"[{blindingFactors.length}] blinding factors")
  else .ok (List.zipWith (Opening.mk tokenType) values blindingFactors)

def commit (generators : List S.G1) (opening : Opening S) : Result S.G1 :=
  commitToken generators opening.tokenType (wordScalar opening.value)
    opening.blindingFactor

def toMetadata (opening : Opening S) (owner issuer : Bytes) : Metadata S where
  tokenType := opening.tokenType
  value := wordScalar opening.value
  blindingFactor := opening.blindingFactor
  owner := owner
  issuer := issuer

/-- The commitments of openings, the first of which has the index `start`. -/
def commitAllFrom (generators : List S.G1) : (start : Nat) → List (Opening S) →
    Result (List S.G1)
  | _, [] => .ok []
  | start, opening :: openings => do
      let token ← during s!"failed to compute token [{start}]" (opening.commit generators)
      let tokens ← commitAllFrom generators (start + 1) openings
      return token :: tokens

def commitAll (generators : List S.G1) (openings : List (Opening S)) :
    Result (List S.G1) :=
  commitAllFrom generators 0 openings

/-- Openings of one type with the given values and fresh blinding factors. -/
def sample {R : Type} [RandomSource S R] (tokenType : String) (values : List UInt64) :
    Sampling R (List (Opening S)) :=
  values.mapM fun value => return ⟨tokenType, value, ← Sampling.scalar⟩

/-- Fresh commitments to values of one type, with their openings. -/
def createTokens {R : Type} [RandomSource S R] (generators : List S.G1)
    (tokenType : String) (values : List UInt64) :
    Sampling R (List S.G1 × List (Opening S)) := do
  let openings ← sample tokenType values
  let tokens ← during "cannot get tokens with witness" (commitAll generators openings)
  return (tokens, openings)

end Opening

namespace Token

def isRedeemed (token : Token S) : Bool :=
  token.owner.isEmpty

def deserialize (text : Bytes) : Result (Token S) :=
  during "failed deserializing token" (Json.read text)

/-- Opens a token; the opening must be the one that was committed to. -/
def toClear (token : Token S) (metadata : Metadata S) (generators : List S.G1) :
    Result ClearToken := do
  let commitment ← during "cannot retrieve token in the clear: failed to check token data"
    (commitToken generators metadata.tokenType metadata.value metadata.blindingFactor)
  if commitment ≠ token.commitment then
    throw (.invalidInput
      "cannot retrieve token in the clear: output does not match provided opening")
  let value := ScalarOperations.toNat metadata.value
  if UInt64.size ≤ value then
    throw (.invalidInput
      "cannot retrieve token in the clear: value does not fit in 64 bits")
  return {
    tokenType := metadata.tokenType
    quantity := "0x" ++ String.ofList (Nat.toDigits 16 value)
    owner := token.owner }

end Token

def Metadata.deserialize (text : Bytes) : Result (Metadata S) :=
  during "failed deserializing metadata" (Json.read text)

/-- The commitment to a type alone: a token without a value. -/
def commitType (generators : List S.G1) (tokenType blindingFactor : S.Scalar) : S.G1 :=
  linearCombination generators [tokenType, 0, blindingFactor]

/-- A commitment to a type, with its blinding factor. -/
structure TypeCommitment (S : Suite) where
  commitment : S.G1
  blindingFactor : S.Scalar

namespace TypeCommitment

/-- The commitment to a type with a given blinding factor. -/
def ofBlinding (generators : List S.G1) (tokenType : String) (blindingFactor : S.Scalar) :
    Result (TypeCommitment S) :=
  if generators.length ≠ 3 then
    .error (.invalidInput
      s!"cannot commit to type: expect [3] generators, got [{generators.length}]")
  else .ok ⟨commitType generators (typeScalar tokenType) blindingFactor, blindingFactor⟩

/-- A commitment to a type with a fresh blinding factor. -/
def sample {R : Type} [RandomSource S R] (generators : List S.G1) (tokenType : String) :
    Sampling R (TypeCommitment S) := do
  ofBlinding generators tokenType (← Sampling.scalar)

end TypeCommitment

end ConfidentialToken
