import ConfidentialToken.Bytes
import ConfidentialToken.Error

/-!
What the protocols need of a pairing-friendly curve.

A suite gives the scalars, the two source groups and the target group, all
written additively, a pairing, a binary encoding for each kind of element, and
the two hash functions. The protocols are written once over any suite; the laws
that make them work are stated separately.

Their challenges are the hashes of Fiat–Shamir transcripts: byte strings that
gather the encodings of public values.
-/

namespace ConfidentialToken

/-- Why bytes do not encode an element. -/
inductive EncodingFailure where
  /-- The value is not canonical, or not a member of the group. -/
  | invalidData
  /-- Two flags that exclude each other are both set. -/
  | unexpectedFlags
  /-- The bytes end too early. -/
  | truncated
deriving DecidableEq

def EncodingFailure.message : EncodingFailure → String
  | .invalidData => "the input buffer contained invalid data"
  | .unexpectedFlags => "the call expects empty flags"
  | .truncated => "I/O error"

class BinaryEncoding (α : Type) where
  /-- The canonical encoding of an element. -/
  encode : α → Bytes
  /-- The element encoded at the start of the bytes; what follows it is not
  looked at. -/
  decode : Bytes → Except EncodingFailure α

export BinaryEncoding (encode)

def decodeElement {α : Type} [BinaryEncoding α] (bytes : Bytes) : Result α :=
  match BinaryEncoding.decode bytes with
  | .ok element => .ok element
  | .error failure => .error (.serialization failure.message)

class ScalarOperations (F : Type) extends Zero F, One F, Add F, Neg F, Sub F, Mul F,
    Inv F where
  /-- The scalar that a natural number denotes. -/
  ofNat : Nat → F
  /-- The least natural number that denotes a scalar. -/
  toNat : F → Nat

/-- The operations of a commutative group with multiples by scalars. -/
class GroupOperations (F G : Type) extends Zero G, Add G, Neg G, Sub G, SMul F G

/-- A pairing-friendly curve with its encodings and hash functions. -/
structure Suite where
  /-- The integers modulo the order of the groups. -/
  Scalar : Type
  /-- The first source group. -/
  G1 : Type
  /-- The second source group. -/
  G2 : Type
  /-- The target group. -/
  Gt : Type
  scalarDecidableEq : DecidableEq Scalar
  g1DecidableEq : DecidableEq G1
  g2DecidableEq : DecidableEq G2
  gtDecidableEq : DecidableEq Gt
  scalarOperations : ScalarOperations Scalar
  g1Operations : GroupOperations Scalar G1
  g2Operations : GroupOperations Scalar G2
  gtOperations : GroupOperations Scalar Gt
  scalarEncoding : BinaryEncoding Scalar
  g1Encoding : BinaryEncoding G1
  g2Encoding : BinaryEncoding G2
  gtEncoding : BinaryEncoding Gt
  /-- The sum of the pairings of the pairs of a list. -/
  pairingSum : List (G1 × G2) → Gt
  /-- A scalar that depends on every byte of a message. -/
  hashToScalar : Bytes → Scalar
  /-- An element of the first group of which nobody knows a logarithm. -/
  hashToG1 : Bytes → G1

namespace Suite

variable (S : Suite)

instance : DecidableEq S.Scalar := S.scalarDecidableEq
instance : DecidableEq S.G1 := S.g1DecidableEq
instance : DecidableEq S.G2 := S.g2DecidableEq
instance : DecidableEq S.Gt := S.gtDecidableEq
instance : ScalarOperations S.Scalar := S.scalarOperations
instance : GroupOperations S.Scalar S.G1 := S.g1Operations
instance : GroupOperations S.Scalar S.G2 := S.g2Operations
instance : GroupOperations S.Scalar S.Gt := S.gtOperations
instance : BinaryEncoding S.Scalar := S.scalarEncoding
instance : BinaryEncoding S.G1 := S.g1Encoding
instance : BinaryEncoding S.G2 := S.g2Encoding
instance : BinaryEncoding S.Gt := S.gtEncoding

variable {S}

def pairing (left : S.G1) (right : S.G2) : S.Gt :=
  S.pairingSum [(left, right)]

end Suite

namespace Transcript

/-- The encodings of the elements of a list, one after the other. -/
def encodeAll {α : Type} [BinaryEncoding α] (elements : List α) : Bytes :=
  elements.flatMap encode

/-- The text placed between a public statement and the messages of a proof. -/
def separator : Bytes :=
  Bytes.ofText "||"

variable {S : Suite}

def challenge (elements : List S.G1) : S.Scalar :=
  S.hashToScalar (encodeAll elements)

end Transcript

end ConfidentialToken
