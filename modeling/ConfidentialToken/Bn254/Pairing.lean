import ConfidentialToken.Bn254.Curve

/-!
The target group of BN254 and the optimal ate pairing.

A point of the second curve is carried to the curve over `Fq12` by `(x, y) ↦ (x
w², y w³)`, so the line of slope `s` through it takes at `(x', y')` the value
`y' - s x' w + (s x - y) w³`. Lines are computed up to factors in `Fq2`, which
the final exponentiation removes.
-/

namespace ConfidentialToken.Bn254

/-- An element of the target group, written additively. -/
structure Gt where
  value : Fq12
deriving DecidableEq

namespace Gt

instance : Zero Gt := ⟨⟨1⟩⟩
instance : Add Gt := ⟨fun a b => ⟨a.value * b.value⟩⟩
instance : Neg Gt := ⟨fun a => ⟨a.value.conjugate⟩⟩
instance : Sub Gt := ⟨fun a b => a + -b⟩

def multiple (count : Nat) (a : Gt) : Gt :=
  ⟨a.value.pow count⟩

instance : SMul Fr Gt := ⟨fun factor a => a.multiple factor.val⟩

instance : GroupOperations Fr Gt where

/-- The coordinates over the base field, in the order in which they are
encoded. -/
def coordinates (a : Gt) : List Fq :=
  [a.value.c0, a.value.c1].flatMap fun half =>
    [half.c0, half.c1, half.c2].flatMap fun pair => [pair.c0, pair.c1]

/-- The encoding of an element: its twelve coordinates. -/
def encode (a : Gt) : Bytes :=
  a.coordinates.flatMap residueWord

/-- Reads an element of `Fq2` and returns the bytes after it. -/
def decodePair (bytes : Bytes) : Except EncodingFailure (Fq2 × Bytes) := do
  let (word, bytes) ← takeWord bytes
  let c0 ← residueOfWord? word
  let (word, bytes) ← takeWord bytes
  let c1 ← residueOfWord? word
  return (⟨c0, c1⟩, bytes)

/-- Reads an element of `Fq6` and returns the bytes after it. -/
def decodeTriple (bytes : Bytes) : Except EncodingFailure (Fq6 × Bytes) := do
  let (c0, bytes) ← decodePair bytes
  let (c1, bytes) ← decodePair bytes
  let (c2, bytes) ← decodePair bytes
  return (⟨c0, c1, c2⟩, bytes)

def decode (bytes : Bytes) : Except EncodingFailure Gt := do
  let (c0, bytes) ← decodeTriple bytes
  let (c1, _) ← decodeTriple bytes
  let element : Gt := ⟨⟨c0, c1⟩⟩
  if element.multiple scalarModulus = 0 then .ok element else .error .invalidData

instance : BinaryEncoding Gt where
  encode := encode
  decode := decode

end Gt

/-- The parameter of the curve family from which both moduli are computed. -/
def curveParameter : Nat := 4965661367192848881

/-- A pair of finite points with the current multiple of the second. -/
structure MillerPair where
  /-- First coordinate of the point of the first curve. -/
  px : Fq
  /-- Second coordinate of the point of the first curve. -/
  py : Fq
  /-- First coordinate of the point of the second curve. -/
  qx : Fq2
  /-- Second coordinate of the point of the second curve. -/
  qy : Fq2
  /-- The multiple of the point of the second curve that the loop has
  reached. -/
  reached : Jacobian Fq2

namespace MillerPair

/-- The start of the loop for two points, nothing if one of them is at
infinity. -/
def start? : G1 × G2 → Option MillerPair
  | (.affine px py, .affine qx qy) => some ⟨px, py, qx, qy, ⟨qx, qy, 1⟩⟩
  | _ => none

/-- Multiplies by the tangent at the reached point and doubles that point. -/
def double (f : Fq12) (pair : MillerPair) : Fq12 × MillerPair :=
  let ⟨x, y, z⟩ := pair.reached
  let z2 := z.square
  let x2 := x.square
  let slope := x2 + x2 + x2
  let y2 := y.square
  let next := pair.reached.double
  let line := f.mulLine ((next.z * z2).scale pair.py) (-((slope * z2).scale pair.px))
    (slope * x - (y2 + y2))
  (line, { pair with reached := next })

/-- Multiplies by the line through the reached point and `(qx, qy)`, and adds
that point. -/
def addPoint (qx qy : Fq2) (f : Fq12) (pair : MillerPair) : Fq12 × MillerPair :=
  let ⟨x, y, z⟩ := pair.reached
  let z2 := z.square
  let h := qx * z2 - x
  let r := qy * (z * z2) - y
  let h2 := h.square
  let h3 := h * h2
  let v := x * h2
  let x3 := r.square - h3 - (v + v)
  let z3 := z * h
  let line := f.mulLine (z3.scale pair.py) (-(r.scale pair.px)) (r * qx - z3 * qy)
  (line, { pair with reached := ⟨x3, r * (v - x3) - y * h3, z3⟩ })

def addStart (f : Fq12) (pair : MillerPair) : Fq12 × MillerPair :=
  addPoint pair.qx pair.qy f pair

def frobeniusPoint (x y : Fq2) : Fq2 × Fq2 :=
  let (_, g2, g3, _, _) := Fq12.frobeniusFactors
  (x.conjugate * g2, y.conjugate * g3)

/-- Adds the image of the start under the Frobenius map. -/
def addFrobenius (f : Fq12) (pair : MillerPair) : Fq12 × MillerPair :=
  let (x, y) := frobeniusPoint pair.qx pair.qy
  addPoint x y f pair

/-- Subtracts the image of the start under the square of the Frobenius map. -/
def subFrobeniusSquare (f : Fq12) (pair : MillerPair) : Fq12 × MillerPair :=
  let (x, y) := frobeniusPoint pair.qx pair.qy
  let (x, y) := frobeniusPoint x y
  addPoint x (-y) f pair

/-- Applies a step to every pair, collecting the lines in one product. -/
def forAll (step : Fq12 → MillerPair → Fq12 × MillerPair) (f : Fq12)
    (pairs : List MillerPair) : Fq12 × List MillerPair :=
  let (f, reversed) := pairs.foldl
    (fun (f, reversed) pair =>
      let (f, pair) := step f pair
      (f, pair :: reversed))
    (f, [])
  (f, reversed.reverse)

/-- The product of the Miller functions of all pairs. -/
def loop (pairs : List MillerPair) : Fq12 :=
  let (f, pairs) := ((binaryDigits (6 * curveParameter + 2)).drop 1).foldl
    (fun (f, pairs) digit =>
      let (f, pairs) := forAll double f.square pairs
      if digit then forAll addStart f pairs else (f, pairs))
    (1, pairs)
  let (f, pairs) := forAll addFrobenius f pairs
  (forAll subFrobeniusSquare f pairs).1

end MillerPair

/-- The power with exponent `(q⁶ - 1)(q² + 1)`, which lies in the cyclotomic
subgroup. -/
def cyclotomicPower (f : Fq12) : Fq12 :=
  let g := f.conjugate * f⁻¹
  g.frobenius.frobenius * g

/-- The power with exponent minus the curve parameter, in the cyclotomic
subgroup. -/
def powNegParameter (f : Fq12) : Fq12 :=
  (f.pow curveParameter).conjugate

/-- The power with exponent `(q¹² - 1) / r · 2x (6x² + 3x + 1)`, `x` being the
curve parameter. -/
def finalExponentiation (f : Fq12) : Fq12 :=
  let r := cyclotomicPower f
  let y0 := powNegParameter r
  let y1 := y0.square
  let y2 := y1.square
  let y3 := y2 * y1
  let y4 := powNegParameter y3
  let y5 := y4.square
  let y6 := powNegParameter y5
  let y7 := y6.conjugate * y4
  let y8 := y7 * y3.conjugate
  let y9 := y8 * y1
  let y11 := y8 * y4 * r
  let y13 := y9.frobenius * y11
  let y14 := y8.frobenius.frobenius * y13
  (r.conjugate * y9).frobenius.frobenius.frobenius * y14

/-- The sum of the pairings of all pairs, with one final exponentiation. -/
def pairingSum (pairs : List (G1 × G2)) : Gt :=
  ⟨finalExponentiation (MillerPair.loop (pairs.filterMap MillerPair.start?))⟩

end ConfidentialToken.Bn254
