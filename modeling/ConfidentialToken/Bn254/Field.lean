import ConfidentialToken.Bytes
import ConfidentialToken.Residue
import ConfidentialToken.Suite

/-!
The prime fields of the curve BN254 and the tower of extensions of its base
field.

`Fq2` adjoins a square root `u` of minus one, `Fq6` a cube root `v` of `9 + u`,
and `Fq12` a square root `w` of `v`.
-/

namespace ConfidentialToken.Bn254

def baseModulus : Nat :=
  21888242871839275222246405745257275088696311157297823662689037894645226208583

/-- The order of the groups, hence of the scalar field. -/
def scalarModulus : Nat :=
  21888242871839275222246405745257275088548364400416034343698204186575808495617

instance : Modulus baseModulus := ⟨by decide⟩
instance : Modulus scalarModulus := ⟨by decide⟩

abbrev Fq := Residue baseModulus

abbrev Fr := Residue scalarModulus

/-- The first `32` bytes as a little-endian number, with the bytes after
them. -/
def takeWord (bytes : Bytes) : Except EncodingFailure (Bytes × Bytes) :=
  let word := bytes.take 32
  if word.length = 32 then .ok (word, bytes.drop 32) else .error .truncated

/-- The residue that thirty-two little-endian bytes denote; larger numbers are
refused. -/
def residueOfWord? {p : Nat} (word : Bytes) : Except EncodingFailure (Residue p) :=
  let number := Bytes.ofLittleEndian word
  if h : number < p then .ok ⟨number, h⟩ else .error .invalidData

/-- The thirty-two little-endian bytes of a residue. -/
def residueWord {p : Nat} (a : Residue p) : Bytes :=
  Bytes.littleEndian 32 a.val

instance : BinaryEncoding Fr where
  encode := residueWord
  decode bytes := do
    let (word, _) ← takeWord bytes
    residueOfWord? word

instance : ScalarOperations Fr where
  ofNat := Residue.ofNat
  toNat := Residue.val

structure Fq2 where
  c0 : Fq
  c1 : Fq
deriving DecidableEq

namespace Fq2

instance : Zero Fq2 := ⟨⟨0, 0⟩⟩
instance : One Fq2 := ⟨⟨1, 0⟩⟩
instance : Add Fq2 := ⟨fun a b => ⟨a.c0 + b.c0, a.c1 + b.c1⟩⟩
instance : Neg Fq2 := ⟨fun a => ⟨-a.c0, -a.c1⟩⟩
instance : Sub Fq2 := ⟨fun a b => ⟨a.c0 - b.c0, a.c1 - b.c1⟩⟩

/-- The product, with three multiplications in the base field. -/
def mul (a b : Fq2) : Fq2 :=
  let low := a.c0 * b.c0
  let high := a.c1 * b.c1
  ⟨low - high, (a.c0 + a.c1) * (b.c0 + b.c1) - low - high⟩

instance : Mul Fq2 := ⟨mul⟩

/-- The square, with two multiplications in the base field. -/
def square (a : Fq2) : Fq2 :=
  let product := a.c0 * a.c1
  ⟨(a.c0 + a.c1) * (a.c0 - a.c1), product + product⟩

def scale (a : Fq2) (factor : Fq) : Fq2 :=
  ⟨a.c0 * factor, a.c1 * factor⟩

/-- The element with the sign of its `u` part changed. -/
def conjugate (a : Fq2) : Fq2 :=
  ⟨a.c0, -a.c1⟩

/-- The product with `9 + u`, of which `v` is a cube root. -/
def mulNonresidue (a : Fq2) : Fq2 :=
  ⟨9 * a.c0 - a.c1, 9 * a.c1 + a.c0⟩

instance : Inv Fq2 where
  inv a :=
    let normInverse := (a.c0 * a.c0 + a.c1 * a.c1)⁻¹
    ⟨a.c0 * normInverse, -(a.c1 * normInverse)⟩

def pow (base : Fq2) (exponent : Nat) : Fq2 :=
  composeTimes mul 1 base exponent

/-- A square root, if there is one.

With `n` a root of the norm, the real part of a root is a root of half of `c0 +
n` or of half of `c0 - n`, and the other part follows from it. -/
def sqrt? (a : Fq2) : Option Fq2 :=
  if a.c1 = 0 then
    match a.c0.sqrt? with
    | some root => some ⟨root, 0⟩
    | none => (-a.c0).sqrt?.map fun root => ⟨0, root⟩
  else do
    let norm ← (a.c0 * a.c0 + a.c1 * a.c1).sqrt?
    let half := (2 : Fq)⁻¹
    let real ← ((a.c0 + norm) * half).sqrt?.or ((a.c0 - norm) * half).sqrt?
    let root : Fq2 := ⟨real, a.c1 * half * real⁻¹⟩
    if root * root = a then some root else none

end Fq2

structure Fq6 where
  c0 : Fq2
  c1 : Fq2
  c2 : Fq2
deriving DecidableEq

namespace Fq6

instance : Zero Fq6 := ⟨⟨0, 0, 0⟩⟩
instance : One Fq6 := ⟨⟨1, 0, 0⟩⟩
instance : Add Fq6 := ⟨fun a b => ⟨a.c0 + b.c0, a.c1 + b.c1, a.c2 + b.c2⟩⟩
instance : Neg Fq6 := ⟨fun a => ⟨-a.c0, -a.c1, -a.c2⟩⟩
instance : Sub Fq6 := ⟨fun a b => ⟨a.c0 - b.c0, a.c1 - b.c1, a.c2 - b.c2⟩⟩

def mul (a b : Fq6) : Fq6 :=
  let v0 := a.c0 * b.c0
  let v1 := a.c1 * b.c1
  let v2 := a.c2 * b.c2
  ⟨v0 + ((a.c1 + a.c2) * (b.c1 + b.c2) - v1 - v2).mulNonresidue,
   (a.c0 + a.c1) * (b.c0 + b.c1) - v0 - v1 + v2.mulNonresidue,
   (a.c0 + a.c2) * (b.c0 + b.c2) - v0 - v2 + v1⟩

instance : Mul Fq6 := ⟨mul⟩

def scale (a : Fq6) (factor : Fq2) : Fq6 :=
  ⟨a.c0 * factor, a.c1 * factor, a.c2 * factor⟩

def mulSparse (a : Fq6) (b0 b1 : Fq2) : Fq6 :=
  let v0 := a.c0 * b0
  let v1 := a.c1 * b1
  ⟨v0 + (a.c2 * b1).mulNonresidue,
   (a.c0 + a.c1) * (b0 + b1) - v0 - v1,
   a.c2 * b0 + v1⟩

def mulRoot (a : Fq6) : Fq6 :=
  ⟨a.c2.mulNonresidue, a.c0, a.c1⟩

instance : Inv Fq6 where
  inv a :=
    let t0 := a.c0.square - (a.c1 * a.c2).mulNonresidue
    let t1 := a.c2.square.mulNonresidue - a.c0 * a.c1
    let t2 := a.c1.square - a.c0 * a.c2
    let inverse := (a.c0 * t0 + (a.c2 * t1 + a.c1 * t2).mulNonresidue)⁻¹
    ⟨t0 * inverse, t1 * inverse, t2 * inverse⟩

end Fq6

structure Fq12 where
  c0 : Fq6
  c1 : Fq6
deriving DecidableEq

namespace Fq12

instance : Zero Fq12 := ⟨⟨0, 0⟩⟩
instance : One Fq12 := ⟨⟨1, 0⟩⟩

/-- The product, with three multiplications in `Fq6`. -/
def mul (a b : Fq12) : Fq12 :=
  let low := a.c0 * b.c0
  let high := a.c1 * b.c1
  ⟨low + high.mulRoot, (a.c0 + a.c1) * (b.c0 + b.c1) - low - high⟩

instance : Mul Fq12 := ⟨mul⟩

def square (a : Fq12) : Fq12 :=
  let product := a.c0 * a.c1
  ⟨(a.c0 + a.c1) * (a.c0 + a.c1.mulRoot) - product - product.mulRoot, product + product⟩

/-- The element with the sign of its `w` part changed. -/
def conjugate (a : Fq12) : Fq12 :=
  ⟨a.c0, -a.c1⟩

instance : Inv Fq12 where
  inv a :=
    let inverse := (a.c0 * a.c0 - (a.c1 * a.c1).mulRoot)⁻¹
    ⟨a.c0 * inverse, -(a.c1 * inverse)⟩

def pow (base : Fq12) (exponent : Nat) : Fq12 :=
  composeTimes mul 1 base exponent

/-- The product with `a + (b + c v) w`, the shape of a line through points of
the twist. -/
def mulLine (f : Fq12) (a b c : Fq2) : Fq12 :=
  let low := f.c0.scale a
  let high := f.c1.mulSparse b c
  ⟨low + high.mulRoot, (f.c0 + f.c1).mulSparse (a + b) c - low - high⟩

/-- The power by `9 + u` to `(q - 1) / 6`, by which the Frobenius map multiplies
`w`. -/
def frobeniusFactor : Fq2 :=
  (⟨9, 1⟩ : Fq2).pow ((baseModulus - 1) / 6)

/-- The powers of the Frobenius factor from the zeroth to the fifth. -/
def frobeniusFactors : Fq2 × Fq2 × Fq2 × Fq2 × Fq2 :=
  let g1 := frobeniusFactor
  let g2 := g1 * g1
  let g3 := g2 * g1
  let g4 := g3 * g1
  (g1, g2, g3, g4, g4 * g1)

def frobenius (f : Fq12) : Fq12 :=
  let (g1, g2, g3, g4, g5) := frobeniusFactors
  ⟨⟨f.c0.c0.conjugate, f.c0.c1.conjugate * g2, f.c0.c2.conjugate * g4⟩,
   ⟨f.c1.c0.conjugate * g1, f.c1.c1.conjugate * g3, f.c1.c2.conjugate * g5⟩⟩

end Fq12

end ConfidentialToken.Bn254
