import ConfidentialToken.Bn254.Field

/-!
The two curves `y² = x³ + b` of BN254: their points, the group law and the
compressed encoding.

Points are kept in affine coordinates, so that equal points are equal values. A
multiple is computed in Jacobian coordinates and brought back by one inversion
at the end.
-/

namespace ConfidentialToken.Bn254

/-- The field operations that the curve formulas need. -/
class CoordinateField (F : Type) extends Zero F, One F, Add F, Neg F, Sub F, Mul F,
Inv F where
  square : F → F

instance : CoordinateField Fq where
  square a := a * a

instance : CoordinateField Fq2 where
  square := Fq2.square

/-- A point of a curve over the field `F`. -/
inductive Point (F : Type) where
  | infinity
  | affine (x y : F)
deriving DecidableEq

/-- A point with the coordinates `x / z²` and `y / z³`, at infinity when `z` is
zero. -/
structure Jacobian (F : Type) where
  x : F
  y : F
  z : F

namespace Jacobian

variable {F : Type} [CoordinateField F] [DecidableEq F]

open CoordinateField (square)

def infinity : Jacobian F :=
  ⟨1, 1, 0⟩

def ofPoint : Point F → Jacobian F
  | .infinity => infinity
  | .affine x y => ⟨x, y, 1⟩

/-- The point with these coordinates, by one inversion. -/
@[specialize]
def toPoint (p : Jacobian F) : Point F :=
  if p.z = 0 then .infinity
  else
    let inverse := p.z⁻¹
    let inverseSquare := square inverse
    .affine (p.x * inverseSquare) (p.y * (inverseSquare * inverse))

@[specialize]
def double (p : Jacobian F) : Jacobian F :=
  let a := square p.x
  let b := square p.y
  let c := square b
  let d := square (p.x + b) - a - c
  let d := d + d
  let e := a + a + a
  let x := square e - (d + d)
  let c2 := c + c
  let c4 := c2 + c2
  let yz := p.y * p.z
  ⟨x, e * (d - x) - (c4 + c4), yz + yz⟩

@[specialize]
def add (p q : Jacobian F) : Jacobian F :=
  if p.z = 0 then q
  else if q.z = 0 then p
  else
    let pz2 := square p.z
    let qz2 := square q.z
    let u1 := p.x * qz2
    let u2 := q.x * pz2
    let s1 := p.y * (q.z * qz2)
    let s2 := q.y * (p.z * pz2)
    let h := u2 - u1
    let r := s2 - s1
    if h = 0 then
      if r = 0 then double p else infinity
    else
      let h2 := square h
      let h3 := h * h2
      let v := u1 * h2
      let x := square r - h3 - (v + v)
      ⟨x, r * (v - x) - s1 * h3, p.z * q.z * h⟩

/-- The multiples of a point by the numbers below sixteen. -/
@[specialize]
def smallMultiples (p : Jacobian F) : Array (Jacobian F) :=
  (List.range 15).foldl (fun table k => table.push (add (table.getD k infinity) p))
    #[infinity]

/-- The multiple of a point by a natural number, four binary digits at a
time. -/
@[specialize]
def multiple (count : Nat) (p : Jacobian F) : Jacobian F :=
  let table := smallMultiples p
  (List.range (count.log2 / 4 + 1)).reverse.foldl
    (fun partialMultiple k =>
      let shifted := double (double (double (double partialMultiple)))
      let digit := (count >>> (4 * k)) % 16
      if digit = 0 then shifted else add shifted (table.getD digit infinity))
    infinity

end Jacobian

namespace Point

variable {F : Type} [CoordinateField F] [DecidableEq F]

open CoordinateField (square)

instance : Zero (Point F) := ⟨.infinity⟩

def neg : Point F → Point F
  | .infinity => .infinity
  | .affine x y => .affine x (-y)

/-- The third point of the line of the given slope through two points,
reflected. -/
def chord (slope x1 y1 x2 : F) : Point F :=
  let x := square slope - x1 - x2
  .affine x (slope * (x1 - x) - y1)

@[specialize]
def add : Point F → Point F → Point F
  | .infinity, q => q
  | p, .infinity => p
  | .affine x1 y1, .affine x2 y2 =>
      if x1 = x2 then
        if y1 = y2 then
          if y1 = 0 then .infinity
          else
            let a := square x1
            chord ((a + a + a) * (y1 + y1)⁻¹) x1 y1 x2
        else .infinity
      else chord ((y2 - y1) * (x2 - x1)⁻¹) x1 y1 x2

@[specialize]
def multiple (count : Nat) (p : Point F) : Point F :=
  (Jacobian.multiple count (.ofPoint p)).toPoint

instance : Add (Point F) := ⟨add⟩
instance : Neg (Point F) := ⟨neg⟩
instance : Sub (Point F) := ⟨fun p q => p + -q⟩
instance : SMul Fr (Point F) := ⟨fun factor p => multiple factor.val p⟩

instance : GroupOperations Fr (Point F) where

end Point

/-- The first source group: points over the base field. -/
abbrev G1 := Point Fq

abbrev G2 := Point Fq2

def g1Constant : Fq := 3

def g2Constant : Fq2 := ⟨3, 0⟩ * (⟨9, 1⟩ : Fq2)⁻¹

/-- Whether an element of the base field is larger than its additive inverse. -/
def Fq.isLarger (y : Fq) : Bool :=
  (-y).val < y.val

/-- Whether an element is larger than its additive inverse, `u` parts being
compared first. -/
def Fq2.isLarger (y : Fq2) : Bool :=
  if y.c1 = 0 then Fq.isLarger y.c0 else Fq.isLarger y.c1

/-- The point of the first curve with the given first coordinate and the larger
or smaller second. -/
def G1.withX? (x : Fq) (larger : Bool) : Option G1 :=
  (x * x * x + g1Constant).sqrt?.map fun root =>
    .affine x (if Fq.isLarger root = larger then root else -root)

/-- The point of the second curve with the given first coordinate and the larger
or smaller second. -/
def G2.withX? (x : Fq2) (larger : Bool) : Option G2 :=
  (x.square * x + g2Constant).sqrt?.map fun root =>
    .affine x (if Fq2.isLarger root = larger then root else -root)

/-- Whether a point of the second curve has the order of the groups. -/
def G2.inSubgroup (p : G2) : Bool :=
  p.multiple scalarModulus = .infinity

/-- What the two top bits of the last byte of an encoded point say. -/
inductive PointFlag where
  | infinity
  | finite (larger : Bool)

def PointFlag.bits : PointFlag → UInt8
  | .infinity => 0x40
  | .finite larger => if larger then 0x80 else 0

/-- Splits the last of thirty-two bytes into the flag and the remaining bits. -/
def splitFlag (word : Bytes) : Except EncodingFailure (PointFlag × Bytes) :=
  let top := word.getLast?.getD 0
  let masked := word.dropLast ++ [top &&& 0x3f]
  match (top &&& 0x80 != 0 : Bool), (top &&& 0x40 != 0 : Bool) with
  | true, true => .error .unexpectedFlags
  | false, true => .ok (.infinity, masked)
  | larger, false => .ok (.finite larger, masked)

def joinFlag (flag : PointFlag) (word : Bytes) : Bytes :=
  word.dropLast ++ [word.getLast?.getD 0 ||| flag.bits]

def pointOrInvalid {α : Type} : Option α → Except EncodingFailure α
  | some point => .ok point
  | none => .error .invalidData

/-- The compressed encoding of a point of the first curve. -/
def G1.encode : G1 → Bytes
  | .infinity => joinFlag .infinity (residueWord (0 : Fq))
  | .affine x y => joinFlag (.finite (Fq.isLarger y)) (residueWord x)

def G1.decode (bytes : Bytes) : Except EncodingFailure G1 := do
  let (word, _) ← takeWord bytes
  let (flag, word) ← splitFlag word
  let x ← residueOfWord? word
  match flag with
  | .infinity => .ok .infinity
  | .finite larger => pointOrInvalid (G1.withX? x larger)

/-- The compressed encoding of a point of the second curve. -/
def G2.encode : G2 → Bytes
  | .infinity => residueWord (0 : Fq) ++ joinFlag .infinity (residueWord (0 : Fq))
  | .affine x y =>
      residueWord x.c0 ++ joinFlag (.finite (Fq2.isLarger y)) (residueWord x.c1)

/-- Reads a point of the second curve and checks its order. -/
def G2.decode (bytes : Bytes) : Except EncodingFailure G2 := do
  let (word, bytes) ← takeWord bytes
  let c0 ← residueOfWord? word
  let (word, _) ← takeWord bytes
  let (flag, word) ← splitFlag word
  let c1 ← residueOfWord? word
  match flag with
  | .infinity => .ok .infinity
  | .finite larger =>
      let point ← pointOrInvalid (G2.withX? ⟨c0, c1⟩ larger)
      if point.inSubgroup then .ok point else .error .invalidData

instance : BinaryEncoding G1 where
  encode := G1.encode
  decode := G1.decode

instance : BinaryEncoding G2 where
  encode := G2.encode
  decode := G2.decode

end ConfidentialToken.Bn254
