/-!
Arithmetic that is the same for scalars, for points and for words: binary digits
of numbers and powers computed with them, and sums and linear combinations of
lists.
-/

namespace ConfidentialToken

/-- The binary digits of a number, most significant first. -/
def binaryDigits (number : Nat) : List Bool :=
  (List.range (number.log2 + 1)).reverse.map number.testBit

/-- The bit of a word at an index; indices beyond the word have no bit set. -/
def bit (word : UInt64) (index : Nat) : Bool :=
  word.toNat.testBit index

/-- The base composed with itself `count` times, by squaring. -/
@[specialize]
def composeTimes {α : Type} (compose : α → α → α) (unit base : α) (count : Nat) : α :=
  (binaryDigits count).foldl
    (fun power digit =>
      let square := compose power power
      if digit then compose square base else square)
    unit

def power {F : Type} [One F] [Mul F] (base : F) (exponent : Nat) : F :=
  composeTimes (· * ·) 1 base exponent

def sum {G : Type} [Zero G] [Add G] (elements : List G) : G :=
  elements.foldl (· + ·) 0

/-- The sum of the bases, each multiplied by its factor. The shorter list
decides how many count. -/
def linearCombination {F G : Type} [Zero G] [Add G] [SMul F G] (bases : List G)
    (factors : List F) : G :=
  sum (List.zipWith (fun base factor => factor • base) bases factors)

/-- The sum of the products of corresponding elements. -/
def dotProduct {F : Type} [Zero F] [Add F] [Mul F] (left right : List F) : F :=
  sum (List.zipWith (· * ·) left right)

/-- The first `count` terms of the geometric sequence with the given start and
ratio. -/
def geometric {F : Type} [Mul F] (ratio : F) : (count : Nat) → (start : F) → List F
  | 0, _ => []
  | count + 1, start => start :: geometric ratio count (start * ratio)

/-- The first `count` powers of a scalar, from the zeroth on. -/
def powers {F : Type} [One F] [Mul F] (base : F) (count : Nat) : List F :=
  geometric base count 1

end ConfidentialToken
