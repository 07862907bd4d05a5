import ConfidentialToken.Arithmetic

/-!
Integers modulo a fixed number, held as least non-negative representatives.

The inverse is the power prescribed by Fermat's theorem, so it inverts when the
modulus is prime, and the inverse of zero is zero.
-/

namespace ConfidentialToken

/-- A number that residues are taken modulo. -/
class Modulus (p : Nat) : Prop where
  pos : 0 < p

structure Residue (p : Nat) where
  /-- The least non-negative representative. -/
  val : Nat
  isLt : val < p
deriving DecidableEq

namespace Residue

variable {p : Nat}

@[inline]
def ofNat [Modulus p] (number : Nat) : Residue p :=
  ⟨number % p, Nat.mod_lt _ Modulus.pos⟩

instance [Modulus p] : Zero (Residue p) := ⟨ofNat 0⟩

instance [Modulus p] : One (Residue p) := ⟨ofNat 1⟩

instance [Modulus p] (number : Nat) : OfNat (Residue p) number := ⟨ofNat number⟩

/-- The sum; one subtraction brings it below the modulus. -/
@[inline]
def add (a b : Residue p) : Residue p :=
  let sum := a.val + b.val
  if h : sum < p then ⟨sum, h⟩
  else ⟨sum - p, by have := a.isLt; have := b.isLt; omega⟩

@[inline]
def neg (a : Residue p) : Residue p :=
  if h : a.val = 0 then a
  else ⟨p - a.val, by have := a.isLt; omega⟩

@[inline]
def sub (a b : Residue p) : Residue p :=
  if h : b.val ≤ a.val then ⟨a.val - b.val, by have := a.isLt; omega⟩
  else ⟨a.val + p - b.val, by have := a.isLt; omega⟩

@[inline]
def mul (a b : Residue p) : Residue p :=
  ⟨a.val * b.val % p, Nat.mod_lt _ (Nat.lt_of_le_of_lt (Nat.zero_le _) a.isLt)⟩

instance : Add (Residue p) := ⟨add⟩
instance : Neg (Residue p) := ⟨neg⟩
instance : Sub (Residue p) := ⟨sub⟩
instance : Mul (Residue p) := ⟨mul⟩

def pow [Modulus p] (base : Residue p) (exponent : Nat) : Residue p :=
  composeTimes mul 1 base exponent

instance [Modulus p] : Inv (Residue p) := ⟨fun a => a.pow (p - 2)⟩

/-- A square root modulo a prime that leaves three when divided by four, if
there is one. -/
def sqrt? [Modulus p] (a : Residue p) : Option (Residue p) :=
  let root := a.pow ((p + 1) / 4)
  if root * root = a then some root else none

end Residue

end ConfidentialToken
