import Mathlib.FieldTheory.Finite.Basic
import ConfidentialToken.Residue

/-!
Residues are the integers modulo a number, and modulo a prime they are a field.

The power that the binary digits of an exponent compute is the power of algebra,
so that the powers of Fermat's theorem are inverses.
-/

namespace ConfidentialToken

/-- The number whose digits follow those of another one. -/
def appendDigits (number : Nat) (digits : List Bool) : Nat :=
  digits.foldl (fun number digit => 2 * number + digit.toNat) number

theorem appendDigits_range (number : Nat) (count start : Nat) :
    appendDigits start ((List.range count).reverse.map number.testBit) =
      start * 2 ^ count + number % 2 ^ count := by
  induction count generalizing start with
  | zero => simp [appendDigits, Nat.mod_one]
  | succ count inductionHypothesis =>
      have step :
        appendDigits start ((List.range (count + 1)).reverse.map number.testBit) =
          appendDigits (2 * start + (number.testBit count).toNat)
            ((List.range count).reverse.map number.testBit) := by
        rw [List.range_succ, List.reverse_append]
        rfl
      rw [step, inductionHypothesis, Nat.mod_pow_succ, Nat.toNat_testBit, pow_succ]
      ring

/-- A number is the one that its binary digits denote. -/
theorem appendDigits_binaryDigits (number : Nat) :
    appendDigits 0 (binaryDigits number) = number := by
  rw [binaryDigits, appendDigits_range, zero_mul, zero_add]
  exact Nat.mod_eq_of_lt Nat.lt_log2_self

/-- Composition by squaring computes the power. -/
theorem composeTimes_eq_pow {M : Type} [Monoid M] (base : M) (count : Nat) :
    composeTimes (· * ·) 1 base count = base ^ count := by
  have powers (digits : List Bool) (exponent : Nat) :
      digits.foldl (fun power digit =>
        if digit then power * power * base else power * power) (base ^ exponent) =
        base ^ appendDigits exponent digits := by
    induction digits generalizing exponent with
    | nil => rfl
    | cons digit digits inductionHypothesis =>
        have next : (if digit then base ^ exponent * base ^ exponent * base
            else base ^ exponent * base ^ exponent) =
              base ^ (2 * exponent + digit.toNat) := by
          cases digit <;> simp [pow_add, two_mul]
        rw [List.foldl_cons, next, inductionHypothesis]
        rfl
  have computed := powers (binaryDigits count) 0
  rwa [pow_zero, appendDigits_binaryDigits] at computed

/-- Composition by squaring commutes with a map that respects the
composition. -/
theorem map_composeTimes {α β : Type} (convert : α → β) (compose : α → α → α)
    (target : β → β → β)
    (respects : ∀ a b, convert (compose a b) = target (convert a) (convert b))
    (unit base : α) (count : Nat) :
    convert (composeTimes compose unit base count) =
      composeTimes target (convert unit) (convert base) count := by
  unfold composeTimes
  induction binaryDigits count generalizing unit with
  | nil => rfl
  | cons digit digits inductionHypothesis =>
      rw [List.foldl_cons, List.foldl_cons, inductionHypothesis]
      cases digit <;> simp [respects]

namespace Residue

variable {p : Nat}

/-- The integer modulo `p` that a residue represents. -/
def toZMod (a : Residue p) : ZMod p :=
  (a.val : ZMod p)

theorem ext {a b : Residue p} (equal : a.val = b.val) : a = b := by
  cases a
  cases b
  cases equal
  rfl

theorem toZMod_injective : Function.Injective (toZMod : Residue p → ZMod p) := by
  intro a b equal
  have congruent := (ZMod.natCast_eq_natCast_iff' a.val b.val p).mp equal
  rw [Nat.mod_eq_of_lt a.isLt, Nat.mod_eq_of_lt b.isLt] at congruent
  exact ext congruent

theorem val_add (a b : Residue p) : (a + b).val = (a.val + b.val) % p := by
  have left := a.isLt
  have right := b.isLt
  by_cases small : a.val + b.val < p
  · rw [Nat.mod_eq_of_lt small]
    exact congrArg val (dif_pos small)
  · rw [Nat.mod_eq_sub_mod (by omega), Nat.mod_eq_of_lt (by omega)]
    exact congrArg val (dif_neg small)

theorem val_mul (a b : Residue p) : (a * b).val = a.val * b.val % p := rfl

theorem val_neg (a : Residue p) : (-a).val = (p - a.val) % p := by
  have bound := a.isLt
  by_cases zero : a.val = 0
  · have same : (-a).val = a.val := congrArg val (dif_pos zero)
    rw [same, zero, Nat.sub_zero, Nat.mod_self]
  · rw [Nat.mod_eq_of_lt (by omega)]
    exact congrArg val (dif_neg zero)

theorem val_sub (a b : Residue p) : (a - b).val = (a.val + (p - b.val)) % p := by
  have left := a.isLt
  have right := b.isLt
  by_cases less : b.val ≤ a.val
  · have difference : (a - b).val = a.val - b.val := congrArg val (dif_pos less)
    rw [difference, Nat.mod_eq_sub_mod (by omega), Nat.mod_eq_of_lt (by omega)]
    omega
  · have difference : (a - b).val = a.val + p - b.val := congrArg val (dif_neg less)
    rw [difference, Nat.mod_eq_of_lt (by omega)]
    omega

theorem neg_add_self [Modulus p] (a : Residue p) : -a + a = 0 := by
  apply ext
  rw [val_add, val_neg, Nat.mod_add_mod, Nat.sub_add_cancel a.isLt.le, Nat.mod_self]
  exact (Nat.zero_mod p).symm

theorem sub_eq (a b : Residue p) : a - b = a + -b := by
  apply ext
  rw [val_sub, val_add, val_neg, Nat.add_mod_mod]

@[simp]
theorem toZMod_add (a b : Residue p) : toZMod (a + b) = toZMod a + toZMod b := by
  simp [toZMod, val_add]

@[simp]
theorem toZMod_neg (a : Residue p) : toZMod (-a) = -toZMod a := by
  rw [toZMod, val_neg, ZMod.natCast_mod, Nat.cast_sub a.isLt.le, ZMod.natCast_self,
    zero_sub, toZMod]

@[simp]
theorem toZMod_sub (a b : Residue p) : toZMod (a - b) = toZMod a - toZMod b := by
  rw [sub_eq, toZMod_add, toZMod_neg, sub_eq_add_neg]

@[simp]
theorem toZMod_mul (a b : Residue p) : toZMod (a * b) = toZMod a * toZMod b := by
  simp [toZMod, val_mul]

variable [Modulus p]

theorem val_ofNat (number : Nat) : (ofNat number : Residue p).val = number % p := rfl

@[simp]
theorem toZMod_zero : toZMod (0 : Residue p) = 0 := by
  change ((0 % p : Nat) : ZMod p) = 0
  simp

@[simp]
theorem toZMod_one : toZMod (1 : Residue p) = 1 := by
  change ((1 % p : Nat) : ZMod p) = 1
  simp

theorem toZMod_eq_zero {a : Residue p} : toZMod a = 0 ↔ a = 0 := by
  rw [← toZMod_zero, toZMod_injective.eq_iff]

theorem neg_eq_zero_iff {a : Residue p} : -a = 0 ↔ a = 0 := by
  rw [← toZMod_eq_zero, toZMod_neg, neg_eq_zero, toZMod_eq_zero]

@[simp]
theorem toZMod_pow (a : Residue p) (exponent : Nat) :
    toZMod (a.pow exponent) = toZMod a ^ exponent := by
  rw [← composeTimes_eq_pow, ← toZMod_one]
  exact map_composeTimes toZMod mul (· * ·) toZMod_mul 1 a exponent

theorem mul_inv_self (prime : p.Prime) (a : Residue p) (nonzero : a ≠ 0) :
    a * a⁻¹ = 1 := by
  have : Fact p.Prime := ⟨prime⟩
  have unit : toZMod a ≠ 0 := mt toZMod_eq_zero.mp nonzero
  apply toZMod_injective
  change toZMod (a * a.pow (p - 2)) = toZMod 1
  have exponent : p - 2 + 1 = p - 1 := by
    have := prime.two_le
    omega
  rw [toZMod_mul, toZMod_pow, ← pow_succ', exponent, toZMod_one]
  exact ZMod.pow_card_sub_one_eq_one unit

theorem inv_zero (large : 2 < p) : (0 : Residue p)⁻¹ = 0 := by
  apply toZMod_injective
  change toZMod ((0 : Residue p).pow (p - 2)) = toZMod 0
  rw [toZMod_pow, toZMod_zero, zero_pow (by omega)]

end Residue

end ConfidentialToken
