import Mathlib.Data.Nat.Log
import Mathlib.Tactic.IntervalCases
import ConfidentialToken.Json.Number

/-!
Numbers are read as they are written.

A natural number that fits into a word is written in decimal digits without a
leading zero, far within the range of double precision. What follows it must not
continue it.
-/

namespace ConfidentialToken.Json

/-- A number that ends before the bytes is not continued by them. -/
def EndsNumber (rest : Bytes) : Prop :=
  ∀ byte ∈ rest.head?, isDigit byte = false ∧ byte ≠ 0x2e ∧ byte ≠ 0x65 ∧ byte ≠ 0x45

def decimalDigit (number : Nat) : UInt8 :=
  UInt8.ofNat (Nat.digitChar number).toNat

theorem decimalDigit_spec {number : Nat} (bound : number < 10) :
    isDigit (decimalDigit number) = true ∧ (decimalDigit number).toNat - 0x30 = number ∧
      (decimalDigit number = 0x30 ↔ number = 0) := by
  interval_cases number <;> decide

theorem renderNatural_eq (number : Nat) :
    renderNatural number =
      if number < 10 then [decimalDigit number]
      else renderNatural (number / 10) ++ [decimalDigit (number % 10)] := by
  rw [renderNatural, Nat.toDigits_eq_if (by decide)]
  split
  · rfl
  · rw [List.map_append]
    rfl

theorem isDigit_renderNatural (number : Nat) :
    ∀ byte ∈ renderNatural number, isDigit byte = true := by
  induction number using Nat.strongRecOn with
  | ind number inductionHypothesis =>
      intro byte membership
      rw [renderNatural_eq] at membership
      split at membership
      · rw [List.mem_singleton] at membership
        rw [membership]
        exact (decimalDigit_spec ‹_›).1
      · rcases List.mem_append.mp membership with leading | last
        · exact inductionHypothesis (number / 10) (by omega) byte leading
        · rw [List.mem_singleton] at last
          rw [last]
          exact (decimalDigit_spec (Nat.mod_lt number (by decide))).1

theorem decimalValue_append (digits : Bytes) (digit : UInt8) :
    decimalValue (digits ++ [digit]) =
      10 * decimalValue digits + (digit.toNat - 0x30) := by
  rw [decimalValue, List.foldl_append]
  rfl

theorem decimalValue_renderNatural (number : Nat) :
    decimalValue (renderNatural number) = number := by
  induction number using Nat.strongRecOn with
  | ind number inductionHypothesis =>
      rw [renderNatural_eq]
      split
      · rename_i bound
        simpa [decimalValue] using (decimalDigit_spec bound).2.1
      · rw [decimalValue_append, inductionHypothesis (number / 10) (by omega),
          (decimalDigit_spec (Nat.mod_lt number (by decide))).2.1]
        omega

/-- Only zero is written with a zero in front, and alone. -/
theorem renderNatural_cons (number : Nat) :
    ∃ first rest, renderNatural number = first :: rest ∧ (first = 0x30 → number = 0) := by
  induction number using Nat.strongRecOn with
  | ind number inductionHypothesis =>
      rw [renderNatural_eq]
      split
      · exact ⟨decimalDigit number, [], rfl, (decimalDigit_spec ‹_›).2.2.mp⟩
      · obtain ⟨first, rest, written, leading⟩ :=
          inductionHypothesis (number / 10) (by omega)
        refine ⟨first, rest ++ [decimalDigit (number % 10)], by
          rw [written]; rfl, fun zero => ?_⟩
        have := leading zero
        omega

theorem takeWhile_isDigit {digits rest : Bytes}
    (all : ∀ byte ∈ digits, isDigit byte = true) (ends : EndsNumber rest) :
    (digits ++ rest).takeWhile isDigit = digits ∧
      (digits ++ rest).dropWhile isDigit = rest := by
  have stops : rest.takeWhile isDigit = [] ∧ rest.dropWhile isDigit = rest := by
    cases rest with
    | nil => exact ⟨rfl, rfl⟩
    | cons byte rest =>
        have noDigit := (ends byte rfl).1
        exact ⟨List.takeWhile_cons_of_neg (by simp [noDigit]),
          List.dropWhile_cons_of_neg (by simp [noDigit])⟩
  rw [List.takeWhile_append_of_pos all, List.dropWhile_append_of_pos all, stops.1,
    stops.2, List.append_nil]
  exact ⟨rfl, rfl⟩

theorem whole?_renderNatural (number : Nat) {rest : Bytes} (ends : EndsNumber rest) :
    whole? (renderNatural number ++ rest) = some (renderNatural number, rest) := by
  obtain ⟨first, others, written, leading⟩ := renderNatural_cons number
  have digits :
      digits? (renderNatural number ++ rest) = some (renderNatural number, rest) := by
    obtain ⟨taken, dropped⟩ := takeWhile_isDigit (isDigit_renderNatural number) ends
    rw [digits?, taken, dropped, written]
    rfl
  by_cases zero : first = 0x30
  · rw [leading zero]
    rfl
  · rw [written] at digits ⊢
    rw [List.cons_append, whole?]
    · exact digits
    · simpa using zero

/-- The number that digits after those of another number denote. -/
def appendAll (number : Nat) (digits : Bytes) : Nat :=
  digits.foldl (fun number digit => 10 * number + (digit.toNat - 0x30)) number

theorem le_appendAll (number : Nat) (digits : Bytes) :
    number ≤ appendAll number digits := by
  induction digits generalizing number with
  | nil => exact Nat.le_refl number
  | cons digit digits inductionHypothesis =>
      exact Nat.le_trans (by omega)
        (inductionHypothesis (10 * number + (digit.toNat - 0x30)))

/-- No digit is left over where the whole number fits into a word. -/
theorem appendDigits_eq {number : Nat} {digits : Bytes}
    (fits : appendAll number digits < UInt64.size) :
    appendDigits number digits = (appendAll number digits, 0) := by
  induction digits generalizing number with
  | nil => rfl
  | cons digit digits inductionHypothesis =>
      rw [appendDigits, if_pos (Nat.lt_of_le_of_lt (le_appendAll _ digits) fits)]
      exact inductionHypothesis fits

theorem roundToDouble_le (number : Nat) : roundToDouble number ≤ 2 * number := by
  rcases Nat.eq_zero_or_pos number with zero | positive
  · rw [zero]
    decide
  · have unit_le : 2 ^ (number.log2 + 1 - 53) ≤ number :=
      Nat.le_trans (Nat.pow_le_pow_right (by decide) (by omega))
        (Nat.log2_self_le (Nat.ne_of_gt positive))
    have quotient_le := Nat.div_mul_le_self number (2 ^ (number.log2 + 1 - 53))
    simp only [roundToDouble, Nat.pow_eq]
    split
    · rw [Nat.add_mul, Nat.one_mul]
      omega
    · omega

/-- A word stays far within the range of double precision. -/
theorem roundToDouble_lt {number limit : Nat} (fits : number < UInt64.size)
    (wide : 66 < limit) :
    roundToDouble (roundToDouble number * 1) < Nat.pow 2 limit := by
  have inner := roundToDouble_le number
  calc
    roundToDouble (roundToDouble number * 1) ≤ 2 * (roundToDouble number * 1) :=
      roundToDouble_le _
    _ ≤ 4 * UInt64.size := by omega
    _ ≤ Nat.pow 2 66 := by decide
    _ < Nat.pow 2 limit := Nat.pow_lt_pow_right (by decide) wide

theorem exceedsRange_renderNatural {number : Nat} (fits : number < UInt64.size) :
    exceedsRange (renderNatural number) [] 0 = false := by
  have value : appendAll 0 (renderNatural number) = number :=
    decimalValue_renderNatural number
  have whole : appendDigits 0 (renderNatural number) = (number, 0) := by
    rw [appendDigits_eq (by rwa [value]), value]
  have one : roundToDouble (Nat.pow 10 0) = 1 := by decide
  have places : (0 : Int) + (0 : Nat) + (0 : Nat) - (([] : Bytes).length : Nat) = 0 := rfl
  simp only [exceedsRange, whole, appendDigits, places, Int.toNat_zero, one]
  split
  · rfl
  · split
    · rename_i far
      exact absurd far (by decide)
    · rw [decide_eq_false_iff_not, Nat.not_le]
      exact roundToDouble_lt fits (by decide)

/-- A number is read as it is written. -/
theorem readNumber_renderNatural {number : Nat} (fits : number < UInt64.size)
    {rest : Bytes} (ends : EndsNumber rest) :
    readNumber (renderNatural number ++ rest) = some (.natural number, rest) := by
  have unsigned : readUnsigned false (renderNatural number ++ rest) =
      some (.natural number, rest) := by
    have fraction : fraction? rest = some ([], rest) := by
      unfold fraction?
      split
      · exact absurd rfl (ends 0x2e rfl).2.1
      · rfl
    have exponent : exponent? rest = some (none, rest) := by
      cases rest with
      | nil => rfl
      | cons mark rest =>
          obtain ⟨-, -, small, capital⟩ := ends mark rfl
          unfold exponent?
          exact if_neg (not_or.mpr ⟨small, capital⟩)
    simp [readUnsigned, whole?_renderNatural number ends, fraction, exponent,
      exceedsRange_renderNatural fits, decimalValue_renderNatural]
  obtain ⟨first, others, written, -⟩ := renderNatural_cons number
  have digit : isDigit first = true :=
    isDigit_renderNatural number first (by simp [written])
  rw [written] at unsigned ⊢
  rw [List.cons_append, readNumber]
  · exact unsigned
  · rintro following ⟨rfl, -⟩
    exact absurd digit (by decide)

end ConfidentialToken.Json
