import Mathlib.Algebra.Group.Nat.Defs
import ConfidentialToken.Bn254.Field
import ConfidentialToken.Proofs.Encoding

/-!
Scalars of BN254 are decoded as they were encoded, and all encodings have one
length.
-/

namespace ConfidentialToken

theorem Bytes.ofLittleEndian_littleEndian {width number : Nat}
    (bound : number < 256 ^ width) :
    ofLittleEndian (littleEndian width number) = number := by
  induction width generalizing number with
  | zero =>
      have zero : number = 0 := by simpa using bound
      rw [zero]
      rfl
  | succ width inductionHypothesis =>
      have higher : number >>> 8 < 256 ^ width := by
        rw [Nat.shiftRight_eq_div_pow]
        exact Nat.div_lt_of_lt_mul (by rwa [Nat.pow_succ, Nat.mul_comm] at bound)
      rw [littleEndian, ofLittleEndian, inductionHypothesis higher, Nat.shiftLeft_eq,
        Nat.shiftRight_eq_div_pow, UInt8.toNat_ofNat']
      omega

/-- Bytes are the ones in which the number that they denote is written. -/
theorem Bytes.littleEndian_ofLittleEndian (bytes : Bytes) :
    littleEndian bytes.length (ofLittleEndian bytes) = bytes := by
  induction bytes with
  | nil => rfl
  | cons byte bytes inductionHypothesis =>
      have bound := byte.toNat_lt
      have lowest : UInt8.ofNat (ofLittleEndian (byte :: bytes)) = byte := by
        apply UInt8.toNat_inj.mp
        rw [UInt8.toNat_ofNat', ofLittleEndian, Nat.shiftLeft_eq]
        omega
      have higher : ofLittleEndian (byte :: bytes) >>> 8 = ofLittleEndian bytes := by
        rw [Nat.shiftRight_eq_div_pow, ofLittleEndian, Nat.shiftLeft_eq]
        omega
      rw [List.length_cons, littleEndian, lowest, higher, inductionHypothesis]

theorem Bytes.littleEndian_succ_eq_append (width number : Nat) :
    littleEndian (width + 1) number =
      littleEndian width number ++ [UInt8.ofNat (number >>> (8 * width))] := by
  induction width generalizing number with
  | zero => rfl
  | succ width inductionHypothesis =>
      have shift : number >>> 8 >>> (8 * width) = number >>> (8 * (width + 1)) := by
        rw [← Nat.shiftRight_add, Nat.mul_succ, Nat.add_comm]
      rw [littleEndian, inductionHypothesis, shift]
      rfl

namespace Bn254

theorem residueOfWord?_residueWord {p : Nat} (small : p ≤ 256 ^ 32) (a : Residue p) :
    residueOfWord? (residueWord a) = .ok a := by
  have number : Bytes.ofLittleEndian (residueWord a) = a.val :=
    Bytes.ofLittleEndian_littleEndian (Nat.lt_of_lt_of_le a.isLt small)
  simp only [residueOfWord?, number, dif_pos a.isLt]

/-- A word of the right length is read as the residue that is written with
it. -/
theorem residueOfWord?_eq_ok {p : Nat} (small : p ≤ 256 ^ 32) {word : Bytes}
    {a : Residue p} (length : word.length = 32) :
    residueOfWord? word = .ok a ↔ residueWord a = word := by
  constructor
  · intro read
    simp only [residueOfWord?] at read
    split at read
    · cases read
      rw [residueWord, ← length]
      exact Bytes.littleEndian_ofLittleEndian word
    · cases read
  · rintro rfl
    exact residueOfWord?_residueWord small a

theorem takeWord_eq_ok {bytes word rest : Bytes} :
    takeWord bytes = .ok (word, rest) ↔ word.length = 32 ∧ bytes = word ++ rest := by
  simp only [takeWord]
  split
  case isTrue length =>
    constructor
    · rintro ⟨⟩
      exact ⟨length, (List.take_append_drop 32 bytes).symm⟩
    · rintro ⟨wordLength, rfl⟩
      rw [List.take_left' wordLength, List.drop_left' wordLength]
  case isFalse short =>
    refine iff_of_false nofun ?_
    rintro ⟨wordLength, rfl⟩
    exact short (by rw [List.take_left' wordLength, wordLength])

theorem takeWord_residueWord {p : Nat} (a : Residue p) (rest : Bytes) :
    takeWord (residueWord a ++ rest) = .ok (residueWord a, rest) :=
  takeWord_eq_ok.mpr ⟨Bytes.length_littleEndian 32 a.val, rfl⟩

/-- A scalar is decoded as it was encoded. -/
theorem decodeElement_encode_scalar (scalar : Fr) :
    decodeElement (encode scalar) = .ok scalar := by
  have word := takeWord_residueWord scalar []
  rw [List.append_nil] at word
  have residue := residueOfWord?_residueWord (p := scalarModulus) (by decide) scalar
  simp only [decodeElement, BinaryEncoding.decode, encode, word, residue, bind,
    Except.bind]

theorem residueWord_injective {p : Nat} (small : p ≤ 256 ^ 32) {a b : Residue p}
    (equal : residueWord a = residueWord b) : a = b := by
  have numbers := congrArg (residueOfWord? (p := p)) equal
  rw [residueOfWord?_residueWord small, residueOfWord?_residueWord small] at numbers
  exact Except.ok.inj numbers

instance : FixedWidthEncoding Fr where
  width := 32
  length_encode scalar := Bytes.length_littleEndian 32 scalar.val
  encode_injective _ _ := residueWord_injective (by decide)

instance : FaithfulEncoding Fr where
  decode_encode := decodeElement_encode_scalar
  encode_ne_nil scalar := List.ne_nil_of_length_pos (by
    rw [FixedWidthEncoding.length_encode]
    exact Nat.succ_pos 31)

end Bn254

end ConfidentialToken
