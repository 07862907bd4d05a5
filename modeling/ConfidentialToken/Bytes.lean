/-!
Byte strings and the fixed-width integers written in them.

A byte string is a list, so that encodings compose by `++` and are reasoned
about by induction.
-/

namespace ConfidentialToken

abbrev Bytes := List UInt8

namespace Bytes

def ofText (text : String) : Bytes :=
  text.toByteArray.data.toList

/-- The text that the bytes encode in UTF-8, if they encode one. -/
def toText? (bytes : Bytes) : Option String :=
  String.fromUTF8? ⟨bytes.toArray⟩

/-- The low `width` bytes of a number, least significant first. -/
def littleEndian : (width : Nat) → Nat → Bytes
  | 0, _ => []
  | width + 1, number => UInt8.ofNat number :: littleEndian width (number >>> 8)

/-- The low `width` bytes of a number, most significant first. -/
def bigEndian (width number : Nat) : Bytes :=
  (littleEndian width number).reverse

/-- The number whose bytes, least significant first, are given. -/
def ofLittleEndian : Bytes → Nat
  | [] => 0
  | byte :: bytes => byte.toNat + (ofLittleEndian bytes <<< 8)

/-- The number whose bytes, most significant first, are given. -/
def ofBigEndian (bytes : Bytes) : Nat :=
  bytes.foldl (fun number byte => (number <<< 8) + byte.toNat) 0

/-- Whether `left` comes before `right` in lexicographic order, or equals it. -/
def lexLe : (left right : Bytes) → Bool
  | [], _ => true
  | _ :: _, [] => false
  | a :: left, b :: right => a < b || (a == b && lexLe left right)

/-- What holds in a table of all bytes holds of every byte. -/
theorem forall_byte {property : UInt8 → Prop}
    (table : ∀ code < 256, property (.ofNat code)) (byte : UInt8) : property byte := by
  simpa only [UInt8.ofNat_toNat] using table byte.toNat byte.toNat_lt

@[simp]
theorem length_littleEndian (width number : Nat) :
    (littleEndian width number).length = width := by
  induction width generalizing number with
  | zero => rfl
  | succ width inductionHypothesis => simp [littleEndian, inductionHypothesis]

@[simp]
theorem length_bigEndian (width number : Nat) :
    (bigEndian width number).length = width := by
  simp [bigEndian]

end Bytes

end ConfidentialToken
