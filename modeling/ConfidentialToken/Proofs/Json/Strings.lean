import ConfidentialToken.Json.Schema

/-!
Strings are read as they are written.

A byte of a text is escaped by itself, so that a written string is read byte by
byte whatever text it holds. Byte strings stand in texts as hexadecimal digits,
which are ASCII characters.
-/

namespace ConfidentialToken

namespace Bytes

theorem ofText_append (left right : String) :
    ofText (left ++ right) = ofText left ++ ofText right := by
  simp [ofText]

/-- An ASCII character is encoded by the byte of its code. -/
theorem ofText_ascii :
    ∀ code < 0x80, ofText (String.singleton (Char.ofNat code)) = [UInt8.ofNat code] := by
  decide +kernel

theorem ofText_ofList_ascii {codes : Bytes} (ascii : ∀ code ∈ codes, code < 0x80) :
    ofText (String.ofList (codes.map fun code => Char.ofNat code.toNat)) = codes := by
  induction codes with
  | nil => rfl
  | cons code codes inductionHypothesis =>
      have first := ofText_ascii code.toNat (ascii code List.mem_cons_self)
      have others := inductionHypothesis fun other membership =>
        ascii other (List.mem_cons_of_mem code membership)
      rw [List.map_cons, String.ofList_cons, ofText_append, first, others,
        UInt8.ofNat_toNat]
      rfl

theorem toText?_ofText (text : String) : toText? (ofText text) = some text := by
  have same : (⟨(ofText text).toArray⟩ : ByteArray) = text.toByteArray := by
    simp [ofText]
  rw [toText?, same, String.fromUTF8?, dif_pos text.isValidUTF8]
  rfl

theorem ofText_inj {left right : String} : ofText left = ofText right ↔ left = right := by
  constructor
  · intro same
    have read := congrArg toText? same
    rw [toText?_ofText, toText?_ofText] at read
    exact Option.some.inj read
  · rintro rfl
    rfl

/-- What follows a text in a text is a text. -/
theorem ofText_eq_append_iff {left whole : String} {rest : Bytes} :
    ofText whole = ofText left ++ rest ↔ ∃ text,
    whole = left ++ text ∧ rest = ofText text := by
  constructor
  · intro same
    have encoded :
        left.toList.utf8Encode ++ ⟨rest.toArray⟩ = whole.toList.utf8Encode := by
      simp only [String.utf8Encode_toList]
      apply ByteArray.ext
      simpa [ofText, ← Array.toList_inj] using same.symm
    obtain ⟨characters, joined⟩ :=
      List.isPrefix_of_utf8Encode_append_eq_utf8Encode _ encoded
    have split : whole = left ++ String.ofList characters := by
      rw [← String.toList_inj, String.toList_append, String.toList_ofList, joined]
    refine ⟨_, split, ?_⟩
    rw [split, ofText_append] at same
    exact (List.append_cancel_left same).symm
  · rintro ⟨text, rfl, rfl⟩
    exact ofText_append left text

end Bytes

namespace Hex

theorem digit_spec (byte : UInt8) :
    (digit (byte >>> 4) < 0x80 ∧ digit (byte &&& 0xf) < 0x80) ∧
      digitValue? (digit (byte >>> 4)) = some (byte >>> 4) ∧
      digitValue? (digit (byte &&& 0xf)) = some (byte &&& 0xf) ∧
      ((byte >>> 4) <<< 4 ||| (byte &&& 0xf)) = byte := by
  revert byte
  exact Bytes.forall_byte (by decide +kernel)

theorem encode_ascii (bytes : Bytes) : ∀ digit ∈ encode bytes, digit < 0x80 := by
  induction bytes with
  | nil => simp [encode]
  | cons byte bytes inductionHypothesis =>
      obtain ⟨⟨high, low⟩, -⟩ := digit_spec byte
      simpa [encode] using ⟨high, low, inductionHypothesis⟩

theorem length_encode (bytes : Bytes) : (encode bytes).length = 2 * bytes.length := by
  induction bytes with
  | nil => rfl
  | cons byte bytes inductionHypothesis =>
      simp only [encode, List.length_cons, inductionHypothesis]
      omega

theorem decodeFrom_encode (position : Nat) (bytes : Bytes) :
    decodeFrom position (encode bytes) = .ok bytes := by
  induction bytes generalizing position with
  | nil => rfl
  | cons byte bytes inductionHypothesis =>
      obtain ⟨-, high, low, joined⟩ := digit_spec byte
      simp only [encode, decodeFrom, high, low, inductionHypothesis, joined]

theorem decode_encode (bytes : Bytes) : decode (encode bytes) = .ok bytes := by
  have even : ¬ (encode bytes).length % 2 = 1 := by
    rw [length_encode]
    omega
  rw [decode, if_neg even, decodeFrom_encode]

theorem ofText_encodeText (bytes : Bytes) :
    Bytes.ofText (encodeText bytes) = encode bytes :=
  Bytes.ofText_ofList_ascii (encode_ascii bytes)

theorem encode_inj {bytes others : Bytes} :
    encode bytes = encode others ↔ bytes = others := by
  constructor
  · intro same
    have decoded := congrArg decode same
    rw [decode_encode, decode_encode] at decoded
    exact Except.ok.inj decoded
  · rintro rfl
    rfl

end Hex

namespace Json

@[simp]
theorem ofHex_hex (bytes : Bytes) : ofHex (hex bytes) = some bytes := by
  simp [ofHex, hex, Hex.ofText_encodeText, Hex.decode_encode, Except.toOption]

/-- The escape of a byte is the byte itself, a letter that stands for it, or its
code. -/
theorem escapeByte_cases (byte : UInt8) :
    (escapeByte byte = [byte] ∧ byte ≠ 0x22 ∧ byte ≠ 0x5c ∧ ¬ byte < 0x20) ∨
    (∃ letter ∈ Bytes.ofText "\"\\bfnrt", escapeByte byte = [0x5c, letter] ∧
      letter ≠ 0x75 ∧ simpleEscape? letter = some byte) ∨
    (escapeByte byte =
      [0x5c, 0x75, 0x30, 0x30, Hex.digit (byte >>> 4), Hex.digit (byte &&& 0xf)] ∧
      byte < 0x20 ∧ hexDigitValue? (Hex.digit (byte >>> 4)) = some (byte.toNat / 16) ∧
      hexDigitValue? (Hex.digit (byte &&& 0xf)) = some (byte.toNat % 16)) := by
  revert byte
  exact Bytes.forall_byte (by decide +kernel)

/-- Reading the escape of a byte gives the byte. -/
theorem readString_escapeByte (fuel : Nat) (byte : UInt8) (rest reversed : Bytes) :
    readString (fuel + 1) (escapeByte byte ++ rest) (some reversed) =
      readString fuel rest (some (byte :: reversed)) := by
  rcases escapeByte_cases byte with ⟨escape, noQuote, noEscape, printable⟩ |
      ⟨letter, -, escape, noCode, denotes⟩ | ⟨escape, control, high, low⟩
  · rw [escape]
    simp [readString, noQuote, noEscape, printable]
  · rw [escape]
    simp [readString, noCode, denotes]
  · have zero : hexDigitValue? 0x30 = some 0 := by decide
    have code :
      codeUnit? (0x30 :: 0x30 :: Hex.digit (byte >>> 4) :: Hex.digit (byte &&& 0xf) ::
        rest) = some (byte.toNat, rest) := by
      have joined : byte.toNat / 16 * 16 + byte.toNat % 16 = byte.toNat := by omega
      simp [codeUnit?, zero, high, low, joined]
    have small : byte.toNat < 0x20 := control
    have character : escapedCharacter byte.toNat rest = (some [byte], rest) := by
      unfold escapedCharacter
      rw [if_pos (.inl (by omega)), Bytes.ofText_ascii _ (by omega), UInt8.ofNat_toNat]
    rw [escape]
    simp [readString, code, character]

theorem length_le_escaped (bytes : Bytes) :
    bytes.length ≤ (bytes.flatMap escapeByte).length := by
  induction bytes with
  | nil => exact Nat.le_refl 0
  | cons byte bytes inductionHypothesis =>
      have visible : 1 ≤ (escapeByte byte).length := by
        rcases escapeByte_cases byte with ⟨escape, -⟩ | ⟨letter, -, escape, -⟩
          | ⟨escape, -⟩ <;>
          simp [escape]
      rw [List.flatMap_cons, List.length_append, List.length_cons]
      omega

theorem readString_escaped {bytes : Bytes} {fuel : Nat} (enough : bytes.length < fuel)
    (rest reversed : Bytes) :
    readString fuel (bytes.flatMap escapeByte ++ 0x22 :: rest) (some reversed) =
      some (some (reversed.reverse ++ bytes), rest) := by
  induction bytes generalizing fuel reversed with
  | nil =>
      cases fuel with
      | zero => exact absurd enough (Nat.lt_irrefl 0)
      | succ fuel => simp [readString]
  | cons byte bytes inductionHypothesis =>
      cases fuel with
      | zero => exact absurd enough (Nat.not_lt_zero _)
      | succ fuel =>
          rw [List.flatMap_cons, List.append_assoc, readString_escapeByte,
            inductionHypothesis (Nat.lt_of_succ_lt_succ enough), List.reverse_cons,
            List.append_assoc, List.singleton_append]

end Json

end ConfidentialToken
