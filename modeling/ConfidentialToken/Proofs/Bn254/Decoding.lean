import ConfidentialToken.Bn254.Suite
import ConfidentialToken.Issue.Anonymous
import ConfidentialToken.Proofs.Bn254.BaseField
import ConfidentialToken.Proofs.Bn254.Encoding
import ConfidentialToken.Proofs.SigningKey

/-!
Which byte strings denote an element.

A decoder reads one encoding and does not look at what follows it, and the point
at infinity is found by its flag, whatever the coordinate. Apart from that the
encoding is the only one: a word below the modulus is determined by its number,
and of two opposite second coordinates, neither of which is zero, exactly one is
the larger one.
-/

namespace ConfidentialToken

theorem decodeElement_eq_ok {α : Type} [BinaryEncoding α] {bytes : Bytes} {element : α} :
    decodeElement bytes = .ok element ↔ BinaryEncoding.decode bytes = .ok element := by
  unfold decodeElement
  split <;> simp_all

theorem decoding_bind_eq_ok {α β : Type} {step : Except EncodingFailure α}
    {next : α → Except EncodingFailure β} {element : β} :
    step >>= next = .ok element ↔ ∃ part, step = .ok part ∧ next part = .ok element := by
  cases step <;> simp [bind, Except.bind]

namespace Bn254

theorem decode_scalar_eq_ok {bytes : Bytes} {scalar : Fr} :
    BinaryEncoding.decode bytes = .ok scalar ↔ encode scalar <+: bytes := by
  simp only [BinaryEncoding.decode, decoding_bind_eq_ok, Prod.exists, takeWord_eq_ok]
  constructor
  · rintro ⟨word, rest, ⟨length, rfl⟩, read⟩
    exact ⟨rest, congrArg (· ++ rest) ((residueOfWord?_eq_ok (by decide) length).mp read)⟩
  · rintro ⟨rest, rfl⟩
    have length : (encode scalar).length = 32 := Bytes.length_littleEndian 32 scalar.val
    exact ⟨_, rest, ⟨length, rfl⟩, (residueOfWord?_eq_ok (by decide) length).mpr rfl⟩

/-- A byte whose top bits are masked gets them back from the flag that they are
read as. -/
theorem masked_or_bits (top : UInt8) :
    ((top &&& 0x80 != 0) = false → (top &&& 0x40 != 0) = true →
      top &&& 0x3f ||| PointFlag.infinity.bits = top) ∧
    ((top &&& 0x40 != 0) = false →
      top &&& 0x3f ||| (PointFlag.finite (top &&& 0x80 != 0)).bits = top) ∧
    top &&& 0x3f < 0x40 := by
  revert top
  exact Bytes.forall_byte (by decide +kernel)

/-- The bits of a flag that are set in a byte with clear top bits are read as
the flag. -/
theorem or_bits_masked (low : UInt8) :
    low < 0x40 →
      ((low ||| PointFlag.infinity.bits) &&& 0x3f = low ∧
        ((low ||| PointFlag.infinity.bits) &&& 0x80 != 0) = false ∧
        ((low ||| PointFlag.infinity.bits) &&& 0x40 != 0) = true) ∧
      ∀ larger, (low ||| (PointFlag.finite larger).bits) &&& 0x3f = low ∧
        ((low ||| (PointFlag.finite larger).bits) &&& 0x80 != 0) = larger ∧
        ((low ||| (PointFlag.finite larger).bits) &&& 0x40 != 0) = false := by
  revert low
  exact Bytes.forall_byte (by decide +kernel)

theorem splitFlag_eq_ok {word masked : Bytes} {flag : PointFlag} (nonempty : word ≠ []) :
    splitFlag word = .ok (flag, masked) ↔
      ∃ front low, low < 0x40 ∧ masked = front ++ [low] ∧
        word = front ++ [low ||| flag.bits] := by
  obtain ⟨front, top, rfl⟩ := List.eq_nil_or_concat word |>.resolve_left nonempty
  simp only [splitFlag, List.concat_eq_append, List.getLast?_concat, List.dropLast_concat,
    Option.getD_some]
  obtain ⟨infinite, finite, clear⟩ := masked_or_bits top
  constructor
  · intro split
    refine ⟨front, top &&& 0x3f, clear, ?_⟩
    split at split
    · cases split
    case h_2 notLarger isInfinite =>
      cases split
      exact ⟨rfl, by rw [infinite notLarger isInfinite]⟩
    case h_3 isFinite =>
      cases split
      exact ⟨rfl, by rw [finite isFinite]⟩
  · rintro ⟨otherFront, low, isLow, rfl, same⟩
    obtain ⟨rfl, last⟩ := List.append_inj' same rfl
    obtain ⟨rfl⟩ := List.singleton_inj.mp last
    obtain ⟨⟨maskedInfinite, notLarger, isInfinite⟩, finiteBits⟩ :=
      or_bits_masked low isLow
    cases flag with
    | infinity => rw [maskedInfinite, notLarger, isInfinite]
    | finite larger =>
        obtain ⟨maskedFinite, isLarger, isFinite⟩ := finiteBits larger
        rw [maskedFinite, isLarger, isFinite]
        cases larger <;> rfl

/-- The word of a residue leaves the two bits of the flag free. -/
theorem residueWord_eq_concat (a : Fq) :
    ∃ front low, low < 0x40 ∧ residueWord a = front ++ [low] := by
  refine ⟨_, _, ?_, Bytes.littleEndian_succ_eq_append 31 a.val⟩
  have narrow : baseModulus ≤ 2 ^ 254 := by decide
  have bound := Nat.lt_of_lt_of_le a.isLt narrow
  rw [UInt8.lt_iff_toNat_lt, UInt8.toNat_ofNat', Nat.shiftRight_eq_div_pow]
  have low : a.val / 2 ^ (8 * 31) < 64 := Nat.div_lt_of_lt_mul (by simpa using bound)
  exact Nat.lt_of_le_of_lt (Nat.mod_le _ _) low

theorem length_joinFlag_residueWord (flag : PointFlag) (a : Fq) :
    (joinFlag flag (residueWord a)).length = 32 := by
  simp [joinFlag, residueWord, Bytes.length_littleEndian]

/-- A word is read as a flag and a residue exactly if it is written with
them. -/
theorem flaggedWord_eq_ok {word : Bytes} {flag : PointFlag} {a : Fq}
    (length : word.length = 32) :
    (∃ masked, splitFlag word = .ok (flag, masked) ∧ residueOfWord? masked = .ok a) ↔
      joinFlag flag (residueWord a) = word := by
  have nonempty : word ≠ [] := List.ne_nil_of_length_pos (by omega)
  constructor
  · rintro ⟨masked, split, read⟩
    obtain ⟨front, low, -, rfl, rfl⟩ := (splitFlag_eq_ok nonempty).mp split
    have written := (residueOfWord?_eq_ok (by decide) (by simpa using length)).mp read
    simp [joinFlag, written]
  · rintro rfl
    obtain ⟨front, low, clear, written⟩ := residueWord_eq_concat a
    refine ⟨residueWord a, (splitFlag_eq_ok nonempty).mpr
      ⟨front, low, clear, written, ?_⟩, residueOfWord?_residueWord (by decide) a⟩
    simp [joinFlag, written]

/-- Of a root and its opposite, which has the other sign, the one with the
chosen sign is taken. -/
theorem Point.exists_of_root {F : Type} [Neg F] [Zero F] {sign : F → Bool}
    (opposite : ∀ {y : F}, y ≠ 0 → sign (-y) = !sign y) {root? : Option F}
    (nonzero : root? ≠ some 0) {x : F} {larger : Bool} {point : Point F}
    (found : (root?.map fun root =>
      Point.affine x (if sign root = larger then root else -root)) = some point) :
    ∃ y, sign y = larger ∧ point = .affine x y := by
  obtain ⟨root, rfl, rfl⟩ := Option.map_eq_some_iff.mp found
  refine ⟨_, ?_, rfl⟩
  split
  case isTrue chosen => exact chosen
  case isFalse other =>
    have unsigned : root ≠ 0 := fun zero => nonzero (congrArg some zero)
    rw [opposite unsigned, Bool.eq_not_of_ne other, Bool.not_not]

theorem Fq.isLarger_neg {y : Fq} (nonzero : y ≠ 0) : isLarger (-y) = !isLarger y := by
  have positive : y.val ≠ 0 := fun zero => nonzero (Residue.ext zero)
  have bound := y.isLt
  have odd : baseModulus % 2 = 1 := by decide
  have negated : (-y).val = baseModulus - y.val := by
    rw [Residue.val_neg, Nat.mod_eq_of_lt (by omega)]
  have restored : (- -y).val = y.val := by
    rw [Residue.val_neg, negated, Nat.mod_eq_of_lt (by omega)]
    omega
  rw [isLarger, isLarger, restored, negated, ← decide_not, decide_eq_decide]
  omega

theorem Fq2.isLarger_neg {y : Fq2} (nonzero : y ≠ 0) : isLarger (-y) = !isLarger y := by
  by_cases real : y.c1 = 0
  · have first : y.c0 ≠ 0 := by
      intro zero
      apply nonzero
      cases y
      cases real
      cases zero
      rfl
    have negReal : (-y).c1 = 0 := Residue.neg_eq_zero_iff.mpr real
    rw [isLarger, isLarger, if_pos negReal, if_pos real]
    exact Fq.isLarger_neg first
  · have negReal : (-y).c1 ≠ 0 := mt Residue.neg_eq_zero_iff.mp real
    rw [isLarger, isLarger, if_neg negReal, if_neg real]
    exact Fq.isLarger_neg real

theorem Fq.eq_zero_of_sqrt?_eq_some_zero {a : Fq} (rooted : a.sqrt? = some 0) :
    a = 0 := by
  simp only [Residue.sqrt?, Option.ite_none_right_eq_some, Option.some.injEq] at rooted
  obtain ⟨square, zero⟩ := rooted
  rw [← square, zero]
  decide

theorem Fq2.eq_zero_of_sqrt?_eq_some_zero {a : Fq2} (rooted : a.sqrt? = some 0) :
    a = 0 := by
  unfold sqrt? at rooted
  split at rooted
  case isTrue real =>
    have first : a.c0 = 0 := by
      split at rooted
      case h_1 root found =>
        cases rooted
        exact Fq.eq_zero_of_sqrt?_eq_some_zero found
      case h_2 =>
        obtain ⟨root, found, zero⟩ := Option.map_eq_some_iff.mp rooted
        cases zero
        exact Residue.neg_eq_zero_iff.mp (Fq.eq_zero_of_sqrt?_eq_some_zero found)
    cases a
    cases real
    cases first
    rfl
  case isFalse =>
    simp only [Option.bind_eq_bind, Option.bind_eq_some_iff,
      Option.ite_none_right_eq_some, Option.some.injEq] at rooted
    obtain ⟨norm, -, realPart, -, square, zero⟩ := rooted
    rw [← square, zero]
    decide

theorem G1.exists_of_withX? {x : Fq} {larger : Bool} {point : G1}
    (found : withX? x larger = some point) :
    ∃ y, Fq.isLarger y = larger ∧ point = .affine x y := by
  refine Point.exists_of_root Fq.isLarger_neg ?_ found
  intro zero
  exact Fq.cube_add_ne_zero x (Fq.eq_zero_of_sqrt?_eq_some_zero zero)

theorem G2.exists_of_withX? {x : Fq2} {larger : Bool} {point : G2}
    (found : withX? x larger = some point) :
    ∃ y, Fq2.isLarger y = larger ∧ point = .affine x y := by
  refine Point.exists_of_root Fq2.isLarger_neg ?_ found
  intro zero
  exact Fq2.cube_add_ne_zero x (Fq2.eq_zero_of_sqrt?_eq_some_zero zero)

/-- How a point of the first curve is written: by the flag and the first
coordinate. -/
def G1.spelling (flag : PointFlag) (x : Fq) : Bytes :=
  joinFlag flag (residueWord x)

/-- How a point of the second curve is written: by the flag and the first
coordinate. -/
def G2.spelling (flag : PointFlag) (x : Fq2) : Bytes :=
  residueWord x.c0 ++ joinFlag flag (residueWord x.c1)

/-- The point with a flag and a first coordinate, which is not looked at in the
point at infinity. -/
def Point.flagged? {F : Type} (withX? : F → Bool → Option (Point F)) :
    PointFlag → F → Option (Point F)
  | .infinity, _ => some .infinity
  | .finite larger, x => withX? x larger

/-- The point of the second group with a first coordinate. -/
def G2.memberWithX? (x : Fq2) (larger : Bool) : Option G2 :=
  (withX? x larger).filter inSubgroup

theorem pointOrInvalid_eq_ok {α : Type} {found : Option α} {point : α} :
    pointOrInvalid found = .ok point ↔ found = some point := by
  cases found <;> simp [pointOrInvalid]

/-- A point that is checked after it was found is one that was found among those
that pass. -/
theorem checkedPoint_eq_ok {α : Type} (found : Option α) (passes : α → Bool) (point : α) :
    (do
      let other ← pointOrInvalid found
      if passes other then .ok other else .error .invalidData) = .ok point ↔
      found.filter passes = some point := by
  cases found with
  | none => simp [pointOrInvalid, bind, Except.bind]
  | some other =>
      cases pass :
        passes other <;> simp [pointOrInvalid, bind, Except.bind, Option.filter, pass]

theorem G1.decode_eq_ok {bytes : Bytes} {point : G1} :
    BinaryEncoding.decode bytes = .ok point ↔
      ∃ flag x, spelling flag x <+: bytes ∧
        Point.flagged? withX? flag x = some point := by
  simp only [BinaryEncoding.decode, decode, decoding_bind_eq_ok, Prod.exists,
    takeWord_eq_ok]
  constructor
  · rintro ⟨word, rest, ⟨length, rfl⟩, flag, masked, split, x, read, found⟩
    have written := (flaggedWord_eq_ok length).mp ⟨masked, split, read⟩
    refine ⟨flag, x, ⟨rest, congrArg (· ++ rest) written⟩, ?_⟩
    cases flag with
    | infinity => exact congrArg some (Except.ok.inj found)
    | finite larger => exact pointOrInvalid_eq_ok.mp found
  · rintro ⟨flag, x, ⟨rest, rfl⟩, found⟩
    have length := length_joinFlag_residueWord flag x
    obtain ⟨masked, split, read⟩ := (flaggedWord_eq_ok length).mpr rfl
    refine ⟨_, rest, ⟨length, rfl⟩, flag, masked, split, x, read, ?_⟩
    cases flag with
    | infinity => exact congrArg Except.ok (Option.some.inj found)
    | finite larger => exact pointOrInvalid_eq_ok.mpr found

theorem G2.decode_eq_ok {bytes : Bytes} {point : G2} :
    BinaryEncoding.decode bytes = .ok point ↔
      ∃ flag x, spelling flag x <+: bytes ∧
        Point.flagged? memberWithX? flag x = some point := by
  simp only [BinaryEncoding.decode, decode, decoding_bind_eq_ok, Prod.exists,
    takeWord_eq_ok]
  constructor
  · rintro ⟨first, _, ⟨firstLength, rfl⟩, c0, readFirst, second, rest, ⟨length, rfl⟩,
      flag, masked, split, c1, read, found⟩
    have writtenFirst := (residueOfWord?_eq_ok (by decide) firstLength).mp readFirst
    have written := (flaggedWord_eq_ok length).mp ⟨masked, split, read⟩
    refine ⟨flag, ⟨c0, c1⟩, ⟨rest, ?_⟩, ?_⟩
    · rw [spelling, writtenFirst, written, List.append_assoc]
    · cases flag with
      | infinity => exact congrArg some (Except.ok.inj found)
      | finite larger =>
          rw [Point.flagged?, memberWithX?]
          exact (checkedPoint_eq_ok (withX? ⟨c0, c1⟩ larger) inSubgroup point).mp found
  · rintro ⟨flag, x, ⟨rest, rfl⟩, found⟩
    have firstLength : (residueWord x.c0).length = 32 :=
      Bytes.length_littleEndian 32 x.c0.val
    have length := length_joinFlag_residueWord flag x.c1
    obtain ⟨masked, split, read⟩ := (flaggedWord_eq_ok length).mpr rfl
    refine ⟨_, _, ⟨firstLength, List.append_assoc _ _ _⟩, x.c0,
      residueOfWord?_residueWord (by decide) x.c0, _, rest, ⟨length, rfl⟩, flag, masked,
      split, x.c1, read, ?_⟩
    cases flag with
    | infinity => exact congrArg Except.ok (Option.some.inj found)
    | finite larger =>
        rw [Point.flagged?, memberWithX?] at found
        exact (checkedPoint_eq_ok (withX? x larger) inSubgroup point).mpr found

namespace Point

variable {F : Type} [BinaryEncoding (Point F)] {spelling : PointFlag → F → Bytes}

/-- A byte string begins with the encoding of a point, or with any word that is
flagged as the point at infinity. -/
def SpelledIn (spelling : PointFlag → F → Bytes) (point : Point F) (bytes : Bytes) :
    Prop :=
  encode point <+: bytes ∨ point = .infinity ∧ ∃ x, spelling .infinity x <+: bytes

/-- A point that is not at infinity is spelled by one string of the length of
its encoding. -/
theorem SpelledIn.eq_encode_iff {point : Point F} {bytes : Bytes} {width : Nat}
    (spelled : point.SpelledIn spelling bytes) (finite : point ≠ .infinity)
    (width_eq : (encode point).length = width) :
    bytes = encode point ↔ bytes.length = width := by
  rcases spelled with begins | ⟨infinite, -⟩
  · constructor
    · rintro rfl
      exact width_eq
    · exact fun length => (begins.eq_of_length (width_eq.trans length.symm)).symm
  · exact absurd infinite finite

/-- If a decoder finds points by flags and first coordinates, and every point
that it finds is written with what it was found by, it finds a point exactly in
the strings that spell it. -/
theorem decodeElement_iff_spelledIn {withX? : F → Bool → Option (Point F)}
    (decode_eq_ok : ∀ {bytes : Bytes} {point : Point F},
      BinaryEncoding.decode bytes = .ok point ↔
      ∃ flag x, spelling flag x <+: bytes ∧ flagged? withX? flag x = some point)
    (encode_finite : ∀ {x larger point}, withX? x larger = some point →
      encode point = spelling (.finite larger) x)
    (origin : F) (encode_infinity : encode (.infinity : Point F) =
      spelling .infinity origin)
    {bytes : Bytes} {point : Point F} :
    decodeElement bytes = .ok point ↔
      decodeElement (encode point) = .ok point ∧ point.SpelledIn spelling bytes := by
  simp only [decodeElement_eq_ok, decode_eq_ok]
  constructor
  · rintro ⟨flag, x, begins, found⟩
    cases flag with
    | infinity =>
        cases found
        exact ⟨⟨.infinity, origin, encode_infinity ▸ List.prefix_rfl, rfl⟩,
          .inr ⟨rfl, x, begins⟩⟩
    | finite larger =>
        have written := encode_finite found
        exact ⟨⟨.finite larger, x, written ▸ List.prefix_rfl, found⟩,
          .inl (written ▸ begins)⟩
  · rintro ⟨⟨flag, x, written, found⟩, begins | ⟨rfl, other, begins⟩⟩
    · exact ⟨flag, x, written.trans begins, found⟩
    · exact ⟨.infinity, other, begins, rfl⟩

end Point

theorem G1.length_encode (point : G1) : (encode point).length = 32 := by
  cases point with
  | infinity => exact length_joinFlag_residueWord .infinity 0
  | affine x y => exact length_joinFlag_residueWord (.finite (Fq.isLarger y)) x

theorem G2.length_encode (point : G2) : (encode point).length = 64 := by
  have length (flag : PointFlag) (x : Fq2) : (spelling flag x).length = 64 := by
    rw [spelling, List.length_append, length_joinFlag_residueWord, residueWord,
      Bytes.length_littleEndian]
  cases point with
  | infinity => exact length .infinity 0
  | affine x y => exact length (.finite (Fq2.isLarger y)) x

theorem G1.decodeElement_iff_spelledIn {bytes : Bytes} {point : G1} :
    decodeElement bytes = .ok point ↔
      decodeElement (encode point) = .ok point ∧ point.SpelledIn spelling bytes := by
  refine Point.decodeElement_iff_spelledIn decode_eq_ok ?_ 0 rfl
  intro x larger point found
  obtain ⟨y, rfl, rfl⟩ := exists_of_withX? found
  rfl

theorem G2.decodeElement_iff_spelledIn {bytes : Bytes} {point : G2} :
    decodeElement bytes = .ok point ↔
      decodeElement (encode point) = .ok point ∧ point.SpelledIn spelling bytes := by
  refine Point.decodeElement_iff_spelledIn decode_eq_ok ?_ 0 rfl
  intro x larger point found
  obtain ⟨y, rfl, rfl⟩ := exists_of_withX? (Option.filter_eq_some_iff.mp found).1
  rfl

open Json

theorem fromJson_element_of_ofHex {α : Type} [BinaryEncoding α] {value : Value}
    {bytes : Bytes} (read : ofHex value = some bytes) :
    (elementForm α).fromJson value = (decodeElement bytes : Result α).toOption := by
  simp [fromJson, read]

/-- Bytes are decoded to the elements that they spell and to no others, wherever
they are read: alone, from a hexadecimal text, as the identity of a pseudonym,
and as a public key. They are the encoding of a scalar or of a point that is not
at infinity exactly if nothing follows the bytes that are read. -/
theorem decoded_iff_spelled (bytes : Bytes) :
    (∀ scalar : Fr, decodeElement bytes = .ok scalar ↔ encode scalar <+: bytes) ∧
    (∀ point : G1, decodeElement bytes = .ok point ↔
      decodeElement (encode point) = .ok point ∧ point.SpelledIn G1.spelling bytes) ∧
    (∀ point : G2, decodeElement bytes = .ok point ↔
      decodeElement (encode point) = .ok point ∧ point.SpelledIn G2.spelling bytes) ∧
    (∀ value, ofHex value = some bytes →
      (elementForm Fr).fromJson value = (decodeElement bytes : Result Fr).toOption ∧
      (elementForm G1).fromJson value = (decodeElement bytes : Result G1).toOption ∧
      (elementForm G2).fromJson value = (decodeElement bytes : Result G2).toOption) ∧
    (∀ pseudonym : suite.G1, AnonymousIssuer.pseudonym ⟨bytes⟩ = .ok pseudonym ↔
      decodeElement bytes = .ok pseudonym) ∧
    (∀ identity, IdentityKind.resolve identity = .ok (.publicKey bytes) →
      ∀ key : PublicKey suite, PublicKey.ofIdentity suite identity = .ok key ↔
        decodeElement bytes = .ok key.point) ∧
    (∀ scalar : Fr, decodeElement bytes = .ok scalar →
      (bytes = encode scalar ↔ bytes.length = 32)) ∧
    (∀ point : G1, decodeElement bytes = .ok point → point ≠ .infinity →
      (bytes = encode point ↔ bytes.length = 32)) ∧
    ∀ point : G2, decodeElement bytes = .ok point → point ≠ .infinity →
      (bytes = encode point ↔ bytes.length = 64) := by
  have scalars (scalar : Fr) :
      decodeElement bytes = .ok scalar ↔ encode scalar <+: bytes :=
    decodeElement_eq_ok.trans decode_scalar_eq_ok
  refine ⟨scalars, fun _ => G1.decodeElement_iff_spelledIn,
    fun _ => G2.decodeElement_iff_spelledIn, ?_, ?_, ?_, ?_, ?_, ?_⟩
  · intro value read
    exact ⟨fromJson_element_of_ofHex read, fromJson_element_of_ofHex read,
      fromJson_element_of_ofHex read⟩
  · intro pseudonym
    exact during_eq_ok
  · intro identity resolved key
    rw [PublicKey.ofIdentity_eq_ok, resolved]
    constructor
    · rintro ⟨_, ⟨⟩, decoded⟩
      exact decoded
    · exact fun decoded => ⟨bytes, rfl, decoded⟩
  · intro scalar decoded
    have width : (encode scalar).length = 32 := FixedWidthEncoding.length_encode scalar
    constructor
    · rintro rfl
      exact width
    · intro length
      exact (((scalars scalar).mp decoded).eq_of_length (width.trans length.symm)).symm
  · intro point decoded finite
    exact (G1.decodeElement_iff_spelledIn.mp decoded).2.eq_encode_iff finite
      point.length_encode
  · intro point decoded finite
    exact (G2.decodeElement_iff_spelledIn.mp decoded).2.eq_encode_iff finite
      point.length_encode

/-- A scalar is decoded from its encoding with a byte after it, which is not its
encoding. -/
theorem decoded_with_further_byte :
    decodeElement (encode (5 : Fr) ++ [0]) = .ok (5 : Fr) ∧
      encode (5 : Fr) ++ [0] ≠ encode (5 : Fr) := by
  obtain ⟨spelled, -, -, -, -, -, canonical, -⟩ :=
    decoded_iff_spelled (encode (5 : Fr) ++ [0])
  have decoded := (spelled 5).mpr ⟨[0], rfl⟩
  exact ⟨decoded, mt (canonical 5 decoded).mp (by decide)⟩

end Bn254

end ConfidentialToken
