import Mathlib.Logic.Nontrivial.Defs
import ConfidentialToken.Suite

/-!
The laws of encodings.

Encodings of one length are read off a string in the order in which they were
written, so that the bytes of a transcript determine the elements that it
gathers.
-/

namespace ConfidentialToken

/-- Encodings that are equally long, and different for different elements. -/
class FixedWidthEncoding (α : Type) [BinaryEncoding α] where
  width : Nat
  length_encode : ∀ element : α, (encode element).length = width
  encode_injective : ∀ first second : α, encode first = encode second → first = second

/-- Encodings from which an element is decoded again. They are never empty. -/
class FaithfulEncoding (α : Type) [BinaryEncoding α] : Prop where
  decode_encode : ∀ element : α, decodeElement (encode element) = .ok element
  encode_ne_nil : ∀ element : α, encode element ≠ []

section FixedWidth

variable {α : Type} [BinaryEncoding α] [FixedWidthEncoding α]

@[simp]
theorem encode_inj {first second : α} : encode first = encode second ↔ first = second :=
  ⟨FixedWidthEncoding.encode_injective first second, congrArg encode⟩

theorem encode_append_inj {first second : α} {rest otherRest : Bytes} :
    encode first ++ rest = encode second ++ otherRest ↔
      first = second ∧ rest = otherRest := by
  have lengths : (encode first).length = (encode second).length := by
    rw [FixedWidthEncoding.length_encode, FixedWidthEncoding.length_encode]
  constructor
  · intro equal
    obtain ⟨same, sameRest⟩ := List.append_inj equal lengths
    exact ⟨encode_inj.mp same, sameRest⟩
  · rintro ⟨rfl, rfl⟩
    rfl

/-- Lists of one length are determined by their encodings, whatever comes after
them. -/
theorem encodeAll_append_inj {firsts seconds : List α} {rest otherRest : Bytes}
    (lengths : firsts.length = seconds.length) :
    Transcript.encodeAll firsts ++ rest = Transcript.encodeAll seconds ++ otherRest ↔
      firsts = seconds ∧ rest = otherRest := by
  induction firsts generalizing seconds with
  | nil =>
      rw [List.length_eq_zero_iff.mp lengths.symm]
      simp
  | cons first firsts inductionHypothesis =>
      obtain ⟨second, seconds, rfl⟩ := List.exists_cons_of_length_eq_add_one lengths.symm
      have tails := inductionHypothesis (Nat.succ.inj lengths)
      simp only [Transcript.encodeAll] at tails
      simp only [Transcript.encodeAll, List.flatMap_cons, List.append_assoc,
        encode_append_inj, tails, List.cons.injEq, and_assoc]

theorem encodeAll_inj {firsts seconds : List α}
    (lengths : firsts.length = seconds.length) :
    Transcript.encodeAll firsts = Transcript.encodeAll seconds ↔ firsts = seconds := by
  have closed :
      Transcript.encodeAll firsts ++ [] = Transcript.encodeAll seconds ++ [] ↔ _ :=
    encodeAll_append_inj lengths
  simpa only [List.append_nil, and_true] using closed

theorem length_encodeAll (elements : List α) :
    (Transcript.encodeAll elements).length =
      elements.length * FixedWidthEncoding.width α := by
  simp [Transcript.encodeAll, List.length_flatMap, FixedWidthEncoding.length_encode,
    List.map_const']

/-- Two elements need a byte to be told apart. -/
theorem width_pos [Nontrivial α] : 0 < FixedWidthEncoding.width α := by
  obtain ⟨first, second, different⟩ := exists_pair_ne α
  refine Nat.pos_of_ne_zero fun none => different (encode_inj.mp ?_)
  rw [List.length_eq_zero_iff.mp ((FixedWidthEncoding.length_encode first).trans none),
    List.length_eq_zero_iff.mp ((FixedWidthEncoding.length_encode second).trans none)]

end FixedWidth

end ConfidentialToken
