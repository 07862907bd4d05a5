import ConfidentialToken.Proofs.DigitRange.Completeness
import ConfidentialToken.Proofs.Encoding
import ConfidentialToken.Proofs.Issue.WellFormedness
import ConfidentialToken.Proofs.Transfer.Hiding

/-!
A proof belongs to one statement.

What a verification hashes determines the statement that it verifies: a
transcript is a mere concatenation, but the proof tells how many elements of
each kind there are. A proof that is accepted for two statements therefore comes
with two strings that are different and have one hash.
-/

namespace ConfidentialToken

/-- Two strings are different and have one hash. -/
structure Collision (S : Suite) (left right : Bytes) : Prop where
  different : left ≠ right
  hashed : S.hashToScalar left = S.hashToScalar right

variable {S : Suite} [FixedWidthEncoding S.G1]

namespace Issue.WellFormedness

omit [FixedWidthEncoding S.G1] in
theorem Statement.length_recompute {statement : Statement S} {proof : Proof S}
    (values : proof.values.length = statement.tokens.length)
    (blinding : proof.blindingFactors.length = statement.tokens.length) :
    (statement.recompute proof).tokens.length = proof.values.length := by
  simp [recompute, values, blinding]

/-- The transcript of an accepted proof determines the statement. -/
theorem Statement.eq_of_transcript_eq {left right : Statement S} {proof : Proof S}
    (leftAccepted : left.verify proof = .ok ())
    (rightAccepted : right.verify proof = .ok ())
    (same : left.transcript proof.commitmentToType (left.recompute proof) =
      right.transcript proof.commitmentToType (right.recompute proof)) :
        left = right := by
  obtain ⟨leftThree, leftValues, leftBlinding, -, -⟩ := verify_eq_ok.mp leftAccepted
  obtain ⟨rightThree, rightValues, rightBlinding, -, -⟩ := verify_eq_ok.mp rightAccepted
  have firsts := (length_recompute leftValues leftBlinding).trans
    (length_recompute rightValues rightBlinding).symm
  simp only [transcript, List.append_assoc,
    encodeAll_append_inj (leftThree.trans rightThree.symm),
    encodeAll_append_inj (leftValues.symm.trans rightValues), encodeAll_append_inj firsts,
    encode_append_inj, List.cons.injEq, and_true] at same
  obtain ⟨generators, tokens, -, -, -, flag⟩ := same
  have anonymous : left.anonymous = right.anonymous := by
    cases leftFlag : left.anonymous <;> cases rightFlag : right.anonymous <;>
      simp [leftFlag, rightFlag] at flag ⊢
  calc left = ⟨left.generators, left.tokens, left.anonymous⟩ := rfl
    _ = right := by rw [generators, tokens, anonymous]

end Issue.WellFormedness

namespace Transfer.WellFormedness

omit [FixedWidthEncoding S.G1] in
theorem Statement.length_recomputeSide {statement : Statement S}
    {tokens first : List S.G1} {values blinding : List S.Scalar} {proof : Proof S}
    (recomputed : statement.recomputeSide tokens values blinding proof = .ok first) :
    tokens.length = values.length ∧ first.length = values.length + 1 := by
  obtain ⟨valuesLength, blindingLength, rfl⟩ := recomputeSide_eq_ok.mp recomputed
  have lengths := valuesLength.trans blindingLength.symm
  simp [length_commitSide _ _ _ lengths, valuesLength]

/-- The transcript of a proof determines the tokens on both sides. -/
theorem Statement.eq_of_transcript_eq {left right : Statement S} {proof : Proof S}
    {leftFirst rightFirst : FirstMessages S}
    (leftRecomputed : left.recompute proof = .ok leftFirst)
    (rightRecomputed : right.recompute proof = .ok rightFirst)
    (same : left.transcript leftFirst = right.transcript rightFirst) :
    left.inputs = right.inputs ∧ left.outputs = right.outputs := by
  obtain ⟨leftInputSide, leftOutputSide⟩ := recompute_eq_ok.mp leftRecomputed
  obtain ⟨rightInputSide, rightOutputSide⟩ := recompute_eq_ok.mp rightRecomputed
  obtain ⟨leftInputs, leftInputFirst⟩ := length_recomputeSide leftInputSide
  obtain ⟨leftOutputs, leftOutputFirst⟩ := length_recomputeSide leftOutputSide
  obtain ⟨rightInputs, rightInputFirst⟩ := length_recomputeSide rightInputSide
  obtain ⟨rightOutputs, rightOutputFirst⟩ := length_recomputeSide rightOutputSide
  simp only [transcript, List.append_assoc,
    encodeAll_append_inj (leftInputFirst.trans rightInputFirst.symm),
    encodeAll_append_inj (leftOutputFirst.trans rightOutputFirst.symm),
    encodeAll_append_inj (leftInputs.trans rightInputs.symm),
    encodeAll_inj (leftOutputs.trans rightOutputs.symm)] at same
  exact same.2.2

end Transfer.WellFormedness

namespace Transfer.TypeAndSum

omit [FixedWidthEncoding S.G1] in
theorem Statement.length_recompute {statement : Statement S} {proof : Proof S}
    (fits : proof.Fits statement) :
    (statement.recompute proof).inputs.length = proof.inputValues.length := by
  simp [recompute, headless, fits.values, fits.blinding]

variable [LawfulG1 S] [Nontrivial S.G1]

/-- The transcript of an accepted proof determines the tokens on both sides. A
proof does not tell how many outputs there are, the length of its transcript
does. -/
theorem Statement.eq_of_transcript_eq {left right : Statement S} {proof : Proof S}
    (leftFits : proof.Fits left) (rightFits : proof.Fits right)
    (same : left.transcript proof.commitmentToType (left.recompute proof) =
      right.transcript proof.commitmentToType (right.recompute proof)) :
    left.inputs = right.inputs ∧ left.outputs = right.outputs := by
  have firsts := (length_recompute leftFits).trans (length_recompute rightFits).symm
  have inputs := leftFits.values.symm.trans rightFits.values
  have headlessInputs : (left.headless proof.commitmentToType).inputs.length =
      (right.headless proof.commitmentToType).inputs.length := by
    simp [headless, inputs]
  have headlessOutputs : (left.headless proof.commitmentToType).outputs.length =
      (right.headless proof.commitmentToType).outputs.length := by
    have lengths := congrArg List.length same
    simp only [transcript, List.length_append, length_encodeAll, firsts, headlessInputs,
      FixedWidthEncoding.length_encode] at lengths
    refine Nat.eq_of_mul_eq_mul_right (width_pos (α := S.G1)) ?_
    omega
  simp only [transcript, List.append_assoc, encodeAll_append_inj firsts,
    encodeAll_append_inj headlessInputs, encodeAll_append_inj headlessOutputs,
    encode_append_inj] at same
  obtain ⟨-, -, -, inputsSame, outputsSame, -⟩ := same
  have injective : Function.Injective fun token : S.G1 =>
      token - proof.commitmentToType :=
    sub_left_injective
  exact ⟨List.map_injective_iff.mpr injective inputsSame,
    List.map_injective_iff.mpr injective outputsSame⟩

end Transfer.TypeAndSum

namespace DigitRange

/-- The transcript of an accepted proof determines the tokens. -/
theorem Statement.eq_of_transcript_eq {left right : Statement S} {proof : RangeProof S}
    {leftFirst rightFirst : FirstMessages S} (leftAccepted : left.verify proof = .ok ())
    (rightAccepted : right.verify proof = .ok ())
    (same : left.transcript leftFirst (proof.digits.map DigitProofs.commitments) =
      right.transcript rightFirst (proof.digits.map DigitProofs.commitments)) :
    left.tokens = right.tokens := by
  obtain ⟨-, leftCount, -⟩ := verify_eq_ok.mp leftAccepted
  obtain ⟨-, rightCount, -⟩ := verify_eq_ok.mp rightAccepted
  simp only [transcript, List.append_assoc, encode_append_inj,
    encodeAll_append_inj (leftCount.symm.trans rightCount)] at same
  exact same.2.1

end DigitRange

variable [LawfulG1 S] [Nontrivial S.G1]

/-- Where one proof is accepted for two statements, the strings that both
verifications hash are different and have one hash. This is so for the proofs of
an issue, for both kinds of proofs of conservation, and for range proofs by
digits. -/
theorem collision_of_two_statements :
    (∀ (proof : Issue.WellFormedness.Proof S)
      (left right : Issue.WellFormedness.Statement S),
      left ≠ right → left.verify proof = .ok () → right.verify proof = .ok () →
      Collision S (left.transcript proof.commitmentToType (left.recompute proof))
        (right.transcript proof.commitmentToType (right.recompute proof))) ∧
    (∀ (proof : Transfer.WellFormedness.Proof S)
        (left right : Transfer.WellFormedness.Statement S),
      (left.inputs, left.outputs) ≠ (right.inputs, right.outputs) →
      left.verify proof = .ok () → right.verify proof = .ok () →
      ∃ leftFirst rightFirst, left.recompute proof = .ok leftFirst ∧
        right.recompute proof = .ok rightFirst ∧
        Collision S (left.transcript leftFirst) (right.transcript rightFirst)) ∧
    (∀ (proof : Transfer.TypeAndSum.Proof S)
      (left right : Transfer.TypeAndSum.Statement S),
      (left.inputs, left.outputs) ≠ (right.inputs, right.outputs) →
      left.verify proof = .ok () → right.verify proof = .ok () →
      Collision S (left.transcript proof.commitmentToType (left.recompute proof))
        (right.transcript proof.commitmentToType (right.recompute proof))) ∧
    ∀ (proof : DigitRange.RangeProof S) (left right : DigitRange.Statement S),
      left.tokens ≠ right.tokens → left.verify proof = .ok () →
        right.verify proof = .ok () →
      ∃ leftFirst rightFirst, left.recompute proof = .ok leftFirst ∧
        right.recompute proof = .ok rightFirst ∧
        Collision S (left.transcript leftFirst
          (proof.digits.map DigitRange.DigitProofs.commitments))
          (right.transcript rightFirst
            (proof.digits.map DigitRange.DigitProofs.commitments)) := by
  refine ⟨?_, ?_, ?_, ?_⟩
  · intro proof left right different leftAccepted rightAccepted
    obtain ⟨-, -, -, -, leftHashed⟩ :=
      Issue.WellFormedness.Statement.verify_eq_ok.mp leftAccepted
    obtain ⟨-, -, -, -, rightHashed⟩ :=
      Issue.WellFormedness.Statement.verify_eq_ok.mp rightAccepted
    exact ⟨fun same =>
      different (Issue.WellFormedness.Statement.eq_of_transcript_eq leftAccepted
      rightAccepted same), leftHashed.trans rightHashed.symm⟩
  · intro proof left right different leftAccepted rightAccepted
    obtain ⟨-, leftFirst, leftRecomputed, leftHashed⟩ :=
      Transfer.WellFormedness.Statement.verify_eq_ok.mp leftAccepted
    obtain ⟨-, rightFirst, rightRecomputed, rightHashed⟩ :=
      Transfer.WellFormedness.Statement.verify_eq_ok.mp rightAccepted
    refine ⟨leftFirst, rightFirst, leftRecomputed, rightRecomputed, fun same =>
      different ?_, leftHashed.trans rightHashed.symm⟩
    exact Prod.mk_inj.mpr
      (Transfer.WellFormedness.Statement.eq_of_transcript_eq leftRecomputed
      rightRecomputed same)
  · intro proof left right different leftAccepted rightAccepted
    obtain ⟨-, leftFits, leftHashed⟩ :=
      Transfer.TypeAndSum.Statement.verify_eq_ok.mp leftAccepted
    obtain ⟨-, rightFits, rightHashed⟩ :=
      Transfer.TypeAndSum.Statement.verify_eq_ok.mp rightAccepted
    refine ⟨fun same => different ?_, leftHashed.trans rightHashed.symm⟩
    exact Prod.mk_inj.mpr
      (Transfer.TypeAndSum.Statement.eq_of_transcript_eq leftFits rightFits same)
  · intro proof left right different leftAccepted rightAccepted
    obtain ⟨-, -, -, leftFirst, leftRecomputed, leftHashed⟩ :=
      DigitRange.Statement.verify_eq_ok.mp leftAccepted
    obtain ⟨-, -, -, rightFirst, rightRecomputed, rightHashed⟩ :=
      DigitRange.Statement.verify_eq_ok.mp rightAccepted
    refine ⟨leftFirst, rightFirst, leftRecomputed, rightRecomputed, fun same =>
      different ?_, leftHashed.trans rightHashed.symm⟩
    exact DigitRange.Statement.eq_of_transcript_eq leftAccepted rightAccepted same

namespace Collision.Sample

open Bn254

/-- The suite of exponents with a hash that tells nothing apart. -/
abbrev suite : Suite :=
  { exponentSuite with hashToScalar := fun _ => 0 }

instance : LawfulG1 suite :=
  inferInstanceAs (LawfulG1 exponentSuite)

instance : FixedWidthEncoding suite.G1 :=
  inferInstanceAs (FixedWidthEncoding Fr)

instance : Nontrivial suite.G1 :=
  ⟨(0 : Fr), (1 : Fr), by decide +kernel⟩

def issue (anonymous : Bool) : Issue.WellFormedness.Statement suite :=
  ⟨[2, 3, 5], [19], anonymous⟩

def issueProof : Issue.WellFormedness.Proof suite where
  tokenType := 5
  values := [7]
  blindingFactors := [11]
  typeBlinding := 13
  disclosedType := "ABC"
  commitmentToType := 17
  challenge := 0

def transfer (outputs : List Fr) : Transfer.WellFormedness.Statement suite :=
  ⟨[2, 3, 5], [19], outputs⟩

def transferProof : Transfer.WellFormedness.Proof suite where
  inputValues := [7]
  inputBlinding := [11]
  outputValues := [13, 17]
  outputBlinding := [23, 29]
  tokenType := 31
  sum := 37
  challenge := 0

def hiddenTransfer (outputs : List Fr) : Transfer.TypeAndSum.Statement suite :=
  ⟨[2, 3, 5], [19], outputs⟩

def hiddenTransferProof : Transfer.TypeAndSum.Proof suite where
  commitmentToType := 5
  inputBlinding := [7]
  inputValues := [11]
  tokenType := 13
  typeBlinding := 17
  sumBlinding := 23
  challenge := 0

def range (tokens : List Fr) : DigitRange.Statement suite where
  tokens := tokens
  generators := [2, 3, 5]
  parameters := {
    base := 2
    exponent := 1
    keyParts := [7, 11, 13]
    keyBase := 17
    blindingPoint := 19
    signatures := [⟨1, 2⟩, ⟨1, 3⟩] }

def digitProofs (commitment : Fr) : DigitRange.DigitProofs suite where
  commitments := [commitment]
  memberships := [{
    challenge := 0
    signature := ⟨1, 2⟩
    value := 3
    commitmentBlinding := 5
    signatureBlinding := 7
    hash := 11
    commitment := commitment }]

def rangeProof : DigitRange.RangeProof suite where
  challenge := 0
  equality := ⟨5, [7, 11], [13, 17], [19, 23]⟩
  digits := [digitProofs 29, digitProofs 31]

/-- With a constant hash a proof is accepted where the flag is flipped, tokens
are swapped, or a token is dropped. -/
theorem collisions_of_constant_hash :
    Collision suite
        ((issue true).transcript issueProof.commitmentToType
          ((issue true).recompute issueProof))
        ((issue false).transcript issueProof.commitmentToType
          ((issue false).recompute issueProof)) ∧
      (∃ leftFirst rightFirst,
        Collision suite ((transfer [41, 43]).transcript leftFirst)
          ((transfer [43, 41]).transcript rightFirst)) ∧
      Collision suite
        ((hiddenTransfer [41, 43]).transcript hiddenTransferProof.commitmentToType
          ((hiddenTransfer [41, 43]).recompute hiddenTransferProof))
        ((hiddenTransfer [41]).transcript hiddenTransferProof.commitmentToType
          ((hiddenTransfer [41]).recompute hiddenTransferProof)) ∧
      ∃ leftFirst rightFirst,
        Collision suite ((range [41, 43]).transcript leftFirst [[29], [31]])
          ((range [43, 41]).transcript rightFirst [[29], [31]]) := by
  obtain ⟨issues, clear, hidden, digits⟩ := collision_of_two_statements (S := suite)
  refine ⟨issues issueProof (issue true) (issue false) (by simp [issue]) rfl rfl, ?_,
    ?_, ?_⟩
  · have swapped : ((transfer [41, 43]).inputs, (transfer [41, 43]).outputs) ≠
        ((transfer [43, 41]).inputs, (transfer [43, 41]).outputs) := by decide +kernel
    obtain ⟨leftFirst, rightFirst, -, -, collision⟩ :=
      clear transferProof _ _ swapped rfl rfl
    exact ⟨leftFirst, rightFirst, collision⟩
  · have dropped : ((hiddenTransfer [41, 43]).inputs, (hiddenTransfer [41, 43]).outputs) ≠
        ((hiddenTransfer [41]).inputs, (hiddenTransfer [41]).outputs) := by decide +kernel
    exact hidden hiddenTransferProof _ _ dropped rfl rfl
  · have swapped : (range [41, 43]).tokens ≠ (range [43, 41]).tokens := by decide +kernel
    obtain ⟨leftFirst, rightFirst, -, -, collision⟩ :=
      digits rangeProof _ _ swapped rfl rfl
    exact ⟨leftFirst, rightFirst, collision⟩

end Collision.Sample

end ConfidentialToken
