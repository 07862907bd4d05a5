import ConfidentialToken.Issue.Action
import ConfidentialToken.Issue.Anonymous
import ConfidentialToken.Issue.Proof
import ConfidentialToken.Proofs.Encoding
import ConfidentialToken.Proofs.Json.Lawful
import ConfidentialToken.SigningKey
import ConfidentialToken.Transfer.Action
import ConfidentialToken.Transfer.Proof

/-!
Objects with elements of a suite.

Such an object is read back as it was written if its elements are decoded as
they were encoded. In a suite in which this holds of all elements, all objects
are read back.
-/

namespace ConfidentialToken

namespace Json

/-- A JSON form from which a value is read back if its elements are decoded as
they were encoded. -/
class ElementwiseForm (α : Type) [JsonForm α] where
  /-- Whether the elements of a suite in a value are decoded as they were
  encoded. -/
  Decodes : α → Prop
  roundTrips : ∀ value : α, Decodes value → RoundTrips value

export ElementwiseForm (Decodes)

section

variable {α : Type} [JsonForm α] [ElementwiseForm α]

@[simp]
theorem plain_of_decodes {value : α} (decodes : Decodes value) : (toJson value).Plain :=
  (ElementwiseForm.roundTrips value decodes).plain

@[simp]
theorem fromJson_of_decodes {value : α} (decodes : Decodes value) :
    fromJson (toJson value) = some value :=
  (ElementwiseForm.roundTrips value decodes).back

@[simp]
theorem required_of_decodes {value : α} (decodes : Decodes value) :
    required (some (toJson value)) = some value :=
  fromJson_of_decodes decodes

theorem read_write_of_decodes {value : α} (decodes : Decodes value) :
    Json.read (write value) = .ok value :=
  (ElementwiseForm.roundTrips value decodes).read_write

instance : ElementwiseForm (List α) where
  Decodes values := ∀ value ∈ values, Decodes value
  roundTrips _ decodes :=
    roundTrips_list fun value membership =>
      ElementwiseForm.roundTrips value (decodes value membership)

end

/-- A JSON form all of whose values have elements that are decoded as they were
encoded. -/
class FaithfulForm (α : Type) [JsonForm α] [ElementwiseForm α] : Prop where
  decodes : ∀ value : α, Decodes value

export FaithfulForm (decodes)

instance (priority := low) {α : Type} [JsonForm α] [ElementwiseForm α] [FaithfulForm α] :
    LawfulForm α where
  roundTrips value := ElementwiseForm.roundTrips value (decodes value)

instance {α : Type} [JsonForm α] [ElementwiseForm α] [FaithfulForm α] :
    FaithfulForm (List α) where
  decodes _ value _ := decodes value

end Json

open Json

variable {S : Suite}

instance : ElementwiseForm S.Scalar where
  Decodes scalar := decodeElement (encode scalar) = .ok scalar
  roundTrips _ := roundTrips_element

instance : ElementwiseForm S.G1 where
  Decodes point := decodeElement (encode point) = .ok point
  roundTrips _ := roundTrips_element

instance : ElementwiseForm S.G2 where
  Decodes point := decodeElement (encode point) = .ok point
  roundTrips _ := roundTrips_element

instance : ElementwiseForm (PsSignature.Signature S) where
  Decodes signature := Decodes signature.r ∧ Decodes signature.s
  roundTrips := by
    intro signature decodes
    have fields : (toJson signature).fields ["r", "s"] =
        some [some (toJson signature.r), some (toJson signature.s)] :=
      fields_object rfl (by decide)
    exact ⟨.object (by simp [decodes]), by simp [fromJson, fields, decodes]⟩

instance : ElementwiseForm (MembershipProof.Proof S) where
  Decodes proof :=
    Decodes proof.challenge ∧ Decodes proof.signature ∧ Decodes proof.value ∧
    Decodes proof.commitmentBlinding ∧ Decodes proof.signatureBlinding ∧
    Decodes proof.hash ∧
    Decodes proof.commitment
  roundTrips := by
    intro proof decodes
    have fields : (toJson proof).fields [
          "challenge", "signature", "value", "com_blinding_factor",
          "sig_blinding_factor", "hash", "commitment"] = some [
          some (toJson proof.challenge), some (toJson proof.signature),
          some (toJson proof.value),
          some (toJson proof.commitmentBlinding), some (toJson proof.signatureBlinding),
          some (toJson proof.hash), some (toJson proof.commitment)] :=
      fields_object rfl (by decide)
    exact ⟨.object (by simp [decodes]), by simp [fromJson, fields, decodes]⟩

instance : ElementwiseForm (DigitRange.DigitProofs S) where
  Decodes proofs := Decodes proofs.commitments ∧ Decodes proofs.memberships
  roundTrips := by
    intro proofs decodes
    have fields : (toJson proofs).fields ["commitments", "signature_proofs"] =
        some [some (toJson proofs.commitments), some (toJson proofs.memberships)] :=
      fields_object rfl (by decide)
    exact ⟨.object (by simp [decodes]), by simp [fromJson, fields, decodes]⟩

instance : ElementwiseForm (DigitRange.EqualityProofs S) where
  Decodes proofs := Decodes proofs.tokenType ∧ Decodes proofs.values ∧
    Decodes proofs.tokenBlinding ∧ Decodes proofs.digitBlinding
  roundTrips := by
    intro proofs decodes
    have fields : (toJson proofs).fields [
          "type", "value", "token_blinding_factor", "commitment_blinding_factor"] = some [
          some (toJson proofs.tokenType), some (toJson proofs.values),
          some (toJson proofs.tokenBlinding), some (toJson proofs.digitBlinding)] :=
      fields_object rfl (by decide)
    exact ⟨.object (by simp [decodes]), by simp [fromJson, fields, decodes]⟩

instance : ElementwiseForm (DigitRange.RangeProof S) where
  Decodes proof := Decodes proof.challenge ∧ Decodes proof.equality ∧ Decodes proof.digits
  roundTrips := by
    intro proof decodes
    have fields : (toJson proof).fields [
          "challenge", "equality_proofs", "membership_proofs"] = some [
          some (toJson proof.challenge), some (toJson proof.equality),
          some (toJson proof.digits)] :=
      fields_object rfl (by decide)
    exact ⟨.object (by simp [decodes]), by simp [fromJson, fields, decodes]⟩

instance : ElementwiseForm (Bulletproof.InnerProduct.Proof S) where
  Decodes proof :=
    Decodes proof.left ∧ Decodes proof.right ∧ Decodes proof.l ∧ Decodes proof.r
  roundTrips := by
    intro proof decodes
    have fields : (toJson proof).fields ["left", "right", "l", "r"] = some [
          some (toJson proof.left), some (toJson proof.right), some (toJson proof.l),
          some (toJson proof.r)] :=
      fields_object rfl (by decide)
    exact ⟨.object (by simp [decodes]), by simp [fromJson, fields, decodes]⟩

instance : ElementwiseForm (Bulletproof.RangeProof S) where
  Decodes proof :=
    Decodes proof.t1 ∧ Decodes proof.t2 ∧ Decodes proof.tau ∧ Decodes proof.c ∧
    Decodes proof.d ∧ Decodes proof.delta ∧ Decodes proof.innerProduct ∧
    Decodes proof.argument
  roundTrips := by
    intro proof decodes
    have fields : (toJson proof).fields [
          "t1", "t2", "tau", "c", "d", "delta", "inner_product", "ipa"] = some [
          some (toJson proof.t1), some (toJson proof.t2), some (toJson proof.tau),
          some (toJson proof.c), some (toJson proof.d), some (toJson proof.delta),
          some (toJson proof.innerProduct), some (toJson proof.argument)] :=
      fields_object rfl (by decide)
    exact ⟨.object (by simp [decodes]), by simp [fromJson, fields, decodes]⟩

instance : ElementwiseForm (Bulletproof.RangeProofs S) where
  Decodes proofs := Decodes proofs.proofs
  roundTrips := by
    intro proofs decodes
    have fields : (toJson proofs).fields ["proofs"] =
        some [some (toJson proofs.proofs)] :=
      fields_object rfl (by decide)
    exact ⟨.object (by simp [decodes]), by simp [fromJson, fields, decodes]⟩

instance : ElementwiseForm (Transfer.WellFormedness.Proof S) where
  Decodes proof := Decodes proof.inputValues ∧ Decodes proof.inputBlinding ∧
    Decodes proof.outputValues ∧ Decodes proof.outputBlinding ∧ Decodes proof.tokenType ∧
    Decodes proof.sum ∧ Decodes proof.challenge
  roundTrips := by
    intro proof decodes
    have fields : (toJson proof).fields [
          "input_values", "input_blinding_factors", "output_values",
          "output_blinding_factors", "type", "sum", "challenge"] = some [
          some (toJson proof.inputValues), some (toJson proof.inputBlinding),
          some (toJson proof.outputValues), some (toJson proof.outputBlinding),
          some (toJson proof.tokenType), some (toJson proof.sum),
          some (toJson proof.challenge)] :=
      fields_object rfl (by decide)
    exact ⟨.object (by simp [decodes]), by simp [fromJson, fields, decodes]⟩

instance : ElementwiseForm (Transfer.TypeAndSum.Proof S) where
  Decodes proof := Decodes proof.commitmentToType ∧ Decodes proof.inputBlinding ∧
    Decodes proof.inputValues ∧ Decodes proof.tokenType ∧ Decodes proof.typeBlinding ∧
    Decodes proof.sumBlinding ∧ Decodes proof.challenge
  roundTrips := by
    intro proof decodes
    have fields : (toJson proof).fields [
          "commitment_to_type", "input_blinding_factors", "input_values", "type",
          "type_blinding_factor", "equality_of_sum", "challenge"] = some [
          some (toJson proof.commitmentToType), some (toJson proof.inputBlinding),
          some (toJson proof.inputValues), some (toJson proof.tokenType),
          some (toJson proof.typeBlinding), some (toJson proof.sumBlinding),
          some (toJson proof.challenge)] :=
      fields_object rfl (by decide)
    exact ⟨.object (by simp [decodes]), by simp [fromJson, fields, decodes]⟩

instance : ElementwiseForm (Issue.WellFormedness.Proof S) where
  Decodes proof :=
    Decodes proof.tokenType ∧ Decodes proof.values ∧ Decodes proof.blindingFactors ∧
    Decodes proof.typeBlinding ∧ Decodes proof.commitmentToType ∧ Decodes proof.challenge
  roundTrips := by
    intro proof decodes
    have fields : (toJson proof).fields [
          "type", "values", "blinding_factors", "type_blinding_factor",
          "type_in_the_clear", "commitment_to_type", "challenge"] = some [
          some (toJson proof.tokenType), some (toJson proof.values),
          some (toJson proof.blindingFactors), some (toJson proof.typeBlinding),
          some (toJson proof.disclosedType), some (toJson proof.commitmentToType),
          some (toJson proof.challenge)] :=
      fields_object rfl (by decide)
    exact ⟨.object (by simp [decodes]), by simp [fromJson, fields, decodes]⟩

instance : ElementwiseForm (OneOutOfMany.Commitments S) where
  Decodes commitments :=
    Decodes commitments.l ∧ Decodes commitments.a ∧ Decodes commitments.b ∧
    Decodes commitments.d
  roundTrips := by
    intro commitments decodes
    have fields : (toJson commitments).fields ["l", "a", "b", "d"] = some [
          some (toJson commitments.l), some (toJson commitments.a),
          some (toJson commitments.b), some (toJson commitments.d)] :=
      fields_object rfl (by decide)
    exact ⟨.object (by simp [decodes]), by simp [fromJson, fields, decodes]⟩

instance : ElementwiseForm (OneOutOfMany.Values S) where
  Decodes values :=
    Decodes values.l ∧ Decodes values.a ∧ Decodes values.b ∧ Decodes values.d
  roundTrips := by
    intro values decodes
    have fields : (toJson values).fields ["l", "a", "b", "d"] = some [
          some (toJson values.l), some (toJson values.a), some (toJson values.b),
          some (toJson values.d)] :=
      fields_object rfl (by decide)
    exact ⟨.object (by simp [decodes]), by simp [fromJson, fields, decodes]⟩

instance : ElementwiseForm (OneOutOfMany.Proof S) where
  Decodes proof := Decodes proof.commitments ∧ Decodes proof.values
  roundTrips := by
    intro proof decodes
    have fields : (toJson proof).fields ["commitments", "values"] =
        some [some (toJson proof.commitments), some (toJson proof.values)] :=
      fields_object rfl (by decide)
    exact ⟨.object (by simp [decodes]), by simp [fromJson, fields, decodes]⟩

instance : ElementwiseForm (AnonymousIssuer.TypeProof S) where
  Decodes proof := Decodes proof.challenge ∧ Decodes proof.pseudonym ∧
    Decodes proof.commitmentToType
  roundTrips := by
    intro proof decodes
    have fields : (toJson proof).fields ["challenge", "nym", "commitment_to_type"] =
      some [
          some (toJson proof.challenge), some (toJson proof.pseudonym),
          some (toJson proof.commitmentToType)] :=
      fields_object rfl (by decide)
    exact ⟨.object (by simp [decodes]), by simp [fromJson, fields, decodes]⟩

instance : ElementwiseForm (AnonymousIssuer.Signature S) where
  Decodes signature := Decodes signature.authorization ∧ Decodes signature.typeProof
  roundTrips := by
    intro signature decodes
    have fields :
      (toJson signature).fields ["authorization_correctness", "type_correctness"] =
        some [some (toJson signature.authorization), some (toJson signature.typeProof)] :=
      fields_object rfl (by decide)
    exact ⟨.object (by simp [decodes]), by simp [fromJson, fields, decodes]⟩

instance : ElementwiseForm (KeySignature S) where
  Decodes signature := Decodes signature.challenge ∧ Decodes signature.response
  roundTrips := by
    intro signature decodes
    have fields : (toJson signature).fields ["challenge", "response"] =
        some [some (toJson signature.challenge), some (toJson signature.response)] :=
      fields_object rfl (by decide)
    exact ⟨.object (by simp [decodes]), by simp [fromJson, fields, decodes]⟩

instance : ElementwiseForm (Token S) where
  Decodes token := Decodes token.commitment
  roundTrips := by
    intro token decodes
    have fields : (toJson token).fields ["owner", "data"] =
        some [some (hex token.owner), some (toJson token.commitment)] :=
      fields_object rfl (by decide)
    refine ⟨.object (by simp [plain_hex, decodes]), ?_⟩
    simp [fromJson, fields, requiredHex_hex, decodes]

instance : ElementwiseForm (Metadata S) where
  Decodes metadata := Decodes metadata.value ∧ Decodes metadata.blindingFactor
  roundTrips := by
    intro metadata decodes
    have fields : (toJson metadata).fields [
          "type", "value", "blinding_factor", "owner", "issuer"] = some [
          some (toJson metadata.tokenType), some (toJson metadata.value),
          some (toJson metadata.blindingFactor), some (hex metadata.owner),
          some (hex metadata.issuer)] :=
      fields_object rfl (by decide)
    refine ⟨.object (by simp [plain_hex, decodes]), ?_⟩
    simp [fromJson, fields, optionalHex_hex, decodes]

instance : ElementwiseForm (TransferAction S) where
  Decodes action := Decodes action.inputTokens ∧ Decodes action.outputs
  roundTrips := by
    intro action decodes
    have fields : (toJson action).fields [
          "inputs", "input_tokens", "output_tokens", "proof", "metadata"] = some [
          some (toJson action.inputs), some (toJson action.inputTokens),
          some (toJson action.outputs), some (hex action.proof),
          some (toJson action.metadata)] :=
      fields_object rfl (by decide)
    refine ⟨.object (by simp [plain_hex, decodes]), ?_⟩
    simp [fromJson, fields, requiredHex_hex, decodes]

instance : ElementwiseForm (IssueAction S) where
  Decodes action := Decodes action.outputs
  roundTrips := by
    intro action decodes
    have fields : (toJson action).fields [
          "issuer", "outputs", "proof", "anonymous", "metadata"] = some [
          some (toJson action.issuer), some (toJson action.outputs),
          some (hex action.proof),
          some (toJson action.anonymous), some (toJson action.metadata)] :=
      fields_object rfl (by decide)
    refine ⟨.object (by simp [plain_hex, decodes]), ?_⟩
    simp [fromJson, fields, requiredHex_hex, decodes]

instance : ElementwiseForm (Bulletproof.Parameters S) where
  Decodes parameters :=
    Decodes parameters.leftGenerators ∧ Decodes parameters.rightGenerators ∧
    Decodes parameters.p ∧ Decodes parameters.q
  roundTrips := by
    intro parameters decodes
    have fields : (toJson parameters).fields [
          "left_generators", "right_generators", "p", "q", "bit_length",
          "number_of_rounds"] = some [
          some (toJson parameters.leftGenerators),
          some (toJson parameters.rightGenerators),
          some (toJson parameters.p), some (toJson parameters.q),
          some (toJson parameters.bitLength), some (toJson parameters.rounds)] :=
      fields_object rfl (by decide)
    exact ⟨.object (by simp [decodes]), by simp [fromJson, fields, decodes]⟩

instance : ElementwiseForm (DigitRange.Parameters S) where
  Decodes parameters := Decodes parameters.keyParts ∧ Decodes parameters.keyBase ∧
    Decodes parameters.blindingPoint ∧ Decodes parameters.signatures
  roundTrips := by
    intro parameters decodes
    have fields : (toJson parameters).fields [
          "base", "exponent", "pk", "q", "p", "signed_values"] = some [
          some (toJson parameters.base), some (toJson parameters.exponent),
          some (toJson parameters.keyParts), some (toJson parameters.keyBase),
          some (toJson parameters.blindingPoint), some (toJson parameters.signatures)] :=
      fields_object rfl (by decide)
    exact ⟨.object (by simp [decodes]), by simp [fromJson, fields, decodes]⟩

instance : ElementwiseForm (IssuingPolicy S) where
  Decodes policy := Decodes policy.keys
  roundTrips := by
    intro policy decodes
    have fields : (toJson policy).fields ["issuers", "issuers_number", "bit_length"] =
      some [
          some (toJson policy.keys), some (toJson policy.issuerCount),
          some (toJson policy.bitLength)] :=
      fields_object rfl (by decide)
    exact ⟨.object (by simp [decodes]), by simp [fromJson, fields, decodes]⟩

namespace RangeCorrectness

/-- Whether the elements in a range proof are decoded as they were encoded. -/
def ElementsDecode : RangeCorrectness S → Prop
  | .bulletproof proofs => Decodes proofs
  | .membership proof => Decodes proof

theorem ElementsDecode.plain {correctness : RangeCorrectness S}
    (decodes : correctness.ElementsDecode) : (toJson correctness).Plain := by
  apply plain_pair (.string _)
  cases correctness with
  | bulletproof proofs => exact plain_of_decodes decodes
  | membership proof => exact plain_of_decodes decodes

theorem ElementsDecode.ofJson_toJson (enclosing : Nat) {correctness : RangeCorrectness S}
    (decodes : correctness.ElementsDecode) :
    ofJson enclosing (toJson correctness) = some correctness := by
  cases correctness with
  | bulletproof proofs =>
      have tagged : (toJson (bulletproof proofs)).tagged "engine" "proof" enclosing =
          some ("bulletproof", toJson proofs) :=
        tagged_object (by decide) _ _ _
      have back : fromJson (toJson proofs) = some proofs := fromJson_of_decodes decodes
      simp [ofJson, tagged, RangeEngine.ofName?, back]
  | membership proof =>
      have tagged : (toJson (membership proof)).tagged "engine" "proof" enclosing =
          some ("membership", toJson proof) :=
        tagged_object (by decide) _ _ _
      have back : fromJson (toJson proof) = some proof := fromJson_of_decodes decodes
      simp [ofJson, tagged, RangeEngine.ofName?, back]

end RangeCorrectness

namespace Transfer.Conservation

/-- Whether the elements in a proof of conservation are decoded as they were
encoded. -/
def ElementsDecode : Conservation S → Prop
  | .wellFormedness proof => Decodes proof
  | .typeAndSum proof => Decodes proof

theorem ElementsDecode.plain {conservation : Conservation S}
    (decodes : conservation.ElementsDecode) : (toJson conservation).Plain := by
  cases conservation with
  | wellFormedness proof => exact plain_pair (.string _) (plain_of_decodes decodes)
  | typeAndSum proof => exact plain_pair (.string _) (plain_of_decodes decodes)

theorem ElementsDecode.ofJson_toJson (enclosing : Nat) {conservation : Conservation S}
    (decodes : conservation.ElementsDecode) :
    ofJson enclosing (toJson conservation) = some conservation := by
  cases conservation with
  | wellFormedness proof =>
      have tagged : (toJson (wellFormedness proof)).tagged "kind" "proof" enclosing =
          some ("well_formedness", toJson proof) :=
        tagged_object (by decide) _ _ _
      have back : fromJson (toJson proof) = some proof := fromJson_of_decodes decodes
      simp [ofJson, tagged, back]
  | typeAndSum proof =>
      have tagged : (toJson (typeAndSum proof)).tagged "kind" "proof" enclosing =
          some ("type_and_sum", toJson proof) :=
        tagged_object (by decide) _ _ _
      have back : fromJson (toJson proof) = some proof := fromJson_of_decodes decodes
      simp [ofJson, tagged, back]

end Transfer.Conservation

instance : ElementwiseForm (Issue.Proof S) where
  Decodes proof := Decodes proof.wellFormedness ∧ proof.rangeCorrectness.ElementsDecode
  roundTrips := by
    rintro proof ⟨wellFormedness, rangeCorrectness⟩
    have fields : (toJson proof).fields ["well_formedness", "range_correctness"] =
        some [some (toJson proof.wellFormedness), some (toJson proof.rangeCorrectness)] :=
      fields_object rfl (by decide)
    refine ⟨plain_pair (plain_of_decodes wellFormedness) rangeCorrectness.plain, ?_⟩
    simp [fromJson, fields, wellFormedness, rangeCorrectness.ofJson_toJson]

instance : ElementwiseForm (Transfer.Proof S) where
  Decodes proof := proof.conservation.ElementsDecode ∧
    ∀ correctness ∈ proof.rangeCorrectness, correctness.ElementsDecode
  roundTrips := by
    rintro ⟨conservation, _ | correctness⟩ ⟨conserves, inRange⟩
    · refine ⟨plain_pair conserves.plain .null, ?_⟩
      have fields : (toJson (⟨conservation, none⟩ : Transfer.Proof S)).fields
          ["well_formedness", "range_correctness"] =
          some [some (toJson conservation), some .null] :=
        fields_object rfl (by decide)
      simp [fromJson, fields, conserves.ofJson_toJson]
    · have inRange := inRange correctness rfl
      refine ⟨plain_pair conserves.plain inRange.plain, ?_⟩
      have fields : (toJson (⟨conservation, some correctness⟩ : Transfer.Proof S)).fields
          ["well_formedness", "range_correctness"] =
          some [some (toJson conservation), some (toJson correctness)] :=
        fields_object rfl (by decide)
      simp only [fromJson, fields]
      simp [conserves.ofJson_toJson, inRange.ofJson_toJson]

section Faithful

instance [FaithfulEncoding S.Scalar] : FaithfulForm S.Scalar :=
  ⟨FaithfulEncoding.decode_encode⟩

instance [FaithfulEncoding S.G1] : FaithfulForm S.G1 := ⟨FaithfulEncoding.decode_encode⟩

instance [FaithfulEncoding S.G2] : FaithfulForm S.G2 := ⟨FaithfulEncoding.decode_encode⟩

instance [FaithfulEncoding S.Scalar] : FaithfulForm (Metadata S) :=
  ⟨fun _ => ⟨decodes _, decodes _⟩⟩

section

variable [FaithfulEncoding S.G1]

instance : FaithfulForm (PsSignature.Signature S) := ⟨fun _ => ⟨decodes _, decodes _⟩⟩

instance : FaithfulForm (Bulletproof.Parameters S) :=
  ⟨fun _ => ⟨decodes _, decodes _, decodes _, decodes _⟩⟩

instance [FaithfulEncoding S.G2] : FaithfulForm (DigitRange.Parameters S) :=
  ⟨fun _ => ⟨decodes _, decodes _, decodes _, decodes _⟩⟩

instance : FaithfulForm (IssuingPolicy S) := ⟨fun policy => decodes policy.keys⟩

end

variable [FaithfulEncoding S.Scalar] [FaithfulEncoding S.G1]

instance : FaithfulForm (MembershipProof.Proof S) :=
  ⟨fun _ => ⟨decodes _, decodes _, decodes _, decodes _, decodes _, decodes _, decodes _⟩⟩

instance : FaithfulForm (DigitRange.DigitProofs S) := ⟨fun _ => ⟨decodes _, decodes _⟩⟩

instance : FaithfulForm (DigitRange.EqualityProofs S) :=
  ⟨fun _ => ⟨decodes _, decodes _, decodes _, decodes _⟩⟩

instance : FaithfulForm (DigitRange.RangeProof S) :=
  ⟨fun _ => ⟨decodes _, decodes _, decodes _⟩⟩

instance : FaithfulForm (Bulletproof.InnerProduct.Proof S) :=
  ⟨fun _ => ⟨decodes _, decodes _, decodes _, decodes _⟩⟩

instance : FaithfulForm (Bulletproof.RangeProof S) :=
  ⟨fun _ =>
    ⟨decodes _, decodes _, decodes _, decodes _, decodes _, decodes _, decodes _,
    decodes _⟩⟩

instance : FaithfulForm (Bulletproof.RangeProofs S) :=
  ⟨fun proofs => decodes proofs.proofs⟩

instance : FaithfulForm (Transfer.WellFormedness.Proof S) :=
  ⟨fun _ => ⟨decodes _, decodes _, decodes _, decodes _, decodes _, decodes _, decodes _⟩⟩

instance : FaithfulForm (Transfer.TypeAndSum.Proof S) :=
  ⟨fun _ => ⟨decodes _, decodes _, decodes _, decodes _, decodes _, decodes _, decodes _⟩⟩

instance : FaithfulForm (Issue.WellFormedness.Proof S) :=
  ⟨fun _ => ⟨decodes _, decodes _, decodes _, decodes _, decodes _, decodes _⟩⟩

instance : FaithfulForm (OneOutOfMany.Commitments S) :=
  ⟨fun _ => ⟨decodes _, decodes _, decodes _, decodes _⟩⟩

instance : FaithfulForm (OneOutOfMany.Values S) :=
  ⟨fun _ => ⟨decodes _, decodes _, decodes _, decodes _⟩⟩

instance : FaithfulForm (OneOutOfMany.Proof S) := ⟨fun _ => ⟨decodes _, decodes _⟩⟩

instance : FaithfulForm (AnonymousIssuer.TypeProof S) :=
  ⟨fun _ => ⟨decodes _, decodes _, decodes _⟩⟩

instance : FaithfulForm (AnonymousIssuer.Signature S) := ⟨fun _ => ⟨decodes _, decodes _⟩⟩

instance : FaithfulForm (KeySignature S) := ⟨fun _ => ⟨decodes _, decodes _⟩⟩

instance : FaithfulForm (Token S) := ⟨fun token => decodes token.commitment⟩

instance : FaithfulForm (TransferAction S) := ⟨fun _ => ⟨decodes _, decodes _⟩⟩

instance : FaithfulForm (IssueAction S) := ⟨fun action => decodes action.outputs⟩

theorem RangeCorrectness.elementsDecode (correctness : RangeCorrectness S) :
    correctness.ElementsDecode := by
  cases correctness with
  | bulletproof proofs => exact decodes proofs
  | membership proof => exact decodes proof

theorem Transfer.Conservation.elementsDecode (conservation : Conservation S) :
    conservation.ElementsDecode := by
  cases conservation with
  | wellFormedness proof => exact decodes proof
  | typeAndSum proof => exact decodes proof

instance : FaithfulForm (Issue.Proof S) :=
  ⟨fun proof => ⟨decodes _, proof.rangeCorrectness.elementsDecode⟩⟩

instance : FaithfulForm (Transfer.Proof S) :=
  ⟨fun proof => ⟨proof.conservation.elementsDecode, fun correctness _ =>
    correctness.elementsDecode⟩⟩

end Faithful

end ConfidentialToken
