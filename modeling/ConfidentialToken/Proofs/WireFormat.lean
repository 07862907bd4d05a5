import ConfidentialToken.Proofs.Bn254.Decoding
import ConfidentialToken.Proofs.HashLock
import ConfidentialToken.Proofs.Json.Elementwise
import ConfidentialToken.PublicParameters
import ConfidentialToken.Request.Metadata

/-!
What is exchanged is read back as it was written.

Texts, byte strings and words are read back whatever they are, and elements of a
suite if they are decoded as they were encoded. The label of public parameters
is not among their own fields and comes back from the envelope.
-/

namespace ConfidentialToken

open Json

instance : LawfulForm IssueMetadata where
  roundTrips metadata := {
    plain := .object (by simp [plain_hexList])
    back := by
      have fields : (toJson metadata).fields [
          "issuer", "outputs", "outputs_metadata", "receivers",
          "receivers_audit_infos"] = some [
          some (toJson metadata.issuer), some (hexList metadata.outputs),
          some (hexList metadata.openings), some (toJson metadata.receivers),
          some (hexList metadata.auditInfos)] :=
        fields_object rfl (by decide)
      simp [fromJson, fields, optionalHexList_hexList] }

instance : LawfulForm TransferMetadata where
  roundTrips metadata := {
    plain := .object (by simp [plain_hexList])
    back := by
      have fields : (toJson metadata).fields [
          "token_ids", "senders", "sender_audit_infos", "outputs", "outputs_metadata",
          "output_audit_infos", "receivers", "receiver_audit_infos",
          "receiver_is_sender"] = some [
          some (toJson metadata.ids), some (toJson metadata.senders),
          some (hexList metadata.senderAuditInfos), some (hexList metadata.outputs),
          some (hexList metadata.openings), some (hexList metadata.outputAuditInfos),
          some (toJson metadata.receivers), some (hexList metadata.receiverAuditInfos),
          some (toJson metadata.receiverIsSender)] :=
        fields_object rfl (by decide)
      simp [fromJson, fields, optionalHexList_hexList] }

instance : LawfulForm RequestMetadata where
  roundTrips metadata := {
    plain := .object (by simp)
    back := by
      have fields : (toJson metadata).fields ["issues", "transfers", "application"] =
        some [
          some (toJson metadata.issues), some (toJson metadata.transfers),
          some (toJson metadata.application)] :=
        fields_object rfl (by decide)
      simp [fromJson, fields] }

instance : LawfulForm Curve where
  roundTrips curve := by
    cases curve
    exact ⟨.string _, rfl⟩

instance : LawfulForm Envelope where
  roundTrips envelope := {
    plain := .object (by simp [plain_hex])
    back := by
      have fields : (toJson envelope).fields ["Identifier", "Raw"] =
          some [some (toJson envelope.label), some (hex envelope.content)] :=
        fields_object rfl (by decide)
      simp [fromJson, fields, requiredHex_hex] }

namespace PublicParameters

variable {S : Suite} {parameters : PublicParameters S}

/-- All elements in public parameters are decoded as they were encoded. -/
structure ElementsDecode (parameters : PublicParameters S) : Prop where
  pedersen : Decodes parameters.pedersen
  bulletproof : ∀ bits ∈ parameters.bulletproof, Decodes bits
  membership : ∀ digits ∈ parameters.membership, Decodes digits
  policy : Decodes parameters.policy

/-- What the envelope contains are the parameters without their label. -/
theorem ElementsDecode.roundTrips (decodes : parameters.ElementsDecode) :
    RoundTrips { parameters with label := "" } := by
  have bulletproof : RoundTrips parameters.bulletproof :=
    roundTrips_option (fun bits present =>
      ElementwiseForm.roundTrips bits (decodes.bulletproof bits present)) nofun
  have membership : RoundTrips parameters.membership :=
    roundTrips_option (fun digits present =>
      ElementwiseForm.roundTrips digits (decodes.membership digits present)) nofun
  have fields : (toJson { parameters with label := "" }).fields [
      "curve", "pedersen_generators", "range_proof_params", "membership_params",
      "idemix_issuer_pk", "auditor", "issuer_ids", "issuing_policy", "max_token",
      "quantity_precision"] = some [
      some (toJson parameters.curve), some (toJson parameters.pedersen),
      some (toJson parameters.bulletproof), some (toJson parameters.membership),
      some (hex parameters.credentialKey), some (toJson parameters.auditor),
      some (toJson parameters.issuers), some (toJson parameters.policy),
      some (toJson parameters.maxToken), some (toJson parameters.precision)] :=
    fields_object rfl (by decide)
  constructor
  · refine .object ?_
    simp [plain_hex, decodes.pedersen, decodes.policy, bulletproof.plain,
      membership.plain]
  · have bits : optional none (some (toJson parameters.bulletproof)) =
        some parameters.bulletproof :=
      bulletproof.back
    have digits : optional none (some (toJson parameters.membership)) =
        some parameters.membership :=
      membership.back
    have policy :
        optional .empty (some (toJson parameters.policy)) = some parameters.policy :=
      fromJson_of_decodes decodes.policy
    simp [fromJson, fields, bits, digits, policy, optionalHex_hex, decodes.pedersen]

theorem ElementsDecode.deserialize_serialize (decodes : parameters.ElementsDecode) :
    deserialize parameters.serialize parameters.label = .ok parameters := by
  have content : Json.read (write parameters) = .ok { parameters with label := "" } :=
    decodes.roundTrips.read_write
  simp [deserialize, serialize, content]

end PublicParameters

/-- Every object that is exchanged is read back as it was written, if the
elements of the suite in it are decoded as they were encoded. -/
theorem objects_read_back (S : Suite) :
    (∀ request : TokenRequest, TokenRequest.deserialize request.serialize = .ok request) ∧
    (∀ metadata : RequestMetadata,
      RequestMetadata.deserialize (write metadata) = .ok metadata) ∧
    (∀ action : IssueAction S, Decodes action →
      IssueAction.deserialize action.serialize = .ok action) ∧
    (∀ action : TransferAction S, Decodes action →
      TransferAction.deserialize action.serialize = .ok action) ∧
    (∀ proof : Issue.Proof S, Decodes proof →
      Issue.Proof.deserialize (write proof) = .ok proof) ∧
    (∀ proof : Transfer.Proof S, Decodes proof →
      Transfer.Proof.deserialize (write proof) = .ok proof) ∧
    (∀ signature : AnonymousIssuer.Signature S, Decodes signature →
      AnonymousIssuer.Signature.deserialize (write signature) = .ok signature) ∧
    (∀ proof : OneOutOfMany.Proof S,
      Decodes proof → Json.read (write proof) = .ok proof) ∧
    (∀ token : Token S, Decodes token → Token.deserialize (write token) = .ok token) ∧
    (∀ metadata : Metadata S, Decodes metadata →
      Metadata.deserialize (write metadata) = .ok metadata) ∧
    (∀ script : HashLock.Script,
      HashLock.Script.ofOwner script.toIdentity.bytes = .ok (some script)) ∧
    (∀ claim : HashLock.ClaimSignature,
      HashLock.ClaimSignature.deserialize (write claim) = .ok claim) ∧
    (∀ parameters : PublicParameters S, parameters.ElementsDecode →
      PublicParameters.deserialize parameters.serialize parameters.label =
        .ok parameters) := by
  refine ⟨?_, ?_, ?_, ?_, ?_, ?_, ?_, ?_, ?_, ?_, ?_, ?_, ?_⟩
  · intro request
    exact during_eq_ok.mpr (read_write request)
  · intro metadata
    exact during_eq_ok.mpr (read_write metadata)
  · intro action decodes
    exact during_eq_ok.mpr (read_write_of_decodes decodes)
  · intro action decodes
    exact during_eq_ok.mpr (read_write_of_decodes decodes)
  · intro proof decodes
    exact during_eq_ok.mpr (read_write_of_decodes decodes)
  · intro proof decodes
    exact during_eq_ok.mpr (read_write_of_decodes decodes)
  · intro signature decodes
    exact during_eq_ok.mpr (read_write_of_decodes decodes)
  · intro proof decodes
    exact read_write_of_decodes decodes
  · intro token decodes
    exact during_eq_ok.mpr (read_write_of_decodes decodes)
  · intro metadata decodes
    exact during_eq_ok.mpr (read_write_of_decodes decodes)
  · intro script
    exact script.ofOwner_toIdentity
  · intro claim
    exact during_eq_ok.mpr (read_write claim)
  · intro parameters decodes
    exact decodes.deserialize_serialize

namespace Bn254

/-- The generator of the first group. -/
def generator : suite.G1 :=
  Point.affine 1 2

/-- The generator of the second group. -/
def twistGenerator : suite.G2 :=
  Point.affine
    ⟨10857046999023057135944570762232829481370756359578518086990519993285655852781,
      11559732032986387107991004021392285783925812861821192530917403151452391805634⟩
    ⟨8495653923123431417604973247489272438418190587263600148770280649306958101930,
      4082367875863433681332203403145435568316851327593401208105741076214120093531⟩

instance : FaithfulEncoding suite.Scalar :=
  inferInstanceAs (FaithfulEncoding Fr)

theorem generator_decodes : decodeElement (encode generator) = .ok generator :=
  toOption_eq_some.mp (by decide +kernel)

namespace Jacobian

variable {F : Type} [CoordinateField F] [DecidableEq F]

deriving instance DecidableEq for Jacobian

/-- What four more binary digits of a number make of a multiple. -/
def window (count : Nat) (p : Jacobian F) (partialMultiple : Jacobian F) (k : Nat) :
    Jacobian F :=
  let shifted := double (double (double (double partialMultiple)))
  let digit := (count >>> (4 * k)) % 16
  if digit = 0 then shifted else add shifted ((smallMultiples p).getD digit infinity)

theorem multiple_eq_foldl (count : Nat) (p : Jacobian F) :
    multiple count p =
      (List.range (count.log2 / 4 + 1)).reverse.foldl (window count p) infinity :=
  rfl

end Jacobian

/-- The multiple of the generator by the upper half of the order of the
group. -/
def halfwayMultiple : Jacobian Fq2 where
  x := ⟨13160053976412996188747421315687486296951744053462262646752102826865428419975,
    1243882658743459425519651766230649918201760629148233581926448631004702098713⟩
  y := ⟨13819878260505543483995652088359042307782338213617609109569543868564791940371,
    8123502211930382058652844410167906643502403883300989453202377888037208248756⟩
  z := ⟨8128368802053475819548836548709758154170416197587163608321086479175873258189,
    17822144310606403356701081655813555435161820776075957557694638461542350360346⟩

theorem foldl_upperWindows :
    (List.range' 32 32).reverse.foldl
      (Jacobian.window scalarModulus (.ofPoint twistGenerator)) .infinity =
        halfwayMultiple := by
  decide +kernel

theorem toPoint_foldl_lowerWindows :
    ((List.range 32).reverse.foldl
      (Jacobian.window scalarModulus (.ofPoint twistGenerator)) halfwayMultiple).toPoint =
        .infinity := by
  decide +kernel

-- The multiplication is evaluated in two halves, each of which the kernel can
-- follow.
theorem inSubgroup_twistGenerator : G2.inSubgroup twistGenerator = true := by
  have windows : (List.range (scalarModulus.log2 / 4 + 1)).reverse =
      (List.range' 32 32).reverse ++ (List.range 32).reverse := by
    decide +kernel
  have multiple : Point.multiple scalarModulus twistGenerator = .infinity := by
    rw [Point.multiple, Jacobian.multiple_eq_foldl, windows, List.foldl_append,
      foldl_upperWindows, toPoint_foldl_lowerWindows]
  exact decide_eq_true multiple

theorem twistGenerator_decodes :
    decodeElement (encode twistGenerator) = .ok twistGenerator := by
  refine decodeElement_eq_ok.mpr (G2.decode_eq_ok.mpr ⟨.finite false,
    ⟨10857046999023057135944570762232829481370756359578518086990519993285655852781,
      11559732032986387107991004021392285783925812861821192530917403151452391805634⟩,
    ⟨[], by decide +kernel⟩, ?_⟩)
  rw [Point.flagged?, G2.memberWithX?, Option.filter_eq_some_iff]
  exact ⟨by decide +kernel, inSubgroup_twistGenerator⟩

namespace Sample

theorem points_decode {points : List suite.G1}
    (all : ∀ point ∈ points, point = generator) :
    ∀ point ∈ points, decodeElement (encode point) = .ok point := by
  intro point membership
  rw [all point membership]
  exact generator_decodes

theorem scalars_decode (scalars : List suite.Scalar) :
    ∀ scalar ∈ scalars, decodeElement (encode scalar) = .ok scalar :=
  fun scalar _ => decodeElement_encode_scalar scalar

def token : Token suite := ⟨[1], generator⟩

theorem tokens_decode {tokens : List (Token suite)}
    (all : ∀ other ∈ tokens, other = token) : Decodes tokens := by
  intro other membership
  rw [all other membership]
  exact generator_decodes

def issue : IssueAction suite := ⟨⟨[2]⟩, [token], [3], false, .ofList [("note", [4])]⟩

def transfer : TransferAction suite :=
  ⟨[⟨"tx0", 0⟩], [token], [token, token], [5], .empty⟩

def metadata : Metadata suite := ⟨"USD", 7, 5, [1], []⟩

def digits : DigitRange.RangeProof suite := ⟨1, ⟨2, [3], [4], [5]⟩, []⟩

def issueProof : Issue.Proof suite :=
  ⟨⟨1, [2], [3], 4, "USD", generator, 5⟩, .membership digits⟩

def bits : Bulletproof.RangeProof suite :=
  ⟨generator, generator, 1, generator, generator, 2, 3, ⟨4, 5, [generator], [generator]⟩⟩

def transferProof : Transfer.Proof suite where
  conservation := .typeAndSum ⟨generator, [1], [2], 3, 4, 5, 6⟩
  rangeCorrectness := some (.bulletproof ⟨[bits]⟩)

def membership : OneOutOfMany.Proof suite :=
  ⟨⟨[generator], [generator], [generator], [generator]⟩, ⟨[1], [2], [3], 4⟩⟩

def signature : AnonymousIssuer.Signature suite := ⟨membership, ⟨1, [2, 3], [4, 5]⟩⟩

def table : DigitRange.Parameters suite where
  base := 2
  exponent := 1
  keyParts := [twistGenerator]
  keyBase := twistGenerator
  blindingPoint := generator
  signatures := [⟨generator, generator⟩]

def parameters : PublicParameters suite where
  label := "zkatdlog"
  curve := .bn254
  pedersen := [generator, generator, generator]
  bulletproof := none
  membership := some table
  credentialKey := []
  auditor := ⟨[1]⟩
  issuers := [⟨[2]⟩]
  policy := ⟨[generator], 1, 1⟩
  maxToken := 1
  precision := 64

theorem parameters_decode : parameters.ElementsDecode where
  pedersen := points_decode (by simp [parameters])
  bulletproof := nofun
  membership := by
    rintro _ ⟨⟩
    refine ⟨?_, twistGenerator_decodes, generator_decodes, ?_⟩
    · rintro _ (⟨⟩ | ⟨_, ⟨⟩⟩)
      exact twistGenerator_decodes
    · rintro _ (⟨⟩ | ⟨_, ⟨⟩⟩)
      exact ⟨generator_decodes, generator_decodes⟩
  policy := points_decode (by simp [parameters])

theorem read_back :
    IssueAction.deserialize issue.serialize = .ok issue ∧
    TransferAction.deserialize transfer.serialize = .ok transfer ∧
    Issue.Proof.deserialize (write issueProof) = .ok issueProof ∧
    Transfer.Proof.deserialize (write transferProof) = .ok transferProof ∧
    AnonymousIssuer.Signature.deserialize (write signature) = .ok signature ∧
    Json.read (write membership) = .ok membership ∧
    Token.deserialize (write token) = .ok token ∧
    Metadata.deserialize (write metadata) = .ok metadata ∧
    PublicParameters.deserialize parameters.serialize "zkatdlog" = .ok parameters := by
  obtain ⟨-, -, issues, transfers, issueProofs, transferProofs, signatures, memberships,
    tokens, openings, -, -, allParameters⟩ := objects_read_back suite
  have scalar := decodeElement_encode_scalar
  have membershipDecodes : Decodes membership :=
    ⟨⟨points_decode (by simp [membership]), points_decode (by simp [membership]),
        points_decode (by simp [membership]), points_decode (by simp [membership])⟩,
      scalars_decode _, scalars_decode _, scalars_decode _, scalar _⟩
  have bitsDecode : Decodes bits :=
    ⟨generator_decodes, generator_decodes, scalar _, generator_decodes,
      generator_decodes, scalar _,
      scalar _, scalar _, scalar _, points_decode (by simp [bits]),
      points_decode (by simp [bits])⟩
  refine ⟨issues _ ?_, transfers _ ?_, issueProofs _ ?_, transferProofs _ ?_,
    signatures _ ?_, memberships _ membershipDecodes, tokens _ generator_decodes,
    openings _ ?_, allParameters _ parameters_decode⟩
  · exact tokens_decode (by simp [issue])
  · exact ⟨tokens_decode (by simp [transfer]), tokens_decode (by simp [transfer])⟩
  · exact ⟨⟨scalar _, scalars_decode _, scalars_decode _, scalar _, generator_decodes,
      scalar _⟩, scalar _,
      ⟨scalar _, scalars_decode _, scalars_decode _, scalars_decode _⟩, nofun⟩
  · refine ⟨⟨generator_decodes, scalars_decode _, scalars_decode _, scalar _, scalar _,
      scalar _, scalar _⟩, ?_⟩
    rintro _ ⟨⟩ _ (⟨⟩ | ⟨_, ⟨⟩⟩)
    exact bitsDecode
  · exact ⟨membershipDecodes, scalar _, scalars_decode _, scalars_decode _⟩
  · exact ⟨scalar _, scalar _⟩

end Sample

end Bn254

end ConfidentialToken
