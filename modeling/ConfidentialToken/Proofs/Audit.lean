import ConfidentialToken.Audit
import ConfidentialToken.Proofs.Schnorr.Extraction

/-!
When a request passes an audit.

An auditor first gathers what it is told about each token, and then looks at the
tokens one after the other, in lists that are cut where one of them ends. What a
request passes with is stated here without that order: lists that belong
together are equally long, and every token at an index comes with the opening
and the audit information at the same index.
-/

namespace ConfidentialToken

variable {S : Suite}

theorem check_bind_eq_ok {α : Type} {check : Result Unit} {next : Unit → Result α}
    {value : α} :
    check >>= next = .ok value ↔ check = .ok () ∧ next () = .ok value := by
  cases check <;> simp [bind, Except.bind]

/-- A check of all values that were read is one of each item. -/
theorem exists_mapM_forall {α β : Type} {read : α → Result β} {passes : β → Prop}
    {items : List α} :
    (∃ values, items.mapM read = .ok values ∧ ∀ value ∈ values, passes value) ↔
      ∀ item ∈ items, ∃ value, read item = .ok value ∧ passes value := by
  constructor
  · rintro ⟨values, found, pass⟩ item membership
    obtain ⟨value, among, given⟩ := exists_of_forall₂ (mapM_eq_ok.mp found) membership
    exact ⟨value, given, pass value among⟩
  · intro each
    obtain ⟨values, found, pass⟩ := exists_mapM_eq_ok each
    refine ⟨values, found, fun value membership => ?_⟩
    obtain ⟨_, -, holds⟩ := exists_of_forall₂ pass.flip membership
    exact holds

theorem forM_zipIdx_eq_ok {α : Type} {check : α × Nat → Result Unit} {passes : α → Prop}
    {items : List α} (same : ∀ item index, check (item, index) = .ok () ↔ passes item) :
    items.zipIdx.forM check = .ok () ↔ ∀ item ∈ items, passes item := by
  rw [forM_eq_ok]
  constructor
  · intro each item membership
    obtain ⟨index, found⟩ := List.mem_iff_getElem?.mp membership
    exact (same item index).mp (each _ (List.mem_zipIdx_iff_getElem?.mpr found))
  · rintro each ⟨item, index⟩ membership
    exact (same item index).mpr (each item (List.fst_mem_of_mem_zipIdx membership))

/-- Audit information describes a party. -/
def Describes (matchers : MatcherDeserializer) (info party : Bytes) : Prop :=
  ∃ matcher, matchers info = .ok matcher ∧ matcher party = .ok ()

/-- Audit information describes the owner of a token. A key and a credential are
described as they are, of a script both parties are, each by its own half. No
other owner can be described. -/
inductive DescribesOwner (matchers : MatcherDeserializer) (info owner : Bytes) :
    Prop where
  | party (typed : TypedIdentity) (read : Json.read? owner = some typed)
      (scheme : typed.scheme = publicKeyScheme ∨ typed.scheme = credentialScheme)
      (described : Describes matchers info owner)
  | script (typed : TypedIdentity) (read : Json.read? owner = some typed)
      (scheme : typed.scheme = scriptScheme) (script : HashLock.Script)
      (locked : Json.read typed.content = .ok script) (parties : HashLock.AuditInfo)
      (halves : Json.read info = .ok parties)
      (sender : Describes matchers parties.sender script.sender.bytes)
      (recipient : Describes matchers parties.recipient script.recipient.bytes)

theorem describesOwner_iff {matchers : MatcherDeserializer} {info owner : Bytes}
    {typed : TypedIdentity} (read : Json.read? owner = some typed) :
    DescribesOwner matchers info owner ↔
      (typed.scheme = publicKeyScheme ∨ typed.scheme = credentialScheme) ∧
          Describes matchers info owner ∨
        typed.scheme = scriptScheme ∧ ∃ script : HashLock.Script,
          Json.read typed.content = .ok script ∧
          ∃ parties : HashLock.AuditInfo, Json.read info = .ok parties ∧
            Describes matchers parties.sender script.sender.bytes ∧
            Describes matchers parties.recipient script.recipient.bytes := by
  constructor
  · rintro (⟨other, found, scheme, described⟩ |
      ⟨other, found, scheme, script, locked, parties, halves, sender, recipient⟩)
    · cases Option.some.inj (read.symm.trans found)
      exact .inl ⟨scheme, described⟩
    · cases Option.some.inj (read.symm.trans found)
      exact .inr ⟨scheme, script, locked, parties, halves, sender, recipient⟩
  · rintro (⟨scheme, described⟩ |
      ⟨scheme, script, locked, parties, halves, sender, recipient⟩)
    · exact .party typed read scheme described
    · exact .script typed read scheme script locked parties halves sender recipient

theorem HashLock.Script.ofOwner_eq_ok_some {owner : Bytes} {typed : TypedIdentity}
    (read : Json.read? owner = some typed) (scheme : typed.scheme = scriptScheme)
    {script : HashLock.Script} :
    HashLock.Script.ofOwner owner = .ok (some script) ↔
      Json.read typed.content = .ok script := by
  simp [ofOwner, read, scheme]

namespace AuditableToken

theorem inspectParty_eq_ok {matchers : MatcherDeserializer} {index : Nat}
    {party : Identity} {info : Bytes} :
    inspectParty matchers index party info = .ok () ↔
      Describes matchers info party.bytes := by
  simp only [inspectParty, Describes, bind_eq_ok, during_eq_ok]
  refine exists_congr fun matcher => and_congr_right fun _ => ?_
  cases matcher party.bytes <;> simp

theorem inspectScript_eq_ok {matchers : MatcherDeserializer} {index : Nat}
    {token : AuditableToken S} :
    inspectScript matchers index token = .ok () ↔
      ∃ script, HashLock.Script.ofOwner token.token.owner = .ok (some script) ∧
        ∃ parties : HashLock.AuditInfo, Json.read token.ownerInfo = .ok parties ∧
          Describes matchers parties.sender script.sender.bytes ∧
          Describes matchers parties.recipient script.recipient.bytes := by
  simp only [inspectScript, bind_eq_ok]
  cases HashLock.Script.ofOwner token.token.owner with
  | error failure => simp
  | ok locked =>
      cases locked with
      | none => simp
      | some script =>
          simp only [Except.ok.injEq, Option.some.injEq, exists_eq_left',
            bind_eq_ok (α := HashLock.AuditInfo), during_eq_ok]
          refine exists_congr fun parties => and_congr_right fun _ => ?_
          exact check_bind_eq_ok.trans (and_congr inspectParty_eq_ok inspectParty_eq_ok)

/-- The owner of a token passes if there is one and its audit information
describes it. -/
theorem inspectOwner_eq_ok {matchers : MatcherDeserializer} {index : Nat}
    {token : AuditableToken S} :
    token.inspectOwner matchers index = .ok () ↔
      token.token.owner ≠ [] ∧ token.ownerInfo ≠ [] ∧
        DescribesOwner matchers token.ownerInfo token.token.owner := by
  simp only [inspectOwner, guard_eq_ok, Token.isRedeemed, List.isEmpty_iff]
  refine and_congr_right fun _ => and_congr_right fun _ => ?_
  cases read : (Json.read? token.token.owner : Option TypedIdentity) with
  | none =>
      refine iff_of_false throw_ne_ok ?_
      rintro (⟨typed, found⟩ | ⟨typed, found⟩) <;> simp [read] at found
  | some typed =>
      rw [describesOwner_iff read]
      dsimp only
      split
      case isTrue party =>
        have direct : typed.scheme ≠ scriptScheme := by
          rcases party with scheme | scheme <;> rw [scheme] <;> decide
        simp only [party, direct, true_and, false_and, or_false, bind_eq_ok, during_eq_ok,
          Describes]
        refine exists_congr fun matcher => and_congr_right fun _ => ?_
        cases matcher token.token.owner <;> simp
      case isFalse party =>
        simp only [party, false_and, false_or]
        split
        case isTrue script =>
          simp only [inspectScript_eq_ok,
            HashLock.Script.ofOwner_eq_ok_some read script, script, true_and]
        case isFalse script => simp [script]

end AuditableToken

namespace Auditor

/-- A token that has an owner comes with audit information that describes the
owner. -/
def KnowsOwner (auditor : Auditor S) (token : Token S) (info : Bytes) : Prop :=
  token.owner ≠ [] → info ≠ [] ∧ DescribesOwner auditor.matchers info token.owner

/-- The opening is that of the commitment of a token. -/
structure Opens (auditor : Auditor S) (token : Token S) (opening : DisclosedOpening S) :
    Prop where
  generators : auditor.generators.length = 3
  commitment : linearCombination auditor.generators
    [typeScalar opening.tokenType, opening.value, opening.blindingFactor] =
      token.commitment

/-- A created token passes with what is told about it. -/
structure PassesOutput (auditor : Auditor S) (output : AuditableToken S) : Prop where
  opened : ∃ opening, output.opening = some opening ∧ auditor.Opens output.token opening
  owner : auditor.KnowsOwner output.token output.ownerInfo

theorem inspectOutput_eq_ok {auditor : Auditor S} {index : Nat}
    {output : AuditableToken S} :
    auditor.inspectOutput index output = .ok () ↔ auditor.PassesOutput output := by
  have owner : (if !output.token.isRedeemed then
      during s!"failed inspecting output at index [{index}]"
        (output.inspectOwner auditor.matchers index)
      else .ok ()) = .ok () ↔ auditor.KnowsOwner output.token output.ownerInfo := by
    by_cases redeemed : output.token.owner = []
    · simp [Token.isRedeemed, KnowsOwner, redeemed]
    · simp [Token.isRedeemed, KnowsOwner, redeemed, AuditableToken.inspectOwner_eq_ok]
  simp only [inspectOutput, guard_eq_ok, ne_eq, not_not]
  cases disclosed : output.opening with
  | none =>
      refine iff_of_false (fun passed => throw_ne_ok passed.2) ?_
      rintro ⟨⟨opening, found, -⟩, -⟩
      cases disclosed.symm.trans found
  | some opening =>
      simp only [bind_eq_ok, guard_eq_ok, commitToken, Pedersen.commit_eq_ok, not_not]
      constructor
      · rintro ⟨three, commitment, ⟨-, rfl⟩, same, known⟩
        exact ⟨⟨opening, disclosed, three, same⟩, owner.mp known⟩
      · rintro ⟨⟨other, found, three, same⟩, known⟩
        cases Option.some.inj (disclosed.symm.trans found)
        exact ⟨three, _, ⟨three.symm, rfl⟩, same, owner.mpr known⟩

theorem inspectOutputs_eq_ok {auditor : Auditor S} {outputs : List (AuditableToken S)} :
    auditor.inspectOutputs outputs = .ok () ↔ ∀ output ∈ outputs,
    auditor.PassesOutput output :=
  forM_zipIdx_eq_ok fun _ _ => during_eq_ok.trans inspectOutput_eq_ok

theorem inspectInputs_eq_ok {auditor : Auditor S} {inputs : List (AuditableToken S)} :
    auditor.inspectInputs inputs = .ok () ↔
      ∀ input ∈ inputs, auditor.KnowsOwner input.token input.ownerInfo := by
  refine forM_zipIdx_eq_ok fun input index => ?_
  by_cases redeemed : input.token.owner = []
  · simp [Token.isRedeemed, KnowsOwner, redeemed]
  · simp [Token.isRedeemed, KnowsOwner, redeemed, AuditableToken.inspectOwner_eq_ok]

/-- A created token with the text of its opening and audit information about its
owner. -/
structure Accepts (auditor : Auditor S) (token : Token S) (opening info : Bytes) :
    Prop where
  opened : ∃ metadata : Metadata S, Metadata.deserialize opening = .ok metadata ∧
    auditor.Opens token ⟨metadata.tokenType, metadata.value, metadata.blindingFactor⟩
  owner : auditor.KnowsOwner token info

/-- An issue passes with its metadata. -/
structure PassesIssue (auditor : Auditor S) (metadata : IssueMetadata)
    (action : IssueAction S) : Prop where
  auditInfos : action.outputs.length = metadata.auditInfos.length
  openings : action.outputs.length = metadata.openings.length
  owned : ∀ token ∈ action.outputs, token.owner ≠ []
  outputs : ∀ (index : Nat) (token : Token S) (opening info : Bytes),
    action.outputs[index]? = some token → metadata.openings[index]? = some opening →
    metadata.auditInfos[index]? = some info → auditor.Accepts token opening info

/-- A transfer passes with its metadata and the tokens that are said to be
spent. -/
structure PassesTransfer (auditor : Auditor S) (metadata : TransferMetadata)
    (spent : List (Token S)) (action : TransferAction S) : Prop where
  senderAuditInfos : spent.length = metadata.senderAuditInfos.length
  receiverAuditInfos : action.outputs.length = metadata.receiverAuditInfos.length
  outputAuditInfos : action.outputs.length = metadata.outputAuditInfos.length
  openings : action.outputs.length = metadata.openings.length
  inputs : ∀ (index : Nat) (token : Token S) (info : Bytes),
    spent[index]? = some token → metadata.senderAuditInfos[index]? = some info →
    auditor.KnowsOwner token info
  outputs : ∀ (index : Nat) (token : Token S) (opening info : Bytes),
    action.outputs[index]? = some token → metadata.openings[index]? = some opening →
    metadata.outputAuditInfos[index]? = some info → auditor.Accepts token opening info

/-- A request passes with its metadata and the tokens that its transfers are
said to spend. -/
structure Passes (auditor : Auditor S) (request : TokenRequest)
    (metadata : RequestMetadata) (spent : List (List (Token S))) : Prop where
  issueMetadata : request.issues.length = metadata.issues.length
  transferMetadata : request.transfers.length = metadata.transfers.length
  inputs : request.transfers.length = spent.length
  issues : ∀ (index : Nat) (bytes : Bytes) (issue : IssueMetadata),
    request.issues[index]? = some bytes → metadata.issues[index]? = some issue →
    ∃ action, IssueAction.deserialize bytes = .ok action ∧
      auditor.PassesIssue issue action
  transfers : ∀ (index : Nat) (bytes : Bytes) (transfer : TransferMetadata)
    (tokens : List (Token S)), request.transfers[index]? = some bytes →
    metadata.transfers[index]? = some transfer → spent[index]? = some tokens →
    ∃ action, TransferAction.deserialize bytes = .ok action ∧
      auditor.PassesTransfer transfer tokens action

theorem checkIssues_eq_ok {auditor : Auditor S} {issued : List (List (AuditableToken S))}
    {transaction : String} :
    auditor.checkIssues issued transaction = .ok () ↔
      ∀ outputs ∈ issued, auditor.inspectOutputs outputs = .ok () :=
  forM_zipIdx_eq_ok fun _ _ => during_eq_ok

theorem checkTransfers_eq_ok {auditor : Auditor S}
    {spent created : List (List (AuditableToken S))} {transaction : String} :
    auditor.checkTransfers spent created transaction = .ok () ↔
      (∀ outputs ∈ created, auditor.inspectOutputs outputs = .ok ()) ∧
        ∀ inputs ∈ spent, auditor.inspectInputs inputs = .ok () := by
  rw [checkTransfers, check_bind_eq_ok]
  exact and_congr (forM_zipIdx_eq_ok fun _ _ => during_eq_ok)
    (forM_zipIdx_eq_ok fun _ _ => during_eq_ok)

theorem accepts_iff {auditor : Auditor S} {token : Token S} {opening info : Bytes} :
    auditor.Accepts token opening info ↔
      ∃ output, AuditableToken.ofOutput token opening info = .ok output ∧
        auditor.PassesOutput output := by
  simp only [AuditableToken.ofOutput, bind_eq_ok, pure_eq_ok]
  constructor
  · rintro ⟨⟨metadata, read, opens⟩, owner⟩
    exact ⟨_, ⟨metadata, read, rfl⟩, ⟨_, rfl, opens⟩, owner⟩
  · rintro ⟨_, ⟨metadata, read, rfl⟩, ⟨_, disclosed, opens⟩, owner⟩
    cases disclosed
    exact ⟨⟨metadata, read, opens⟩, owner⟩

/-- What is gathered of outputs and passes is what each output passes with. -/
theorem exists_outputs_iff {auditor : Auditor S}
    {gather : Token S → Bytes → Bytes → Result (AuditableToken S)}
    {owned : Token S → Prop}
    (each : ∀ token opening info,
      (∃ output, gather token opening info = .ok output ∧ auditor.PassesOutput output) ↔
        owned token ∧ auditor.Accepts token opening info)
    {tokens : List (Token S)} {openings infos : List Bytes}
    (openingsLength : tokens.length = openings.length)
    (infosLength : tokens.length = infos.length) :
    (∃ outputs, (tokens.zip (openings.zip infos)).mapM
          (fun (token, opening, info) => gather token opening info) = .ok outputs ∧
        auditor.inspectOutputs outputs = .ok ()) ↔
      (∀ token ∈ tokens, owned token) ∧ ∀ (index : Nat) (token : Token S)
      (opening info : Bytes),
        tokens[index]? = some token → openings[index]? = some opening →
        infos[index]? = some info → auditor.Accepts token opening info := by
  simp only [inspectOutputs_eq_ok, exists_mapM_forall, forall_mem_zip,
    List.getElem?_zip_eq_some, Prod.forall, each]
  constructor
  · intro all
    refine ⟨fun token membership => ?_,
        fun index token opening info atToken atOpening atInfo =>
      (all index token opening info atToken ⟨atOpening, atInfo⟩).2⟩
    obtain ⟨index, bound, rfl⟩ := List.getElem_of_mem membership
    exact (all index _ openings[index] infos[index] (List.getElem?_eq_getElem _)
      ⟨List.getElem?_eq_getElem _, List.getElem?_eq_getElem _⟩).1
  · rintro ⟨allOwned, all⟩ index token opening info atToken ⟨atOpening, atInfo⟩
    exact ⟨allOwned token (List.mem_of_getElem? atToken),
      all index token opening info atToken atOpening atInfo⟩

/-- An issue is gathered and inspected successfully if it passes. -/
theorem ofIssue_passes_iff {auditor : Auditor S} {bytes : Bytes}
    {metadata : IssueMetadata} :
    (∃ issued, AuditableToken.ofIssue bytes metadata = .ok issued ∧
        auditor.inspectOutputs issued = .ok ()) ↔
      ∃ action, IssueAction.deserialize bytes = .ok action ∧
        auditor.PassesIssue metadata action := by
  have each (token : Token S) (opening info : Bytes) :
      (∃ output, AuditableToken.ofIssued token opening info = .ok output ∧
        auditor.PassesOutput output) ↔
          token.owner ≠ [] ∧ auditor.Accepts token opening info := by
    simp only [AuditableToken.ofIssued, ite_error_eq_ok, Token.isRedeemed,
      List.isEmpty_iff, and_assoc, exists_and_left, accepts_iff, ne_eq]
  simp only [AuditableToken.ofIssue, bind_eq_ok, guard_eq_ok, not_or, ne_eq, not_not]
  constructor
  · rintro ⟨issued, ⟨action, read, ⟨infos, openings⟩, gathered⟩, pass⟩
    obtain ⟨owned, outputs⟩ :=
      (exists_outputs_iff each openings infos).mp ⟨issued, gathered, pass⟩
    exact ⟨action, read, infos, openings, owned, outputs⟩
  · rintro ⟨action, read, infos, openings, owned, outputs⟩
    obtain ⟨issued, gathered, pass⟩ :=
      (exists_outputs_iff each openings infos).mpr ⟨owned, outputs⟩
    exact ⟨issued, ⟨action, read, ⟨infos, openings⟩, gathered⟩, pass⟩

/-- A transfer is gathered and inspected successfully if it passes. -/
theorem ofTransfer_passes_iff {auditor : Auditor S} {bytes : Bytes}
    {metadata : TransferMetadata} {spent : List (Token S)} :
    (∃ audited, AuditableToken.ofTransfer bytes metadata spent = .ok audited ∧
        auditor.inspectOutputs audited.2 = .ok () ∧
        auditor.inspectInputs audited.1 = .ok ()) ↔
      ∃ action, TransferAction.deserialize bytes = .ok action ∧
        auditor.PassesTransfer metadata spent action := by
  have each (token : Token S) (opening info : Bytes) :
      (∃ output, AuditableToken.ofOutput token opening info = .ok output ∧
        auditor.PassesOutput output) ↔ True ∧ auditor.Accepts token opening info := by
    rw [true_and, accepts_iff]
  have inputsIff : auditor.inspectInputs
        (List.zipWith AuditableToken.ofInput spent metadata.senderAuditInfos) = .ok () ↔
      ∀ (index : Nat) (token : Token S) (info : Bytes), spent[index]? = some token →
        metadata.senderAuditInfos[index]? = some info →
          auditor.KnowsOwner token info := by
    rw [inspectInputs_eq_ok, ← List.map_uncurry_zip_eq_zipWith, List.forall_mem_map,
      forall_mem_zip]
    rfl
  simp only [AuditableToken.ofTransfer, bind_eq_ok, guard_eq_ok, ne_eq, not_not,
    pure_eq_ok]
  constructor
  · rintro ⟨_, ⟨senders, action, read, receivers, infos, openings, outputs, gathered,
      rfl⟩, pass, inputs⟩
    obtain ⟨-, accepted⟩ :=
      (exists_outputs_iff each openings infos).mp ⟨outputs, gathered, pass⟩
    exact ⟨action, read, senders.symm, receivers, infos, openings, inputsIff.mp inputs,
      accepted⟩
  · rintro ⟨action, read, senders, receivers, infos, openings, inputs, accepted⟩
    obtain ⟨outputs, gathered, pass⟩ := (exists_outputs_iff each openings infos).mpr
      ⟨fun _ _ => trivial, accepted⟩
    exact ⟨_, ⟨senders.symm, action, read, receivers, infos, openings, outputs,
      gathered, rfl⟩, pass, inputsIff.mpr inputs⟩

theorem issues_pass_iff {auditor : Auditor S} {issues : List Bytes}
    {metadata : List IssueMetadata} {transaction : String} :
    (∃ issued, AuditableToken.ofIssues issues metadata = .ok issued ∧
        auditor.checkIssues issued transaction = .ok ()) ↔
      issues.length = metadata.length ∧
        ∀ (index : Nat) (bytes : Bytes) (issue : IssueMetadata),
        issues[index]? = some bytes → metadata[index]? = some issue →
        ∃ action, IssueAction.deserialize bytes = .ok action ∧
          auditor.PassesIssue issue action := by
  simp only [AuditableToken.ofIssues, guard_eq_ok, ne_eq, not_not, checkIssues_eq_ok,
    and_assoc, exists_and_left, exists_mapM_forall, forall_mem_zip, ofIssue_passes_iff]

theorem transfers_pass_iff {auditor : Auditor S} {transfers : List Bytes}
    {metadata : List TransferMetadata} {spent : List (List (Token S))}
    {transaction : String} :
    (∃ audited, AuditableToken.ofTransfers transfers metadata spent = .ok audited ∧
        auditor.checkTransfers audited.1 audited.2 transaction = .ok ()) ↔
      transfers.length = metadata.length ∧ spent.length = metadata.length ∧
      ∀ (index : Nat) (bytes : Bytes) (transfer : TransferMetadata)
        (tokens : List (Token S)),
        transfers[index]? = some bytes → metadata[index]? = some transfer →
        spent[index]? = some tokens →
        ∃ action, TransferAction.deserialize bytes = .ok action ∧
          auditor.PassesTransfer transfer tokens action := by
  have gathered : (∃ audited, (transfers.zip (metadata.zip spent)).mapM
        (fun item => AuditableToken.ofTransfer item.1 item.2.1 item.2.2) =
          .ok audited ∧ ∀ transfer ∈ audited, auditor.inspectOutputs transfer.2 = .ok () ∧
            auditor.inspectInputs transfer.1 = .ok ()) ↔ _ := exists_mapM_forall
  simp only [ofTransfer_passes_iff, forall_mem_zip, List.getElem?_zip_eq_some,
    Prod.forall] at gathered
  simp only [AuditableToken.ofTransfers, guard_eq_ok, ne_eq, not_not, bind_eq_ok,
    pure_eq_ok, checkTransfers_eq_ok, and_assoc, exists_and_left]
  refine and_congr_right fun _ => and_congr_right fun _ => ?_
  constructor
  · rintro ⟨_, ⟨audited, found, rfl⟩, outputs, inputs⟩ index bytes transfer tokens
      atBytes atTransfer atTokens
    rw [List.forall_mem_map] at outputs inputs
    exact gathered.mp ⟨audited, found, fun _ _ among =>
      ⟨outputs _ among, inputs _ among⟩⟩ index bytes transfer tokens atBytes
      ⟨atTransfer, atTokens⟩
  · intro all
    obtain ⟨audited, found, pass⟩ := gathered.mpr
      fun index bytes transfer tokens atBytes others =>
        all index bytes transfer tokens atBytes others.1 others.2
    exact ⟨_, ⟨audited, found, rfl⟩,
      List.forall_mem_map.mpr fun _ among => (pass _ _ among).1,
      List.forall_mem_map.mpr fun _ among => (pass _ _ among).2⟩

/-- An audit is passed exactly if all of the following hold. Issues and
transfers have as many metadata, and transfers as many lists of spent tokens.
Each action can be read, and has as many outputs, and for a transfer as many
inputs, as are described. All outputs come with the opening of their commitment,
and those of issues have owners. The owners of all outputs and inputs that have
one are described by the audit information. -/
theorem check_eq_ok_iff_passes {auditor : Auditor S} {request : TokenRequest}
    {metadata : RequestMetadata} {spent : List (List (Token S))} {transaction : String} :
    auditor.check request metadata spent transaction = .ok () ↔
      auditor.Passes request metadata spent := by
  have issuesIff :
    (∃ issued, AuditableToken.ofIssues request.issues metadata.issues = .ok issued ∧
      auditor.checkIssues issued transaction = .ok ()) ↔ _ := issues_pass_iff
  have transfersIff :
    (∃ audited, AuditableToken.ofTransfers request.transfers metadata.transfers
      spent = .ok audited ∧ auditor.checkTransfers audited.1 audited.2 transaction =
        .ok ()) ↔ _ :=
    transfers_pass_iff
  simp only [check, bind_eq_ok, during_eq_ok]
  constructor
  · rintro ⟨issued, issuesGathered, ⟨⟩, issuesPass, audited, transfersGathered,
      transfersPass⟩
    obtain ⟨issueMetadata, issues⟩ := issuesIff.mp ⟨issued, issuesGathered, issuesPass⟩
    obtain ⟨transferMetadata, inputs, transfers⟩ :=
      transfersIff.mp ⟨audited, transfersGathered, transfersPass⟩
    exact ⟨issueMetadata, transferMetadata, transferMetadata.trans inputs.symm, issues,
      transfers⟩
  · rintro ⟨issueMetadata, transferMetadata, inputs, issues, transfers⟩
    obtain ⟨issued, issuesGathered, issuesPass⟩ := issuesIff.mpr ⟨issueMetadata, issues⟩
    obtain ⟨audited, transfersGathered, transfersPass⟩ :=
      transfersIff.mpr ⟨transferMetadata, inputs.symm.trans transferMetadata, transfers⟩
    exact ⟨issued, issuesGathered, (), issuesPass, audited, transfersGathered,
      transfersPass⟩

end Auditor

end ConfidentialToken
