import ConfidentialToken.Proofs.Json.Elementwise
import ConfidentialToken.Proofs.Validation.Issuance
import ConfidentialToken.Proofs.Validation.SpentInputs

/-!
Which signature of an accepted request belongs to whom.

The signatures of a request begin with those that its principals have used up,
one for each in order, and whatever follows was not looked at. Acceptance
depends on nothing else about the signatures: not on the field in which one
stands, nor on those that are left.
-/

namespace ConfidentialToken

theorem TokenRequest.deserialize_serialize (request : TokenRequest) :
    deserialize request.serialize = .ok request := by
  simp [deserialize, serialize]

namespace Validator

variable {S : Suite}

/-- The principals of accepted actions, each with the signature that it has used
up. -/
def consumed (validator : Validator S) (request : TokenRequest)
    (actions : List (Action S)) : List (Principal S × Bytes) :=
  (validator.principals (Action.issues actions) (Action.transfers actions)).zip
    (validator.signaturesOf request)

/-- The signatures for which nobody has asked. -/
def unconsumed (validator : Validator S) (request : TokenRequest)
    (actions : List (Action S)) : List Bytes :=
  (validator.signaturesOf request).drop (validator.consumed request actions).length

/-- What is known of a request that is accepted with the given actions. -/
structure Accepts (validator : Validator S) (ledger : Ledger) (now : UInt64)
    (binding : String) (request : TokenRequest) (actions : List (Action S)) : Prop where
  sound :
    validator.Sound ledger now request (Action.issues actions) (Action.transfers actions)
  principals : (validator.consumed request actions).map Prod.fst =
    validator.principals (Action.issues actions) (Action.transfers actions)
  signatures : validator.signaturesOf request =
    (validator.consumed request actions).map Prod.snd ++
      validator.unconsumed request actions
  consents : ∀ use ∈ validator.consumed request actions,
    validator.Consents now (request.messageToSign binding) use.1 use.2
  actions : actions =
    validator.actionsOf request (Action.issues actions) (Action.transfers actions)

/-- The principals consent with the signatures that are used up, one by one. -/
theorem Accepts.inOrder {validator : Validator S} {ledger : Ledger} {now : UInt64}
    {binding : String} {request : TokenRequest} {actions : List (Action S)}
    (accepts : validator.Accepts ledger now binding request actions) :
    List.Forall₂ (validator.Consents now (request.messageToSign binding))
      (validator.principals (Action.issues actions) (Action.transfers actions))
      ((validator.consumed request actions).map Prod.snd) := by
  rw [← accepts.principals, List.forall₂_map_left_iff, List.forall₂_map_right_iff,
    List.forall₂_same]
  exact accepts.consents

/-- A text is accepted exactly if it is a request whose principals have signed
it in order. -/
theorem verify_eq_ok_iff_accepts {validator : Validator S} {ledger : Ledger}
    {now : UInt64} {binding : String} {text : Bytes} {actions : List (Action S)} :
    validator.verify ledger now binding text = .ok actions ↔
      text ≠ [] ∧ ∃ request, TokenRequest.deserialize text = .ok request ∧
        validator.Accepts ledger now binding request actions := by
  rw [verify_eq_ok]
  constructor
  · rintro ⟨request, issues, transfers, nonempty, parsed, sound,
      ⟨block, rest, split, consents⟩, made⟩
    have issued : Action.issues actions = issues := by rw [made, Action.issues_actionsOf]
    have moved : Action.transfers actions = transfers := by
      rw [made, Action.transfers_actionsOf]
    have lengths := consents.length_eq
    have used : validator.consumed request actions =
        (validator.principals issues transfers).zip block := by
      rw [consumed, issued, moved,
        split, ← List.append_nil (validator.principals issues transfers),
        List.zip_append lengths, List.zip_nil_left, List.append_nil, List.append_nil]
    have count :
        ((validator.principals issues transfers).zip block).length = block.length := by
      rw [List.length_zip, lengths, Nat.min_self]
    refine ⟨nonempty, request, parsed, ?_, ?_, ?_, ?_, ?_⟩
    · rwa [issued, moved]
    · rw [used, issued, moved, List.map_fst_zip (Nat.le_of_eq lengths)]
    · rw [unconsumed, used, List.map_snd_zip (Nat.le_of_eq lengths.symm), count, split,
        List.drop_left]
    · intro use membership
      rw [used] at membership
      exact List.forall₂_zip consents membership
    · rwa [issued, moved]
  · rintro ⟨nonempty, request, parsed, accepts⟩
    exact ⟨request, _, _, nonempty, parsed, accepts.sound,
      ⟨_, _, accepts.signatures, accepts.inOrder⟩, accepts.actions⟩

namespace Accepts

variable {validator : Validator S} {ledger : Ledger} {now : UInt64} {binding : String}
  {request : TokenRequest} {actions : List (Action S)}

theorem exists_signature_of_mem
    (accepts : validator.Accepts ledger now binding request actions)
    {principal : Principal S}
    (membership : principal ∈
      validator.principals (Action.issues actions) (Action.transfers actions)) :
    ∃ signature, (principal, signature) ∈ validator.consumed request actions := by
  rw [← accepts.principals, List.mem_map] at membership
  obtain ⟨⟨_, signature⟩, used, rfl⟩ := membership
  exact ⟨signature, used⟩

theorem owner_consents (accepts : validator.Accepts ledger now binding request actions)
    {transfer : TransferAction S} {token : Token S} {signature : Bytes}
    (used : (.owner transfer token, signature) ∈ validator.consumed request actions) :
    Signed (validator.deserializer.owner ⟨token.owner⟩) (request.messageToSign binding)
        signature ∧
      transfer.RespectsScript now token signature :=
  accepts.consents _ used

theorem exists_consumed (accepts : validator.Accepts ledger now binding request actions)
    {index : Nat} {principal : Principal S}
    (placed : (validator.principals (Action.issues actions)
      (Action.transfers actions))[index]? = some principal) :
    ∃ signature, (validator.signaturesOf request)[index]? = some signature ∧
      (principal, signature) ∈ validator.consumed request actions := by
  rw [← accepts.principals, List.getElem?_map, Option.map_eq_some_iff] at placed
  obtain ⟨use, found, rfl⟩ := placed
  obtain ⟨-, given⟩ := List.getElem?_zip_eq_some.mp found
  exact ⟨use.2, given, List.mem_of_getElem? found⟩

theorem actions_unique {other : String} {otherActions : List (Action S)}
    (accepts : validator.Accepts ledger now binding request actions)
    (acceptsOther : validator.Accepts ledger now other request otherActions) :
    actions = otherActions := by
  have issued : Action.issues actions = Action.issues otherActions :=
    Except.ok.inj ((mapM_eq_ok.mpr accepts.sound.issuesParsed).symm.trans
      (mapM_eq_ok.mpr acceptsOther.sound.issuesParsed))
  have moved : Action.transfers actions = Action.transfers otherActions :=
    Except.ok.inj ((mapM_eq_ok.mpr accepts.sound.transfersParsed).symm.trans
      (mapM_eq_ok.mpr acceptsOther.sound.transfersParsed))
  rw [accepts.actions, acceptsOther.actions, issued, moved]

/-- The request stays accepted if its signatures are spread otherwise over its
two fields, and if more of them follow. What follows can only make more
known. -/
theorem verify_resigned (accepts : validator.Accepts ledger now binding request actions)
    (other : TokenRequest) {more : List Bytes} (issues : other.issues = request.issues)
    (transfers : other.transfers = request.transfers)
    (signatures : validator.signaturesOf other = validator.signaturesOf request ++ more) :
    validator.verify ledger now binding other.serialize =
      .ok (actions ++ more.filterMap Action.ofSignature?) := by
  have message : other.messageToSign binding = request.messageToSign binding := by
    simp only [TokenRequest.messageToSign, TokenRequest.unsignedBytes, issues, transfers]
  refine verify_eq_ok.mpr ⟨other, Action.issues actions, Action.transfers actions,
    Json.write_ne_nil _, other.deserialize_serialize, ?_,
    ⟨(validator.consumed request actions).map Prod.snd,
      validator.unconsumed request actions ++ more, ?_, ?_⟩, ?_⟩
  · exact { accepts.sound with
      issuesParsed := issues ▸ accepts.sound.issuesParsed
      transfersParsed := transfers ▸ accepts.sound.transfersParsed }
  · rw [signatures, accepts.signatures, List.append_assoc]
  · exact message ▸ accepts.inOrder
  · conv_lhs => rw [accepts.actions]
    simp only [actionsOf, signatures, List.filterMap_append, List.append_assoc]

end Accepts

end Validator

end ConfidentialToken
