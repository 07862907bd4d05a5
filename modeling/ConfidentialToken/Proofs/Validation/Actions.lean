import ConfidentialToken.Proofs.Outcome
import ConfidentialToken.Proofs.Validation.Checking
import ConfidentialToken.Validation.Actions

/-!
When single actions are valid.

Whether an action is valid does not depend on the order in which it is checked.
What is checked step by step is stated here as one set of conditions for issues
and one for transfers; the signatures that the checks use up are those of the
issuer and of the owners of the spent tokens, one for each input.
-/

namespace ConfidentialToken

variable {S : Suite}

/-- A signature that a principal has given on a message. -/
def Signed (verifier : Result Verifier) (message signature : Bytes) : Prop :=
  ∃ verify, verifier = .ok verify ∧ verify message signature = .ok ()

@[simp]
theorem signed_during {verifier : Result Verifier} {activity : String}
    {message signature : Bytes} :
    Signed (during activity verifier) message signature ↔
      Signed verifier message signature := by
  simp [Signed]

/-- A verifier that has to be found first takes one signature. -/
theorem Checking.takes_signed {α : Type} (verifier : Result Verifier)
    (activity : String) (message : Bytes) {next : Bytes → Checking α}
    {accepted : Bytes → α → List Bytes → Prop}
    (takes : ∀ signature, Takes (next signature) (accepted signature)) :
    Takes (do
      let verify ← (verifier : Result Verifier)
      let signature ← Checking.during activity (nextSignature message verify)
      next signature)
      fun value block => ∃ signature rest, block = signature :: rest ∧
        Signed verifier message signature ∧ accepted signature value rest := by
  apply ((takes_lift verifier).bind fun verify =>
    ((takes_nextSignature message verify).during activity).bind takes).congr
  intro value block
  constructor
  · rintro ⟨verify, _, _, rfl, ⟨found, rfl⟩, signature, _, rest, rfl, ⟨rfl, verified⟩,
      accepts⟩
    exact ⟨signature, rest, rfl, ⟨verify, found, verified⟩, accepts⟩
  · rintro ⟨signature, rest, rfl, ⟨verify, found, verified⟩, accepts⟩
    exact ⟨verify, [], _, rfl, ⟨found, rfl⟩, signature, [signature], rest, rfl,
      ⟨rfl, verified⟩, accepts⟩

def Ledger.Holds (ledger : Ledger) (id : TokenId) (token : Token S) : Prop :=
  ∃ bytes, ledger id = .ok bytes ∧ bytes ≠ [] ∧ Token.deserialize bytes = .ok token

theorem Ledger.lookUp_eq_ok {ledger : Ledger} {id : TokenId} {embedded token : Token S} :
    ledger.lookUp id embedded = .ok token ↔
      token = embedded ∧ ledger.Holds id embedded := by
  simp only [lookUp, bind_eq_ok, during_eq_ok, guard_eq_ok, pure_eq_ok, not_not,
    List.isEmpty_iff]
  constructor
  · rintro ⟨bytes, found, present, _, read, rfl, rfl⟩
    exact ⟨rfl, bytes, found, present, read⟩
  · rintro ⟨rfl, bytes, found, present, read⟩
    exact ⟨bytes, found, present, token, read, rfl, rfl⟩

/-- The owner of a created token can spend it: nobody, a script that can still
be used, or a party that signs. -/
def Token.HasValidOwner (token : Token S) (now : UInt64) : Prop :=
  token.owner = [] ∨
  (∃ script, HashLock.Script.ofOwner token.owner = .ok (some script) ∧
    script.validate now = .ok ()) ∨
  (HashLock.Script.ofOwner token.owner = .ok none ∧
    ∃ kind, IdentityKind.resolve token.owner = .ok kind ∧ ∀ label,
      kind ≠ .walletLabel label)

theorem Token.checkOwner_eq_ok {token : Token S} {now : UInt64} :
    token.checkOwner now = .ok () ↔ token.HasValidOwner now := by
  unfold checkOwner HasValidOwner
  by_cases redeemed : token.owner = []
  · simp [isRedeemed, redeemed]
  · rw [if_neg (by simpa [isRedeemed] using redeemed)]
    simp only [redeemed, false_or, bind_eq_ok]
    cases HashLock.Script.ofOwner token.owner with
    | error failure => simp
    | ok script =>
        cases script with
        | some script => simp
        | none =>
            simp only [Except.ok.injEq, reduceCtorEq, false_and, exists_false, false_or,
              true_and, exists_eq_left', bind_eq_ok]
            apply exists_congr
            intro kind
            cases kind <;> simp

namespace TransferAction

def Publishes (action : TransferAction S) (script : HashLock.Script)
    (signature : Bytes) : Prop :=
  ∃ claim, HashLock.ClaimSignature.deserialize signature = .ok claim ∧
    claim.preimage ≠ [] ∧
    claim.recipientSignature ≠ [] ∧
    action.metadata.find? (HashLock.claimKey (script.lock.image claim.preimage)) =
      some claim.preimage

/-- A spent token that a script locks is the only one and passes to one owner:
before the deadline to the recipient, who publishes the preimage, and to the
sender from the deadline on. -/
def RespectsScript (action : TransferAction S) (now : UInt64) (input : Token S)
    (signature : Bytes) : Prop :=
  HashLock.Script.ofOwner input.owner = .ok none ∨
  ∃ script output, HashLock.Script.ofOwner input.owner = .ok (some script) ∧
    action.inputTokens = [input] ∧ action.outputs = [output] ∧
    (script.operation now = .claim ∧ script.recipient.bytes = output.owner ∧
        action.Publishes script signature ∨
      script.operation now = .reclaim ∧ script.sender.bytes = output.owner)

theorem checkMetadata_eq_ok {action : TransferAction S} {script : HashLock.Script}
    {signature : Bytes} :
    script.checkMetadata .claim action signature = .ok () ↔
      action.Publishes script signature := by
  simp only [HashLock.Script.checkMetadata, Publishes, bind_eq_ok, guard_eq_ok, not_or,
    List.isEmpty_iff, and_assoc]
  apply exists_congr
  intro claim
  refine and_congr_right fun _ => and_congr_right fun _ => and_congr_right fun _ => ?_
  cases published :
    action.metadata.find? (HashLock.claimKey (script.lock.image claim.preimage)) with
  | none => simp
  | some content =>
      have nonempty : action.metadata.entries ≠ [] := by
        intro empty
        simp [KeyedData.find?, empty] at published
      simp only [nonempty, not_false_eq_true, true_and, ne_eq, ite_throw_eq_ok, not_not,
        pure_eq_ok, and_true, Option.some.injEq]

theorem verifyOwner_eq_ok {inputOwner outputOwner : Bytes} {now : UInt64}
    {script : HashLock.Script} {operation : HashLock.Operation} :
    HashLock.verifyOwner inputOwner outputOwner now = .ok (script, operation) ↔
      HashLock.Script.ofOwner inputOwner = .ok (some script) ∧
        script.operation now = operation ∧
      (operation = .claim ∧ script.recipient.bytes = outputOwner ∨
        operation = .reclaim ∧ script.sender.bytes = outputOwner) := by
  simp only [HashLock.verifyOwner, bind_eq_ok]
  cases HashLock.Script.ofOwner inputOwner with
  | error failure => simp
  | ok locked =>
      cases locked with
      | none => simp
      | some locked =>
          simp only [Except.ok.injEq, exists_eq_left', Option.some.injEq]
          cases kind : locked.operation now with
          | claim =>
              simp only [guard_eq_ok, ne_eq, not_not, pure_eq_ok, Prod.mk.injEq]
              constructor
              · rintro ⟨recipient, rfl, rfl⟩
                exact ⟨rfl, kind, .inl ⟨rfl, recipient⟩⟩
              · rintro ⟨rfl, same, ⟨rfl, recipient⟩ | ⟨rfl, -⟩⟩
                · exact ⟨recipient, rfl, rfl⟩
                · rw [kind] at same
                  cases same
          | reclaim =>
              simp only [guard_eq_ok, ne_eq, not_not, pure_eq_ok, Prod.mk.injEq]
              constructor
              · rintro ⟨sender, rfl, rfl⟩
                exact ⟨rfl, kind, .inr ⟨rfl, sender⟩⟩
              · rintro ⟨rfl, same, ⟨rfl, -⟩ | ⟨rfl, sender⟩⟩
                · rw [kind] at same
                  cases same
                · exact ⟨sender, rfl, rfl⟩

theorem checkScript_eq_ok {action : TransferAction S} {signatures : List Bytes}
    {now : UInt64} {input : Token S} {place : Nat} {signature : Bytes}
    (spent : action.inputTokens[place]? = some input)
    (used : signatures[place]? = some signature) :
    action.checkScript ⟨action.inputTokens, signatures⟩ now input place = .ok () ↔
      action.RespectsScript now input signature := by
  simp only [checkScript, RespectsScript, bind_eq_ok]
  cases locked : HashLock.Script.ofOwner input.owner with
  | error failure => simp
  | ok script =>
      cases script with
      | none => simp
      | some script =>
          simp only [Except.ok.injEq, exists_eq_left', Option.isNone_some,
            Bool.false_eq_true, if_false, reduceCtorEq, false_or, Option.some.injEq,
            exists_and_left, exists_eq_left']
          split
          case h_1 only output inputs outputs =>
            have same : only = input := by
              rw [inputs] at spent
              exact (List.mem_singleton.mp (List.mem_of_getElem? spent)).symm
            simp only [bind_eq_ok, during_eq_ok, Prod.exists, verifyOwner_eq_ok, locked,
              used, inputs, outputs, same]
            constructor
            · rintro ⟨_, operation, ⟨equal, kind, party⟩, metadata⟩
              cases equal
              refine ⟨trivial, output, rfl, ?_⟩
              rcases party with ⟨rfl, recipient⟩ | ⟨rfl, sender⟩
              · exact .inl ⟨kind, recipient, checkMetadata_eq_ok.mp metadata⟩
              · exact .inr ⟨kind, sender⟩
            · rintro ⟨-, _, equal, party⟩
              cases equal
              rcases party with ⟨kind, recipient, published⟩ | ⟨kind, sender⟩
              · exact ⟨script, .claim, ⟨rfl, kind, .inl ⟨rfl, recipient⟩⟩,
                  checkMetadata_eq_ok.mpr published⟩
              · exact ⟨script, .reclaim, ⟨rfl, kind, .inr ⟨rfl, sender⟩⟩, rfl⟩
          case h_2 mismatch =>
            constructor
            · intro thrown
              exact absurd thrown throw_ne_ok
            · rintro ⟨inputs, output, outputs, -⟩
              exact (mismatch input output inputs outputs).elim

/-- The rules of scripts hold for every spent token with the signature of its
owner. -/
theorem checkScripts_eq_ok {action : TransferAction S} {signatures : List Bytes}
    {now : UInt64} (lengths : action.inputTokens.length = signatures.length) :
    action.checkScripts ⟨action.inputTokens, signatures⟩ now = .ok () ↔
      List.Forall₂ (action.RespectsScript now) action.inputTokens signatures := by
  rw [checkScripts, forM_eq_ok, List.forall₂_iff_get]
  constructor
  · intro checked
    refine ⟨lengths, fun index bound otherBound => ?_⟩
    have membership : (action.inputTokens[index], index) ∈ action.inputTokens.zipIdx :=
      List.mem_zipIdx_iff_getElem?.mpr (List.getElem?_eq_getElem bound)
    exact (checkScript_eq_ok (List.getElem?_eq_getElem bound)
      (List.getElem?_eq_getElem otherBound)).mp (checked _ membership)
  · rintro ⟨-, respected⟩ ⟨input, place⟩ membership
    have spent : action.inputTokens[place]? = some input :=
      List.mem_zipIdx_iff_getElem?.mp membership
    obtain ⟨bound, same⟩ := List.getElem?_eq_some_iff.mp spent
    have otherBound : place < signatures.length := lengths ▸ bound
    exact (checkScript_eq_ok spent (List.getElem?_eq_getElem otherBound)).mpr
      (same ▸ respected place bound otherBound)

theorem checkOwners_eq_ok {action : TransferAction S} {now : UInt64} :
    action.checkOwners now = .ok () ↔ ∀ output ∈ action.outputs,
    output.HasValidOwner now := by
  simp only [checkOwners, forM_eq_ok, during_eq_ok, Token.checkOwner_eq_ok]
  constructor
  · intro checked output membership
    obtain ⟨place, bound, rfl⟩ := List.getElem_of_mem membership
    exact checked (action.outputs[place], place)
      (List.mem_zipIdx_iff_getElem?.mpr (List.getElem?_eq_getElem bound))
  · rintro checked ⟨output, place⟩ membership
    exact checked output
      (List.mem_of_getElem? (List.mem_zipIdx_iff_getElem?.mp membership))

/-- What is asked of a transfer besides the signatures: it has inputs, which are
on the ledger, and outputs; its proof covers the tokens of the ledger; its
outputs have owners who can spend them. -/
structure Valid (action : TransferAction S) (parameters : PublicParameters S)
    (ledger : Ledger) (now : UInt64) : Prop where
  shape : action.validate = .ok ()
  onLedger : List.Forall₂ ledger.Holds action.inputs action.inputTokens
  proof : Transfer.Statement.verify
    ⟨parameters, action.inputCommitments, action.outputCommitments⟩ action.proof = .ok ()
  owners : ∀ output ∈ action.outputs, output.HasValidOwner now

theorem validate_eq_ok {action : TransferAction S} :
    action.validate = .ok () ↔
      action.inputs ≠ [] ∧ action.inputs.length = action.inputTokens.length ∧
      action.outputs ≠ [] := by
  simp only [validate, ite_error_eq_ok, List.isEmpty_iff, not_not, ne_eq, and_true]

/-- The token of an input is the one that the ledger has, and its owner has
signed. -/
theorem takes_checkInput (ledger : Ledger) (deserializer : Deserializer) (message : Bytes)
    (place : Nat) (id : TokenId) (embedded : Token S) :
    (checkInput ledger deserializer message place id embedded).Takes fun spent block =>
      spent.1 = embedded ∧ block = [spent.2] ∧ ledger.Holds id embedded ∧
      Signed (deserializer.owner ⟨embedded.owner⟩) message spent.2 := by
  refine Checking.Takes.congr ((Checking.takes_lift (ledger.lookUp id embedded)).bind
    fun token => Checking.takes_signed _ _ message
      fun signature => Checking.takes_pure (token, signature)) ?_
  rintro ⟨token, signature⟩ block
  simp only [signed_during, Ledger.lookUp_eq_ok]
  constructor
  · rintro ⟨_, _, _, rfl, ⟨⟨rfl, holds⟩, rfl⟩, signature, _, rfl, signed, equal, rfl⟩
    cases equal
    exact ⟨rfl, rfl, holds, signed⟩
  · rintro ⟨rfl, rfl, holds, signed⟩
    exact ⟨token, [], [signature], rfl, ⟨⟨rfl, holds⟩, rfl⟩, signature, [], rfl, signed,
      rfl, rfl⟩

/-- What is taken for the inputs one by one is one signature for each token. -/
theorem taken_inputs_iff (holds : TokenId → Token S → Prop)
    (signed : Token S → Bytes → Prop) {ids : List TokenId} {tokens : List (Token S)}
    (lengths : ids.length = tokens.length) (start : Nat)
    (spent : List (Token S × Bytes)) (block : List Bytes) :
    (∃ taken : List ((Token S × Bytes) × List Bytes), spent = taken.map Prod.fst ∧
        block = (taken.map Prod.snd).flatten ∧
        List.Forall₂ (fun input part => part.1.1 = input.1.2 ∧ part.2 = [part.1.2] ∧
          holds input.1.1 input.1.2 ∧ signed input.1.2 part.1.2)
          ((ids.zip tokens).zipIdx start) taken) ↔
      spent = tokens.zip block ∧ List.Forall₂ holds ids tokens ∧
      List.Forall₂ signed tokens block := by
  induction ids generalizing tokens start spent block with
  | nil =>
      rw [List.length_eq_zero_iff.mp lengths.symm]
      constructor
      · rintro ⟨taken, rfl, rfl, related⟩
        cases related
        exact ⟨rfl, .nil, .nil⟩
      · rintro ⟨rfl, -, related⟩
        cases related
        exact ⟨[], rfl, rfl, .nil⟩
  | cons id ids inductionHypothesis =>
      obtain ⟨token, tokens, rfl⟩ := List.exists_cons_of_length_eq_add_one lengths.symm
      have rest := inductionHypothesis (Nat.succ.inj lengths) (start + 1)
      simp only [List.zip_cons_cons, List.zipIdx_cons, List.forall₂_cons_left_iff,
        Prod.exists]
      constructor
      · rintro ⟨_, rfl, rfl, _, signature, _, taken, ⟨rfl, rfl, first, given⟩,
          related, rfl⟩
        obtain ⟨pairs, held, signatures⟩ := (rest _ _).mp ⟨taken, rfl, rfl, related⟩
        refine ⟨?_, ⟨_, tokens, first, held, rfl⟩, signature, _, given, signatures, rfl⟩
        rw [List.map_cons, pairs]
        rfl
      · rintro ⟨rfl, ⟨_, _, first, held, equal⟩, signature, signatures, given,
          related, rfl⟩
        cases equal
        obtain ⟨taken, pairs, used, related⟩ := (rest _ _).mpr ⟨rfl, held, related⟩
        refine ⟨((token, signature), [signature]) :: taken, ?_, ?_, token, signature, _,
          taken, ⟨rfl, rfl, first, given⟩, related, rfl⟩
        · rw [List.map_cons, ← pairs]
          rfl
        · rw [List.map_cons, List.flatten_cons, ← used]
          rfl

theorem takes_checkSignatures (action : TransferAction S) (ledger : Ledger)
    (deserializer : Deserializer) (message : Bytes)
    (lengths : action.inputs.length = action.inputTokens.length) :
    (action.checkSignatures ledger deserializer message).Takes fun spent block =>
      spent = ⟨action.inputTokens, block⟩ ∧
      List.Forall₂ ledger.Holds action.inputs action.inputTokens ∧
      List.Forall₂ (fun token signature =>
        Signed (deserializer.owner ⟨token.owner⟩) message signature)
          action.inputTokens block := by
  have inputs := Checking.takes_mapM
    (fun input : (TokenId × Token S) × Nat =>
      takes_checkInput ledger deserializer message input.2 input.1.1 input.1.2)
    (action.inputs.zip action.inputTokens).zipIdx
  refine Checking.Takes.congr (inputs.bind fun spent =>
    Checking.takes_pure (SpentTokens.mk (spent.map Prod.fst) (spent.map Prod.snd))) ?_
  intro spent block
  have taken (pairs : List (Token S × Bytes)) (front : List Bytes) :=
    taken_inputs_iff ledger.Holds
      (fun token signature => Signed (deserializer.owner ⟨token.owner⟩) message signature)
      lengths 0 pairs front
  constructor
  · rintro ⟨pairs, front, _, rfl, blocks, rfl, rfl⟩
    obtain ⟨rfl, onLedger, signed⟩ := (taken pairs front).mp blocks
    have enough := List.Forall₂.length_eq signed
    rw [List.map_fst_zip (Nat.le_of_eq enough),
      List.map_snd_zip (Nat.le_of_eq enough.symm), List.append_nil]
    exact ⟨rfl, onLedger, signed⟩
  · rintro ⟨rfl, onLedger, signed⟩
    have enough := List.Forall₂.length_eq signed
    refine ⟨action.inputTokens.zip block, block, [], (List.append_nil _).symm,
      (taken _ _).mpr ⟨rfl, onLedger, signed⟩, ?_, rfl⟩
    rw [List.map_fst_zip (Nat.le_of_eq enough),
      List.map_snd_zip (Nat.le_of_eq enough.symm)]

/-- A transfer that is accepted is valid, and uses up one signature of each
owner, which also respects the script if there is one. -/
theorem takes_check (action : TransferAction S) (parameters : PublicParameters S)
    (ledger : Ledger) (deserializer : Deserializer) (message : Bytes) (now : UInt64) :
    (action.check parameters ledger deserializer message now).Takes fun _ block =>
      action.Valid parameters ledger now ∧
      List.Forall₂ (fun token signature =>
        Signed (deserializer.owner ⟨token.owner⟩) message signature ∧
          action.RespectsScript now token signature) action.inputTokens block := by
  have signatures (lengths : action.inputs.length = action.inputTokens.length) :=
    (action.takes_checkSignatures ledger deserializer message lengths).during
      "failed to verify transfer action"
  have step (outcome : Result Unit) :=
    (Checking.takes_lift outcome).during "failed to verify transfer action"
  have conditions (spent : SpentTokens S) :=
    (step (action.checkProof parameters spent)).bind fun _ =>
      (step (action.checkScripts spent now)).bind fun _ => step (action.checkOwners now)
  refine Checking.Takes.congr (Checking.takes_guard fun shape =>
    (signatures (validate_eq_ok.mp shape).2.1).bind conditions) ?_
  rintro ⟨⟩ block
  simp only [checkOwners_eq_ok, forall₂_and]
  constructor
  · rintro ⟨shape, _, front, _, rfl, ⟨rfl, onLedger, signed⟩, _, _, _, rfl,
      ⟨proof, rfl⟩, _, _, _, rfl, ⟨scripts, rfl⟩, owners, rfl⟩
    have respected := (checkScripts_eq_ok (List.Forall₂.length_eq signed)).mp scripts
    simp only [List.append_nil]
    exact ⟨⟨shape, onLedger, proof, owners⟩, signed, respected⟩
  · rintro ⟨⟨shape, onLedger, proof, owners⟩, signed, respected⟩
    have scripts := (checkScripts_eq_ok (List.Forall₂.length_eq signed)).mpr respected
    exact ⟨shape, _, block, [], (List.append_nil _).symm, ⟨rfl, onLedger, signed⟩, (),
      [], [], rfl, ⟨proof, rfl⟩, (), [], [], rfl, ⟨scripts, rfl⟩, owners, rfl⟩

end TransferAction

namespace IssueAction

/-- What is asked of an issue besides the signature: it has an issuer and
outputs with owners, its proof covers the outputs, and an issuer that is named
is one of the issuers if there are any. -/
structure Valid (action : IssueAction S) (parameters : PublicParameters S) : Prop where
  shape : action.validate = .ok ()
  proof : ∃ proof, Issue.Proof.deserialize action.proof = .ok proof ∧
    Issue.Statement.verifyProof ⟨parameters, action.commitments,
      action.anonymous⟩ proof = .ok ()
  listed : action.anonymous = false →
    parameters.issuers = [] ∨ action.issuer ∈ parameters.issuers

theorem namedVerifier_eq_ok {action : IssueAction S} {parameters : PublicParameters S}
    {deserializer : Deserializer} {verifier : Verifier} :
    action.namedVerifier parameters deserializer = .ok verifier ↔
      (parameters.issuers = [] ∨ action.issuer ∈ parameters.issuers) ∧
      deserializer.issuer action.issuer = .ok verifier := by
  simp only [namedVerifier, guard_eq_ok, during_eq_ok, Bool.and_eq_true,
    Bool.not_eq_true', decide_eq_false_iff_not, List.isEmpty_eq_false_iff, not_and,
    not_not]
  rw [← or_iff_not_imp_left]

/-- The verifier of the issuer: the one that the proof determines if the issuer
is anonymous, and the one of the named issuer otherwise. -/
def principalVerifier (action : IssueAction S) (parameters : PublicParameters S)
    (deserializer : Deserializer) : Result Verifier :=
  if action.anonymous then do
    let proof ← Issue.Proof.deserialize action.proof
    action.anonymousVerifier parameters proof.wellFormedness.commitmentToType
  else deserializer.issuer action.issuer

theorem issuerVerifier_eq_ok {action : IssueAction S} {parameters : PublicParameters S}
    {deserializer : Deserializer} {verifier : Verifier} :
    action.issuerVerifier parameters deserializer = .ok verifier ↔
      action.Valid parameters ∧
      action.principalVerifier parameters deserializer = .ok verifier := by
  cases anonymous : action.anonymous with
  | true =>
      simp only [issuerVerifier, principalVerifier, anonymous, if_true, bind_eq_ok,
        during_eq_ok]
      constructor
      · rintro ⟨_, shape, proof, read, _, verified, found⟩
        refine ⟨⟨shape, ⟨proof, read, anonymous ▸ verified⟩, ?_⟩, proof, read, found⟩
        intro named
        rw [anonymous] at named
        cases named
      · rintro ⟨⟨shape, ⟨proof, read, verified⟩, -⟩, other, otherRead, found⟩
        cases read.symm.trans otherRead
        exact ⟨(), shape, proof, read, (), anonymous ▸ verified, found⟩
  | false =>
      simp only [issuerVerifier, principalVerifier, anonymous, Bool.false_eq_true,
        if_false, bind_eq_ok, during_eq_ok, namedVerifier_eq_ok]
      constructor
      · rintro ⟨_, shape, proof, read, _, verified, listed, found⟩
        exact ⟨⟨shape, ⟨proof, read, anonymous ▸ verified⟩, fun _ => listed⟩, found⟩
      · rintro ⟨⟨shape, ⟨proof, read, verified⟩, listed⟩, found⟩
        exact ⟨(), shape, proof, read, (), anonymous ▸ verified, listed anonymous, found⟩

/-- An issue that is accepted is valid, and uses up one signature of the
issuer. -/
theorem takes_check (action : IssueAction S) (parameters : PublicParameters S)
    (deserializer : Deserializer) (message : Bytes) :
    (action.check parameters deserializer message).Takes fun _ block =>
      ∃ signature, block = [signature] ∧ action.Valid parameters ∧
        Signed (action.principalVerifier parameters deserializer) message signature := by
  refine Checking.Takes.congr (Checking.takes_signed _ _ message
    fun signature => Checking.takes_pure ()) ?_
  rintro ⟨⟩ block
  simp only [Signed, issuerVerifier_eq_ok]
  constructor
  · rintro ⟨signature, _, rfl, ⟨verify, ⟨valid, found⟩, verified⟩, -, rfl⟩
    exact ⟨signature, rfl, valid, verify, found, verified⟩
  · rintro ⟨signature, rfl, valid, verify, found, verified⟩
    exact ⟨signature, [], rfl, ⟨verify, ⟨valid, found⟩, verified⟩, trivial, rfl⟩

end IssueAction

end ConfidentialToken
