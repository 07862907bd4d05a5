import ConfidentialToken.Proofs.Validation.Locks

/-!
What signatures make known.

An accepted request reports every attached signature that reads as a claim,
whether or not somebody has used it up. The claims of locked tokens are among
them, each with the preimage that opens the lock. Nothing else is reported
exactly if no other signature reads as a claim, and this is up to those who send
the request.
-/

namespace ConfidentialToken

variable {S : Suite}

open HashLock

namespace Action

def signature? : Action S → Option KeyedData
  | .signature data => some data
  | _ => none

/-- What the actions of an accepted request say about its signatures. -/
def reports (actions : List (Action S)) : List KeyedData :=
  actions.filterMap signature?

theorem reports_actionsOf (validator : Validator S) (request : TokenRequest)
    (issues : List (IssueAction S)) (transfers : List (TransferAction S)) :
    reports (validator.actionsOf request issues transfers) =
      (validator.signaturesOf request).filterMap report? := by
  have fromIssues : (issues.map Action.issue).filterMap signature? = [] := by
    simp [List.filterMap_eq_nil_iff, signature?]
  have fromTransfers : (transfers.map Action.transfer).filterMap signature? = [] := by
    simp [List.filterMap_eq_nil_iff, signature?]
  rw [Validator.actionsOf, reports, List.filterMap_append, List.filterMap_append,
    fromIssues, fromTransfers, List.nil_append, List.nil_append,
    List.filterMap_filterMap]
  refine List.filterMap_congr fun text _ => ?_
  rw [ofSignature?_eq]
  cases report? text <;> rfl

end Action

/-- The script under which a token is claimed from its owner, if that is how it
is spent now. -/
def Principal.claimed? (now : UInt64) : Principal S → Option Script
  | .owner _ token => do
      let script ← (Script.ofOwner token.owner).toOption.join
      if now < script.deadline then some script else none
  | _ => none

theorem Principal.claimed?_eq_some {now : UInt64} {principal : Principal S}
    {script : Script} :
    principal.claimed? now = some script ↔ ∃ transfer token,
    principal = .owner transfer token ∧
      Script.ofOwner token.owner = .ok (some script) ∧ now < script.deadline := by
  cases principal with
  | auditor identity => simp [claimed?]
  | issuer action => simp [claimed?]
  | owner transfer token =>
      simp only [claimed?, Option.bind_eq_bind, Option.bind_eq_some_iff,
        Option.join_eq_some_iff, toOption_eq_some, Option.ite_none_right_eq_some,
        Option.some.injEq, owner.injEq]
      constructor
      · rintro ⟨script, found, early, rfl⟩
        exact ⟨transfer, token, ⟨rfl, rfl⟩, found, early⟩
      · rintro ⟨_, _, ⟨rfl, rfl⟩, found, early⟩
        exact ⟨script, found, early, rfl⟩

namespace Validator

/-- The inputs of an accepted request that are claimed, in order. Each is given
by the script that locks it and the signature that was used up for it. -/
def claims (validator : Validator S) (now : UInt64) (request : TokenRequest)
    (actions : List (Action S)) : List (Script × Bytes) :=
  (validator.consumed request actions).filterMap fun use =>
    (use.1.claimed? now).map fun script => (script, use.2)

section

variable {validator : Validator S} {ledger : Ledger} {now : UInt64} {binding : String}
  {request : TokenRequest} {actions : List (Action S)}

/-- The signature that is used up for a claim reveals a preimage. Where owners
are scripts between keys, it opens the lock. -/
theorem Accepts.revealed_of_mem_claims
    (accepts : validator.Accepts ledger now binding request actions)
    {claim : Script × Bytes} (among : claim ∈ validator.claims now request actions) :
    ∃ preimage, ClaimSignature.revealed? claim.2 = some preimage ∧
      (validator.deserializer = PublicKey.deserializer S now →
        claim.1.lock.image preimage = claim.1.lock.hash) := by
  obtain ⟨⟨principal, signature⟩, used, made⟩ := List.mem_filterMap.mp among
  obtain ⟨script, claimed, rfl⟩ := Option.map_eq_some_iff.mp made
  obtain ⟨transfer, token, rfl, found, early⟩ := Principal.claimed?_eq_some.mp claimed
  obtain ⟨signed, respects⟩ := accepts.owner_consents used
  rcases respects with free | ⟨_, _, same, -, -, ⟨-, -, published⟩ | ⟨late, -⟩⟩
  · cases found.symm.trans free
  · obtain ⟨opened, read, nonempty, signedNonempty, -⟩ := published
    refine ⟨opened.preimage,
      ClaimSignature.revealed?_eq_some read nonempty signedNonempty, fun keys => ?_⟩
    rw [keys] at signed
    rcases TransferAction.RespectsScript.claimed_or_reclaimed
      (accepts.owner_consents used).2 found signed with claims | reclaims
    · obtain ⟨_, _, sameRead, -, -, -, opens, -⟩ := claims.revealed
      cases read.symm.trans sameRead
      exact opens
    · exact absurd early (UInt64.not_lt.mpr reclaims.late)
  · cases found.symm.trans same
    exact absurd early (UInt64.not_lt.mpr (Script.operation_eq_reclaim.mp late))

theorem signaturesOf_append (validator : Validator S) (request : TokenRequest)
    (more : List Bytes) :
    validator.signaturesOf { request with signatures := request.signatures ++ more } =
      validator.signaturesOf request ++ more := by
  unfold signaturesOf
  split
  · rfl
  · exact (List.append_assoc _ _ _).symm

theorem filterMap_claims :
    (validator.claims now request actions).filterMap
      (fun claim => Action.report? claim.2) =
      (validator.consumed request actions).filterMap fun use =>
        (use.1.claimed? now).bind fun _ => Action.report? use.2 := by
  rw [claims, List.filterMap_filterMap]
  refine List.filterMap_congr fun use _ => ?_
  rw [Option.bind_map]
  rfl

theorem Accepts.reports_eq
    (accepts : validator.Accepts ledger now binding request actions) :
    Action.reports actions =
      (validator.consumed request actions).filterMap (fun use => Action.report? use.2) ++
        (validator.unconsumed request actions).filterMap Action.report? := by
  conv_lhs => rw [accepts.actions]
  rw [Action.reports_actionsOf, accepts.signatures, List.filterMap_append,
    List.filterMap_map]
  rfl

end

/-- An accepted request reports its claims in order, each with the preimage that
its signature reveals and that opens the lock. It reports nothing else exactly
if nothing else among the signatures reads as a claim, be it used up by somebody
else or left over; whatever reads as a claim can be attached. -/
theorem reports_iff_claims {validator : Validator S} {ledger : Ledger} {now : UInt64}
    {binding : String} {text : Bytes} {actions : List (Action S)}
    (accepted : validator.verify ledger now binding text = .ok actions) :
    ∃ request, TokenRequest.deserialize text = .ok request ∧
      (∀ claim ∈ validator.claims now request actions, ∃ preimage,
        ClaimSignature.revealed? claim.2 = some preimage ∧
        (validator.deserializer = PublicKey.deserializer S now →
          claim.1.lock.image preimage = claim.1.lock.hash)) ∧
      (∃ reported, reported.Sublist (Action.reports actions) ∧
        List.Forall₂ (fun claim data => Action.report? claim.2 = some data)
          (validator.claims now request actions) reported) ∧
      (List.Forall₂ (fun claim data => Action.report? claim.2 = some data)
          (validator.claims now request actions) (Action.reports actions) ↔
        (∀ use ∈ validator.consumed request actions, use.1.claimed? now = none →
          ClaimSignature.revealed? use.2 = none) ∧
        ∀ signature ∈ validator.unconsumed request actions,
          ClaimSignature.revealed? signature = none) ∧
      ∀ signature preimage, ClaimSignature.revealed? signature = some preimage →
        validator.verify ledger now binding
            { request with signatures := request.signatures ++ [signature] }.serialize =
          .ok (actions ++ [.signature (Action.revelation preimage)]) := by
  obtain ⟨-, request, parsed, accepts⟩ := verify_eq_ok_iff_accepts.mp accepted
  have reveals (claim) (among : claim ∈ validator.claims now request actions) :
      ∃ data, Action.report? claim.2 = some data := by
    obtain ⟨preimage, revealed, -⟩ := accepts.revealed_of_mem_claims among
    exact ⟨Action.revelation preimage,
      Option.map_eq_some_iff.mpr ⟨preimage, revealed, rfl⟩⟩
  have refines : ∀ use ∈ validator.consumed request actions, ∀ data,
      ((use.1.claimed? now).bind fun _ => Action.report? use.2) = some data →
        Action.report? use.2 = some data := by
    intro use _ data found
    obtain ⟨_, -, reported⟩ := Option.bind_eq_some_iff.mp found
    exact reported
  refine ⟨request, parsed, fun claim => accepts.revealed_of_mem_claims, ⟨_, ?_,
    forall₂_filterMap.mpr ⟨reveals, rfl⟩⟩, ?_, fun signature preimage revealed => ?_⟩
  · rw [filterMap_claims, accepts.reports_eq]
    exact (filterMap_sublist refines).trans (List.sublist_append_left _ _)
  · rw [forall₂_filterMap, and_iff_right reveals, filterMap_claims, accepts.reports_eq,
      filterMap_eq_filterMap_append_iff refines, List.filterMap_eq_nil_iff]
    simp only [Action.report?_eq_none]
    refine and_congr_left fun _ => forall₂_congr fun use used => ?_
    constructor
    · intro none unclaimed
      exact none (by rw [unclaimed, Option.bind_none])
    · intro none dropped
      cases claimed : use.1.claimed? now with
      | none => exact none claimed
      | some script => simpa [claimed, Action.report?_eq_none] using dropped
  · rw [accepts.verify_resigned { request with signatures := request.signatures ++
      [signature] } rfl rfl (validator.signaturesOf_append request [signature])]
    simp [Action.ofSignature?_eq, Action.report?, revealed]

end Validator

namespace HashLock.Sample

open Bn254 Batch.Sample

/-- A text that reads as a claim, though nobody has signed anything with it. -/
def stray : Bytes :=
  Json.write (ClaimSignature.mk [0] [65])

theorem revealed?_stray : ClaimSignature.revealed? stray = some [65] := by
  have read : ClaimSignature.deserialize stray = .ok ⟨[0], [65]⟩ := by
    simp [ClaimSignature.deserialize, stray]
  exact ClaimSignature.revealed?_eq_some read (by decide) (by decide)

/-- A stray claim behind the signatures of the sample is reported, and does not
open the lock. -/
theorem stray_reported : ∃ request : TokenRequest,
    (base.validator 0).verify ledger 0 "tx1" request.serialize =
      .ok [.transfer claim, .signature (Action.revelation preimage),
        .signature (Action.revelation [65])] ∧
      script.lock.image [65] ≠ script.lock.hash := by
  obtain ⟨_, accepted⟩ := claim_accepted
  obtain ⟨request, -, -, -, -, attach⟩ := Validator.reports_iff_claims accepted
  exact ⟨_, attach stray [65] revealed?_stray, by decide +kernel⟩

end HashLock.Sample

end ConfidentialToken
