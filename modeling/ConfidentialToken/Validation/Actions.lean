import ConfidentialToken.HashLock
import ConfidentialToken.Issue.Action
import ConfidentialToken.Issue.Anonymous
import ConfidentialToken.Issue.Proof
import ConfidentialToken.Transfer.Action
import ConfidentialToken.Transfer.Proof

/-!
Validation of issues and transfers.

The signatures of a request are used up in order. A check that asks for a
signature takes the next one, whether it turns out to be valid or not, and the
signatures that are left survive a failure.

Of an issue the proof is checked, then the issuer and the issuer's signature. Of
a transfer the spent tokens are looked up first and their owners' signatures
checked, then the proof, then the rules of hash time locks, then the owners of
the created tokens.
-/

namespace ConfidentialToken

abbrev Checking := ExceptT Error (StateM (List Bytes))

namespace Checking

/-- Adds to a failure what was being done when it occurred. -/
def during {α : Type} (activity : String) (check : Checking α) :
    Checking α := fun signatures =>
  let (result, rest) := check signatures
  (ConfidentialToken.during activity result, rest)

/-- Takes the next signature, which must be one on the message. -/
def nextSignature (message : Bytes) (verifier : Verifier) : Checking Bytes
  | [] => (.error (.identity "invalid state, insufficient number of signatures"), [])
  | signature :: rest => ((verifier message signature).map fun _ => signature, rest)

end Checking

variable {S : Suite}

namespace IssueAction

/-- The verifier of an issuer that is named, and must be one of the issuers if
there are any. -/
def namedVerifier (action : IssueAction S) (parameters : PublicParameters S)
    (deserializer : Deserializer) : Result Verifier := do
  if !parameters.issuers.isEmpty && !decide (action.issuer ∈ parameters.issuers) then
    throw (.identity s!"issuer [{action.issuer.text}] is not in issuers")
  during s!"failed getting verifier for [{action.issuer.text}]"
    (deserializer.issuer action.issuer)

def anonymousVerifier (action : IssueAction S) (parameters : PublicParameters S)
    (commitmentToType : S.G1) : Result Verifier := do
  let pseudonym ← AnonymousIssuer.pseudonym action.issuer
  let key ←
    AnonymousIssuer.VerificationKey.ofParameters parameters pseudonym commitmentToType
  return key.verifier

/-- Checks all of an issue but the signature, for which it gives the
verifier. -/
def issuerVerifier (action : IssueAction S) (parameters : PublicParameters S)
    (deserializer : Deserializer) : Result Verifier := do
  action.validate
  let proof ← Issue.Proof.deserialize action.proof
  let statement : Issue.Statement S := ⟨parameters, action.commitments, action.anonymous⟩
  during "failed to verify issue action" (statement.verifyProof proof)
  if action.anonymous then
    action.anonymousVerifier parameters proof.wellFormedness.commitmentToType
  else action.namedVerifier parameters deserializer

def check (action : IssueAction S) (parameters : PublicParameters S)
    (deserializer : Deserializer) (message : Bytes) : Checking Unit := do
  let verifier ← (action.issuerVerifier parameters deserializer : Result Verifier)
  let _ ← Checking.during "failed verifying signature"
    (Checking.nextSignature message verifier)

end IssueAction

/-- Read access to the tokens on the ledger: the bytes of a token, none if there
is no token. -/
abbrev Ledger := TokenId → Result Bytes

/-- The spent tokens of a transfer as they are on the ledger, with the
signatures of their owners. -/
structure SpentTokens (S : Suite) where
  tokens : List (Token S)
  signatures : List Bytes

/-- Looks up a spent token, which must be the one in the action. -/
def Ledger.lookUp (ledger : Ledger) (id : TokenId) (embedded : Token S) :
    Result (Token S) := do
  let bytes ← during s!"failed to retrieve input to spend [{id.text}]" (ledger id)
  if bytes.isEmpty then
    throw (.ledger s!"input to spend [{id.text}] does not exists")
  let token ←
    during s!"failed to deserialize input to spend [{id.text}]" (Token.deserialize bytes)
  if token ≠ embedded then
    throw (.ledger
      s!"input to spend [{id.text}] does not match the token in the transfer action")
  return token

/-- A claim must publish its preimage with the action. -/
def HashLock.Script.checkMetadata (script : HashLock.Script)
    (operation : HashLock.Operation) (action : TransferAction S) (signature : Bytes) :
    Result Unit :=
  match operation with
  | .reclaim => .ok ()
  | .claim => do
      let claim ← HashLock.ClaimSignature.deserialize signature
      if claim.preimage.isEmpty ∨ claim.recipientSignature.isEmpty then
        throw (.invalidInput "expected a valid claim preImage and recipient signature")
      if action.metadata.entries.isEmpty then
        throw (.invalidInput "cannot find htlc pre-image, no metadata")
      let some published := action.metadata.find?
          (HashLock.claimKey (script.lock.image claim.preimage))
        | throw (.invalidInput "cannot find htlc pre-image, missing metadata entry")
      if published ≠ claim.preimage then
        let found := Hex.encodeText published
        let expected := Hex.encodeText claim.preimage
        throw (.invalidInput <|
          "invalid action, cannot match htlc pre-image with metadata " ++
          s!"[{found}]!=[{expected}]")

/-- Whether the owner of a created token is one who can spend it: a script that
has not expired, or a typed identity. A token that leaves the system has no
owner. -/
def Token.checkOwner (token : Token S) (now : UInt64) : Result Unit := do
  if token.isRedeemed then return
  match ← HashLock.Script.ofOwner token.owner with
  | some script => during "htlc script invalid" (script.validate now)
  | none =>
      match ← IdentityKind.resolve token.owner with
      | .publicKey _ | .credential _ => return
      | .walletLabel _ => throw (.identity "invalid output owner type")

namespace TransferAction

/-- Looks up the spent token of an input, and takes the signature of its
owner. -/
def checkInput (ledger : Ledger) (deserializer : Deserializer) (message : Bytes)
    (place : Nat) (id : TokenId) (embedded : Token S) : Checking (Token S × Bytes) := do
  let token ← (ledger.lookUp id embedded : Result (Token S))
  let owner : Identity := ⟨token.owner⟩
  let verifier ← (during s!"failed deserializing owner [{place}][{id.text}][{owner.text}]"
    (deserializer.owner owner) : Result Verifier)
  let signature ← Checking.during
    s!"failed signature verification [{place}][{id.text}][{owner.text}]"
    (Checking.nextSignature message verifier)
  return (token, signature)

/-- Looks up the spent tokens, and takes the signatures of their owners. -/
def checkSignatures (action : TransferAction S) (ledger : Ledger)
    (deserializer : Deserializer) (message : Bytes) : Checking (SpentTokens S) := do
  let spent ← (action.inputs.zip action.inputTokens).zipIdx.mapM
    fun ((id, embedded), place) =>
      checkInput ledger deserializer message place id embedded
  return ⟨spent.map Prod.fst, spent.map Prod.snd⟩

/-- Checks the proof with respect to the spent tokens. -/
def checkProof (action : TransferAction S) (parameters : PublicParameters S)
    (spent : SpentTokens S) : Result Unit :=
  Transfer.Statement.verify
    ⟨parameters, spent.tokens.map Token.commitment, action.outputCommitments⟩ action.proof

/-- Checks that a spent token, if a script owns it, passes as it is to the right
party. -/
def checkScript (action : TransferAction S) (spent : SpentTokens S) (now : UInt64)
    (input : Token S) (place : Nat) : Result Unit := do
  if (← HashLock.Script.ofOwner input.owner).isNone then return
  match spent.tokens, action.outputs with
  | [_], [output] =>
      let (script, operation) ← during "failed to verify transfer from htlc script"
        (HashLock.verifyOwner input.owner output.owner now)
      let some signature := spent.signatures[place]?
        | throw (.identity s!"missing signature for input [{place}]")
      during "failed to check htlc metadata"
        (script.checkMetadata operation action signature)
  | _, _ => throw (.invalidInput
      "invalid transfer action: an htlc script only transfers the ownership of a token")

def checkScripts (action : TransferAction S) (spent : SpentTokens S) (now : UInt64) :
    Result Unit :=
  spent.tokens.zipIdx.forM fun (input, place) => action.checkScript spent now input place

def checkOwners (action : TransferAction S) (now : UInt64) : Result Unit :=
  action.outputs.zipIdx.forM fun (output, place) =>
    during s!"invalid output owner at index [{place}]" (output.checkOwner now)

def check (action : TransferAction S) (parameters : PublicParameters S) (ledger : Ledger)
    (deserializer : Deserializer) (message : Bytes) (now : UInt64) : Checking Unit := do
  let step {α : Type} (check : Checking α) : Checking α :=
    Checking.during "failed to verify transfer action" check
  (action.validate : Result Unit)
  let spent ← step (action.checkSignatures ledger deserializer message)
  step (action.checkProof parameters spent : Result Unit)
  step (action.checkScripts spent now : Result Unit)
  step (action.checkOwners now : Result Unit)

end TransferAction

end ConfidentialToken
