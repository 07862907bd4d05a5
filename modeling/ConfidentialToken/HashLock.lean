import ConfidentialToken.Bytes.Sha256
import ConfidentialToken.Identity

/-!
Hash time locks.

A token that is owned by a script belongs to the recipient before the deadline,
who spends it by revealing the preimage of the lock, and to the sender from the
deadline on. The time is an argument of everything that depends on it.
-/

namespace ConfidentialToken.HashLock

open Json

inductive HashFunction where
  | sha256
deriving DecidableEq

instance : JsonForm HashFunction where
  toJson
    | .sha256 => .string "sha256"
  fromJson value := do
    let "sha256" ← value.variant? | none
    return .sha256

inductive HashForm where
  /-- The bytes of the digest. -/
  | raw
  /-- The hexadecimal text of the digest. -/
  | hexadecimal
deriving DecidableEq

instance : JsonForm HashForm where
  toJson
    | .raw => .string "none"
    | .hexadecimal => .string "hex"
  fromJson value :=
    match value.variant? with
    | some "none" => some .raw
    | some "hex" => some .hexadecimal
    | _ => none

structure Lock where
  /-- The image of the preimage. -/
  hash : Bytes
  function : HashFunction
  form : HashForm
deriving DecidableEq

namespace Lock

instance : JsonForm Lock where
  toJson lock := .object [
    ("hash", hex lock.hash),
    ("hash_func", toJson lock.function),
    ("hash_encoding", toJson lock.form)]
  fromJson value := do
    let [hash, function, form] ← value.fields ["hash", "hash_func", "hash_encoding"]
      | none
    return {
      hash := ← requiredHex hash
      function := ← optional .sha256 function
      form := ← optional .raw form }

/-- The image of a preimage under the hash function and in the form of a
lock. -/
def image (lock : Lock) (preimage : Bytes) : Bytes :=
  let digest :=
    match lock.function with
    | .sha256 => Sha256.digest preimage
  match lock.form with
  | .raw => digest
  | .hexadecimal => Hex.encode digest

def ofPreimage (preimage : Bytes) : Lock :=
  ⟨Sha256.digest preimage, .sha256, .raw⟩

def validate (lock : Lock) : Result Unit :=
  if lock.hash.isEmpty then .error (.invalidInput "hash is not set") else .ok ()

end Lock

/-- The terms under which a locked token can be spent. -/
structure Script where
  sender : Identity
  recipient : Identity
  /-- The second from which on the token belongs to the sender. -/
  deadline : UInt64
  lock : Lock
deriving DecidableEq

namespace Script

instance : JsonForm Script where
  toJson script := .object [
    ("sender", toJson script.sender),
    ("recipient", toJson script.recipient),
    ("deadline", toJson script.deadline),
    ("hash_info", toJson script.lock)]
  fromJson value := do
    let [sender, recipient, deadline, lock] ← value.fields
      ["sender", "recipient", "deadline", "hash_info"] | none
    return {
      sender := ← required sender
      recipient := ← required recipient
      deadline := ← required deadline
      lock := ← required lock }

def validate (script : Script) (now : UInt64) : Result Unit :=
  if script.sender.isNone then .error (.invalidInput "sender not set")
  else if script.recipient.isNone then .error (.invalidInput "recipient not set")
  else if script.deadline < now then
    .error (.invalidInput "expiration date has already passed")
  else script.lock.validate

def toIdentity (script : Script) : Identity :=
  TypedIdentity.serialize ⟨scriptScheme, Json.write script⟩

/-- The script that an owner consists of, if the owner is one. -/
def ofOwner (owner : Bytes) : Result (Option Script) :=
  match (Json.read? owner : Option TypedIdentity) with
  | some typed =>
      if typed.scheme = scriptScheme then
        (during "failed to unmarshal htlc script" (Json.read typed.content)).map some
      else .ok none
  | none => .ok none

end Script

/-- Whether an owner is a typed identity of the scheme of scripts. -/
def isScript (owner : Bytes) : Bool :=
  (Json.read? owner).any fun typed : TypedIdentity => typed.scheme = scriptScheme

/-- The key under which the preimage of an image is published. -/
def claimKey (image : Bytes) : String :=
  "htlc.claim.preimage." ++ Hex.encodeText image

/-- The signature with which the recipient spends a locked token. -/
structure ClaimSignature where
  recipientSignature : Bytes
  preimage : Bytes
deriving DecidableEq

namespace ClaimSignature

instance : JsonForm ClaimSignature where
  toJson claim := .object [
    ("recipient_signature", hex claim.recipientSignature),
    ("preimage", hex claim.preimage)]
  fromJson value := do
    let [recipientSignature, preimage] ←
      value.fields ["recipient_signature", "preimage"] | none
    return {
      recipientSignature := ← requiredHex recipientSignature
      preimage := ← requiredHex preimage }

def deserialize (text : Bytes) : Result ClaimSignature :=
  during "failed unmarshalling claim signature" (Json.read text)

def signedMessage (message preimage : Bytes) : Bytes :=
  message ++ preimage

end ClaimSignature

/-- The recipient of a script as someone who claims tokens by revealing a
preimage. -/
def claimSigner (recipient : Signer) (preimage : Bytes) : Signer where
  sign message := do
    let signature ← during "failed signing claim"
      (recipient.sign (ClaimSignature.signedMessage message preimage))
    return Json.write { recipientSignature := signature, preimage : ClaimSignature }
  identity := recipient.identity

inductive Operation where
  | claim
  | reclaim
deriving DecidableEq

def Script.operation (script : Script) (now : UInt64) : Operation :=
  if now < script.deadline then .claim else .reclaim

/-- The script that locks an input and how it is spent, provided that the owner
of the output is the party to whom the token belongs. -/
def verifyOwner (inputOwner outputOwner : Bytes) (now : UInt64) :
    Result (Script × Operation) := do
  let some script ← Script.ofOwner inputOwner
    | throw (.invalidInput "input owner is not an htlc script")
  match script.operation now with
  | .claim =>
      if script.recipient.bytes ≠ outputOwner then
        throw (.invalidInput
          "owner of output token does not correspond to recipient in htlc request")
      return (script, .claim)
  | .reclaim =>
      if script.sender.bytes ≠ outputOwner then
        throw (.invalidInput
          "owner of output token does not correspond to sender in htlc request")
      return (script, .reclaim)

/-- The verifier of spends of a locked token at a time, from the verifiers of
the two parties. -/
def Script.verifier (script : Script) (sender recipient : Verifier) (now : UInt64) :
    Verifier :=
  fun message signature =>
    match script.operation now with
    | .claim => do
        let claim ← ClaimSignature.deserialize signature
        during "failed verifying recipient signature"
          (recipient (ClaimSignature.signedMessage message claim.preimage)
            claim.recipientSignature)
        if script.lock.image claim.preimage ≠ script.lock.hash then
          throw (.identity "hash mismatch: preimage does not open the lock")
    | .reclaim => sender message signature

/-- What an auditor needs to know about the parties of a script. -/
structure AuditInfo where
  sender : Bytes
  recipient : Bytes
deriving DecidableEq

namespace AuditInfo

instance : JsonForm AuditInfo where
  toJson info := .object [("sender", hex info.sender), ("recipient", hex info.recipient)]
  fromJson value := do
    let [sender, recipient] ← value.fields ["sender", "recipient"] | none
    return { sender := ← requiredHex sender, recipient := ← requiredHex recipient }

/-- The audit information of a script whose parties are plain identities. -/
def ofScript (script : Script) : AuditInfo :=
  ⟨script.sender.bytes, script.recipient.bytes⟩

end AuditInfo

/-- Matches scripts, from the matchers of the two parties. -/
def scriptMatcher (sender recipient : Matcher) : Matcher := fun identity => do
  let some script ← Script.ofOwner identity
    | throw (.identity "identity is not an htlc script")
  during s!"failed matching sender identity [{script.sender.text}]"
    (sender script.sender.bytes)
  during s!"failed matching recipient identity [{script.recipient.text}]"
    (recipient script.recipient.bytes)

end ConfidentialToken.HashLock
