import ConfidentialToken.Json.Schema

/-!
Identities of owners, issuers and auditors, and what is asked of them.

On the ledger an identity is a byte string. How such a string turns into a
verifier of signatures, or is matched against audit information, is left to the
functions that are collected here.
-/

namespace ConfidentialToken

open Json

structure Identity where
  bytes : Bytes
deriving DecidableEq

namespace Identity

instance : JsonForm Identity where
  toJson identity := hex identity.bytes
  fromJson value := (ofHex value).map Identity.mk

def isNone (identity : Identity) : Bool :=
  identity.bytes.isEmpty

def text (identity : Identity) : String :=
  Hex.encodeText identity.bytes

def describe (identity : Identity) : String :=
  s!"Identity({identity.text})"

end Identity

/-- An identity together with the name of the scheme that interprets it. -/
structure TypedIdentity where
  scheme : String
  content : Bytes
deriving DecidableEq

namespace TypedIdentity

instance : JsonForm TypedIdentity where
  toJson typed := .object [("type", toJson typed.scheme), ("identity", hex typed.content)]
  fromJson value := do
    let [scheme, content] ← value.fields ["type", "identity"] | none
    return { scheme := ← required scheme, content := ← requiredHex content }

def serialize (typed : TypedIdentity) : Identity :=
  ⟨Json.write typed⟩

def deserialize (text : Bytes) : Result TypedIdentity :=
  during "failed to unmarshal typed identity" (Json.read text)

end TypedIdentity

def publicKeyScheme : String :=
  "x509"

/-- The scheme of identities that are anonymous credentials. -/
def credentialScheme : String :=
  "idemix"

/-- The scheme of identities that are hash time lock scripts. -/
def scriptScheme : String :=
  "htlc"

/-- What a byte string refers to when an identity is asked for. -/
inductive IdentityKind where
  | publicKey (key : Bytes)
  | credential (content : Bytes)
  /-- The name of a wallet, which is no identity on the ledger. -/
  | walletLabel (label : String)
deriving DecidableEq

/-- What a byte string refers to: a typed identity, and failing that a name. -/
def IdentityKind.resolve (text : Bytes) : Result IdentityKind :=
  match (Json.read? text : Option TypedIdentity) with
  | some typed =>
      if typed.scheme = publicKeyScheme then .ok (.publicKey typed.content)
      else if typed.scheme = credentialScheme then .ok (.credential typed.content)
      else .error (.identity s!"identity type [{typed.scheme}] not recognized")
  | none =>
      match text, Bytes.toText? text with
      | _ :: _, some label => .ok (.walletLabel label)
      | _, _ => .error (.identity "cannot resolve identity")

/-- Checks a signature on a message: the message comes first. -/
abbrev Verifier := Bytes → Bytes → Result Unit

abbrev Matcher := Bytes → Result Unit

structure Signer where
  sign : Bytes → Result Bytes
  /-- The identity under which the signatures verify. -/
  identity : Result Identity

/-- The verifiers that identities stand for, by the role in which they occur. -/
structure Deserializer where
  owner : Identity → Result Verifier
  issuer : Identity → Result Verifier
  auditor : Identity → Result Verifier

/-- The matcher that audit information about an owner stands for. -/
abbrev MatcherDeserializer := Bytes → Result Matcher

end ConfidentialToken
