import ConfidentialToken.Identity
import ConfidentialToken.KeyedData
import ConfidentialToken.Token

/-!
The action that spends tokens and creates others in their place.
-/

namespace ConfidentialToken

open Json

variable {S : Suite}

structure TransferAction (S : Suite) where
  /-- The identifiers of the spent tokens. -/
  inputs : List TokenId
  /-- The spent tokens as they are on the ledger. -/
  inputTokens : List (Token S)
  outputs : List (Token S)
  proof : Bytes
  /-- What is published with the transfer. -/
  metadata : KeyedData

namespace TransferAction

instance : JsonForm (TransferAction S) where
  toJson action := .object [
    ("inputs", toJson action.inputs),
    ("input_tokens", toJson action.inputTokens),
    ("output_tokens", toJson action.outputs),
    ("proof", hex action.proof),
    ("metadata", toJson action.metadata)]
  fromJson value := do
    let [inputs, inputTokens, outputs, proof, metadata] ← value.fields
      ["inputs", "input_tokens", "output_tokens", "proof", "metadata"] | none
    return {
      inputs := ← required inputs
      inputTokens := ← required inputTokens
      outputs := ← required outputs
      proof := ← requiredHex proof
      metadata := ← optional .empty metadata }

def serialize (action : TransferAction S) : Bytes :=
  Json.write action

def deserialize (text : Bytes) : Result (TransferAction S) :=
  during "failed to unmarshal transfer action" (Json.read text)

def inputCommitments (action : TransferAction S) : List S.G1 :=
  action.inputTokens.map Token.commitment

def outputCommitments (action : TransferAction S) : List S.G1 :=
  action.outputs.map Token.commitment

def inputOwners (action : TransferAction S) : List Identity :=
  action.inputTokens.map fun token => ⟨token.owner⟩

/-- Whether there is an output at an index that leaves the system. -/
def redeemsAt (action : TransferAction S) (index : Nat) : Bool :=
  action.outputs[index]?.any Token.isRedeemed

/-- The failure for identifiers and tokens that are not equally many. -/
def inputMismatch (inputs tokens : Nat) : Error :=
  .invalidInput
    s!"number of inputs [{inputs}] does not match number of input tokens [{tokens}]"

/-- Whether there are inputs, each with a token, and outputs. -/
def validate (action : TransferAction S) : Result Unit :=
  if action.inputs.isEmpty then
    .error (.invalidInput "invalid number of token inputs, expected at least 1")
  else if action.inputs.length ≠ action.inputTokens.length then
    .error (inputMismatch action.inputs.length action.inputTokens.length)
  else if action.outputs.isEmpty then
    .error (.invalidInput "invalid number of token outputs, expected at least 1")
  else .ok ()

def ofParts (inputs : List TokenId) (inputTokens : List (Token S)) (outputs : List S.G1)
    (owners : List Bytes) (proof : Bytes) : Result (TransferAction S) :=
  if outputs.length ≠ owners.length then
    .error (.invalidInput <|
      s!"number of recipients [{owners.length}] does not match number of outputs " ++
      s!"[{outputs.length}]")
  else if inputs.length ≠ inputTokens.length then
    .error (inputMismatch inputs.length inputTokens.length)
  else .ok {
    inputs := inputs
    inputTokens := inputTokens
    outputs := List.zipWith Token.mk owners outputs
    proof := proof
    metadata := .empty }

end TransferAction

end ConfidentialToken
