import ConfidentialToken.Request
import ConfidentialToken.Transfer.Action
import ConfidentialToken.Transfer.Proof

/-!
Senders: who spends tokens, and signs for it.
-/

namespace ConfidentialToken

variable {S : Suite}

/-- A token to be spent, with its identifier, its opening and who signs for its
owner. -/
structure Spendable (S : Suite) where
  signer : Signer
  token : Token S
  id : TokenId
  opening : Metadata S

/-- Someone who spends tokens: at least one. -/
structure Sender (S : Suite) where
  first : Spendable S
  rest : List (Spendable S)
  parameters : PublicParameters S

namespace Sender

/-- The sender with the given tokens, for each of which there must be the rest
of the data. -/
def ofParts (signers : List Signer) (tokens : List (Token S)) (ids : List TokenId)
    (openings : List (Metadata S)) (parameters : PublicParameters S) :
    Result (Sender S) :=
  if signers.length ≠ tokens.length ∨ tokens.length ≠ openings.length ∨
      ids.length ≠ tokens.length then
    .error (.invalidInput "number of tokens to be spent does not match number of opening")
  else
    match (signers.zip (tokens.zip (ids.zip openings))).map fun (signer, token, id,
        opening) =>
      { signer, token, id, opening : Spendable S } with
    | [] => .error (.invalidInput "no tokens to spend")
    | first :: rest => .ok { first, rest, parameters }

def inputs (sender : Sender S) : List (Spendable S) :=
  sender.first :: sender.rest

def tokenType (sender : Sender S) : String :=
  sender.first.opening.tokenType

def inputOpening (sender : Sender S) (input : Spendable S) : Result (Opening S) := do
  if input.opening.tokenType ≠ sender.tokenType then
    throw (.invalidInput
      "cannot generate transfer: please choose inputs of the same token type")
  let value := ScalarOperations.toNat input.opening.value
  if UInt64.size ≤ value then
    throw (.invalidInput "cannot generate transfer: invalid value")
  return ⟨sender.tokenType, .ofNat value, input.opening.blindingFactor⟩

/-- Transfers the inputs to outputs with the given values and owners. The
openings are for the owners. -/
def transfer {R : Type} [RandomSource S R] (sender : Sender S) (values : List UInt64)
    (owners : List Bytes) : Sampling R (TransferAction S × List (Metadata S)) := do
  if values.length ≠ owners.length then
    throw (.invalidInput <|
      s!"cannot generate transfer: number of values [{values.length}] does not " ++
      s!"match number of recipients [{owners.length}]")
  let inputOpenings ← sender.inputs.mapM fun input =>
    (sender.inputOpening input : Result _)
  let (outputs, outputOpenings) ← Sampling.during "cannot generate transfer"
    (Opening.createTokens sender.parameters.pedersen sender.tokenType values)
  let tokens := sender.inputs.map Spendable.token
  let statement : Transfer.Statement S :=
    ⟨sender.parameters, tokens.map Token.commitment, outputs⟩
  let _ ← statement.commonType inputOpenings outputOpenings
  let proof ← Sampling.during "cannot generate zero-knowledge proof for transfer"
    (statement.prove inputOpenings outputOpenings)
  let action ← during "failed to produce transfer action"
    (TransferAction.ofParts (sender.inputs.map Spendable.id) tokens outputs owners
      (Json.write proof))
  return (action, List.zipWith (fun opening owner => opening.toMetadata owner [])
    outputOpenings owners)

/-- Signs a request under a transaction identifier for every input. -/
def sign (sender : Sender S) (request : Bytes) (transaction : String) :
    Result (List Bytes) :=
  sender.inputs.mapM fun input =>
    during "failed to sign token requests"
      (input.signer.sign (request ++ Bytes.ofText transaction))

/-- The request with one transfer, signed under a transaction identifier for
every input. -/
def request (sender : Sender S) (action : TransferAction S) (transaction : String) :
    Result TokenRequest := do
  let request := TokenRequest.empty.addTransfer action
  let signatures ← sender.sign request.unsignedBytes transaction
  return { request with signatures := signatures }

end Sender

end ConfidentialToken
