/-!
What can go wrong in the token system, and how it is worded.
-/

namespace ConfidentialToken

inductive Error where
  /-- An argument is malformed: a length mismatch, a missing field, a bad
  witness. -/
  | invalidInput (reason : String)
  /-- A proof does not verify. -/
  | invalidProof (reason : String)
  /-- A value exceeds the largest one that the public parameters allow. -/
  | outOfRange (value max : UInt64)
  /-- Bytes do not encode the expected object. -/
  | serialization (reason : String)
  /-- An identity, a signer or a signature verifier failed. -/
  | identity (reason : String)
  /-- The ledger could not be read. -/
  | ledger (reason : String)
  /-- The audited data do not match. -/
  | audit (reason : String)
  /-- The public parameters are not valid. -/
  | invalidParameters (reason : String)
  /-- The registry of drivers failed. -/
  | registry (reason : String)
  /-- A failure together with what was being done when it occurred. -/
  | context (activity : String) (source : Error)
deriving DecidableEq

namespace Error

def root : Error → Error
  | .context _ source => source.root
  | failure => failure

def source? : Error → Option Error
  | .context _ source => some source
  | _ => none

def message : Error → String
  | .invalidInput reason => "invalid input: " ++ reason
  | .invalidProof reason => reason
  | .outOfRange value max =>
      s!"value of token outside authorized range: [{value}] exceeds [{max}]"
  | .serialization reason => "serialization error: " ++ reason
  | .identity reason => reason
  | .ledger reason => reason
  | .audit reason => reason
  | .invalidParameters reason => "invalid public parameters: " ++ reason
  | .registry reason => reason
  | .context activity source => activity ++ ": " ++ source.message

/-- The name of the kind of a failure, which its contexts do not change. -/
def kindName : Error → String
  | .invalidInput _ => "InvalidInput"
  | .invalidProof _ => "InvalidProof"
  | .outOfRange _ _ => "OutOfRange"
  | .serialization _ => "Serialization"
  | .identity _ => "Identity"
  | .ledger _ => "Ledger"
  | .audit _ => "Audit"
  | .invalidParameters _ => "InvalidParameters"
  | .registry _ => "Registry"
  | .context _ source => source.kindName

/-- A text that is not the JSON form of the expected object. -/
def malformedJson : Error :=
  .serialization "json"

end Error

abbrev Result := Except Error

/-- Adds to a failure what was being done when it occurred. -/
def during {α : Type} (activity : String) : Result α → Result α
  | .ok value => .ok value
  | .error failure => .error (.context activity failure)

end ConfidentialToken
