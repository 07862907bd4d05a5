import ConfidentialToken.Validation.Validator

/-!
The registry of drivers: which functions read the public parameters of a label.
-/

namespace ConfidentialToken

variable {S : Suite}

/-- What reads public parameters and builds validators under them. -/
structure Driver (S : Suite) where
  parameters : Bytes → Result (PublicParameters S)
  validator : PublicParameters S → Deserializer → Result (Validator S)

def Driver.standard : Driver S where
  parameters text := do
    let parameters : PublicParameters S ← PublicParameters.deserialize text schemeLabel
    during "invalid public parameters" parameters.validate
    return parameters
  validator := Validator.ofParameters

structure Registry (S : Suite) where
  drivers : List (String × Driver S)

namespace Registry

def empty : Registry S :=
  ⟨[]⟩

def standard : Registry S :=
  ⟨[(schemeLabel, .standard)]⟩

def get (registry : Registry S) (name : String) : Result (Driver S) :=
  match registry.drivers.find? fun entry => entry.1 = name with
  | some (_, driver) => .ok driver
  | none => .error (.registry s!"driver [{name}] not found")

/-- The registry with one more driver, under a name that is free. -/
def register (registry : Registry S) (name : String) (driver : Driver S) :
    Result (Registry S) :=
  if registry.drivers.any fun entry => entry.1 = name then
    .error (.registry s!"driver [{name}] already registered")
  else .ok ⟨registry.drivers ++ [(name, driver)]⟩

def names (registry : Registry S) : List String :=
  (registry.drivers.map Prod.fst).mergeSort fun left right => left ≤ right

/-- Reads public parameters with the driver that their envelope names. -/
def parameters (registry : Registry S) (text : Bytes) : Result (PublicParameters S) := do
  if text.isEmpty then
    throw (.invalidInput "empty public parameters")
  let envelope : Envelope ← during "failed to unmarshal public parameters envelope"
    (Json.read text)
  let driver ← during "cannot load public parameters" (registry.get envelope.label)
  driver.parameters text

/-- The validator under public parameters that are read by the driver that their
envelope names. -/
def validator (registry : Registry S) (text : Bytes) (deserializer : Deserializer) :
    Result (Validator S) := do
  let parameters ← registry.parameters text
  let driver ← registry.get parameters.label
  driver.validator parameters deserializer

end Registry

end ConfidentialToken
