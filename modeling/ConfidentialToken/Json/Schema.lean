import ConfidentialToken.Bytes.Hex
import ConfidentialToken.Json.Parser
import ConfidentialToken.Suite

/-!
How the objects of the library stand in JSON.

An object is read from its members in any order, unknown ones being passed over,
or from an array of their values in the order of writing. A member that may be
missing has a value that stands for it.
-/

namespace ConfidentialToken.Json

/-- A type whose values have a JSON form. -/
class JsonForm (α : Type) where
  toJson : α → Value
  fromJson : Value → Option α

export JsonForm (toJson fromJson)

def write {α : Type} [JsonForm α] (value : α) : Bytes :=
  (toJson value).render

def read? {α : Type} [JsonForm α] (text : Bytes) : Option α :=
  (parse text).bind fromJson

def read {α : Type} [JsonForm α] (text : Bytes) : Result α :=
  match read? text with
  | some value => .ok value
  | none => .error .malformedJson

def valuesOf (key : String) (members : List (String × Value)) : List Value :=
  members.filterMap fun (name, value) => if name = key then some value else none

/-- The value of the only member with a key, nothing inside if there is no such
member. -/
def member? (members : List (String × Value)) (key : String) : Option (Option Value) :=
  match valuesOf key members with
  | [] => some none
  | [value] => some (some value)
  | _ => none

/-- The values of the named fields of an object, those that are missing being
nothing. -/
def Value.fields (value : Value) (names : List String) : Option (List (Option Value)) :=
  match value with
  | .object members => names.mapM (member? members)
  | .array items =>
      if items.length ≤ names.length then
        some (items.map some ++ List.replicate (names.length - items.length) none)
      else none
  | _ => none

def required {α : Type} [JsonForm α] (value : Option Value) : Option α :=
  value.bind fromJson

/-- Reads a field for which a value stands when it is missing. -/
def optional {α : Type} [JsonForm α] (missing : α) : Option Value → Option α
  | some value => fromJson value
  | none => some missing

instance : JsonForm Bool where
  toJson := .bool
  fromJson
    | .bool value => some value
    | _ => none

instance : JsonForm UInt64 where
  toJson number := .natural number.toNat
  fromJson
    | .natural number => if number < UInt64.size then some (.ofNat number) else none
    | _ => none

instance : JsonForm UInt8 where
  toJson number := .natural number.toNat
  fromJson
    | .natural number => if number < UInt8.size then some (.ofNat number) else none
    | _ => none

instance : JsonForm String where
  toJson := .string
  fromJson
    | .string text => some text
    | _ => none

instance {α : Type} [JsonForm α] : JsonForm (List α) where
  toJson values := .array (values.map toJson)
  fromJson
    | .array items => items.mapM fromJson
    | _ => none

instance {α : Type} [JsonForm α] : JsonForm (Option α) where
  toJson
    | some value => toJson value
    | none => .null
  fromJson
    | .null => some none
    | value => (fromJson value).map some

def hex (bytes : Bytes) : Value :=
  .string (Hex.encodeText bytes)

def ofHex : Value → Option Bytes
  | .string digits => (Hex.decode (Bytes.ofText digits)).toOption
  | _ => none

def requiredHex (value : Option Value) : Option Bytes :=
  value.bind ofHex

/-- Reads a byte string that is empty when it is missing. -/
def optionalHex : Option Value → Option Bytes
  | some value => ofHex value
  | none => some []

/-- Byte strings stand in JSON as an array of hexadecimal texts. -/
def hexList (list : List Bytes) : Value :=
  .array (list.map hex)

/-- Reads byte strings from an array that is empty when it is missing. -/
def optionalHexList : Option Value → Option (List Bytes)
  | some (.array items) => items.mapM ofHex
  | some _ => none
  | none => some []

/-- Elements of a suite stand in JSON as the hexadecimal text of their
encoding. -/
@[reducible]
def elementForm (α : Type) [BinaryEncoding α] : JsonForm α where
  toJson element := hex (encode element)
  fromJson value := (ofHex value).bind fun bytes => (decodeElement bytes).toOption

instance {S : Suite} : JsonForm S.Scalar := elementForm S.Scalar
instance {S : Suite} : JsonForm S.G1 := elementForm S.G1
instance {S : Suite} : JsonForm S.G2 := elementForm S.G2

/-- Reads a name that stands alone, or as the only key of an object that gives
it null. -/
def Value.variant? : Value → Option String
  | .string name => some name
  | .object [(name, .null)] => some name
  | _ => none

/-- Whether a value whose type is not known yet can be kept: it holds no
unusable value, and its containers are nested at most `depth` deep. -/
def Value.retainable : (depth : Nat) → Value → Bool
  | 0, .array _ => false
  | 0, .object _ => false
  | depth + 1, .array items => items.all fun item => item.retainable depth
  | depth + 1, .object members => members.all fun (_, value) => value.retainable depth
  | _, .unusable => false
  | _, _ => true

/-- The containers of a text that may be nested around and in a value that has
to be kept. -/
def maxNesting : Nat := 127

/-- Reads a pair of a tag and a content, inside `enclosing` other containers.
The tag of an array is a name that stands alone. A content that comes before its
tag has to be kept until the tag is known. -/
def Value.tagged (value : Value) (tag content : String) (enclosing : Nat) :
    Option (String × Value) := do
  let [some label, some body] ← value.fields [tag, content] | none
  match value, label with
  | .object members, label =>
      let name ← label.variant?
      let contentFirst :=
        (members.find? fun (key, _) => key = tag || key = content).any fun (key, _) =>
          key = content
      if contentFirst && !body.retainable (maxNesting - 1 - enclosing) then none
      else some (name, body)
  | _, .string name => some (name, body)
  | _, _ => none

end ConfidentialToken.Json
