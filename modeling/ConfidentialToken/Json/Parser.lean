import ConfidentialToken.Json.Token

/-!
Reading a JSON text.

The reader keeps the containers that are open on a stack of its own, so that
values may be nested to any depth.
-/

namespace ConfidentialToken.Json

/-- An open container with what it holds so far, the last first. -/
inductive Frame where
  | array (items : List Value)
  /-- The key of the member whose value comes next stands beside the finished
  members. -/
  | object (members : List (Option String × Value)) (key : Option String)

inductive Expectation where
  /-- A value, or the end of an array that has no items yet. -/
  | value (mayClose : Bool)
  /-- A key, or the end of an object that has no members yet. -/
  | key (mayClose : Bool)
  /-- The colon after a key. -/
  | colon
  /-- A comma or the end of the innermost container. -/
  | separator
  /-- The end of the text, whose value is known. -/
  | finished (value : Value)

structure Position where
  /-- The open containers, the innermost first. -/
  stack : List Frame
  expectation : Expectation

/-- The object with these members; a key that is no text makes it unusable. -/
def closeObject (reversed : List (Option String × Value)) : Value :=
  match reversed.reverse.mapM fun (key, value) => key.map fun key => (key, value) with
  | some members => .object members
  | none => .unusable

def afterValue (stack : List Frame) (value : Value) : Position :=
  match stack with
  | [] => ⟨[], .finished value⟩
  | .array items :: stack => ⟨.array (value :: items) :: stack, .separator⟩
  | .object members key :: stack =>
      ⟨.object ((key, value) :: members) none :: stack, .separator⟩

/-- The position after the end of the innermost container. -/
def afterClose (stack : List Frame) : Token → Option Position
  | .closeArray =>
      match stack with
      | .array items :: stack => some (afterValue stack (.array items.reverse))
      | _ => none
  | .closeObject =>
      match stack with
      | .object members _ :: stack => some (afterValue stack (closeObject members))
      | _ => none
  | _ => none

/-- The position after a token, if the token may stand there. -/
def Position.step (position : Position) (token : Token) : Option Position :=
  match position.expectation with
  | .value mayClose =>
      match token with
      | .scalar value => some (afterValue position.stack value)
      | .string (some text) => some (afterValue position.stack (.string text))
      | .string none => some (afterValue position.stack .unusable)
      | .openArray => some ⟨.array [] :: position.stack, .value true⟩
      | .openObject => some ⟨.object [] none :: position.stack, .key true⟩
      | token => if mayClose then afterClose position.stack token else none
  | .key mayClose =>
      match token, position.stack with
      | .string text, .object members _ :: stack =>
          some ⟨.object members text :: stack, .colon⟩
      | token, stack => if mayClose then afterClose stack token else none
  | .colon =>
      match token with
      | .colon => some { position with expectation := .value false }
      | _ => none
  | .separator =>
      match token, position.stack with
      | .comma, .array _ :: _ => some { position with expectation := .value false }
      | .comma, .object _ _ :: _ => some { position with expectation := .key false }
      | token, stack => afterClose stack token
  | .finished _ => none

/-- The value of a text, if the text is a JSON value with nothing but blanks
around it. -/
def parse (text : Bytes) : Option Value := do
  let tokens ← tokens? text
  let position ← tokens.foldlM Position.step ⟨[], .value false⟩
  match position.expectation with
  | .finished value => some value
  | _ => none

end ConfidentialToken.Json
