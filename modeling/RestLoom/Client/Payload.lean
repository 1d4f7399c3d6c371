import RestLoom.Json.Reader

/-!
# Client/Payload — what is written as JSON

A payload is a value, or a map from values to values.  Only the latter can fail to be written: each
of its keys has to have a text.
-/

namespace RestLoom.Client

/-- Something to be written as JSON. -/
inductive Payload where
  | value (j : Json)
  /-- A map whose keys are values. -/
  | keyed (entries : List (Json × Json))

/-- Why something cannot be written or read as JSON. -/
inductive JsonError where
  | keyNotString
  | read (e : Json.ReadError)

/-- The wording of an error. -/
def JsonError.message : JsonError → String
  | keyNotString => "key must be a string"
  | read e => e.message

namespace Payload

/-- The name of a member that a key becomes. -/
def keyText? : Json → Option String
  | .string s => some s
  | .bool b => some (if b then "true" else "false")
  | .number n => some (String.ofList n.text)
  | _ => none

/-- The members that entries become. -/
def membersOf : List (Json × Json) → Except JsonError (List (String × Json))
  | [] => .ok []
  | (k, v) :: rest =>
    match keyText? k with
    | none => .error .keyNotString
    | some name => do return (name, v) :: (← membersOf rest)

/-- The value that a payload is. -/
def toJson : Payload → Except JsonError Json
  | value j => .ok j
  | keyed entries => do return .object (← membersOf entries)

/-- The text of a payload. -/
def write (p : Payload) : Except JsonError String := do return (← p.toJson).render

end Payload

end RestLoom.Client
