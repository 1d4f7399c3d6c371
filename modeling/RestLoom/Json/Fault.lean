import RestLoom.Json.Basic
import RestLoom.Token.Literal

/-!
# Json/Fault — why a text is not the value that is wanted

    invalid type: null, expected a string at line 1 column 4

A fault is told together with the place where it was found: the line, and the column in bytes.
-/

namespace RestLoom.Json

/-- What was found in place of what is wanted. -/
inductive Found where
  | null
  | bool (b : Bool)
  | number (n : Number)
  | string (s : String)
  | sequence
  | map

/-- What is wrong with a text. -/
inductive Fault where
  | endOfList
  | endOfObject
  | endOfString
  | endOfValue
  | expectedColon
  | expectedListComma
  | expectedObjectComma
  | expectedIdent
  | expectedValue
  | invalidEscape
  | invalidNumber
  | numberOutOfRange
  | notText
  | controlCharacter
  | keyNotString
  | loneSurrogate
  | endOfHexEscape
  | trailingComma
  | trailingCharacters
  | tooDeep
  | invalidType (found : Found) (expected : String)
  | invalidValue (found : Number) (expected : String)
  | invalidLength (n : Nat) (expected : String)
  | duplicateField (name : String)
  | missingField (name : String)

/-- The words for what was found. -/
def Found.message : Found → String
  | null => "null"
  | bool b => "boolean \x60" ++ (if b then "true" else "false") ++ "\x60"
  | number (.integer i) => "integer \x60" ++ toString i ++ "\x60"
  | number (.real bits) =>
    "floating point \x60" ++ String.ofList (realText bits) ++ "\x60"
  | string s => "string " ++ Token.shown s
  | sequence => "sequence"
  | map => "map"

/-- The words for a fault. -/
def Fault.message : Fault → String
  | endOfList => "EOF while parsing a list"
  | endOfObject => "EOF while parsing an object"
  | endOfString => "EOF while parsing a string"
  | endOfValue => "EOF while parsing a value"
  | expectedColon => "expected \x60:\x60"
  | expectedListComma => "expected \x60,\x60 or \x60]\x60"
  | expectedObjectComma => "expected \x60,\x60 or \x60\x7d\x60"
  | expectedIdent => "expected ident"
  | expectedValue => "expected value"
  | invalidEscape => "invalid escape"
  | invalidNumber => "invalid number"
  | numberOutOfRange => "number out of range"
  | notText => "invalid unicode code point"
  | controlCharacter =>
    "control character (\\u0000-\\u001F) found while parsing a string"
  | keyNotString => "key must be a string"
  | loneSurrogate => "lone leading surrogate in hex escape"
  | endOfHexEscape => "unexpected end of hex escape"
  | trailingComma => "trailing comma"
  | trailingCharacters => "trailing characters"
  | tooDeep => "recursion limit exceeded"
  | invalidType found expected =>
    "invalid type: " ++ found.message ++ ", expected " ++ expected
  | invalidValue found expected =>
    "invalid value: " ++ (Found.number found).message ++ ", expected " ++ expected
  | invalidLength n expected =>
    "invalid length " ++ toString n ++ ", expected " ++ expected
  | duplicateField name => "duplicate field \x60" ++ name ++ "\x60"
  | missingField name => "missing field \x60" ++ name ++ "\x60"

/-- A fault and the place where it was found. -/
structure ReadError where
  fault : Fault
  line : Nat
  column : Nat

/-- The wording of an error. -/
def ReadError.message (e : ReadError) : String :=
  e.fault.message ++ " at line " ++ toString e.line ++ " column " ++ toString e.column

end RestLoom.Json
