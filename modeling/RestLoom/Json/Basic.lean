import RestLoom.Decimal.Shortest
import RestLoom.Text.Lines

/-!
# Json/Basic — values and their text

    {"a": [1, "x"]}  ──render──▸  {"a":[1,"x"]}

A value is written without blanks.  The members of an object stand in the order in which it holds
them; `ofMembers` sorts them by name and keeps the last one of each name.
-/

namespace RestLoom

/-- A number: an integer, or the bits of a number of double precision. -/
inductive Json.Number where
  | integer (i : Int)
  | real (bits : UInt64)
  deriving DecidableEq

/-- A value. -/
inductive Json where
  | null
  | bool (b : Bool)
  | number (n : Json.Number)
  | string (s : String)
  | array (elements : List Json)
  | object (members : List (String × Json))
  deriving Inhabited

namespace Json

/-! ## Numbers -/

/-- Digits with a point inside them or zeros around them. -/
def positional (digits : List Char) (exponent : Int) : List Char :=
  let point := (digits.length : Int) + exponent
  if 0 ≤ exponent then digits ++ List.replicate exponent.toNat '0' ++ ['.', '0']
  else if 0 < point then digits.take point.toNat ++ '.' :: digits.drop point.toNat
  else ['0', '.'] ++ List.replicate (-point).toNat '0' ++ digits

/-- Digits with a power of ten after them. -/
def scientific (digits : List Char) (exponent : Int) : List Char :=
  let power := (digits.length : Int) + exponent - 1
  let tail := match digits.drop 1 with
    | [] => []
    | ds => '.' :: ds
  digits.take 1 ++ tail ++ 'e' :: (if power < 0 then '-' else '+') ::
    (toString power.natAbs).toList

/-- The text of a finite real.  It is positional from a hundred thousandth up to ten to the
sixteenth and always has a point or a power of ten. -/
def realText (bits : UInt64) : List Char :=
  let sign := if Nat.pow 2 63 ≤ bits.toNat then ['-'] else []
  let b := Decimal.Binary.ofBits (bits &&& 0x7fffffffffffffff)
  if b.significand = 0 then sign ++ ['0', '.', '0']
  else
    let (n, e) := Decimal.shortest b
    let digits := (toString n).toList
    let point := (digits.length : Int) + e
    sign ++ if -5 < point ∧ point ≤ 16 then positional digits e else scientific digits e

/-- The text of a number. -/
def Number.text : Number → List Char
  | integer i => (toString i).toList
  | real bits => realText bits

/-! ## Strings -/

/-- The small hexadecimal digit of a number below sixteen. -/
def hexDigit (n : Nat) : Char := if n < 10 then Char.ofNat (48 + n) else Char.ofNat (87 + n)

/-- A character inside quotes. -/
def escapeChar (c : Char) : List Char :=
  if c = '\x22' then ['\\', '\x22']
  else if c = '\\' then ['\\', '\\']
  else if c = '\n' then ['\\', 'n']
  else if c = '\r' then ['\\', 'r']
  else if c = '\t' then ['\\', 't']
  else if c = '\x08' then ['\\', 'b']
  else if c = '\x0c' then ['\\', 'f']
  else if c.toNat < 0x20 then
    ['\\', 'u', '0', '0', hexDigit (c.toNat / 16), hexDigit (c.toNat % 16)]
  else [c]

/-- A string between quotes. -/
def quote (cs : List Char) : List Char := '\x22' :: cs.flatMap escapeChar ++ ['\x22']

/-! ## Values -/

mutual

/-- The text of a value. -/
def renderChars : Json → List Char
  | null => ['n', 'u', 'l', 'l']
  | bool true => ['t', 'r', 'u', 'e']
  | bool false => ['f', 'a', 'l', 's', 'e']
  | number n => n.text
  | string s => quote s.toList
  | array es => '[' :: renderElements es ++ [']']
  | object ms => '{' :: renderMembers ms ++ ['}']

/-- The texts of elements with commas between them. -/
def renderElements : List Json → List Char
  | [] => []
  | [e] => renderChars e
  | e :: es => renderChars e ++ ',' :: renderElements es

/-- The texts of members with commas between them. -/
def renderMembers : List (String × Json) → List Char
  | [] => []
  | [(k, v)] => quote k.toList ++ ':' :: renderChars v
  | (k, v) :: ms => quote k.toList ++ ':' :: renderChars v ++ ',' :: renderMembers ms

end

/-- The text of a value. -/
def render (j : Json) : String := String.ofList j.renderChars

/-- Adds a member to sorted ones, in the stead of one of the same name. -/
def insertMember (k : String) (v : Json) : List (String × Json) → List (String × Json)
  | [] => [(k, v)]
  | (l, w) :: ms =>
    if k = l then (k, v) :: ms
    else if k < l then (k, v) :: (l, w) :: ms
    else (l, w) :: insertMember k v ms

/-- The object of members: sorted by name, the last one of each name. -/
def ofMembers (ms : List (String × Json)) : Json :=
  object (ms.foldl (fun acc m => insertMember m.1 m.2 acc) [])

/-- The member of an object with a name. -/
def member? (name : String) : Json → Option Json
  | object ms => (ms.find? fun m => m.1 == name).map (·.2)
  | _ => none

end Json

end RestLoom
