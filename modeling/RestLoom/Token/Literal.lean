import RestLoom.Token.Basic
import RestLoom.Text.Visible
import RestLoom.Text.Lines

/-!
# Token/Literal — literals and the values they spell

    value ──quote──▸ "a\tb"        "a\tb" ──stringValue?──▸ value

A string literal is written between quotes with escapes, or raw between quotes and number signs.
`quote` writes a value; `stringValue?` reads the value of a string literal of either form.
-/

namespace RestLoom.Token

open RestLoom.Text

/-! ## Writing -/

/-- The hexadecimal digits of a code point in an escape. -/
def escapeCode (c : Char) : List Char :=
  ['\\', 'u', '{'] ++ Nat.toDigits 16 c.toNat ++ ['}']

/-- A character inside a string literal; `next` is the character after it.  A null character is
written longer before a digit, so that the escape does not look octal. -/
def escapeChar (c : Char) (next : Option Char) : List Char :=
  if c = Char.ofNat 0 then
    if next.any fun d => '0' ≤ d ∧ d ≤ '7' then ['\\', 'x', '0', '0'] else ['\\', '0']
  else if c = '\t' then ['\\', 't']
  else if c = '\r' then ['\\', 'r']
  else if c = '\n' then ['\\', 'n']
  else if c = '\\' then ['\\', '\\']
  else if c = '\x22' then ['\\', '\x22']
  else if !isVisible c then escapeCode c
  else [c]

/-- The characters between the quotes of a string literal. -/
def escape : List Char → List Char
  | [] => []
  | c :: cs => escapeChar c cs.head? ++ escape cs

/-- The string literal of a value. -/
def quote (value : String) : String :=
  String.ofList ('\x22' :: escape value.toList ++ ['\x22'])

/-- A value in quotes as messages show it. -/
def shown (value : String) : String :=
  String.ofList ('\x22' :: value.toList.flatMap (escapeChar · none) ++ ['\x22'])

/-! ## Reading -/

/-- The value of a hexadecimal digit. -/
def hexDigit? (c : Char) : Option Nat :=
  if '0' ≤ c ∧ c ≤ '9' then some (c.toNat - 48)
  else if 'a' ≤ c ∧ c ≤ 'f' then some (c.toNat - 87)
  else if 'A' ≤ c ∧ c ≤ 'F' then some (c.toNat - 55)
  else none

/-- Reads the digits of a code point up to the closing brace; an underscore between them is
skipped. -/
def readCode (n : Nat) : List Char → Option (Nat × List Char)
  | [] => none
  | '}' :: cs => some (n, cs)
  | '_' :: cs => readCode n cs
  | c :: cs => do readCode (n * 16 + (← hexDigit? c)) cs

/-- The value of the characters between the quotes of a string literal, up to the closing quote.
A line end after a backslash is left out together with the blanks after it. -/
def unescape : Nat → List Char → Option (List Char)
  | 0, _ => none
  | fuel + 1, cs =>
    match cs with
    | [] => none
    | '\x22' :: _ => some []
    | '\\' :: 'x' :: a :: b :: cs => do
      let n := (← hexDigit? a) * 16 + (← hexDigit? b)
      return Char.ofNat n :: (← unescape fuel cs)
    | '\\' :: 'u' :: '{' :: cs => do
      let (n, cs) ← readCode 0 cs
      return Char.ofNat n :: (← unescape fuel cs)
    | '\\' :: 'n' :: cs => do return '\n' :: (← unescape fuel cs)
    | '\\' :: 'r' :: cs => do return '\r' :: (← unescape fuel cs)
    | '\\' :: 't' :: cs => do return '\t' :: (← unescape fuel cs)
    | '\\' :: '\\' :: cs => do return '\\' :: (← unescape fuel cs)
    | '\\' :: '0' :: cs => do return Char.ofNat 0 :: (← unescape fuel cs)
    | '\\' :: '\x27' :: cs => do return '\x27' :: (← unescape fuel cs)
    | '\\' :: '\x22' :: cs => do return '\x22' :: (← unescape fuel cs)
    | '\\' :: '\r' :: '\n' :: cs => unescape fuel (cs.dropWhile blankAfterBackslash)
    | '\\' :: '\n' :: cs => unescape fuel (cs.dropWhile blankAfterBackslash)
    | '\\' :: _ => none
    | '\r' :: '\n' :: cs => do return '\n' :: (← unescape fuel cs)
    | c :: cs => do return c :: (← unescape fuel cs)
where
  /-- The characters skipped after a backslash at the end of a line. -/
  blankAfterBackslash (c : Char) : Bool := c == ' ' || c == '\t' || c == '\n' || c == '\r'

/-- Whether the text holds the closing quote of a raw string with that many number signs here. -/
def closesRaw (signs : Nat) (cs : List Char) : Bool :=
  startsWith cs ('\x22' :: List.replicate signs '#')

/-- The characters of a raw string up to its closing quote. -/
def rawValue (signs : Nat) : List Char → List Char
  | [] => []
  | c :: cs => if closesRaw signs (c :: cs) then [] else c :: rawValue signs cs

/-- Each carriage return and line feed as one line feed. -/
def normalizeLineEnds : List Char → List Char
  | '\r' :: '\n' :: cs => '\n' :: normalizeLineEnds cs
  | c :: cs => c :: normalizeLineEnds cs
  | [] => []

/-- The value of a string literal, which may carry a suffix. -/
def stringValue? (literal : String) : Option String :=
  match literal.toList with
  | '\x22' :: cs => (unescape (cs.length + 1) cs).map String.ofList
  | 'r' :: cs =>
    let signs := (cs.takeWhile (· == '#')).length
    some (String.ofList (normalizeLineEnds (rawValue signs (cs.drop (signs + 1)))))
  | _ => none

/-- Whether a literal is a string, written raw or not. -/
def isString (literal : String) : Bool :=
  match literal.toList with
  | '\x22' :: _ => true
  | 'r' :: '\x22' :: _ => true
  | 'r' :: '#' :: _ => true
  | _ => false

/-! ## Numbers -/

/-- Whether a literal is a number. -/
def isNumber (literal : String) : Bool := literal.toList.head?.any (·.isDigit)

/-- Whether what follows an `e` makes it the mark of an exponent. -/
def opensExponent (cs : List Char) : Bool :=
  (cs.dropWhile (· == '_')).head?.any fun c => c.isDigit || c == '+' || c == '-'

/-- Whether a character among the digits of a base says that the number is no whole one. -/
def isFractional (base : Nat) (c : Char) (cs : List Char) : Bool :=
  base == 10 && (c == '.' || ((c == 'e' || c == 'E') && opensExponent cs))

/-- Reads the digits of a whole number in a base; the result holds its value and what follows. -/
def readWhole (base n : Nat) (filled : Bool) : List Char → Option (Nat × List Char)
  | [] => if filled then some (n, []) else none
  | c :: cs =>
    if c = '_' then readWhole base n filled cs
    else if isFractional base c cs then none
    else match (if c.isDigit || 10 < base then hexDigit? c else none) with
      | some d => if d < base then readWhole base (n * base + d) true cs else none
      | none => if filled then some (n, c :: cs) else none

/-- The value and the suffix of a whole number. -/
def wholeNumber? (literal : String) : Option (Nat × List Char) :=
  match literal.toList with
  | '0' :: 'x' :: cs => readWhole 16 0 false cs
  | '0' :: 'o' :: cs => readWhole 8 0 false cs
  | '0' :: 'b' :: cs => readWhole 2 0 false cs
  | cs => if isNumber literal then readWhole 10 0 false cs else none

/-- Whether a literal is a whole number. -/
def isWhole (literal : String) : Bool := (wholeNumber? literal).isSome

/-- Whether a literal is a number that is not whole. -/
def isFraction (literal : String) : Bool := isNumber literal && !isWhole literal

end RestLoom.Token
