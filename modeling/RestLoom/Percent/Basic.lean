/-!
# Percent/Basic — percent-encoding over UTF-8

    "a b" ──encode unreserved──▸ "a%20b" ──decode──▸ the bytes of "a b"

An encoding is fixed by the set of ASCII characters that it keeps.  Every other character becomes
one escape for each byte of its UTF-8 form, with two capital hexadecimal digits.  `encode_append`
says that encoding works character by character.
-/

namespace RestLoom.Percent

/-- The capital hexadecimal digit of a number below sixteen. -/
def hexDigit (n : Nat) : Char :=
  if n < 10 then Char.ofNat (48 + n) else Char.ofNat (55 + n)

/-- The value of a hexadecimal digit of either case. -/
def hexValue (c : Char) : Option Nat :=
  if '0' ≤ c ∧ c ≤ '9' then some (c.toNat - 48)
  else if 'A' ≤ c ∧ c ≤ 'F' then some (c.toNat - 55)
  else if 'a' ≤ c ∧ c ≤ 'f' then some (c.toNat - 87)
  else none

/-- The escape of one byte. -/
def escapeByte (b : UInt8) : List Char :=
  ['%', hexDigit (b.toNat / 16), hexDigit (b.toNat % 16)]

/-- The escapes of a character, one for each byte of its UTF-8 form. -/
def escapeChar (c : Char) : List Char :=
  (String.utf8EncodeChar c).flatMap escapeByte

/-- A character as it is if the set keeps it, else its escapes. -/
def encodeChar (keep : Char → Bool) (c : Char) : List Char :=
  if keep c then [c] else escapeChar c

/-- Encodes a text, keeping the characters of the set. -/
def encode (keep : Char → Bool) (cs : List Char) : List Char :=
  cs.flatMap (encodeChar keep)

theorem encode_append (keep : Char → Bool) (a b : List Char) :
    encode keep (a ++ b) = encode keep a ++ encode keep b := by
  simp [encode]

/-- The bytes of a text: an escape stands for its byte, any other character for its UTF-8 form. -/
def decode : List Char → List UInt8
  | '%' :: a :: b :: cs =>
    match hexValue a, hexValue b with
    | some x, some y => UInt8.ofNat (16 * x + y) :: decode cs
    | _, _ => String.utf8EncodeChar '%' ++ decode (a :: b :: cs)
  | c :: cs => String.utf8EncodeChar c ++ decode cs
  | [] => []

/-! ## The sets in use -/

/-- Letters and digits of ASCII. -/
def isAlnum (c : Char) : Bool := c.isAlphanum

/-- The characters that stand for themselves inside a path segment. -/
def unreserved (c : Char) : Bool :=
  isAlnum c || c == '-' || c == '_' || c == '.' || c == '~'

/-- The visible ASCII characters and the blank. -/
def notControl (c : Char) : Bool := 0x20 ≤ c.toNat && c.toNat < 0x7f

/-- The characters kept in a fragment. -/
def fragment (c : Char) : Bool :=
  notControl c && !(c == ' ' || c == '\x22' || c == '<' || c == '>' || c == '\x60')

/-- The characters kept in a path. -/
def path (c : Char) : Bool :=
  fragment c && !(c == '#' || c == '?' || c == '{' || c == '}')

/-- The characters kept in a user name or a password. -/
def userinfo (c : Char) : Bool :=
  path c && !(c == '/' || c == ':' || c == ';' || c == '=' || c == '@' || c == '[' || c == '\\' ||
    c == ']' || c == '^' || c == '|')

/-- The characters kept in a query. -/
def query (c : Char) : Bool :=
  notControl c && !(c == ' ' || c == '\x22' || c == '#' || c == '<' || c == '>')

/-- The characters kept in the query of a URL whose scheme is special. -/
def specialQuery (c : Char) : Bool := query c && c != '\x27'

/-- The characters kept in a form field. -/
def form (c : Char) : Bool :=
  isAlnum c || c == '*' || c == '-' || c == '.' || c == '_'

end RestLoom.Percent
