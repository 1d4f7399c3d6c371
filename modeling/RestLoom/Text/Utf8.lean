/-!
# Text/Utf8 — reading bytes as text

A sequence of bytes need not be text.  `decodeLossy` puts one replacement character for each
longest piece that begins a character but does not finish it, and for each byte that begins none;
`decode?` accepts whole texts only.
-/

namespace RestLoom.Text

/-- The bytes of a text. -/
def utf8 (cs : List Char) : List UInt8 := cs.flatMap String.utf8EncodeChar

/-- The character that stands for bytes that are no text. -/
def replacement : Char := Char.ofNat 0xfffd

/-- One step of decoding: the character found, or `none` for a piece that is no text, and the bytes
it takes. -/
inductive Utf8Step where
  | char (c : Char) (size : Nat)
  | invalid (size : Nat)

/-- Whether a byte continues a character. -/
def isTail (b : Nat) : Bool := 0x80 ≤ b && b < 0xc0

/-- The bounds of the second byte after a first byte, which exclude overlong forms, surrogates and
numbers past the last code point. -/
def secondBounds (first : Nat) : Nat × Nat :=
  if first = 0xe0 then (0xa0, 0xbf)
  else if first = 0xed then (0x80, 0x9f)
  else if first = 0xf0 then (0x90, 0xbf)
  else if first = 0xf4 then (0x80, 0x8f)
  else (0x80, 0xbf)

/-- Reads the character at the start of nonempty bytes. -/
def utf8Step (b : Nat) (rest : List UInt8) : Utf8Step :=
  let r := rest.map (·.toNat)
  let second := secondBounds b
  let inSecond (x : Nat) : Bool := second.1 ≤ x && x ≤ second.2
  if b < 0x80 then .char (Char.ofNat b) 1
  else if 0xc2 ≤ b && b ≤ 0xdf then
    match r with
    | x :: _ =>
      if isTail x then .char (Char.ofNat ((b - 0xc0) * 64 + (x - 0x80))) 2 else .invalid 1
    | [] => .invalid 1
  else if 0xe0 ≤ b && b ≤ 0xef then
    match r with
    | x :: y :: _ =>
      if inSecond x then
        if isTail y then
          .char (Char.ofNat ((b - 0xe0) * 4096 + (x - 0x80) * 64 + (y - 0x80))) 3
        else .invalid 2
      else .invalid 1
    | [x] => .invalid (if inSecond x then 2 else 1)
    | [] => .invalid 1
  else if 0xf0 ≤ b && b ≤ 0xf4 then
    match r with
    | x :: y :: z :: _ =>
      if inSecond x then
        if isTail y then
          if isTail z then
            .char (Char.ofNat
              ((b - 0xf0) * 262144 + (x - 0x80) * 4096 + (y - 0x80) * 64 + (z - 0x80))) 4
          else .invalid 3
        else .invalid 2
      else .invalid 1
    | [x, y] => .invalid (if inSecond x then (if isTail y then 3 else 2) else 1)
    | [x] => .invalid (if inSecond x then 2 else 1)
    | [] => .invalid 1
  else .invalid 1

/-- Decodes with a bound on the number of steps; each step takes at least one byte. -/
def decodeLossyUpTo : Nat → List UInt8 → List Char
  | 0, _ => []
  | _ + 1, [] => []
  | n + 1, b :: rest =>
    match utf8Step b.toNat rest with
    | .char c size => c :: decodeLossyUpTo n (rest.drop (size - 1))
    | .invalid size => replacement :: decodeLossyUpTo n (rest.drop (size - 1))

/-- The text of the bytes, with replacement characters where they are no text. -/
def decodeLossy (bs : List UInt8) : List Char := decodeLossyUpTo bs.length bs

/-- Decodes with a bound on the number of steps, refusing bytes that are no text. -/
def decodeUpTo : Nat → List UInt8 → Option (List Char)
  | _, [] => some []
  | 0, _ :: _ => none
  | n + 1, b :: rest =>
    match utf8Step b.toNat rest with
    | .char c size => (decodeUpTo n (rest.drop (size - 1))).map (c :: ·)
    | .invalid _ => none

/-- The text of the bytes, if they are text. -/
def decode? (bs : List UInt8) : Option (List Char) := decodeUpTo bs.length bs

end RestLoom.Text
