import RestLoom.Token.Literal
import RestLoom.Text.Name

/-!
# Token/Lexer — reading token trees

    "f(1) // c"  ──lex──▸  [f, group paren [1]]

Blanks and comments separate tokens and are dropped; documentation comments become attributes.  The
text is no token sequence if delimiters do not match, if a literal does not end, or if a character
starts no token.
-/

namespace RestLoom.Token

open RestLoom.Text

/-! ## Blanks and comments -/

/-- The characters that separate tokens. -/
def separates (c : Char) : Bool :=
  isBlank c || c.toNat == 0x200e || c.toNat == 0x200f

/-- The text before the next line end and the text from there. -/
def takeLine : List Char → List Char × List Char
  | [] => ([], [])
  | '\n' :: cs => ([], '\n' :: cs)
  | '\r' :: '\n' :: cs => ([], '\r' :: '\n' :: cs)
  | c :: cs =>
    let (line, rest) := takeLine cs
    (c :: line, rest)

/-- The rest of a block comment at nesting depth `depth`, its end included, and the text after
it. -/
def takeBlock : Nat → List Char → Option (List Char × List Char)
  | depth, '/' :: '*' :: cs => do
    let (body, rest) ← takeBlock (depth + 1) cs
    return ('/' :: '*' :: body, rest)
  | 0, '*' :: '/' :: cs => some (['*', '/'], cs)
  | depth + 1, '*' :: '/' :: cs => do
    let (body, rest) ← takeBlock depth cs
    return ('*' :: '/' :: body, rest)
  | depth, c :: cs => do
    let (body, rest) ← takeBlock depth cs
    return (c :: body, rest)
  | _, [] => none

/-- The kinds of text that a comment opener starts. -/
inductive CommentStart where
  | plainLine (rest : List Char)
  | plainBlock (rest : List Char)
  | docLine (inner : Bool) (rest : List Char)
  | docBlock (inner : Bool) (rest : List Char)

/-- The comment that starts here, with the text after its opener. -/
def commentStart? : List Char → Option CommentStart
  | '/' :: '/' :: '/' :: '/' :: cs => some (.plainLine ('/' :: '/' :: cs))
  | '/' :: '/' :: '/' :: cs => some (.docLine false cs)
  | '/' :: '/' :: '!' :: cs => some (.docLine true cs)
  | '/' :: '/' :: cs => some (.plainLine cs)
  | '/' :: '*' :: '*' :: '/' :: cs => some (.plainBlock ('*' :: '/' :: cs))
  | '/' :: '*' :: '*' :: '*' :: cs => some (.plainBlock ('*' :: '*' :: cs))
  | '/' :: '*' :: '*' :: cs => some (.docBlock false cs)
  | '/' :: '*' :: '!' :: cs => some (.docBlock true cs)
  | '/' :: '*' :: cs => some (.plainBlock cs)
  | _ => none

/-- Drops blanks and plain comments, in at most `fuel` pieces. -/
def skipUpTo : Nat → List Char → List Char
  | 0, cs => cs
  | fuel + 1, cs =>
    match commentStart? cs with
    | some (.plainLine rest) => skipUpTo fuel (takeLine rest).2
    | some (.plainBlock rest) =>
      match takeBlock 0 rest with
      | some (_, rest) => skipUpTo fuel rest
      | none => cs
    | some _ => cs
    | none =>
      match cs with
      | c :: rest => if separates c then skipUpTo fuel rest else cs
      | [] => []

/-- Drops the blanks and plain comments at the start. -/
def skip (cs : List Char) : List Char := skipUpTo cs.length cs

/-- Whether every carriage return is followed by a line feed. -/
def returnsEndLines : List Char → Bool
  | '\r' :: '\n' :: cs => returnsEndLines cs
  | '\r' :: _ => false
  | _ :: cs => returnsEndLines cs
  | [] => true

/-- The attribute that a documentation comment stands for. -/
def docTokens (inner : Bool) (text : List Char) : List Token :=
  .punct '#' .alone :: (if inner then [.punct '!' .alone] else []) ++
    [.group .bracket
      [.ident (.plain "doc"), .punct '=' .alone, .literal (quote (String.ofList text))]]

/-- The documentation comment at the start, as an attribute. -/
def doc? (cs : List Char) : Option (List Token × List Char) :=
  let finish (inner : Bool) (text rest : List Char) : Option (List Token × List Char) :=
    if returnsEndLines text then some (docTokens inner text, rest) else none
  match commentStart? cs with
  | some (.docLine inner cs) =>
    let (line, rest) := takeLine cs
    finish inner line rest
  | some (.docBlock inner cs) => do
    let (body, rest) ← takeBlock 0 cs
    finish inner (body.take (body.length - 2)) rest
  | _ => none

/-! ## Names -/

/-- The longest name at the start. -/
def bareName? : List Char → Option (List Char × List Char)
  | [] => none
  | c :: cs =>
    if isNameStart c then some (c :: cs.takeWhile isNameRest, cs.dropWhile isNameRest) else none

/-- Names that cannot be raw. -/
def neverRaw : List String := ["_", "super", "self", "Self", "crate"]

/-- The name at the start, raw or not. -/
def name? (cs : List Char) : Option (Ident × List Char) :=
  match dropStart? ['r', '#'] cs with
  | some cs => do
    let (name, rest) ← bareName? cs
    let name := String.ofList name
    if neverRaw.contains name then none else some (⟨true, name⟩, rest)
  | none => do
    let (name, rest) ← bareName? cs
    return (.plain (String.ofList name), rest)

/-- Openers of literals that begin like a name. -/
def literalOpeners : List String :=
  ["r\x22", "r#\x22", "r##", "b\x22", "b\x27", "br\x22", "br#", "c\x22", "cr\x22", "cr#"]

/-- The name at the start, unless a literal opens there. -/
def ident? (cs : List Char) : Option (Ident × List Char) :=
  if literalOpeners.any fun o => startsWith cs o.toList then none else name? cs

/-! ## Literals

Each reader returns what follows the literal. -/

/-- Drops a suffix. -/
def dropSuffix (cs : List Char) : List Char :=
  match bareName? cs with
  | some (_, rest) => rest
  | none => cs

/-- Which escapes a quoted literal admits. -/
inductive Alphabet where
  /-- Text: escapes up to `7f`, and code points. -/
  | text
  /-- Bytes: all two-digit escapes, no code points, ASCII only. -/
  | bytes
  /-- Text that ends with a null: both kinds of escapes, but no null. -/
  | terminated
  deriving DecidableEq

/-- What follows the digits of a code point, if they spell one. -/
def codePoint? : Nat → Nat → List Char → Option (Nat × List Char)
  | n, count, '}' :: cs =>
    if 0 < count ∧ n.isValidChar then some (n, cs) else none
  | n, count, '_' :: cs => if 0 < count then codePoint? n count cs else none
  | n, count, c :: cs => do
    let d ← hexDigit? c
    if 6 ≤ count then none else codePoint? (n * 16 + d) (count + 1) cs
  | _, _, [] => none

/-- What follows the escape whose backslash has been read. -/
def afterEscape (a : Alphabet) : List Char → Option (List Char)
  | 'x' :: h :: l :: cs => do
    let h ← hexDigit? h
    let l ← hexDigit? l
    if a = .text ∧ 8 ≤ h then none
    else if a = .terminated ∧ h = 0 ∧ l = 0 then none
    else some cs
  | 'u' :: '{' :: cs =>
    if a = .bytes then none
    else match codePoint? 0 0 cs with
      | some (n, rest) => if a = .terminated ∧ n = 0 then none else some rest
      | none => none
  | 'n' :: cs => some cs
  | 'r' :: cs => some cs
  | 't' :: cs => some cs
  | '\\' :: cs => some cs
  | '\x27' :: cs => some cs
  | '\x22' :: cs => some cs
  | '0' :: cs => if a = .terminated then none else some cs
  | _ => none

/-- Drops the blanks after a backslash at the end of a line; a carriage return needs its line
feed, and the text has to go on. -/
def afterLineEnd : Nat → Bool → List Char → Option (List Char)
  | 0, _, _ => none
  | fuel + 1, returned, cs =>
    if returned then
      match cs with
      | '\n' :: cs => afterLineEnd fuel false cs
      | _ => none
    else
      match cs with
      | ' ' :: cs => afterLineEnd fuel false cs
      | '\t' :: cs => afterLineEnd fuel false cs
      | '\n' :: cs => afterLineEnd fuel false cs
      | '\r' :: cs => afterLineEnd fuel true cs
      | [] => none
      | cs => some cs

/-- What follows a quoted literal whose opening quote has been read. -/
def afterQuoted (a : Alphabet) : Nat → List Char → Option (List Char)
  | 0, _ => none
  | fuel + 1, cs =>
    match cs with
    | [] => none
    | '\x22' :: rest => some (dropSuffix rest)
    | '\r' :: '\n' :: rest => afterQuoted a fuel rest
    | '\r' :: _ => none
    | '\\' :: '\n' :: rest => do afterQuoted a fuel (← afterLineEnd (rest.length + 1) false rest)
    | '\\' :: '\r' :: rest => do afterQuoted a fuel (← afterLineEnd (rest.length + 1) true rest)
    | '\\' :: rest => do afterQuoted a fuel (← afterEscape a rest)
    | c :: rest =>
      if a = .bytes ∧ 0x80 ≤ c.toNat then none
      else if a = .terminated ∧ c.toNat = 0 then none
      else afterQuoted a fuel rest

/-- What follows the body of a raw literal with that many number signs. -/
def afterRawBody (a : Alphabet) (signs : Nat) : List Char → Option (List Char)
  | [] => none
  | c :: cs =>
    if closesRaw signs (c :: cs) then some (dropSuffix (cs.drop signs))
    else if c = '\r' ∧ cs.head? ≠ some '\n' then none
    else if a = .bytes ∧ 0x80 ≤ c.toNat then none
    else if a = .terminated ∧ c.toNat = 0 then none
    else afterRawBody a signs cs

/-- What follows a raw literal whose letters have been read. -/
def afterRaw (a : Alphabet) (cs : List Char) : Option (List Char) :=
  let signs := (cs.takeWhile (· == '#')).length
  match cs.drop signs with
  | '\x22' :: body => if 255 < signs then none else afterRawBody a signs body
  | _ => none

/-- What follows a string literal of any form. -/
def afterString? : List Char → Option (List Char)
  | '\x22' :: cs => afterQuoted .text (cs.length + 1) cs
  | 'r' :: cs => afterRaw .text cs
  | 'b' :: '\x22' :: cs => afterQuoted .bytes (cs.length + 1) cs
  | 'b' :: 'r' :: cs => afterRaw .bytes cs
  | 'c' :: '\x22' :: cs => afterQuoted .terminated (cs.length + 1) cs
  | 'c' :: 'r' :: cs => afterRaw .terminated cs
  | _ => none

/-- What follows a character between single quotes, the first of which has been read. -/
def afterChar (a : Alphabet) (cs : List Char) : Option (List Char) := do
  let rest ← match cs with
    | '\\' :: cs => afterEscape a cs
    | c :: cs => if a = .bytes ∧ 0x80 ≤ c.toNat then none else some cs
    | [] => none
  match rest with
  | '\x27' :: rest => return dropSuffix rest
  | _ => none

/-- What follows a character or byte literal. -/
def afterCharacter? : List Char → Option (List Char)
  | 'b' :: '\x27' :: cs => afterChar .bytes cs
  | '\x27' :: cs => afterChar .text cs
  | _ => none

/-- What follows a number's suffix; a number must not run into a name. -/
def afterNumber (cs : List Char) : Option (List Char) :=
  let rest := dropSuffix cs
  if rest.head?.any isNameRest then none else some rest

/-- Whether a character is a decimal digit or an underscore. -/
def isDigitPart (c : Char) : Bool := c.isDigit || c == '_'

/-- The text after an exponent whose letter has been read: an optional sign and digits, at least
one of which is no underscore. -/
def afterExponent : Bool → Bool → List Char → Option (List Char)
  | signed, valued, c :: cs =>
    if c = '+' ∨ c = '-' then
      if valued then some (c :: cs) else if signed then none else afterExponent true valued cs
    else if c.isDigit then afterExponent signed true cs
    else if c = '_' then afterExponent signed valued cs
    else if valued then some (c :: cs) else none
  | _, valued, [] => if valued then some [] else none

/-- What follows a number with a point or an exponent. -/
def afterFloat? (cs : List Char) : Option (List Char) := do
  if !cs.head?.any (·.isDigit) then none
  else
    let rest := cs.dropWhile isDigitPart
    match rest with
    | '.' :: tail =>
      if tail.head?.any fun c => c == '.' || isNameStart c then none
      else
        let rest := tail.dropWhile isDigitPart
        match rest with
        | e :: tail =>
          if e = 'e' ∨ e = 'E' then
            match afterExponent false false tail with
            | some rest => afterNumber rest
            | none => afterNumber (e :: tail)
          else afterNumber rest
        | [] => some []
    | e :: tail =>
      if e = 'e' ∨ e = 'E' then do afterNumber (← afterExponent false false tail) else none
    | [] => none

/-- What follows the digits of a whole number in a base. -/
def afterDigits (base : Nat) : Bool → List Char → Option (List Char)
  | filled, c :: cs =>
    if c = '_' then
      if !filled && base == 10 then none else afterDigits base filled cs
    else match hexDigit? c with
      | some d =>
        if d < base then afterDigits base true cs
        else if c.isDigit then none
        else if filled then some (c :: cs) else none
      | none => if filled then some (c :: cs) else none
  | filled, [] => if filled then some [] else none

/-- What follows a whole number. -/
def afterInt? (cs : List Char) : Option (List Char) := do
  let rest ← match cs with
    | '0' :: 'x' :: cs => afterDigits 16 false cs
    | '0' :: 'o' :: cs => afterDigits 8 false cs
    | '0' :: 'b' :: cs => afterDigits 2 false cs
    | cs => afterDigits 10 false cs
  afterNumber rest

/-- What follows the literal at the start. -/
def afterLiteral? (cs : List Char) : Option (List Char) :=
  afterString? cs <|> afterCharacter? cs <|> afterFloat? cs <|> afterInt? cs

/-! ## Operator characters -/

/-- The operator characters. -/
def punctChars : List Char := "~!@#$%^&*-=+|;:,<.>/?\x27".toList

/-- The operator character at the start; one that opens a comment is none. -/
def punctChar? : List Char → Option (Char × List Char)
  | '/' :: '/' :: _ => none
  | '/' :: '*' :: _ => none
  | c :: cs => if punctChars.contains c then some (c, cs) else none
  | [] => none

/-- The operator character at the start with its spacing.  A single quote needs a name that no
closing quote follows. -/
def punct? (cs : List Char) : Option (Token × List Char) := do
  let (c, rest) ← punctChar? cs
  if c = '\x27' then
    let (_, after) ← name? rest
    if after.head? = some '\x27' ∨
        (after.head? = some '#' ∧ !startsWith rest ['r', '#']) then none
    else some (.punct '\x27' .joint, rest)
  else
    let spacing := if (punctChar? rest).isSome then Spacing.joint else .alone
    some (.punct c spacing, rest)

/-- The token at the start, unless a delimiter stands there. -/
def leaf? (cs : List Char) : Option (Token × List Char) :=
  match afterLiteral? cs with
  | some rest =>
    some (.literal (String.ofList (cs.take (cs.length - rest.length))), rest)
  | none =>
    match punct? cs with
    | some r => some r
    | none => (ident? cs).map fun (i, rest) => (.ident i, rest)

/-! ## Sequences -/

/-- A group that is still open: its delimiter, and the tokens before it in reverse. -/
abbrev Frame := Delimiter × List Token

/-- Reads tokens onto `done`, which is in reverse, inside the open groups. -/
def lexUpTo : Nat → List Frame → List Token → List Char → Option (List Token)
  | 0, _, _, _ => none
  | fuel + 1, frames, done, cs =>
    let cs := skip cs
    match doc? cs with
    | some (ts, rest) => lexUpTo fuel frames (ts.reverse ++ done) rest
    | none =>
      match cs with
      | [] => if frames = [] then some done.reverse else none
      | c :: rest =>
        match Delimiter.ofOpening? c with
        | some d => lexUpTo fuel ((d, done) :: frames) [] rest
        | none =>
          match Delimiter.ofClosing? c, frames with
          | some d, (open_, before) :: frames =>
            if d = open_ then lexUpTo fuel frames (.group d done.reverse :: before) rest else none
          | some _, [] => none
          | none, _ =>
            match leaf? cs with
            | some (t, rest) => lexUpTo fuel frames (t :: done) rest
            | none => none

/-- The mark that may stand before a text to tell its byte order. -/
def byteOrderMark : Char := Char.ofNat 0xfeff

/-- Drops a byte order mark. -/
def dropByteOrderMark : List Char → List Char
  | c :: cs => if c = byteOrderMark then cs else c :: cs
  | [] => []

/-- The token trees of a text. -/
def lex? (text : String) : Option (List Token) :=
  let cs := dropByteOrderMark text.toList
  lexUpTo (cs.length + 1) [] [] cs

end RestLoom.Token
