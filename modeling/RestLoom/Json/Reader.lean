import RestLoom.Json.Fault
import RestLoom.Text.Utf8

/-!
# Json/Reader — reading values from bytes

    bytes ──readAs schema──▸ value, or the first fault

A schema says what is wanted; `any` wants nothing in particular and reads every value.  Reading goes
through the bytes once.  Lists and objects nest at most 127 deep, and a fault found inside one of
them is told at the place that reading has reached when the list or object ends.
-/

namespace RestLoom.Json

open RestLoom.Text

/-! ## Steps -/

/-- The bytes still to be read, and the number of bytes before them. -/
structure Cursor where
  rest : List UInt8
  index : Nat

/-- A fault, and its offset unless that is still to be determined. -/
structure Failure where
  fault : Fault
  offset : Option Nat

/-- A step of reading. -/
abbrev Reader := ExceptT Failure (StateM Cursor)

namespace Reader

/-- A byte as a character of ASCII. -/
def asciiOf (b : UInt8) : Char := Char.ofNat b.toNat

/-- The next byte, as a character. -/
def peek : Reader (Option Char) := do return (← get).rest.head?.map asciiOf

/-- Goes past a byte. -/
def advance : Reader Unit := modify fun c => ⟨c.rest.drop 1, c.index + 1⟩

/-- Fails at the place reached. -/
def failHere {α : Type} (f : Fault) : Reader α := do throw ⟨f, some (← get).index⟩

/-- Fails just after the next byte. -/
def failNext {α : Type} (f : Fault) : Reader α := do
  let c ← get
  throw ⟨f, some (if c.rest.isEmpty then c.index else c.index + 1)⟩

/-- Fails at a place to be determined. -/
def failSomewhere {α : Type} (f : Fault) : Reader α := throw ⟨f, none⟩

/-- Takes the next byte. -/
def next : Reader (Option Char) := do
  let b ← peek
  if b.isSome then advance
  return b

/-- Determines the place of a fault. -/
def located {α : Type} (r : Reader α) : Reader α := do
  try r
  catch e =>
    match e.offset with
    | some _ => throw e
    | none => failHere e.fault

/-- Whether a byte is a blank. -/
def isBlankByte (b : UInt8) : Bool := b == 0x20 || b == 0x0a || b == 0x09 || b == 0x0d

/-- Skips blanks and looks at the next byte. -/
def peekCode : Reader (Option Char) := do
  modify fun c =>
    let blanks := (c.rest.takeWhile isBlankByte).length
    ⟨c.rest.drop blanks, c.index + blanks⟩
  peek

/-- Reads characters that have to follow. -/
def word : List Char → Reader Unit
  | [] => pure ()
  | c :: cs => do
    match ← next with
    | none => failHere .endOfValue
    | some d => if c = d then word cs else failHere .expectedIdent

/-- Whether a byte is a digit. -/
def isDigitNext : Reader Bool := do return (← peek).any (·.isDigit)

/-- The digits that follow. -/
def digits : Reader (List Char) := do
  let c ← get
  let ds := (c.rest.takeWhile fun b => (asciiOf b).isDigit).map asciiOf
  set (⟨c.rest.drop ds.length, c.index + ds.length⟩ : Cursor)
  return ds

/-! ## Numbers -/

/-- The largest natural number of sixty-four bits. -/
def largest : Nat := Nat.pow 2 64 - 1

/-- The value of digits, as far as it fits sixty-four bits, after a value; and the digits left. -/
def gather (n : Nat) : List Char → Nat × List Char
  | [] => (n, [])
  | d :: ds =>
    let m := n * 10 + (d.toNat - 48)
    if largest < m then (n, d :: ds) else gather m ds

/-- Scales a number by a power of ten, stepwise if the power is very small; `none` if the result
would be infinite. -/
def scale : Nat → Float → Int → Option Float
  | 0, f, _ => some f
  | fuel + 1, f, e =>
    if e.natAbs ≤ 308 then
      let power := Float.ofScientific 1 false e.natAbs
      if 0 ≤ e then
        let g := f * power
        if g.isInf then none else some g
      else some (f / power)
    else if f == 0 then some f
    else if 0 ≤ e then none
    else scale fuel (f / Float.ofScientific 1 false 308) (e + 308)

/-- The real `significand · 10^exponent`. -/
def realOf (positive : Bool) (significand : Nat) (exponent : Int) : Reader Number := do
  match scale (exponent.natAbs + 1) (Float.ofNat significand) exponent with
  | some f => return .real (if positive then f else -f).toBits
  | none => failHere .numberOutOfRange

/-- The exponents that are told apart. -/
def exponentLimit : Nat := Nat.pow 2 31 - 1

/-- An exponent kept within its limits. -/
def clampExponent (e : Int) : Int :=
  if (exponentLimit : Int) < e then exponentLimit
  else if e < -(exponentLimit : Int) - 1 then -(exponentLimit : Int) - 1
  else e

/-- Reads a power of ten after its letter. -/
def powerOfTen (positive : Bool) (significand : Nat) (start : Int) : Reader Number := do
  advance
  let sign ← peek
  let up := sign != some '-'
  if sign = some '+' ∨ sign = some '-' then advance
  match ← next with
  | none => failHere .endOfValue
  | some d =>
    if !d.isDigit then failHere .invalidNumber
    else
      let before ← get
      let ds ← digits
      let taken := (ds.foldl (fun (acc : Nat × Nat) c =>
        let e := acc.1 * 10 + (c.toNat - 48)
        if acc.1 ≤ exponentLimit then (e, acc.2 + 1) else acc) (d.toNat - 48, 0))
      let e := taken.1
      if exponentLimit < e then
        if significand ≠ 0 ∧ up then
          set (⟨before.rest.drop taken.2, before.index + taken.2⟩ : Cursor)
          failHere .numberOutOfRange
        else return .real (if positive then (0.0 : Float) else -0.0).toBits
      else realOf positive significand (clampExponent (if up then start + e else start - e))

/-- Reads the digits after a point. -/
def afterPoint (positive : Bool) (significand : Nat) (before : Int) : Reader Number := do
  advance
  let ds ← digits
  if ds = [] then
    match ← peek with
    | some _ => failNext .invalidNumber
    | none => failNext .endOfValue
  else
    let (n, left) := gather significand ds
    let e := before - ((ds.length - left.length : Nat) : Int)
    match ← peek with
    | some 'e' => powerOfTen positive n e
    | some 'E' => powerOfTen positive n e
    | _ => realOf positive n e

/-- Reads a number after its sign. -/
def numberAfterSign (positive : Bool) : Reader Number := do
  match ← next with
  | none => failHere .endOfValue
  | some d =>
    if !d.isDigit then failHere .invalidNumber
    else if d = '0' ∧ (← isDigitNext) then failNext .invalidNumber
    else
      let ds ← if d = '0' then pure [] else digits
      let (n, left) := gather (d.toNat - 48) ds
      match ← peek with
      | some '.' => afterPoint positive n left.length
      | some 'e' => powerOfTen positive n left.length
      | some 'E' => powerOfTen positive n left.length
      | _ =>
        if left ≠ [] then realOf positive n left.length
        else if positive then return .integer n
        else if n = 0 ∨ Nat.pow 2 63 < n then return .real (-(Float.ofNat n)).toBits
        else return .integer (-(n : Int))

/-- Reads a number. -/
def number : Reader Number := do
  if (← peek) = some '-' then
    advance
    numberAfterSign false
  else numberAfterSign true

/-! ## Strings -/

/-- The value of a hexadecimal digit. -/
def hexValue? (c : Char) : Option Nat :=
  if '0' ≤ c ∧ c ≤ '9' then some (c.toNat - 48)
  else if 'a' ≤ c ∧ c ≤ 'f' then some (c.toNat - 87)
  else if 'A' ≤ c ∧ c ≤ 'F' then some (c.toNat - 55)
  else none

/-- Reads four hexadecimal digits. -/
def hexEscape : Reader Nat := do
  let c ← get
  if c.rest.length < 4 then
    set (⟨[], c.index + c.rest.length⟩ : Cursor)
    failHere .endOfString
  else
    set (⟨c.rest.drop 4, c.index + 4⟩ : Cursor)
    match (c.rest.take 4).mapM fun b => hexValue? (asciiOf b) with
    | some ds => return ds.foldl (fun n d => 16 * n + d) 0
    | none => failHere .invalidEscape

/-- Reads a character that has to follow the first half of a pair. -/
def pairCharacter (c : Char) : Reader Unit := do
  match ← peek with
  | none => failHere .endOfString
  | some d =>
    advance
    if c ≠ d then failHere .endOfHexEscape

/-- Reads the code point of an escape: four digits, or two times four for one beyond the first
plane. -/
def codeEscape : Reader Nat := do
  let n ← hexEscape
  if 0xdc00 ≤ n ∧ n ≤ 0xdfff then failHere .loneSurrogate
  else if n < 0xd800 ∨ 0xdbff < n then return n
  else
    pairCharacter '\\'
    pairCharacter 'u'
    let m ← hexEscape
    if m < 0xdc00 ∨ 0xdfff < m then failHere .loneSurrogate
    else return (n - 0xd800) * 0x400 + (m - 0xdc00) + 0x10000

/-- Reads an escape after its backslash. -/
def escape : Reader Char := do
  match ← next with
  | none => failHere .endOfString
  | some 'b' => return '\x08'
  | some 'f' => return '\x0c'
  | some 'n' => return '\n'
  | some 'r' => return '\r'
  | some 't' => return '\t'
  | some 'u' => return Char.ofNat (← codeEscape)
  | some c => if c = '\x22' ∨ c = '\\' ∨ c = '/' then return c else failHere .invalidEscape

/-- The bytes of a string after its quote, up to the closing one. -/
def stringBytes : Nat → List UInt8 → Reader (List UInt8)
  | 0, _ => failHere .endOfString
  | fuel + 1, acc => do
    let c ← get
    let plain := c.rest.takeWhile fun b => b != 0x22 && b != 0x5c && 0x20 ≤ b
    set (⟨c.rest.drop plain.length, c.index + plain.length⟩ : Cursor)
    let acc := acc ++ plain
    match ← peek with
    | none => failHere .endOfString
    | some '\x22' =>
      advance
      return acc
    | some '\\' =>
      advance
      let e ← escape
      stringBytes fuel (acc ++ String.utf8EncodeChar e)
    | some _ =>
      advance
      failHere .controlCharacter

/-- Reads a string after its quote. -/
def stringAfterQuote : Reader String := do
  let c ← get
  let bs ← stringBytes (c.rest.length + 1) []
  match decode? bs with
  | some cs => return String.ofList cs
  | none =>
    let valid := textPrefix c.rest.length c.rest
    throw ⟨.notText, some (c.index + valid + 1)⟩
where
  /-- The number of bytes at the start that are text. -/
  textPrefix : Nat → List UInt8 → Nat
    | 0, _ => 0
    | _, [] => 0
    | fuel + 1, b :: bs =>
      match utf8Step b.toNat bs with
      | .char _ size => size + textPrefix fuel (bs.drop (size - 1))
      | .invalid _ => 0

/-- Reads a string. -/
def string : Reader String := do
  advance
  stringAfterQuote

/-! ## Lists and objects -/

/-- Whether another element follows; `first` says that none has been read yet. -/
def moreElements (first : Bool) : Reader Bool := do
  match ← peekCode with
  | none => failNext .endOfList
  | some ']' => return false
  | some c =>
    if first then return true
    else if c ≠ ',' then failNext .expectedListComma
    else
      advance
      match ← peekCode with
      | some ']' => failNext .trailingComma
      | some _ => return true
      | none => failNext .endOfValue

/-- Reads the end of a list. -/
def endList : Reader Unit := do
  match ← peekCode with
  | some ']' => advance
  | some ',' =>
    advance
    match ← peekCode with
    | some ']' => failNext .trailingComma
    | _ => failNext .trailingCharacters
  | some _ => failNext .trailingCharacters
  | none => failNext .endOfList

/-- Whether another member follows; `first` says that none has been read yet. -/
def moreMembers (first : Bool) : Reader Bool := do
  match ← peekCode with
  | none => failNext .endOfObject
  | some '}' => return false
  | some c =>
    if first then
      if c = '\x22' then return true else failNext .keyNotString
    else if c ≠ ',' then failNext .expectedObjectComma
    else
      advance
      match ← peekCode with
      | some '\x22' => return true
      | some '}' => failNext .trailingComma
      | some _ => failNext .keyNotString
      | none => failNext .endOfValue

/-- Reads the colon after a name. -/
def colon : Reader Unit := do
  match ← peekCode with
  | some ':' => advance
  | some _ => failNext .expectedColon
  | none => failNext .endOfObject

/-- Reads the end of an object. -/
def endObject : Reader Unit := do
  match ← peekCode with
  | some '}' => advance
  | some ',' => failNext .trailingComma
  | some _ => failNext .trailingCharacters
  | none => failNext .endOfObject

/-- Reads what stands between brackets or braces, and their end even if there was a fault inside;
the first fault counts. -/
def enclosed {α : Type} (depth : Nat) (inside : Nat → Reader α) (finish : Reader Unit) :
    Reader α := do
  match depth with
  | d + 2 =>
    advance
    let outcome ← (try Except.ok <$> inside (d + 1) catch e => pure (.error e) :
      Reader (Except Failure α))
    let closing ← (try Except.ok <$> finish catch e => pure (.error e) :
      Reader (Except Failure Unit))
    match outcome, closing with
    | .ok a, .ok () => return a
    | .error e, _ => throw e
    | .ok _, .error e => throw e
  | _ => failNext .tooDeep

/-- Reads the elements of a list. -/
def elements {α : Type} (element : Reader α) : Nat → Bool → List α → Reader (List α)
  | 0, _, acc => return acc.reverse
  | fuel + 1, first, acc => do
    if ← moreElements first then
      let a ← element
      elements element fuel false (a :: acc)
    else return acc.reverse

/-- Reads the members of an object. -/
def members (value : Reader Json) : Nat → Bool → List (String × Json) →
    Reader (List (String × Json))
  | 0, _, acc => return acc.reverse
  | fuel + 1, first, acc => do
    if ← moreMembers first then
      let k ← string
      colon
      let v ← value
      members value fuel false ((k, v) :: acc)
    else return acc.reverse

/-- A bound on the number of elements still to come. -/
def bound : Reader Nat := do return (← get).rest.length + 1

/-! ## Any value -/

/-- Reads any value, nested at most so many levels deep. -/
def anyValue : Nat → Reader Json
  | 0 => failNext .tooDeep
  | depth + 1 => located do
    match ← peekCode with
    | none => failNext .endOfValue
    | some 'n' =>
      advance
      word ['u', 'l', 'l']
      return .null
    | some 't' =>
      advance
      word ['r', 'u', 'e']
      return .bool true
    | some 'f' =>
      advance
      word ['a', 'l', 's', 'e']
      return .bool false
    | some '\x22' => return .string (← string)
    | some '[' =>
      let es ← enclosed (depth + 1)
        (fun _ => do elements (anyValue depth) (← bound) true []) endList
      return .array es
    | some '{' =>
      let ms ← enclosed (depth + 1)
        (fun _ => do members (anyValue depth) (← bound) true []) endObject
      return ofMembers ms
    | some c =>
      if c = '-' ∨ c.isDigit then return .number (← number)
      else failNext .expectedValue

/-! ## Values that are not wanted -/

/-- Skips a number after its sign. -/
def skipNumber : Reader Unit := do
  match ← next with
  | none => failHere .invalidNumber
  | some d =>
    if !d.isDigit then failHere .invalidNumber
    else if d = '0' ∧ (← isDigitNext) then failNext .invalidNumber
    else
      if d ≠ '0' then discard digits
      if (← peek) = some '.' then
        advance
        if (← digits) = [] then failNext .invalidNumber
      if (← peek) = some 'e' ∨ (← peek) = some 'E' then
        advance
        if (← peek) = some '+' ∨ (← peek) = some '-' then advance
        if (← next).any (·.isDigit) then discard digits else failHere .invalidNumber

/-- Skips a string after its quote. -/
def skipString : Nat → Reader Unit
  | 0 => failHere .endOfString
  | fuel + 1 => do
    let c ← get
    let plain := (c.rest.takeWhile fun b => b != 0x22 && b != 0x5c && 0x20 ≤ b).length
    set (⟨c.rest.drop plain, c.index + plain⟩ : Cursor)
    match ← peek with
    | none => failHere .endOfString
    | some '\x22' => advance
    | some '\\' =>
      advance
      match ← next with
      | none => failHere .endOfString
      | some 'u' => discard hexEscape
      | some e =>
        if e ∈ ['\x22', '\\', '/', 'b', 'f', 'n', 'r', 't'] then pure ()
        else failHere .invalidEscape
      skipString fuel
    | some _ => failHere .controlCharacter

/-- Skips the name of a member and its colon. -/
def skipName : Reader Unit := do
  match ← peekCode with
  | some '\x22' => advance
  | some _ => failNext .keyNotString
  | none => failNext .endOfObject
  skipString (← bound)
  colon

/-- Whether a list or an object is open. -/
inductive Open where
  | list
  | object
  deriving DecidableEq

/-- Skips ends of open lists and objects, then a comma or what precedes the next value; the result
is what is open then, and whether skipping is finished. -/
def skipEnds : Nat → Bool → Open → List Open → Reader (Option (Open × List Open))
  | 0, _, _, _ => return none
  | fuel + 1, comma, o, outer => do
    let close : Reader (Option (Open × List Open)) := do
      advance
      match outer with
      | [] => return none
      | o :: outer => skipEnds fuel true o outer
    match ← peekCode with
    | none => failNext (if o = .list then .endOfList else .endOfObject)
    | some c =>
      if c = ',' ∧ comma then
        advance
        return some (o, outer)
      else if (c = ']' ∧ o = .list) ∨ (c = '}' ∧ o = .object) then close
      else if comma then
        failNext (if o = .list then .expectedListComma else .expectedObjectComma)
      else return some (o, outer)

/-- Skips a value inside open lists and objects, innermost first, and all that follows in them. -/
def skipValues : Nat → List Open → Reader Unit
  | 0, _ => failNext .endOfValue
  | fuel + 1, outer => do
    let after (comma : Bool) : List Open → Reader Unit
      | [] => pure ()
      | o :: outer => do
        match ← skipEnds (← bound) comma o outer with
        | none => pure ()
        | some (o, outer) =>
          if o = .object then skipName
          skipValues fuel (o :: outer)
    match ← peekCode with
    | none => failNext .endOfValue
    | some 'n' =>
      advance
      word ['u', 'l', 'l']
      after true outer
    | some 't' =>
      advance
      word ['r', 'u', 'e']
      after true outer
    | some 'f' =>
      advance
      word ['a', 'l', 's', 'e']
      after true outer
    | some '-' =>
      advance
      skipNumber
      after true outer
    | some '\x22' =>
      advance
      skipString (← bound)
      after true outer
    | some '[' =>
      advance
      after false (.list :: outer)
    | some '{' =>
      advance
      after false (.object :: outer)
    | some c =>
      if c.isDigit then
        skipNumber
        after true outer
      else failNext .expectedValue

/-- Skips a value. -/
def skipValue : Reader Unit := do skipValues (← bound) []

/-! ## Wanted values -/

end Reader

/-- A value without parts. -/
inductive Scalar where
  | text
  | bool
  /-- A natural number of so many bits. -/
  | natural (bits : Nat)
  /-- An integer of so many bits. -/
  | integer (bits : Nat)
  deriving DecidableEq

/-- The words for what is wanted. -/
def Scalar.expected : Scalar → String
  | text => "a string"
  | bool => "a boolean"
  | natural bits => "u" ++ toString bits
  | integer bits => "i" ++ toString bits

/-- Whether an integer fits the wanted bits. -/
def Scalar.holds (s : Scalar) (i : Int) : Bool :=
  match s with
  | natural bits => 0 ≤ i && i < (Nat.pow 2 bits : Int)
  | integer bits => -(Nat.pow 2 (bits - 1) : Int) ≤ i && i < (Nat.pow 2 (bits - 1) : Int)
  | _ => false

/-- A kind of values. -/
inductive Schema where
  | scalar (s : Scalar)
  /-- Nothing but null. -/
  | unit
  | list (element : Schema)
  /-- Null or a value. -/
  | option (value : Schema)
  /-- An object with those fields, or the list of their values. -/
  | record (name : String) (fields : List (String × Scalar))
  | any

namespace Reader

/-- Fails because another type was found than the wanted one. -/
def mismatch {α : Type} (expected : String) : Reader α := located do
  match ← peek with
  | some 'n' =>
    advance
    word ['u', 'l', 'l']
    failSomewhere (.invalidType .null expected)
  | some 't' =>
    advance
    word ['r', 'u', 'e']
    failSomewhere (.invalidType (.bool true) expected)
  | some 'f' =>
    advance
    word ['a', 'l', 's', 'e']
    failSomewhere (.invalidType (.bool false) expected)
  | some '\x22' =>
    let s ← string
    failSomewhere (.invalidType (.string s) expected)
  | some '[' => failSomewhere (.invalidType .sequence expected)
  | some '{' => failSomewhere (.invalidType .map expected)
  | some c =>
    if c = '-' ∨ c.isDigit then
      let n ← number
      failSomewhere (.invalidType (.number n) expected)
    else failNext .expectedValue
  | none => failNext .expectedValue

/-- Reads a number of the wanted kind. -/
def wantedNumber (s : Scalar) : Reader Json := do
  match ← number with
  | .integer i =>
    if s.holds i then return .number (.integer i)
    else failSomewhere (.invalidValue (.integer i) s.expected)
  | .real bits => failSomewhere (.invalidType (.number (.real bits)) s.expected)

/-- Reads a wanted scalar. -/
def scalar (s : Scalar) : Reader Json := located do
  match ← peekCode with
  | none => failNext .endOfValue
  | some c =>
    match s with
    | .text => if c = '\x22' then return .string (← string) else mismatch s.expected
    | .bool =>
      if c = 't' then
        advance
        word ['r', 'u', 'e']
        return .bool true
      else if c = 'f' then
        advance
        word ['a', 'l', 's', 'e']
        return .bool false
      else mismatch s.expected
    | .natural _ => if c = '-' ∨ c.isDigit then wantedNumber s else mismatch s.expected
    | .integer _ => if c = '-' ∨ c.isDigit then wantedNumber s else mismatch s.expected

/-- Reads the fields of a record from a list of their values. -/
def fieldsInOrder (all : String) : Nat → List (String × Scalar) → Reader (List (String × Json))
  | _, [] => return []
  | n, (name, s) :: rest => do
    if ← moreElements (n == 0) then
      let v ← scalar s
      return (name, v) :: (← fieldsInOrder all (n + 1) rest)
    else failSomewhere (.invalidLength n all)

/-- Reads the fields of a record by name, skipping others. -/
def fieldsByName (fields : List (String × Scalar)) : Nat → Bool → List (String × Json) →
    Reader (List (String × Json))
  | 0, _, acc => return acc
  | fuel + 1, first, acc => do
    if ← moreMembers first then
      let k ← string
      match fields.lookup k with
      | none =>
        colon
        skipValue
        fieldsByName fields fuel false acc
      | some s =>
        if acc.any fun m => m.1 == k then failSomewhere (.duplicateField k)
        else
          colon
          let v ← scalar s
          fieldsByName fields fuel false ((k, v) :: acc)
    else return acc

/-- The fields of a record in order; all of them are wanted. -/
def arrange (found : List (String × Json)) : List (String × Scalar) →
    Reader (List (String × Json))
  | [] => return []
  | (name, _) :: rest => do
    match found.lookup name with
    | some v => return (name, v) :: (← arrange found rest)
    | none => failSomewhere (.missingField name)

/-- The words for a record. -/
def recordWords (name : String) : String := "struct " ++ name

/-- Reads a record, nested at most so many levels deep. -/
def record (name : String) (fields : List (String × Scalar)) (depth : Nat) : Reader Json :=
  located do
    match ← peekCode with
    | none => failNext .endOfValue
    | some '[' =>
      let all := recordWords name ++ " with " ++ toString fields.length ++ " elements"
      let ms ← enclosed depth (fun _ => fieldsInOrder all 0 fields) endList
      return .object ms
    | some '{' =>
      let ms ← enclosed depth
        (fun _ => do arrange (← fieldsByName fields (← bound) true []) fields) endObject
      return .object ms
    | some _ => mismatch (recordWords name)

/-- Reads a wanted value, nested at most so many levels deep. -/
def wanted : Schema → Nat → Reader Json
  | .scalar s, _ => scalar s
  | .unit, _ => located do
    match ← peekCode with
    | none => failNext .endOfValue
    | some 'n' =>
      advance
      word ['u', 'l', 'l']
      return .null
    | some _ => mismatch "unit"
  | .list element, depth => located do
    match ← peekCode with
    | none => failNext .endOfValue
    | some '[' =>
      let es ← enclosed depth
        (fun d => do elements (wanted element d) (← bound) true []) endList
      return .array es
    | some _ => mismatch "a sequence"
  | .option value, depth => do
    match ← peekCode with
    | some 'n' =>
      advance
      word ['u', 'l', 'l']
      return .null
    | _ => wanted value depth
  | .record name fields, depth => record name fields depth
  | .any, depth => anyValue depth

/-- Reads a wanted value and nothing after it. -/
def whole (s : Schema) : Reader Json := do
  let v ← wanted s 128
  if (← peekCode).isSome then failNext .trailingCharacters else return v

end Reader

/-- The error of a failure at an offset. -/
def errorAt (bytes : List UInt8) (f : Fault) (offset : Nat) : ReadError :=
  let before := bytes.take offset
  ⟨f, before.count 0x0a + 1, (before.reverse.takeWhile (· != 0x0a)).length⟩

/-- **Reads** the wanted value that bytes are. -/
def readAs (s : Schema) (bytes : List UInt8) : Except ReadError Json :=
  match (Reader.whole s).run ⟨bytes, 0⟩ with
  | (.ok v, _) => .ok v
  | (.error e, c) => .error (errorAt bytes e.fault (e.offset.getD c.index))

/-- Reads any value from text. -/
def ofText (text : String) : Except ReadError Json := readAs .any (utf8 text.toList)

end RestLoom.Json
