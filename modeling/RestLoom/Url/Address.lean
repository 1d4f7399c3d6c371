import RestLoom.Url.Basic
import RestLoom.Percent.Basic
import RestLoom.Text.Lines

/-!
# Url/Address — numbers for hosts

    "0x7f.1" ──readIpv4──▸ 127.0.0.1        "::1" ──readIpv6──▸ [0, 0, 0, 0, 0, 0, 0, 1]

A host whose last label is a number is an address of four parts, each decimal, octal or hexadecimal,
the last one filling what the others leave.  An address of eight pieces may leave out one run of
zeros and may end in four decimal parts.
-/

namespace RestLoom.Url

open RestLoom.Text

/-- The value of digits in a base, least significant last. -/
def digitsValue (base : Nat) (cs : List Char) : Nat :=
  cs.foldl (fun n c => n * base + (Percent.hexValue c).getD 0) 0

/-- A number as it may stand in a label: hexadecimal after `0x`, octal after another leading zero.
The result is `none` if the label is no number. -/
def readLabelNumber (cs : List Char) : Option Nat :=
  let inBase (base : Nat) (ds : List Char) : Option Nat :=
    if ds.all fun c => (Percent.hexValue c).any (· < base) then some (digitsValue base ds) else none
  match cs with
  | [] => none
  | '0' :: 'x' :: ds => inBase 16 ds
  | '0' :: 'X' :: ds => inBase 16 ds
  | '0' :: d :: ds => inBase 8 (d :: ds)
  | ds => inBase 10 ds

/-- Whether the last label of a host is a number; an empty label at the end does not count. -/
def endsInNumber (host : List Char) : Bool :=
  let isNumber (l : List Char) : Bool :=
    (l != [] && l.all (·.isDigit)) || (readLabelNumber l).isSome
  match (splitAt (· == '.') host).reverse with
  | [] :: last :: _ => isNumber last
  | [] :: [] => false
  | last :: _ => isNumber last
  | [] => false

/-- The address that numbers stand for: all but the last are one part each, and the last fills the
remaining parts. -/
def joinParts (parts : List Nat) : Option Nat :=
  match parts.reverse with
  | [] => none
  | last :: before =>
    let before := before.reverse
    if Nat.pow 256 (4 - before.length) ≤ last ∨ before.any (255 < ·) then none
    else some (last + ((List.range before.length).map fun i =>
      before.getD i 0 * Nat.pow 256 (3 - i)).foldr (· + ·) 0)

/-- Reads an address of four parts. -/
def readIpv4 (host : List Char) : Except ParseError Nat :=
  let labels := splitAt (· == '.') host
  let labels := if labels.getLast? = some [] then labels.dropLast else labels
  if 4 < labels.length then .error .invalidIpv4
  else match (labels.mapM readLabelNumber).bind joinParts with
    | some a => .ok a
    | none => .error .invalidIpv4

/-! ## Eight pieces -/

/-- A piece: one to four hexadecimal digits. -/
def readPiece (cs : List Char) : Option Nat :=
  if cs ≠ [] ∧ cs.length ≤ 4 ∧ cs.all (fun c => (Percent.hexValue c).isSome)
  then some (digitsValue 16 cs) else none

/-- A decimal part below 256 without a leading zero. -/
def readDecimalPart (cs : List Char) : Option Nat :=
  if cs ≠ [] ∧ cs.all (·.isDigit) ∧ (cs.length = 1 ∨ cs.head? ≠ some '0') ∧
    digitsValue 10 cs < 256
  then some (digitsValue 10 cs) else none

/-- Two pieces from four decimal parts. -/
def readDecimalTail (cs : List Char) : Option (List Nat) :=
  match (splitAt (· == '.') cs).mapM readDecimalPart with
  | some [a, b, c, d] => some [a * 256 + b, c * 256 + d]
  | _ => none

/-- Pieces with colons between them; the last one may be four decimal parts if `last` says so. -/
def readPieces (last : Bool) : List (List Char) → Option (List Nat)
  | [] => some []
  | [cs] =>
    if cs.contains '.' then (if last then readDecimalTail cs else none)
    else (readPiece cs).map ([·])
  | cs :: rest => do
    let p ← readPiece cs
    let ps ← readPieces last rest
    return p :: ps

/-- The parts of a text before and after the first two colons in a row. -/
def splitDoubleColon (before : List Char) : List Char → Option (List Char × List Char)
  | ':' :: ':' :: cs => some (before, cs)
  | c :: cs => splitDoubleColon (before ++ [c]) cs
  | [] => none

/-- The pieces of a text without two colons in a row. -/
def readRun (last : Bool) (cs : List Char) : Option (List Nat) :=
  if cs = [] then some [] else readPieces last (splitAt (· == ':') cs)

/-- Reads an address of eight pieces. -/
def readIpv6 (cs : List Char) : Except ParseError (List Nat) :=
  let pieces := match splitDoubleColon [] cs with
    | some (a, b) => do
      let front ← readRun false a
      let back ← readRun true b
      if 7 < front.length + back.length then none
      else some (front ++ List.replicate (8 - front.length - back.length) 0 ++ back)
    | none => do
      let ps ← readRun true cs
      if ps.length = 8 then some ps else none
  match pieces with
  | some ps => .ok ps
  | none => .error .invalidIpv6

end RestLoom.Url
