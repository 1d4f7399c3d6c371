import RestLoom.Source.Grammar.Type

/-!
# Source/Grammar/Pattern — patterns

A pattern is a name, a path with or without what is inside it, a literal, a range, a reference, or a
list of patterns between delimiters.  Alternatives are joined by bars.
-/

namespace RestLoom.Source

open RestLoom.Token (Ident Delimiter)

/-- A range operator in a pattern; three dots are an older form of `..=`. -/
def rangeOp : Reader Node := do
  if ← peekOp "..=" then op "..="
  else if ← peekOp "..." then
    let _ ← op "..."
    return .op "..="
  else op ".."

/-- The number of a field, which is plain and fits in 32 bits. -/
def fieldNumber (negative : Bool) (text : String) : Reader Node :=
  match Token.wholeNumber? text with
  | some (n, suffix) =>
    if !suffix.isEmpty then forbid "expected unsuffixed integer"
    else if negative then forbid "invalid digit found in string"
    else if Nat.pow 2 32 ≤ n then forbid "number too large to fit in target type"
    else return .literal (toString n)
  | none => forbid "expected integer literal"

/-- Takes a number for which a test holds, if it is ahead, with the word whether it is negative. -/
def number? (test : String → Bool) : Reader (Option (Bool × String)) := do
  match ← ahead with
  | .literal t :: rest =>
    if test t then
      advanceTo rest
      return some (false, t)
    else return none
  | .punct '-' _ :: .literal t :: rest =>
    if test t then
      advanceTo rest
      return some (true, t)
    else return none
  | _ => return none

/-- A member of a structure: a name or a number. -/
def member : Reader Node := do
  if ← peek .name then return .ident (← name)
  else
    match ← number? Token.isWhole with
    | some (negative, t) => fieldNumber negative t
    | none => refuseFor "expected identifier or integer"

/-- Whether a member is a name. -/
def isNamed : Node → Bool
  | .ident _ => true
  | _ => false

/-- Whether a range in a pattern lacks a bound. -/
def isOpenRange : Node → Bool
  | .phrase .rangePat ps => ps.length < 3
  | _ => false

section
variable (g : Grammar)

/-- Patterns joined by bars, possibly with one in front. -/
def patterns : Reader Node := do
  let bar : Reader Bool := do return (← peekOp "|") && !(← peekOp "||") && !(← peekOp "|=")
  let front ← op? "|"
  let first ← g.pattern
  let rest ← repeatStep fun acc => do
    if ← bar then
      let b ← op "|"
      return (acc ++ [b, ← g.pattern], true)
    else return (acc, false)
  if front.isEmpty && rest.isEmpty then return first
  else return .phrase .orPat (front ++ first :: rest)

/-- Whether a range in a pattern has no bound here. -/
def noRangeBound : Reader Bool := do
  return (← atEnd) || (← peekAny [.op "|", .op "=", .op ",", .op ";", .word "if"]) ||
    ((← peekOp ":") && !(← peekOp "::"))

/-- A bound of a range in a pattern. -/
def rangeBound : Reader (List Node) := do
  if ← noRangeBound then return []
  else if ← peek .literal then return [← literal]
  else if ← peekAny (segmentStarts ++ [.op "::", .op "<"]) then
    return [.phrase .pathExpr [← qualifiedPath g true]]
  else if ← peekWord "const" then
    let c ← word "const"
    return [.phrase .constBlock [c, ← g.ownBlock]]
  else refuseAll ([.literal, .name, .op "::", .op "<", .word "self", .word "Self", .word "super",
    .word "crate", .word "const"])

/-- A range in a pattern from its operator on. -/
def rangeFrom (start : List Node) : Reader Node := do
  let r ← rangeOp
  let stop ← rangeBound g
  if !stop.isEmpty then return .phrase .rangePat (start ++ r :: stop)
  else if r.isOp "..=" then refuseFor "expected range upper bound"
  else if start.isEmpty then return .phrase .restPat [r]
  else return .phrase .rangePat (start ++ [r])

/-- A field of a structure in a pattern. -/
def fieldPattern (attributes : List Node) : Reader Node := do
  let start ← ahead
  let b ← word? "box"
  let r ← word? "ref"
  let m ← word? "mut"
  if b.isEmpty && r.isEmpty && m.isEmpty then
    let f ← member
    if (← peekOp ":") || !isNamed f then
      let c ← op ":"
      return .phrase .fieldPat (attributes ++ [f, c, ← patterns g])
    else return .phrase .fieldPat (attributes ++ [.phrase .identPat [f]])
  else
    let i ← name
    let rest ← ahead
    let p := if b.isEmpty then .phrase .identPat (r ++ m ++ [.ident i]) else between start rest
    return .phrase .fieldPat (attributes ++ [p])

/-- The fields of a structure in a pattern; after two dots nothing more is read. -/
def fieldPatterns : Reader (List Node) :=
  repeatStep fun acc => do
    if ← atEnd then return (acc, false)
    else
      let attributes ← outerAttributeNodes g
      if ← peekOp ".." then return (acc ++ [.phrase .restPat (attributes ++ [← op ".."])], false)
      else
        let f ← fieldPattern g attributes
        if ← atEnd then return (acc ++ [f], false)
        else return (acc ++ [f, ← op ","], true)

/-- A pattern that begins with a path. -/
def pathPattern : Reader Node := do
  let p ← qualifiedPath g true
  if isPlainPath p && (← peekOp "!") && !(← peekOp "!=") then
    let bang ← op "!"
    let (d, ts) ← delimited
    return .phrase .macroCall [p, bang, .group d [.raw ts]]
  else if ← peek (.group .brace) then
    return .phrase .structPat [p, .group .brace (← inGroup .brace (fieldPatterns g))]
  else if ← peek (.group .paren) then
    let elements ← inGroup .paren (nodesUntil "," atEnd (patterns g))
    return .phrase .tupleStructPat [p, .group .paren elements]
  else if ← peekOp ".." then rangeFrom g [.phrase .pathExpr [p]]
  else return .phrase .pathPat [p]

/-- An element of a slice in a pattern. -/
def sliceElement : Reader Node := do
  let p ← patterns g
  if isOpenRange p then
    forbid "range pattern is not allowed unparenthesized inside slice pattern"
  else return p

/-- A name as a pattern. -/
def identPattern : Reader Node := do
  let r ← word? "ref"
  let m ← word? "mut"
  let i ← if ← peekWord "self" then anyWord else name
  if ← peekOp "@" then
    let a ← op "@"
    return .phrase .identPat (r ++ m ++ [.ident i, a, ← g.pattern])
  else return .phrase .identPat (r ++ m ++ [.ident i])

/-- What a pattern may begin with, in the order in which errors list it. -/
def patternStarts : List Ahead :=
  [.name, .op "::", .op "<", .word "_", .literal, .word "const", .word "ref", .word "mut", .op "&",
    .group .paren, .group .bracket, .op "..", .word "const"]

/-- A pattern without alternatives at the top. -/
def singlePattern : Reader Node := do
  let afterName :=
    (← peek2 (.op "::")) || (← peek2 (.op "!")) || (← peek2 (.group .brace)) ||
      (← peek2 (.group .paren)) || (← peek2 (.op ".."))
  if ((← peek .name) && afterName) || ((← peekWord "self") && (← peek2 (.op "::"))) ||
      (← peekAny [.op "::", .op "<", .word "Self", .word "super", .word "crate"]) then
    pathPattern g
  else if ← peekWord "_" then return .phrase .wildPat [← word "_"]
  else if ← peekWord "box" then
    let start ← ahead
    let _ ← word "box"
    let _ ← g.pattern
    keptSince start
  else if ← peekAny [.op "-", .literal, .word "const"] then
    let start ← rangeBound g
    if ← peekOp ".." then rangeFrom g start
    else
      match start with
      | [.phrase .constBlock ps] => return .phrase .constBlock ps
      | start => return .phrase .literalPat start
  else if ← peekAny [.word "ref", .word "mut", .word "self", .name] then identPattern g
  else if ← peekOp "&" then
    let a ← op "&"
    let m ← word? "mut"
    return .phrase .refPat (a :: m ++ [← g.pattern])
  else if ← peek (.group .paren) then
    let (es, trailing) ← inGroup .paren (separatedUntil "," atEnd (patterns g))
    match es, trailing with
    | [e], false =>
      if e.isKind .restPat then return .phrase .tuplePat [.group .paren [e]]
      else return .phrase .parenPat [.group .paren [e]]
    | es, trailing => return .phrase .tuplePat [.group .paren (separated "," trailing es)]
  else if ← peek (.group .bracket) then
    let es ← inGroup .bracket (nodesUntil "," atEnd (sliceElement g))
    return .phrase .slicePat [.group .bracket es]
  else if (← peekOp "..") && !(← peekOp "...") then rangeFrom g []
  else refuseAll patternStarts

end

end RestLoom.Source
