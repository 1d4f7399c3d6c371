import RestLoom.Source.Reader

/-!
# Source/Grammar/Attribute — plain paths and attributes

    #[a::b(c)]  ──▸  path a::b, list paren [c]

A plain path has no arguments.  An attribute is a plain path, alone, before a delimited list of
tokens, or before an equals sign and an expression.
-/

namespace RestLoom.Source

open RestLoom.Token (Ident Delimiter)

/-- A segment without arguments. -/
def bareSegment (i : Ident) : Node := .phrase .segment [.ident i]

/-- The words that may begin a segment of a plain path. -/
def segmentStarts : List Ahead := [.name, .word "super", .word "self", .word "Self", .word "crate"]

/-- A path whose segments have no arguments. -/
def plainPath : Reader Node := do
  let front ← op? "::"
  let (segments, trailing) ← separatedWhile "::" (return !(← peekAny segmentStarts)) do
    return bareSegment (← anyWord)
  if segments.isEmpty then
    let i ← name
    return bareSegment i
  else if trailing then refuseFor "expected path segment after \x60::\x60"
  else return .phrase .path (front ++ separated "::" false segments)

/-- The path of a single name. -/
def identPath (i : Ident) : Node := .phrase .path [bareSegment i]

/-- A group with its tokens as they are. -/
def delimited : Reader (Delimiter × List Token) := do
  match ← ahead with
  | .group d ts :: rest =>
    advanceTo rest
    return (d, ts)
  | _ => refuseFor "expected delimiter"

section
variable (g : Grammar)

/-- The value after the equals sign of an attribute. -/
def attributeValue : Reader Node := do
  let lone ← attempt do
    let l ← literal
    if ← atEnd then return l else refuse []
  match lone with
  | some l => return l
  | none =>
    if (← peekOp "#") && (← peek2 (.group .bracket)) then
      refuseFor "unexpected attribute inside of attribute"
    else g.expr

/-- What stands between the brackets of an attribute. -/
def attributeInside (inner : Bool) : Reader Attribute := do
  let path ←
    if ← peekWord "unsafe" then pure (identPath (← anyWord)) else plainPath
  if ← peekAny [.group .paren, .group .bracket, .group .brace] then
    let (d, ts) ← delimited
    return ⟨inner, path, .list d ts⟩
  else if (← peekOp "=") && !(← peekOp "==") && !(← peekOp "=>") then
    let _ ← op "="
    return ⟨inner, path, .value (← attributeValue g)⟩
  else return ⟨inner, path, .absent⟩

/-- An attribute before what it belongs to. -/
def outerAttribute : Reader Attribute := do
  let _ ← op "#"
  inGroup .bracket (attributeInside g false)

/-- The attributes before what they belong to. -/
def outerAttributes : Reader (List Attribute) :=
  repeatStep fun acc => do
    if ← peekOp "#" then return (acc ++ [← outerAttribute g], true) else return (acc, false)

/-- The attributes at the start of what they belong to. -/
def innerAttributes : Reader (List Attribute) :=
  repeatStep fun acc => do
    if (← peekOp "#") && (← peek2 (.op "!")) then
      let _ ← op "#"
      let _ ← op "!"
      return (acc ++ [← inGroup .bracket (attributeInside g true)], true)
    else return (acc, false)

/-- The trees of the attributes before what they belong to. -/
def outerAttributeNodes : Reader (List Node) := do
  return (← outerAttributes g).map Attribute.toNode

end

end RestLoom.Source
