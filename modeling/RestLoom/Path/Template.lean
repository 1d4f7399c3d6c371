import RestLoom.Text.Lines

/-!
# Path/Template — paths with named places

    "/a/{id}/b" ──parse──▸ [literal "/a/", placeholder "id", literal "/b"]

A place is a name between braces that holds no brace and is not empty.  Every other character is
literal, braces included.  `render` writes segments back; `fill` writes values at the places, and
`formatText` writes the format in which each place is an empty pair of braces and a literal brace
stands twice.
-/

namespace RestLoom.Path

/-- One piece of a template. -/
inductive Segment where
  | literal (text : List Char)
  | placeholder (name : List Char)
  deriving DecidableEq

namespace Segment

/-- The text of a piece as it stands in the template. -/
def render : Segment → List Char
  | literal text => text
  | placeholder name => '{' :: name ++ ['}']

/-- A literal piece, unless it is empty. -/
def ofLiteral : List Char → List Segment
  | [] => []
  | text => [literal text]

/-- The pieces of a text, after the literal characters `before` and, when a brace is open, after
that brace and the characters `name` since.  The brace was literal if another one opens, if it
closes at once or if the text ends. -/
def scan (before : List Char) : Option (List Char) → List Char → List Segment
  | none, [] => ofLiteral before
  | some name, [] => ofLiteral (before ++ '{' :: name)
  | none, c :: cs =>
    if c = '{' then scan before (some []) cs else scan (before ++ [c]) none cs
  | some name, c :: cs =>
    if c = '}' then
      if name = [] then scan (before ++ ['{', '}']) none cs
      else ofLiteral before ++ placeholder name :: scan [] none cs
    else if c = '{' then scan (before ++ '{' :: name) (some []) cs
    else scan before (some (name ++ [c])) cs

/-- The pieces of a text. -/
def ofText (text : List Char) : List Segment := scan [] none text

end Segment

/-- A template: its text and the pieces read from it. -/
structure Template where
  text : List Char

namespace Template

/-- The template with the given text. -/
def ofString (s : String) : Template := ⟨s.toList⟩

/-- The text as it was declared. -/
def toString (t : Template) : String := String.ofList t.text

/-- The pieces in order. -/
def segments (t : Template) : List Segment := Segment.ofText t.text

/-- The names of the places in order, repetitions included. -/
def placeholders (t : Template) : List (List Char) :=
  t.segments.filterMap fun
    | .placeholder name => some name
    | .literal _ => none

/-- Whether the template has a place of that name. -/
def hasPlaceholder (t : Template) (name : List Char) : Bool := t.placeholders.contains name

/-- Doubles every brace. -/
def escapeBraces (text : List Char) : List Char :=
  text.flatMap fun c => if c = '{' ∨ c = '}' then [c, c] else [c]

/-- The format of the template: braces of literals doubled, an empty pair for each place. -/
def formatText (t : Template) : List Char :=
  t.segments.flatMap fun
    | .literal text => escapeBraces text
    | .placeholder _ => ['{', '}']

/-- Writes a value at each place that has one; the other places stay as they are. -/
def fill (t : Template) (value : List Char → Option (List Char)) : List Char :=
  t.segments.flatMap fun
    | .literal text => text
    | .placeholder name => (value name).getD (Segment.placeholder name).render

end Template

end RestLoom.Path
