import RestLoom.Text.Lines

/-!
# FileTree/Location — the texts that name files

    /out/./gen/a.rs ──components──▸ root, out, gen, a.rs

A location is text; slashes divide it into components.  Empty parts and single dots are no
components, except that a location may begin with a dot.  Taking the parent or changing the
extension keeps the text of the components that stay.
-/

namespace RestLoom.FileTree

open RestLoom.Text

/-- A location: the text of a path. -/
structure Location where
  text : List Char
  deriving DecidableEq

namespace Location

/-- The location with the given text. -/
def ofString (s : String) : Location := ⟨s.toList⟩

/-- The text of a location. -/
def toString (l : Location) : String := String.ofList l.text

/-- Whether the location starts at the root. -/
def isAbsolute (l : Location) : Bool := l.text.head? == some '/'

/-- What slashes divide the text into, last part first; the slash of the root is left out. -/
def partsReversed (l : Location) : List (List Char) :=
  (splitAt (· == '/') (if l.isAbsolute then l.text.drop 1 else l.text)).reverse

/-- Drops the parts at the end that are no components. -/
def trimmed (absolute : Bool) : List (List Char) → List (List Char)
  | [] => []
  | p :: ps =>
    if p = [] ∨ (p = ['.'] ∧ (absolute ∨ ps ≠ [])) then trimmed absolute ps else p :: ps

/-- The location of parts, last part first. -/
def ofPartsReversed (absolute : Bool) (ps : List (List Char)) : Location :=
  ⟨(if absolute then ['/'] else []) ++ join ['/'] ps.reverse⟩

/-- The location without its last component. -/
def parent? (l : Location) : Option Location :=
  match trimmed l.isAbsolute l.partsReversed with
  | [] => none
  | _ :: ps => some (ofPartsReversed l.isAbsolute (trimmed l.isAbsolute ps))

/-- The name of the file, which is the last component unless that is made of dots. -/
def fileName? (l : Location) : Option (List Char) :=
  match trimmed l.isAbsolute l.partsReversed with
  | [] => none
  | p :: _ => if p = ['.'] ∨ p = ['.', '.'] then none else some p

/-- The name of a file before its last dot; a dot at the start does not count. -/
def stemOf (name : List Char) : List Char :=
  match name.reverse.dropWhile (· != '.') with
  | _ :: before => if before = [] then name else before.reverse
  | [] => name

/-- The location whose file has another extension, if it names a file. -/
def withExtension (extension : List Char) (l : Location) : Location :=
  match l.fileName? with
  | none => l
  | some name =>
    ofPartsReversed l.isAbsolute
      ((stemOf name ++ '.' :: extension) :: (trimmed l.isAbsolute l.partsReversed).drop 1)

/-- A location inside another one, unless it starts at the root. -/
def inside (l inner : Location) : Location :=
  if inner.isAbsolute then inner
  else if l.text = [] ∨ l.text.getLast? = some '/' then ⟨l.text ++ inner.text⟩
  else ⟨l.text ++ '/' :: inner.text⟩

end Location

end RestLoom.FileTree
