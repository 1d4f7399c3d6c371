/-!
# Layout/Doc — documents to be laid out

    open 4 · "f(" · break 0 · "x" · break 0 , · shift -4 · close · ")"

A document is text with breaks in nested boxes.  A box that fits on its line keeps all its breaks as
blanks; one that does not turns its breaks into line ends, all of them if it is consistent, else
only those after which the text up to the next break would not fit.
-/

namespace RestLoom.Layout

/-- The indentation of one level. -/
def indent : Int := 4

/-- A place where a line may end. -/
structure Break where
  /-- Indentation after the line end, relative to the box. -/
  offset : Int := 0
  /-- Blanks if the line does not end here. -/
  blanks : Nat := 0
  /-- Text before the line end. -/
  beforeEnd : Option Char := none
  /-- Text after the line end. -/
  afterEnd : String := ""
  /-- Text if the line does not end here. -/
  otherwise : Option Char := none
  /-- Dropped if nothing stands between it and the end of its box. -/
  ifNonempty : Bool := false
  /-- The line never ends here. -/
  never : Bool := false
  deriving Inhabited

/-- One command of a document. -/
inductive Command where
  | text (s : String)
  | line (b : Break)
  | openBox (offset : Int) (consistent : Bool)
  | closeBox
  /-- Closes a box, which does not fit if its text is longer. -/
  | closeWithin (max : Nat)
  /-- Changes the offset of the break just written. -/
  | shift (offset : Int)
  deriving Inhabited

/-- A document. -/
abbrev Doc := List Command

/-- A width that fits nowhere. -/
def tooWide : Nat := 0xffff

namespace Doc

/-- Text. -/
def word (s : String) : Doc := [.text s]

/-- Opens a box all of whose breaks end lines or none. -/
def openAll (offset : Int) : Doc := [.openBox offset true]

/-- Opens a box each of whose breaks ends a line only if it has to. -/
def openSome (offset : Int) : Doc := [.openBox offset false]

/-- Closes a box. -/
def close : Doc := [.closeBox]

/-- Changes the offset of the break just written. -/
def shift (offset : Int) : Doc := [.shift offset]

/-- A blank that may end a line. -/
def space : Doc := [.line { blanks := 1 }]

/-- Nothing that may end a line. -/
def zeroBreak : Doc := [.line {}]

/-- A blank. -/
def blank : Doc := [.text " "]

/-- A line end. -/
def hardBreak : Doc := [.line { blanks := tooWide }]

/-- A line end unless the box ends here. -/
def hardBreakIfNonempty : Doc := [.line { blanks := tooWide, ifNonempty := true }]

/-- A blank that may end a line, unless the box ends here. -/
def spaceIfNonempty : Doc := [.line { blanks := 1, ifNonempty := true }]

/-- A mark that no line ends here. -/
def neverBreak : Doc := [.line { never := true }]

/-- The comma after an element; after the last one it is written only if the line ends. -/
def comma (isLast : Bool) : Doc :=
  if isLast then [.line { beforeEnd := some ',' }] else word "," ++ space

/-- The comma after an element; after the last one there is a blank if the line goes on. -/
def commaOrSpace (isLast : Bool) : Doc :=
  if isLast then [.line { blanks := 1, beforeEnd := some ',' }] else word "," ++ space

/-- Each element with the word whether it is the last one. -/
def eachLast {α : Type} (f : α → Bool → Doc) : List α → Doc
  | [] => []
  | [a] => f a true
  | a :: as => f a false ++ eachLast f as

/-- Each element with the word whether it is the first one. -/
def eachFirst {α : Type} (f : α → Bool → Doc) : List α → Doc
  | [] => []
  | a :: as => f a true ++ as.flatMap fun b => f b false

end Doc

end RestLoom.Layout
