import RestLoom.Source.Grammar
import RestLoom.Layout.Items
import RestLoom.Text.Lines

/-!
# Emit/Builder — text that is built line by line

    block "impl A" [line "x();"]  ──▸  impl A {
                                           x();
                                       }

A piece of text is written at a depth, which indents every line of it that is not blank.  Braces are
written by blocks only, so each that opens is closed at the same depth.
-/

namespace RestLoom.Emit

open RestLoom.Text
open RestLoom.Source

/-- A line without its end. -/
abbrev Line := List Char

/-- A piece of text. -/
inductive Piece where
  | line (text : String)
  | blank
  | comment (text : String)
  /-- A header with an opening brace, pieces one level deeper, and a closing brace. -/
  | block (header : String) (body : List Piece)
  /-- Items, laid out; or why there are none. -/
  | items (tokens : Except ReadError (List Token))
  /-- Writes nothing and tells the depth. -/
  | tellDepth

/-- Why items cannot be laid out. -/
inductive BuildFault where
  /-- They do not form a file. -/
  | invalid (e : ReadError)
  /-- They hold a phrase that has no layout. -/
  | noLayout

namespace Piece

/-- A function, from its head, its parameters and its return type. -/
def function (head params : String) (returns : Option String) (body : List Piece) : Piece :=
  match returns with
  | some t => block (head ++ "(" ++ params ++ ") -> " ++ t) body
  | none => block (head ++ "(" ++ params ++ ")") body

/-- An implementation of a type, possibly of a trait for it. -/
def implementation (type : String) (implemented : Option String) (body : List Piece) : Piece :=
  match implemented with
  | some t => block ("impl " ++ t ++ " for " ++ type) body
  | none => block ("impl " ++ type) body

/-- What one level of depth puts before a line. -/
def level : Line := [' ', ' ', ' ', ' ']

/-- A line at a depth; a blank one stays empty. -/
def indented (depth : Nat) (l : Line) : Line :=
  if allBlank l then [] else (List.replicate depth level).flatten ++ l

/-- The lines of a text at a depth; an empty text is one empty line. -/
def textLines (depth : Nat) (text : List Char) : List Line :=
  if text = [] then [[]] else (lines text).map (indented depth)

/-- The lines of a comment. -/
def commentLines (depth : Nat) (text : List Char) : List Line :=
  (lines text).flatMap fun l =>
    textLines depth (if l = [] then ['/', '/'] else ['/', '/', ' '] ++ l)

/-- The opening line of a block. -/
def opener (header : String) : List Char :=
  if header = "" then ['{'] else header.toList ++ [' ', '{']

/-- The lines of items at a depth, laid out. -/
def itemLines (depth : Nat) (tokens : Except ReadError (List Token)) :
    Except BuildFault (List Line) := do
  let f ← (tokens.bind File.ofTokens).mapError .invalid
  match Layout.ofFile f with
  | some text => return textLines depth (dropEndWhile isBlank text.toList)
  | none => throw .noLayout

mutual

/-- The lines of a piece at a depth; items that cannot be laid out have none. -/
def linesAt (depth : Nat) : Piece → List Line
  | line text => textLines depth text.toList
  | blank => [[]]
  | comment text => commentLines depth text.toList
  | block header body =>
    textLines depth (opener header) ++ linesAllAt (depth + 1) body ++ textLines depth ['}']
  | items tokens => (itemLines depth tokens).toOption.getD []
  | tellDepth => []

/-- The lines of pieces in order. -/
def linesAllAt (depth : Nat) : List Piece → List Line
  | [] => []
  | p :: ps => linesAt depth p ++ linesAllAt depth ps

end

/-- What a piece reports while it is written. -/
inductive Report where
  | depth (n : Nat)
  | failure (e : BuildFault)

mutual

/-- The reports of a piece at a depth. -/
def reportsAt (depth : Nat) : Piece → List Report
  | block _ body => reportsAllAt (depth + 1) body
  | items tokens =>
    match itemLines depth tokens with
    | .ok _ => []
    | .error e => [.failure e]
  | tellDepth => [.depth depth]
  | _ => []

/-- The reports of pieces in order. -/
def reportsAllAt (depth : Nat) : List Piece → List Report
  | [] => []
  | p :: ps => reportsAt depth p ++ reportsAllAt depth ps

end

end Piece

/-- The text of lines, each with its end. -/
def textOfLines (ls : List Line) : String := String.ofList (ls.flatMap fun l => l ++ ['\n'])

/-- The text of pieces; the first failure is the error. -/
def buildText (ps : List Piece) : Except BuildFault String :=
  match (Piece.reportsAllAt 0 ps).findSome? fun
    | .failure e => some e
    | .depth _ => none with
  | some e => .error e
  | none => .ok (textOfLines (Piece.linesAllAt 0 ps))

end RestLoom.Emit
