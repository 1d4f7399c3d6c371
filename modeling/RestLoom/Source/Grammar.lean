import RestLoom.Source.Grammar.Item
import RestLoom.Token.Lexer

/-!
# Source/Grammar — reading files and declarations

The productions refer to each other; `grammar n` lets them nest `n` levels deep.  Reading whole
tokens takes as many levels as there are tokens, with room to spare, so that the bound never shows.
-/

namespace RestLoom.Source

open RestLoom.Token (Ident Delimiter)

/-- The productions, nested at most so many levels deep. -/
def grammar : Nat → Grammar
  | 0 =>
    { type := fun _ => refuse []
      operand := fun _ => refuse []
      operations := fun _ _ _ => refuse []
      pattern := refuse []
      statements := refuse []
      ownStatements := refuse []
      item := refuse [] }
  | n + 1 =>
    let g := grammar n
    { type := typeWith g
      operand := operandOf g
      operations := operationsOf g
      pattern := singlePattern g
      statements := statementsOf g
      ownStatements := ownStatementsOf g
      item := itemOf g }

/-- The productions with room for so many tokens. -/
def grammarFor (ts : List Token) : Grammar := grammar (4 * tokenCountAll ts + 32)

/-- The items of a file. -/
def fileInside (g : Grammar) : Reader File := do
  let attributes ← innerAttributes g
  let items ← untilEnd g.item
  return ⟨none, attributes, items⟩

/-- The file that tokens are. -/
def File.ofTokens (ts : List Token) : Except ReadError File :=
  readAll (fileInside (grammarFor ts)) ts

/-- The trait that tokens are. -/
def TraitDecl.ofTokens (ts : List Token) : Except ReadError TraitDecl :=
  readAll (traitDecl (grammarFor ts)) ts

/-- The attributes that tokens are. -/
def Attribute.listOfTokens (ts : List Token) : Except ReadError (List Attribute) :=
  readAll (outerAttributes (grammarFor ts)) ts

/-- Tokens of a text. -/
def tokensOfText (text : String) : Except ReadError (List Token) :=
  match Token.lex? text with
  | some ts => .ok ts
  | none => .error .notTokens

/-- Drops the blanks and comments at the start. -/
def skipToCode (cs : List Char) : List Char := Token.skip cs

/-- A first line that names an interpreter, and the text from its end. -/
def interpreterLine (cs : List Char) : Option (List Char) × List Char :=
  match cs with
  | '#' :: '!' :: rest =>
    if (skipToCode rest).head? = some '[' then (none, cs)
    else (some (cs.takeWhile (· != '\n')), cs.dropWhile (· != '\n'))
  | cs => (none, cs)

/-- The file that a text is. -/
def File.ofText (text : String) : Except ReadError File := do
  let (interpreter, rest) := interpreterLine (Token.dropByteOrderMark text.toList)
  let ts ← tokensOfText (String.ofList rest)
  let file ← File.ofTokens ts
  return { file with interpreter := interpreter.map String.ofList }

end RestLoom.Source
