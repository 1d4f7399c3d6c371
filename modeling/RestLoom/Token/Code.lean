import RestLoom.Token.Lexer

/-!
# Token/Code — writing tokens

    code "let x = a::b;" ++ parens (code "1")

Fixed pieces of code are written as text; their operators get the spacing of whole operators.
-/

namespace RestLoom.Token

/-- The tokens of a fixed piece of code. -/
def code (text : String) : List Token := respaceAll 0 ((lex? text).getD [])

/-- Tokens between parentheses. -/
def parens (ts : List Token) : List Token := [.group .paren ts]

/-- Tokens between brackets. -/
def brackets (ts : List Token) : List Token := [.group .bracket ts]

/-- Tokens between braces. -/
def braces (ts : List Token) : List Token := [.group .brace ts]

/-- A string literal. -/
def stringOf (value : String) : List Token := [.literal (quote value)]

/-- A name. -/
def nameOf (i : Ident) : List Token := [.ident i]

/-- An attribute before a declaration. -/
def attributeOf (inside : List Token) : List Token := code "#" ++ brackets inside

/-- A documentation attribute whose text is written raw. -/
def rawDoc (text : String) : List Token :=
  attributeOf (code "doc =" ++ [.literal ("r\x22" ++ text ++ "\x22")])

end RestLoom.Token
