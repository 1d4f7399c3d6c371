/-!
# Token/Basic — token trees and their text

    #[get("/a")] fn f();  ──▸  # [get ("/a")] fn f () ;

A source text is a sequence of token trees: names, literals, operator characters, and groups between
delimiters.  An operator character is *joint* when it may form one operator with the next one.
`Token.render` is the text of a sequence: tokens stand apart by one blank, which only a joint
character omits.
-/

namespace RestLoom.Token

/-- A name; a raw one is written after `r#` and may spell a keyword. -/
structure Ident where
  raw : Bool
  name : String
  deriving DecidableEq, Inhabited

namespace Ident

/-- The plain name with a spelling. -/
def plain (name : String) : Ident := ⟨false, name⟩

/-- A name as it is written. -/
def text (i : Ident) : String := if i.raw then "r#" ++ i.name else i.name

/-- Whether a name is written exactly so. -/
def is (i : Ident) (text : String) : Bool := i.text == text

end Ident

/-- The pairs of delimiters. -/
inductive Delimiter where
  | paren
  | bracket
  | brace
  deriving DecidableEq, Inhabited

namespace Delimiter

/-- The opening character. -/
def opening : Delimiter → Char
  | paren => '('
  | bracket => '['
  | brace => '{'

/-- The closing character. -/
def closing : Delimiter → Char
  | paren => ')'
  | bracket => ']'
  | brace => '}'

/-- The delimiter that a character opens. -/
def ofOpening? (c : Char) : Option Delimiter :=
  if c = '(' then some paren else if c = '[' then some bracket
  else if c = '{' then some brace else none

/-- The delimiter that a character closes. -/
def ofClosing? (c : Char) : Option Delimiter :=
  if c = ')' then some paren else if c = ']' then some bracket
  else if c = '}' then some brace else none

end Delimiter

/-- Whether an operator character may join the next one. -/
inductive Spacing where
  | alone
  | joint
  deriving DecidableEq, Inhabited

end Token

/-- A token tree. -/
inductive Token where
  | ident (name : Token.Ident)
  | punct (c : Char) (spacing : Token.Spacing)
  | literal (text : String)
  | group (d : Token.Delimiter) (inner : List Token)
  deriving Inhabited

namespace Token

/-! ## Text -/

mutual

/-- The text of one token tree. -/
def render : Token → String
  | ident name => name.text
  | punct c _ => String.singleton c
  | literal text => text
  | group .paren inner => "(" ++ renderAll inner ++ ")"
  | group .bracket inner => "[" ++ renderAll inner ++ "]"
  | group .brace [] => "\x7b \x7d"
  | group .brace (t :: ts) => "\x7b " ++ renderAll (t :: ts) ++ " \x7d"

/-- The text of a sequence: a blank follows each token but a joint character and the last one. -/
def renderAll : List Token → String
  | [] => ""
  | [t] => render t
  | t :: u :: ts =>
    match t with
    | punct c .joint => String.singleton c ++ renderAll (u :: ts)
    | t => render t ++ " " ++ renderAll (u :: ts)

end

/-! ## Operators

The operators of the language, and the spacing that spells one: all its characters but the last are
joint. -/

/-- The operators with more than one character, longer ones first. -/
def operators : List String :=
  ["<<=", ">>=", "...", "..=", "::", "->", "=>", "==", "!=", "<=", ">=", "&&", "||", "<<", ">>",
    "+=", "-=", "*=", "/=", "%=", "^=", "&=", "|=", ".."]

/-- The tokens of an operator. -/
def ofOperator (text : String) : List Token :=
  go text.toList
where
  /-- The tokens of the characters of an operator. -/
  go : List Char → List Token
    | [] => []
    | [c] => [.punct c .alone]
    | c :: cs => .punct c .joint :: go cs

/-- The tokens of a lifetime. -/
def ofLifetime (name : Ident) : List Token := [.punct '\x27' .joint, .ident name]

/-- Whether the sequence starts with the characters, all but the last of them joint. -/
def startsWithPunct : List Char → List Token → Bool
  | [], _ => true
  | [c], .punct d _ :: _ => c == d
  | c :: cs, .punct d s :: ts => c == d && s == .joint && startsWithPunct cs ts
  | _, _ => false

/-- The operator at the start of a sequence, the longest one first. -/
def operatorAt (ts : List Token) : Option String :=
  operators.find? fun o => startsWithPunct o.toList ts

mutual

/-- Gives one tree the spacing of whole operators. -/
def respace : Token → Token
  | group d inner => group d (respaceAll 0 inner)
  | t => t

/-- Gives operator characters the spacing of whole operators, when `inside` more characters of an
operator come first: the last character of an operator is alone. -/
def respaceAll : Nat → List Token → List Token
  | _, [] => []
  | 0, t :: ts =>
    match t with
    | punct '\x27' s => punct '\x27' s :: respaceAll 0 ts
    | punct c s =>
      match operatorAt (punct c s :: ts) with
      | some o => punct c .joint :: respaceAll (o.length - 1) ts
      | none => punct c .alone :: respaceAll 0 ts
    | t => respace t :: respaceAll 0 ts
  | inside + 1, t :: ts =>
    match t with
    | punct c _ => punct c (if inside = 0 then .alone else .joint) :: respaceAll inside ts
    | t => respace t :: respaceAll 0 ts

end

end Token

end RestLoom
