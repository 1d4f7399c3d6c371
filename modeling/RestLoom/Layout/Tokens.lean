import RestLoom.Layout.Doc
import RestLoom.Source.Node

/-!
# Layout/Tokens — layout of tokens whose phrases are unknown

The arguments of attributes and of macros are tokens without phrases.  Where blanks go is decided
from one token to the next by what the tokens look like.
-/

namespace RestLoom.Layout

open RestLoom.Source (Node)
open RestLoom.Token (Ident Delimiter Spacing)
open Doc

/-- The opening character of a delimiter, as text. -/
def openWord (d : Delimiter) : Doc := word (String.singleton d.opening)

/-- The closing character of a delimiter, as text. -/
def closeWord (d : Delimiter) : Doc := word (String.singleton d.closing)

/-! ## Arguments of attributes -/

/-- What came before a token in the arguments of an attribute. -/
inductive ArgumentState where
  | word
  | punct
  | trailingComma
  deriving DecidableEq

mutual

/-- One token tree in the arguments of an attribute: its layout and what it is for the next one.
At the top a blank never ends a line. -/
def attributeToken (top isLast : Bool) (state : ArgumentState) : Token → Doc × ArgumentState
  | .ident i =>
    ((if state = .word then (if top then blank else space) else []) ++ word i.text, .word)
  | .literal t =>
    ((if state = .word then (if top then blank else space) else []) ++ word t, .word)
  | .punct c _ =>
    let before := if state = .word && c == '=' then blank else []
    if c == ',' && isLast then (before ++ comma true, .trailingComma)
    else
      let after := if c == '=' then blank else if c == ',' then (if top then blank else space)
        else []
      (before ++ word (String.singleton c) ++ after, .punct)
  | .group .paren inner =>
    let (doc, state) := attributeTokens false .punct inner
    (word "(" ++ openAll indent ++ zeroBreak ++ doc ++
      (if state = .trailingComma then [] else zeroBreak) ++ shift (-indent) ++ close ++ word ")",
      .punct)
  | .group d inner => (openWord d ++ (attributeTokens false .punct inner).1 ++ closeWord d, .punct)

/-- The tokens in the arguments of an attribute. -/
def attributeTokens (top : Bool) (state : ArgumentState) : List Token → Doc × ArgumentState
  | [] => ([], state)
  | [t] => attributeToken top true state t
  | t :: u :: ts =>
    let (doc, state) := attributeToken top false state t
    let (rest, state) := attributeTokens top state (u :: ts)
    (doc ++ rest, state)

end

/-! ## Arguments of macros -/

/-- What the tokens so far look like. -/
inductive MacroState where
  | start
  | dollar
  | dollarIdent
  | dollarIdentColon
  | dollarParen
  | dollarParenSep
  | pound
  | poundBang
  | dot
  | colon
  | colon2
  | ident
  | identBang
  | delim
  | other
  deriving DecidableEq

/-- Keywords that a blank precedes. -/
def spacedKeywords : List String :=
  ["as", "async", "await", "box", "break", "const", "continue", "crate", "dyn", "else", "enum",
    "extern", "fn", "for", "if", "impl", "in", "let", "loop", "macro", "match", "mod", "move",
    "mut", "pub", "ref", "return", "static", "struct", "super", "trait", "type", "unsafe", "use",
    "where", "while", "yield"]

/-- The state after a token when the state alone decides that no blank precedes it; in a `matcher`
a dollar sign may bind a name. -/
def attachedState (isPattern : Bool) (state : MacroState) (t : Token) : Option MacroState :=
  match state, t with
  | .dollar, .ident _ => some (if isPattern then .dollarIdent else .other)
  | .dollarIdent, .punct ':' .alone => some .dollarIdentColon
  | .dollarIdentColon, .ident _ => some .other
  | .dollarParen, .punct '+' .alone => some .other
  | .dollarParen, .punct '*' .alone => some .other
  | .dollarParen, .punct '?' .alone => some .other
  | .dollarParen, .ident _ => some .dollarParenSep
  | .dollarParen, .literal _ => some .dollarParenSep
  | .dollarParen, .punct _ .joint => some .dollarParen
  | .dollarParen, .punct _ .alone => some .dollarParenSep
  | .dollarParenSep, .punct '+' _ => some .other
  | .dollarParenSep, .punct '*' _ => some .other
  | .pound, .punct '!' _ => some .poundBang
  | .dollar, .group .paren _ => some .dollarParen
  | .pound, .group .bracket _ => some .other
  | .poundBang, .group .bracket _ => some .other
  | .ident, .group .paren _ => some .delim
  | .ident, .group .bracket _ => some .delim
  | .ident, .punct '!' .alone => some .identBang
  | .identBang, .group .paren _ => some .other
  | .identBang, .group .bracket _ => some .other
  | .colon, .punct ':' _ => some .colon2
  | _, _ => none

/-- Whether a blank precedes a token, and the state after it. -/
def macroStep (isPattern : Bool) (state : MacroState) (t : Token) : Bool × MacroState :=
  match attachedState isPattern state t with
  | some next => (false, next)
  | none =>
    match t with
    | .group .brace _ => (true, .other)
    | .group _ _ => (true, .delim)
    | .ident i =>
      if spacedKeywords.contains i.text then (true, .other)
      else (state ≠ .dot && state ≠ .colon2, .ident)
    | .literal _ => (state ≠ .dot, .ident)
    | .punct c s =>
      if c == ',' || c == ';' then (false, .other)
      else if c == '.' && !isPattern then (state ≠ .ident && state ≠ .delim, .dot)
      else if c == ':' && s = .joint then (state ≠ .ident, .colon)
      else if c == '$' then (true, .dollar)
      else if c == '#' then (true, .pound)
      else (true, .other)

/-- Whether no blank follows a token. -/
def holdsNext : Token → Bool
  | .punct c s => s = .joint || c == '$'
  | _ => false

mutual

/-- One token tree in the arguments of a macro. -/
def macroToken (isPattern : Bool) : Token → Doc
  | .ident i => word i.text
  | .literal t => word t
  | .punct c _ => word (String.singleton c)
  | .group .brace [] => word "\x7b" ++ word "\x7d"
  | .group .brace (t :: ts) =>
    word "\x7b" ++ space ++ macroTokens isPattern .start true (t :: ts) ++ space ++ word "\x7d"
  | .group d inner => openWord d ++ macroTokens isPattern .start true inner ++ closeWord d

/-- The tokens in the arguments of a macro, given the state before them and whether the token
before them holds the next one. -/
def macroTokens (isPattern : Bool) (state : MacroState) (held : Bool) : List Token → Doc
  | [] => []
  | t :: ts =>
    let (spaced, next) := macroStep isPattern state t
    let isDot := match t with
      | .punct c _ => c == '.'
      | _ => false
    let before : Doc :=
      if held then [] else if spaced then space else if isDot then zeroBreak else []
    before ++ macroToken isPattern t ++ macroTokens isPattern next (holdsNext t) ts

end

/-- Tokens between delimiters, with line ends of their own kind inside. -/
def boxedTokens (isPattern : Bool) (edge : Doc) (inner : List Token) : Doc :=
  if inner.isEmpty then []
  else openAll indent ++ edge ++ openSome 0 ++ macroTokens isPattern .start true inner ++ close ++
    edge ++ shift (-indent) ++ close

/-! ## Definitions of macros -/

/-- Where in a list of rules a token stands. -/
inductive RuleState where
  | start
  | pattern
  | equal
  | greater
  | expansion

/-- The rules of a macro. -/
def ruleTokens : RuleState → List Token → Doc
  | .start, [] => []
  | .expansion, [] => word ";" ++ hardBreak
  | _, [] => hardBreak
  | .start, .group d inner :: ts =>
    openWord d ++ boxedTokens true zeroBreak inner ++ closeWord d ++ ruleTokens .pattern ts
  | .pattern, .punct '=' .joint :: ts => word " =" ++ ruleTokens .equal ts
  | .equal, .punct '>' .alone :: ts => word ">" ++ ruleTokens .greater ts
  | .greater, .group _ inner :: ts =>
    word " \x7b" ++ neverBreak ++ boxedTokens false hardBreak inner ++ word "\x7d" ++
      ruleTokens .expansion ts
  | .expansion, .punct ';' .alone :: ts => word ";" ++ hardBreak ++ ruleTokens .start ts
  | state, t :: ts => macroToken false t ++ ruleTokens state ts

/-- The definition of a macro by rules. -/
def macroDefinition (name : Ident) (rules : List Token) : Doc :=
  word "macro_rules! " ++ word name.text ++ word " \x7b" ++ openAll indent ++ hardBreakIfNonempty ++
    ruleTokens .start rules ++ shift (-indent) ++ close ++ word "\x7d"

end RestLoom.Layout
