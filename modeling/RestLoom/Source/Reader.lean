import RestLoom.Source.Decl
import RestLoom.Token.Literal

/-!
# Source/Reader — reading phrases from tokens

A reader takes phrases from the front of a sequence of tokens.  What it may ask about the tokens
ahead, and in which words it refuses them, is fixed here: one wish is named, several are listed, and
an end of the tokens is said first.  A group that is not read to its end does not stop the reading;
it is noted, and the whole is refused when everything else is done.
-/

namespace RestLoom.Source

open RestLoom.Token (Ident Delimiter Spacing)

/-- Why tokens are not the phrase that was asked for. -/
inductive ReadError where
  /-- None of the choices stands here; `atEnd` if nothing does. -/
  | expected (atEnd : Bool) (choices : List String)
  /-- A keyword stands in place of a name. -/
  | foundKeyword (text : String)
  /-- Tokens are left over in a group or at the top. -/
  | leftover (inside : Option Delimiter)
  /-- A rule beyond the shape of the phrase is broken. -/
  | refused (reason : String)
  /-- The text is no token sequence. -/
  | notTokens
  deriving DecidableEq

namespace ReadError

/-- The choices in words. -/
def listChoices : List String → String
  | [a] => "expected " ++ a
  | [a, b] => "expected " ++ a ++ " or " ++ b
  | choices => "expected one of: " ++ ", ".intercalate choices

/-- The wording of an error. -/
def message : ReadError → String
  | expected true [] => "unexpected end of input"
  | expected false [] => "unexpected token"
  | expected true choices => "unexpected end of input, " ++ listChoices choices
  | expected false choices => listChoices choices
  | foundKeyword text => "expected identifier, found keyword \x60" ++ text ++ "\x60"
  | leftover none => "unexpected token"
  | leftover (some d) =>
    "unexpected token, expected \x60" ++ String.singleton d.closing ++ "\x60"
  | refused reason => reason
  | notTokens => "cannot parse string into token stream"

end ReadError

/-- The tokens ahead, the group they are in, and the first group that was not read to its end. -/
structure ReadState where
  ahead : List Token
  inside : Option Delimiter
  unread : Option (Option Delimiter)

/-- A reader of phrases. -/
abbrev Reader := StateT ReadState (Except ReadError)

/-- A word or an operator between marks, as errors name it. -/
def marked (text : String) : String := "\x60" ++ text ++ "\x60"

/-! ## Tokens ahead -/

/-- Keywords, which are no names. -/
def keywords : List String :=
  ["_", "abstract", "as", "async", "await", "become", "box", "break", "const", "continue", "crate",
    "do", "dyn", "else", "enum", "extern", "false", "final", "fn", "for", "if", "impl", "in", "let",
    "loop", "macro", "match", "mod", "move", "mut", "override", "priv", "pub", "ref", "return",
    "Self", "self", "static", "struct", "super", "trait", "true", "try", "type", "typeof", "unsafe",
    "unsized", "use", "virtual", "where", "while", "yield"]

/-- Whether a name is no keyword. -/
def isName (i : Ident) : Bool := i.raw || !keywords.contains i.name

/-- The tokens after the first one; a lifetime counts as one token. -/
def skipOne : List Token → List Token
  | .punct '\x27' .joint :: .ident _ :: ts => ts
  | _ :: ts => ts
  | [] => []

/-- What may stand at the front of tokens. -/
inductive Ahead where
  | name
  | anyWord
  | word (text : String)
  | op (text : String)
  | lifetime
  | literal
  | string
  | group (d : Delimiter)

namespace Ahead

/-- Whether a literal begins the tokens: a literal token, a truth value or a negative number. -/
def startsLiteral : List Token → Bool
  | .literal _ :: _ => true
  | .ident i :: _ => i.is "true" || i.is "false"
  | .punct '-' _ :: .literal t :: _ => Token.isNumber t
  | _ => false

/-- Whether the tokens begin with it. -/
def holds : Ahead → List Token → Bool
  | name, .ident i :: _ => isName i
  | anyWord, .ident _ :: _ => true
  | word text, .ident i :: _ => i.is text
  | op text, ts => Token.startsWithPunct text.toList ts
  | lifetime, .punct '\x27' .joint :: .ident _ :: _ => true
  | literal, ts => startsLiteral ts
  | string, .literal t :: _ => Token.isString t
  | group d, .group e _ :: _ => d == e
  | _, _ => false

/-- Its name in errors. -/
def describe : Ahead → String
  | name => "identifier"
  | anyWord => "identifier"
  | word text => marked text
  | op text => marked text
  | lifetime => "lifetime"
  | literal => "literal"
  | string => "string literal"
  | group .paren => "parentheses"
  | group .bracket => "square brackets"
  | group .brace => "curly braces"

end Ahead

/-- The tokens ahead. -/
def ahead : Reader (List Token) := return (← get).ahead

/-- Whether nothing is ahead. -/
def atEnd : Reader Bool := return (← ahead).isEmpty

/-- Whether the tokens begin with `a`. -/
def peek (a : Ahead) : Reader Bool := return a.holds (← ahead)

/-- Whether the tokens after the first one begin with `a`. -/
def peek2 (a : Ahead) : Reader Bool := return a.holds (skipOne (← ahead))

/-- Whether the tokens after the first two begin with `a`. -/
def peek3 (a : Ahead) : Reader Bool := return a.holds (skipOne (skipOne (← ahead)))

/-- Whether the tokens begin with one of them. -/
def peekAny (as : List Ahead) : Reader Bool := return as.any (·.holds (← ahead))

/-- Whether a keyword is ahead. -/
def peekWord (text : String) : Reader Bool := peek (.word text)

/-- Whether an operator is ahead. -/
def peekOp (text : String) : Reader Bool := peek (.op text)

/-! ## Refusing -/

/-- Refuses what is ahead, naming the choices. -/
def refuse {α : Type} (choices : List String) : Reader α := do
  throw (.expected (← atEnd) choices)

/-- Refuses what is ahead, naming the choices that were looked for.  A choice that is ahead, but not
in the right company, is not named. -/
def refuseAll {α : Type} (choices : List Ahead) : Reader α := do
  let ts ← ahead
  refuse ((choices.filter fun c => !c.holds ts).map Ahead.describe)

/-- Refuses what has been read. -/
def forbid {α : Type} (reason : String) : Reader α := throw (.refused reason)

/-- Refuses what is ahead with a reason of its own. -/
def refuseFor {α : Type} (reason : String) : Reader α := do
  if ← atEnd then throw (.refused ("unexpected end of input, " ++ reason))
  else throw (.refused reason)

/-! ## Taking -/

/-- Takes the tokens ahead down to `rest`. -/
def advanceTo (rest : List Token) : Reader Unit := modify fun s => { s with ahead := rest }

/-- Takes an operator; its absence is never blamed on the end of the tokens. -/
def op (text : String) : Reader Node := do
  let ts ← ahead
  if Token.startsWithPunct text.toList ts then
    advanceTo (ts.drop text.length)
    return .op text
  else throw (.expected false [marked text])

/-- Takes a keyword. -/
def word (text : String) : Reader Node := do
  match ← ahead with
  | .ident i :: rest =>
    if i.is text then
      advanceTo rest
      return .ident i
    else refuse [marked text]
  | _ => refuse [marked text]

/-- Takes an operator if it is ahead. -/
def op? (text : String) : Reader (List Node) := do
  if ← peekOp text then return [← op text] else return []

/-- Takes a keyword if it is ahead. -/
def word? (text : String) : Reader (List Node) := do
  if ← peekWord text then return [← word text] else return []

/-- Takes a name. -/
def name : Reader Ident := do
  match ← ahead with
  | .ident i :: rest =>
    if isName i then
      advanceTo rest
      return i
    else throw (.foundKeyword i.text)
  | _ => refuse ["identifier"]

/-- Takes a name or a keyword. -/
def anyWord : Reader Ident := do
  match ← ahead with
  | .ident i :: rest =>
    advanceTo rest
    return i
  | _ => refuse ["identifier"]

/-- Takes a lifetime. -/
def lifetime : Reader Ident := do
  match ← ahead with
  | .punct '\x27' .joint :: .ident i :: rest =>
    advanceTo rest
    return i
  | _ => refuse ["lifetime"]

/-- Takes a literal, a negative number as one. -/
def literal : Reader Node := do
  match ← ahead with
  | .literal t :: rest =>
    advanceTo rest
    return .literal t
  | .ident i :: rest =>
    if i.is "true" || i.is "false" then
      advanceTo rest
      return .ident i
    else refuse ["literal"]
  | .punct '-' _ :: .literal t :: rest =>
    if Token.isNumber t then
      advanceTo rest
      return .literal ("-" ++ t)
    else refuse ["literal"]
  | _ => refuse ["literal"]

/-- Takes a string literal. -/
def string : Reader String := do
  match ← ahead with
  | .literal t :: rest =>
    if Token.isString t then
      advanceTo rest
      return t
    else refuse ["string literal"]
  | _ => refuse ["string literal"]

/-- Reads the inside of a group; what is left in it is noted. -/
def inGroup {α : Type} (d : Delimiter) (inner : Reader α) : Reader α := do
  match ← ahead with
  | .group e content :: rest =>
    if d = e then
      let outer ← get
      set ({ outer with ahead := content, inside := some d } : ReadState)
      let result ← inner
      let s ← get
      let unread := s.unread.or (if s.ahead.isEmpty then none else some (some d))
      set ({ ahead := rest, inside := outer.inside, unread } : ReadState)
      return result
    else refuse [(Ahead.group d).describe]
  | _ => refuse [(Ahead.group d).describe]

/-- Reads and puts the tokens back. -/
def lookAhead {α : Type} (r : Reader α) : Reader (Option α) := do
  let s ← get
  match r.run s with
  | .ok (a, _) => return some a
  | .error _ => return none

/-- Reads, and puts the tokens back if that fails. -/
def attempt {α : Type} (r : Reader α) : Reader (Option α) := do
  let s ← get
  match r.run s with
  | .ok (a, s) =>
    set s
    return some a
  | .error _ => return none

/-- The tokens between two states, the later of which is a rest of the earlier. -/
def between (before after : List Token) : Node :=
  .phrase .verbatim [.raw (before.take (before.length - after.length))]

/-- The tokens read since `start`, kept as they are written. -/
def keptSince (start : List Token) : Reader Node := return between start (← ahead)

/-! ## Counting -/

mutual

/-- The number of tokens in a token tree. -/
def tokenCount : Token → Nat
  | .group _ inner => tokenCountAll inner + 1
  | _ => 1

/-- The number of tokens in token trees. -/
def tokenCountAll : List Token → Nat
  | [] => 0
  | t :: ts => tokenCount t + tokenCountAll ts

end

/-! ## Repeating -/

/-- Repeats a step that extends a list, as long as it asks for more and tokens are taken. -/
def repeatUpTo {α : Type} (step : List α → Reader (List α × Bool)) : Nat → List α → Reader (List α)
  | 0, acc => return acc
  | fuel + 1, acc => do
    let (acc, more) ← step acc
    if more then repeatUpTo step fuel acc else return acc

/-- Repeats a step that extends a list, as long as it asks for more. -/
def repeatStep {α : Type} (step : List α → Reader (List α × Bool)) : Reader (List α) := do
  repeatUpTo step ((← ahead).length + 1) []

/-- Reads until nothing is ahead. -/
def untilEnd {α : Type} (r : Reader α) : Reader (List α) :=
  repeatStep fun acc => do
    if ← atEnd then return (acc, false) else return (acc ++ [← r], true)

/-- Elements with separators between them, up to where `stop` holds, each with the word whether a
separator follows it. -/
def separatedMarked {α : Type} (separator : String) (stop : Reader Bool) (element : Reader α) :
    Reader (List (α × Bool)) :=
  repeatStep fun acc => do
    if ← stop then return (acc, false)
    else
      let e ← element
      if ← stop then return (acc ++ [(e, false)], false)
      else
        let _ ← op separator
        return (acc ++ [(e, true)], true)

/-- Whether a separator follows the last element. -/
def endsMarked {α : Type} (es : List (α × Bool)) : Bool := (es.getLast?.map (·.2)).getD false

/-- Elements with separators between them, up to where `stop` holds; a separator may come last. -/
def separatedUntil {α : Type} (separator : String) (stop : Reader Bool) (element : Reader α) :
    Reader (List α × Bool) := do
  let es ← separatedMarked separator stop element
  return (es.map (·.1), endsMarked es)

/-- Elements as long as separators follow, up to where `stop` holds. -/
def separatedWhile {α : Type} (separator : String) (stop : Reader Bool) (element : Reader α) :
    Reader (List α × Bool) := do
  let es ← repeatStep fun acc => do
    if ← stop then return (acc, false)
    else
      let e ← element
      if ← peekOp separator then
        let _ ← op separator
        return (acc ++ [(e, true)], true)
      else return (acc ++ [(e, false)], false)
  return (es.map (·.1), endsMarked es)

/-- The trees of elements and separators, up to where `stop` holds. -/
def nodesUntil (separator : String) (stop : Reader Bool) (element : Reader Node) :
    Reader (List Node) := do
  let (es, trailing) ← separatedUntil separator stop element
  return separated separator trailing es

/-- The trees of elements and separators as long as separators follow. -/
def nodesWhile (separator : String) (stop : Reader Bool) (element : Reader Node) :
    Reader (List Node) := do
  let (es, trailing) ← separatedWhile separator stop element
  return separated separator trailing es

/-! ## Whole texts -/

/-- Reads tokens to their end. -/
def readAll {α : Type} (r : Reader α) (ts : List Token) : Except ReadError α :=
  match r.run { ahead := ts, inside := none, unread := none } with
  | .error e => .error e
  | .ok (a, s) =>
    match s.unread with
    | some d => .error (.leftover d)
    | none => if s.ahead.isEmpty then .ok a else .error (.leftover none)

/-! ## Productions

The productions of the language refer to each other.  A production that needs another one takes it
from this record, so that each can be defined by itself; `grammar` ties them together. -/

/-- The productions that others refer to. -/
structure Grammar where
  /-- A type, with or without bounds joined by a plus. -/
  type : Bool → Reader Node
  /-- An operand; braces may or may not follow a path as part of it. -/
  operand : Bool → Reader Node
  /-- The operators, none weaker than a strength, and operands after a first operand. -/
  operations : Bool → Nat → Node → Reader Node
  /-- A pattern without alternatives at the top. -/
  pattern : Reader Node
  /-- The statements inside a block. -/
  statements : Reader (List Node)
  /-- The statements inside a block after the attributes that belong to it. -/
  ownStatements : Reader (List Node)
  /-- An item with its attributes. -/
  item : Reader Item

namespace Grammar

/-- An expression. -/
def expr (g : Grammar) : Reader Node := do g.operations true 0 (← g.operand true)

/-- An expression that a brace ends. -/
def headExpr (g : Grammar) : Reader Node := do g.operations false 0 (← g.operand false)

/-- A block. -/
def block (g : Grammar) : Reader Node := do
  return .phrase .block [.group .brace (← inGroup .brace g.statements)]

/-- A block that may have attributes inside. -/
def ownBlock (g : Grammar) : Reader Node := do
  return .phrase .block [.group .brace (← inGroup .brace g.ownStatements)]

end Grammar

end RestLoom.Source
