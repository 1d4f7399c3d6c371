import RestLoom.Source.Grammar.Expr

/-!
# Source/Grammar/Statement — the inside of blocks

A statement is a binding, an item, or an expression.  An expression that does not stand alone needs
a semicolon unless it is the last one.
-/

namespace RestLoom.Source

open RestLoom.Token (Ident Delimiter)

/-- Whether a phrase ends in braces; no `else` may follow an expression that does. -/
def endsInBrace (n : Node) : Bool :=
  match n.tokens.getLast? with
  | some (.group .brace _) => true
  | _ => false

/-- Puts the attributes of a statement before the first operand in it. -/
def withStatementAttributes (attributes : List Node) : Node → Node
  | .phrase .assign (e :: rest) =>
    .phrase .assign (withStatementAttributes attributes e :: rest)
  | .phrase .binary (e :: rest) =>
    .phrase .binary (withStatementAttributes attributes e :: rest)
  | .phrase .cast (e :: rest) => .phrase .cast (withStatementAttributes attributes e :: rest)
  | e => withAttributes attributes e

/-- Whether an item begins here, given that attributes and a macro's path were looked at. -/
def itemAhead : Reader Bool := do
  if ← peekAny [.word "pub", .word "extern", .word "use", .word "fn", .word "mod", .word "type",
      .word "struct", .word "enum", .word "trait", .word "impl", .word "macro"] then return true
  else if ← peekWord "crate" then return !(← peek2 (.op "::"))
  else if ← peekWord "static" then
    return (← peek2 (.word "mut")) || ((← peek2 .name) &&
      !((← peek2 (.word "async")) && ((← peek3 (.word "move")) || (← peek3 (.op "|")))))
  else if ← peekWord "const" then
    return !((← peek2 (.group .brace)) || (← peek2 (.word "static")) ||
      ((← peek2 (.word "async")) && !((← peek3 (.word "unsafe")) || (← peek3 (.word "extern")) ||
        (← peek3 (.word "fn")))) ||
      (← peek2 (.word "move")) || (← peek2 (.op "|")))
  else if ← peekWord "unsafe" then return !(← peek2 (.group .brace))
  else if ← peekWord "async" then
    return (← peek2 (.word "unsafe")) || (← peek2 (.word "extern")) || (← peek2 (.word "fn"))
  else if ← peekWord "union" then peek2 .name
  else if ← peekWord "auto" then peek2 (.word "trait")
  else if ← peekWord "default" then
    return (← peek2 (.word "unsafe")) || (← peek2 (.word "impl"))
  else return false

/-- What a call of a macro at the start of a statement is. -/
inductive LeadingMacro where
  | none
  /-- It declares something under a name. -/
  | item
  /-- It stands alone, with braces. -/
  | alone

section
variable (g : Grammar)

/-- Looks at a call of a macro at the start of a statement. -/
def leadingMacro : Reader LeadingMacro := do
  let seen ← lookAhead do
    let _ ← plainPath
    if ← peekOp "!" then
      if (← peek2 .name) || (← peek2 (.word "try")) then return LeadingMacro.item
      else if (← peek2 (.group .brace)) &&
          !(((← peek3 (.op ".")) && !(← peek3 (.op ".."))) || (← peek3 (.op "?"))) then
        return .alone
      else return .none
    else return .none
  return seen.getD .none

/-- A binding. -/
def letStatement (attributes : List Node) : Reader Node := do
  let l ← word "let"
  let p ← g.pattern
  let p ← if ← peekOp ":" then do
      let c ← op ":"
      pure (Node.phrase .typePat [p, c, ← g.type true])
    else pure p
  let value ← if ← peekOp "=" then do
      let e ← op "="
      let v ← g.expr
      if !endsInBrace v && (← peekWord "else") then do
        let w ← word "else"
        pure [e, v, w, ← g.block]
      else pure [e, v]
    else pure []
  let s ← op ";"
  return .phrase .letStmt (attributes ++ l :: p :: value ++ [s])

/-- An expression as a statement. -/
def exprStatement (attributes : List Node) : Reader Node := do
  let e ← leadingExpr g
  let semicolon ← op? ";"
  match e with
  | .phrase .macroCall ps =>
    if !semicolon.isEmpty || endsInBrace (.phrase .macroCall ps) then
      return .phrase .macroStmt (attributes ++ .phrase .macroCall ps :: semicolon)
    else return .phrase .exprStmt [withAttributes attributes (.phrase .macroCall ps)]
  | e => return .phrase .exprStmt (withStatementAttributes attributes e :: semicolon)

/-- One statement. -/
def statement : Reader Node := do
  let start ← get
  let attributes ← outerAttributes g
  let macroKind ← leadingMacro
  let nodes := attributes.map Attribute.toNode
  match macroKind with
  | .alone =>
    let p ← plainPath
    let bang ← op "!"
    let (d, ts) ← delimited
    let s ← op? ";"
    return .phrase .macroStmt (nodes ++ .phrase .macroCall [p, bang, .group d [.raw ts]] :: s)
  | other =>
    let declares := match other with
      | .item => true
      | _ => false
    if ← peekWord "let" then letStatement g nodes
    else if declares || (← itemAhead) then
      set start
      return (← g.item).toNode
    else exprStatement g nodes

/-- Whether a statement is complete without a semicolon although another one follows. -/
def needsNoSemicolon : Node → Bool
  | .phrase .exprStmt [e] => standsAlone e
  | .phrase .macroStmt ps =>
    match ps.getLast? with
    | some (.phrase .macroCall qs) => endsInBrace (.phrase .macroCall qs)
    | _ => true
  | _ => true

/-- The statements inside a block. -/
def statementsOf : Reader (List Node) :=
  repeatStep fun acc => do
    if ← peekOp ";" then return (acc ++ [.phrase .emptyStmt [← op ";"]], true)
    else if ← atEnd then return (acc, false)
    else
      let s ← statement g
      if (← atEnd) || needsNoSemicolon s then return (acc ++ [s], !(← atEnd))
      else refuseFor "unexpected token, expected `;`"

/-- The inside of a block with attributes of its own. -/
def blockInside : Reader (List Attribute × List Node) := do
  let attributes ← innerAttributes g
  return (attributes, ← statementsOf g)

/-- The statements inside a block, with the block's own attributes before them. -/
def ownStatementsOf : Reader (List Node) := do
  let (attributes, stmts) ← blockInside g
  return attributes.map Attribute.toNode ++ stmts

end

end RestLoom.Source
