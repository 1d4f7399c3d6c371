import RestLoom.Source.Grammar.Pattern

/-!
# Source/Grammar/Expr — expressions

An expression is a first operand with operators and further operands.  Each operator has a strength,
and the operand on its right takes in the stronger operators that follow.  Where braces open a block
after an expression, a path there takes no braces as its fields.
-/

namespace RestLoom.Source

open RestLoom.Token (Ident Delimiter)

/-! ## Strengths -/

/-- The binary operators with their strengths, longer ones first. -/
def binaryOps : List (String × Nat) :=
  [("+=", 1), ("-=", 1), ("*=", 1), ("/=", 1), ("%=", 1), ("^=", 1), ("&=", 1), ("|=", 1),
    ("<<=", 1), (">>=", 1), ("&&", 4), ("||", 3), ("<<", 10), (">>", 10), ("==", 6), ("<=", 6),
    ("!=", 6), (">=", 6), ("+", 11), ("-", 11), ("*", 12), ("/", 12), ("%", 12), ("^", 8),
    ("&", 9), ("|", 7), ("<", 6), (">", 6)]

/-- The strength of an assignment. -/
def assignStrength : Nat := 1

/-- The strength of a range. -/
def rangeStrength : Nat := 2

/-- The strength of a comparison. -/
def compareStrength : Nat := 6

/-- The strength of a cast. -/
def castStrength : Nat := 13

/-- The binary operator ahead. -/
def binaryOp? : Reader (Option (String × Nat)) := do
  let ts ← ahead
  return binaryOps.find? fun o => Token.startsWithPunct o.1.toList ts

/-- The strength of the operator ahead, zero if none is. -/
def strengthAhead : Reader Nat := do
  match ← binaryOp? with
  | some (_, s) => return s
  | none =>
    if (← peekOp "=") && !(← peekOp "=>") then return assignStrength
    else if ← peekOp ".." then return rangeStrength
    else if ← peekWord "as" then return castStrength
    else return 0

/-- Whether an expression is a comparison. -/
def isComparison : Node → Bool
  | .phrase .binary [_, .op o, _] => binaryOps.any fun b => b.1 == o && b.2 == compareStrength
  | _ => false

/-- Puts attributes before an expression; a range they set apart by parentheses. -/
def withAttributes (attributes : List Node) (e : Node) : Node :=
  if attributes.isEmpty then e
  else if e.isKind .range || e.isKind .rangePat then
    .phrase .attributed (attributes ++ [.phrase .grouped [.group .paren [e]]])
  else .phrase .attributed (attributes ++ [e])

/-- Whether an expression may begin here. -/
def exprAhead : Reader Bool := do
  if ← peek .anyWord then return !(← peekWord "as")
  else
    return (← peekAny [.group .paren, .group .bracket, .group .brace, .literal, .op "..", .op "::",
        .lifetime, .op "#"]) ||
      ((← peekOp "!") && !(← peekOp "!=")) ||
      ((← peekOp "-") && !(← peekOp "-=") && !(← peekOp "->")) ||
      ((← peekOp "*") && !(← peekOp "*=")) || ((← peekOp "|") && !(← peekOp "|=")) ||
      ((← peekOp "&") && !(← peekOp "&=")) ||
      ((← peekOp "<") && !(← peekOp "<=") && !(← peekOp "<<="))

section
variable (g : Grammar)

/-! ## Operands -/

/-- Expressions between commas. -/
def arguments : Reader (List Node) := nodesUntil "," atEnd g.expr

/-- One field of a structure. -/
def fieldValue : Reader Node := do
  let attributes ← outerAttributeNodes g
  let f ← member
  if (← peekOp ":") || !isNamed f then
    let c ← op ":"
    return .phrase .fieldValue (attributes ++ [f, c, ← g.expr])
  else return .phrase .fieldValue (attributes ++ [f])

/-- The fields of a structure; after two dots, and what gives the other fields, nothing more is
read. -/
def fieldValues : Reader (List Node) :=
  repeatStep fun acc => do
    if ← atEnd then return (acc, false)
    else if ← peekOp ".." then
      let d ← op ".."
      let rest ← if ← atEnd then pure [] else do pure [← g.expr]
      return (acc ++ [.phrase .fieldRest (d :: rest)], false)
    else
      let f ← fieldValue g
      if ← atEnd then return (acc ++ [f], false)
      else return (acc ++ [f, ← op ","], true)

/-- An expression that begins with a path. -/
def pathStartedExpr (braces : Bool) : Reader Node := do
  let p ← qualifiedPath g true
  if isPlainPath p && (← peekOp "!") && !(← peekOp "!=") then
    let bang ← op "!"
    let (d, ts) ← delimited
    return .phrase .macroCall [p, bang, .group d [.raw ts]]
  else if braces && (← peek (.group .brace)) then
    return .phrase .structExpr [p, .group .brace (← inGroup .brace (fieldValues g))]
  else return .phrase .pathExpr [p]

/-- A parameter of a closure; one that is kept as it is written loses its attributes. -/
def closureParam : Reader Node := do
  let attributes ← outerAttributeNodes g
  let p ← g.pattern
  if ← peekOp ":" then
    let c ← op ":"
    return .phrase .typePat (attributes ++ [p, c, ← g.type true])
  else if p.isKind .verbatim then return p
  else return withAttributes attributes p

/-- A closure. -/
def closureExpr (braces : Bool) : Reader Node := do
  let binder ← forLifetimes g
  let c ← word? "const"
  let s ← word? "static"
  let a ← word? "async"
  let m ← word? "move"
  let l ← op "|"
  let inputs ← nodesUntil "," (peekOp "|") (closureParam g)
  let r ← op "|"
  let front := binder ++ c ++ s ++ a ++ m ++ [.phrase .closureInputs (l :: inputs ++ [r])]
  if ← peekOp "->" then
    let arrow ← op "->"
    let t ← g.type true
    return .phrase .closure (front ++ [.phrase .returnType [arrow, t], ← g.block])
  else
    let body ← do g.operations braces 0 (← g.operand braces)
    return .phrase .closure (front ++ [body])

/-- A condition with its two branches. -/
def ifUpTo : Nat → Reader Node
  | 0 => refuse []
  | fuel + 1 => do
    let i ← word "if"
    let cond ← g.headExpr
    let body ← g.block
    if ← peekWord "else" then
      let e ← word "else"
      if ← peekWord "if" then return .phrase .ifExpr [i, cond, body, e, ← ifUpTo fuel]
      else if ← peek (.group .brace) then return .phrase .ifExpr [i, cond, body, e, ← g.block]
      else refuseAll [.word "if", .group .brace]
    else return .phrase .ifExpr [i, cond, body]

/-- A condition with its branches. -/
def ifExpr : Reader Node := do ifUpTo g ((← ahead).length + 1)

/-- A loop with a condition. -/
def whileExpr : Reader Node := do
  let w ← word "while"
  let cond ← g.headExpr
  return .phrase .whileExpr [w, cond, ← g.ownBlock]

/-- A loop over elements. -/
def forExpr : Reader Node := do
  let f ← word "for"
  let p ← patterns g
  let i ← word "in"
  let e ← g.headExpr
  return .phrase .forExpr [f, p, i, e, ← g.ownBlock]

/-- A loop without an end of its own. -/
def loopExpr : Reader Node := do
  let l ← word "loop"
  return .phrase .loopExpr [l, ← g.ownBlock]

/-- A block after a keyword. -/
def keywordBlock (k : Kind) (text : String) : Reader Node := do
  let w ← word text
  return .phrase k [w, ← g.ownBlock]

/-- A block whose failure is a value. -/
def tryBlock : Reader Node := do
  let t ← word "try"
  return .phrase .tryBlock [t, ← g.block]

/-- A loop or block after a label. -/
def labeledExpr : Reader Node := do
  let l ← lifetime
  let c ← op ":"
  let e ← if ← peekWord "while" then whileExpr g
    else if ← peekWord "for" then forExpr g
    else if ← peekWord "loop" then loopExpr g
    else if ← peek (.group .brace) then g.ownBlock
    else refuseFor "expected loop or block expression"
  return .phrase .labeled [.lifetime l, c, e]

/-- Expressions between parentheses. -/
def parenExpr : Reader Node := do
  let (es, trailing) ← inGroup .paren (separatedUntil "," atEnd g.expr)
  match es, trailing with
  | [e], false => return .phrase .paren [.group .paren [e]]
  | es, trailing => return .phrase .tuple [.group .paren (separated "," trailing es)]

/-- Expressions between brackets. -/
def arrayExpr : Reader Node :=
  inGroup .bracket do
    if ← atEnd then return .phrase .array [.group .bracket []]
    else
      let first ← g.expr
      if (← atEnd) || (← peekOp ",") then
        let comma ← op? ","
        let rest ← if comma.isEmpty then pure [] else nodesUntil "," atEnd g.expr
        return .phrase .array [.group .bracket (first :: comma ++ rest)]
      else if ← peekOp ";" then
        let s ← op ";"
        return .phrase .repeated [.group .bracket [first, s, ← g.expr]]
      else refuseFor "expected \x60,\x60 or \x60;\x60"

/-- The operand of a jump, if one follows. -/
def jumpOperand : Reader (List Node) := do
  if ← exprAhead then return [← g.expr] else return []

/-- A jump out of a loop or a block; a loop as its operand needs parentheses if it has a label. -/
def breakExpr (braces : Bool) : Reader Node := do
  let b ← word "break"
  if (← peek .lifetime) && (← peek2 (.op ":")) then
    let _ ← g.expr
    forbid "parentheses required"
  else
    let l ← if ← peek .lifetime then pure [Node.lifetime (← lifetime)] else pure []
    let stops := !braces && (← peek (.group .brace))
    return .phrase .breakExpr (b :: l ++ (← if stops then pure [] else jumpOperand g))

/-- Attributes inside braces, as trees. -/
def innerAttributeNodes : Reader (List Node) := do
  return (← innerAttributes g).map Attribute.toNode

/-- What follows a dot: a member, the call of a method, or a wait. -/
def afterDot (e dot : Node) : Reader Node := do
  if ← peekWord "await" then return .phrase .await [e, dot, ← word "await"]
  else
    let m ← member
    let fish ← if isNamed m && (← peekOp "::") then do pure [← genericArguments g] else pure []
    if isNamed m && (!fish.isEmpty || (← peek (.group .paren))) then
      let args ← inGroup .paren (arguments g)
      return .phrase .methodCall (e :: dot :: m :: fish ++ [.group .paren args])
    else return .phrase .field [e, dot, m]

/-- A dot and what follows it.  A number with a point names two members, or one and a further
dot. -/
def dotted (e : Node) : Reader Node := do
  let dot ← op "."
  match ← number? Token.isFraction with
  | none => afterDot g e dot
  | some (negative, t) =>
    let members ← ((t.splitOn ".").filter (!·.isEmpty)).mapM (fieldNumber negative)
    let e := members.foldl (fun e m => .phrase .field [e, dot, m]) e
    if t.endsWith "." then afterDot g e dot else return e

/-- What may follow an operand: arguments, members, indices and question marks. -/
def trailers (e : Node) : Reader Node := do
  let es ← repeatStep fun acc => do
    let e := acc.getLastD e
    if ← peek (.group .paren) then
      let args ← inGroup .paren (arguments g)
      return ([.phrase .call [e, .group .paren args]], true)
    else if (← peekOp ".") && !(← peekOp "..") && !isRange e then return ([← dotted g e], true)
    else if ← peek (.group .bracket) then
      let i ← inGroup .bracket g.expr
      return ([.phrase .index [e, .group .bracket [i]]], true)
    else if (← peekOp "?") && !isRange e then
      return ([.phrase .tryOp [e, ← op "?"]], true)
    else return (acc, false)
  return es.getLastD e

mutual

/-- An expression at the start of a statement or after an arrow: one that stands alone ends where
its braces end, unless a dot or a question mark follows. -/
def leadingExprUpTo : Nat → Reader Node
  | 0 => refuse []
  | fuel + 1 => do
    let attributes ← outerAttributeNodes g
    let block? ← do
      if ← peekWord "if" then some <$> ifExpr g
      else if ← peekWord "while" then some <$> whileExpr g
      else if (← peekWord "for") && !(← genericsAfterWord) then some <$> forExpr g
      else if ← peekWord "loop" then some <$> loopExpr g
      else if ← peekWord "match" then some <$> matchUpTo fuel
      else if (← peekWord "try") && (← peek2 (.group .brace)) then
        some <$> tryBlock g
      else if ← peekWord "unsafe" then some <$> keywordBlock g .unsafeBlock "unsafe"
      else if (← peekWord "const") && (← peek2 (.group .brace)) then
        some <$> keywordBlock g .constBlock "const"
      else if ← peek (.group .brace) then some <$> g.ownBlock
      else if ← peek .lifetime then some <$> labeledExpr g
      else pure none
    match block? with
    | none =>
      let e ← g.operand true
      g.operations true 0 (withAttributes attributes e)
    | some e =>
      if ((← peekOp ".") && !(← peekOp "..")) || (← peekOp "?") then
        let e ← trailers g e
        g.operations true 0 (withAttributes attributes e)
      else return withAttributes attributes e

/-- A choice between patterns. -/
def matchUpTo : Nat → Reader Node
  | 0 => refuse []
  | fuel + 1 => do
    let m ← word "match"
    let e ← g.headExpr
    let arms ← inGroup .brace do
      let attributes ← innerAttributeNodes g
      return attributes ++ (← untilEnd (armUpTo fuel))
    return .phrase .matchExpr [m, e, .group .brace arms]

/-- One pattern of a choice with what it leads to. -/
def armUpTo : Nat → Reader Node
  | 0 => refuse []
  | fuel + 1 => do
    let attributes ← outerAttributeNodes g
    let p ← patterns g
    let guard ← if ← peekWord "if" then do
        let i ← word "if"
        pure [i, ← g.expr]
      else pure []
    let arrow ← op "=>"
    let body ← leadingExprUpTo fuel
    let comma ←
      if standsAlone body || (← atEnd) then op? "," else pure [← op ","]
    return .phrase .arm (attributes ++ p :: guard ++ arrow :: body :: comma)

end

/-- An expression at the start of a statement. -/
def leadingExpr : Reader Node := do leadingExprUpTo g (2 * (← ahead).length + 4)

/-- A choice between patterns. -/
def matchExpr : Reader Node := do matchUpTo g (2 * (← ahead).length + 4)

/-- A range operator; three dots are none. -/
def exprRangeOp : Reader Node := do
  if ← peekOp "..=" then op "..="
  else if ← peekOp "..." then refuse [marked "..="]
  else op ".."

/-- The right operand of an operator of that strength. -/
def rightOperand (braces : Bool) (strength : Nat) : Reader Node := do
  let first ← g.operand braces
  let es ← repeatStep fun acc => do
    let e := acc.getLastD first
    let next ← strengthAhead
    if strength < next || (next == strength && strength == assignStrength) then
      let before := (← ahead).length
      let e ← g.operations braces next e
      return ([e], (← ahead).length < before)
    else return (acc, false)
  return es.getLastD first

/-- The operator and the end of a range. -/
def rangeFromOp (braces : Bool) : Reader (List Node) := do
  let o ← exprRangeOp
  let stops := (← atEnd) ||
    (← peekAny [.op ",", .op ";", .op "=>"]) ||
    ((← peekOp ".") && !(← peekOp "..")) || (← peekOp "?") ||
    (!braces && (← peek (.group .brace))) || (← peekOp "=") || (← peekOp "+") ||
    (← peekOp "/") || (← peekOp "%") || (← peekOp "^") || (← peekOp ">") || (← peekOp "<=") ||
    (← peekOp "!=") || (← peekOp "-=") || (← peekOp "*=") || (← peekOp "&=") ||
    (← peekOp "|=") || (← peekOp "<<=") || (← peekWord "as")
  if o.isOp ".." && stops then return [o]
  else return [o, ← rightOperand g braces rangeStrength]

/-- A phrase that is recognised and kept as it is written. -/
def keptExpr : Reader Node := do
  let start ← ahead
  if ← peekWord "become" then
    let _ ← word "become"
    let _ ← g.expr
  else
    let _ ← word "builtin"
    let _ ← op "#"
    let _ ← name
    inGroup .paren (advanceTo [])
  keptSince start

/-- An operand without what may follow it. -/
def atom (braces : Bool) : Reader Node := do
  if ← peek .literal then literal
  else if (← peekWord "async") && ((← peek2 (.group .brace)) ||
      ((← peek2 (.word "move")) && (← peek3 (.group .brace)))) then
    let a ← word "async"
    let m ← word? "move"
    return .phrase .asyncBlock (a :: m ++ [← g.block])
  else if (← peekWord "try") && (← peek2 (.group .brace)) then tryBlock g
  else if (← peekAny [.op "|", .word "move", .word "static"]) ||
      ((← peekWord "for") && (← genericsAfterWord)) ||
      ((← peekWord "const") && !(← peek2 (.group .brace))) ||
      ((← peekWord "async") && ((← peek2 (.op "|")) || (← peek2 (.word "move")))) then
    closureExpr g braces
  else if (← peekWord "builtin") && (← peek2 (.op "#")) then keptExpr g
  else if (← peekAny (segmentStarts ++ [.op "::", .op "<"])) ||
      ((← peekWord "try") && ((← peek2 (.op "!")) || (← peek2 (.op "::")))) then
    pathStartedExpr g braces
  else if ← peek (.group .paren) then parenExpr g
  else if ← peekWord "break" then breakExpr g braces
  else if ← peekWord "continue" then
    let c ← word "continue"
    let l ← if ← peek .lifetime then pure [Node.lifetime (← lifetime)] else pure []
    return .phrase .continueExpr (c :: l)
  else if ← peekWord "return" then
    let r ← word "return"
    return .phrase .returnExpr (r :: (← jumpOperand g))
  else if ← peekWord "become" then keptExpr g
  else if ← peek (.group .bracket) then arrayExpr g
  else if ← peekWord "let" then
    let l ← word "let"
    let p ← patterns g
    let e ← op "="
    let right ← g.operations braces compareStrength (← g.operand braces)
    return .phrase .letExpr [l, p, e, right]
  else if ← peekWord "if" then ifExpr g
  else if ← peekWord "while" then whileExpr g
  else if ← peekWord "for" then forExpr g
  else if ← peekWord "loop" then loopExpr g
  else if ← peekWord "match" then matchExpr g
  else if ← peekWord "yield" then
    let y ← word "yield"
    return .phrase .yieldExpr (y :: (← jumpOperand g))
  else if ← peekWord "unsafe" then keywordBlock g .unsafeBlock "unsafe"
  else if ← peekWord "const" then keywordBlock g .constBlock "const"
  else if ← peek (.group .brace) then g.ownBlock
  else if ← peekOp ".." then return .phrase .range (← rangeFromOp g braces)
  else if ← peekWord "_" then return .phrase .inferExpr [← word "_"]
  else if ← peek .lifetime then labeledExpr g
  else refuseFor "expected an expression"

/-- An operand: signs before an atom, and what follows it. -/
def operandOf (braces : Bool) : Reader Node := do
  let attributes ← outerAttributeNodes g
  if ← peekOp "&" then
    let a ← op "&"
    if (← peekWord "raw") && ((← peek2 (.word "mut")) || (← peek2 (.word "const"))) then
      let r ← word "raw"
      let m ← anyWord
      let e ← g.operand braces
      return withAttributes attributes (.phrase .rawReference [a, r, .ident m, e])
    else
      let m ← word? "mut"
      let e ← g.operand braces
      return withAttributes attributes (.phrase .reference (a :: m ++ [e]))
  else if ← peekAny [.op "*", .op "!", .op "-"] then
    let o ← if ← peekOp "*" then op "*" else if ← peekOp "!" then op "!" else op "-"
    let e ← g.operand braces
    return withAttributes attributes (.phrase .unary [o, e])
  else
    let e ← trailers g (← atom g braces)
    if !attributes.isEmpty && e.isKind .range then
      forbid "attributes are not allowed on range expressions starting with `..`"
    else return withAttributes attributes e

/-- Refuses what may not follow a cast. -/
def checkCast : Reader Unit := do
  let follows (what : String) : Reader Unit := refuseFor ("casts cannot be followed by " ++ what)
  if (← peekOp ".") && !(← peekOp "..") then
    if ← peek2 (.word "await") then follows "`.await`"
    else if (← peek2 .name) && ((← peek3 (.group .paren)) || (← peek3 (.op "::"))) then
      follows "a method call"
    else follows "a field access"
  else if ← peekOp "?" then follows "`?`"
  else if ← peek (.group .bracket) then follows "indexing"
  else if ← peek (.group .paren) then follows "a function call"
  else return ()

/-- The operators that are not weaker than `base`, and operands, after a first operand. -/
def operationsOf (braces : Bool) (base : Nat) (first : Node) : Reader Node := do
  let es ← repeatStep fun acc => do
    let l := acc.getLastD first
    if isRange l then return (acc, false)
    else match ← binaryOp? with
    | some (o, strength) =>
      if strength < base then return (acc, false)
      else if strength == compareStrength && isComparison l then
        refuseFor "comparison operators cannot be chained"
      else
        let o ← op o
        return ([.phrase .binary [l, o, ← rightOperand g braces strength]], true)
    | none =>
      if base ≤ assignStrength && (← peekOp "=") && !(← peekOp "=>") then
        let o ← op "="
        return ([.phrase .assign [l, o, ← rightOperand g braces assignStrength]], true)
      else if base ≤ rangeStrength && (← peekOp "..") then
        return ([.phrase .range (l :: (← rangeFromOp g braces))], true)
      else if base ≤ castStrength && (← peekWord "as") then
        let a ← word "as"
        let t ← g.type false
        checkCast
        return ([.phrase .cast [l, a, t]], true)
      else return (acc, false)
  return es.getLastD first

end

end RestLoom.Source
