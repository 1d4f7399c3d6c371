import RestLoom.Layout.Types

/-!
# Layout/Exprs — layout of patterns, expressions and statements

A chain of calls breaks before its dots, a list of arguments after each comma, a binary operation
before its operator.  The body of a closure or of a choice that does not fit gets braces.
-/

namespace RestLoom.Layout

open RestLoom.Source
open RestLoom.Token (Ident Delimiter)
open Doc

/-! ## Shapes of expressions -/

/-- Whether an expression is a name no longer than an indentation. -/
def isShortName : Node → Bool
  | .phrase .pathExpr [p] => (pathIdent? p).any fun i => i.text.utf8ByteSize ≤ 4
  | _ => false

/-- Whether a block or a keyword's block has attributes inside. -/
def hasInnerAttributes (n : Node) : Bool :=
  match n with
  | .phrase .block [.group _ ps] => !(leadingAttributes ps).isEmpty
  | .phrase _ ps =>
    match ps.getLast? with
    | some (.phrase .block [.group _ qs]) => !(leadingAttributes qs).isEmpty
    | _ => false
  | _ => false

/-- Expressions that keep their braces or brackets on the line of a call's parentheses. -/
def isBlockArgument (e : Node) : Bool :=
  match bare e with
  | .phrase .labeled [_, _, .phrase k ps] => k = .block && !hasInnerAttributes (.phrase k ps)
  | .phrase .closure _ => true
  | .phrase k ps =>
    [Kind.array, .asyncBlock, .block, .constBlock, .structExpr, .tuple, .unsafeBlock].contains k &&
      !hasInnerAttributes (.phrase k ps)
  | _ => false

/-- Whether a literal is a byte, a character or a whole number. -/
def isSimpleLiteral (text : String) : Bool :=
  match text.toList with
  | '\x27' :: _ => true
  | 'b' :: '\x27' :: _ => true
  | _ => Token.isWhole text

/-- Whether an array holds simple literals only. -/
def isSimpleArray (es : List Node) : Bool :=
  es.all fun e =>
    match bare e with
    | .literal t => isSimpleLiteral t
    | .ident _ => true
    | _ => false

/-- Assignments by an operator. -/
def compoundOps : List String :=
  ["+=", "-=", "*=", "/=", "%=", "^=", "&=", "|=", "<<=", ">>="]

/-- Expressions that get a semicolon as a statement. -/
def getsSemicolon (e : Node) : Bool :=
  match bare e with
  | .phrase .assign _ => true
  | .phrase .breakExpr _ => true
  | .phrase .continueExpr _ => true
  | .phrase .returnExpr _ => true
  | .phrase .yieldExpr _ => true
  | .phrase .binary [_, .op o, _] => compoundOps.contains o
  | _ => false

/-- Expressions whose semicolon is dropped as a statement. -/
def losesSemicolon : Nat → Node → Bool
  | 0, _ => false
  | n + 1, e =>
    match bare e with
    | .phrase .forExpr _ => true
    | .phrase .whileExpr _ => true
    | .phrase .labeled ps => (ps.getLast?.map (losesSemicolon n)).getD false
    | .phrase .ifExpr [_, _, _, _, other] => losesSemicolon n other
    | .phrase .ifExpr _ => true
    | _ => false

/-- The kinds of expressions that end in an expression of any kind. -/
def endsInExpr : List Kind :=
  [.letExpr, .reference, .rawReference, .unary, .returnExpr, .breakExpr, .yieldExpr, .range,
    .attributed]

/-- Whether a condition that is broken needs its brace on a line of its own. -/
def breaksBeforeBrace : Nat → Node → Bool
  | 0, _ => false
  | n + 1, e =>
    match e with
    | .phrase k ps =>
      if [Kind.assign, .await, .binary, .cast, .field, .index, .methodCall].contains k then true
      else if k = .call then (ps.head?.map (breaksBeforeBrace n)).getD false
      else if k = .paren || k = .grouped then
        match ps with
        | [.group _ [inner]] => breaksBeforeBrace n inner
        | _ => false
      else if k = .tryOp then (ps.head?.map (breaksBeforeBrace n)).getD false
      else if endsInExpr.contains k then (ps.getLast?.map (breaksBeforeBrace n)).getD false
      else false
    | _ => false

/-- Whether an expression at the start of a statement ends it: what stands alone, and the call of a
macro with braces. -/
def endsStatement (e : Node) : Bool :=
  match bare e with
  | .phrase .macroCall ps =>
    match ps.getLast? with
    | some (.group .brace _) => true
    | _ => false
  | e => isBlockLike e

/-- Whether an expression may stand as a statement between braces. -/
def canBeStatement : Nat → Node → Bool
  | 0, _ => true
  | n + 1, e =>
    match bare e with
    | .phrase k ps =>
      let first := (ps.head?.map (canBeStatement n)).getD true
      if [Kind.binary, .call, .cast, .index, .range].contains k then
        !(ps.head?.map endsStatement).getD false && first
      else if [Kind.assign, .await, .field, .methodCall, .tryOp].contains k then first
      else k ≠ .letExpr
    | _ => true

/-- Whether a block consists of one expression without a semicolon, which it is then. -/
def soleExpr? : List Node → Option Node
  | [.phrase .exprStmt [e]] => some e
  | _ => none

/-- The body of a choice without needless braces. -/
def unwrapBody : Nat → Node → Node
  | 0, e => e
  | n + 1, e =>
    match e with
    | .phrase .block [.group _ ps] =>
      match soleExpr? ps with
      | some inner => unwrapBody n inner
      | none => e
    | e => e

section
variable (r : Rules)

/-! ## Patterns -/

/-- Elements in a list of patterns with commas after all, the last one only at a line end. -/
def patternList (es : List Node) : Doc :=
  openAll indent ++ zeroBreak ++ eachLast (fun e isLast => r.pattern e ++ comma isLast) es ++
    shift (-indent) ++ close

/-- A field of a structure in a pattern. -/
def fieldPatternDoc (n : Node) : Doc :=
  leadingDoc r n.parts ++ match afterAttributes n.parts with
    | [f, _, p] => (match f with
        | .ident i => word i.text
        | .literal t => word t
        | _ => []) ++ word ": " ++ r.pattern p
    | [p] => r.pattern p
    | _ => []

/-- A pattern. -/
def patternDoc (n : Node) : Doc :=
  match n with
  | .phrase .identPat ps =>
    ps.flatMap fun p =>
      match p with
      | .ident i =>
        if i.is "ref" then word "ref " else if i.is "mut" then word "mut " else word i.text
      | .op _ => word " @ "
      | p => r.pattern p
  | .phrase .wildPat _ => word "_"
  | .phrase .restPat ps => leadingDoc r ps ++ word ".."
  | .phrase .tuplePat [.group _ ps] =>
    let es := commaElements ps
    let trailing := (ps.getLast?.map (·.isOp ",")).getD false
    word "(" ++ openAll indent ++ zeroBreak ++
      eachLast (fun e isLast => r.pattern e ++
        (if es.length = 1 then (if trailing then word "," else []) ++ zeroBreak
          else comma isLast)) es ++
      shift (-indent) ++ close ++ word ")"
  | .phrase .tupleStructPat [p, .group _ es] =>
    pathDoc r .expr p ++ word "(" ++ patternList r (commaElements es) ++ word ")"
  | .phrase .structPat [p, .group _ fs] =>
    openAll indent ++ pathDoc r .expr p ++ word " \x7b" ++ spaceIfNonempty ++
      eachLast (fun f isLast =>
        if f.isKind .restPat then r.pattern f ++ space
        else fieldPatternDoc r f ++ commaOrSpace isLast) (commaElements fs) ++
      shift (-indent) ++ close ++ word "\x7d"
  | .phrase .pathPat [p] => pathDoc r .expr p
  | .phrase .refPat ps =>
    ps.flatMap fun p =>
      match p with
      | .op _ => word "&"
      | .ident _ => word "mut "
      | p => r.pattern p
  | .phrase .literalPat [e] => r.expr false e
  | .phrase .rangePat ps =>
    ps.flatMap fun p =>
      match p with
      | .op t => word t
      | e => r.expr false e
  | .phrase .orPat ps =>
    let es := elements "|" ps
    let simple := es.all fun e => e.isKind .literalPat || e.isKind .wildPat
    (if simple then openSome 0 else openAll 0) ++
      eachFirst (fun e isFirst => (if isFirst then [] else space ++ word "| ") ++ r.pattern e) es ++
      close
  | .phrase .slicePat [.group _ es] =>
    word "[" ++ eachLast (fun e isLast => r.pattern e ++ comma isLast) (commaElements es) ++
      word "]"
  | .phrase .parenPat [.group _ [p]] => word "(" ++ r.pattern p ++ word ")"
  | .phrase .typePat ps =>
    leadingDoc r ps ++ match afterAttributes ps with
      | [p, _, t] => r.pattern p ++ word ": " ++ r.type t
      | _ => []
  | .phrase .attributed ps =>
    leadingDoc r ps ++ (afterAttributes ps).flatMap r.pattern
  | .phrase .grouped [.group _ [p]] => word "(" ++ r.pattern p ++ word ")"
  | .phrase .macroCall _ => macroDoc r false n
  | .phrase .constBlock _ => r.expr false n
  | _ => []

/-! ## Blocks -/

/-- The statements inside a block, with its own attributes before them. -/
def statementsDoc (ps : List Node) : Doc :=
  leadingDoc r ps ++ eachLast r.statement (afterAttributes ps)

/-- The parts between the braces of a block. -/
def blockParts : Node → List Node
  | .phrase .block [.group _ ps] => ps
  | _ => []

/-- A block that may stay on one line if it is a single expression. -/
def smallBlock (ps : List Node) : Doc :=
  word "\x7b" ++
    (if ps.isEmpty then []
      else
        space ++ (match soleExpr? (afterAttributes ps) with
          | some e => leadingDoc r ps ++ openSome 0 ++ r.expr true e ++ close ++ space
          | none => statementsDoc r ps) ++ shift (-indent)) ++
    word "\x7d"

/-- The statements of a block on lines of their own, up to its closing brace. -/
def blockLines (ps : List Node) : Doc :=
  openAll indent ++ hardBreakIfNonempty ++ statementsDoc r ps ++ shift (-indent) ++ close ++
    word "\x7d"

/-- A block with each statement on a line of its own. -/
def largeBlock (ps : List Node) : Doc := word "\x7b" ++ neverBreak ++ blockLines r ps

/-- The condition of a branch or a loop, before its brace. -/
def conditionDoc (e : Node) : Doc :=
  openAll 0 ++ r.expr false e ++
    (if breaksBeforeBrace (e.depth + 1) e then space else blank) ++ close

/-- The label of a loop. -/
def labelDoc (i : Ident) : Doc := lifetimeWord i ++ word ": "

/-! ## Chains -/

/-- A place before a dot where a line may end, unless a short name begins the line. -/
def dotBreak (atStart : Bool) (base : Node) : Doc :=
  if atStart && isShortName base then [] else zeroBreak

/-- The arguments of a call. -/
def callArguments (ps : List Node) : Doc :=
  match commaElements ps with
  | [e] =>
    if isBlockArgument e then r.expr false e
    else openAll indent ++ zeroBreak ++ r.expr false e ++ comma true ++ shift (-indent) ++ close
  | es =>
    openAll indent ++ zeroBreak ++ eachLast (fun e isLast => r.expr false e ++ comma isLast) es ++
      shift (-indent) ++ close

/-- A member of a structure. -/
def memberDoc : Node → Doc
  | .ident i => word i.text
  | .literal t => word t
  | _ => []

/-- An expression that further members follow, by way of a bound on the length of the chain. -/
def chainUpTo : Nat → Bool → Node → Doc
  | 0, _, _ => []
  | n + 1, atStart, e =>
    let inner (b : Node) : Doc := chainUpTo n atStart b
    match e with
    | .phrase .await (b :: _) => inner b ++ dotBreak atStart b ++ word ".await"
    | .phrase .call [f, .group _ args] =>
      chainUpTo n false f ++ word "(" ++ callArguments r args ++ word ")"
    | .phrase .field [b, _, m] => inner b ++ dotBreak atStart b ++ word "." ++ memberDoc m
    | .phrase .index [b, .group _ is] =>
      inner b ++ word "[" ++ is.flatMap (r.expr false) ++ word "]"
    | .phrase .methodCall (b :: _ :: m :: rest) => methodLink (inner b) atStart false b m rest
    | .phrase .tryOp [b, _] => inner b ++ word "?"
    | e => openAll (-indent) ++ r.expr false e ++ close
where
  /-- The last call of a chain. -/
  methodLink (base : Doc) (atStart unindent : Bool) (b m : Node) (rest : List Node) : Doc :=
    base ++ dotBreak atStart b ++ word "." ++ memberDoc m ++
      rest.flatMap fun p =>
        match p with
        | .group _ args =>
          openAll (if unindent then -indent else 0) ++ word "(" ++ callArguments r args ++
            word ")" ++ close
        | fish => pathArgumentsUpTo r (2 * fish.depth + 2) .expr fish

/-- A chain as a whole expression. -/
def chainDoc (atStart : Bool) (e : Node) : Doc :=
  let n := e.depth + 1
  match e with
  | .phrase .methodCall (b :: _ :: m :: rest) =>
    openAll indent ++
      chainUpTo.methodLink r (chainUpTo r n atStart b) atStart (atStart && isShortName b) b m
        rest ++
      close
  | e => openAll indent ++ chainUpTo r n atStart e ++ close

/-! ## Expressions -/

/-- Branches, by way of a bound on their number. -/
def branchesUpTo : Nat → List Node → Doc
  | 0, _ => []
  | n + 1, ps =>
    match ps with
    | [_, c, b, _, other] =>
      word "if " ++ openAll (-indent) ++ conditionDoc r c ++ close ++ smallBlock r (blockParts b) ++
        word " else " ++ (match other with
          | .phrase .ifExpr qs => branchesUpTo n qs
          | .phrase .block _ => smallBlock r (blockParts other)
          | _ => [])
    | [_, c, b] =>
      word "if " ++ openAll (-indent) ++ conditionDoc r c ++ close ++ smallBlock r (blockParts b)
    | _ => []

/-- A condition with its branches. -/
def ifDoc (ps : List Node) : Doc :=
  match ps with
  | [_, c, b] =>
    let stmts := blockParts b
    openAll indent ++ word "if " ++ openAll (-indent) ++ conditionDoc r c ++ close ++
      (if stmts.isEmpty then word "\x7b\x7d"
        else word "\x7b" ++ hardBreak ++ statementsDoc r stmts ++ shift (-indent) ++ word "\x7d") ++
      close
  | ps => openAll indent ++ branchesUpTo r (ps.foldl (fun n p => n + p.depth) 1) ps ++ close

/-- A body that gets braces, or parentheses, when it does not fit. -/
def bracedBody (isArm : Bool) (body : Node) (doc : Doc) : Doc :=
  let braces := canBeStatement (body.depth + 1) body
  let before : Break := { beforeEnd := some (if braces then '{' else '(') }
  let after : Break :=
    { offset := -indent
      beforeEnd := if braces && getsSemicolon body then some ';' else none
      afterEnd := if braces then "\x7d" else if isArm then ")," else ")"
      otherwise := if isArm && !standsAlone body then some ',' else none }
  openAll indent ++ [.line before] ++ doc ++ [.line after] ++ close

/-- One pattern of a choice with what it leads to; a block there loses the attributes before
it. -/
def armDoc (n : Node) : Doc :=
  let ps := afterAttributes n.parts
  let beforeArrow := ps.takeWhile fun p => !p.isOp "=>"
  let afterArrow := (ps.dropWhile fun p => !p.isOp "=>").drop 1
  let guard := match beforeArrow with
    | [_, _, e] => word " if " ++ r.expr false e
    | _ => []
  let body := (afterArrow.head?.map fun b => unwrapBody (b.depth + 1) b).getD (.phrase .tuple [])
  let isEmptyTuple := match body with
    | .phrase .tuple [.group _ []] => true
    | _ => false
  leadingDoc r n.parts ++ openSome 0 ++ (beforeArrow.head?.map r.pattern).getD [] ++ guard ++
    word " => " ++
    (if isEmptyTuple then largeBlock r []
      else match bare body with
        | .phrase .block qs => largeBlock r (blockParts (.phrase .block qs))
        | .phrase .labeled [.lifetime i, _, .phrase .block qs] =>
          labelDoc i ++ largeBlock r (blockParts (.phrase .block qs))
        | _ => neverBreak ++ bracedBody true body (r.expr true body)) ++ close

/-- A closure. -/
def closureDoc (ps : List Node) : Doc :=
  let keywords := ["const", "static", "async", "move"].flatMap fun k =>
    if hasWord k ps then word (k ++ " ") else []
  let inputs := match part? .closureInputs ps with
    | some n => (commaElements n.parts).filter fun p => !p.isOp "|"
    | none => []
  let inputsDoc := match inputs with
    | [] => []
    | es => zeroBreak ++ eachLast (fun p isLast =>
        r.pattern p ++ (if isLast then [] else word "," ++ space)) es
  let body := ps.getLastD (.phrase .tuple [])
  let wrap := match body with
    | .phrase .matchExpr _ => false
    | .phrase .call _ => false
    | body => !isBlockArgument body
  openSome 0 ++ forLifetimesDoc r ps ++ keywords ++ openAll indent ++ word "|" ++ inputsDoc ++
    (match part? .returnType ps with
      | none =>
        word "|" ++ space ++ shift (-indent) ++ close ++ neverBreak ++
          (if wrap then bracedBody false body (r.expr false body) else r.expr false body)
      | some _ =>
        (if inputs.isEmpty then [] else comma true ++ shift (-indent)) ++ word "|" ++ close ++
          returnTypeDoc r ps ++ blank ++ neverBreak ++ r.expr false body) ++ close

/-- A field of a structure. -/
def fieldValueDoc (n : Node) : Doc :=
  leadingDoc r n.parts ++ match afterAttributes n.parts with
    | [f, _, e] => memberDoc f ++ word ": " ++ openSome 0 ++ r.expr false e ++ close
    | [f] => memberDoc f
    | _ => []

/-- Whether two dots are all that stands for the other fields. -/
def isBareRest : Node → Bool
  | .phrase .fieldRest [_] => true
  | _ => false

/-- A structure with its fields; two dots alone are dropped. -/
def structDoc (p : Node) (fs : List Node) : Doc :=
  openAll indent ++ openSome (-indent) ++ pathDoc r .expr p ++ close ++ word " \x7b" ++
    spaceIfNonempty ++
    eachLast (fun f isLast =>
      match f with
      | .phrase .fieldRest (_ :: e) => word ".." ++ e.flatMap (r.expr false) ++ space
      | f => fieldValueDoc r f ++ commaOrSpace isLast)
      ((commaElements fs).filter fun f => !isBareRest f) ++
    shift (-indent) ++ [.closeWithin 34] ++ word "\x7d"

/-- An array. -/
def arrayDoc (es : List Node) : Doc :=
  if es.isEmpty then word "[]"
  else if isSimpleArray es then
    openAll indent ++ word "[" ++ zeroBreak ++ openSome 0 ++
      eachLast (fun e isLast => r.expr false e ++ (if isLast then [] else word "," ++ space)) es ++
      close ++ comma true ++ shift (-indent) ++ word "]" ++ close
  else
    word "[" ++ openAll indent ++ zeroBreak ++
      eachLast (fun e isLast => r.expr false e ++ comma isLast) es ++
      shift (-indent) ++ close ++ word "]"

/-- A jump with its label and its value. -/
def jumpDoc (keyword : String) (ps : List Node) : Doc :=
  word keyword ++ (ps.drop 1).flatMap fun p =>
    blank ++ match p with
      | .lifetime i => lifetimeWord i
      | e => r.expr false e

/-- An expression. -/
def exprDoc (atStart : Bool) (n : Node) : Doc :=
  match n with
  | .literal t => word t
  | .ident i => word i.text
  | .phrase .attributed ps =>
    leadingDoc r ps ++ (afterAttributes ps).flatMap (r.expr atStart)
  | .phrase .constArg [e] => r.expr atStart e
  | .phrase .pathExpr [p] => pathDoc r .expr p
  | .phrase .unary [.op o, e] => word o ++ r.expr false e
  | .phrase .reference ps =>
    word "&" ++ (if hasWord "mut" ps then word "mut " else []) ++
      (ps.getLast?.map (r.expr false)).getD []
  | .phrase .rawReference [_, _, m, e] =>
    word "&raw " ++ (if m.isWord "mut" then word "mut " else word "const ") ++ r.expr false e
  | .phrase .binary [a, .op o, b] =>
    openSome indent ++ openSome (-indent) ++ r.expr false a ++ close ++ space ++ word o ++ blank ++
      r.expr false b ++ close
  | .phrase .assign [a, _, b] =>
    openSome 0 ++ r.expr false a ++ word " = " ++ neverBreak ++ r.expr false b ++ close
  | .phrase .cast [e, _, t] =>
    openSome indent ++ openSome (-indent) ++ r.expr false e ++ close ++ space ++ word "as " ++
      r.type t ++ close
  | .phrase .range ps =>
    ps.flatMap fun p =>
      match p with
      | .op t => word t
      | e => r.expr false e
  | .phrase .call [f, .group _ args] =>
    r.expr atStart f ++ word "(" ++ callArguments r args ++ word ")"
  | .phrase .methodCall _ => chainDoc r atStart n
  | .phrase .field _ => chainDoc r atStart n
  | .phrase .await _ => chainDoc r atStart n
  | .phrase .tryOp _ => chainDoc r atStart n
  | .phrase .index _ => chainDoc r atStart n
  | .phrase .tuple [.group _ es] => tupleDoc (r.expr false) (commaElements es)
  | .phrase .paren [.group _ [e]] => word "(" ++ r.expr false e ++ word ")"
  | .phrase .grouped [.group _ [e]] => word "(" ++ r.expr false e ++ word ")"
  | .phrase .array [.group _ es] => arrayDoc r (commaElements es)
  | .phrase .repeated [.group _ [e, _, k]] =>
    word "[" ++ r.expr false e ++ word "; " ++ r.expr false k ++ word "]"
  | .phrase .structExpr [p, .group _ fs] => structDoc r p fs
  | .phrase .block _ => openAll indent ++ smallBlock r (blockParts n) ++ close
  | .phrase .labeled [.lifetime i, _, e] => labelDoc i ++ r.expr false e
  | .phrase .unsafeBlock [_, b] =>
    word "unsafe " ++ openAll indent ++ smallBlock r (blockParts b) ++ close
  | .phrase .asyncBlock ps =>
    word "async " ++ (if hasWord "move" ps then word "move " else []) ++ openAll indent ++
      smallBlock r ((ps.getLast?.map blockParts).getD []) ++ close
  | .phrase .constBlock [_, b] =>
    word "const " ++ openAll indent ++ smallBlock r (blockParts b) ++ close
  | .phrase .tryBlock [_, b] =>
    word "try " ++ openAll indent ++ smallBlock r (blockParts b) ++ close
  | .phrase .ifExpr ps => ifDoc r ps
  | .phrase .whileExpr [_, c, b] =>
    word "while " ++ conditionDoc r c ++ largeBlock r (blockParts b)
  | .phrase .forExpr [_, p, _, e, b] =>
    openSome 0 ++ word "for " ++ r.pattern p ++ word " in " ++ neverBreak ++ conditionDoc r e ++
      largeBlock r (blockParts b) ++ close
  | .phrase .loopExpr [_, b] =>
    word "loop \x7b" ++ blockLines r (blockParts b)
  | .phrase .matchExpr [_, e, .group _ arms] =>
    openSome 0 ++ word "match " ++ conditionDoc r e ++ word "\x7b" ++ neverBreak ++
      openAll indent ++ hardBreakIfNonempty ++ leadingDoc r arms ++
      (afterAttributes arms).flatMap (fun a => armDoc r a ++ hardBreak) ++ shift (-indent) ++
      close ++ word "\x7d" ++ close
  | .phrase .letExpr [_, p, _, e] =>
    word "let " ++ r.pattern p ++ word " = " ++ neverBreak ++ r.expr false e
  | .phrase .closure ps => closureDoc r ps
  | .phrase .returnExpr ps => jumpDoc r "return" ps
  | .phrase .breakExpr ps => jumpDoc r "break" ps
  | .phrase .continueExpr ps => jumpDoc r "continue" ps
  | .phrase .yieldExpr ps => jumpDoc r "yield" ps
  | .phrase .inferExpr _ => word "_"
  | .phrase .macroCall _ => macroDoc r false n
  | _ => []

/-! ## Statements -/

/-- A statement; `isLast` tells whether it ends its block. -/
def statementDoc (n : Node) (isLast : Bool) : Doc :=
  match n with
  | .phrase .letStmt ps =>
    match afterAttributes ps with
    | _ :: p :: rest =>
      leadingDoc r ps ++ openSome 0 ++ word "let " ++ r.pattern p ++
        (match rest with
          | [_, e, _] => word " = " ++ neverBreak ++ r.expr false e ++ close
          | [_, e, _, b, _] =>
            word " = " ++ neverBreak ++ r.expr false e ++ space ++ word "else " ++ close ++
              neverBreak ++ openAll indent ++ smallBlock r (blockParts b) ++ close
          | _ => close) ++
        word ";" ++ hardBreak
    | _ => []
  | .phrase .exprStmt [e] =>
    openSome 0 ++ r.expr true e ++ (if getsSemicolon e then word ";" else []) ++ close ++ hardBreak
  | .phrase .exprStmt [e, _] =>
    openSome 0 ++ r.expr true e ++
      (if losesSemicolon (e.depth + 1) e then [] else word ";") ++ close ++ hardBreak
  | .phrase .macroStmt ps =>
    let rest := afterAttributes ps
    let call := rest.headD (.phrase .macroStmt [])
    let semicolon := 1 < rest.length || (!isLast && macroNeedsSemicolon call)
    leadingDoc r ps ++ macroDoc r semicolon call ++ hardBreak
  | .phrase .emptyStmt _ => []
  | n => r.item n

end

end RestLoom.Layout
