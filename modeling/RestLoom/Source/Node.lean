import RestLoom.Token.Basic

/-!
# Source/Node — source trees

    &'a [u8]  ──▸  refType [&, 'a, sliceType [[pathType …]]]

A source tree has the tokens of a text at its leaves, in order, and says above them which phrase of
the language they form.  `Node.tokens` forgets the phrases: no phrase adds, drops or moves a token
(`tokensAll_append`), so two trees with the same leaves are two readings of one text.
-/

namespace RestLoom.Source

open RestLoom.Token (Ident Delimiter)

/-- The phrases of the language. -/
inductive Kind where
  | attribute
  -- paths
  | path | segment | qualified | genericArgs | parenArgs | returnType
  | assocType | assocConst | constraint | constArg
  /-- A lifetime that is written after an argument of another sort; lifetimes stand first. -/
  | movedLifetime
  -- types
  | pathType | refType | ptrType | tupleType | parenType | arrayType | sliceType | fnType
  | fnTypeArg | variadic | traitObject | implTrait | neverType | inferType | abi
  -- bounds and generic parameters
  | bounds | traitBound | captures | forLifetimes
  | generics | lifetimeParam | typeParam | constParam
  | whereClause | lifetimePredicate | typePredicate
  -- patterns
  | identPat | wildPat | restPat | tuplePat | tupleStructPat | structPat | fieldPat | pathPat
  | refPat | literalPat | rangePat | orPat | slicePat | parenPat | typePat
  -- expressions
  | attributed | pathExpr | unary | reference | rawReference | binary | assign | cast | range
  | call | methodCall | field | await | tryOp | index | tuple | paren | array | repeated
  | structExpr | fieldValue | fieldRest | block | labeled | unsafeBlock | asyncBlock
  | constBlock | tryBlock | ifExpr | whileExpr | forExpr | loopExpr | matchExpr | arm | letExpr
  | closure | closureInputs | returnExpr | breakExpr | continueExpr | yieldExpr | inferExpr
  /-- An expression that its attributes set apart by parentheses. -/
  | grouped
  -- statements
  | letStmt | exprStmt | macroStmt | emptyStmt
  -- items
  | macroCall | macroItem | visibility | useItem | usePath | useName | useRename | useGlob
  | useGroup | moduleItem | traitItem | traitAlias | implItem | fnItem | constItem | staticItem
  | typeItem | foreignType | structItem | enumItem | unionItem | externCrate | externBlock
  | signature | receiver | param | namedFields | tupleFields | fieldDecl | variant
  | supertraits
  /-- Tokens of a phrase that is recognised and kept as it is written. -/
  | verbatim
  deriving DecidableEq

/-- A source tree. -/
inductive Node where
  | ident (name : Ident)
  | lifetime (name : Ident)
  | literal (text : String)
  | op (text : String)
  | group (d : Delimiter) (parts : List Node)
  | raw (tokens : List Token)
  | phrase (k : Kind) (parts : List Node)

namespace Node

/-- A keyword. -/
def word (text : String) : Node := ident (.plain text)

/-! ## Tokens -/

mutual

/-- The tokens at the leaves of a tree. -/
def tokens : Node → List Token
  | ident name => [.ident name]
  | lifetime name => Token.ofLifetime name
  | literal text => [.literal text]
  | op text => Token.ofOperator text
  | group d parts => [.group d (tokensAll parts)]
  | raw ts => ts
  | phrase _ parts => tokensAll parts

/-- The tokens at the leaves of trees in order. -/
def tokensAll : List Node → List Token
  | [] => []
  | n :: ns => tokens n ++ tokensAll ns

end

theorem tokensAll_append (a b : List Node) : tokensAll (a ++ b) = tokensAll a ++ tokensAll b := by
  induction a with
  | nil => simp [tokensAll]
  | cons n ns ih => simp [tokensAll, ih]

theorem tokensAll_eq_flatMap (ns : List Node) : tokensAll ns = ns.flatMap tokens := by
  induction ns with
  | nil => simp [tokensAll]
  | cons n ns ih => simp [tokensAll, ih]

mutual

/-- The number of levels of a tree. -/
def depth : Node → Nat
  | group _ parts => depthAll parts + 1
  | phrase _ parts => depthAll parts + 1
  | _ => 1

/-- The number of levels of the deepest of several trees. -/
def depthAll : List Node → Nat
  | [] => 0
  | n :: ns => max (depth n) (depthAll ns)

end

mutual

/-- Whether a tree holds a phrase that is kept as it is written. -/
def hasVerbatim : Node → Bool
  | group _ parts => anyVerbatim parts
  | phrase k parts => k = .verbatim || anyVerbatim parts
  | _ => false

/-- Whether one of several trees holds a phrase that is kept as it is written. -/
def anyVerbatim : List Node → Bool
  | [] => false
  | n :: ns => hasVerbatim n || anyVerbatim ns

end

/-! ## Views -/

/-- The phrase that a tree is. -/
def kind? : Node → Option Kind
  | phrase k _ => some k
  | _ => none

/-- Whether a tree is a phrase of that kind. -/
def isKind (k : Kind) (n : Node) : Bool := n.kind? == some k

/-- Whether a tree is that operator. -/
def isOp (text : String) : Node → Bool
  | op t => t == text
  | _ => false

/-- Whether a tree is that keyword. -/
def isWord (text : String) : Node → Bool
  | ident i => i.is text
  | _ => false

/-- The parts of a phrase or of a group. -/
def parts : Node → List Node
  | phrase _ ps => ps
  | group _ ps => ps
  | _ => []

end Node

/-- The attributes at the start of the parts of a phrase. -/
def leadingAttributes (ps : List Node) : List Node := ps.takeWhile (·.isKind .attribute)

/-- The parts of a phrase after its attributes. -/
def afterAttributes (ps : List Node) : List Node := ps.dropWhile (·.isKind .attribute)

/-- The first part that is a phrase of that kind. -/
def part? (k : Kind) (ps : List Node) : Option Node := ps.find? (·.isKind k)

/-- Whether a keyword is among the parts. -/
def hasWord (text : String) (ps : List Node) : Bool := ps.any (·.isWord text)

/-- The parts between the separators. -/
def elements (separator : String) (ps : List Node) : List Node :=
  ps.filter fun n => !n.isOp separator

/-- Whether no segment of a path has arguments. -/
def isPlainPath : Node → Bool
  | .phrase .path ps => (ps.filter (·.isKind .segment)).all fun s => s.parts.length == 1
  | _ => false

/-- The name of a path that is one bare segment. -/
def pathIdent? : Node → Option Ident
  | .phrase .path [.phrase .segment [.ident i]] => some i
  | _ => none

/-- Whether a path is one bare segment with that text. -/
def isPathIdent (n : Node) (text : String) : Bool := (pathIdent? n).any (·.is text)

/-- The last segment of a path: its name and its arguments. -/
def lastSegment? : Node → Option (Ident × List Node)
  | .phrase .path ps =>
    match ps.getLast? with
    | some (.phrase .segment (.ident i :: args)) => some (i, args)
    | _ => none
  | _ => none

/-- Expressions that are a statement without a semicolon. -/
def isBlockLike : Node → Bool
  | .phrase .ifExpr _ => true
  | .phrase .matchExpr _ => true
  | .phrase .block _ => true
  | .phrase .unsafeBlock _ => true
  | .phrase .whileExpr _ => true
  | .phrase .loopExpr _ => true
  | .phrase .forExpr _ => true
  | .phrase .tryBlock _ => true
  | .phrase .constBlock _ => true
  | .phrase .labeled _ => true
  | _ => false

/-- An expression without its attributes. -/
def bare : Node → Node
  | .phrase .attributed ps => ps.getLastD (.phrase .attributed [])
  | n => n

/-- Whether an expression, its attributes aside, is a statement without a semicolon. -/
def standsAlone (e : Node) : Bool := isBlockLike (bare e)

/-- Whether an expression, its attributes aside, is a range. -/
def isRange (e : Node) : Bool := e.isKind .range || (bare e).isKind .grouped

end RestLoom.Source
