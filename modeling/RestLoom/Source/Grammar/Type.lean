import RestLoom.Source.Grammar.Attribute

/-!
# Source/Grammar/Type — paths, types, bounds and generic parameters

A path may carry arguments between angle brackets or, for a function trait, between parentheses.
Whether a type may go on with a plus and further bounds depends on where it stands.
-/

namespace RestLoom.Source

open RestLoom.Token (Ident Delimiter)

/-- A segment with its arguments. -/
def segment (i : Ident) (arguments : List Node) : Node := .phrase .segment (.ident i :: arguments)

/-- Whether parentheses after `pub` say who may use a declaration. -/
def restrictionAhead : Reader Bool := do
  match ← ahead with
  | .group .paren (.ident i :: rest) :: _ =>
    return i.is "in" || (rest.isEmpty && ["crate", "self", "super"].contains i.text)
  | _ => return false

/-- A visibility. -/
def visibility : Reader Visibility := do
  if ← peekWord "pub" then
    let _ ← word "pub"
    if ← restrictionAhead then
      inGroup .paren do
        if ← peekWord "in" then
          let _ ← word "in"
          return .within true (← plainPath)
        else return .within false (identPath (← anyWord))
    else return .everyone
  else return .inherited

/-- Whether an argument or a parameter is a lifetime. -/
def isLifetime : Node → Bool
  | .lifetime _ => true
  | n => n.isKind .lifetimeParam || n.isKind .movedLifetime

/-- Elements with lifetimes first.  Each takes along the separator that follows it, and one is put
where none is. -/
def lifetimesFirst (es : List (Node × Bool)) : List Node :=
  let es := es.filter (fun e => isLifetime e.1) ++ es.filter fun e => !isLifetime e.1
  separated "," (endsMarked es) (es.map (·.1))

/-- Elements whose lifetimes are marked as moved where they do not stand first. -/
def markMoved (es : List (Node × Bool)) : List (Node × Bool) :=
  es.takeWhile (fun e => isLifetime e.1) ++ (es.dropWhile fun e => isLifetime e.1).map fun e =>
    if isLifetime e.1 then (.phrase .movedLifetime [e.1], e.2) else e

/-- Parameters between angle brackets, lifetimes first; a comma may come last. -/
def angled (element : Reader Node) : Reader (List Node) := do
  return lifetimesFirst (← separatedMarked "," (peekOp ">") element)

/-- Whether generic parameters begin here, and not a type between angle brackets. -/
def startsGenerics (ts : List Token) : Bool :=
  let second := skipOne ts
  let third := skipOne second
  Ahead.holds (.op "<") ts && (Ahead.holds (.op ">") second || Ahead.holds (.op "#") second ||
    Ahead.holds (.word "const") second ||
    ((Ahead.holds .lifetime second || Ahead.holds .name second) &&
      (Ahead.holds (.op ">") third || Ahead.holds (.op ",") third || Ahead.holds (.op "=") third ||
        (Ahead.holds (.op ":") third && !Ahead.holds (.op "::") third))))

/-- Whether generic parameters begin here. -/
def genericsAhead : Reader Bool := return startsGenerics (← ahead)

/-- Whether generic parameters begin after the word here. -/
def genericsAfterWord : Reader Bool := return startsGenerics (skipOne (← ahead))

/-- A colon and the bounds after it; nothing stands for no bounds. -/
def boundsAfter (colon : List Node) (bounds : List Node) : List Node :=
  if bounds.isEmpty then [] else colon ++ [.phrase .bounds bounds]

section
variable (g : Grammar)

/-! ## Paths -/

/-- A constant as an argument: a literal, a name or a block. -/
def constArgument : Reader Node := do
  if ← peek .literal then return .phrase .constArg [← literal]
  else if ← peek .name then
    return .phrase .constArg [.phrase .pathExpr [identPath (← name)]]
  else if ← peek (.group .brace) then return .phrase .constArg [← g.ownBlock]
  else refuse []

/-- A type between parentheses and further on, as the arguments of a function trait. -/
def parenArguments : Reader Node := do
  let inputs ← inGroup .paren (nodesUntil "," atEnd (g.type true))
  let output ← if ← peekOp "->" then do
      let arrow ← op "->"
      pure [.phrase .returnType [arrow, ← g.type false]]
    else pure []
  return .phrase .parenArgs (.group .paren inputs :: output)

/-- The name of a path's last segment if it has no arguments, or none between angle brackets. -/
def openSegment? : Node → Option Ident
  | .phrase .path ps =>
    match ps.getLast? with
    | some (.phrase .segment [.ident i]) => some i
    | some (.phrase .segment [.ident i, .phrase .genericArgs args]) =>
      if args.all fun a => a.isOp "::" || a.isOp "<" || a.isOp ">" then some i else none
    | _ => none
  | _ => none

/-- A path with another last segment. -/
def withLastSegment (s : Node) (path : Node) : Node := .phrase .path (path.parts.dropLast ++ [s])

/-- A modifier that makes a bound hold for constants, always or under a condition. -/
def constModifier (allowed : Bool) : Reader Bool := do
  if ← peek (.group .bracket) then
    inGroup .bracket do
      let _ ← word "const"
    if allowed then return true else forbid "\x60[const]\x60 is not allowed here"
  else if ← peekWord "const" then
    let _ ← word "const"
    if allowed then return true else forbid "\x60const\x60 is not allowed here"
  else return false

/-- Parameters that a bound captures. -/
def captured : Reader (List (Node × Bool)) :=
  repeatStep fun acc => do
    let element ← if ← peek .lifetime then do pure (some (Node.lifetime (← lifetime)))
      else if ← peekAny [.name, .word "Self"] then do pure (some (Node.ident (← anyWord)))
      else if ← peekOp ">" then pure none
      else refuseAll [.lifetime, .name, .op ">"]
    match element with
    | none => return (acc, false)
    | some e =>
      if ← peekOp "," then
        let _ ← op ","
        return (acc ++ [(e, true)], true)
      else if ← peekOp ">" then return (acc ++ [(e, false)], false)
      else refuseAll [.op ",", .op ">"]

/-- Where bounds are: what may be among them. -/
structure BoundPlace where
  captures : Bool
  const : Bool

/-- Bounds of traits and lifetimes only. -/
def BoundPlace.plain : BoundPlace := ⟨false, false⟩

/-- Bounds that may hold for constants. -/
def BoundPlace.const? : BoundPlace := ⟨false, true⟩

mutual

/-- One bound, by way of a bound on the nesting of arguments. -/
def boundUpTo : Nat → BoundPlace → Reader Node
  | 0, _ => refuse []
  | fuel + 1, place => do
    if ← peek .lifetime then return .lifetime (← lifetime)
    else if ← peekWord "use" then
      let u ← word "use"
      let l ← op "<"
      let inner := lifetimesFirst (← captured)
      let r ← op ">"
      if place.captures then return .phrase .captures (u :: l :: inner ++ [r])
      else forbid "\x60use<...>\x60 precise capturing syntax is not allowed here"
    else
      let start ← ahead
      let inParens ← peek (.group .paren)
      let (isConst, parts) ← if inParens then inGroup .paren (traitBoundUpTo fuel place.const)
        else traitBoundUpTo fuel place.const
      if isConst then keptSince start
      else if inParens then
        return .phrase .traitBound [.group .paren [.phrase .traitBound parts]]
      else return .phrase .traitBound parts

/-- The parts of a trait bound: lifetimes that it binds, a question mark, and a path; with the word
whether it holds for constants. -/
def traitBoundUpTo : Nat → Bool → Reader (Bool × List Node)
  | 0, _ => refuse []
  | fuel + 1, allowConst => do
    let binder ← forLifetimesUpTo fuel
    let isConst ← constModifier allowConst
    let question ← op? "?"
    let binder ← if binder.isEmpty && !question.isEmpty then forLifetimesUpTo fuel else pure binder
    let path ← pathUpTo fuel false
    let path ← functionArguments path
    if !binder.isEmpty && !question.isEmpty then
      forbid
        "\x60for<...>\x60 binder not allowed with \x60?\x60 trait polarity modifier"
    else return (isConst, binder ++ question ++ [path])

/-- The parameters that a bound or a type binds. -/
def forLifetimesUpTo : Nat → Reader (List Node)
  | 0 => refuse []
  | fuel + 1 => do
    if ← peekWord "for" then
      let f ← word "for"
      let l ← op "<"
      let params ← nodesUntil "," (peekOp ">") (boundParamUpTo fuel)
      let r ← op ">"
      return [.phrase .forLifetimes (f :: l :: params ++ [r])]
    else return []

/-- A parameter that a bound or a type binds. -/
def boundParamUpTo : Nat → Reader Node
  | 0 => refuse []
  | fuel + 1 => do
    let attributes ← outerAttributeNodes g
    if ← peek .name then typeParamUpTo fuel attributes
    else if ← peek .lifetime then lifetimeParamUpTo fuel attributes
    else if ← peekWord "const" then constParamUpTo fuel attributes
    else refuseAll [.name, .lifetime, .word "const"]

/-- A type parameter. -/
def typeParamUpTo : Nat → List Node → Reader Node
  | 0, _ => refuse []
  | fuel + 1, attributes => do
    let i ← name
    let colon ← op? ":"
    let bounds ← if colon.isEmpty then pure []
      else nodesWhile "+" (peekAny [.op ",", .op ">", .op "="]) (boundUpTo fuel .const?)
    let default ← if ← peekOp "=" then do
        let e ← op "="
        pure [e, ← g.type true]
      else pure []
    return .phrase .typeParam (attributes ++ .ident i :: boundsAfter colon bounds ++ default)

/-- A constant parameter. -/
def constParamUpTo : Nat → List Node → Reader Node
  | 0, _ => refuse []
  | _ + 1, attributes => do
    let c ← word "const"
    let i ← name
    let colon ← op ":"
    let t ← g.type true
    let default ← if ← peekOp "=" then do
        let e ← op "="
        pure [e, ← constArgument g]
      else pure []
    return .phrase .constParam (attributes ++ [c, .ident i, colon, t] ++ default)

/-- A lifetime parameter with its bounds. -/
def lifetimeParamUpTo : Nat → List Node → Reader Node
  | 0, _ => refuse []
  | _ + 1, attributes => do
    let l ← lifetime
    let colon ← op? ":"
    let ends : Reader Bool := do return (← atEnd) || (← peekAny [.op ",", .op ">"])
    let bounds ← if colon.isEmpty then pure []
      else nodesWhile "+" ends do return .lifetime (← lifetime)
    return .phrase .lifetimeParam (attributes ++ .lifetime l :: boundsAfter colon bounds)

/-- Arguments between parentheses after a path without any; colons before them are dropped. -/
def functionArguments (path : Node) : Reader Node := do
  match openSegment? path with
  | none => return path
  | some i =>
    if (← peek (.group .paren)) || ((← peekOp "::") && (← peek3 (.group .paren))) then
      let _ ← op? "::"
      return withLastSegment (segment i [← parenArguments g]) path
    else return path

/-- A segment of a path; in an expression its arguments come after two colons. -/
def pathSegmentUpTo : Nat → Bool → Reader Node
  | 0, _ => refuse []
  | fuel + 1, inExpr => do
    if ← peekAny [.word "super", .word "self", .word "crate", .word "try"] then
      return bareSegment (← anyWord)
    else
      let i ← if ← peekWord "Self" then anyWord else name
      let direct := !inExpr && (← peekOp "<") && !(← peekOp "<=") && !(← peekOp "<<=")
      if direct || ((← peekOp "::") && (← peek3 (.op "<"))) then
        return segment i [← genericArgumentsUpTo fuel]
      else return bareSegment i

/-- Arguments between angle brackets. -/
def genericArgumentsUpTo : Nat → Reader Node
  | 0 => refuse []
  | fuel + 1 => do
    let colons ← op? "::"
    let l ← op "<"
    let arguments ← separatedMarked "," (peekOp ">") (genericArgumentUpTo fuel)
    let r ← op ">"
    return .phrase .genericArgs (colons ++ l :: lifetimesFirst (markMoved arguments) ++ [r])

/-- One argument between angle brackets: a lifetime, a constant, a type, or a name with what it is
to be. -/
def genericArgumentUpTo : Nat → Reader Node
  | 0 => refuse []
  | fuel + 1 => do
    if (← peek .lifetime) && !(← peek2 (.op "+")) then return .lifetime (← lifetime)
    else if ← peekAny [.literal, .group .brace] then constArgument g
    else
      let t ← g.type true
      match t with
      | .phrase .pathType [.phrase .path [.phrase .segment (.ident i :: arguments)]] =>
        if ← peekOp "=" then
          let e ← op "="
          if ← peekAny [.literal, .group .brace] then
            return .phrase .assocConst (.ident i :: arguments ++ [e, ← constArgument g])
          else return .phrase .assocType (.ident i :: arguments ++ [e, ← g.type true])
        else if ← peekOp ":" then
          let c ← op ":"
          let bounds ← nodesWhile "+" (peekAny [.op ",", .op ">"]) (boundUpTo fuel .const?)
          return .phrase .constraint (.ident i :: arguments ++ [c, .phrase .bounds bounds])
        else return t
      | t => return t

/-- A path. -/
def pathUpTo : Nat → Bool → Reader Node
  | 0, _ => refuse []
  | fuel + 1, inExpr => do
    let front ← op? "::"
    let first ← pathSegmentUpTo fuel inExpr
    let rest ← pathRestUpTo fuel inExpr
    return .phrase .path (front ++ first :: rest)

/-- The further segments of a path, each with the colons before it. -/
def pathRestUpTo : Nat → Bool → Reader (List Node)
  | 0, _ => refuse []
  | fuel + 1, inExpr => do
    if (← peekOp "::") && !(← peek3 (.group .paren)) then
      let c ← op "::"
      let s ← pathSegmentUpTo fuel inExpr
      return c :: s :: (← pathRestUpTo fuel inExpr)
    else return []

end

/-- The number of steps that suffices for the paths ahead. -/
def pathFuel : Reader Nat := return 2 * (← ahead).length + 16

/-- One bound. -/
def bound (place : BoundPlace) : Reader Node := do boundUpTo g (← pathFuel) place

/-- The parameters that a bound or a type binds. -/
def forLifetimes : Reader (List Node) := do forLifetimesUpTo g (← pathFuel)

/-- A path. -/
def path (inExpr : Bool) : Reader Node := do pathUpTo g (← pathFuel) inExpr

/-- Arguments between angle brackets. -/
def genericArguments : Reader Node := do genericArgumentsUpTo g (← pathFuel)

/-- A path, or one that begins with a type between angle brackets. -/
def qualifiedPath (inExpr : Bool) : Reader Node := do
  if ← peekOp "<" then
    let fuel ← pathFuel
    let l ← op "<"
    let this ← g.type true
    let asTrait ← if ← peekWord "as" then do
        let a ← word "as"
        pure [a, ← path g false]
      else pure []
    let r ← op ">"
    let colons ← op "::"
    let segments ← nodesWhile "::" (pure false) (pathSegmentUpTo g fuel inExpr)
    return .phrase .qualified
      (l :: this :: asTrait ++ [r, colons, .phrase .path segments])
  else path g inExpr

/-! ## Types -/

/-- Whether a further bound may follow a plus. -/
def boundFollows : Reader Bool :=
  peekAny [.anyWord, .op "::", .op "?", .lifetime, .group .paren]

/-- The further bounds after the first one, each with the plus before it; a plus may come last. -/
def moreBounds (place : BoundPlace) (first : Node) : Reader (List Node) := do
  let follows : Reader Bool := do
    return (← boundFollows) || (place.const && (← peek (.group .bracket)))
  let rest ← repeatStep fun acc => do
    if ← peekOp "+" then
      let plus ← op "+"
      if ← follows then return (acc ++ [plus, ← bound g place], true)
      else return (acc ++ [plus], false)
    else return (acc, false)
  return first :: rest

/-- The further bounds after a first one between parentheses; none may be missing after a plus. -/
def boundsAfterParens (first : Node) : Reader (List Node) := do
  let rest ← repeatStep fun acc => do
    if ← peekOp "+" then
      let plus ← op "+"
      return (acc ++ [plus, ← bound g .plain], true)
    else return (acc, false)
  return first :: rest

/-- Bounds joined by plus signs. -/
def boundList (allowPlus : Bool) (place : BoundPlace) : Reader (List Node) := do
  let first ← bound g place
  if allowPlus then moreBounds g place first else return [first]

/-- Whether bounds name a trait at all. -/
def namesTrait (bounds : List Node) : Bool :=
  bounds.any fun b => b.isKind .traitBound || b.isKind .verbatim

/-- Bounds joined by plus signs, at least one of which is a trait. -/
def objectBounds (allowPlus : Bool) : Reader (List Node) := do
  let bounds ← boundList g allowPlus .plain
  if namesTrait bounds then return bounds
  else forbid "at least one trait is required for an object type"

/-- A reference type. -/
def refType : Reader Node := do
  let amp ← op "&"
  let l ← if ← peek .lifetime then pure [Node.lifetime (← lifetime)] else pure []
  let m ← word? "mut"
  return .phrase .refType (amp :: l ++ m ++ [← g.type false])

/-- A pointer type. -/
def ptrType : Reader Node := do
  let star ← op "*"
  if ← peekAny [.word "const", .word "mut"] then
    let m ← anyWord
    return .phrase .ptrType [star, .ident m, ← g.type false]
  else refuseAll [.word "const", .word "mut"]

/-- The calling convention of a function. -/
def abi? : Reader (Option Node) := do
  if ← peekWord "extern" then
    let e ← word "extern"
    let s ← if ← peek .string then pure [Node.literal (← string)] else pure []
    return some (.phrase .abi (e :: s))
  else return none

/-- A parameter of a function type: a type, which may have a name.  The first one may be `self`;
one with `mut self` is kept as it is written. -/
def fnTypeParam (attributes : List Node) (isFirst : Bool) : Reader Node := do
  let start ← ahead
  let mutSelf : Reader Bool := do
    return isFirst && (← peekWord "mut") && (← peek2 (.word "self"))
  let isMut ← mutSelf
  if isMut then
    let _ ← word "mut"
  let isSelf := isFirst && (← peekWord "self")
  let named := ((← peekAny [.name, .word "_"]) || isSelf) && (← peek2 (.op ":")) &&
    !(← peek2 (.op "::"))
  let front ← if named then do
      let i ← anyWord
      pure [Node.ident i, ← op ":"]
    else pure []
  if !(isSelf && named) && (← mutSelf) then
    let _ ← word "mut"
    let _ ← word "self"
    return .phrase .fnTypeArg (attributes ++ [← keptSince start])
  else if isMut then
    let _ ← if named then g.type true else word "self"
    return .phrase .fnTypeArg (attributes ++ [← keptSince start])
  else return .phrase .fnTypeArg (attributes ++ front ++ [← g.type true])

/-- The dots at the end of a function type's parameters, which may have a name. -/
def fnTypeDots (attributes : List Node) : Reader Node := do
  let front ← if ← peekAny [.name, .word "_"] then do
      let i ← anyWord
      pure [Node.ident i, ← op ":"]
    else pure []
  let dots ← op "..."
  return .phrase .variadic (attributes ++ front ++ [dots] ++ (← op? ","))

/-- The parameters of a function type. -/
def fnTypeParams : Reader (List Node) :=
  repeatStep fun acc => do
    if ← atEnd then return (acc, false)
    else
      let attributes ← outerAttributeNodes g
      if (← peekOp "...") ||
          ((← peekAny [.name, .word "_"]) && (← peek2 (.op ":")) && (← peek3 (.op "..."))) then
        return (acc ++ [← fnTypeDots attributes], false)
      else
        let p ← fnTypeParam g attributes acc.isEmpty
        if ← atEnd then return (acc ++ [p], false)
        else return (acc ++ [p, ← op ","], true)

/-- A return type without further bounds. -/
def returnTypeWithoutPlus : Reader (List Node) := do
  if ← peekOp "->" then
    let arrow ← op "->"
    return [.phrase .returnType [arrow, ← g.type false]]
  else return []

/-- A function type. -/
def fnType (binder : List Node) : Reader Node := do
  let own ← forLifetimes g
  let u ← word? "unsafe"
  let a ← abi?
  let f ← word "fn"
  let inputs ← inGroup .paren (fnTypeParams g)
  let output ← returnTypeWithoutPlus g
  return .phrase .fnType ((if binder.isEmpty then own else binder) ++ u ++ a.toList ++
    f :: .group .paren inputs :: output)

/-- What stands between parentheses in place of a type. -/
inductive Parenthesised where
  | done (n : Node)
  | bound (parts : List Node)
  | type (t : Node)

/-- The inside of a type between parentheses. -/
def insideParens : Reader Parenthesised := do
  if ← atEnd then return .done (.phrase .tupleType [.group .paren []])
  else if ← peek .lifetime then
    return .done (.phrase .parenType [.group .paren [.phrase .traitObject (← objectBounds g true)]])
  else if ← peekOp "?" then
    return .bound (← traitBoundUpTo g (← pathFuel) false).2
  else
    let first ← g.type true
    if ← peekOp "," then
      let comma ← op ","
      let rest ← nodesUntil "," atEnd (g.type true)
      return .done (.phrase .tupleType [.group .paren (first :: comma :: rest)])
    else return .type first

/-- A bound between parentheses. -/
def parenBound (parts : List Node) : Node :=
  .phrase .traitBound [.group .paren [.phrase .traitBound parts]]

/-- The bound that a type between parentheses is, if it is one. -/
def asBound : Node → Option Node
  | .phrase .pathType [.phrase .path ps] => some (parenBound [.phrase .path ps])
  | .phrase .traitObject [.phrase .traitBound [.group .paren [.phrase .traitBound ps]]] =>
    some (parenBound ps)
  | .phrase .traitObject [.phrase .traitBound ps] => some (parenBound ps)
  | _ => none

/-- A type that begins with parentheses. -/
def parenthesisedType (allowPlus : Bool) : Reader Node := do
  match ← inGroup .paren (insideParens g) with
  | .done n => return n
  | .bound ps => return .phrase .traitObject (← boundsAfterParens g (parenBound ps))
  | .type t =>
    let plain : Node := .phrase .parenType [.group .paren [t]]
    if allowPlus && (← peekOp "+") then
      match asBound t with
      | some b => return .phrase .traitObject (← boundsAfterParens g b)
      | none => return plain
    else return plain

/-- A type that begins with a path. -/
def pathStartedType (allowPlus : Bool) (binder : List Node) : Reader Node := do
  let p ← qualifiedPath g false
  if p.isKind .qualified then return .phrase .pathType [p]
  else if (← peekOp "!") && !(← peekOp "!=") && isPlainPath p then
    let bang ← op "!"
    let (d, ts) ← delimited
    return .phrase .macroCall [p, bang, .group d [.raw ts]]
  else if !binder.isEmpty || (allowPlus && (← peekOp "+")) then
    let first : Node := .phrase .traitBound (binder ++ [p])
    if allowPlus then return .phrase .traitObject (← moreBounds g .plain first)
    else return .phrase .traitObject [first]
  else return .phrase .pathType [p]

/-- A type that begins with `dyn`; a star after it is kept as it is written. -/
def objectType (allowPlus : Bool) : Reader Node := do
  let start ← ahead
  let d ← word "dyn"
  let star ← op? "*"
  let bounds ← objectBounds g allowPlus
  if star.isEmpty then return .phrase .traitObject (d :: bounds)
  else keptSince start

/-- What a type may begin with, in the order in which errors list it. -/
def typeStarts : List Ahead :=
  [.word "for", .group .paren, .word "fn", .word "unsafe", .word "extern", .name, .op "::", .op "<",
    .word "dyn", .group .bracket, .op "*", .op "&", .op "!", .word "impl", .word "_", .lifetime]

/-- What a type may begin with after the lifetimes that it binds. -/
def boundTypeStarts : List Ahead :=
  [.name, .word "fn", .word "unsafe", .word "extern", .word "super", .word "self", .word "Self",
    .word "crate"]

/-- A type. -/
def typeWith (allowPlus : Bool) : Reader Node := do
  let binder ← forLifetimes g
  if !binder.isEmpty && !(← peekAny boundTypeStarts) then refuseAll boundTypeStarts
  else if ← peek (.group .paren) then parenthesisedType g allowPlus
  else if ← peekAny [.word "fn", .word "unsafe", .word "extern"] then fnType g binder
  else if ← peekAny (segmentStarts ++ [.op "::", .op "<"]) then
    pathStartedType g allowPlus binder
  else if ← peekWord "dyn" then objectType g allowPlus
  else if ← peek (.group .bracket) then
    inGroup .bracket do
      let t ← g.type true
      if ← peekOp ";" then
        let s ← op ";"
        return .phrase .arrayType [.group .bracket [t, s, ← g.expr]]
      else return .phrase .sliceType [.group .bracket [t]]
  else if ← peekOp "*" then ptrType g
  else if ← peekOp "&" then refType g
  else if ← peekOp "!" then return .phrase .neverType [← op "!"]
  else if ← peekWord "impl" then
    let i ← word "impl"
    let bounds ← boundList g allowPlus ⟨true, true⟩
    if namesTrait bounds then return .phrase .implTrait (i :: bounds)
    else forbid "at least one trait must be specified"
  else if ← peekWord "_" then return .phrase .inferType [← word "_"]
  else if ← peek .lifetime then return .phrase .traitObject (← objectBounds g true)
  else refuseAll typeStarts

/-- A return type. -/
def returnType? : Reader (Option Node) := do
  if ← peekOp "->" then
    let _ ← op "->"
    return some (← g.type true)
  else return none

/-! ## Generic parameters -/

/-- One generic parameter; one without a name has no bounds. -/
def genericParam : Reader Node := do
  let attributes ← outerAttributeNodes g
  if ← peek .lifetime then lifetimeParamUpTo g (← pathFuel) attributes
  else if ← peek .name then typeParamUpTo g (← pathFuel) attributes
  else if ← peekWord "const" then constParamUpTo g (← pathFuel) attributes
  else if ← peekWord "_" then return .phrase .typeParam (attributes ++ [.ident (← anyWord)])
  else refuseAll [.lifetime, .name, .word "const"]

/-- Generic parameters; none between the angle brackets are as good as no angle brackets. -/
def generics? : Reader (Option Node) := do
  if ← peekOp "<" then
    let l ← op "<"
    let params ← angled (genericParam g)
    let r ← op ">"
    return if params.isEmpty then none else some (.phrase .generics (l :: params ++ [r]))
  else return none

/-- Where the bounds of a predicate end. -/
def predicateEnds : Reader Bool := do
  return (← atEnd) || (← peekAny [.group .brace, .op ",", .op ";", .op "="]) ||
    ((← peekOp ":") && !(← peekOp "::"))

/-- A predicate of a where clause. -/
def predicate : Reader Node := do
  if (← peek .lifetime) && (← peek2 (.op ":")) then
    let l ← lifetime
    let c ← op ":"
    let ends : Reader Bool := do
      return (← atEnd) || (← peekAny [.group .brace, .op ",", .op ";", .op ":", .op "="])
    let bounds ← nodesWhile "+" ends do return .lifetime (← lifetime)
    return .phrase .lifetimePredicate [.lifetime l, c, .phrase .bounds bounds]
  else
    let binder ← forLifetimes g
    let t ← g.type true
    let c ← op ":"
    let bounds ← nodesWhile "+" predicateEnds (bound g .const?)
    return .phrase .typePredicate (binder ++ [t, c, .phrase .bounds bounds])

/-- A where clause; one without predicates has no tokens. -/
def whereClause? : Reader (Option Node) := do
  if ← peekWord "where" then
    let w ← word "where"
    if ← genericsAhead then
      refuseFor "generic parameters on \x60where\x60 clauses are reserved for future use"
    let predicates ← nodesWhile "," predicateEnds (predicate g)
    return some (.phrase .whereClause (if predicates.isEmpty then [] else w :: predicates))
  else return none

end

end RestLoom.Source
