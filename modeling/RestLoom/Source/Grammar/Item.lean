import RestLoom.Source.Grammar.Statement

/-!
# Source/Grammar/Item — declarations

Functions, traits, modules and the other items of a file.  The keyword after the attributes and the
visibility says which item it is.
-/

namespace RestLoom.Source

open RestLoom.Token (Ident Delimiter)

section
variable (g : Grammar)

/-! ## Functions -/

/-- A receiver. -/
def receiverInput : Reader Receiver := do
  let reference ← if ← peekOp "&" then do
      let _ ← op "&"
      if ← peek .lifetime then pure (some (some (← lifetime))) else pure (some none)
    else pure none
  let m ← word? "mut"
  let _ ← word "self"
  let type ← if reference.isNone && (← peekOp ":") then do
      let _ ← op ":"
      pure (some (← g.type true))
    else pure none
  return ⟨[], reference, !m.isEmpty, type⟩

/-- One entry of a parameter list: an input, or the dots that end it. -/
inductive Entry where
  | input (i : Input)
  | variadic (n : Node)

/-- One entry of a parameter list. -/
def entry : Reader Entry := do
  let attributes ← outerAttributes g
  let nodes := attributes.map Attribute.toNode
  if ← peekOp "..." then return .variadic (.phrase .variadic (nodes ++ [← op "..."]))
  else
    match ← attempt (receiverInput g) with
    | some r => return .input (.receiver { r with attributes := attributes })
    | none =>
      if (← peek .name) && (← peek2 (.op "<")) then
        return .input (.param ⟨attributes, .phrase .wildPat [.word "_"], ← g.type true⟩)
      else
        let p ← g.pattern
        let c ← op ":"
        if ← peekOp "..." then
          return .variadic (.phrase .variadic (nodes ++ [p, c, ← op "..."]))
        else return .input (.param ⟨attributes, p, ← g.type true⟩)

/-- What has been read of a parameter list. -/
structure Inputs where
  inputs : List Input
  trailing : Bool
  variadic : Option Node

/-- Whether an entry is a receiver. -/
def isReceiver : Input → Bool
  | .receiver _ => true
  | .param _ => false

/-- The inside of a parameter list. -/
def inputList : Reader Inputs := do
  let states ← repeatStep fun acc => do
    let s : Inputs := acc.getLastD ⟨[], false, none⟩
    if ← atEnd then return (acc, false)
    else
      match ← entry g with
      | .variadic n =>
        let comma ← if ← atEnd then pure [] else do pure [← op ","]
        let n : Node := .phrase .variadic (n.parts ++ comma)
        return ([{ s with variadic := some n }], false)
      | .input i =>
        if isReceiver i && s.inputs.any isReceiver then
          throw (.refused "unexpected second method receiver")
        else if isReceiver i && !s.inputs.isEmpty then
          throw (.refused "unexpected method receiver")
        else
          let s : Inputs := ⟨s.inputs ++ [i], false, none⟩
          if ← atEnd then return ([s], false)
          else
            let _ ← op ","
            return ([{ s with trailing := true }], true)
  return states.getLastD ⟨[], false, none⟩

/-- A signature, with the word whether it is marked as safe. -/
def markedSignature (allowSafe : Bool) : Reader (Bool × Signature) := do
  let c ← word? "const"
  let a ← word? "async"
  let u ← word? "unsafe"
  let safe ← if allowSafe && u.isEmpty then word? "safe" else pure []
  let convention ← abi?
  let _ ← word "fn"
  let i ← name
  let generics ← generics? g
  let inputs ← inGroup .paren (inputList g)
  let output ← returnType? g
  let w ← whereClause? g
  return (!safe.isEmpty, {
    isConst := !c.isEmpty
    isAsync := !a.isEmpty
    isUnsafe := !u.isEmpty
    abi := convention
    name := i
    generics := generics
    inputs := inputs.inputs
    trailingComma := inputs.trailing
    variadic := inputs.variadic
    output := output
    whereClause := w })

/-- A signature. -/
def signature : Reader Signature := do return (← markedSignature g false).2

/-- Whether a signature begins here. -/
def signatureAhead (allowSafe : Bool) : Reader Bool := do
  let seen ← lookAhead do
    let _ ← word? "const"
    let _ ← word? "async"
    let safe ← if allowSafe then word? "safe" else pure []
    let _ ← if safe.isEmpty then word? "unsafe" else pure []
    let _ ← abi?
    peekWord "fn"
  return seen.getD false

/-- The inside of a body, with the attributes that belong to its function. -/
def body : Reader (List Attribute × List Node) := inGroup .brace (blockInside g)

/-! ## Traits -/

/-- A function in a trait. -/
def methodDecl (attributes : List Attribute) : Reader Method := do
  let s ← signature g
  if ← peek (.group .brace) then
    let (inner, stmts) ← body g
    return ⟨attributes ++ inner, s, some stmts⟩
  else if ← peekOp ";" then
    let _ ← op ";"
    return ⟨attributes, s, none⟩
  else refuseAll [.group .brace, .op ";"]

/-- The value of a constant, if it has one. -/
def constValue : Reader (List Node) := do
  if ← peekOp "=" then
    let e ← op "="
    return [e, ← g.expr]
  else return []

/-- A constant up to and with its semicolon, and the word whether it has a value and neither
generic parameters nor a where clause. -/
def constDecl (front : List Node) : Reader (Node × Bool) := do
  let c ← word "const"
  let i ← anyWord
  let isPlain := !(← peekOp "<")
  let generics ← generics? g
  let colon ← op ":"
  let t ← g.type true
  let value ← constValue g
  let w ← whereClause? g
  let s ← op ";"
  return (.phrase .constItem
    (front ++ [c, .ident i] ++ generics.toList ++ [colon, t] ++ value ++ w.toList ++ [s]),
    isPlain && !value.isEmpty && w.isNone)

/-- A constant of a file or an implementation, or the tokens since `start`. -/
def valuedConst (start : List Token) (front : List Node) : Reader Node := do
  let (n, isPlain) ← constDecl g front
  if isPlain then return n else keptSince start

/-- Where the where clause of a type may stand. -/
inductive ClausePlace where
  | beforeValue
  | afterValue
  | either
  deriving DecidableEq

/-- A type with another name for it, or bounds that it is to keep. -/
structure TypeDecl where
  node : Node
  isBounded : Bool
  hasValue : Bool

/-- A type up to and with its semicolon. -/
def typeDecl (k : Kind) (place : ClausePlace) (front : List Node) : Reader TypeDecl := do
  let t ← word "type"
  let i ← name
  let generics ← generics? g
  let colon ← op? ":"
  let ends : Reader Bool := peekAny [.word "where", .op "=", .op ";"]
  let bounds ← if colon.isEmpty then pure [] else nodesUntil "+" ends (bound g .const?)
  let w ← if place = .afterValue then pure none else whereClause? g
  let value ← if ← peekOp "=" then do
      let e ← op "="
      pure [e, ← g.type true]
    else pure []
  let w' ← if place = .beforeValue || w.isSome then pure none else whereClause? g
  let s ← op ";"
  return {
    node := .phrase k (front ++ [t, .ident i] ++ generics.toList ++ boundsAfter colon bounds ++
      w.toList ++ value ++ w'.toList ++ [s])
    isBounded := !colon.isEmpty
    hasValue := !value.isEmpty }

/-- Another name for a type in a file or an implementation, or the tokens since `start`. -/
def valuedType (start : List Token) (place : ClausePlace) (front : List Node) : Reader Node := do
  let d ← typeDecl g .typeItem place front
  if d.hasValue && !d.isBounded then return d.node else keptSince start

/-- A call of a macro as an item. -/
def macroItem (attributes : List Node) : Reader Node := do
  let p ← plainPath
  let bang ← op "!"
  let i ← if (← peek .name) || (← peekWord "try") then do pure [Node.ident (← anyWord)] else pure []
  let (d, ts) ← delimited
  let s ← if d = .brace then pure [] else do pure [← op ";"]
  return .phrase .macroItem
    (attributes ++ .phrase .macroCall (p :: bang :: i ++ [.group d [.raw ts]]) :: s)

/-- The call of a macro in a trait or an implementation. -/
def memberMacro (attributes : List Node) : Reader Node := do
  let p ← plainPath
  let bang ← op "!"
  let (d, ts) ← delimited
  let s ← if d = .brace then pure [] else do pure [← op ";"]
  return .phrase .macroItem (attributes ++ .phrase .macroCall [p, bang, .group d [.raw ts]] :: s)

/-- What may begin the path of a macro's call. -/
def macroStarts : List Ahead :=
  [.name, .word "self", .word "super", .word "crate", .op "::"]

/-- An item of a trait. -/
def traitItem : Reader TraitItem := do
  let start ← ahead
  let attributes ← outerAttributes g
  let nodes := Attribute.outerNodes attributes
  let v ← visibility
  let default ← word? "default"
  let bare := v.isInherited && default.isEmpty
  let item ←
    if (← peekWord "fn") || (← signatureAhead false) then do
      pure (TraitItem.method (← methodDecl g attributes))
    else if ← peekWord "const" then
      if (← peek2 .name) || (← peek2 (.word "_")) then do
        pure (.other (← constDecl g nodes).1)
      else if (← peek2 (.word "async")) || (← peek2 (.word "unsafe")) ||
          (← peek2 (.word "extern")) || (← peek2 (.word "fn")) then do
        pure (.method (← methodDecl g attributes))
      else
        let _ ← word "const"
        refuseAll [.name, .word "_", .word "async", .word "unsafe", .word "extern", .word "fn"]
    else if ← peekWord "type" then do
      pure (.other (← typeDecl g .typeItem .afterValue nodes).node)
    else if bare && (← peekAny macroStarts) then do
      pure (.other (← memberMacro nodes))
    else if bare then refuseAll ([.word "fn", .word "const", .word "type"] ++ macroStarts)
    else refuseAll [.word "fn", .word "const", .word "type"]
  if bare then return item else return .other (← keptSince start)

/-- Bounds that a trait requires, up to the where clause or the body. -/
def supertraits : Reader (List Node × Bool) := do
  let ends : Reader Bool := peekAny [.word "where", .group .brace]
  separatedUntil "+" ends (bound g .const?)

/-- A trait from its name's parameters on. -/
def traitRest (attributes : List Attribute) (v : Visibility) (isUnsafe isAuto : Bool) (i : Ident)
    (generics : Option Node) : Reader TraitDecl := do
  let (bounds, trailing) ← if ← peekOp ":" then do
      let _ ← op ":"
      supertraits g
    else pure ([], false)
  let w ← whereClause? g
  let (inner, items) ← inGroup .brace do
    let inner ← innerAttributes g
    return (inner, ← untilEnd (traitItem g))
  return {
    attributes := attributes ++ inner
    visibility := v
    isUnsafe := isUnsafe
    isAuto := isAuto
    name := i
    generics := generics
    supertraits := bounds
    trailingPlus := trailing
    whereClause := w
    items := items }

/-- A trait after its attributes and its visibility. -/
def traitAfterVisibility (attributes : List Attribute) (v : Visibility) : Reader TraitDecl := do
  let u ← word? "unsafe"
  let a ← word? "auto"
  let _ ← word "trait"
  let i ← name
  let generics ← generics? g
  traitRest g attributes v (!u.isEmpty) (!a.isEmpty) i generics

/-- A trait. -/
def traitDecl : Reader TraitDecl := do
  let attributes ← outerAttributes g
  let v ← visibility
  traitAfterVisibility g attributes v

/-- A trait or another name for bounds. -/
def traitOrAlias (attributes : List Attribute) (v : Visibility) : Reader Item := do
  let t ← word "trait"
  let i ← name
  let generics ← generics? g
  if ← peekAny [.group .brace, .op ":", .word "where"] then
    return .trait (← traitRest g attributes v false false i generics)
  else if ← peekOp "=" then
    let e ← op "="
    let ends : Reader Bool := peekAny [.word "where", .op ";"]
    let bounds ← nodesUntil "+" ends (bound g .plain)
    let w ← whereClause? g
    let s ← op ";"
    return .other (.phrase .traitAlias (Attribute.outerNodes attributes ++ v.toNodes ++
      [t, .ident i] ++ generics.toList ++ [e, .phrase .bounds bounds] ++ w.toList ++ [s]))
  else refuseAll [.group .brace, .op ":", .word "where", .op "="]

/-! ## Imports -/

/-- What an import names, by way of a bound on its length, and the word whether a name in a list
begins at the root.  Where `fromRoot` holds it may, unless one around it does. -/
def useTreeUpTo : Nat → Bool → Reader (Node × Bool)
  | 0, _ => refuse []
  | fuel + 1, fromRoot => do
    if ← peekAny [.name, .word "self", .word "super", .word "crate", .word "try"] then
      let i ← anyWord
      if ← peekOp "::" then
        let c ← op "::"
        return (.phrase .usePath [.ident i, c, (← useTreeUpTo fuel false).1], false)
      else if ← peekWord "as" then
        let a ← word "as"
        if (← peek .name) || (← peekWord "_") then
          return (.phrase .useRename [.ident i, a, .ident (← anyWord)], false)
        else refuse ["identifier or underscore"]
      else return (.phrase .useName [.ident i], false)
    else if ← peekOp "*" then return (.phrase .useGlob [← op "*"], false)
    else if ← peek (.group .brace) then
      let (trees, trailing) ← inGroup .brace (separatedUntil "," atEnd do
        let root ← if fromRoot then op? "::" else pure []
        let (t, inner) ← useTreeUpTo fuel (fromRoot && root.isEmpty)
        return (t, inner || !root.isEmpty))
      return (.phrase .useGroup [.group .brace (separated "," trailing (trees.map (·.1)))],
        trees.any (·.2))
    else refuseAll [.name, .word "self", .word "super", .word "crate", .word "try", .op "*",
      .group .brace]

/-- An import after its attributes and its visibility; one with a list in which a name begins at
the root is kept as it is written. -/
def useItem (start : List Token) (front : List Node) : Reader Item := do
  let u ← word "use"
  let colons ← op? "::"
  let (t, fromRoot) ← useTreeUpTo ((← ahead).length + 2) colons.isEmpty
  let s ← op ";"
  if fromRoot then return .other (← keptSince start)
  else return .use (.phrase .useItem (front ++ u :: colons ++ [t, s]))

/-! ## Data -/

mutual

/-- A field with a name, by way of a bound on the nesting of fields.  One named `_` may have a
structure or a union as its type, which is kept as it is written. -/
def namedFieldUpTo : Nat → Reader Node
  | 0 => refuse []
  | fuel + 1 => do
    let attributes ← outerAttributeNodes g
    let v ← visibility
    let isUnnamed ← peekWord "_"
    let i ← if isUnnamed then anyWord else name
    let c ← op ":"
    let start ← ahead
    let isNested := isUnnamed &&
      ((← peekWord "struct") || ((← peekWord "union") && (← peek2 (.group .brace))))
    let t ← if isNested then do
        let _ ← anyWord
        let _ ← namedFieldsUpTo fuel
        keptSince start
      else g.type true
    return .phrase .fieldDecl (attributes ++ v.toNodes ++ [.ident i, c, t])

/-- Fields between braces. -/
def namedFieldsUpTo : Nat → Reader Node
  | 0 => refuse []
  | fuel + 1 => do
    let fields ← inGroup .brace (nodesUntil "," atEnd (namedFieldUpTo fuel))
    return .phrase .namedFields [.group .brace fields]

end

/-- Fields between braces. -/
def namedFields : Reader Node := do namedFieldsUpTo g (2 * tokenCountAll (← ahead) + 2)

/-- A field without a name. -/
def bareField : Reader Node := do
  let attributes ← outerAttributeNodes g
  let v ← visibility
  return .phrase .fieldDecl (attributes ++ v.toNodes ++ [← g.type true])

/-- Fields between parentheses. -/
def tupleFields : Reader Node := do
  let fields ← inGroup .paren (nodesUntil "," atEnd (bareField g))
  return .phrase .tupleFields [.group .paren fields]

/-- A structure after its attributes and its visibility. -/
def structItem (front : List Node) : Reader Node := do
  let k ← word "struct"
  let i ← name
  let generics ← generics? g
  let w ← whereClause? g
  let head := front ++ [k, .ident i] ++ generics.toList
  if w.isNone && (← peek (.group .paren)) then
    let fields ← tupleFields g
    let w ← whereClause? g
    if ← peekOp ";" then
      return .phrase .structItem (head ++ [fields] ++ w.toList ++ [← op ";"])
    else refuseAll (if w.isNone then [.word "where", .op ";"] else [.op ";"])
  else if ← peek (.group .brace) then
    return .phrase .structItem (head ++ w.toList ++ [← namedFields g])
  else if ← peekOp ";" then return .phrase .structItem (head ++ w.toList ++ [← op ";"])
  else refuseAll (if w.isNone then [.word "where", .group .paren, .group .brace, .op ";"]
    else [.group .brace, .op ";"])

/-- One alternative of an enumeration; its visibility is dropped. -/
def variant : Reader Node := do
  let attributes ← outerAttributeNodes g
  let _ ← visibility
  let i ← name
  let fields ← if ← peek (.group .brace) then do pure [← namedFields g]
    else if ← peek (.group .paren) then do pure [← tupleFields g]
    else pure []
  let value ← constValue g
  return .phrase .variant (attributes ++ .ident i :: fields ++ value)

/-- An enumeration after its attributes and its visibility. -/
def enumItem (front : List Node) : Reader Node := do
  let k ← word "enum"
  let i ← name
  let generics ← generics? g
  let w ← whereClause? g
  let variants ← inGroup .brace (nodesUntil "," atEnd (variant g))
  return .phrase .enumItem
    (front ++ [k, .ident i] ++ generics.toList ++ w.toList ++ [.group .brace variants])

/-- A union after its attributes and its visibility. -/
def unionItem (front : List Node) : Reader Node := do
  let k ← word "union"
  let i ← name
  let generics ← generics? g
  let w ← whereClause? g
  let fields ← namedFields g
  return .phrase .unionItem
    (front ++ [k, .ident i] ++ generics.toList ++ w.toList ++ [fields])

/-! ## Implementations -/

/-- An item of an implementation. -/
def implMember : Reader Node := do
  let start ← ahead
  let attributes ← outerAttributes g
  let nodes := Attribute.outerNodes attributes
  let v ← visibility
  let default ← if (← peekWord "default") && !(← peek2 (.op "!")) then do pure [← word "default"]
    else pure []
  let front := v.toNodes ++ default
  let starts := (if default.isEmpty then [.word "default"] else []) ++
    [.word "fn", .word "const", .word "type"]
  if (← peekWord "fn") || (← signatureAhead false) then
    let s ← signature g
    if ← peekOp ";" then
      let _ ← op ";"
      keptSince start
    else
      let (inner, stmts) ← body g
      return functionNode (attributes ++ inner) front s (some stmts)
  else if ← peekWord "const" then
    if (← peek2 .name) || (← peek2 (.word "_")) then valuedConst g start (nodes ++ front)
    else
      let _ ← word "const"
      refuseAll [.name, .word "_"]
  else if ← peekWord "type" then valuedType g start .afterValue (nodes ++ front)
  else if v.isInherited && default.isEmpty && (← peekAny macroStarts) then memberMacro nodes
  else if v.isInherited && default.isEmpty then refuseAll (starts ++ macroStarts)
  else refuseAll starts

/-- Whether a type is a path that may name a trait. -/
def isTraitPath : Node → Bool
  | .phrase .pathType [p] => p.isKind .path
  | _ => false

/-- An implementation after its attributes and its visibility.  One that has a visibility, holds
for constants or is for what is no path is kept as it is written. -/
def implItem (start : List Token) (attributes : List Attribute) (v : Visibility) :
    Reader Node := do
  let default ← word? "default"
  let u ← word? "unsafe"
  let i ← word "impl"
  let generics ← if ← genericsAhead then generics? g else pure none
  let question ← if ← peek2 (.word "const") then op? "?" else pure []
  let const ← if question.isEmpty then word? "const" else do pure [← word "const"]
  let bang ← if (← peekOp "!") && !(← peek2 (.group .brace)) then op? "!" else pure []
  let first ← g.type true
  let target ← if ← peekWord "for" then do
      let f ← word "for"
      pure [f, ← g.type true]
    else if bang.isEmpty then pure []
    else forbid "inherent impls cannot be negative"
  let w ← whereClause? g
  let (inner, members) ← inGroup .brace do
    let inner ← innerAttributes g
    return (inner, ← untilEnd (implMember g))
  if v.isInherited && const.isEmpty && (target.isEmpty || isTraitPath first) then
    return .phrase .implItem (Attribute.outerNodes attributes ++ default ++ u ++ [i] ++
      generics.toList ++ bang ++ first :: target ++ w.toList ++
      [.group .brace (Attribute.innerNodes (attributes ++ inner) ++ members)])
  else keptSince start

/-! ## Other items -/

/-- A static after its attributes and its visibility; one without a type or without a value is kept
as it is written. -/
def staticItem (start : List Token) (front : List Node) : Reader Node := do
  let k ← word "static"
  let m ← word? "mut"
  let i ← name
  if ← peekOp "=" then
    let _ ← constValue g
    let _ ← op ";"
    keptSince start
  else
    let c ← op ":"
    let t ← g.type true
    if ← peekOp ";" then
      let _ ← op ";"
      keptSince start
    else
      let e ← op "="
      let v ← g.expr
      let s ← op ";"
      return .phrase .staticItem (front ++ k :: m ++ [.ident i, c, t, e, v, s])

/-- A declaration of another package. -/
def externCrate (front : List Node) : Reader Node := do
  let e ← word "extern"
  let c ← word "crate"
  let i ← if ← peekWord "self" then anyWord else name
  let rename ← if ← peekWord "as" then do
      let a ← word "as"
      let j ← if ← peekWord "_" then anyWord else name
      pure [a, Node.ident j]
    else pure []
  let s ← op ";"
  return .phrase .externCrate (front ++ [e, c, .ident i] ++ rename ++ [s])

/-- A static of a block of foreign declarations after its attributes and its visibility. -/
def foreignStatic (start : List Token) (front : List Node) : Reader Node := do
  let safety ← if ← peekWord "static" then pure [] else do pure [Node.ident (← anyWord)]
  let k ← word "static"
  let m ← word? "mut"
  let i ← name
  let c ← op ":"
  let t ← g.type true
  let value ← constValue g
  let s ← op ";"
  if safety.isEmpty && value.isEmpty then
    return .phrase .staticItem (front ++ k :: m ++ [.ident i, c, t, s])
  else keptSince start

/-- An item of a block of foreign declarations.  What has a body, a value or a mark of its safety
is kept as it is written. -/
def foreignItem : Reader Node := do
  let start ← ahead
  let attributes ← outerAttributes g
  let nodes := Attribute.outerNodes attributes
  let v ← visibility
  if (← peekWord "fn") || (← signatureAhead true) then
    let (isSafe, s) ← markedSignature g true
    if ← peek (.group .brace) then
      let _ ← body g
      keptSince start
    else
      let _ ← op ";"
      if isSafe then keptSince start else return functionNode attributes v.toNodes s none
  else if (← peekWord "static") ||
      ((← peekAny [.word "unsafe", .word "safe"]) && (← peek2 (.word "static"))) then
    foreignStatic g start (nodes ++ v.toNodes)
  else if ← peekWord "type" then
    let d ← typeDecl g .foreignType .either (nodes ++ v.toNodes)
    if d.isBounded || d.hasValue then keptSince start else return d.node
  else if v.isInherited && (← peekAny macroStarts) then memberMacro nodes
  else if v.isInherited then
    refuseAll ([.word "fn", .word "static", .word "type"] ++ macroStarts)
  else refuseAll [.word "fn", .word "static", .word "type"]

/-- A block of foreign declarations after its attributes; it has no visibility. -/
def externBlock (attributes : List Attribute) (v : Visibility) : Reader Node := do
  if v.isInherited then
    let u ← word? "unsafe"
    let convention ← abi?
    let (inner, items) ← inGroup .brace do
      let inner ← innerAttributes g
      return (inner, ← untilEnd (foreignItem g))
    return .phrase .externBlock (Attribute.outerNodes attributes ++ u ++
      convention.toList ++ [.group .brace (Attribute.innerNodes inner ++ items)])
  else refuse [marked "extern"]

/-- The definition of a macro by a name, with or without parameters; it is kept as it is
written. -/
def macroDefinition (start : List Token) : Reader Node := do
  let _ ← word "macro"
  let _ ← name
  let starts ← if ← peek (.group .paren) then do
      inGroup .paren (advanceTo [])
      pure [.group .brace]
    else pure [.group .paren, .group .brace]
  if ← peek (.group .brace) then
    inGroup .brace (advanceTo [])
    keptSince start
  else refuseAll starts

/-- A module after its attributes and its visibility. -/
def moduleItem (attributes : List Attribute) (v : Visibility) : Reader Item := do
  let u ← word? "unsafe"
  let m ← word "mod"
  let i ← if ← peekWord "try" then anyWord else name
  if ← peekOp ";" then
    let s ← op ";"
    return .other (.phrase .moduleItem
      (Attribute.outerNodes attributes ++ v.toNodes ++ u ++ [m, .ident i, s]))
  else if ← peek (.group .brace) then
    inGroup .brace do
      let inner ← innerAttributes g
      let items ← untilEnd g.item
      return .module (attributes ++ inner) v (!u.isEmpty) i items
  else refuseAll [.op ";", .group .brace]

/-- What an item may begin with after its visibility, in the order in which errors list it. -/
def itemStarts : List Ahead :=
  ["fn", "extern", "use", "static", "const", "unsafe", "mod", "type", "struct", "enum", "union",
    "trait", "auto", "impl", "default", "macro"].map .word

/-- An item that begins with `extern`. -/
def externItem (attributes : List Attribute) (v : Visibility) : Reader Node := do
  if ← peek2 (.word "crate") then
    externCrate (Attribute.outerNodes attributes ++ v.toNodes)
  else if (← peek2 (.group .brace)) || ((← peek2 .string) && (← peek3 (.group .brace))) then
    externBlock g attributes v
  else
    let _ ← word "extern"
    if ← peek .string then
      let _ ← string
      refuseAll [.group .brace]
    else refuseAll [.word "crate", .group .brace, .string]

/-- An item that begins with `unsafe` and is no function. -/
def unsafeItem (start : List Token) (attributes : List Attribute) (v : Visibility) :
    Reader Item := do
  if (← peek2 (.word "trait")) || ((← peek2 (.word "auto")) && (← peek3 (.word "trait"))) then
    return .trait (← traitAfterVisibility g attributes v)
  else if ← peek2 (.word "impl") then return .other (← implItem g start attributes v)
  else if ← peek2 (.word "extern") then return .other (← externBlock g attributes v)
  else if ← peek2 (.word "mod") then moduleItem g attributes v
  else
    let _ ← word "unsafe"
    refuseAll [.word "trait", .word "auto", .word "impl", .word "extern", .word "mod"]

/-- An item after its attributes and its visibility; `start` are the tokens from its attributes
on. -/
def itemAfterVisibility (start : List Token) (attributes : List Attribute) (v : Visibility) :
    Reader Item := do
  let front := Attribute.outerNodes attributes ++ v.toNodes
  if (← peekWord "fn") || (← signatureAhead false) then
    let s ← signature g
    if ← peekOp ";" then
      let _ ← op ";"
      return .other (← keptSince start)
    else
      let (inner, stmts) ← body g
      return .other (functionNode (attributes ++ inner) v.toNodes s (some stmts))
  else if ← peekWord "extern" then return .other (← externItem g attributes v)
  else if ← peekWord "use" then useItem start front
  else if ← peekWord "static" then return .other (← staticItem g start front)
  else if ← peekWord "const" then
    if (← peek2 .name) || (← peek2 (.word "_")) then return .other (← valuedConst g start front)
    else
      let _ ← word "const"
      refuseAll [.name, .word "_"]
  else if ← peekWord "unsafe" then unsafeItem g start attributes v
  else if ← peekWord "mod" then moduleItem g attributes v
  else if ← peekWord "type" then return .other (← valuedType g start .beforeValue front)
  else if ← peekWord "struct" then return .other (← structItem g front)
  else if ← peekWord "enum" then return .other (← enumItem g front)
  else if (← peekWord "union") && (← peek2 .name) then return .other (← unionItem g front)
  else if ← peekWord "trait" then traitOrAlias g attributes v
  else if (← peekWord "auto") && (← peek2 (.word "trait")) then
    return .trait (← traitAfterVisibility g attributes v)
  else if (← peekWord "impl") || ((← peekWord "default") && !(← peek2 (.op "!"))) then
    return .other (← implItem g start attributes v)
  else if ← peekWord "macro" then return .other (← macroDefinition start)
  else if v.isInherited && (← peekAny macroStarts) then
    return .other (← macroItem (Attribute.outerNodes attributes))
  else if v.isInherited then refuseAll (itemStarts ++ macroStarts)
  else refuseAll itemStarts

/-- An item with its attributes. -/
def itemOf : Reader Item := do
  let start ← ahead
  let attributes ← outerAttributes g
  let v ← visibility
  itemAfterVisibility g start attributes v

end

end RestLoom.Source
