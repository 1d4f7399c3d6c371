import RestLoom.Layout.Tokens
import RestLoom.Token.Literal
import RestLoom.Source.Decl

/-!
# Layout/Types — layout of attributes, paths, types and generic parameters

Phrases contain each other; a rule that needs the layout of another kind of phrase takes it from the
record `Rules`.  Documentation attributes become comments.
-/

namespace RestLoom.Layout

open RestLoom.Source
open RestLoom.Token (Ident Delimiter)
open Doc

/-- The layouts that rules refer to. -/
structure Rules where
  attributes : List Node → Doc
  type : Node → Doc
  /-- An expression; at the beginning of a line a short name keeps what follows it. -/
  expr : Bool → Node → Doc
  pattern : Node → Doc
  /-- A statement, and whether it is the last one. -/
  statement : Node → Bool → Doc
  item : Node → Doc

/-- How a path shows its arguments. -/
inductive PathStyle where
  | simple
  | type
  | expr
  deriving DecidableEq

/-- The elements of a list with commas, lifetimes and all in the order they stand. -/
def commaElements (ps : List Node) : List Node := elements "," ps

/-- Whether a part of generic arguments or parameters stands between the angle brackets. -/
def isAngle (n : Node) : Bool := n.isOp "<" || n.isOp ">" || n.isOp "::"

/-- The elements between angle brackets. -/
def angleElements (ps : List Node) : List Node := (commaElements ps).filter fun n => !isAngle n

/-- The text of a lifetime. -/
def lifetimeWord (i : Ident) : Doc := word ("\x27" ++ i.text)

/-! ## Comments -/

/-- Drops the blanks at the end. -/
def dropTrailingSpaces (cs : List Char) : List Char := Text.dropEndWhile (· == ' ') cs

/-- Drops the blanks at the end of every line but the last one. -/
def dropInteriorSpaces (cs : List Char) : List Char :=
  match (Text.splitAt (· == '\n') cs).reverse with
  | [] => []
  | last :: before =>
    Text.join ['\n'] (before.reverse.map dropTrailingSpaces ++ [last])

/-- Whether a text can stand in a block comment: the comments inside it are balanced. -/
def fitsBlockComment : Nat → List Char → Bool
  | depth, '/' :: '*' :: cs => fitsBlockComment (depth + 1) cs
  | 0, '*' :: '/' :: _ => false
  | depth + 1, '*' :: '/' :: cs => fitsBlockComment depth cs
  | depth, _ :: cs => fitsBlockComment depth cs
  | depth, [] => depth == 0

/-- A comment: openers of its line form and of its block form, and what it must not begin with in
each. -/
def comment? (text : String) (lineOpener blockOpener : String) (notLine notBlock : List Char) :
    Option Doc :=
  let cs := text.toList
  let starts (chars : List Char) : Bool := cs.head?.any chars.contains
  if !cs.contains '\n' && !starts notLine then
    some (word lineOpener ++ word (String.ofList (dropTrailingSpaces cs)) ++ hardBreak)
  else if !cs.isEmpty && fitsBlockComment 0 cs && !starts notBlock then
    some (word blockOpener ++ word (String.ofList (dropInteriorSpaces cs)) ++ word "*/" ++
      hardBreak)
  else none

/-- The comment that an attribute stands for. -/
def attributeComment? (inner : Bool) (path value : Node) : Option Doc := do
  let .literal t := value | none
  let text ← if Token.isString t then Token.stringValue? t else none
  if isPathIdent path "doc" then
    if inner then comment? text "//!" "/*!" [] []
    else comment? text "///" "/**" ['/'] ['*', '/']
  else if isPathIdent path "comment" then comment? text "//" "/*" [] ['*', '!']
  else none

section
variable (r : Rules)

/-! ## Types -/

/-- A return type after its arrow. -/
def returnTypeDoc (ps : List Node) : Doc :=
  match part? .returnType ps with
  | some (.phrase _ [_, t]) => word " -> " ++ r.type t
  | _ => []

/-- Bounds joined by plus signs on one line, the first one after `first`. -/
def boundsOnLine (bound : Node → Doc) (first : Doc) (bs : List Node) : Doc :=
  eachFirst (fun b isFirst => (if isFirst then first else word " + ") ++ bound b) (elements "+" bs)

/-- Bounds joined by plus signs that may begin lines, the first one after `first`. -/
def boundsOnLines (bound : Node → Doc) (first : Doc) (bs : List Node) : Doc :=
  eachFirst (fun b isFirst => (if isFirst then first else space ++ word "+ ") ++ bound b)
    (elements "+" bs)

mutual

/-- A path, by way of a bound on the nesting of its arguments. -/
def pathUpTo : Nat → PathStyle → Node → Doc
  | 0, _, _ => []
  | n + 1, style, p =>
    match p with
    | .phrase .path ps =>
      ps.flatMap fun s =>
        match s with
        | .phrase .segment (.ident i :: args) =>
          word i.text ++ args.flatMap (pathArgumentsUpTo n style)
        | _ => word "::"
    | .phrase .qualified ps =>
      match ps with
      | [_, t, _, _, rest] => word "<" ++ r.type t ++ word ">" ++ word "::" ++ pathUpTo n style rest
      | [_, t, _, asTrait, _, _, rest] =>
        word "<" ++ r.type t ++ word " as " ++ pathUpTo n .type asTrait ++ word ">" ++ word "::" ++
          pathUpTo n style rest
      | _ => []
    | _ => []

/-- The arguments of a segment. -/
def pathArgumentsUpTo : Nat → PathStyle → Node → Doc
  | 0, _, _ => []
  | n + 1, style, args =>
    match args with
    | .phrase .genericArgs ps =>
      let es := angleElements ps
      if es.isEmpty || style = .simple then []
      else
        (if style = .expr then word "::" else []) ++ word "<" ++ openAll indent ++ zeroBreak ++
          eachLast (fun e isLast => genericArgumentUpTo n e ++ comma isLast) es ++
          shift (-indent) ++ close ++ word ">"
    | .phrase .parenArgs (.group _ inputs :: output) =>
      openAll indent ++ word "(" ++ zeroBreak ++
        eachLast (fun t isLast => r.type t ++ comma isLast) (commaElements inputs) ++
        shift (-indent) ++ word ")" ++ returnTypeDoc r output ++ close
    | _ => []

/-- One argument between angle brackets. -/
def genericArgumentUpTo : Nat → Node → Doc
  | 0, _ => []
  | n + 1, arg =>
    match arg with
    | .lifetime i => lifetimeWord i
    | .phrase .movedLifetime [.lifetime i] => lifetimeWord i
    | .phrase .constArg [e] => r.expr false e
    | .phrase .assocType ps =>
      match ps with
      | .ident i :: rest =>
        word i.text ++ rest.flatMap (fun a =>
          match a with
          | .phrase .genericArgs _ => pathArgumentsUpTo n .type a
          | .op _ => word " = "
          | t => r.type t)
      | _ => []
    | .phrase .assocConst ps =>
      match ps with
      | .ident i :: rest =>
        word i.text ++ rest.flatMap (fun a =>
          match a with
          | .phrase .genericArgs _ => pathArgumentsUpTo n .type a
          | .phrase .constArg [e] => r.expr false e
          | _ => word " = ")
      | _ => []
    | .phrase .constraint ps =>
      match ps with
      | .ident i :: rest =>
        word i.text ++ rest.flatMap fun a =>
          match a with
          | .phrase .genericArgs _ => pathArgumentsUpTo n .type a
          | .phrase .bounds bs => openSome indent ++ boundsOnLines (boundUpTo n) (word ": ") bs ++
            close
          | _ => []
      | _ => []
    | t => r.type t

/-- One bound. -/
def boundUpTo : Nat → Node → Doc
  | 0, _ => []
  | n + 1, b =>
    match b with
    | .lifetime i => lifetimeWord i
    | .phrase .traitBound [.group _ [inner]] => word "(" ++ boundUpTo n inner ++ word ")"
    | .phrase .traitBound ps =>
      ps.flatMap fun p =>
        match p with
        | .phrase .forLifetimes qs =>
          let inner := (angleElements qs).filter fun q => !q.isWord "for"
          word "for<" ++ eachLast (fun l isLast =>
            genericParamUpTo n l ++ (if isLast then [] else word ", ")) inner ++ word "> "
        | .op _ => word "?"
        | p => pathUpTo n .type p
    | .phrase .captures ps =>
      let inner := (angleElements ps).filter fun q => !q.isWord "use"
      word "use<" ++ eachLast (fun l isLast => (match l with
          | .lifetime i => lifetimeWord i
          | .ident i => word i.text
          | _ => []) ++ (if isLast then [] else word ", ")) inner ++ word ">"
    | _ => []

/-- A generic parameter with its attributes. -/
def genericParamUpTo : Nat → Node → Doc
  | 0, _ => []
  | n + 1, p =>
    r.attributes (leadingAttributes p.parts) ++ match p with
      | .phrase .typeParam ps =>
        let rest := afterAttributes ps
        (match rest with
          | .ident i :: _ => word i.text
          | _ => []) ++ openSome indent ++
          (match part? .bounds rest with
            | some bs => boundsOnLines (boundUpTo n) (word ": ") bs.parts
            | none => []) ++
          (match rest.dropWhile (fun p => !p.isOp "=") with
            | _ :: t :: _ => space ++ word "= " ++ r.type t
            | _ => []) ++ close
      | .phrase .constParam ps =>
        match afterAttributes ps with
        | _ :: .ident i :: _ :: t :: rest =>
          word "const " ++ word i.text ++ word ": " ++ r.type t ++ (match rest with
            | [_, .phrase .constArg [e]] => word " = " ++ r.expr false e
            | _ => [])
        | _ => []
      | n =>
        match afterAttributes n.parts with
        | [.lifetime i] => lifetimeWord i
        | [.lifetime i, _, .phrase .bounds bs] =>
          lifetimeWord i ++ eachFirst (fun b isFirst =>
            (if isFirst then word ": " else word " + ") ++ (match b with
              | .lifetime j => lifetimeWord j
              | _ => [])) (elements "+" bs)
        | _ => []

end

/-- A path. -/
def pathDoc (style : PathStyle) (p : Node) : Doc := pathUpTo r (2 * p.depth + 2) style p

/-- One bound. -/
def boundDoc (b : Node) : Doc := boundUpTo r (2 * b.depth + 2) b

/-- The lifetimes that a type or a predicate binds. -/
def forLifetimesDoc (ps : List Node) : Doc :=
  match part? .forLifetimes ps with
  | some l => boundDoc r (.phrase .traitBound [l])
  | none => []

/-- Elements in parentheses; a single one keeps its comma. -/
def tupleDoc (doc : Node → Doc) (es : List Node) : Doc :=
  word "(" ++ openAll indent ++ zeroBreak ++
    eachLast (fun e isLast => doc e ++
      (if es.length = 1 then word "," ++ zeroBreak else comma isLast)) es ++
    shift (-indent) ++ close ++ word ")"

/-- A call of a macro, with a semicolon if it needs one. -/
def macroDoc (semicolon : Bool) (n : Node) : Doc :=
  let (paths, rest) := match n with
    | .phrase .macroCall (p :: _ :: rest) => ([p], rest)
    | _ => ([], [])
  let (name, rest) : Option Ident × List Node := match rest with
    | .ident i :: rest => (some i, rest)
    | rest => (none, rest)
  let (d, ts) : Delimiter × List Token := match rest with
    | [.group d [.raw ts]] => (d, ts)
    | _ => (.paren, [])
  match name, paths.any fun p => isPathIdent p "macro_rules" with
  | some i, true => macroDefinition i ts
  | name, _ =>
    paths.flatMap (pathDoc r .simple) ++ word "!" ++
      (match name with
        | some i => blank ++ word i.text
        | none => []) ++
      word (if d = .brace then " \x7b" else String.singleton d.opening) ++
      boxedTokens false (if d = .brace then hardBreak else zeroBreak) ts ++
      word (String.singleton d.closing) ++ (if semicolon then word ";" else [])

/-- Whether a call of a macro needs a semicolon after it. -/
def macroNeedsSemicolon (n : Node) : Bool :=
  match n.parts.getLast? with
  | some (.group .brace _) => false
  | _ => true

/-- An attribute. -/
def attributeDoc (n : Node) : Doc :=
  let inner := n.parts.any (·.isOp "!")
  match n.parts.getLast? with
  | some (.group _ content) =>
    let comment := match content with
      | [p, .op _, v] => attributeComment? inner p v
      | _ => none
    match comment with
    | some doc => doc
    | none =>
      word (if inner then "#!" else "#") ++ word "[" ++ (match content with
        | [p] => pathDoc r .simple p
        | [p, .group d [.raw ts]] =>
          pathDoc r .simple p ++ (attributeTokens true .word [.group d ts]).1
        | [p, .op _, v] => pathDoc r .simple p ++ word " = " ++ r.expr false v
        | _ => []) ++ word "]" ++ space
  | _ => []

/-- Attributes in order. -/
def attributesDoc (ns : List Node) : Doc := ns.flatMap (attributeDoc r)

/-- The attributes at the start of a phrase. -/
def leadingDoc (ps : List Node) : Doc := attributesDoc r (leadingAttributes ps)

/-- The calling convention of a function. -/
def abiDoc (ps : List Node) : Doc :=
  match part? .abi ps with
  | some n => word "extern " ++ n.parts.flatMap fun p =>
      match p with
      | .literal t => word t ++ blank
      | _ => []
  | none => []

/-- A parameter of a function type. -/
def fnTypeArgDoc (n : Node) : Doc :=
  leadingDoc r n.parts ++ (afterAttributes n.parts).flatMap fun p =>
    match p with
    | .ident i => word i.text
    | .op ":" => word ": "
    | .op "," => []
    | .op t => word t
    | t => r.type t

/-- A type. -/
def typeDoc (n : Node) : Doc :=
  match n with
  | .phrase .pathType [p] => pathDoc r .type p
  | .phrase .refType ps =>
    ps.flatMap fun p =>
      match p with
      | .op _ => word "&"
      | .lifetime i => lifetimeWord i ++ blank
      | .ident _ => word "mut "
      | t => r.type t
  | .phrase .ptrType [_, m, t] =>
    word "*" ++ (if m.isWord "mut" then word "mut " else word "const ") ++ r.type t
  | .phrase .tupleType [.group _ es] => tupleDoc r.type (commaElements es)
  | .phrase .parenType [.group _ [t]] => word "(" ++ r.type t ++ word ")"
  | .phrase .arrayType [.group _ [t, _, e]] =>
    word "[" ++ r.type t ++ word "; " ++ r.expr false e ++ word "]"
  | .phrase .sliceType [.group _ [t]] => word "[" ++ r.type t ++ word "]"
  | .phrase .fnType ps =>
    let inputs := match ps.find? fun p => match p with
        | .group _ _ => true
        | _ => false with
      | some g => commaElements g.parts
      | none => []
    forLifetimesDoc r ps ++ (if hasWord "unsafe" ps then word "unsafe " else []) ++ abiDoc ps ++
      word "fn(" ++ openAll indent ++ zeroBreak ++
      eachLast (fun a isLast => fnTypeArgDoc r a ++
        (if a.isKind .variadic then zeroBreak else comma isLast)) inputs ++
      shift (-indent) ++ close ++ word ")" ++ returnTypeDoc r ps
  | .phrase .traitObject ps =>
    word "dyn " ++
      boundsOnLine (boundDoc r) [] (ps.filter fun p => !p.isWord "dyn")
  | .phrase .implTrait ps =>
    word "impl " ++ boundsOnLine (boundDoc r) [] (ps.filter fun p => !p.isWord "impl")
  | .phrase .neverType _ => word "!"
  | .phrase .inferType _ => word "_"
  | .phrase .macroCall _ => macroDoc r false n
  | _ => []

/-! ## Generic parameters -/

/-- A generic parameter. -/
def genericParamDoc (n : Node) : Doc := genericParamUpTo r (2 * n.depth + 2) n

/-- The generic parameters among the parts of an item. -/
def genericsDoc (ps : List Node) : Doc :=
  match part? .generics ps with
  | some n =>
    word "<" ++ openAll 0 ++ zeroBreak ++
      eachLast (fun p isLast => genericParamDoc r p ++ comma isLast) (angleElements n.parts) ++
      shift (-indent) ++ close ++ word ">"
  | none => []

/-- A predicate of a where clause. -/
def predicateDoc (n : Node) : Doc :=
  match n with
  | .phrase .lifetimePredicate [.lifetime i, _, .phrase .bounds bs] =>
    lifetimeWord i ++ word ":" ++ openSome indent ++
      boundsOnLines (boundDoc r) blank bs ++ close
  | .phrase .typePredicate ps =>
    let t := (ps.filter fun p => !p.isKind .forLifetimes).head?
    let bs := match part? .bounds ps with
      | some b => b.parts
      | none => []
    forLifetimesDoc r ps ++ (t.map r.type).getD [] ++ word ":" ++
      openSome (if (elements "+" bs).length = 1 then 0 else indent) ++
      boundsOnLines (boundDoc r) blank bs ++ close
  | _ => []

/-- The predicates of the where clause among the parts of an item. -/
def predicates (ps : List Node) : List Node :=
  match part? .whereClause ps with
  | some n => (commaElements n.parts).filter fun p => !p.isWord "where"
  | none => []

/-- A where clause on lines of its own, before a body or a semicolon. -/
def whereOnLines (semicolon : Bool) (ps : List Node) : Doc :=
  match predicates ps with
  | [] => if semicolon then word ";" else blank
  | preds =>
    hardBreak ++ shift (-indent) ++ word "where" ++ hardBreak ++
      eachLast (fun p isLast => predicateDoc r p ++
        (if isLast && semicolon then word ";" else word "," ++ hardBreak)) preds ++
      (if semicolon then [] else shift (-indent))

/-- A where clause that may stay on the line, before a semicolon or what follows it. -/
def whereOnLine (semicolon : Bool) (ps : List Node) : Doc :=
  match predicates ps with
  | [] => if semicolon then word ";" else blank
  | preds =>
    space ++ shift (-indent) ++ word "where" ++ space ++
      eachLast (fun p isLast => predicateDoc r p ++
        (if isLast && semicolon then word ";"
          else if isLast then commaOrSpace true else word "," ++ space)) preds ++
      (if semicolon then [] else shift (-indent))

end

end RestLoom.Layout
