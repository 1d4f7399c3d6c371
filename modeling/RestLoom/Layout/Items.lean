import RestLoom.Layout.Exprs
import RestLoom.Layout.Fill

/-!
# Layout/Items — layout of declarations and of files

Each item ends its line; the items in a body stand on lines of their own, one level deeper.
-/

namespace RestLoom.Layout

open RestLoom.Source
open RestLoom.Token (Ident Delimiter)
open Doc

section
variable (r : Rules)

/-! ## Parts of declarations -/

/-- The visibility among the parts of an item. -/
def visibilityDoc (ps : List Node) : Doc :=
  match part? .visibility ps with
  | some (.phrase _ [_]) => word "pub "
  | some (.phrase _ [_, .group _ within]) =>
    let p := within.getLastD (.phrase .path [])
    let short := ["self", "super", "crate"].any (isPathIdent p)
    word "pub(" ++ (if short then [] else word "in ") ++ pathDoc r .simple p ++ word ") "
  | _ => []

/-- A keyword and a blank, if it is among the parts. -/
def keywordDoc (text : String) (ps : List Node) : Doc :=
  if hasWord text ps then word (text ++ " ") else []

/-- The part after a keyword. -/
def afterWord? (text : String) (ps : List Node) : Option Node :=
  ((ps.dropWhile fun p => !p.isWord text).drop 1).head?

/-- The part after an operator. -/
def afterOp? (text : String) (ps : List Node) : Option Node :=
  ((ps.dropWhile fun p => !p.isOp text).drop 1).head?

/-- A name. -/
def nameDoc : Option Node → Doc
  | some (.ident i) => word i.text
  | _ => []

/-- The text of a value after an equals sign. -/
def valueDoc (ps : List Node) : Doc :=
  match afterOp? "=" ps with
  | some e => word " = " ++ neverBreak ++ r.expr false e
  | none => []

/-- A body of items between braces, which have been opened. -/
def itemsBody (content : List Node) : Doc :=
  hardBreakIfNonempty ++ leadingDoc r content ++ (afterAttributes content).flatMap r.item ++
    shift (-indent) ++ close ++ word "\x7d" ++ hardBreak

/-- The parts between the braces at the end of an item. -/
def braceParts (ps : List Node) : List Node :=
  match ps.getLast? with
  | some (.group .brace content) => content
  | some n => match n.parts with
    | [.group .brace content] => content
    | _ => []
  | none => []

/-! ## Functions -/

/-- An entry of a parameter list. -/
def inputDoc (n : Node) : Doc :=
  leadingDoc r n.parts ++ match n with
    | .phrase .receiver ps =>
      (afterAttributes ps).flatMap fun p =>
        match p with
        | .op "&" => word "&"
        | .op _ => word ": "
        | .lifetime i => lifetimeWord i ++ blank
        | .ident i => if i.is "mut" then word "mut " else word i.text
        | t => r.type t
    | .phrase .param ps =>
      match afterAttributes ps with
      | [p, _, t] => r.pattern p ++ word ": " ++ r.type t
      | _ => []
    | .phrase .variadic ps =>
      (afterAttributes ps).flatMap fun p =>
        match p with
        | .op ":" => word ": "
        | .op "," => []
        | .op t => word t
        | p => r.pattern p
    | _ => []

/-- A signature, its where clause aside. -/
def signatureDoc (n : Node) : Doc :=
  let ps := n.parts
  let inputs := match ps.find? fun p => match p with
      | .group _ _ => true
      | _ => false with
    | some g => commaElements g.parts
    | none => []
  keywordDoc "const" ps ++ keywordDoc "async" ps ++ keywordDoc "unsafe" ps ++ abiDoc ps ++
    word "fn " ++ nameDoc (afterWord? "fn" ps) ++ genericsDoc r ps ++ word "(" ++ neverBreak ++
    openAll 0 ++ zeroBreak ++
    eachLast (fun i isLast => inputDoc r i ++
      (if i.isKind .variadic then zeroBreak else comma isLast)) inputs ++
    shift (-indent) ++ close ++ word ")" ++ openAll (-indent) ++ returnTypeDoc r ps ++ close

/-- A function, with a body or a semicolon. -/
def functionDoc (ps : List Node) : Doc :=
  match part? .signature ps with
  | some s =>
    leadingDoc r ps ++ openAll indent ++ visibilityDoc r ps ++ keywordDoc "default" ps ++
      signatureDoc r s ++
      (match ps.getLast? with
        | some (.group .brace stmts) =>
          whereOnLines r false s.parts ++ word "\x7b" ++ hardBreakIfNonempty ++
            statementsDoc r stmts ++ shift (-indent) ++ close ++ word "\x7d"
        | _ => whereOnLines r true s.parts ++ close) ++
      hardBreak
  | none => []

/-! ## Traits and implementations -/

/-- A trait. -/
def traitDoc (ps : List Node) : Doc :=
  let bounds := match part? .supertraits ps with
    | some n => boundsOnLine (boundDoc r) (word ": ") n.parts
    | none => []
  leadingDoc r ps ++ openAll indent ++ visibilityDoc r ps ++ keywordDoc "unsafe" ps ++
    keywordDoc "auto" ps ++ word "trait " ++ nameDoc (afterWord? "trait" ps) ++
    genericsDoc r ps ++ bounds ++ whereOnLines r false ps ++ word "\x7b" ++
    itemsBody r (braceParts ps)

/-- An implementation. -/
def implDoc (ps : List Node) : Doc :=
  let rest := (ps.dropWhile fun p => !p.isWord "impl").drop 1
  let types := rest.filter fun p =>
    !(p.isKind .generics || p.isKind .whereClause || p.isOp "!" || p.isWord "for" ||
      match p with
      | .group .brace _ => true
      | _ => false)
  leadingDoc r ps ++ openAll indent ++ openSome (-indent) ++ openAll indent ++
    keywordDoc "default" ps ++ keywordDoc "unsafe" ps ++ word "impl" ++ genericsDoc r ps ++ close ++
    blank ++ (if rest.any (·.isOp "!") then word "!" else []) ++
    (match types with
      | [t, u] => r.type t ++ space ++ word "for " ++ r.type u
      | [t] => r.type t
      | _ => []) ++
    close ++ whereOnLines r false ps ++ word "\x7b" ++ itemsBody r (braceParts ps)

/-! ## Imports -/

/-- Whether an import ends in a list. -/
def endsInList : Nat → Node → Bool
  | 0, _ => false
  | n + 1, t =>
    match t with
    | .phrase .usePath [_, _, rest] => endsInList n rest
    | .phrase .useGroup _ => true
    | _ => false

/-- What an import names, by way of a bound on its depth. -/
def useTreeUpTo : Nat → Node → Doc
  | 0, _ => []
  | n + 1, t =>
    match t with
    | .phrase .usePath [.ident i, _, rest] => word i.text ++ word "::" ++ useTreeUpTo n rest
    | .phrase .useName [.ident i] => word i.text
    | .phrase .useRename [.ident i, _, .ident j] => word i.text ++ word " as " ++ word j.text
    | .phrase .useGlob _ => word "*"
    | .phrase .useGroup [.group _ ts] =>
      word "\x7b" ++ openAll indent ++ zeroBreak ++ openSome 0 ++
        eachLast (fun t isLast => useTreeUpTo n t ++
          (if isLast then []
            else word "," ++ (if endsInList (t.depth + 1) t then hardBreak else space)))
          (commaElements ts) ++
        close ++ comma true ++ shift (-indent) ++ close ++ word "\x7d"
    | _ => []

/-- An import. -/
def useDoc (ps : List Node) : Doc :=
  let tree := (ps.dropLast.getLast?.map fun t => useTreeUpTo (t.depth + 1) t).getD []
  leadingDoc r ps ++ visibilityDoc r ps ++ word "use " ++
    (if ps.any (·.isOp "::") then word "::" else []) ++ tree ++ word ";" ++ hardBreak

/-! ## Data -/

/-- A field. -/
def fieldDoc (n : Node) : Doc :=
  let ps := (afterAttributes n.parts).filter fun p => !p.isKind .visibility
  leadingDoc r n.parts ++ visibilityDoc r n.parts ++ match ps with
    | [.ident i, _, t] => word i.text ++ word ": " ++ r.type t
    | [t] => r.type t
    | _ => []

/-- Fields between parentheses. -/
def tupleFieldsDoc (n : Node) : Doc :=
  match n.parts with
  | [.group _ fs] =>
    word "(" ++ openAll indent ++ zeroBreak ++
      eachLast (fun f isLast => fieldDoc r f ++ comma isLast) (commaElements fs) ++
      shift (-indent) ++ close ++ word ")"
  | _ => []

/-- Elements on lines of their own, each with a comma, up to the closing brace. -/
def commaLines (doc : Node → Doc) (es : List Node) : Doc :=
  hardBreakIfNonempty ++ es.flatMap (fun e => doc e ++ word "," ++ hardBreak) ++ shift (-indent) ++
    close ++ word "\x7d"

/-- A structure or a union. -/
def structItemDoc (keyword : String) (ps : List Node) : Doc :=
  leadingDoc r ps ++ openAll indent ++ visibilityDoc r ps ++ word (keyword ++ " ") ++
    nameDoc (afterWord? keyword ps) ++ genericsDoc r ps ++
    (match part? .namedFields ps, part? .tupleFields ps with
      | some n, _ =>
        whereOnLines r false ps ++ word "\x7b" ++
          commaLines (fieldDoc r) (commaElements (braceParts n.parts))
      | none, some n => tupleFieldsDoc r n ++ whereOnLines r true ps ++ close
      | none, none => whereOnLines r true ps ++ close) ++
    hardBreak

/-- One alternative of an enumeration. -/
def variantDoc (n : Node) : Doc :=
  let ps := n.parts
  let name := (afterAttributes ps).find? fun p => match p with
    | .ident _ => true
    | _ => false
  leadingDoc r ps ++ nameDoc name ++
    (match part? .namedFields ps, part? .tupleFields ps with
      | some f, _ =>
        blank ++ word "\x7b" ++ openAll indent ++ space ++
          eachLast (fun f isLast => fieldDoc r f ++ commaOrSpace isLast)
            (commaElements (braceParts f.parts)) ++
          shift (-indent) ++ close ++ word "\x7d"
      | none, some f => openAll indent ++ tupleFieldsDoc r f ++ close
      | none, none => []) ++
    (match afterOp? "=" ps with
      | some e => word " = " ++ r.expr false e
      | none => [])

/-- An enumeration. -/
def enumDoc (ps : List Node) : Doc :=
  leadingDoc r ps ++ openAll indent ++ visibilityDoc r ps ++ word "enum " ++
    nameDoc (afterWord? "enum" ps) ++ genericsDoc r ps ++ whereOnLines r false ps ++ word "\x7b" ++
    commaLines (variantDoc r) (commaElements (braceParts ps)) ++ hardBreak

/-! ## Other items -/

/-- A constant. -/
def constDoc (ps : List Node) : Doc :=
  leadingDoc r ps ++ openAll 0 ++ visibilityDoc r ps ++ keywordDoc "default" ps ++ word "const " ++
    nameDoc (afterWord? "const" ps) ++ genericsDoc r ps ++ word ": " ++
    ((afterOp? ":" ps).map r.type).getD [] ++ valueDoc r ps ++ word ";" ++ close ++ hardBreak

/-- A static. -/
def staticDoc (ps : List Node) : Doc :=
  let isMut := hasWord "mut" ps
  leadingDoc r ps ++ openAll 0 ++ visibilityDoc r ps ++ word "static " ++
    (if isMut then word "mut " else []) ++
    nameDoc (afterWord? (if isMut then "mut" else "static") ps) ++ word ": " ++
    ((afterOp? ":" ps).map r.type).getD [] ++ valueDoc r ps ++ word ";" ++ close ++ hardBreak

/-- Another name for a type. -/
def typeItemDoc (ps : List Node) : Doc :=
  let bounds := match part? .bounds ps with
    | some n => boundsOnLines (boundDoc r) (word ": ") n.parts
    | none => []
  let value := afterOp? "=" ps
  let clauseFirst := match ps.findIdx? (·.isKind .whereClause), ps.findIdx? (·.isOp "=") with
    | some i, some j => decide (i < j)
    | _, _ => false
  leadingDoc r ps ++ openAll indent ++ visibilityDoc r ps ++ keywordDoc "default" ps ++
    word "type " ++ nameDoc (afterWord? "type" ps) ++ genericsDoc r ps ++ bounds ++
    (match value with
      | some t =>
        if clauseFirst then
          whereOnLine r false ps ++ word "= " ++ neverBreak ++ openSome (-indent) ++ r.type t ++
            close ++ word ";"
        else
          word " = " ++ neverBreak ++ openSome (-indent) ++ r.type t ++ close ++
            whereOnLine r true ps
      | none => whereOnLine r true ps) ++
    close ++ hardBreak

/-- A type of a block of foreign declarations; its where clause is dropped. -/
def foreignTypeDoc (ps : List Node) : Doc :=
  leadingDoc r ps ++ openAll 0 ++ visibilityDoc r ps ++ word "type " ++
    nameDoc (afterWord? "type" ps) ++ genericsDoc r ps ++ word ";" ++ close ++ hardBreak

/-- Another name for bounds. -/
def traitAliasDoc (ps : List Node) : Doc :=
  let bounds := match part? .bounds ps with
    | some n => boundsOnLines (boundDoc r) [] n.parts
    | none => []
  leadingDoc r ps ++ openAll indent ++ visibilityDoc r ps ++ word "trait " ++
    nameDoc (afterWord? "trait" ps) ++ genericsDoc r ps ++ word " = " ++ neverBreak ++ bounds ++
    whereOnLines r true ps ++ close ++ hardBreak

/-- A declaration of another package. -/
def externCrateDoc (ps : List Node) : Doc :=
  leadingDoc r ps ++ visibilityDoc r ps ++ word "extern crate " ++
    nameDoc (afterWord? "crate" ps) ++
    (match afterWord? "as" ps with
      | some n => word " as " ++ nameDoc (some n)
      | none => []) ++
    word ";" ++ hardBreak

/-- A module. -/
def moduleDoc (ps : List Node) : Doc :=
  leadingDoc r ps ++ openAll indent ++ visibilityDoc r ps ++ keywordDoc "unsafe" ps ++
    word "mod " ++ nameDoc (afterWord? "mod" ps) ++
    (match ps.getLast? with
      | some (.group .brace content) => word " \x7b" ++ itemsBody r content
      | _ => word ";" ++ close ++ hardBreak)

/-- A block of foreign declarations. -/
def externBlockDoc (ps : List Node) : Doc :=
  leadingDoc r ps ++ openAll indent ++ keywordDoc "unsafe" ps ++ abiDoc ps ++ word "\x7b" ++
    itemsBody r (braceParts ps)

/-- A call of a macro as an item. -/
def macroItemDoc (ps : List Node) : Doc :=
  match part? .macroCall ps with
  | some n => leadingDoc r ps ++ macroDoc r (macroNeedsSemicolon n) n ++ hardBreak
  | none => []

/-- An item. -/
def itemDoc (n : Node) : Doc :=
  match n with
  | .phrase .fnItem ps => functionDoc r ps
  | .phrase .traitItem ps => traitDoc r ps
  | .phrase .implItem ps => implDoc r ps
  | .phrase .useItem ps => useDoc r ps
  | .phrase .structItem ps => structItemDoc r "struct" ps
  | .phrase .unionItem ps => structItemDoc r "union" ps
  | .phrase .enumItem ps => enumDoc r ps
  | .phrase .constItem ps => constDoc r ps
  | .phrase .staticItem ps => staticDoc r ps
  | .phrase .typeItem ps => typeItemDoc r ps
  | .phrase .foreignType ps => foreignTypeDoc r ps
  | .phrase .traitAlias ps => traitAliasDoc r ps
  | .phrase .externCrate ps => externCrateDoc r ps
  | .phrase .moduleItem ps => moduleDoc r ps
  | .phrase .externBlock ps => externBlockDoc r ps
  | .phrase .macroItem ps => macroItemDoc r ps
  | _ => []

end

/-! ## Whole files -/

/-- The layouts of phrases nested at most so many levels deep. -/
def rules : Nat → Rules
  | 0 =>
    { attributes := fun _ => []
      type := fun _ => []
      expr := fun _ _ => []
      pattern := fun _ => []
      statement := fun _ _ => []
      item := fun _ => [] }
  | n + 1 =>
    let r := rules n
    { attributes := attributesDoc r
      type := typeDoc r
      expr := exprDoc r
      pattern := patternDoc r
      statement := statementDoc r
      item := itemDoc r }

/-- The document of a file. -/
def fileDoc (f : File) : Doc :=
  let nodes := f.toNodes
  let r := rules (3 * Node.depthAll nodes + 8)
  openAll 0 ++ (match f.interpreter with
    | some line => word line ++ hardBreak
    | none => []) ++
    leadingDoc r nodes ++ (afterAttributes nodes).flatMap r.item ++ close

/-- **The layout of a file**: the text in which each item is set.  There is none if a phrase of the
file is only kept as it is written. -/
def ofFile (f : File) : Option String :=
  if Node.anyVerbatim f.toNodes then none else some (render (fileDoc f))

end RestLoom.Layout
