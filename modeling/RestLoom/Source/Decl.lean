import RestLoom.Source.Node

/-!
# Source/Decl — declarations with named parts

The declarations that a service is read from and written as: attributes, visibilities, signatures,
traits and modules.  Each has a source tree, `toNode`, in which its parts stand in the order of the
language; every other declaration is kept as a source tree only.
-/

namespace RestLoom.Source

open RestLoom.Token (Ident Delimiter)

/-- What follows the path of an attribute. -/
inductive Arguments where
  | absent
  | list (d : Delimiter) (tokens : List Token)
  | value (n : Node)

/-- An attribute; an inner one belongs to what encloses it. -/
structure Attribute where
  inner : Bool
  path : Node
  arguments : Arguments

namespace Attribute

/-- The source tree of an attribute. -/
def toNode (a : Attribute) : Node :=
  let arguments : List Node := match a.arguments with
    | .absent => []
    | .list d ts => [.group d [.raw ts]]
    | .value n => [.op "=", n]
  .phrase .attribute
    (.op "#" :: (if a.inner then [.op "!"] else []) ++ [.group .bracket (a.path :: arguments)])

/-- Whether the attribute's path is that single name. -/
def isNamed (a : Attribute) (text : String) : Bool := isPathIdent a.path text

/-- The trees of the attributes that stand before a declaration. -/
def outerNodes (as : List Attribute) : List Node :=
  (as.filter fun a => !a.inner).map toNode

/-- The trees of the attributes that stand inside a declaration. -/
def innerNodes (as : List Attribute) : List Node :=
  (as.filter (·.inner)).map toNode

end Attribute

/-- Who may use a declaration. -/
inductive Visibility where
  | inherited
  | everyone
  | within (hasIn : Bool) (path : Node)

namespace Visibility

/-- The source trees of a visibility. -/
def toNodes : Visibility → List Node
  | inherited => []
  | everyone => [.phrase .visibility [.word "pub"]]
  | within hasIn path =>
    [.phrase .visibility
      [.word "pub", .group .paren ((if hasIn then [.word "in"] else []) ++ [path])]]

/-- Whether a declaration is public. -/
def isPublic : Visibility → Bool
  | everyone => true
  | _ => false

/-- Whether no visibility is written. -/
def isInherited : Visibility → Bool
  | inherited => true
  | _ => false

end Visibility

/-- The parameter through which a method gets its object: by a reference, which may have a
lifetime, or by value, possibly with a type. -/
structure Receiver where
  attributes : List Attribute
  reference : Option (Option Ident)
  isMut : Bool
  type : Option Node

/-- A parameter with a pattern and a type. -/
structure Param where
  attributes : List Attribute
  pattern : Node
  type : Node

/-- One entry of a parameter list. -/
inductive Input where
  | receiver (r : Receiver)
  | param (p : Param)

namespace Input

/-- The source tree of an entry. -/
def toNode : Input → Node
  | receiver r =>
    let reference : List Node := match r.reference with
      | none => []
      | some none => [.op "&"]
      | some (some l) => [.op "&", .lifetime l]
    let type : List Node := match r.type with
      | none => []
      | some t => [.op ":", t]
    .phrase .receiver (Attribute.outerNodes r.attributes ++ reference ++
      (if r.isMut then [.word "mut"] else []) ++ .word "self" :: type)
  | param p =>
    .phrase .param (Attribute.outerNodes p.attributes ++ [p.pattern, .op ":", p.type])

end Input

/-- Trees with a separator between neighbours, and after the last one if `trailing`. -/
def separated (separator : String) (trailing : Bool) : List Node → List Node
  | [] => []
  | [n] => if trailing then [n, .op separator] else [n]
  | n :: ns => n :: .op separator :: separated separator trailing ns

/-- A signature of a function. -/
structure Signature where
  isConst : Bool
  isAsync : Bool
  isUnsafe : Bool
  abi : Option Node
  name : Ident
  generics : Option Node
  inputs : List Input
  trailingComma : Bool
  variadic : Option Node
  output : Option Node
  whereClause : Option Node

namespace Signature

/-- The receiver, if the first entry is one. -/
def receiver? (s : Signature) : Option Receiver :=
  match s.inputs with
  | .receiver r :: _ => some r
  | _ => none

/-- The parameters that are no receiver. -/
def params (s : Signature) : List Param :=
  s.inputs.filterMap fun
    | .param p => some p
    | .receiver _ => none

/-- A keyword if it is present. -/
def keyword (present : Bool) (text : String) : List Node := if present then [.word text] else []

/-- The source tree of a signature. -/
def toNode (s : Signature) : Node :=
  let inputs := separated "," (s.trailingComma || s.variadic.isSome) (s.inputs.map Input.toNode)
  let output : List Node := match s.output with
    | none => []
    | some t => [.phrase .returnType [.op "->", t]]
  .phrase .signature
    (keyword s.isConst "const" ++ keyword s.isAsync "async" ++ keyword s.isUnsafe "unsafe" ++
      s.abi.toList ++ [.word "fn", .ident s.name] ++ s.generics.toList ++
      [.group .paren (inputs ++ s.variadic.toList)] ++ output ++ s.whereClause.toList)

end Signature

/-- A function in a trait, with its statements if it has a body. -/
structure Method where
  attributes : List Attribute
  signature : Signature
  body : Option (List Node)

/-- A function as a source tree: attributes, what stands before the signature, and the body or a
semicolon. -/
def functionNode (attributes : List Attribute) (before : List Node) (s : Signature)
    (body : Option (List Node)) : Node :=
  let body : Node := match body with
    | some stmts => .group .brace (Attribute.innerNodes attributes ++ stmts)
    | none => .op ";"
  .phrase .fnItem (Attribute.outerNodes attributes ++ before ++ [s.toNode, body])

/-- The source tree of a function in a trait. -/
def Method.toNode (m : Method) : Node := functionNode m.attributes [] m.signature m.body

/-- An item of a trait; all but functions are trees. -/
inductive TraitItem where
  | method (m : Method)
  | other (n : Node)

/-- The source tree of an item of a trait. -/
def TraitItem.toNode : TraitItem → Node
  | method m => m.toNode
  | other n => n

/-- A trait. -/
structure TraitDecl where
  attributes : List Attribute
  visibility : Visibility
  isUnsafe : Bool
  isAuto : Bool
  name : Ident
  generics : Option Node
  supertraits : List Node
  trailingPlus : Bool
  whereClause : Option Node
  items : List TraitItem

/-- The source tree of a trait. -/
def TraitDecl.toNode (t : TraitDecl) : Node :=
  let supertraits : List Node :=
    if t.supertraits.isEmpty then []
    else [.op ":", .phrase .supertraits (separated "+" t.trailingPlus t.supertraits)]
  .phrase .traitItem
    (Attribute.outerNodes t.attributes ++ t.visibility.toNodes ++
      Signature.keyword t.isUnsafe "unsafe" ++ Signature.keyword t.isAuto "auto" ++
      [.word "trait", .ident t.name] ++ t.generics.toList ++ supertraits ++
      t.whereClause.toList ++
      [.group .brace (Attribute.innerNodes t.attributes ++ t.items.map TraitItem.toNode)])

/-- An item of a file or of a module. -/
inductive Item where
  | use (n : Node)
  | trait (t : TraitDecl)
  | module (attributes : List Attribute) (visibility : Visibility) (isUnsafe : Bool)
      (name : Ident) (content : List Item)
  | other (n : Node)

namespace Item

mutual

/-- The source tree of an item. -/
def toNode : Item → Node
  | use n => n
  | trait t => t.toNode
  | other n => n
  | module attributes visibility isUnsafe name content =>
    .phrase .moduleItem
      (Attribute.outerNodes attributes ++ visibility.toNodes ++
        Signature.keyword isUnsafe "unsafe" ++ [.word "mod", .ident name] ++
        [.group .brace (Attribute.innerNodes attributes ++ toNodes content)])

/-- The source trees of items in order. -/
def toNodes : List Item → List Node
  | [] => []
  | i :: is => toNode i :: toNodes is

end

end Item

/-- A source file: a first line that names an interpreter, attributes, and items. -/
structure File where
  interpreter : Option String
  attributes : List Attribute
  items : List Item

/-- The source trees of a file. -/
def File.toNodes (f : File) : List Node :=
  f.attributes.map Attribute.toNode ++ Item.toNodes f.items

/-- The tokens of a file. -/
def File.tokens (f : File) : List Token := Node.tokensAll f.toNodes

end RestLoom.Source
