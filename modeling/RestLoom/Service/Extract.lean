import RestLoom.Service.Marker

/-!
# Service/Extract — the service that a trait declares

Each parameter of an endpoint gets its role from its marker, its type or the path.  One without any
of these is the body, unless there would be two.  The first rule that is broken, in the order of the
declaration, is the error.
-/

namespace RestLoom.Service

open RestLoom.Token (Ident)
open RestLoom.Source

/-! ## Types -/

/-- The last segment of a type that is a path. -/
def typeSegment? : Node → Option (Ident × List Node)
  | .phrase .pathType [p] => lastSegment? p
  | _ => none

/-- Whether a type is a path that ends in that name. -/
def endsIn (name : String) (t : Node) : Bool := (typeSegment? t).any fun s => s.1.is name

/-- The elements between the angle brackets of a path's arguments. -/
def angleArguments? : List Node → Option (List Node)
  | [.phrase .genericArgs ps] =>
    some ((elements "," ps).filter fun n => !(n.isOp "<" || n.isOp ">" || n.isOp "::"))
  | _ => none

/-- The argument that is written first; lifetimes written after it stand before it. -/
def firstArgument? (arguments : List Node) : Option Node :=
  arguments.find? fun n => !n.isKind .movedLifetime

/-- Whether an argument is a type. -/
def isTypeArgument : Node → Bool
  | .phrase k _ => !([Kind.constArg, .assocType, .assocConst, .constraint].contains k)
  | _ => false

/-- The type of the value in the result type of an endpoint. -/
def resultValue? (t : Node) : Option Node := do
  let (name, arguments) ← typeSegment? t
  if name.is "Result" then
    let first ← firstArgument? (← angleArguments? arguments)
    if isTypeArgument first then some first else none
  else none

/-- Whether a type is the empty tuple. -/
def isUnit : Node → Bool
  | .phrase .tupleType [.group _ []] => true
  | _ => false

/-- Whether a type is an option. -/
def isOption (t : Node) : Bool :=
  (typeSegment? t).any fun s => s.1.is "Option" && (angleArguments? s.2).isSome

/-- Whether a type is a cancellation token, possibly behind one reference. -/
def isToken (t : Node) : Bool :=
  match t with
  | .phrase .refType ps => (ps.getLast?.map (endsIn "CancellationToken")).getD false
  | t => endsIn "CancellationToken" t

/-! ## Parameters -/

/-- The name that a pattern binds if it is a name. -/
def patternName? : Node → Option Ident
  | .phrase .identPat ps =>
    ps.findSome? fun
      | .ident i => if i.is "ref" || i.is "mut" then none else some i
      | _ => none
  | _ => none

/-- How a parameter came to its role. -/
inductive Binding where
  /-- By its marker, its type or the path. -/
  | bound
  /-- It is marked as the body. -/
  | markedBody
  /-- Only because nothing else would send it. -/
  | candidate
  deriving DecidableEq

/-- The role of a parameter with a name, a mark and a type. -/
def roleOf (template : Path.Template) (bodySeen : Bool) (name : Ident) (isToken : Bool) :
    Option Mark → Except ExtractError (Role × Binding)
  | some m =>
    if isToken then .error .markedToken
    else match m with
      | .query => .ok (.query, .bound)
      | .body => if bodySeen then .error .severalBodies else .ok (.body, .markedBody)
  | none =>
    if isToken then .ok (.token, .bound)
    else if template.hasPlaceholder name.text.toList then .ok (.path, .bound)
    else .ok (.body, .candidate)

/-- Whether a name is reserved for generated bodies. -/
def isReserved (name : Ident) : Bool := name.text.startsWith reservedStart

/-- A parameter with its role. -/
def bindParam (template : Path.Template) (bodySeen : Bool) (p : Param) :
    Except ExtractError (Parameter × Binding) :=
  match patternName? p.pattern with
  | none => .error .patternParameter
  | some name =>
    if isReserved name then .error .reservedParameter
    else do
      let mark ← readMark p.attributes
      let (role, binding) ← roleOf template bodySeen name (isToken p.type) mark
      return (⟨name, p.type, role, isOption p.type⟩, binding)

/-- The parameters with their roles, in order. -/
def bindParams (template : Path.Template) (bodySeen : Bool) :
    List Param → Except ExtractError (List (Parameter × Binding))
  | [] => .ok []
  | p :: ps => do
    let b ← bindParam template bodySeen p
    let bs ← bindParams template (bodySeen || b.2 = .markedBody) ps
    return b :: bs

/-- Refuses parameters that nothing would send, and two that could be the body. -/
def checkBody (bs : List (Parameter × Binding)) : Except ExtractError Unit :=
  let candidates := (bs.filter fun b => b.2 = .candidate).map fun b => b.1.name
  let marked := bs.any fun b => b.2 = .markedBody
  match marked, candidates with
  | true, unbound :: _ => .error (.unboundParameter unbound)
  | false, first :: second :: _ => .error (.ambiguousBody first second)
  | _, _ => .ok ()

/-- Refuses a place in the path that no parameter fills. -/
def checkPlaces (template : Path.Template) (params : List Parameter) : Except ExtractError Unit :=
  let fills (place : List Char) : Bool :=
    params.any fun p => p.role = .path && p.name.text.toList == place
  match template.placeholders.find? fun place => !fills place with
  | some place => .error (.unboundPlace place)
  | none => .ok ()

/-! ## Endpoints and services -/

/-- Whether a method takes its object by a plain shared reference. -/
def takesSharedSelf (s : Signature) : Bool :=
  s.receiver?.any fun r => r.reference.isSome && !r.isMut

/-- The value type of a signature's result. -/
def valueOf (s : Signature) : Except ExtractError Node :=
  match s.output.bind resultValue? with
  | some t => .ok t
  | none => .error .returnType

/-- The endpoint that a marked method declares. -/
def extractEndpoint (m : Method) (verb : Verb) (path : String) : Except ExtractError Endpoint := do
  let s := m.signature
  if !takesSharedSelf s then throw .receiver
  let value ← valueOf s
  let template := Path.Template.ofString path
  let bound ← bindParams template false s.params
  checkBody bound
  let params := bound.map (·.1)
  checkPlaces template params
  return {
    name := s.name
    verb := verb
    path := template
    params := params
    isAsync := s.isAsync
    value := if isUnit value then none else some value
    signature := stripSignature s }

/-- What a method of a service is. -/
inductive Member where
  | endpoint (e : Endpoint)
  | skipped (name : Ident)

/-- What a method of a trait is. -/
def extractMethod (m : Method) : Except ExtractError Member := do
  match ← readVerb m.attributes with
  | some (verb, path) => return .endpoint (← extractEndpoint m verb path)
  | none => return .skipped m.signature.name

/-- The methods among the items of a trait. -/
def methods (t : TraitDecl) : List Method :=
  t.items.filterMap fun
    | .method m => some m
    | .other _ => none

/-- The service that a trait declares, with its base address. -/
def extract (t : TraitDecl) (baseUrl : Option String) : Except ExtractError Service := do
  if t.generics.isSome || t.whereClause.isSome then throw .genericTrait
  let members ← (methods t).mapM extractMethod
  return {
    name := t.name
    visibility := t.visibility
    baseUrl := baseUrl
    endpoints := members.filterMap fun
      | .endpoint e => some e
      | .skipped _ => none
    skipped := members.filterMap fun
      | .skipped name => some name
      | .endpoint _ => none }

/-- The service that a trait declares by its first marker; `none` without one. -/
def extractMarked (t : TraitDecl) : Option (Except ExtractError Service) :=
  (t.attributes.find? isServiceMarker).map fun marker => do
    extract t (← readServiceMarker marker)

end RestLoom.Service
