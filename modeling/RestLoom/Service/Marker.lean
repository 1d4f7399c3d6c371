import RestLoom.Service.Model
import RestLoom.Source.Grammar

/-!
# Service/Marker — the attributes that mark services, endpoints and parameters

    #[rest_client(base_url = "…")] trait   #[get("/a/{id}")] method   #[query] parameter

A marker on a trait may declare a base address, one on a method declares the verb and the path, and
one on a parameter its role.
-/

namespace RestLoom.Service

open RestLoom.Token (Ident)
open RestLoom.Source

/-- Why a trait is no service. -/
inductive ExtractError where
  | genericTrait
  /-- The marker of the trait has an equals sign. -/
  | traitMarkerShape
  /-- The marker of the trait has an argument of another name. -/
  | unknownArgument (name : String)
  /-- The arguments of a marker are malformed. -/
  | malformed (e : ReadError)
  | severalVerbs
  | verbMarkerShape (v : Verb)
  | receiver
  | returnType
  | patternParameter
  | reservedParameter
  | markerArguments
  | severalMarkers
  | markedToken
  | severalBodies
  | unboundParameter (name : Ident)
  | ambiguousBody (first second : Ident)
  | unboundPlace (name : List Char)

/-- The start of the names that generated bodies use. -/
def reservedStart : String := "__refit"

namespace ExtractError

/-- The wording of an error. -/
def message : ExtractError → String
  | genericTrait => "rest_client traits cannot be generic"
  | traitMarkerShape =>
    "expected #[rest_client] or #[rest_client(base_url = \x22...\x22)]"
  | unknownArgument name =>
    "unknown rest_client attribute: \x60" ++ name ++ "\x60. Expected \x60base_url\x60"
  | malformed e => e.message
  | severalVerbs => "an endpoint method takes exactly one verb marker"
  | verbMarkerShape v => "expected #[" ++ v.marker ++ "(\x22/path\x22)]"
  | receiver => "endpoint methods must take \x60&self\x60"
  | returnType => "endpoint methods must return Result<T, E>"
  | patternParameter => "endpoint parameters must be plain identifiers"
  | reservedParameter =>
    "parameter names starting with \x60" ++ reservedStart ++ "\x60 are reserved"
  | markerArguments => "#[query] and #[body] take no arguments"
  | severalMarkers => "a parameter is either #[query] or #[body], not both"
  | markedToken => "cancellation tokens are passed through and cannot be #[query] or #[body]"
  | severalBodies => "only one parameter may be marked #[body]"
  | unboundParameter name =>
    "parameter \x60" ++ name.text ++
      "\x60 is not bound to the request; mark it #[query] or use it in the path"
  | ambiguousBody first second =>
    "ambiguous request body: both \x60" ++ first.text ++ "\x60 and \x60" ++ second.text ++
      "\x60 could be the body; mark one #[body] and the others #[query]"
  | unboundPlace name =>
    "path placeholder \x60\x7b" ++ String.ofList name ++ "\x7d\x60 has no matching parameter"

end ExtractError

/-! ## Traits -/

/-- The last name in the path of an attribute. -/
def lastName? (path : Node) : Option Ident :=
  match path with
  | .phrase .path ps =>
    match ps.getLast? with
    | some (.phrase .segment (.ident i :: _)) => some i
    | _ => none
  | _ => none

/-- Whether an attribute marks a trait as a service, whatever path leads to the marker. -/
def isServiceMarker (a : Attribute) : Bool := (lastName? a.path).any (·.is "rest_client")

/-- The path of an argument, which may hold keywords. -/
def argumentPath : Reader Node := do
  let front ← op? "::"
  let first ←
    if ← peek .anyWord then anyWord
    else if ← atEnd then refuseFor "expected nested attribute"
    else if ← peek .literal then
      refuseFor "unexpected literal in nested attribute, expected ident"
    else refuseFor "unexpected token in nested attribute, expected ident"
  let rest ← repeatStep fun acc => do
    if ← peekOp "::" then
      let c ← op "::"
      return (acc ++ [c, bareSegment (← anyWord)], true)
    else return (acc, false)
  return .phrase .path (front ++ bareSegment first :: rest)

/-- A string literal, with the words that its absence is reported in. -/
def stringLiteral : Reader String := do
  if ← peek .string then string else refuseFor "expected string literal"

/-- The arguments of a service marker: the base address, the last one if there are several.  An
argument of another name ends the reading. -/
def serviceArguments : Reader (Except String (Option String)) := do
  let steps ← repeatStep fun acc => do
    if ← atEnd then return (acc, false)
    else
      let p ← argumentPath
      if isPathIdent p "base_url" then
        let _ ← op "="
        let t ← stringLiteral
        let entry := Except.ok (Token.stringValue? t)
        if ← atEnd then return ([entry], false)
        else
          let _ ← op ","
          return ([entry], true)
      else
        advanceTo []
        return ([.error (((pathIdent? p).map Ident.text).getD "")], false)
  return (steps.getLast?).getD (.ok none)

/-- The base address that the tokens of a marker's arguments declare. -/
def readServiceArguments (ts : List Token) : Except ExtractError (Option String) :=
  match readAll serviceArguments ts with
  | .error e => .error (.malformed e)
  | .ok (.error name) => .error (.unknownArgument name)
  | .ok (.ok url) => .ok url

/-- The base address that a service marker declares. -/
def readServiceMarker (a : Attribute) : Except ExtractError (Option String) :=
  match a.arguments with
  | .absent => .ok none
  | .list _ ts => readServiceArguments ts
  | .value _ => .error .traitMarkerShape

/-! ## Methods -/

/-- The verb that an attribute marks a method with. -/
def verbOf? (a : Attribute) : Option Verb :=
  (pathIdent? a.path).bind fun i => Verb.ofMarker? i.text

/-- Whether an attribute marks a method with a verb. -/
def isVerbMarker (a : Attribute) : Bool := (verbOf? a).isSome

/-- The path that a verb marker declares; the empty one if it has no arguments. -/
def readVerbPath (v : Verb) : Arguments → Except ExtractError String
  | .absent => .ok ""
  | .list _ ts =>
    match readAll stringLiteral ts with
    | .ok t => .ok ((Token.stringValue? t).getD "")
    | .error e => .error (.malformed e)
  | .value _ => .error (.verbMarkerShape v)

/-- The verb and the path that the attributes of a method declare, given the ones found so far. -/
def readVerbFrom (found : Option (Verb × String)) :
    List Attribute → Except ExtractError (Option (Verb × String))
  | [] => .ok found
  | a :: as =>
    match verbOf? a with
    | none => readVerbFrom found as
    | some v =>
      if found.isSome then .error .severalVerbs
      else
        match readVerbPath v a.arguments with
        | .ok path => readVerbFrom (some (v, path)) as
        | .error e => .error e

/-- The verb and the path that the attributes of a method declare. -/
def readVerb (as : List Attribute) : Except ExtractError (Option (Verb × String)) :=
  readVerbFrom none as

/-! ## Parameters -/

/-- What a parameter is marked as. -/
inductive Mark where
  | query
  | body
  deriving DecidableEq

/-- What an attribute marks a parameter as. -/
def markOf? (a : Attribute) : Option Mark :=
  if a.isNamed "query" then some .query else if a.isNamed "body" then some .body else none

/-- Whether an attribute marks a parameter. -/
def isParamMarker (a : Attribute) : Bool := (markOf? a).isSome

/-- What the attributes of a parameter mark it as, given the mark found so far. -/
def readMarkFrom (found : Option Mark) : List Attribute → Except ExtractError (Option Mark)
  | [] => .ok found
  | a :: as =>
    match markOf? a with
    | none => readMarkFrom found as
    | some m =>
      match a.arguments with
      | .absent => if found.isSome then .error .severalMarkers else readMarkFrom (some m) as
      | _ => .error .markerArguments

/-- What the attributes of a parameter mark it as. -/
def readMark (as : List Attribute) : Except ExtractError (Option Mark) := readMarkFrom none as

/-! ## Removing markers -/

/-- A parameter without its markers. -/
def stripInput : Input → Input
  | .param p => .param { p with attributes := p.attributes.filter fun a => !isParamMarker a }
  | .receiver r => .receiver r

/-- A signature whose parameters have no markers. -/
def stripSignature (s : Signature) : Signature := { s with inputs := s.inputs.map stripInput }

/-- An item of a trait without markers. -/
def stripTraitItem : TraitItem → TraitItem
  | .method m =>
    .method { m with
      attributes := m.attributes.filter fun a => !isVerbMarker a
      signature := stripSignature m.signature }
  | .other n => .other n

/-- A trait without any marker. -/
def stripTrait (t : TraitDecl) : TraitDecl :=
  { t with
    attributes := t.attributes.filter fun a => !isServiceMarker a
    items := t.items.map stripTraitItem }

end RestLoom.Service
