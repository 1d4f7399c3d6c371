import RestLoom.Service.Extract

/-!
# Proofs/Service/Rules — what a service declaration has to be

    marked method  ──▸  one marker · &self · Result<…> · parameters that each go somewhere

The rules are stated on the declaration alone, without the order in which it is read.  A trait that
keeps them documents a service (`documentedService`): its marked methods are the endpoints, and the
markers, the type and the path of a parameter give its role.
-/

namespace RestLoom.Service

open RestLoom.Token (Ident)
open RestLoom.Source

/-! ## Markers -/

/-- The attributes of a method that are named like a verb. -/
def verbMarkers (as : List Attribute) : List Attribute :=
  as.filter fun a => Verb.all.any fun v => a.isNamed v.marker

/-- What may follow the name of a verb: nothing, or a single string between brackets. -/
def IsPathArgument (arguments : Arguments) : Prop :=
  arguments = .absent ∨
    ∃ d text, arguments = .list d [.literal text] ∧ Token.isString text = true

/-- The path that the arguments of a verb spell; none spell the empty one. -/
def declaredPath : Arguments → String
  | .list _ [.literal text] => (Token.stringValue? text).getD ""
  | _ => ""

/-- The attributes of a parameter that are named `query` or `body`. -/
def paramMarkers (p : Param) : List Attribute :=
  p.attributes.filter fun a => a.isNamed "query" || a.isNamed "body"

/-- Whether a parameter has an attribute of that name. -/
def hasMarker (text : String) (p : Param) : Bool := p.attributes.any (·.isNamed text)

/-! ## Types -/

/-- A type that is a path without a type in front of it, by its last segment. -/
def EndsWithSegment (t : Node) (i : Ident) (arguments : List Node) : Prop :=
  ∃ segments, t = .phrase .pathType [.phrase .path segments] ∧
    segments.getLast? = some (.phrase .segment (.ident i :: arguments))

/-- A result type, by the first argument between its angle brackets, which is a type. -/
def IsResultOf (t value : Node) : Prop :=
  ∃ i arguments, EndsWithSegment t i [.phrase .genericArgs arguments] ∧ i.text = "Result" ∧
    firstArgument? ((elements "," arguments).filter fun n =>
      !(n.isOp "<" || n.isOp ">" || n.isOp "::")) = some value ∧ isTypeArgument value = true

/-- A type whose path ends in the name of cancellation tokens. -/
def IsTokenPath (t : Node) : Prop :=
  ∃ i arguments, EndsWithSegment t i arguments ∧ i.text = "CancellationToken"

/-- The type of a cancellation token, by value or behind one reference. -/
def IsTokenType (t : Node) : Prop :=
  IsTokenPath t ∨ ∃ parts inner, t = .phrase .refType parts ∧ parts.getLast? = some inner ∧
    IsTokenPath inner

theorem typeSegment?_eq_some {t : Node} {i : Ident} {arguments : List Node} :
    typeSegment? t = some (i, arguments) ↔ EndsWithSegment t i arguments := by
  constructor
  · intro h
    unfold typeSegment? at h
    split at h
    next p =>
      unfold lastSegment? at h
      split at h
      next ps =>
        split at h
        next hlast =>
          cases h
          exact ⟨ps, rfl, hlast⟩
        next => cases h
      next => cases h
    next => cases h
  · rintro ⟨segments, rfl, hlast⟩
    simp only [typeSegment?, lastSegment?, hlast]

theorem endsIn_iff {t : Node} :
    endsIn "CancellationToken" t = true ↔ IsTokenPath t := by
  simp only [endsIn, Option.any_eq_true, Prod.exists, typeSegment?_eq_some, IsTokenPath, Ident.is,
    beq_iff_eq]

theorem isToken_iff {t : Node} : isToken t = true ↔ IsTokenType t := by
  unfold isToken
  split
  next parts =>
    have hpath : ¬ IsTokenPath (.phrase .refType parts) := by
      rintro ⟨i, arguments, ⟨segments, h, -⟩, -⟩
      cases h
    cases hlast : parts.getLast? with
    | none => simp [IsTokenType, hpath, hlast]
    | some inner => simp [IsTokenType, hpath, hlast, endsIn_iff]
  next t hne =>
    rw [endsIn_iff, IsTokenType, or_iff_left]
    rintro ⟨parts, inner, rfl, -⟩
    exact hne parts rfl

instance : DecidablePred IsTokenType := fun _ => decidable_of_iff _ isToken_iff

/-! ## Parameters -/

/-- The text of the name that a parameter binds. -/
def paramText? (p : Param) : Option (List Char) :=
  (patternName? p.pattern).map fun i => i.text.toList

/-- A parameter without a marker that is no token: the path or the body has to take it. -/
def IsOpen (p : Param) : Prop := paramMarkers p = [] ∧ ¬ IsTokenType p.type

/-- **The rules of one parameter.** -/
structure LawfulParam (p : Param) : Prop where
  /-- Its pattern is a name that generated bodies do not use. -/
  named : ∃ name, patternName? p.pattern = some name ∧ ¬ "__refit".toList <+: name.text.toList
  markers_le : (paramMarkers p).length ≤ 1
  bare : ∀ a ∈ paramMarkers p, a.arguments = .absent
  token : IsTokenType p.type → paramMarkers p = []

/-- An open parameter that no place in the path is named after. -/
def IsUnbound (template : Path.Template) (p : Param) : Prop :=
  IsOpen p ∧ ∀ place ∈ template.placeholders, paramText? p ≠ some place

instance : DecidablePred IsOpen := fun p =>
  inferInstanceAs (Decidable (paramMarkers p = [] ∧ ¬ IsTokenType p.type))

instance (template : Path.Template) : DecidablePred (IsUnbound template) := fun p =>
  inferInstanceAs (Decidable (IsOpen p ∧ ∀ place ∈ template.placeholders,
    paramText? p ≠ some place))

/-- **The rules of the parameters of an endpoint**, taken together. -/
structure LawfulParams (template : Path.Template) (ps : List Param) : Prop where
  each : ∀ p ∈ ps, LawfulParam p
  bodies_le : (ps.filter (hasMarker "body")).length ≤ 1
  unbound_le : (ps.filter fun p => IsUnbound template p).length ≤
    if ps.any (hasMarker "body") then 0 else 1
  /-- Each place in the path has a parameter of its name. -/
  places : ∀ place ∈ template.placeholders, ∃ p ∈ ps, IsOpen p ∧ paramText? p = some place

/-! ## Methods and traits -/

/-- The path of a method, by its first marker. -/
def declaredTemplate (m : Method) : Path.Template :=
  .ofString (declaredPath (((verbMarkers m.attributes).head?.map (·.arguments)).getD .absent))

/-- **The rules of a method that is an endpoint.** -/
structure LawfulEndpoint (m : Method) : Prop where
  marker : ∃ a, verbMarkers m.attributes = [a] ∧ IsPathArgument a.arguments
  /-- It takes its object as `&self`, possibly with a lifetime. -/
  receiver : ∃ r inputs, m.signature.inputs = .receiver r :: inputs ∧ r.reference ≠ none ∧
    r.isMut = false
  result : ∃ t value, m.signature.output = some t ∧ IsResultOf t value
  params : LawfulParams (declaredTemplate m) m.signature.params

/-- **The rules of a service declaration.** -/
structure LawfulService (t : TraitDecl) : Prop where
  plain : t.generics = none ∧ t.whereClause = none
  endpoints : ∀ m ∈ methods t, verbMarkers m.attributes ≠ [] → LawfulEndpoint m

/-! ## The service that is documented -/

/-- **The role of a parameter**: that of its marker, or its type's, or the path's; what is left over
is the body. -/
def documentedRole (template : Path.Template) (p : Param) : Role :=
  if hasMarker "query" p then .query
  else if hasMarker "body" p then .body
  else if IsTokenType p.type then .token
  else if ∃ name ∈ template.placeholders, paramText? p = some name then .path
  else .body

/-- A parameter in its role. -/
def documentedParam? (template : Path.Template) (p : Param) : Option Parameter :=
  (patternName? p.pattern).map fun name =>
    ⟨name, p.type, documentedRole template p, isOption p.type⟩

/-- The endpoint that a method with a marker documents. -/
def documentedEndpoint? (m : Method) : Option Endpoint := do
  let marker ← (verbMarkers m.attributes).head?
  let verb ← Verb.all.find? fun v => marker.isNamed v.marker
  let value ← m.signature.output.bind resultValue?
  return {
    name := m.signature.name
    verb := verb
    path := declaredTemplate m
    params := m.signature.params.filterMap (documentedParam? (declaredTemplate m))
    isAsync := m.signature.isAsync
    value := if isUnit value then none else some value
    signature := stripSignature m.signature }

/-- **The service that a trait documents.** -/
def documentedService (t : TraitDecl) (baseUrl : Option String) : Service where
  name := t.name
  visibility := t.visibility
  baseUrl := baseUrl
  endpoints := (methods t).filterMap documentedEndpoint?
  skipped := ((methods t).filter fun m => (verbMarkers m.attributes).isEmpty).map (·.signature.name)

end RestLoom.Service
