import RestLoom.Source.Decl
import RestLoom.Path.Template
import RestLoom.Naming.Snake

/-!
# Service/Model — services, endpoints and parameters

A service is a trait whose marked methods are endpoints: each sends one request, to which every
parameter contributes in the role it has.
-/

namespace RestLoom

open RestLoom.Token (Ident)
open RestLoom.Source (Node Signature Visibility)

namespace Service

/-- The verb of a request. -/
inductive Verb where
  | get
  | post
  | put
  | delete
  deriving DecidableEq

namespace Verb

/-- All verbs. -/
def all : List Verb := [get, post, put, delete]

/-- The name of the marker that declares a verb. -/
def marker : Verb → String
  | get => "get"
  | post => "post"
  | put => "put"
  | delete => "delete"

/-- The verb on the wire. -/
def wire : Verb → String
  | get => "GET"
  | post => "POST"
  | put => "PUT"
  | delete => "DELETE"

/-- The verb's name as a value of the client library. -/
def variant : Verb → String
  | get => "Get"
  | post => "Post"
  | put => "Put"
  | delete => "Delete"

/-- The verb that a marker declares. -/
def ofMarker? (name : String) : Option Verb := all.find? fun v => v.marker == name

theorem ofMarker?_marker (v : Verb) : ofMarker? v.marker = some v := by
  cases v <;> decide

end Verb

/-- What a parameter contributes to the request. -/
inductive Role where
  /-- It fills the places of its name in the path. -/
  | path
  /-- It adds a pair to the query. -/
  | query
  /-- It is the body. -/
  | body
  /-- It cancels the request. -/
  | token
  deriving DecidableEq

/-- A parameter of an endpoint. -/
structure Parameter where
  name : Ident
  type : Node
  role : Role
  /-- Whether its type is an option, so that it may be missing. -/
  optional : Bool

/-- A method that sends a request. -/
structure Endpoint where
  name : Ident
  verb : Verb
  path : Path.Template
  params : List Parameter
  /-- Whether the caller waits without blocking. -/
  isAsync : Bool
  /-- The type of the answer, if it has one. -/
  value : Option Node
  /-- The signature without markers. -/
  signature : Signature

namespace Endpoint

/-- The parameters with a role, in order. -/
def withRole (e : Endpoint) (role : Role) : List Parameter :=
  e.params.filter fun p => p.role = role

/-- The parameter that is the body. -/
def body? (e : Endpoint) : Option Parameter := (e.withRole .body).head?

/-- The parameter that fills the places of a name. -/
def pathParam? (e : Endpoint) (place : List Char) : Option Parameter :=
  (e.withRole .path).find? fun p => p.name.text.toList == place

end Endpoint

end Service

/-- A service: a trait and the endpoints it declares. -/
structure Service where
  name : Ident
  visibility : Visibility
  /-- The address at which the service is found by default. -/
  baseUrl : Option String
  endpoints : List Service.Endpoint
  /-- The methods that are no endpoints. -/
  skipped : List Ident

namespace Service

/-- What follows a service's name in the name of its client. -/
def clientSuffix : String := "GeneratedClient"

/-- The text of the client's name; it is a name unless the service's is raw. -/
def clientText (name : Ident) : String := name.text ++ clientSuffix

/-- The client's name. -/
def clientName? (name : Ident) : Option Ident :=
  if name.raw then none else some (.plain (clientText name))

/-- Whether anyone may use the service. -/
def isPublic (s : Service) : Bool := s.visibility.isPublic

/-- The stem of the files of a service's units: the modules around it and the client, in small
letters. -/
def unitStem (modules : List Ident) (name : Ident) : String :=
  "_".intercalate ((modules.map Ident.text ++ [clientText name]).map fun s =>
    String.ofList (Naming.snakeCase s.toList))

end Service

end RestLoom
