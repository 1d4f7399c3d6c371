import RestLoom.Service.Model
import RestLoom.Token.Code

/-!
# Emit/Program — the bodies of client methods

    path · request · query, body and token steps · dispatch · answer

The body of a client method is a short program: it builds the path, makes a request, adds to it what
the parameters contribute, and sends it.  A program is data, so that it can be both written as code
(`Program.tokens`) and run.
-/

namespace RestLoom.Emit

open RestLoom.Token
open RestLoom.Source (Node)
open RestLoom.Service (Verb Role Endpoint Parameter)

/-- How a program gets the path of its request. -/
inductive PathSource where
  /-- The text as it is. -/
  | constant (text : String)
  /-- A format whose places take the encoded values of parameters in turn. -/
  | formatted (format : String) (arguments : List Ident)

/-- One step that adds to a request. -/
inductive Step where
  /-- Adds a pair of the query. -/
  | query (key : String) (param : Ident)
  /-- Adds a pair of the query if the parameter has a value. -/
  | queryIfPresent (key : String) (param : Ident)
  /-- Sets the body. -/
  | json (param : Ident)
  /-- Attaches a token. -/
  | cancelOn (param : Ident)

/-- The body of a client method. -/
structure Program where
  path : PathSource
  verb : Verb
  steps : List Step
  isAsync : Bool
  /-- Whether the answer has a value. -/
  answers : Bool

namespace Program

/-- The path of an endpoint's request. -/
def pathSource (e : Endpoint) : PathSource :=
  match e.path.placeholders with
  | [] => .constant e.path.toString
  | places =>
    .formatted (String.ofList e.path.formatText)
      (places.map fun place =>
        ((e.pathParam? place).map (·.name)).getD (.plain (String.ofList place)))

/-- The step of a parameter of the query. -/
def queryStep (p : Parameter) : Step :=
  if p.optional then .queryIfPresent p.name.text p.name else .query p.name.text p.name

/-- The steps of an endpoint: the query, the body, the tokens. -/
def stepsOf (e : Endpoint) : List Step :=
  (e.withRole .query).map queryStep ++ (e.body?.toList.map fun p => .json p.name) ++
    (e.withRole .token).map fun p => .cancelOn p.name

/-- The program of an endpoint. -/
def ofEndpoint (e : Endpoint) : Program :=
  { path := pathSource e
    verb := e.verb
    steps := stepsOf e
    isAsync := e.isAsync
    answers := e.value.isSome }

/-! ## Code -/

/-- The encoded value of a parameter. -/
def encodedTokens (i : Ident) : List Token :=
  code "::refit::encode_path_value" ++ parens (code "&" ++ nameOf i)

/-- Token lists with commas between them. -/
def commaTokens : List (List Token) → List Token
  | [] => []
  | [a] => a
  | a :: as => a ++ code "," ++ commaTokens as

/-- The code of a path. -/
def pathTokens : PathSource → List Token
  | .constant text => code "::std::string::String::from" ++ parens (stringOf text)
  | .formatted format arguments =>
    code "::std::format!" ++
      parens (stringOf format ++ code "," ++ commaTokens (arguments.map encodedTokens))

/-- The code of a step. -/
def stepTokens : Step → List Token
  | .query key i =>
    code "__refit_request.query" ++ parens (stringOf key ++ code ", &" ++ nameOf i) ++ code ";"
  | .queryIfPresent key i =>
    code "if let ::std::option::Option::Some(__refit_value) = &" ++ nameOf i ++
      braces (code "__refit_request.query" ++ parens (stringOf key ++ code ", __refit_value") ++
        code ";")
  | .json i => code "__refit_request.json" ++ parens (code "&" ++ nameOf i) ++ code "?;"
  | .cancelOn i => code "__refit_request.cancel_on" ++ parens (nameOf i) ++ code ";"

/-- The code that sends the request. -/
def dispatchTokens (isAsync : Bool) : List Token :=
  if isAsync then code "self.transport.send(__refit_request).await?"
  else code "self.transport.send_blocking(__refit_request)?"

/-- The code that sends the request and gives the answer. -/
def finishTokens (p : Program) : List Token :=
  if p.answers then
    code "let __refit_response =" ++ dispatchTokens p.isAsync ++
      code "; ::std::result::Result::Ok(__refit_response.json()?)"
  else dispatchTokens p.isAsync ++ code "; ::std::result::Result::Ok(())"

/-- The code of a program. -/
def tokens (p : Program) : List Token :=
  code "let __refit_path =" ++ pathTokens p.path ++ code ";" ++
    attributeOf (code "allow(unused_mut)") ++
    code "let mut __refit_request = ::refit::RestRequest::new" ++
    parens (code "::refit::RestMethod::" ++ nameOf (.plain p.verb.variant) ++
      code ", __refit_path") ++ code ";" ++
    p.steps.flatMap stepTokens ++ finishTokens p

end Program

end RestLoom.Emit
