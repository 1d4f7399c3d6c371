import RestLoom.Client.Registry
import RestLoom.Emit.Program

/-!
# Client/Call — running the methods of a client

    program, arguments ──build──▸ request ──send──▸ answer

The body of a client method is a program; here it is run.  It makes a request from the arguments,
sends it, and reads the answer.
-/

namespace RestLoom.Client

open RestLoom.Token (Ident)
open RestLoom.Emit

/-! ## Services -/

/-- What a service declares about itself when it stands in a module. -/
def Contract.ofService (modulePath : String) (s : Service) : Contract :=
  let name := modulePath ++ "::" ++ s.name.text
  { key := ⟨⟨name⟩, name, ⟨true, s.isPublic, false⟩⟩
    defaultBaseUrl := s.baseUrl }

/-! ## Arguments -/

/-- An argument of a call. -/
inductive Argument where
  /-- A value: its text, and what is written for it as JSON. -/
  | value (text : String) (payload : Payload)
  /-- An option without a value. -/
  | absent
  | token (t : CancelToken)

namespace Argument

/-- The text of an argument. -/
def text : Argument → String
  | value text _ => text
  | _ => ""

/-- What is written for an argument as JSON. -/
def payload : Argument → Payload
  | value _ p => p
  | _ => .value .null

end Argument

/-- The arguments of a call by parameter. -/
abbrev Arguments := List (Ident × Argument)

/-- The argument of a parameter. -/
def argumentOf (args : Arguments) (i : Ident) : Argument := (args.lookup i).getD .absent

/-! ## Running -/

/-- A format with values at its places: a pair of equal braces stands for one, an empty pair takes
the next value. -/
def fillFormat : List Char → List (List Char) → List Char
  | '{' :: '{' :: cs, vs => '{' :: fillFormat cs vs
  | '}' :: '}' :: cs, vs => '}' :: fillFormat cs vs
  | '{' :: '}' :: cs, v :: vs => v ++ fillFormat cs vs
  | c :: cs, vs => c :: fillFormat cs vs
  | [], _ => []

/-- The path that a program asks for. -/
def pathOf (args : Arguments) : PathSource → String
  | .constant text => text
  | .formatted format places =>
    String.ofList (fillFormat format.toList
      (places.map fun i => (Request.encodePathValue (argumentOf args i).text).toList))

/-- Runs one step of a program. -/
def runStep (args : Arguments) (r : Request) : Step → Except ClientError Request
  | .query key i => .ok (r.addQuery key (argumentOf args i).text)
  | .queryIfPresent key i =>
    match argumentOf args i with
    | .value text _ => .ok (r.addQuery key text)
    | _ => .ok r
  | .json i => r.json (argumentOf args i).payload
  | .cancelOn i =>
    match argumentOf args i with
    | .token t => .ok (r.cancelOn t)
    | _ => .ok r

/-- The request that a program builds. -/
def buildRequest (p : Program) (args : Arguments) : Except ClientError Request :=
  p.steps.foldlM (runStep args) (Request.new p.verb (pathOf args p.path))

/-- What was sent for a call, and its value; `none` for a call without one. -/
structure Answer where
  sent : List Message
  result : Except ClientError (Option Json)

/-- Reads the value of an answer. -/
def readAnswer (p : Program) (s : Json.Schema) :
    Except ClientError Response → Except ClientError (Option Json)
  | .error e => .error e
  | .ok response => if p.answers then (response.json s).map some else .ok none

/-- **Runs** a program. -/
def runProgram (p : Program) (s : Json.Schema) (t : Transport) (args : Arguments)
    (signals : CancelToken → Signal) (reaction : Reaction) : Answer :=
  match buildRequest p args with
  | .error e => ⟨[], .error e⟩
  | .ok r =>
    let sending := if p.isAsync then t.send r signals reaction
      else t.sendBlocking r signals reaction
    ⟨sending.sent, readAnswer p s sending.outcome⟩

/-- Calls an endpoint of a client. -/
def callEndpoint (e : Service.Endpoint) (s : Json.Schema) (c : ServiceClient) (args : Arguments)
    (signals : CancelToken → Signal) (reaction : Reaction) : Answer :=
  runProgram (Program.ofEndpoint e) s c.transport args signals reaction

end RestLoom.Client
