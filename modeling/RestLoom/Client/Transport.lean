import RestLoom.Client.Config
import RestLoom.Client.Request
import RestLoom.Signal

/-!
# Client/Transport — sending requests

    request ──wire──▸ message ──reaction──▸ response or error

A transport belongs to one base address and sends requests with one configuration.  Who waits
without blocking goes through an exchange with the server step by step, looks at the token before
each step, and ends as soon as it is up.  Who blocks does everything in one go with an HTTP client
of its own, and looks at the token once, before anything is sent.  An address that is no URL is an
error whatever the token says.
-/

namespace RestLoom.Client

open RestLoom.Http
open RestLoom.Service (Verb)

/-- What sends requests to one base address. -/
structure Transport where
  base : Url
  config : Config
  deriving DecidableEq

/-- What sends messages, set up with the settings of a configuration. -/
structure HttpClient where
  settings : Config
  deriving DecidableEq

/-- Sets up an HTTP client, if its configuration can be used. -/
def HttpClient.build (config : Config) : Except ClientError HttpClient :=
  if config.isUsable then .ok ⟨config⟩ else .error (.request .notBuilt)

/-- The transport of a base address, if its HTTP client can be set up. -/
def Transport.new (base : Url) (config : Config) : Except ClientError Transport := do
  let client ← HttpClient.build config
  return ⟨base, client.settings⟩

/-- A request as the server reads it. -/
structure Message where
  verb : Verb
  /-- The path and the query. -/
  target : String
  /-- The headers, except those that carry the message itself. -/
  headers : Headers
  body : Option String
  deriving DecidableEq

/-- A response that was read to its end. -/
structure Response where
  status : Nat
  url : String
  body : List UInt8
  deriving DecidableEq

namespace Response

/-- The text of the body. -/
def text (r : Response) : String := String.ofList (Text.decodeLossy r.body)

/-- The value that the body is. -/
def json (r : Response) (s : Json.Schema) : Except ClientError Json :=
  match Json.readAs s r.body with
  | .ok v => .ok v
  | .error e => .error (.decode r.url (.read e))

end Response

/-- What happens at the other end. -/
inductive Reaction where
  /-- Nobody listens. -/
  | nobody
  /-- The request is read and never answered. -/
  | silence
  /-- The answer is not a response. -/
  | garbage
  /-- The answer is a response, whose body may be cut short. -/
  | response (status : Nat) (body : List UInt8) (cut : Bool)
  deriving DecidableEq

namespace Reaction

/-- The status at the head of the answer, or why there is none. -/
def head (u : Url) : Reaction → Except Breakdown Nat
  | nobody => .error (.connection u.toString)
  | silence => .error (.timeout u.toString)
  | garbage => .error (.protocol u.toString)
  | response status _ _ => .ok status

/-- The body of the answer. -/
def bytes : Reaction → Except Breakdown (List UInt8)
  | response _ body false => .ok body
  | _ => .error .truncated

/-- The text of the body. -/
def text (r : Reaction) : Except Breakdown String := do
  return String.ofList (Text.decodeLossy (← r.bytes))

end Reaction

/-- Steps of an exchange, each of which may put a message on the wire, and its outcome. -/
inductive Exchange (α : Type) where
  | finished (a : α)
  | step (sent : Option Message) (next : Exchange α)

/-- What was sent, and the outcome. -/
structure Sending where
  sent : List Message
  outcome : Except ClientError Response

namespace Exchange

/-- Carries an exchange out to its end. -/
def complete : Exchange (Except ClientError Response) → Sending
  | finished a => ⟨[], a⟩
  | step sent next => let s := complete next; ⟨sent.toList ++ s.sent, s.outcome⟩

/-- Carries an exchange out, looking at a signal before each step and before the outcome. -/
def completeUnless (signal : Signal) (look : Nat) :
    Exchange (Except ClientError Response) → Sending
  | finished a => if signal.isUp look then ⟨[], .error .cancelled⟩ else ⟨[], a⟩
  | step sent next =>
    if signal.isUp look then ⟨[], .error .cancelled⟩
    else
      let s := completeUnless signal (look + 1) next
      ⟨sent.toList ++ s.sent, s.outcome⟩

theorem completeUnless_never (look : Nat) (e : Exchange (Except ClientError Response)) :
    e.completeUnless .never look = e.complete := by
  induction e generalizing look with
  | finished a => simp [completeUnless, complete]
  | step sent next ih => simp [completeUnless, complete, ih]

end Exchange

namespace Transport

/-- The path and the query of a URL, which the server is asked for. -/
def target (u : Url) : String :=
  String.ofList (u.path.render ++ (u.query.map ('?' :: ·)).getD [])

/-- The headers of a message: those of the configuration, its user agent, and the type of the body
if there is one. -/
def messageHeaders (c : Config) (hasBody : Bool) : Headers :=
  let h := match c.userAgent with
    | some agent => c.headers.insert "user-agent" agent
    | none => c.headers
  if hasBody then h.insert "content-type" "application/json" else h

/-- The message that an HTTP client makes of a request with a URL. -/
def message (client : HttpClient) (r : Request) (u : Url) : Message :=
  { verb := r.verb
    target := target u
    headers := messageHeaders client.settings r.body.isSome
    body := r.body }

/-- The HTTP client that a transport was set up with. -/
def client (t : Transport) : HttpClient := ⟨t.config⟩

/-- The message that a request with a URL becomes. -/
def wire (t : Transport) (r : Request) (u : Url) : Message := message t.client r u

/-! ## Waiting without blocking -/

/-- What an answer with that status comes to: the body of a success, or a failure with its text. -/
def receive (u : Url) (reaction : Reaction) (status : Nat) : Except ClientError Response :=
  if isSuccess status then
    match reaction.bytes with
    | .ok body => .ok ⟨status, u.toString, body⟩
    | .error b => .error (.request b)
  else
    match reaction.text with
    | .ok text => .error (.remoteCall status u.toString text)
    | .error _ => .error (.remoteCall status u.toString (describeStatus status))

/-- The steps of an exchange: connecting, writing the request, reading the head of the answer and
then its body. -/
def exchange (t : Transport) (r : Request) (u : Url) (reaction : Reaction) :
    Exchange (Except ClientError Response) :=
  .step none <|
    match reaction with
    | .nobody => .finished (.error (.request (.connection u.toString)))
    | _ =>
      .step (some (t.wire r u)) <| .step none <|
        match reaction.head u with
        | .error b => .finished (.error (.request b))
        | .ok status => .step none (.finished (receive u reaction status))

/-- The look that is the first one after the server has read a request. -/
def lookAfterWriting : Nat := 2

/-- **Sends** a request and waits without blocking; each token has its signal. -/
def send (t : Transport) (r : Request) (signals : CancelToken → Signal) (reaction : Reaction) :
    Sending :=
  match r.url t.base with
  | .error e => ⟨[], .error e⟩
  | .ok u =>
    match r.cancel with
    | some token => (t.exchange r u reaction).completeUnless (signals token) 0
    | none => (t.exchange r u reaction).complete

/-! ## Blocking -/

/-- Sends a message in one go: what is sent, and the status at the head of the answer. -/
def execute (m : Message) (u : Url) (reaction : Reaction) :
    List Message × Except Breakdown Nat :=
  (if reaction = .nobody then [] else [m], reaction.head u)

/-- **Sends** a request and blocks; the signal of its token counts only before.  The HTTP client is
set up for the first call and kept, which no later one can tell. -/
def sendBlocking (t : Transport) (r : Request) (signals : CancelToken → Signal)
    (reaction : Reaction) : Sending :=
  match r.url t.base with
  | .error e => ⟨[], .error e⟩
  | .ok u =>
    if r.cancel.any fun token => (signals token).isUp 0 then ⟨[], .error .cancelled⟩
    else
      match HttpClient.build t.config with
      | .error e => ⟨[], .error e⟩
      | .ok client =>
        let (sent, head) := execute (message client r u) u reaction
        match head with
        | .error b => ⟨sent, .error (.request b)⟩
        | .ok status =>
          if !isSuccess status then
            let text := match reaction.text with
              | .ok text => text
              | .error _ => describeStatus status
            ⟨sent, .error (.remoteCall status u.toString text)⟩
          else
            match reaction.bytes with
            | .error b => ⟨sent, .error (.request b)⟩
            | .ok body => ⟨sent, .ok ⟨status, u.toString, body⟩⟩

end Transport

end RestLoom.Client
