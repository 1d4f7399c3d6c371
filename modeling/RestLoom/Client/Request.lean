import RestLoom.Client.Error
import RestLoom.Service.Model
import RestLoom.Url.Form
import RestLoom.Url.Parse

/-!
# Client/Request — requests, built step by step

    new GET "/a" · query "q" "1" · json x · cancelOn t

A request has a verb, a path inside the base address, pairs for the query, and possibly a body and a
token that cancels it.  The steps that build it do not depend on each other, and a step that fails
changes nothing.
-/

namespace RestLoom.Client

open RestLoom.Text
open RestLoom.Service (Verb)

/-! ## Tokens -/

/-- A token, known by its number. -/
structure CancelToken where
  number : Nat
  deriving DecidableEq

/-- The tokens made so far, and those that have fired. -/
structure Tokens where
  made : Nat
  fired : List CancelToken

namespace Tokens

/-- No tokens. -/
def none : Tokens := ⟨0, []⟩

/-- Makes a token. -/
def make (ts : Tokens) : CancelToken × Tokens := (⟨ts.made⟩, { ts with made := ts.made + 1 })

/-- Fires a token. -/
def fire (ts : Tokens) (t : CancelToken) : Tokens := { ts with fired := t :: ts.fired }

/-- Whether a token has fired. -/
def hasFired (ts : Tokens) (t : CancelToken) : Bool := ts.fired.contains t

end Tokens

/-! ## Requests -/

/-- A request. -/
structure Request where
  verb : Verb
  path : String
  query : List (String × String)
  body : Option String
  cancel : Option CancelToken
  deriving DecidableEq

namespace Request

/-- The request with a verb and a path only. -/
def new (verb : Verb) (path : String) : Request := ⟨verb, path, [], none, none⟩

/-- Adds a pair to the query. -/
def addQuery (r : Request) (name value : String) : Request :=
  { r with query := r.query ++ [(name, value)] }

/-- Sets the body. -/
def json (r : Request) (p : Payload) : Except ClientError Request :=
  match p.write with
  | .ok text => .ok { r with body := some text }
  | .error e => .error (.serialize e)

/-- Attaches a token. -/
def cancelOn (r : Request) (t : CancelToken) : Request := { r with cancel := some t }

/-- The text of a base address and a path joined by one slash. -/
def joined (base : Url) (path : List Char) : List Char :=
  let front := base.render
  (if front.getLast? = some '/' then front else front ++ ['/']) ++ path.dropWhile (· == '/')

/-- **The URL** of a request: the base address, the path, the pairs of the query. -/
def url (r : Request) (base : Url) : Except ClientError Url :=
  let text := joined base r.path.toList
  match Url.parse text with
  | .error e => .error (.invalidUrl (String.ofList text ++ ": " ++ e.message))
  | .ok u => .ok (u.withPairs (r.query.map fun p => (p.1.toList, p.2.toList)))

/-- A value as it stands in a path. -/
def encodePathValue (value : String) : String :=
  String.ofList (Percent.encode Percent.unreserved value.toList)

end Request

end RestLoom.Client
