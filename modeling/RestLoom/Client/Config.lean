import RestLoom.Client.Error
import RestLoom.Http.Header
import RestLoom.Token.Literal

/-!
# Client/Config — settings of a transport

    default · timeout 5 · header "x-a" "1" · userAgent "me"

A configuration is a record in which the last step that sets something wins.  A step with an
impossible header fails and changes nothing.
-/

namespace RestLoom.Client

open RestLoom.Http

/-- Settings of a transport. -/
structure Config where
  /-- The time for one request, in milliseconds. -/
  timeout : Nat
  /-- The headers of every request. -/
  headers : Headers
  userAgent : Option String
  deriving DecidableEq

namespace Config

/-- The settings by default: thirty seconds and no headers. -/
def default : Config := ⟨30000, .empty, none⟩

/-- Sets the time for one request. -/
def withTimeout (c : Config) (milliseconds : Nat) : Config := { c with timeout := milliseconds }

/-- Adds a header, in the stead of one of the same name. -/
def withHeader (c : Config) (name value : String) : Except ClientError Config :=
  match headerName? name with
  | none => .error (.invalidHeader "invalid header name: invalid HTTP header name")
  | some n =>
    if isHeaderValue value then .ok { c with headers := c.headers.insert n value }
    else .error (.invalidHeader "invalid header value: failed to parse header value")

/-- Sets the user agent. -/
def withUserAgent (c : Config) (agent : String) : Config := { c with userAgent := some agent }

/-- Whether a transport can be set up: the user agent has to be the value of a header. -/
def isUsable (c : Config) : Bool := c.userAgent.all isHeaderValue

/-- Milliseconds as debugging output shows them. -/
def describeTime (ms : Nat) : String :=
  if ms = 0 then "0ns"
  else if ms < 1000 then toString ms ++ "ms"
  else
    let rest := (toString (1000 + ms % 1000)).toList.drop 1
    let rest := (rest.reverse.dropWhile (· == '0')).reverse
    toString (ms / 1000) ++ (if rest = [] then "" else "." ++ String.ofList rest) ++ "s"

/-- A text that may be missing, as debugging output shows it. -/
def describeOption : Option String → String
  | none => "None"
  | some s => "Some(" ++ Token.shown s ++ ")"

/-- A configuration as debugging output shows it. -/
def describe (c : Config) : String :=
  "TransportConfig \x7b timeout: " ++ describeTime c.timeout ++ ", default_headers: " ++
    c.headers.describe ++ ", user_agent: " ++ describeOption c.userAgent ++ " \x7d"

end Config

end RestLoom.Client
