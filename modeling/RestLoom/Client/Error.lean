import RestLoom.Client.Payload
import RestLoom.Http.Status

/-!
# Client/Error — why a call, a registration or a resolution fails

    ClientError     a request was not sent, failed, or was answered by a failure
    RegistryError   a service cannot be registered or resolved
    ResolveError    either of them

An error of a client tells the status of the answer, if there was one, and whether it is worth
trying again.
-/

namespace RestLoom.Client

/-- What went wrong below the messages. -/
inductive Breakdown where
  /-- The client that sends requests could not be set up. -/
  | notBuilt
  /-- No connection was made. -/
  | connection (url : String)
  /-- No answer came in time. -/
  | timeout (url : String)
  /-- The answer was not understood. -/
  | protocol (url : String)
  /-- The body of the answer ended too early. -/
  | truncated
  deriving DecidableEq

namespace Breakdown

/-- The wording of a breakdown. -/
def message : Breakdown → String
  | notBuilt => "builder error"
  | connection url => "error sending request for url (" ++ url ++ ")"
  | timeout url => "error sending request for url (" ++ url ++ ")"
  | protocol url => "error sending request for url (" ++ url ++ ")"
  | truncated => "error decoding response body"

/-- Whether a breakdown may pass: no connection, or no answer in time. -/
def isTransient : Breakdown → Bool
  | connection _ => true
  | timeout _ => true
  | _ => false

end Breakdown

/-- Why a call fails. -/
inductive ClientError where
  | request (b : Breakdown)
  /-- The service answered with a status other than success. -/
  | remoteCall (status : Nat) (url message : String)
  /-- The body of the request could not be written. -/
  | serialize (e : JsonError)
  /-- The body of the answer is not the value that is wanted. -/
  | decode (url : String) (e : JsonError)
  | invalidUrl (reason : String)
  | invalidHeader (reason : String)
  | cancelled

namespace ClientError

/-- The wording of an error. -/
def message : ClientError → String
  | request b => "request failed: " ++ b.message
  | remoteCall status url message =>
    url ++ " returned HTTP " ++ toString status ++ ": " ++ message
  | serialize e => "failed to serialize request body: " ++ e.message
  | decode url e => "failed to decode response from " ++ url ++ ": " ++ e.message
  | invalidUrl reason => "invalid request URL: " ++ reason
  | invalidHeader reason => "invalid header: " ++ reason
  | cancelled => "request cancelled"

/-- The status of the answer that is the failure. -/
def statusCode? : ClientError → Option Nat
  | remoteCall status _ _ => some status
  | _ => none

/-- Whether it is worth trying again. -/
def isRetryable : ClientError → Bool
  | request b => b.isTransient
  | remoteCall status _ _ => status = 429 || 500 ≤ status
  | _ => false

end ClientError

/-- Why a service is not registered or resolved. -/
inductive RegistryError where
  | duplicateRegistration (service : String)
  | unregisteredService (service : String)
  | invalidServiceShape (service reason : String)
  | invalidBaseAddress (address reason : String)
  deriving DecidableEq

/-- The wording of an error. -/
def RegistryError.message : RegistryError → String
  | duplicateRegistration service => "service '" ++ service ++ "' is already registered"
  | unregisteredService service => "no client registered for service '" ++ service ++ "'"
  | invalidServiceShape service reason =>
    "'" ++ service ++ "' is not a valid service: " ++ reason
  | invalidBaseAddress address reason =>
    "invalid base address '" ++ address ++ "': " ++ reason

/-- Why a client is not resolved or a call fails. -/
inductive ResolveError where
  | registry (e : RegistryError)
  | client (e : ClientError)

namespace ResolveError

/-- The wording of an error. -/
def message : ResolveError → String
  | registry e => e.message
  | client e => e.message

/-- The status of the answer that is the failure. -/
def statusCode? : ResolveError → Option Nat
  | registry _ => none
  | client e => e.statusCode?

end ResolveError

end RestLoom.Client
