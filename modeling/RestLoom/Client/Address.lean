import RestLoom.Client.Error
import RestLoom.Url.Parse

/-!
# Client/Address — the base addresses of services

    " https://host/api// "  ──▸  https://host/api/

The address of a service is the URL in front of the paths of all its requests.  It ends in one slash
and has neither query nor fragment.
-/

namespace RestLoom.Client

open RestLoom.Text

/-- Why a text is no base address. -/
inductive AddressFault where
  | empty
  | notUrl (e : Url.ParseError)
  | notBase
  | tailed
  deriving DecidableEq

/-- The wording of a fault. -/
def AddressFault.message : AddressFault → String
  | empty => "base address is empty"
  | notUrl e => e.message
  | notBase => "not a base URL"
  | tailed => "base address cannot carry a query or fragment"

/-- A text without slashes at its end. -/
def dropSlashes (cs : List Char) : List Char := dropEndWhile (· == '/') cs

/-- The URL that a text names as a base address. -/
def readBaseAddress (text : List Char) : Except AddressFault Url :=
  let trimmed := trim text
  if trimmed = [] then .error .empty
  else match Url.parse (dropSlashes trimmed ++ ['/']) with
    | .error e => .error (.notUrl e)
    | .ok url =>
      if !url.canBeBase then .error .notBase
      else if url.query.isSome || url.fragment.isSome then .error .tailed
      else .ok url

/-- **The base address** that a text names. -/
def normalizeBaseAddress (address : String) : Except RegistryError Url :=
  match readBaseAddress address.toList with
  | .ok url => .ok url
  | .error f => .error (.invalidBaseAddress address f.message)

end RestLoom.Client
