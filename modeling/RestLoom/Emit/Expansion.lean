import RestLoom.Emit.Client
import RestLoom.Service.Extract

/-!
# Emit/Expansion — a marked trait where it stands

    #[rest_client(…)] trait A …  ──▸  trait, contract, client, registration
                                 or   diagnostic, trait

Where a marker stands in source code, its trait is replaced by the code of the service.  If the
trait is no service, a diagnostic comes in place of contract, client and registration, and the trait
itself stays, so that what uses it is not in error as well.
-/

namespace RestLoom.Emit

open RestLoom.Token
open RestLoom.Source
open RestLoom.Service (ExtractError)

/-- The code that reports a diagnostic. -/
def diagnosticTokens (message : String) : List Token :=
  code "::core::compile_error!" ++ braces (stringOf message)

/-- The service that a trait declares under a marker with those arguments. -/
def markedService (arguments : List Token) (t : TraitDecl) : Except ExtractError Service := do
  let baseUrl ← Service.readServiceArguments arguments
  Service.extract t baseUrl

/-- What a marked item becomes; `none` if the client of the service would have no name. -/
def expansion (arguments item : List Token) : Option (List Token) :=
  match TraitDecl.ofTokens item with
  | .error e => some (diagnosticTokens e.message)
  | .ok t =>
    match markedService arguments t with
    | .error e => some (diagnosticTokens e.message ++ (serviceTrait t).toNode.tokens)
    | .ok s => (Service.clientName? s.name).map (serviceTokens t s)

end RestLoom.Emit
