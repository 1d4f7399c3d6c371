import RestLoom.Client.Address
import RestLoom.Client.Transport

/-!
# Client/Registry — from services to clients

    register service factory ──▸ registry ──resolve service address──▸ client

A registry holds one factory for each service that is registered, the first one, and never lets go
of it.  Resolving checks the shape of the service, then the address, then the registration, then the
configuration, and leaves the registry as it is.
-/

namespace RestLoom.Client

/-! ## Services -/

/-- What can be asked of a service before a client is made. -/
structure Shape where
  isInterface : Bool
  isPublic : Bool
  isGeneric : Bool
  deriving DecidableEq

/-- Why a shape cannot be resolved. -/
def Shape.fault? (s : Shape) : Option String :=
  if !s.isInterface then some "not a service trait"
  else if !s.isPublic then some "service trait is not public"
  else if s.isGeneric then some "generic service traits cannot be resolved"
  else none

/-- Checks that a service is a public interface that is not generic. -/
def Shape.validate (s : Shape) (service : String) : Except RegistryError Unit :=
  match s.fault? with
  | some reason => .error (.invalidServiceShape service reason)
  | none => .ok ()

/-- What tells one service from another. -/
structure Identity where
  path : String
  deriving DecidableEq

/-- What a registry knows a service by. -/
structure ServiceKey where
  identity : Identity
  name : String
  shape : Shape
  deriving DecidableEq

/-- What a service declares about itself. -/
structure Contract where
  key : ServiceKey
  /-- The address at which the service is found by default. -/
  defaultBaseUrl : Option String
  deriving DecidableEq

/-- A client of some service. -/
structure ServiceClient where
  /-- The service whose calls it sends. -/
  service : Identity
  transport : Transport
  deriving DecidableEq

/-- The client of a service. -/
def Contract.client (c : Contract) (t : Transport) : ServiceClient := ⟨c.key.identity, t⟩

/-- What makes clients of a service. -/
abbrev Factory := Transport → ServiceClient

/-- A key with a factory for it. -/
structure Registration where
  key : ServiceKey
  factory : Factory

/-! ## Registries -/

/-- The registrations by service, and the configuration of the transports. -/
structure Registry where
  entries : List Registration
  config : Config

namespace Registry

/-- The registry without services. -/
def withConfig (config : Config) : Registry := ⟨[], config⟩

/-- The registry without services and with the default configuration. -/
def new : Registry := withConfig .default

/-- The registration of a service. -/
def get? (r : Registry) (i : Identity) : Option Registration :=
  r.entries.find? fun e => e.key.identity = i

/-- Whether a service is registered. -/
def contains (r : Registry) (i : Identity) : Bool := (r.get? i).isSome

/-- The number of services. -/
def size (r : Registry) : Nat := r.entries.length

/-- Whether no service is registered. -/
def isEmpty (r : Registry) : Bool := r.entries.isEmpty

/-- **Registers** a service, unless it already is. -/
def insert (r : Registry) (e : Registration) : Except RegistryError Registry :=
  if r.contains e.key.identity then .error (.duplicateRegistration e.key.name)
  else .ok { r with entries := r.entries ++ [e] }

/-- Registers the clients of a service. -/
def register (r : Registry) (c : Contract) (make : Transport → Transport) :
    Except RegistryError Registry :=
  r.insert ⟨c.key, fun t => c.client (make t)⟩

/-- The registry of all registrations. -/
def ofInventory (es : List Registration) : Except RegistryError Registry := es.foldlM insert new

/-- The client of a service at an address of the given normal form. -/
def resolveAt (r : Registry) (c : Contract) (base : Url) (config : Config) :
    Except ResolveError ServiceClient :=
  match r.get? c.key.identity with
  | none => .error (.registry (.unregisteredService c.key.name))
  | some e =>
    match Transport.new base config with
    | .error f => .error (.client f)
    | .ok t =>
      let client := e.factory t
      if client.service = c.key.identity then .ok client
      else
        .error (.registry (.invalidServiceShape c.key.name
          "registered factory produced a different client type"))

/-- **Resolves** a service at an address with a configuration. -/
def resolveWith (r : Registry) (c : Contract) (address : String) (config : Config) :
    Except ResolveError ServiceClient :=
  match c.key.shape.validate c.key.name with
  | .error e => .error (.registry e)
  | .ok () =>
    match normalizeBaseAddress address with
    | .error e => .error (.registry e)
    | .ok base => r.resolveAt c base config

/-- Resolves a service at an address. -/
def resolve (r : Registry) (c : Contract) (address : String) : Except ResolveError ServiceClient :=
  r.resolveWith c address r.config

/-- Resolves a service at the address that it declares. -/
def resolveDefault (r : Registry) (c : Contract) : Except ResolveError ServiceClient :=
  match c.defaultBaseUrl with
  | some address => r.resolve c address
  | none =>
    .error (.registry (.invalidBaseAddress "" (c.key.name ++ " declares no base_url")))

/-- A registry as debugging output shows it. -/
def describe (r : Registry) : String :=
  let names := (r.entries.map (·.key.name)).mergeSort (· ≤ ·)
  "ClientRegistry \x7b services: [" ++ ", ".intercalate (names.map Token.shown) ++
    "], config: " ++ r.config.describe ++ " \x7d"

end Registry

end RestLoom.Client
