import RestLoom.Emit.Program
import RestLoom.Service.Marker

/-!
# Emit/Client — the code of a service

For a service the generated code holds its trait without markers, the contract that names it, the
client that sends its requests, and the registration that lets the client be found.
-/

namespace RestLoom.Emit

open RestLoom.Token
open RestLoom.Source
open RestLoom.Service (Endpoint)

/-! ## The trait -/

/-- The path of a bound in the core library's marker module. -/
def markerBound (name : String) : Node :=
  .phrase .traitBound [.phrase .path
    [.op "::", .phrase .segment [.ident (.plain "core")], .op "::",
      .phrase .segment [.ident (.plain "marker")], .op "::",
      .phrase .segment [.ident (.plain name)]]]

/-- The path of a bound. -/
def boundPath? : Node → Option Node
  | .phrase .traitBound [.group _ [.phrase .traitBound ps]] => ps.getLast?
  | .phrase .traitBound ps => ps.getLast?
  | _ => none

/-- Whether a bound's path ends in that name. -/
def boundNamed (name : String) (b : Node) : Bool :=
  ((boundPath? b).bind lastSegment?).any fun s => s.1.is name

/-- Adds a bound unless one of that name is there. -/
def requireBound (name : String) (t : TraitDecl) : TraitDecl :=
  if t.supertraits.any (boundNamed name) then t
  else { t with supertraits := t.supertraits ++ [markerBound name], trailingPlus := false }

/-- The attribute that lets a trait have asynchronous methods. -/
def asyncTrait : Attribute :=
  { inner := false
    path := .phrase .path
      [.op "::", .phrase .segment [.ident (.plain "refit")], .op "::",
        .phrase .segment [.ident (.plain "async_trait")]]
    arguments := .absent }

/-- **The trait of a service**: its markers are gone, asynchronous methods are admitted, and its
objects may be shared between threads. -/
def serviceTrait (t : TraitDecl) : TraitDecl :=
  let t := Service.stripTrait t
  let t := { t with attributes := t.attributes ++ [asyncTrait] }
  requireBound "Sync" (requireBound "Send" t)

/-! ## The client -/

/-- The tokens of a visibility. -/
def visibilityTokens (v : Visibility) : List Token := Node.tokensAll v.toNodes

/-- A method of the client. -/
def methodTokens (e : Endpoint) : List Token :=
  e.signature.toNode.tokens ++ braces (Program.ofEndpoint e).tokens

/-- The client of a service, under its name. -/
def clientTokens (s : Service) (client : Ident) : List Token :=
  let v := visibilityTokens s.visibility
  attributeOf (code "doc =" ++
      stringOf (" Generated REST client for [\x60" ++ s.name.text ++ "\x60].")) ++
    attributeOf (code "derive(Debug, Clone)") ++
    v ++ code "struct" ++ nameOf client ++ braces (code "transport: ::refit::RestTransport,") ++
    code "impl" ++ nameOf client ++ braces
      (rawDoc " Creates a client dispatching through \x60transport\x60." ++
        v ++ code "fn new(transport: ::refit::RestTransport) -> Self" ++
        braces (code "Self" ++ braces (code "transport")) ++
        rawDoc " The transport this client dispatches through." ++
        v ++ code "fn transport(&self) -> &::refit::RestTransport" ++
        braces (code "&self.transport")) ++
    attributeOf (code "::refit::async_trait") ++
    code "impl" ++ nameOf s.name ++ code "for" ++ nameOf client ++
      braces (s.endpoints.flatMap methodTokens)

/-! ## The contract -/

/-- A truth value. -/
def truthTokens (b : Bool) : List Token := code (if b then "true" else "false")

/-- The contract of a service: its name, its shape and its default address. -/
def contractTokens (s : Service) : List Token :=
  let url := match s.baseUrl with
    | some u => code "::core::option::Option::Some" ++ parens (stringOf u)
    | none => code "::core::option::Option::None"
  code "impl ::refit::ServiceContract for dyn" ++ nameOf s.name ++ braces
    (code "const NAME: &'static str = ::core::concat!" ++
        parens (code "::core::module_path!(), \x22::\x22," ++ stringOf s.name.text) ++ code ";" ++
      code "const SHAPE: ::refit::ServiceShape = ::refit::ServiceShape" ++
        braces (code "interface: true, public:" ++ truthTokens s.isPublic ++
          code ", generic: false,") ++ code ";" ++
      code "const DEFAULT_BASE_URL: ::core::option::Option<&'static str> =" ++ url ++ code ";")

/-! ## The registration -/

/-- The name of the function that gives a service's key. -/
def keyName (s : Service) : Ident := .plain ("__refit_service_key_" ++ s.name.name)

/-- The name of the function that makes a service's client. -/
def factoryName (s : Service) : Ident := .plain ("__refit_factory_" ++ s.name.name)

/-- The registration of a client. -/
def registrationTokens (s : Service) (client : Ident) : List Token :=
  let hidden := attributeOf (code "doc(hidden)") ++ attributeOf (code "allow(non_snake_case)")
  hidden ++ code "fn" ++ nameOf (keyName s) ++ code "() -> ::refit::ServiceKey" ++
      braces (code "::refit::ServiceKey::of::<dyn" ++ nameOf s.name ++ code ">()") ++
    hidden ++ code "fn" ++ nameOf (factoryName s) ++
      code "(transport: ::refit::RestTransport) -> ::std::boxed::Box<dyn ::core::any::Any>" ++
      braces (code "let client: ::std::boxed::Box<dyn" ++ nameOf s.name ++
        code "> = ::std::boxed::Box::new" ++
        parens (nameOf client ++ code "::new(transport)") ++
        code "; ::refit::ClientRegistration::erase(client)") ++
    code "::refit::inventory::submit!" ++ braces
      (code "::refit::ClientRegistration::new" ++
        parens (nameOf (keyName s) ++ code "," ++ nameOf (factoryName s)))

/-- Everything for one service: trait, contract, client and registration. -/
def serviceTokens (t : TraitDecl) (s : Service) (client : Ident) : List Token :=
  (serviceTrait t).toNode.tokens ++ contractTokens s ++ clientTokens s client ++
    registrationTokens s client

end RestLoom.Emit
