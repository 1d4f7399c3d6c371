import RestLoom.Emit.Client
import RestLoom.Proofs.Client.PathValues
import RestLoom.Proofs.Client.Resolution

/-!
# Proofs/Client/Erasure — clients of all services behind one type, and back

    client of T ──erase──▸ client ──downcast? T──▸ client of T

A registry keeps the factories of all services together, so the clients that they make have lost the
type of their service and carry it as a mark only.  Nothing but the way in which factories get into
a registry ties an entry to its key: a factory is offered together with the type of its clients, and
generated code names one trait both for the key and for the factory (`registrationTokens_eq`).

So every entry is the first offer for the service that it is found by (`Reached.get?_eq`), and
resolving never comes upon a client of another one (`erasure_undone`).
-/

namespace RestLoom.Client

open RestLoom.Token
open RestLoom.Emit (keyName factoryName registrationTokens)

/-! ## Erased clients -/

/-- A client whose service is known by its type. -/
structure TypedClient (c : Contract) where
  transport : Transport
  deriving DecidableEq

/-- **Forgets the type** of a client, and keeps a mark of its service. -/
def TypedClient.erase {c : Contract} (x : TypedClient c) : ServiceClient := c.client x.transport

/-- **Takes a client for one of a service**, if it has the mark of it. -/
def downcast? (c : Contract) (x : ServiceClient) : Option (TypedClient c) :=
  if x.service = c.key.identity then some ⟨x.transport⟩ else none

/-- A client that was erased is one of its service again, and of no other. -/
theorem downcast?_eq_some {c : Contract} {x : ServiceClient} {y : TypedClient c} :
    downcast? c x = some y ↔ x = y.erase := by
  obtain ⟨service, transport⟩ := x
  obtain ⟨transport'⟩ := y
  rw [downcast?]
  split
  next h =>
    rw [Option.some.injEq, TypedClient.mk.injEq, TypedClient.erase, Contract.client,
      ServiceClient.mk.injEq]
    exact (and_iff_right h).symm
  next h =>
    refine iff_of_false (by rintro ⟨⟩) fun heq => h ?_
    rw [heq]
    rfl

/-! ## Registrations in code -/

/-- The code of a registration: a function that gives the key of a trait, a function that makes a
client and erases it as one of a trait, and the submission of both. -/
structure RegistrationCode where
  keyFunction : Ident
  keyed : Ident
  factoryFunction : Ident
  erased : Ident
  client : Ident

namespace RegistrationCode

/-- The attributes of functions that nobody is to see. -/
def hiddenTokens : List Token :=
  attributeOf (code "doc(hidden)") ++ attributeOf (code "allow(non_snake_case)")

/-- The function that gives the key. -/
def keyTokens (r : RegistrationCode) : List Token :=
  hiddenTokens ++ code "fn" ++ nameOf r.keyFunction ++ code "() -> ::refit::ServiceKey" ++
    braces (code "::refit::ServiceKey::of::<dyn" ++ nameOf r.keyed ++ code ">()")

/-- The function that makes a client. -/
def factoryTokens (r : RegistrationCode) : List Token :=
  hiddenTokens ++ code "fn" ++ nameOf r.factoryFunction ++
    code "(transport: ::refit::RestTransport) -> ::std::boxed::Box<dyn ::core::any::Any>" ++
    braces (code "let client: ::std::boxed::Box<dyn" ++ nameOf r.erased ++
      code "> = ::std::boxed::Box::new" ++ parens (nameOf r.client ++ code "::new(transport)") ++
      code "; ::refit::ClientRegistration::erase(client)")

/-- The submission of the two functions. -/
def submissionTokens (r : RegistrationCode) : List Token :=
  code "::refit::inventory::submit!" ++ braces
    (code "::refit::ClientRegistration::new" ++
      parens (nameOf r.keyFunction ++ code "," ++ nameOf r.factoryFunction))

/-- The code as it is written. -/
def tokens (r : RegistrationCode) : List Token :=
  r.keyTokens ++ r.factoryTokens ++ r.submissionTokens

/-- **What the code registers**, when names of traits stand for the services with these
contracts. -/
def run (r : RegistrationCode) (scope : Ident → Contract) : Registration :=
  ⟨(scope r.keyed).key, fun t => (⟨t⟩ : TypedClient (scope r.erased)).erase⟩

/-- The code for a service with a client. -/
def ofService (s : Service) (client : Ident) : RegistrationCode :=
  ⟨keyName s, s.name, factoryName s, s.name, client⟩

end RegistrationCode

/-- **Generated code** names one trait for the key and for the factory. -/
theorem registrationTokens_eq (s : Service) (client : Ident) :
    registrationTokens s client = (RegistrationCode.ofService s client).tokens := by
  simp only [registrationTokens, RegistrationCode.tokens, RegistrationCode.keyTokens,
    RegistrationCode.factoryTokens, RegistrationCode.submissionTokens,
    RegistrationCode.hiddenTokens, RegistrationCode.ofService, List.append_assoc]

/-! ## Offers -/

/-- What a registry is offered. -/
inductive Offer where
  /-- Someone registers the clients of a service. -/
  | clients (c : Contract) (make : Transport → Transport)
  /-- Generated code submits the registration of a service, where its trait is in scope. -/
  | generated (scope : Ident → Contract) (s : Service) (client : Ident)

namespace Offer

/-- The service whose clients are offered. -/
def contract : Offer → Contract
  | clients c _ => c
  | generated scope s _ => scope s.name

/-- The clients that are offered. -/
def made : (o : Offer) → Transport → TypedClient o.contract
  | clients _ make, t => ⟨make t⟩
  | generated .., t => ⟨t⟩

/-- The registration that is offered. -/
def registration : Offer → Registration
  | clients c make => ⟨c.key, fun t => (⟨make t⟩ : TypedClient c).erase⟩
  | generated scope s client => (RegistrationCode.ofService s client).run scope

/-- The registry after an offer, which may be refused. -/
def apply (o : Offer) (r : Registry) : Except RegistryError Registry :=
  match o with
  | clients c make => r.register c make
  | generated .. => r.insert o.registration

/-- Either way the registration is inserted. -/
theorem apply_eq_insert (o : Offer) (r : Registry) : o.apply r = r.insert o.registration := by
  cases o with
  | clients c make => rfl
  | generated scope s client => rfl

/-- **The key and the clients of an offer** are those of one service. -/
theorem registration_eq (o : Offer) :
    o.registration = ⟨o.contract.key, fun t => (o.made t).erase⟩ := by
  cases o with
  | clients c make => rfl
  | generated scope s client => rfl

end Offer

/-! ## Registries that are reached -/

/-- **The registries that are reached by offers**: by one after the other, each of which is taken or
refused, or by those of an inventory, if all are taken. -/
inductive Reached : List Offer → Registry → Prop
  | empty (config : Config) : Reached [] (.withConfig config)
  | inventory {os : List Offer} {r : Registry}
    (h : Registry.ofInventory (os.map Offer.registration) = .ok r) : Reached os r
  | taken {os : List Offer} {r r' : Registry} {o : Offer} (h : Reached os r)
    (hoffer : o.apply r = .ok r') : Reached (os ++ [o]) r'
  | refused {os : List Offer} {r : Registry} {o : Offer} {e : RegistryError} (h : Reached os r)
    (hoffer : o.apply r = .error e) : Reached (os ++ [o]) r

section
variable {os : List Offer} {r : Registry}

/-- **A registry finds what was offered first** for a service. -/
theorem Reached.firstOf_eq (h : Reached os r) (i : Identity) :
    firstOf r.entries i = firstOf (os.map Offer.registration) i := by
  induction h generalizing i with
  | empty config => rfl
  | inventory h =>
    obtain ⟨-, rfl⟩ := Registry.ofInventory_eq_ok.mp h
    rfl
  | taken _ hoffer ih =>
    rw [Offer.apply_eq_insert] at hoffer
    obtain ⟨-, rfl⟩ := Registry.insert_eq_ok.mp hoffer
    rw [List.map_append, firstOf_append, firstOf_append, ih]
    rfl
  | refused _ hoffer ih =>
    -- an offer is refused for one that is there, and so comes after it
    rw [Offer.apply_eq_insert] at hoffer
    obtain ⟨hthere, -⟩ := Registry.insert_eq_error.mp hoffer
    rw [← isSome_firstOf, ih, isSome_firstOf] at hthere
    rw [ih, List.map_append]
    exact (firstOf_concat_of_mem hthere i).symm

/-- The first offer for a service. -/
def offerFor? (os : List Offer) (c : Contract) : Option Offer :=
  os.find? fun o => o.contract.key.identity = c.key.identity

theorem offerFor?_identity {c : Contract} {o : Offer} (h : offerFor? os c = some o) :
    o.contract.key.identity = c.key.identity := of_decide_eq_true (List.find?_some
  (p := fun o : Offer => decide (o.contract.key.identity = c.key.identity)) h)

/-- **Every entry of a registry** is the first offer for the service that it is found by. -/
theorem Reached.get?_eq (h : Reached os r) (c : Contract) :
    r.get? c.key.identity = (offerFor? os c).map Offer.registration := by
  have hkey : (fun e : Registration => decide (e.key.identity = c.key.identity)) ∘
      Offer.registration = fun o => decide (o.contract.key.identity = c.key.identity) :=
    funext fun o => by rw [Function.comp_apply, o.registration_eq]
  rw [Registry.get?_eq_firstOf, h.firstOf_eq, firstOf, List.find?_map, hkey, offerFor?]

/-- What an offer for a service makes is a client of that service, whose type was forgotten. -/
theorem offerFor?_factory {c : Contract} {o : Offer} (h : offerFor? os c = some o)
    (t : Transport) :
    o.registration.factory t = (⟨(o.made t).transport⟩ : TypedClient c).erase := by
  rw [o.registration_eq]
  exact congrArg (ServiceClient.mk · (o.made t).transport) (offerFor?_identity h)

/-! ## Resolving -/

/-- The error for a client that turns out to be of another service. -/
def otherClientType (service : String) : ResolveError :=
  .registry (.invalidServiceShape service "registered factory produced a different client type")

/-- The faults of shapes are told in other words. -/
theorem Shape.fault?_ne_otherType (s : Shape) :
    s.fault? ≠ some "registered factory produced a different client type" := by
  obtain ⟨isInterface, isPublic, isGeneric⟩ := s
  cases isInterface <;> cases isPublic <;> cases isGeneric <;> simp [fault?]

/-- **Resolving does not come upon a client of another service**. -/
theorem Reached.resolveWith_ne (h : Reached os r) (c : Contract) (address : String)
    (config : Config) (service : String) :
    r.resolveWith c address config ≠ .error (otherClientType service) := by
  intro heq
  have hresolves : Resolves r c address config (.error (otherClientType service)) :=
    heq ▸ resolves_resolveWith
  cases hresolves with
  | badShape _ hreason => exact c.key.shape.fault?_ne_otherType hreason
  | otherType _ _ hentry _ hservice =>
    rw [h.get?_eq] at hentry
    obtain ⟨o, ho, rfl⟩ := Option.map_eq_some_iff.mp hentry
    exact hservice (congrArg ServiceClient.service (offerFor?_factory ho _))

/-- **Clients get their types back.**  In every registry that is reached by offers, and for every
service: what is found is the first offer for that service, the clients that it makes are taken for
clients of the service, and they are the ones that were offered.  So no way of resolving comes to
the error for a client of another service, and resolving that does not fail earlier comes to the
client that was offered.  Offers of generated code are as that code says. -/
theorem erasure_undone (h : Reached os r) (c : Contract) :
    (∀ s client, registrationTokens s client = (RegistrationCode.ofService s client).tokens) ∧
    r.get? c.key.identity = (offerFor? os c).map Offer.registration ∧
    (∀ o, offerFor? os c = some o → o.contract.key.identity = c.key.identity ∧
      ∀ t, downcast? c (o.registration.factory t) = some ⟨(o.made t).transport⟩) ∧
    (∀ service, (∀ address config,
        r.resolveWith c address config ≠ .error (otherClientType service)) ∧
      (∀ address, r.resolve c address ≠ .error (otherClientType service)) ∧
      r.resolveDefault c ≠ .error (otherClientType service)) ∧
    ∀ o address base config, offerFor? os c = some o → c.key.shape.IsOpen →
      normalizeBaseAddress address = .ok base → config.isUsable = true →
      r.resolveWith c address config =
        .ok (⟨(o.made ⟨base, config⟩).transport⟩ : TypedClient c).erase := by
  refine ⟨registrationTokens_eq, h.get?_eq c, fun o ho => ⟨offerFor?_identity ho, fun t => ?_⟩,
    fun service => ⟨fun address config => h.resolveWith_ne c address config service,
      fun address => h.resolveWith_ne c address r.config service, fun heq => ?_⟩,
    fun o address base config ho hopen hbase hconfig => ?_⟩
  · exact downcast?_eq_some.mpr (offerFor?_factory ho t)
  · obtain ⟨-, heq⟩ | ⟨address, -, heq⟩ := resolveDefault_eq_iff.mp heq
    · cases heq
    · exact h.resolveWith_ne c address r.config service heq
  · have hentry : r.get? c.key.identity = some o.registration := by rw [h.get?_eq, ho]; rfl
    rw [resolveWith_of_open hopen hbase, resolveAt_of_entry hentry hconfig,
      offerFor?_factory ho]
    exact if_pos rfl

end

/-- Traits with names of their own, all public. -/
def publicTrait (i : Ident) : Contract := ⟨⟨⟨i.text⟩, i.text, ⟨true, true, false⟩⟩, none⟩

/-- What generated code offers for a trait without methods. -/
def generatedOffer (name : String) : Offer :=
  .generated publicTrait ⟨⟨false, name⟩, .everyone, none, [], []⟩ ⟨false, name ++ "GeneratedClient"⟩

/-- What someone offers for a trait. -/
def ownOffer (name : String) : Offer := .clients (publicTrait ⟨false, name⟩) id

/-- Notes of an inventory, tasks that are registered by hand, and notes once more, which are
refused: notes resolve to the client of the inventory. -/
theorem exists_notes_erasure : ∃ r,
    Reached [generatedOffer "Notes", ownOffer "Tasks", ownOffer "Notes"] r ∧
    r.resolveWith (publicTrait ⟨false, "Notes"⟩) "http://h" .default =
      .ok ⟨⟨"Notes"⟩, ⟨hostBase, .default⟩⟩ := by
  have hinventory : Reached [generatedOffer "Notes"]
      ⟨[(generatedOffer "Notes").registration], .default⟩ := .inventory rfl
  have htasks := hinventory.taken (o := ownOffer "Tasks") rfl
  have hnotes := htasks.refused (o := ownOffer "Notes") rfl
  exact ⟨_, hnotes, (erasure_undone hnotes (publicTrait ⟨false, "Notes"⟩)).2.2.2.2
    (generatedOffer "Notes") "http://h" hostBase .default rfl ⟨rfl, rfl, rfl⟩
    normalizeBaseAddress_host rfl⟩

end RestLoom.Client
