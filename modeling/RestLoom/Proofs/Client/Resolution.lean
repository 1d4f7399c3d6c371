import RestLoom.Proofs.Client.Blocking
import RestLoom.Proofs.Client.Registry

/-!
# Proofs/Client/Resolution — when a service resolves, and to which client

    shape ─▸ address ─▸ registration ─▸ configuration ─▸ type of the client

Resolving goes through five conditions, any of which may fail whatever the others do.  `Resolves`
tells what it comes to without running it: one case for each condition to be the first that fails,
and one for none.  All three ways to resolve come to it (`resolution_exact`).
-/

namespace RestLoom.Client

/-! ## The five conditions -/

/-- A shape that can be resolved: that of a public interface that is not generic. -/
def Shape.IsOpen (s : Shape) : Prop :=
  s.isInterface = true ∧ s.isPublic = true ∧ s.isGeneric = false

/-- A shape has a fault exactly if it cannot be resolved. -/
theorem Shape.fault?_eq_none {s : Shape} : s.fault? = none ↔ s.IsOpen := by
  obtain ⟨isInterface, isPublic, isGeneric⟩ := s
  cases isInterface <;> cases isPublic <;> cases isGeneric <;> simp [fault?, IsOpen]

theorem Shape.validate_eq_ok {s : Shape} {service : String} :
    s.validate service = .ok () ↔ s.IsOpen := by
  rw [← fault?_eq_none, validate]
  cases s.fault? <;> simp

theorem Shape.validate_eq_error {s : Shape} {service : String} {e : RegistryError} :
    s.validate service = .error e ↔
      ∃ reason, s.fault? = some reason ∧ e = .invalidServiceShape service reason := by
  rw [validate]
  cases s.fault? <;> simp [eq_comm]

/-- An address that is refused is told back with the reason. -/
theorem normalizeBaseAddress_eq_error {address : String} {e : RegistryError} :
    normalizeBaseAddress address = .error e ↔
      ∃ fault, readBaseAddress address.toList = .error fault ∧
        e = .invalidBaseAddress address fault.message := by
  rw [normalizeBaseAddress]
  cases readBaseAddress address.toList <;> simp [eq_comm]

/-- A service is registered exactly if the registry finds a registration of it. -/
theorem Registry.exists_get?_iff {r : Registry} {i : Identity} :
    (∃ e, r.get? i = some e) ↔ i ∈ identities r.entries := by
  rw [← isSome_firstOf, ← Option.isSome_iff_exists, get?_eq_firstOf]

/-! ## What resolving comes to -/

/-- **The client of a service** at an address, with a configuration: all five conditions hold, and
it is what the registered factory makes of a transport with just this base address and this
configuration. -/
def IsResolution (r : Registry) (c : Contract) (address : String) (config : Config)
    (client : ServiceClient) : Prop :=
  c.key.shape.IsOpen ∧ ∃ base, normalizeBaseAddress address = .ok base ∧
    ∃ e, r.get? c.key.identity = some e ∧ config.isUsable = true ∧
      client = e.factory ⟨base, config⟩ ∧ client.service = c.key.identity

/-- **What resolving comes to**: an error for the first condition that fails, or a client. -/
inductive Resolves (r : Registry) (c : Contract) (address : String) (config : Config) :
    Except ResolveError ServiceClient → Prop
  | badShape {reason : String} (hshape : ¬c.key.shape.IsOpen)
    (hreason : c.key.shape.fault? = some reason) :
    Resolves r c address config (.error (.registry (.invalidServiceShape c.key.name reason)))
  | badAddress {fault : AddressFault} (hshape : c.key.shape.IsOpen)
    (haddress : readBaseAddress address.toList = .error fault) :
    Resolves r c address config (.error (.registry (.invalidBaseAddress address fault.message)))
  | unregistered {base : Url} (hshape : c.key.shape.IsOpen)
    (haddress : normalizeBaseAddress address = .ok base)
    (hmissing : c.key.identity ∉ identities r.entries) :
    Resolves r c address config (.error (.registry (.unregisteredService c.key.name)))
  | unusable {base : Url} {e : Registration} (hshape : c.key.shape.IsOpen)
    (haddress : normalizeBaseAddress address = .ok base)
    (hentry : r.get? c.key.identity = some e) (hconfig : config.isUsable = false) :
    Resolves r c address config (.error (.client (.request .notBuilt)))
  | otherType {base : Url} {e : Registration} (hshape : c.key.shape.IsOpen)
    (haddress : normalizeBaseAddress address = .ok base)
    (hentry : r.get? c.key.identity = some e) (hconfig : config.isUsable = true)
    (hservice : (e.factory ⟨base, config⟩).service ≠ c.key.identity) :
    Resolves r c address config (.error (.registry (.invalidServiceShape c.key.name
      "registered factory produced a different client type")))
  | client {client : ServiceClient} (h : IsResolution r c address config client) :
    Resolves r c address config (.ok client)

section
variable {r : Registry} {c : Contract} {address : String} {config : Config}

/-- **Resolving does come to it.** -/
theorem resolves_resolveWith : Resolves r c address config (r.resolveWith c address config) := by
  rw [Registry.resolveWith]
  cases hshape : c.key.shape.validate c.key.name with
  | error e =>
    obtain ⟨reason, hreason, rfl⟩ := Shape.validate_eq_error.mp hshape
    exact .badShape (fun h => by simp [Shape.validate_eq_ok.mpr h] at hshape) hreason
  | ok _ =>
    have hopen := Shape.validate_eq_ok.mp hshape
    cases hbase : normalizeBaseAddress address with
    | error e =>
      obtain ⟨fault, hfault, rfl⟩ := normalizeBaseAddress_eq_error.mp hbase
      exact .badAddress hopen hfault
    | ok base =>
      dsimp only
      rw [Registry.resolveAt]
      cases hentry : r.get? c.key.identity with
      | none =>
        refine .unregistered hopen hbase fun hmem => ?_
        obtain ⟨e, he⟩ := Registry.exists_get?_iff.mpr hmem
        exact nomatch he.symm.trans hentry
      | some e =>
        dsimp only
        cases ht : Transport.new base config with
        | error f =>
          obtain ⟨hconfig, rfl⟩ := Transport.new_eq_error.mp ht
          exact .unusable hopen hbase hentry hconfig
        | ok t =>
          obtain ⟨hconfig, rfl⟩ := Transport.new_eq_ok.mp ht
          dsimp only
          split
          next hservice => exact .client ⟨hopen, base, hbase, e, hentry, hconfig, rfl, hservice⟩
          next hservice => exact .otherType hopen hbase hentry hconfig hservice

/-- With an open shape and an address, resolving is up to the registry. -/
theorem resolveWith_of_open {base : Url} (hopen : c.key.shape.IsOpen)
    (hbase : normalizeBaseAddress address = .ok base) :
    r.resolveWith c address config = r.resolveAt c base config := by
  rw [Registry.resolveWith, Shape.validate_eq_ok.mpr hopen, hbase]

/-- With a registration and a configuration, resolving is up to the factory. -/
theorem resolveAt_of_entry {base : Url} {e : Registration}
    (hentry : r.get? c.key.identity = some e) (hconfig : config.isUsable = true) :
    r.resolveAt c base config =
      if (e.factory ⟨base, config⟩).service = c.key.identity then .ok (e.factory ⟨base, config⟩)
      else .error (.registry (.invalidServiceShape c.key.name
        "registered factory produced a different client type")) := by
  rw [Registry.resolveAt, hentry, Transport.new_eq_ok.mpr ⟨hconfig, rfl⟩]

/-- No two cases go together: **whatever fits the conditions is what resolving comes to**. -/
theorem Resolves.eq_resolveWith {o : Except ResolveError ServiceClient}
    (h : Resolves r c address config o) : r.resolveWith c address config = o := by
  cases h with
  | badShape _ hreason =>
    rw [Registry.resolveWith, Shape.validate_eq_error.mpr ⟨_, hreason, rfl⟩]
  | badAddress hopen hfault =>
    rw [Registry.resolveWith, Shape.validate_eq_ok.mpr hopen,
      normalizeBaseAddress_eq_error.mpr ⟨_, hfault, rfl⟩]
  | unregistered hopen hbase hmissing =>
    rw [resolveWith_of_open hopen hbase, Registry.resolveAt,
      Registry.get?_eq_firstOf, firstOf_eq_none.mpr hmissing]
  | unusable hopen hbase hentry hconfig =>
    rw [resolveWith_of_open hopen hbase, Registry.resolveAt, hentry,
      Transport.new_eq_error.mpr ⟨hconfig, rfl⟩]
  | otherType hopen hbase hentry hconfig hservice =>
    rw [resolveWith_of_open hopen hbase, resolveAt_of_entry hentry hconfig, if_neg hservice]
  | client h =>
    obtain ⟨hopen, base, hbase, e, hentry, hconfig, rfl, hservice⟩ := h
    rw [resolveWith_of_open hopen hbase, resolveAt_of_entry hentry hconfig, if_pos hservice]

theorem resolveWith_eq_iff {o : Except ResolveError ServiceClient} :
    r.resolveWith c address config = o ↔ Resolves r c address config o :=
  ⟨fun h => h ▸ resolves_resolveWith, Resolves.eq_resolveWith⟩

/-- **A client comes of resolving** exactly if all conditions hold. -/
theorem resolves_ok_iff {client : ServiceClient} :
    Resolves r c address config (.ok client) ↔ IsResolution r c address config client :=
  ⟨fun h => by cases h with | client h => exact h, .client⟩

/-- Resolving at the declared address fails without one, and else is resolving there. -/
theorem resolveDefault_eq_iff {o : Except ResolveError ServiceClient} :
    r.resolveDefault c = o ↔
      (c.defaultBaseUrl = none ∧ o = .error (.registry
        (.invalidBaseAddress "" (c.key.name ++ " declares no base_url")))) ∨
      ∃ address, c.defaultBaseUrl = some address ∧ r.resolve c address = o := by
  rw [Registry.resolveDefault]
  cases c.defaultBaseUrl with
  | none => simp [eq_comm]
  | some address => simp

end

/-- **Resolution succeeds exactly when it should**, for every registry, service, address and
configuration.  With a configuration, a client comes of it if and only if all five conditions hold,
and else the error is that of the first one that fails.  Without one, it is the registry's own; at
the declared address, there has to be one before anything else is looked at. -/
theorem resolution_exact (r : Registry) (c : Contract) :
    (∀ address config client, r.resolveWith c address config = .ok client ↔
      IsResolution r c address config client) ∧
    (∀ address config o, r.resolveWith c address config = o ↔ Resolves r c address config o) ∧
    (∀ address o, r.resolve c address = o ↔ Resolves r c address r.config o) ∧
    ∀ o, r.resolveDefault c = o ↔
      (c.defaultBaseUrl = none ∧ o = .error (.registry
        (.invalidBaseAddress "" (c.key.name ++ " declares no base_url")))) ∨
      ∃ address, c.defaultBaseUrl = some address ∧ Resolves r c address r.config o := by
  refine ⟨fun address config client => resolveWith_eq_iff.trans resolves_ok_iff,
    fun address config o => resolveWith_eq_iff, fun address o => resolveWith_eq_iff, fun o => ?_⟩
  rw [resolveDefault_eq_iff]
  simp only [Registry.resolve, resolveWith_eq_iff]

end RestLoom.Client
