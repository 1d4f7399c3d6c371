import RestLoom.Client.Registry
import RestLoom.Proofs.Outcome
import Mathlib.Data.List.Nodup
import Mathlib.Data.Finset.Card

/-!
# Proofs/Client/Registry — which registrations a registry holds

    r  ──insert e──▸  r with e at its end, if no registration of r is for e's service

A registry finds the first registration of a service.  Inserting fails exactly if there is one, so
that the services of a registry are distinct, and an inventory becomes a registry exactly if its
services are distinct (`ofInventory_eq_ok`).
-/

namespace RestLoom.Client

/-- The services of registrations, in order. -/
def identities (es : List Registration) : List Identity := es.map (·.key.identity)

@[simp] theorem identities_append (es fs : List Registration) :
    identities (es ++ fs) = identities es ++ identities fs := List.map_append

@[simp] theorem identities_singleton (e : Registration) : identities [e] = [e.key.identity] := rfl

/-- The first registration of a service. -/
def firstOf (es : List Registration) (i : Identity) : Option Registration :=
  es.find? fun e => e.key.identity = i

theorem isSome_firstOf {es : List Registration} {i : Identity} :
    (firstOf es i).isSome = true ↔ i ∈ identities es := by
  simp [firstOf, identities, List.find?_isSome]

theorem firstOf_eq_none {es : List Registration} {i : Identity} :
    firstOf es i = none ↔ i ∉ identities es := by
  rw [← isSome_firstOf, Option.not_isSome_iff_eq_none]

theorem firstOf_append {es fs : List Registration} {i : Identity} :
    firstOf (es ++ fs) i = (firstOf es i).or (firstOf fs i) := List.find?_append

/-- A registration that comes later is not the first one of its service. -/
theorem firstOf_concat_of_mem {es : List Registration} {e : Registration}
    (h : e.key.identity ∈ identities es) (i : Identity) : firstOf (es ++ [e]) i = firstOf es i := by
  rw [firstOf_append]
  by_cases hi : e.key.identity = i
  · subst hi
    exact Option.or_of_isSome (isSome_firstOf.mpr h)
  · rw [show firstOf [e] i = none from firstOf_eq_none.mpr fun hmem => hi <| by
      simpa [eq_comm] using hmem, Option.or_none]

namespace Registry

theorem get?_eq_firstOf (r : Registry) : r.get? = firstOf r.entries := rfl

theorem contains_iff {r : Registry} {i : Identity} :
    r.contains i = true ↔ i ∈ identities r.entries := isSome_firstOf

theorem insert_eq_ok {r r' : Registry} {e : Registration} : r.insert e = .ok r' ↔
    e.key.identity ∉ identities r.entries ∧ r' = { r with entries := r.entries ++ [e] } := by
  rw [insert, ← contains_iff]
  split
  next h => simp [h]
  next h => simp [h, eq_comm]

theorem insert_eq_error {r : Registry} {e : Registration} {f : RegistryError} :
    r.insert e = .error f ↔
      e.key.identity ∈ identities r.entries ∧ f = .duplicateRegistration e.key.name := by
  rw [insert, ← contains_iff]
  split
  next h => simp [h, eq_comm]
  next h => simp [h]

/-- **Inserting one after the other** succeeds exactly if all services are distinct. -/
theorem foldlM_insert_eq_ok {es : List Registration} {r r' : Registry}
    (hr : (identities r.entries).Nodup) : es.foldlM insert r = .ok r' ↔
      (identities (r.entries ++ es)).Nodup ∧ r' = { r with entries := r.entries ++ es } := by
  induction es generalizing r with
  | nil =>
    rw [List.foldlM_nil, Outcome.pure_eq_ok, List.append_nil]
    exact (and_iff_right hr).symm
  | cons e es ih =>
    rw [List.foldlM_cons, Outcome.bind_eq_ok]
    have hsplit : r.entries ++ e :: es = (r.entries ++ [e]) ++ es := by
      rw [List.append_assoc, List.singleton_append]
    have hmore (h : e.key.identity ∉ identities r.entries) :
        (identities (r.entries ++ [e])).Nodup := by
      rw [identities_append, identities_singleton]
      exact List.nodup_append_comm.mp (List.nodup_cons.mpr ⟨h, hr⟩)
    constructor
    · rintro ⟨r₁, h₁, h⟩
      obtain ⟨hfresh, rfl⟩ := insert_eq_ok.mp h₁
      rw [hsplit]
      exact (ih (hmore hfresh)).mp h
    · rintro ⟨hnodup, rfl⟩
      have hfresh : e.key.identity ∉ identities r.entries := by
        rw [hsplit, identities_append] at hnodup
        have hfront := (List.nodup_append.mp hnodup).1
        rw [identities_append, identities_singleton, List.nodup_append_comm] at hfront
        exact (List.nodup_cons.mp hfront).1
      refine ⟨_, insert_eq_ok.mpr ⟨hfresh, rfl⟩, (ih (hmore hfresh)).mpr ⟨?_, ?_⟩⟩
      · rwa [← hsplit]
      · rw [hsplit]

/-- **An inventory becomes a registry** exactly if its services are distinct, and the registry holds
its registrations. -/
theorem ofInventory_eq_ok {es : List Registration} {r : Registry} :
    ofInventory es = .ok r ↔ (identities es).Nodup ∧ r = ⟨es, .default⟩ :=
  foldlM_insert_eq_ok List.nodup_nil

/-- The number of services of a registry whose services are distinct. -/
theorem size_eq_card {r : Registry} (h : (identities r.entries).Nodup) :
    r.size = (identities r.entries).toFinset.card := by
  rw [List.toFinset_card_of_nodup h, identities, List.length_map, size]

theorem isEmpty_iff_size {r : Registry} : r.isEmpty = true ↔ r.size = 0 := by
  rw [isEmpty, size, List.isEmpty_iff, List.length_eq_zero_iff]

end Registry

end RestLoom.Client
