import RestLoom.Proofs.Service.Acceptance

/-!
# Proofs/Service/Accepted — what holds of every endpoint that is accepted

    e ∈ s.endpoints  ⟹  one body at most · a parameter for each place of the path

The rules of a declaration count markers and leftovers; what later stages need is told by the roles
alone.  Both come from the method that documents the endpoint.
-/

namespace RestLoom.Service

open RestLoom.Source

/-! ## Roles -/

/-- A parameter in the role of the body is marked so or left over. -/
theorem hasMarker_or_isUnbound_of_body {template : Path.Template} {p : Param}
    (h : documentedRole template p = .body) :
    hasMarker "body" p = true ∨ IsUnbound template p := by
  rw [IsUnbound, IsOpen, paramMarkers_eq_nil_iff]
  unfold documentedRole at h
  split at h
  next => cases h
  next hquery =>
    split at h
    next hbody => exact .inl hbody
    next hbody =>
      split at h
      next => cases h
      next htoken =>
        split at h
        next => cases h
        next hplace =>
          rw [Bool.not_eq_true] at hquery hbody
          exact .inr ⟨⟨⟨hquery, hbody⟩, htoken⟩, fun place hp hname =>
            hplace ⟨place, hp, hname⟩⟩

/-- What is one thing or another is at most as often there as both together. -/
theorem length_filter_le_add {α : Type} {p q r : α → Bool} (h : ∀ a, p a → q a ∨ r a)
    (as : List α) :
    (as.filter p).length ≤ (as.filter q).length + (as.filter r).length := by
  induction as with
  | nil => exact Nat.le_refl 0
  | cons a as ih =>
    have ha := h a
    simp only [List.filter_cons]
    cases hp : p a with
    | false => grind
    | true =>
      obtain hq | hr := ha hp
      · grind
      · grind

/-- **At most one parameter is the body.** -/
theorem LawfulParams.bodies_length_le {template : Path.Template} {ps : List Param}
    (h : LawfulParams template ps) :
    (ps.filter fun p => documentedRole template p = .body).length ≤ 1 := by
  have hle := length_filter_le_add (p := fun p => decide (documentedRole template p = .body))
    (q := hasMarker "body") (r := fun p => decide (IsUnbound template p))
    (fun p hp => by
      rw [decide_eq_true_iff] at hp
      exact (hasMarker_or_isUnbound_of_body hp).imp_right decide_eq_true) ps
  refine Nat.le_trans hle ?_
  have hunbound := h.unbound_le
  split at hunbound
  next => exact Nat.add_le_add h.bodies_le hunbound
  next hnone =>
    have hbodies : ps.filter (hasMarker "body") = [] := by
      rw [List.filter_eq_nil_iff]
      intro p hp hbody
      exact hnone (List.any_eq_true.mpr ⟨p, hp, hbody⟩)
    rw [hbodies, List.length_nil, Nat.zero_add]
    exact hunbound

/-! ## Endpoints -/

/-- An accepted endpoint has the template and the parameters of a lawful method. -/
theorem exists_lawfulParams_of_mem_endpoints {t : TraitDecl} {baseUrl : Option String}
    {s : Service} {e : Endpoint} (hs : extract t baseUrl = .ok s) (he : e ∈ s.endpoints) :
    ∃ ps, LawfulParams e.path ps ∧ e.params.map some = ps.map (documentedParam? e.path) := by
  obtain ⟨m, -, hlawful, hdoc⟩ := exists_method_of_mem_endpoints hs he
  obtain ⟨a, ha, -⟩ := hlawful.marker
  have hmem : a ∈ verbMarkers m.attributes := by rw [ha]; exact List.mem_singleton_self a
  obtain ⟨v, hv⟩ := Option.isSome_iff_exists.mp (isSome_verbOf?_of_mem hmem)
  obtain ⟨-, -, -, -, rfl⟩ := (documentedEndpoint?_eq_some ha hv).mp hdoc
  exact ⟨m.signature.params, hlawful.params, (map_documentedParam? _ hlawful.params.each).symm⟩

/-- A parameter of an endpoint has the role that the declaration documents. -/
theorem role_of_documentedParam? {template : Path.Template} {p : Param} {q : Parameter}
    (h : documentedParam? template p = some q) : q.role = documentedRole template p := by
  obtain ⟨name, -, rfl⟩ := Option.map_eq_some_iff.mp h
  rfl

theorem map_role_of_map_some {template : Path.Template} {ps : List Param} {qs : List Parameter}
    (h : qs.map some = ps.map (documentedParam? template)) :
    qs.map (·.role) = ps.map (documentedRole template) := by
  induction ps generalizing qs with
  | nil =>
    rw [List.map_nil, List.map_eq_nil_iff] at h
    rw [h, List.map_nil, List.map_nil]
  | cons p ps ih =>
    cases qs with
    | nil => cases h
    | cons q qs =>
      rw [List.map_cons, List.map_cons, List.cons.injEq] at h
      rw [List.map_cons, List.map_cons, ih h.2, role_of_documentedParam? h.1.symm]

/-- **An accepted endpoint has at most one body.** -/
theorem length_body_le_one {t : TraitDecl} {baseUrl : Option String} {s : Service} {e : Endpoint}
    (hs : extract t baseUrl = .ok s) (he : e ∈ s.endpoints) :
    (e.withRole .body).length ≤ 1 := by
  obtain ⟨ps, hlawful, hps⟩ := exists_lawfulParams_of_mem_endpoints hs he
  have hcount (qs : List Parameter) (ps : List Param)
      (h : qs.map (·.role) = ps.map (documentedRole e.path)) :
      (qs.filter fun q => q.role = .body).length =
        (ps.filter fun p => documentedRole e.path p = .body).length := by
    have hq := congrArg (fun rs => (rs.filter fun r => decide (r = .body)).length) h
    simpa only [List.filter_map, List.length_map, Function.comp_def] using hq
  rw [Endpoint.withRole, hcount _ _ (map_role_of_map_some hps)]
  exact hlawful.bodies_length_le

/-- **Each place in the path of an accepted endpoint** has a parameter that fills it. -/
theorem exists_param_of_mem_placeholders {t : TraitDecl} {baseUrl : Option String} {s : Service}
    {e : Endpoint} (hs : extract t baseUrl = .ok s) (he : e ∈ s.endpoints) {place : List Char}
    (hplace : place ∈ e.path.placeholders) :
    ∃ p ∈ e.params, p.role = .path ∧ p.name.text.toList = place := by
  obtain ⟨ps, hlawful, hps⟩ := exists_lawfulParams_of_mem_endpoints hs he
  obtain ⟨q, hq, hrole, htext⟩ := hlawful.exists_param hplace
  obtain ⟨p, hp, hpq⟩ := List.mem_filterMap.mp hq
  have hmem : some q ∈ e.params.map some := by
    rw [hps, ← hpq]
    exact List.mem_map_of_mem hp
  obtain ⟨_, hq, ⟨⟩⟩ := List.mem_map.mp hmem
  exact ⟨q, hq, hrole, htext⟩

/-- **No parameter of an accepted endpoint** has a name that generated bodies use. -/
theorem not_reserved_of_mem_params {t : TraitDecl} {baseUrl : Option String} {s : Service}
    {e : Endpoint} (hs : extract t baseUrl = .ok s) (he : e ∈ s.endpoints) {p : Parameter}
    (hp : p ∈ e.params) : ¬ "__refit".toList <+: p.name.text.toList := by
  obtain ⟨ps, hlawful, hps⟩ := exists_lawfulParams_of_mem_endpoints hs he
  have hmem : some p ∈ ps.map (documentedParam? e.path) := by
    rw [← hps]
    exact List.mem_map_of_mem hp
  obtain ⟨q, hq, hqp⟩ := List.mem_map.mp hmem
  obtain ⟨name, hname, rfl⟩ := Option.map_eq_some_iff.mp hqp
  obtain ⟨_, hpattern, hreserved⟩ := (hlawful.each q hq).named
  cases hname.symm.trans hpattern
  exact hreserved

end RestLoom.Service
