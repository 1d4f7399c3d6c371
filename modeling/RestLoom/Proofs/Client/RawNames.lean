import Mathlib.Data.List.Forall2
import RestLoom.Proofs.Client.Contract
import RestLoom.Proofs.Service.RawNames

/-!
# Proofs/Client/RawNames — what a raw name changes about a request

    fn note(&self, r#id: u32)  ──▸  no {id} in the path · ?r#id=… in the query

A name goes into a request when it is compared with the places of the path, and as the key of a pair
of the query.  A request for the same arguments is the same if the parameters have the same roles
and the names that go into it are the same (`buildRequest_congr`).  So a parameter may be written
raw without any difference exactly if its name is neither reserved nor used in that way
(`sameMeaning_respell_iff`).
-/

namespace RestLoom.Client

open RestLoom.Emit
open RestLoom.Service
open RestLoom.Source (Method Param)

/-! ## Parameters that differ in their names -/

/-- Two parameters that contribute the same to a request if they have the same arguments. -/
structure Alike (p q : Parameter) : Prop where
  role : p.role = q.role
  optional : p.optional = q.optional
  /-- Only names that go into the request have to be the same. -/
  text : p.role = .path ∨ p.role = .query → p.name.text = q.name.text

theorem Alike.refl (p : Parameter) : Alike p p := ⟨rfl, rfl, fun _ => rfl⟩

/-- Two parameters that contribute the same to a request with these arguments. -/
def Contribute (args args' : Arguments) (p q : Parameter) : Prop :=
  Alike p q ∧ argumentOf args p.name = argumentOf args' q.name

section
variable {α β γ : Type} {R : α → β → Prop} {as : List α} {bs : List β}

/-- What holds of neighbours in two lists holds together with an equation of what they are mapped
to. -/
theorem forall₂_and_of_map_eq {f : α → γ} {g : β → γ} (h : List.Forall₂ R as bs)
    (heq : as.map f = bs.map g) : List.Forall₂ (fun a b => R a b ∧ f a = g b) as bs := by
  induction h with
  | nil => exact .nil
  | cons hab _ ih =>
    rw [List.map_cons, List.map_cons, List.cons.injEq] at heq
    exact .cons ⟨hab, heq.1⟩ (ih heq.2)

theorem map_eq_of_forall₂ {f : α → γ} {g : β → γ} (h : List.Forall₂ R as bs)
    (heq : ∀ a b, R a b → f a = g b) : as.map f = bs.map g := by
  rw [← List.forall₂_eq_eq_eq, List.forall₂_map_left_iff, List.forall₂_map_right_iff]
  exact h.imp heq

theorem filterMap_eq_of_forall₂ {f : α → Option γ} {g : β → Option γ} (h : List.Forall₂ R as bs)
    (heq : ∀ a b, R a b → f a = g b) : as.filterMap f = bs.filterMap g := by
  rw [← List.forall₂_eq_eq_eq]
  refine List.rel_filterMap (fun a b hab => ?_) h
  rw [heq a b hab]
  cases g b with
  | none => exact .none
  | some c => exact .some rfl

/-- **What is found first** in two lists at the same place. -/
theorem rel_find? {f : α → Bool} {g : β → Bool} (h : List.Forall₂ R as bs)
    (heq : ∀ a b, R a b → f a = g b) : Option.Rel R (as.find? f) (bs.find? g) := by
  induction h with
  | nil => exact .none
  | @cons a b as bs hab _ ih =>
    rw [List.find?_cons, List.find?_cons, ← heq a b hab]
    cases f a with
    | true => exact .some hab
    | false => exact ih

end

/-! ## The same request -/

section
variable {e e' : Endpoint} {args args' : Arguments}
  (h : List.Forall₂ (Contribute args args') e.params e'.params)
include h

theorem forall₂_withRole (role : Role) :
    List.Forall₂ (Contribute args args') (e.withRole role) (e'.withRole role) :=
  List.rel_filter (fun p q hpq => by
    change decide (p.role = role) = true ↔ decide (q.role = role) = true
    rw [hpq.1.role]) h

theorem queryPairs_congr :
    e.params.filterMap (queryPair? args) = e'.params.filterMap (queryPair? args') := by
  refine filterMap_eq_of_forall₂ h fun p q hpq => ?_
  obtain ⟨⟨hrole, hoptional, htext⟩, hargument⟩ := hpq
  rw [queryPair?, queryPair?, ← hrole, ← hoptional, ← hargument]
  by_cases hquery : p.role = .query
  · rw [htext (.inr hquery)]
  · rw [if_neg hquery, if_neg hquery]

theorem bodyText_congr : bodyText args e.body? = bodyText args' e'.body? := by
  have hbody := forall₂_withRole h .body
  rw [Endpoint.body?, Endpoint.body?]
  generalize e.withRole .body = bodies, e'.withRole .body = bodies' at hbody ⊢
  cases hbody with
  | nil => rfl
  | cons hpq => rw [List.head?_cons, List.head?_cons, bodyText, bodyText, hpq.2]

theorem tokensFor_congr :
    tokensFor args (e.withRole .token) = tokensFor args' (e'.withRole .token) :=
  filterMap_eq_of_forall₂ (forall₂_withRole h .token) fun p q hpq => by rw [hpq.2]

/-- **What fills a place** that a parameter has. -/
theorem argumentOf_place_congr {place : List Char}
    (hplace : ∃ p ∈ e.params, p.role = .path ∧ p.name.text.toList = place) :
    argumentOf args (((e.pathParam? place).map (·.name)).getD (.plain (String.ofList place))) =
      argumentOf args'
        (((e'.pathParam? place).map (·.name)).getD (.plain (String.ofList place))) := by
  have hpath : List.Forall₂ (fun p q => p ∈ e.withRole .path ∧ Contribute args args' p q)
      (e.withRole .path) (e'.withRole .path) :=
    List.forall₂_and_left _ _ |>.mpr ⟨fun _ h => h, forall₂_withRole h .path⟩
  have hfound := rel_find? (f := fun p => p.name.text.toList == place)
    (g := fun p => p.name.text.toList == place) hpath fun p q hpq => by
      rw [hpq.2.1.text (.inl (mem_withRole.mp hpq.1).2)]
  obtain ⟨p, hp, hrole, htext⟩ := hplace
  rw [Endpoint.pathParam?, Endpoint.pathParam?]
  cases hp₁ : (e.withRole .path).find? fun p => p.name.text.toList == place with
  | none =>
    exact absurd (beq_iff_eq.mpr htext)
      (List.find?_eq_none.mp hp₁ p (mem_withRole.mpr ⟨hp, hrole⟩))
  | some p₁ =>
    rw [hp₁] at hfound
    generalize (e'.withRole .path).find? (fun p => p.name.text.toList == place) = found at *
    cases hfound with
    | some hpq => exact hpq.2.2

/-- **The path** is the same if each place has a parameter. -/
theorem pathOf_congr (hpath : e.path = e'.path)
    (hplaces : ∀ place ∈ e.path.placeholders, ∃ p ∈ e.params, p.role = .path ∧
      p.name.text.toList = place) :
    pathOf args (Program.pathSource e) = pathOf args' (Program.pathSource e') := by
  unfold Program.pathSource
  rw [← hpath]
  cases hplaces' : e.path.placeholders with
  | nil => rfl
  | cons place places =>
    simp only [pathOf, Path.Template.formatText, List.map_map]
    refine congrArg String.ofList (congrArg (fillFormat _) (List.map_congr_left fun place hmem => ?_))
    rw [Function.comp_apply, Function.comp_apply,
      argumentOf_place_congr h (hplaces place (hplaces' ▸ hmem))]

/-- **The same request** comes of parameters that contribute the same, one by one. -/
theorem buildRequest_congr (hverb : e.verb = e'.verb) (hpath : e.path = e'.path)
    (hplaces : ∀ place ∈ e.path.placeholders, ∃ p ∈ e.params, p.role = .path ∧
      p.name.text.toList = place) :
    buildRequest (Program.ofEndpoint e) args = buildRequest (Program.ofEndpoint e') args' := by
  rw [buildRequest_ofEndpoint, buildRequest_ofEndpoint, bodyText_congr h, hverb,
    pathOf_congr h hpath hplaces, queryPairs_congr h, tokensFor_congr h]

end

/-- The arguments that give every name of a list the same value. -/
def constantArguments (is : List Token.Ident) : Arguments :=
  is.map fun i => (i, .value "" (.value .null))

theorem argumentOf_constantArguments {is : List Token.Ident} {i : Token.Ident} (h : i ∈ is) :
    argumentOf (constantArguments is) i = .value "" (.value .null) := by
  have hlookup : (constantArguments is).lookup i = some (.value "" (.value .null)) := by
    induction is with
    | nil => cases h
    | cons j is ih =>
      rw [constantArguments, List.map_cons, List.lookup_cons]
      by_cases hj : i = j
      · rw [beq_iff_eq.mpr hj]
      · rw [beq_eq_false_iff_ne.mpr hj]
        exact ih ((List.mem_cons.mp h).resolve_left hj)
  rw [argumentOf, hlookup]
  rfl

theorem queryPair?_constantArguments {is : List Token.Ident} {p : Parameter}
    (hrole : p.role = .query) (h : p.name ∈ is) :
    queryPair? (constantArguments is) p = some (p.name.text, "") := by
  rw [queryPair?, if_pos hrole, argumentOf_constantArguments h]
  cases p.optional <;> rfl

theorem map_argumentOf_constantArguments {is : List Token.Ident} {ps : List Parameter}
    (h : ∀ p ∈ ps, p.name ∈ is) :
    (ps.map fun p => argumentOf (constantArguments is) p.name) =
      List.replicate ps.length (.value "" (.value .null)) := by
  rw [List.map_congr_left fun p hp => argumentOf_constantArguments (h p hp), List.map_const']

/-- **Only the keys** of query pairs can differ with such arguments, and they do. -/
theorem queryPairs_ne {is : List Token.Ident} {before after : List Parameter} {p q : Parameter}
    (hp : p.role = .query) (hq : q.role = .query) (hpmem : p.name ∈ is) (hqmem : q.name ∈ is)
    (hne : p.name.text ≠ q.name.text) :
    (before ++ p :: after).filterMap (queryPair? (constantArguments is)) ≠
      (before ++ q :: after).filterMap (queryPair? (constantArguments is)) := by
  rw [List.filterMap_append, List.filterMap_append,
    List.filterMap_cons_some (queryPair?_constantArguments hp hpmem),
    List.filterMap_cons_some (queryPair?_constantArguments hq hqmem), ne_eq,
    List.append_cancel_left_eq, List.cons.injEq, Prod.mk.injEq]
  exact fun h => hne h.1.1

/-- **With such arguments** a request can be built. -/
theorem exists_request_constantArguments {e : Endpoint} {is : List Token.Ident}
    (h : ∀ p ∈ e.params, p.name ∈ is) :
    ∃ r, buildRequest (Program.ofEndpoint e) (constantArguments is) = .ok r ∧
      r.query = e.params.filterMap (queryPair? (constantArguments is)) := by
  have hbody : ∃ text, bodyText (constantArguments is) e.body? = .ok text := by
    rw [Endpoint.body?]
    cases hp : (e.withRole .body).head? with
    | none => exact ⟨_, rfl⟩
    | some p =>
      have hmem := (mem_withRole.mp (List.mem_of_head? hp)).1
      rw [bodyText, argumentOf_constantArguments (h p hmem)]
      exact ⟨_, rfl⟩
  obtain ⟨text, htext⟩ := hbody
  rw [buildRequest_ofEndpoint, htext]
  exact ⟨_, rfl, rfl⟩

/-! ## The same meaning -/

/-- **Two declarations mean the same**: both are accepted or none is, and if they are, their
parameters have the same roles, and for the same arguments in the same order they build the same
request. -/
structure SameMeaning (v : Verb) (path : String) (m m' : Method) : Prop where
  accepts : Accepts m v path ↔ Accepts m' v path
  roles : ∀ e e', extractEndpoint m v path = .ok e → extractEndpoint m' v path = .ok e' →
    e.params.map (·.role) = e'.params.map (·.role)
  requests : ∀ e e', extractEndpoint m v path = .ok e → extractEndpoint m' v path = .ok e' →
    ∀ args args', (e.params.map fun p => argumentOf args p.name) =
        (e'.params.map fun p => argumentOf args' p.name) →
      buildRequest (Program.ofEndpoint e) args = buildRequest (Program.ofEndpoint e') args'

/-- A parameter that is marked for the query has that role. -/
theorem documentedParam?_of_query (template : Path.Template) {p : Param} {i : Token.Ident}
    (hname : patternName? p.pattern = some i) (hquery : hasMarker "query" p = true) :
    documentedParam? template p = some ⟨i, p.type, .query, isOption p.type⟩ := by
  rw [documentedParam?, hname, documentedRole, if_pos hquery]
  rfl

/-- The parameters of an endpoint are those that its method documents. -/
theorem params_of_extractEndpoint {m : Method} {v : Verb} {path : String} {e : Endpoint}
    (he : extractEndpoint m v path = .ok e) :
    e.params = m.signature.params.filterMap (documentedParam? (.ofString path)) := by
  obtain ⟨-, -, value, -, rfl⟩ := extractEndpoint_eq_ok_iff.mp he
  rfl

section
variable {m : Method} {k : Nat} {p : Param} {x : String} (h : IsNamed m k p x) {v : Verb}
  {path : String}
include h

/-- **Parameters are alike** in both spellings of one that neither fills a place nor goes into the
query. -/
theorem forall₂_alike_respell
    (hplain : x.toList ∉ (Path.Template.ofString path).placeholders)
    (hraw : (rawText x).toList ∉ (Path.Template.ofString path).placeholders)
    (hquery : hasMarker "query" p = false) :
    List.Forall₂ Alike (m.signature.params.filterMap (documentedParam? (.ofString path)))
      ((respell m k).signature.params.filterMap (documentedParam? (.ofString path))) := by
  obtain ⟨before, after, hparams, hparams', -⟩ := h.exists_params
  obtain ⟨hpath, hmarked⟩ := documentedRole_ne_of_unmarked h.name hplain hraw hquery
  have hp : documentedParam? (.ofString path) p =
      some ⟨.plain x, p.type, documentedRole (.ofString path) p, isOption p.type⟩ := by
    rw [documentedParam?, h.name]
    rfl
  have hp' : documentedParam? (.ofString path) (rawParam p) =
      some ⟨⟨true, x⟩, p.type, documentedRole (.ofString path) p, isOption p.type⟩ := by
    rw [documentedParam?, ← documentedRole_rawParam h.name hplain hraw]
    exact congrArg (Option.map _) (patternName?_rawPattern h.name)
  have hsame (ps : List Parameter) : List.Forall₂ Alike ps ps :=
    List.forall₂_same.mpr fun q _ => .refl q
  rw [hparams, hparams', List.filterMap_append, List.filterMap_append,
    List.filterMap_cons_some hp, List.filterMap_cons_some hp']
  exact List.rel_append (hsame _)
    (.cons ⟨rfl, rfl, fun hrole => (hrole.elim hpath hmarked).elim⟩ (hsame _))

/-- **A name that is not used as a text** may be written raw. -/
theorem sameMeaning_respell (hreserved : ¬"__refit".toList <+: x.toList)
    (hquery : hasMarker "query" p = false)
    (hplain : x.toList ∉ (Path.Template.ofString path).placeholders)
    (hraw : (rawText x).toList ∉ (Path.Template.ofString path).placeholders) :
    SameMeaning v path m (respell m k) := by
  have halike := forall₂_alike_respell h hplain hraw hquery
  refine ⟨(h.accepts_respell_iff hreserved hplain hraw).symm, fun e e' he he' => ?_,
    fun e e' he he' args args' hargs => ?_⟩
  · rw [params_of_extractEndpoint he, params_of_extractEndpoint he']
    exact map_eq_of_forall₂ halike fun _ _ hpq => hpq.role
  · obtain ⟨-, hlawful, value, -, rfl⟩ := extractEndpoint_eq_ok_iff.mp he
    obtain ⟨-, -, value', -, rfl⟩ := extractEndpoint_eq_ok_iff.mp he'
    exact buildRequest_congr (forall₂_and_of_map_eq halike hargs) rfl rfl
      fun place hplace => hlawful.exists_param hplace

/-- **A name in the query** may not be written raw: the key of its pair becomes another one. -/
theorem not_sameMeaning_of_query (haccepts : Accepts m v path)
    (haccepts' : Accepts (respell m k) v path) (hquery : hasMarker "query" p = true) :
    ¬SameMeaning v path m (respell m k) := by
  intro hsame
  obtain ⟨before, after, hparams, hparams', -⟩ := h.exists_params
  obtain ⟨e, he⟩ := haccepts
  obtain ⟨e', he'⟩ := haccepts'
  have hp := documentedParam?_of_query (.ofString path) h.name hquery
  have hp' : documentedParam? (.ofString path) (rawParam p) =
      some ⟨⟨true, x⟩, p.type, .query, isOption p.type⟩ :=
    documentedParam?_of_query (.ofString path) (patternName?_rawPattern h.name) hquery
  have hsplit := params_of_extractEndpoint he
  have hsplit' := params_of_extractEndpoint he'
  rw [hparams, List.filterMap_append, List.filterMap_cons_some hp] at hsplit
  rw [hparams', List.filterMap_append, List.filterMap_cons_some hp'] at hsplit'
  -- every parameter gets the same value, so that only the keys of the pairs can differ
  let names := e.params.map (·.name) ++ e'.params.map (·.name)
  have hname (q : Parameter) (hq : q ∈ e.params) : q.name ∈ names :=
    List.mem_append_left _ (List.mem_map_of_mem hq)
  have hname' (q : Parameter) (hq : q ∈ e'.params) : q.name ∈ names :=
    List.mem_append_right _ (List.mem_map_of_mem hq)
  have hargs : (e.params.map fun q => argumentOf (constantArguments names) q.name) =
      e'.params.map fun q => argumentOf (constantArguments names) q.name := by
    rw [map_argumentOf_constantArguments hname, map_argumentOf_constantArguments hname', hsplit,
      hsplit', List.length_append, List.length_append]
    rfl
  obtain ⟨r, hr, hpairs⟩ := exists_request_constantArguments hname
  obtain ⟨r', hr', hpairs'⟩ := exists_request_constantArguments hname'
  rw [hsame.requests e e' he he' _ _ hargs, hr', Except.ok.injEq] at hr
  rw [← hr, hpairs', hsplit, hsplit'] at hpairs
  have hkeys : (Token.Ident.plain x).text ≠ (⟨true, x⟩ : Token.Ident).text := fun heq =>
    rawText_ne x (congrArg String.toList heq)
  exact queryPairs_ne (p := ⟨.plain x, p.type, .query, isOption p.type⟩)
    (q := ⟨⟨true, x⟩, p.type, .query, isOption p.type⟩) rfl rfl (hname _ (by simp [hsplit]))
    (hname' _ (by simp [hsplit'])) hkeys hpairs.symm

/-- **A parameter may be written raw** without any difference exactly if its text is not used:
either neither declaration is accepted, or the name is not reserved, does not go into the query, and
no place in the path has it in either spelling. -/
theorem sameMeaning_respell_iff : SameMeaning v path m (respell m k) ↔
    (Accepts m v path ∨ Accepts (respell m k) v path →
      ¬"__refit".toList <+: x.toList ∧ hasMarker "query" p = false ∧
      x.toList ∉ (Path.Template.ofString path).placeholders ∧
      (rawText x).toList ∉ (Path.Template.ofString path).placeholders) := by
  constructor
  · intro hsame haccepts
    obtain ⟨hplain, hraw⟩ : Accepts m v path ∧ Accepts (respell m k) v path :=
      haccepts.elim (fun h => ⟨h, hsame.accepts.mp h⟩) fun h => ⟨hsame.accepts.mpr h, h⟩
    obtain ⟨hreserved, hrawPlace⟩ := h.of_accepts hplain
    refine ⟨hreserved, ?_, h.of_accepts_respell hraw, hrawPlace⟩
    by_contra hquery
    exact not_sameMeaning_of_query h hplain hraw (Bool.not_eq_false _ ▸ hquery) hsame
  · intro hunused
    by_cases haccepts : Accepts m v path ∨ Accepts (respell m k) v path
    · obtain ⟨hreserved, hquery, hplain, hraw⟩ := hunused haccepts
      exact sameMeaning_respell h hreserved hquery hplain hraw
    · obtain ⟨hrefused, hrefused'⟩ := not_or.mp haccepts
      exact ⟨iff_of_false hrefused hrefused', fun e _ he => (hrefused ⟨e, he⟩).elim,
        fun e _ he => (hrefused ⟨e, he⟩).elim⟩

end

/-- A parameter for the number of a note. -/
def numberParam (markers : List String) (name : String) : Param where
  attributes := markers.map fun m => ⟨false, notePath m none, .absent⟩
  pattern := .phrase .identPat [.ident (.plain name)]
  type := .phrase .pathType [notePath "u32" none]

/-- A method with a parameter for the number of a note. -/
def numberMethod (markers : List String) (name : String) : Method :=
  { attributes := []
    signature :=
      { isConst := false
        isAsync := true
        isUnsafe := false
        abi := none
        name := .plain "note"
        generics := none
        inputs := [.receiver ⟨[], some none, false, none⟩, .param (numberParam markers name)]
        trailingComma := false
        variadic := none
        output := some (.phrase .pathType
          [notePath "Result" (some (.phrase .pathType [notePath "String" none]))])
        whereClause := none }
    body := none }

/-- The parameter is the only one of its name. -/
theorem isNamed_numberMethod (markers : List String) (name : String)
    (hname : ((Token.Ident.plain name).is "ref" || (Token.Ident.plain name).is "mut") = false) :
    IsNamed (numberMethod markers name) 1 (numberParam markers name) name where
  entry := rfl
  name := by
    simp only [numberParam, patternName?, List.findSome?_cons, hname, Bool.false_eq_true, if_false]
  only := by
    rintro (_ | _ | j) q hj hq
    · cases hq
    · exact absurd rfl hj
    · cases hq

/-- A number that is sent as the body may be written raw. -/
theorem sameMeaning_numberMethod :
    IsNamed (numberMethod [] "number") 1 (numberParam [] "number") "number" ∧
    Accepts (numberMethod [] "number") .post "/notes" ∧
    Accepts (respell (numberMethod [] "number") 1) .post "/notes" ∧
    SameMeaning .post "/notes" (numberMethod [] "number")
      (respell (numberMethod [] "number") 1) := by
  have hnamed := isNamed_numberMethod [] "number" (by decide)
  exact ⟨hnamed, accepts_iff_isSome.mpr (by decide +kernel),
    accepts_iff_isSome.mpr (by decide +kernel),
    (sameMeaning_respell_iff hnamed).mpr fun _ => by decide +kernel⟩

/-- **A number in the path, in the query, or with a reserved name** may not be written raw. -/
theorem not_sameMeaning_numberMethod :
    ¬SameMeaning .get "/notes/\x7bid\x7d" (numberMethod [] "id")
      (respell (numberMethod [] "id") 1) ∧
    ¬SameMeaning .get "/notes" (numberMethod ["query"] "id")
      (respell (numberMethod ["query"] "id") 1) ∧
    ¬SameMeaning .get "/notes" (numberMethod [] "__refit_request")
      (respell (numberMethod [] "__refit_request") 1) := by
  refine ⟨fun hsame => ?_, ?_, fun hsame => ?_⟩
  · have hnamed := isNamed_numberMethod [] "id" (by decide)
    exact hnamed.of_accepts_respell (hsame.accepts.mp ⟨_, rfl⟩) (by decide +kernel)
  · have hnamed := isNamed_numberMethod ["query"] "id" (by decide)
    exact not_sameMeaning_of_query hnamed ⟨_, rfl⟩ ⟨_, rfl⟩ rfl
  · have hnamed := isNamed_numberMethod [] "__refit_request" (by decide)
    have haccepts : Accepts (respell (numberMethod [] "__refit_request") 1) .get "/notes" :=
      accepts_iff_isSome.mpr (by decide +kernel)
    exact (hnamed.of_accepts (hsame.accepts.mpr haccepts)).1 (by decide +kernel)

end RestLoom.Client
