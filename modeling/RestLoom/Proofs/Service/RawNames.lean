import RestLoom.Proofs.Service.Acceptance

/-!
# Proofs/Service/RawNames — parameters whose names are written raw

    fn note(&self, id: u32)  ──respell 1──▸  fn note(&self, r#id: u32)

The same name can be written plain or raw.  A declaration is read by the texts of its names, and the
text of a raw one begins with `r#`: so it is no longer reserved, and no longer that of the same
place in the path.  Nothing else about a declaration changes (`accepts_respell_iff`).
-/

namespace RestLoom.Service

open RestLoom.Token (Ident)
open RestLoom.Source
open RestLoom.Path (Template)

/-! ## Writing a name raw -/

/-- What is written for a name that is raw. -/
def rawText (x : String) : String := "r#" ++ x

theorem text_raw (x : String) : (⟨true, x⟩ : Ident).text = rawText x := rfl

theorem toList_rawText (x : String) : (rawText x).toList = 'r' :: '#' :: x.toList := by
  rw [rawText, String.toList_append]
  rfl

/-- A text stays another one than itself after `r#`. -/
theorem rawText_ne (x : String) : x.toList ≠ (rawText x).toList := by
  intro h
  have hlength := congrArg List.length h
  rw [toList_rawText, List.length_cons, List.length_cons] at hlength
  omega

/-- No raw name is reserved. -/
theorem not_reserved_rawText (x : String) : ¬"__refit".toList <+: (rawText x).toList := by
  rw [toList_rawText]
  rintro ⟨rest, h⟩
  cases h

/-- A part of a pattern, with a name written raw; the keywords stay as they are. -/
def rawPart : Node → Node
  | .ident i => .ident (if i.is "ref" || i.is "mut" then i else ⟨true, i.name⟩)
  | n => n

/-- A pattern that is a name, with the name written raw. -/
def rawPattern : Node → Node
  | .phrase .identPat ps => .phrase .identPat (ps.map rawPart)
  | n => n

/-- A parameter whose name is written raw. -/
def rawParam (p : Param) : Param := { p with pattern := rawPattern p.pattern }

/-- An entry of a parameter list whose name is written raw. -/
def rawInput : Input → Input
  | .param p => .param (rawParam p)
  | .receiver r => .receiver r

/-- **A method with one name written raw**: that of the entry at a position of its parameter
list. -/
def respell (m : Method) (k : Nat) : Method :=
  { m with signature := { m.signature with inputs := m.signature.inputs.modify k rawInput } }

/-- **The name of a pattern** is written raw, and still is a name. -/
theorem patternName?_rawPattern {n : Node} {x : String} (h : patternName? n = some (.plain x)) :
    patternName? (rawPattern n) = some ⟨true, x⟩ := by
  have hkeyword : ((⟨true, x⟩ : Ident).is "ref" || (⟨true, x⟩ : Ident).is "mut") = false := by
    simp [Ident.is, text_raw, ← String.toList_inj, toList_rawText]
  unfold patternName? at h
  split at h
  next ps =>
    rw [rawPattern, patternName?]
    induction ps with
    | nil => cases h
    | cons q qs ih =>
      rw [List.map_cons, List.findSome?_cons]
      rw [List.findSome?_cons] at h
      cases q with
      | ident i =>
        by_cases hi : (i.is "ref" || i.is "mut") = true
        · simp only [rawPart, hi, if_true] at h ⊢
          exact ih h
        · simp only [rawPart, hi, Bool.false_eq_true, if_false, Option.some.injEq] at h ⊢
          subst h
          simp only [Ident.plain, hkeyword, Bool.false_eq_true, if_false]
      | _ => exact ih h
  next => cases h

/-! ## One parameter -/

section
variable {p : Param} {x : String} (hname : patternName? p.pattern = some (.plain x))
include hname

theorem paramText?_of_plain : paramText? p = some x.toList := by
  rw [paramText?, hname]
  rfl

theorem paramText?_rawParam : paramText? (rawParam p) = some (rawText x).toList := by
  rw [paramText?, rawParam, patternName?_rawPattern hname]
  rfl

/-- **A parameter whose name is not reserved** keeps the rules in both spellings. -/
theorem lawfulParam_rawParam (hreserved : ¬"__refit".toList <+: x.toList) :
    LawfulParam (rawParam p) ↔ LawfulParam p :=
  ⟨fun h => ⟨⟨_, hname, hreserved⟩, h.markers_le, h.bare, h.token⟩,
    fun h => ⟨⟨_, patternName?_rawPattern hname, not_reserved_rawText x⟩, h.markers_le, h.bare,
      h.token⟩⟩

theorem LawfulParam.not_reserved (h : LawfulParam p) : ¬"__refit".toList <+: x.toList := by
  obtain ⟨i, hi, hstart⟩ := h.named
  cases hname.symm.trans hi
  exact hstart

variable {template : Template} (hplain : x.toList ∉ template.placeholders)
  (hraw : (rawText x).toList ∉ template.placeholders)
include hplain hraw

/-- A name that no place has in either spelling fills none. -/
theorem paramText?_ne_place {place : List Char} (hplace : place ∈ template.placeholders) :
    paramText? p ≠ some place ∧ paramText? (rawParam p) ≠ some place := by
  rw [paramText?_of_plain hname, paramText?_rawParam hname]
  constructor
  · rintro ⟨⟩
    exact hplain hplace
  · rintro ⟨⟩
    exact hraw hplace

theorem isUnbound_rawParam : IsUnbound template (rawParam p) ↔ IsUnbound template p :=
  and_congr_right fun _ => forall₂_congr fun _ hplace =>
    have ⟨hp, hp'⟩ := paramText?_ne_place hname hplain hraw hplace
    iff_of_true hp' hp

/-- **The role of a parameter** that fills no place is the same in both spellings. -/
theorem documentedRole_rawParam :
    documentedRole template (rawParam p) = documentedRole template p := by
  have hnone (q : Param) (hq : ∀ place ∈ template.placeholders, paramText? q ≠ some place) :
      ¬∃ name ∈ template.placeholders, paramText? q = some name := fun ⟨name, hmem, heq⟩ =>
    hq name hmem heq
  rw [documentedRole, documentedRole,
    if_neg (hnone p fun _ h => (paramText?_ne_place hname hplain hraw h).1),
    if_neg (hnone (rawParam p) fun _ h => (paramText?_ne_place hname hplain hraw h).2)]
  rfl

/-- **A parameter that fills no place** and is not marked for the query has another role. -/
theorem documentedRole_ne_of_unmarked (hquery : hasMarker "query" p = false) :
    documentedRole template p ≠ .path ∧ documentedRole template p ≠ .query := by
  constructor
  · intro hrole
    obtain ⟨-, place, hplace, htext⟩ := documentedRole_eq_path.mp hrole
    exact (paramText?_ne_place hname hplain hraw hplace).1 htext
  · rw [documentedRole, hquery, if_neg Bool.false_ne_true]
    split
    next => exact Role.noConfusion
    next =>
      split
      next => exact Role.noConfusion
      next => split <;> exact Role.noConfusion

/-! ## The parameters of an endpoint -/

/-- **The rules of all parameters** hold in both spellings of one that is not reserved and fills no
place. -/
theorem lawfulParams_rawParam (hreserved : ¬"__refit".toList <+: x.toList)
    {before after : List Param} :
    LawfulParams template (before ++ rawParam p :: after) ↔
      LawfulParams template (before ++ p :: after) := by
  have heach : (∀ q ∈ before ++ rawParam p :: after, LawfulParam q) ↔
      ∀ q ∈ before ++ p :: after, LawfulParam q := by
    simp only [List.forall_mem_append, List.forall_mem_cons, lawfulParam_rawParam hname hreserved]
  have hbodies : ((before ++ rawParam p :: after).filter (hasMarker "body")).length =
      ((before ++ p :: after).filter (hasMarker "body")).length := by
    have hmarker : hasMarker "body" (rawParam p) = hasMarker "body" p := rfl
    simp only [List.filter_append, List.filter_cons, hmarker, List.length_append]
    split <;> rfl
  have hunbound : ((before ++ rawParam p :: after).filter fun q => IsUnbound template q).length =
      ((before ++ p :: after).filter fun q => IsUnbound template q).length := by
    simp only [List.filter_append, List.filter_cons, List.length_append, decide_eq_true_iff,
      isUnbound_rawParam hname hplain hraw]
    split <;> rfl
  have hany : (before ++ rawParam p :: after).any (hasMarker "body") =
      (before ++ p :: after).any (hasMarker "body") := by
    rw [List.any_append, List.any_append, List.any_cons, List.any_cons]
    rfl
  have hplaces : (∀ place ∈ template.placeholders, ∃ q ∈ before ++ rawParam p :: after,
        IsOpen q ∧ paramText? q = some place) ↔
      ∀ place ∈ template.placeholders, ∃ q ∈ before ++ p :: after,
        IsOpen q ∧ paramText? q = some place :=
    forall₂_congr fun place hplace => by
      obtain ⟨hp, hp'⟩ := paramText?_ne_place hname hplain hraw hplace
      simp only [List.mem_append, List.mem_cons, or_and_right, exists_or, exists_eq_left, hp, hp',
        and_false, false_or]
  constructor
  · rintro ⟨h₁, h₂, h₃, h₄⟩
    exact ⟨heach.mp h₁, hbodies ▸ h₂, hunbound ▸ hany ▸ h₃, hplaces.mp h₄⟩
  · rintro ⟨h₁, h₂, h₃, h₄⟩
    exact ⟨heach.mpr h₁, hbodies ▸ h₂, hunbound ▸ hany ▸ h₃, hplaces.mpr h₄⟩

end

/-- A place has to be the text of some parameter. -/
theorem LawfulParams.not_mem_placeholders {template : Template} {ps : List Param}
    (h : LawfulParams template ps) {place : List Char}
    (hnone : ∀ q ∈ ps, paramText? q ≠ some place) : place ∉ template.placeholders := by
  intro hplace
  obtain ⟨q, hq, -, htext⟩ := h.places place hplace
  exact hnone q hq htext

/-! ## One parameter of a method -/

/-- The parameters of a parameter list that are no receiver. -/
def paramsOf (is : List Input) : List Param :=
  is.filterMap fun
    | .param p => some p
    | .receiver _ => none

theorem params_eq_paramsOf (s : Signature) : s.params = paramsOf s.inputs := rfl

theorem paramsOf_append (is js : List Input) : paramsOf (is ++ js) = paramsOf is ++ paramsOf js :=
  List.filterMap_append

theorem mem_paramsOf {is : List Input} {p : Param} : p ∈ paramsOf is ↔ .param p ∈ is := by
  rw [paramsOf, List.mem_filterMap]
  constructor
  · rintro ⟨i, hi, heq⟩
    cases i with
    | param q =>
      cases heq
      exact hi
    | receiver r => cases heq
  · exact fun hp => ⟨_, hp, rfl⟩

/-- **A parameter of a method with a plain name**, which no other parameter has in either
spelling. -/
structure IsNamed (m : Method) (k : Nat) (p : Param) (x : String) : Prop where
  entry : m.signature.inputs[k]? = some (.param p)
  name : patternName? p.pattern = some (.plain x)
  only : ∀ j q, j ≠ k → m.signature.inputs[j]? = some (.param q) →
    paramText? q ≠ some x.toList ∧ paramText? q ≠ some (rawText x).toList

/-- A method that is accepted as an endpoint. -/
def Accepts (m : Method) (v : Verb) (path : String) : Prop :=
  ∃ e, extractEndpoint m v path = .ok e

theorem accepts_iff_isSome {m : Method} {v : Verb} {path : String} :
    Accepts m v path ↔ (extractEndpoint m v path).toOption.isSome = true :=
  Outcome.exists_iff_isSome

theorem accepts_iff {m : Method} {v : Verb} {path : String} :
    Accepts m v path ↔ takesSharedSelf m.signature = true ∧
      LawfulParams (.ofString path) m.signature.params ∧ ∃ value, valueOf m.signature = .ok value := by
  simp only [Accepts, extractEndpoint_eq_ok_iff]
  constructor
  · rintro ⟨e, hself, hlawful, value, hvalue, -⟩
    exact ⟨hself, hlawful, value, hvalue⟩
  · rintro ⟨hself, hlawful, value, hvalue⟩
    exact ⟨_, hself, hlawful, value, hvalue, rfl⟩

namespace IsNamed

variable {m : Method} {k : Nat} {p : Param} {x : String} (h : IsNamed m k p x)
include h

/-- The parameters around a named one, among which its name is not. -/
theorem exists_params : ∃ before after, m.signature.params = before ++ p :: after ∧
    (respell m k).signature.params = before ++ rawParam p :: after ∧
    ∀ q ∈ before ++ after,
      paramText? q ≠ some x.toList ∧ paramText? q ≠ some (rawText x).toList := by
  obtain ⟨hk, -⟩ := List.getElem?_eq_some_iff.mp h.entry
  obtain ⟨is, i, js, hinputs, hlength, hmodify⟩ := List.exists_of_modify rawInput hk
  have hentry := h.entry
  rw [hinputs, ← hlength, List.getElem?_append_right (Nat.le_refl _), Nat.sub_self] at hentry
  cases hentry
  refine ⟨paramsOf is, paramsOf js, ?_, ?_, fun q hq => ?_⟩
  · rw [params_eq_paramsOf, hinputs, paramsOf_append]
    rfl
  · rw [params_eq_paramsOf, respell, hmodify, paramsOf_append]
    rfl
  · rw [← paramsOf_append, mem_paramsOf, List.mem_append] at hq
    obtain hq | hq := hq
    · obtain ⟨j, hj, hget⟩ := List.getElem_of_mem hq
      refine h.only j q (by omega) ?_
      rw [hinputs, List.getElem?_append_left hj, List.getElem?_eq_getElem hj, hget]
    · obtain ⟨j, hj, hget⟩ := List.getElem_of_mem hq
      refine h.only (is.length + (j + 1)) q (by omega) ?_
      rw [hinputs, List.getElem?_append_right (Nat.le_add_right _ _), Nat.add_sub_cancel_left,
        List.getElem?_cons_succ, List.getElem?_eq_getElem hj, hget]

/-- The object and the result of a method do not depend on how a parameter is written. -/
theorem takesSharedSelf_respell :
    takesSharedSelf (respell m k).signature = takesSharedSelf m.signature := by
  have hentry := h.entry
  unfold takesSharedSelf Signature.receiver? respell
  cases hinputs : m.signature.inputs with
  | nil =>
    rw [hinputs] at hentry
    cases hentry
  | cons i is =>
    cases k with
    | zero =>
      rw [hinputs, List.getElem?_cons_zero, Option.some.injEq] at hentry
      subst hentry
      rfl
    | succ k => cases i <;> rfl

variable {v : Verb} {path : String}

/-- **A method is accepted in both spellings or in none**, if the name is not reserved and no place
in the path has it. -/
theorem accepts_respell_iff (hreserved : ¬"__refit".toList <+: x.toList)
    (hplain : x.toList ∉ (Template.ofString path).placeholders)
    (hraw : (rawText x).toList ∉ (Template.ofString path).placeholders) :
    Accepts (respell m k) v path ↔ Accepts m v path := by
  obtain ⟨before, after, hparams, hparams', -⟩ := h.exists_params
  rw [accepts_iff, accepts_iff, h.takesSharedSelf_respell, hparams, hparams',
    lawfulParams_rawParam h.name hplain hraw hreserved]
  rfl

/-- **With the plain name**, a method that is accepted does not reserve it, and no place in the path
has the raw one. -/
theorem of_accepts (haccepts : Accepts m v path) : ¬"__refit".toList <+: x.toList ∧
    (rawText x).toList ∉ (Template.ofString path).placeholders := by
  obtain ⟨before, after, hparams, -, hothers⟩ := h.exists_params
  obtain ⟨-, hlawful, -⟩ := accepts_iff.mp haccepts
  rw [hparams] at hlawful
  have hp := hlawful.each p (List.mem_append_right _ List.mem_cons_self)
  refine ⟨hp.not_reserved h.name, hlawful.not_mem_placeholders fun q hq => ?_⟩
  obtain hq | rfl | hq := by simpa only [List.mem_append, List.mem_cons] using hq
  · exact (hothers q (List.mem_append_left _ hq)).2
  · rw [paramText?_of_plain h.name, ne_eq, Option.some.injEq]
    exact rawText_ne x
  · exact (hothers q (List.mem_append_right _ hq)).2

/-- **With the raw name**, no place in the path of a method that is accepted has the plain one. -/
theorem of_accepts_respell (haccepts : Accepts (respell m k) v path) :
    x.toList ∉ (Template.ofString path).placeholders := by
  obtain ⟨before, after, -, hparams', hothers⟩ := h.exists_params
  obtain ⟨-, hlawful, -⟩ := accepts_iff.mp haccepts
  rw [hparams'] at hlawful
  refine hlawful.not_mem_placeholders fun q hq => ?_
  obtain hq | rfl | hq := by simpa only [List.mem_append, List.mem_cons] using hq
  · exact (hothers q (List.mem_append_left _ hq)).1
  · rw [paramText?_rawParam h.name, ne_eq, Option.some.injEq]
    exact (rawText_ne x).symm
  · exact (hothers q (List.mem_append_right _ hq)).1

end IsNamed

end RestLoom.Service
