import RestLoom.Proofs.Outcome
import RestLoom.Proofs.Service.Rules

/-!
# Proofs/Service/Acceptance — a trait is accepted exactly when it keeps the rules

    extract t url = ok s  ↔  t is lawful and s is the service it documents

Reading goes through the parameters once, with a flag for a body already seen, and counts the
leftovers afterwards.  `bindParams_eq_ok` says what one pass accepts whatever the flag is; the
counts of the rules come out of it by `checkBody_eq_ok` and `checkPlaces_eq_ok`.
-/

namespace RestLoom.Service

open RestLoom.Token (Ident)
open RestLoom.Source
open RestLoom.Outcome

/-! ## Verbs -/

theorem ofMarker?_eq_some {text : String} {v : Verb} :
    Verb.ofMarker? text = some v ↔ v.marker = text := by
  constructor
  · intro h
    simpa using List.find?_some h
  · rintro rfl
    exact Verb.ofMarker?_marker v

/-- The verb of an attribute is the one it is named after. -/
theorem verbOf?_eq_some {a : Attribute} {v : Verb} :
    verbOf? a = some v ↔ a.isNamed v.marker = true := by
  unfold verbOf? Attribute.isNamed isPathIdent
  cases pathIdent? a.path with
  | none => simp
  | some i =>
    rw [Option.bind_some, ofMarker?_eq_some, Option.any_some, Ident.is, beq_iff_eq]
    exact eq_comm

theorem verbOf?_eq_find (a : Attribute) :
    verbOf? a = Verb.all.find? fun v => a.isNamed v.marker := by
  cases h : Verb.all.find? fun v => a.isNamed v.marker with
  | some v => exact verbOf?_eq_some.mpr (List.find?_some (p := fun v : Verb => a.isNamed v.marker) h)
  | none =>
    rw [Option.eq_none_iff_forall_ne_some]
    intro v hv
    have hmem : v ∈ Verb.all := by cases v <;> decide
    exact List.find?_eq_none.mp h v hmem (verbOf?_eq_some.mp hv)

theorem verbMarkers_cons (a : Attribute) (as : List Attribute) :
    verbMarkers (a :: as) = if (verbOf? a).isSome then a :: verbMarkers as else verbMarkers as := by
  have h : (Verb.all.any fun v => a.isNamed v.marker) = (verbOf? a).isSome := by
    rw [verbOf?_eq_find, Bool.eq_iff_iff, List.any_eq_true, List.find?_isSome]
  simp only [verbMarkers, List.filter_cons, h]

theorem isSome_verbOf?_of_mem {a : Attribute} {as : List Attribute} (h : a ∈ verbMarkers as) :
    (verbOf? a).isSome = true := by
  rw [verbOf?_eq_find, List.find?_isSome]
  exact List.any_eq_true.mp (List.mem_filter.mp h).2

/-! ## The path of a verb -/

/-- A literal is read if it is a string. -/
theorem run_stringLiteral (text : String) (rest : List Token) (s : ReadState) :
    stringLiteral.run { s with ahead := .literal text :: rest } =
      if Token.isString text then .ok (text, { s with ahead := rest })
      else .error (.refused "expected string literal") := by
  -- both the choice before the reading and the reading itself look at the literal
  change (if Token.isString text = true then string else _ : Reader String).run _ = _
  by_cases h : Token.isString text = true
  · rw [if_pos h, if_pos h]
    change (if Token.isString text = true then _ else _ : Reader String).run _ = _
    rw [if_pos h]
    rfl
  · rw [if_neg h, if_neg h]
    rfl

/-- **A single string** is what the arguments of a verb may be. -/
theorem readAll_stringLiteral {ts : List Token} {text : String} :
    readAll stringLiteral ts = .ok text ↔
      ts = [.literal text] ∧ Token.isString text = true := by
  have refused (t : Token) (rest : List Token) (ht : ∀ l, t ≠ .literal l) :
      readAll stringLiteral (t :: rest) = .error (.refused "expected string literal") := by
    cases t with
    | literal l => exact absurd rfl (ht l)
    | ident i => rfl
    | punct c p => rfl
    | group d inner => rfl
  match ts with
  | [] =>
    have h : readAll stringLiteral [] =
      .error (.refused "unexpected end of input, expected string literal") := rfl
    simp [h]
  | .literal t :: rest =>
    rw [readAll, run_stringLiteral t rest ⟨[], none, none⟩]
    by_cases h : Token.isString t = true
    · cases rest with
      | nil =>
        simp only [h, if_true, List.isEmpty_nil, Except.ok.injEq, List.cons.injEq,
          Token.literal.injEq, and_true]
        exact ⟨fun e => ⟨e, e ▸ h⟩, And.left⟩
      | cons u us => simp [h]
    · simp only [h, if_false, reduceCtorEq, false_iff, List.cons.injEq, Token.literal.injEq]
      rintro ⟨⟨rfl, -⟩, hs⟩
      exact h hs
  | .ident i :: rest => simp [refused (.ident i)]
  | .punct c p :: rest => simp [refused (.punct c p)]
  | .group d inner :: rest => simp [refused (.group d inner)]

theorem readVerbPath_eq_ok {v : Verb} {arguments : Arguments} {path : String} :
    readVerbPath v arguments = .ok path ↔
      IsPathArgument arguments ∧ path = declaredPath arguments := by
  cases arguments with
  | absent =>
    simp only [readVerbPath, IsPathArgument, declaredPath, Except.ok.injEq, true_or, true_and]
    exact eq_comm
  | list d ts =>
    have hread : (∃ text, readAll stringLiteral ts = .ok text) ↔
        IsPathArgument (.list d ts) := by
      simp [readAll_stringLiteral, IsPathArgument]
    cases h : readAll stringLiteral ts with
    | error e =>
      simp only [readVerbPath, h, reduceCtorEq, false_iff, ← hread, not_and, exists_false,
        IsEmpty.forall_iff]
    | ok text =>
      obtain ⟨rfl, -⟩ := readAll_stringLiteral.mp h
      simp only [readVerbPath, h, Except.ok.injEq, ← hread, declaredPath, exists_eq', true_and]
      exact eq_comm
  | value n => simp [readVerbPath, IsPathArgument]

/-! ## The marker of a method -/

/-- After a marker, no further one is accepted. -/
theorem readVerbFrom_some_eq_ok {found : Verb × String} {as : List Attribute}
    {r : Option (Verb × String)} :
    readVerbFrom (some found) as = .ok r ↔ verbMarkers as = [] ∧ r = some found := by
  induction as with
  | nil => simp [readVerbFrom, verbMarkers, eq_comm]
  | cons a as ih =>
    rw [readVerbFrom, verbMarkers_cons]
    cases verbOf? a with
    | none => simpa using ih
    | some v => simp

/-- **The verb of a method** is that of its only marker, whose arguments spell a path. -/
theorem readVerb_eq_ok {as : List Attribute} {r : Option (Verb × String)} :
    readVerb as = .ok r ↔ (verbMarkers as = [] ∧ r = none) ∨
      ∃ a v, verbMarkers as = [a] ∧ verbOf? a = some v ∧ IsPathArgument a.arguments ∧
        r = some (v, declaredPath a.arguments) := by
  unfold readVerb
  induction as with
  | nil => simp [readVerbFrom, verbMarkers, eq_comm (a := r)]
  | cons a as ih =>
    rw [readVerbFrom, verbMarkers_cons]
    cases hv : verbOf? a with
    | none => simpa using ih
    | some v =>
      simp only [Option.isSome_none, Bool.false_eq_true, if_false, Option.isSome_some, if_true,
        reduceCtorEq, false_and, false_or, List.cons.injEq]
      cases hp : readVerbPath v a.arguments with
      | error e =>
        have hbad : ¬ IsPathArgument a.arguments := fun h =>
          nomatch hp.symm.trans (readVerbPath_eq_ok.mpr ⟨h, rfl⟩)
        simp only [reduceCtorEq, false_iff]
        rintro ⟨b, w, ⟨rfl, -⟩, -, h, -⟩
        exact hbad h
      | ok path =>
        obtain ⟨hgood, rfl⟩ := readVerbPath_eq_ok.mp hp
        rw [readVerbFrom_some_eq_ok]
        constructor
        · rintro ⟨hnil, rfl⟩
          exact ⟨a, v, ⟨rfl, hnil⟩, hv, hgood, rfl⟩
        · rintro ⟨b, w, ⟨rfl, hnil⟩, hw, -, rfl⟩
          cases hv.symm.trans hw
          exact ⟨hnil, rfl⟩

/-! ## The mark of a parameter -/

theorem paramMarkers_eq_filter (p : Param) :
    paramMarkers p = p.attributes.filter fun a => (markOf? a).isSome := by
  refine List.filter_congr fun a _ => ?_
  unfold markOf?
  cases a.isNamed "query" <;> cases a.isNamed "body" <;> rfl

/-- **The mark of a parameter** is that of its only marker, which has no arguments.  A mark found
before counts as one more marker. -/
theorem readMarkFrom_eq_ok {found : Option Mark} {as : List Attribute} {r : Option Mark} :
    readMarkFrom found as = .ok r ↔
      (∀ a ∈ as.filter fun a => (markOf? a).isSome, a.arguments = .absent) ∧
      found.toList.length + (as.filter fun a => (markOf? a).isSome).length ≤ 1 ∧
      r = found.or ((as.filter fun a => (markOf? a).isSome).head?.bind markOf?) := by
  induction as generalizing found with
  | nil => cases found <;> simp [readMarkFrom, eq_comm (a := r)]
  | cons a as ih =>
    rw [readMarkFrom, List.filter_cons]
    cases hm : markOf? a with
    | none => simpa [hm] using ih
    | some m =>
      simp only [Option.isSome_some, if_true, List.mem_cons, forall_eq_or_imp, List.length_cons,
        List.head?_cons, Option.bind_some, hm]
      cases ha : a.arguments with
      | absent =>
        cases found with
        | some f =>
          simp only [Option.isSome_some, if_true, reduceCtorEq, Option.toList_some,
            List.length_singleton, false_iff]
          rintro ⟨-, hle, -⟩
          omega
        | none =>
          simp only [Option.isSome_none, Bool.false_eq_true, if_false, ih, true_and,
            Option.toList_some, List.length_singleton, Option.toList_none, List.length_nil,
            Option.some_or, Option.none_or]
          rw [Nat.zero_add, Nat.add_comm]
      | list d ts => simp
      | value n => simp

theorem readMark_eq_ok {p : Param} {r : Option Mark} :
    readMark p.attributes = .ok r ↔
      (∀ a ∈ paramMarkers p, a.arguments = .absent) ∧ (paramMarkers p).length ≤ 1 ∧
        r = (paramMarkers p).head?.bind markOf? := by
  rw [readMark, readMarkFrom_eq_ok, paramMarkers_eq_filter]
  simp

/-- A parameter has a marker of a name if one of its markers has it. -/
theorem hasMarker_eq_any {text : String} (h : text = "query" ∨ text = "body") (p : Param) :
    hasMarker text p = (paramMarkers p).any (·.isNamed text) := by
  rw [paramMarkers, List.any_filter, hasMarker]
  refine congrArg (p.attributes.any ·) (funext fun a => ?_)
  rcases h with rfl | rfl <;> simp +contextual

/-- An attribute has one name. -/
theorem not_isNamed_body_of_query {a : Attribute} (h : a.isNamed "query" = true) :
    a.isNamed "body" = false := by
  unfold Attribute.isNamed isPathIdent at *
  cases hi : pathIdent? a.path with
  | none => simp [hi] at h
  | some i =>
    simp only [hi, Option.any_some, Ident.is, beq_iff_eq] at h
    simp [Ident.is, h]

/-- **A marker marks what it is named after.** -/
theorem mark_of_paramMarkers {p : Param} {m : Mark} (hle : (paramMarkers p).length ≤ 1)
    (hm : (paramMarkers p).head?.bind markOf? = some m) :
    hasMarker "query" p = decide (m = .query) ∧ hasMarker "body" p = decide (m = .body) := by
  rw [hasMarker_eq_any (.inl rfl), hasMarker_eq_any (.inr rfl)]
  match hms : paramMarkers p with
  | [] => simp [hms] at hm
  | [a] =>
    simp only [hms, List.head?_cons, Option.bind_some] at hm
    simp only [List.any_cons, List.any_nil, Bool.or_false]
    unfold markOf? at hm
    by_cases hq : a.isNamed "query" = true
    · rw [if_pos hq] at hm
      cases hm
      simp [hq, not_isNamed_body_of_query hq]
    · rw [if_neg hq] at hm
      by_cases hb : a.isNamed "body" = true
      · rw [if_pos hb] at hm
        cases hm
        simp [hq, hb]
      · simp [hb] at hm
  | _ :: _ :: _ => simp [hms] at hle

/-- Without a mark there is no marker. -/
theorem paramMarkers_eq_nil_of_mark {p : Param}
    (hm : (paramMarkers p).head?.bind markOf? = none) : paramMarkers p = [] := by
  rw [paramMarkers_eq_filter] at hm ⊢
  match hms : p.attributes.filter fun a => (markOf? a).isSome with
  | [] => rfl
  | a :: as =>
    have ha : a ∈ p.attributes.filter fun a => (markOf? a).isSome := by simp [hms]
    rw [hms, List.head?_cons, Option.bind_some] at hm
    simp [hm] at ha

/-! ## Parameters -/

/-- How a lawful parameter comes to its role. -/
def documentedBinding (template : Path.Template) (p : Param) : Binding :=
  if hasMarker "body" p then .markedBody
  else if IsUnbound template p then .candidate
  else .bound

theorem hasPlaceholder_iff {template : Path.Template} {place : List Char} :
    template.hasPlaceholder place = true ↔ place ∈ template.placeholders := by
  rw [Path.Template.hasPlaceholder, List.contains_iff_mem]

/-- The role of a parameter with that name, its mark being right. -/
theorem roleOf_eq_ok {template : Path.Template} {seen : Bool} {p : Param} {name : Ident}
    {r : Role × Binding} (hname : patternName? p.pattern = some name)
    (hle : (paramMarkers p).length ≤ 1) :
    roleOf template seen name (isToken p.type) ((paramMarkers p).head?.bind markOf?) = .ok r ↔
      (IsTokenType p.type → paramMarkers p = []) ∧
      (hasMarker "body" p = true → seen = false) ∧
      r = (documentedRole template p, documentedBinding template p) := by
  have hplace : (∃ place ∈ template.placeholders, paramText? p = some place) ↔
      template.hasPlaceholder name.text.toList = true := by
    simp [hasPlaceholder_iff, paramText?, hname]
  cases hm : (paramMarkers p).head?.bind markOf? with
  | none =>
    have hnil := paramMarkers_eq_nil_of_mark hm
    have hq : hasMarker "query" p = false := by rw [hasMarker_eq_any (.inl rfl), hnil]; rfl
    have hb : hasMarker "body" p = false := by rw [hasMarker_eq_any (.inr rfl), hnil]; rfl
    by_cases ht : IsTokenType p.type
    · simp [roleOf, isToken_iff.mpr ht, hnil, documentedRole, documentedBinding, IsUnbound, IsOpen,
        hq, hb, ht, eq_comm (a := r)]
    · have hf : isToken p.type = false := Bool.eq_false_iff.mpr (mt isToken_iff.mp ht)
      by_cases hp : template.hasPlaceholder name.text.toList = true
      · have hbound : ¬ IsUnbound template p := fun h => by
          obtain ⟨place, hmem, htext⟩ := hplace.mpr hp
          exact h.2 place hmem htext
        simp [roleOf, hf, hnil, documentedRole, documentedBinding, hq, hb, ht, hp, hplace, hbound,
          eq_comm (a := r)]
      · have hfree : IsUnbound template p :=
          ⟨⟨hnil, ht⟩, fun place hmem htext => hp (hplace.mp ⟨place, hmem, htext⟩)⟩
        simp [roleOf, hf, hnil, documentedRole, documentedBinding, hq, hb, ht, hp, hplace, hfree,
          eq_comm (a := r)]
  | some m =>
    obtain ⟨hq, hb⟩ := mark_of_paramMarkers hle hm
    have hne : paramMarkers p ≠ [] := by
      rintro h
      simp [h] at hm
    have hopen : ¬ IsUnbound template p := fun h => hne h.1.1
    by_cases ht : IsTokenType p.type
    · simp [roleOf, isToken_iff.mpr ht, hne, ht]
    · have hf : isToken p.type = false := Bool.eq_false_iff.mpr (mt isToken_iff.mp ht)
      cases m with
      | query =>
        simp [roleOf, hf, ht, documentedRole, documentedBinding, hq, hb, hopen, eq_comm (a := r)]
      | body =>
        cases seen with
        | false =>
          simp [roleOf, hf, ht, documentedRole, documentedBinding, hq, hb, eq_comm (a := r)]
        | true => simp [roleOf, hf, hb]

theorem isReserved_iff {name : Ident} :
    isReserved name = true ↔ "__refit".toList <+: name.text.toList :=
  String.startsWith_string_iff

/-- **One parameter** is accepted if it is lawful and no second body. -/
theorem bindParam_eq_ok {template : Path.Template} {seen : Bool} {p : Param}
    {b : Parameter × Binding} :
    bindParam template seen p = .ok b ↔
      LawfulParam p ∧ (hasMarker "body" p = true → seen = false) ∧
        documentedParam? template p = some b.1 ∧ b.2 = documentedBinding template p := by
  unfold bindParam
  cases hname : patternName? p.pattern with
  | none =>
    simp [documentedParam?, hname]
  | some name =>
    by_cases hres : isReserved name = true
    · have hbad : ¬ LawfulParam p := by
        rintro ⟨⟨i, hi, hstart⟩, -, -, -⟩
        cases hname.symm.trans hi
        exact hstart (isReserved_iff.mp hres)
      simp [hres, hbad]
    · simp only [hres, Bool.false_eq_true, if_false, bind_eq_ok, readMark_eq_ok, pure_eq_ok,
        Prod.exists]
      constructor
      · rintro ⟨m, ⟨hbare, hle, rfl⟩, role, binding, hrole, rfl⟩
        obtain ⟨htok, hseen, heq⟩ := (roleOf_eq_ok hname hle).mp hrole
        cases heq
        exact ⟨⟨⟨name, hname, mt isReserved_iff.mpr hres⟩, hle, hbare, htok⟩, hseen,
          by simp [documentedParam?, hname], rfl⟩
      · rintro ⟨⟨-, hle, hbare, htok⟩, hseen, hdoc, hbind⟩
        refine ⟨_, ⟨hbare, hle, rfl⟩, documentedRole template p, documentedBinding template p,
          (roleOf_eq_ok hname hle).mpr ⟨htok, hseen, rfl⟩, ?_⟩
        rw [documentedParam?, hname, Option.map_some, Option.some.injEq] at hdoc
        rw [hdoc, ← hbind]

/-- **One pass over the parameters** accepts lawful ones among which there is one body at most,
counting a body seen before. -/
theorem bindParams_eq_ok {template : Path.Template} {seen : Bool} {ps : List Param}
    {bs : List (Parameter × Binding)} :
    bindParams template seen ps = .ok bs ↔
      (∀ p ∈ ps, LawfulParam p) ∧ seen.toNat + (ps.filter (hasMarker "body")).length ≤ 1 ∧
        List.Forall₂ (fun p b => documentedParam? template p = some b.1 ∧
          b.2 = documentedBinding template p) ps bs := by
  induction ps generalizing seen bs with
  | nil =>
    rw [List.forall₂_nil_left_iff, bindParams, Except.ok.injEq, eq_comm]
    cases seen <;> simp
  | cons p ps ih =>
    -- the flag after `p` and the count with `p` grow together
    have hcount (b : Binding) (hb : b = documentedBinding template p) :
        (hasMarker "body" p = true → seen = false) ∧
          (seen || decide (b = .markedBody)).toNat + (ps.filter (hasMarker "body")).length ≤ 1 ↔
        seen.toNat + ((p :: ps).filter (hasMarker "body")).length ≤ 1 := by
      subst hb
      rw [List.filter_cons, documentedBinding]
      cases hasMarker "body" p with
      | false => by_cases hu : IsUnbound template p <;> simp [hu]
      | true =>
        cases seen with
        | false => simp [Nat.add_comm]
        | true => simp
    simp only [bindParams, bind_eq_ok, pure_eq_ok, bindParam_eq_ok, ih, List.forall₂_cons_left_iff,
      List.forall_mem_cons]
    constructor
    · rintro ⟨b, ⟨hp, hseen, hdoc, hb⟩, bs, ⟨hps, hle, hbs⟩, rfl⟩
      exact ⟨⟨hp, hps⟩, (hcount b.2 hb).mp ⟨hseen, hle⟩, b, bs, ⟨hdoc, hb⟩, hbs, rfl⟩
    · rintro ⟨⟨hp, hps⟩, hle, b, bs, ⟨hdoc, hb⟩, hbs, rfl⟩
      obtain ⟨hseen, hle⟩ := (hcount b.2 hb).mpr hle
      exact ⟨b, ⟨hp, hseen, hdoc, hb⟩, bs, ⟨hps, hle, hbs⟩, rfl⟩

/-! ## The checks over all parameters -/

/-- No parameter may be left over beside a marked body, and one at most without. -/
theorem checkBody_eq_ok {bs : List (Parameter × Binding)} :
    checkBody bs = .ok () ↔
      (bs.filter fun b => b.2 = .candidate).length ≤
        if bs.any fun b => b.2 = .markedBody then 0 else 1 := by
  have hlen : ((bs.filter fun b => b.2 = .candidate).map fun b => b.1.name).length =
      (bs.filter fun b => b.2 = .candidate).length := List.length_map _
  rw [← hlen, checkBody]
  generalize (bs.filter fun b => b.2 = .candidate).map (fun b => b.1.name) = candidates
  cases bs.any fun b => b.2 = .markedBody with
  | true => cases candidates <;> simp
  | false =>
    match candidates with
    | [] => simp
    | [_] => simp
    | _ :: _ :: _ => simp

/-- Each place has a parameter in the role of the path. -/
theorem checkPlaces_eq_ok {template : Path.Template} {params : List Parameter} :
    checkPlaces template params = .ok () ↔
      ∀ place ∈ template.placeholders, ∃ q ∈ params, q.role = .path ∧
        q.name.text.toList = place := by
  have hfind : checkPlaces template params = .ok () ↔
      template.placeholders.find? (fun place =>
        !params.any fun q => decide (q.role = .path) && q.name.text.toList == place) = none := by
    unfold checkPlaces
    dsimp only
    split
    next place h => simp [h]
    next h => simp [h]
  rw [hfind]
  simp

/-! ## Lawful parameters -/

/-- The markers of a parameter are those of the two names. -/
theorem paramMarkers_eq_nil_iff {p : Param} :
    paramMarkers p = [] ↔ hasMarker "query" p = false ∧ hasMarker "body" p = false := by
  simp only [paramMarkers, hasMarker, List.filter_eq_nil_iff, List.any_eq_false, Bool.or_eq_true,
    not_or, ← forall₂_and]

theorem documentedBinding_eq_candidate {template : Path.Template} {p : Param} :
    documentedBinding template p = .candidate ↔ IsUnbound template p := by
  unfold documentedBinding
  split
  next h =>
    have hbound : ¬ IsUnbound template p := fun hu =>
      Bool.false_ne_true ((paramMarkers_eq_nil_iff.mp hu.1.1).2.symm.trans h)
    simp [hbound]
  next =>
    split
    next h => simp [h]
    next h => simp [h]

theorem documentedBinding_eq_markedBody {template : Path.Template} {p : Param} :
    documentedBinding template p = .markedBody ↔ hasMarker "body" p = true := by
  unfold documentedBinding
  split
  next h => simp [h]
  next h => split <;> simp [h]

/-- **The role of the path** is that of an open parameter named after a place. -/
theorem documentedRole_eq_path {template : Path.Template} {p : Param} :
    documentedRole template p = .path ↔
      IsOpen p ∧ ∃ place ∈ template.placeholders, paramText? p = some place := by
  rw [IsOpen, paramMarkers_eq_nil_iff, documentedRole]
  cases hasMarker "query" p with
  | true => simp
  | false =>
    cases hasMarker "body" p with
    | true => simp
    | false =>
      by_cases ht : IsTokenType p.type
      · simp [ht]
      · simp [ht]

theorem forall₂_documented {template : Path.Template} {ps : List Param}
    {bs : List (Parameter × Binding)} :
    List.Forall₂ (fun p b => documentedParam? template p = some b.1 ∧
        b.2 = documentedBinding template p) ps bs ↔
      ps.map (documentedParam? template) = bs.map (fun b => some b.1) ∧
        ps.map (documentedBinding template) = bs.map (·.2) := by
  induction ps generalizing bs with
  | nil => cases bs <;> simp
  | cons p ps ih =>
    cases bs with
    | nil => simp
    | cons b bs =>
      rw [List.forall₂_cons, ih]
      simp only [List.map_cons, List.cons.injEq, eq_comm (a := b.2)]
      exact and_and_and_comm

section
variable {template : Path.Template} {ps : List Param} {bs : List (Parameter × Binding)}

theorem length_candidates (h : ps.map (documentedBinding template) = bs.map (·.2)) :
    (bs.filter fun b => b.2 = .candidate).length =
      (ps.filter fun p => IsUnbound template p).length := by
  have hb : (bs.filter fun b => b.2 = .candidate).length =
      ((bs.map (·.2)).filter fun b => b = .candidate).length := by
    rw [List.filter_map, List.length_map]
    rfl
  rw [hb, ← h, List.filter_map, List.length_map]
  refine congrArg List.length (List.filter_congr fun p _ => ?_)
  simp only [Function.comp_apply, documentedBinding_eq_candidate]

theorem any_markedBody (h : ps.map (documentedBinding template) = bs.map (·.2)) :
    (bs.any fun b => b.2 = .markedBody) = ps.any (hasMarker "body") := by
  have hb : (bs.any fun b => b.2 = .markedBody) = (bs.map (·.2)).any fun b => b = .markedBody := by
    rw [List.any_map]
    rfl
  rw [hb, ← h, List.any_map]
  refine congrArg (ps.any ·) (funext fun p => ?_)
  rw [Function.comp_apply, Bool.eq_iff_iff, decide_eq_true_iff, documentedBinding_eq_markedBody]

theorem exists_fills_iff (h : ps.map (documentedParam? template) = bs.map fun b => some b.1)
    {place : List Char} (hplace : place ∈ template.placeholders) :
    (∃ q ∈ bs.map (·.1), q.role = .path ∧ q.name.text.toList = place) ↔
      ∃ p ∈ ps, IsOpen p ∧ paramText? p = some place := by
  have hmem (q : Parameter) : q ∈ bs.map (·.1) ↔ ∃ p ∈ ps, documentedParam? template p = some q := by
    have hq : q ∈ bs.map (·.1) ↔ some q ∈ bs.map fun b => some b.1 := by simp
    rw [hq, ← h, List.mem_map]
  simp only [hmem]
  constructor
  · rintro ⟨q, ⟨p, hp, hq⟩, hrole, htext⟩
    obtain ⟨name, hname, rfl⟩ := Option.map_eq_some_iff.mp hq
    exact ⟨p, hp, (documentedRole_eq_path.mp hrole).1, by rw [paramText?, hname, ← htext]; rfl⟩
  · rintro ⟨p, hp, hopen, htext⟩
    obtain ⟨name, hname, hplaceName⟩ := Option.map_eq_some_iff.mp htext
    exact ⟨_, ⟨p, hp, by rw [documentedParam?, hname]; rfl⟩,
      documentedRole_eq_path.mpr ⟨hopen, place, hplace, htext⟩, hplaceName⟩

/-- **The parameters of an endpoint** are accepted exactly when they are lawful. -/
theorem boundParams_eq_ok :
    bindParams template false ps = .ok bs ∧ checkBody bs = .ok () ∧
        checkPlaces template (bs.map (·.1)) = .ok () ↔
      LawfulParams template ps ∧ ps.map (documentedParam? template) = bs.map (fun b => some b.1) ∧
        ps.map (documentedBinding template) = bs.map (·.2) := by
  rw [bindParams_eq_ok, checkBody_eq_ok, checkPlaces_eq_ok, forall₂_documented]
  constructor
  · rintro ⟨⟨heach, hle, hps, hbs⟩, hbody, hplaces⟩
    refine ⟨⟨heach, by simpa using hle, ?_, fun place h => ?_⟩, hps, hbs⟩
    · rwa [← length_candidates hbs, ← any_markedBody hbs]
    · exact (exists_fills_iff hps h).mp (hplaces place h)
  · rintro ⟨⟨heach, hle, hunbound, hplaces⟩, hps, hbs⟩
    refine ⟨⟨heach, by simpa using hle, hps, hbs⟩, ?_, fun place h => ?_⟩
    · rwa [length_candidates hbs, any_markedBody hbs]
    · exact (exists_fills_iff hps h).mpr (hplaces place h)

end

/-- Lawful parameters all have a name, so each gives one of the endpoint. -/
theorem map_documentedParam? (template : Path.Template) {ps : List Param}
    (h : ∀ p ∈ ps, LawfulParam p) :
    ps.map (documentedParam? template) = (ps.filterMap (documentedParam? template)).map some := by
  induction ps with
  | nil => rfl
  | cons p ps ih =>
    rw [List.forall_mem_cons] at h
    obtain ⟨⟨name, hname, -⟩, -, -, -⟩ := h.1
    have hp : documentedParam? template p =
        some ⟨name, p.type, documentedRole template p, isOption p.type⟩ := by
      rw [documentedParam?, hname, Option.map_some]
    rw [List.map_cons, List.filterMap_cons_some hp, List.map_cons, ih h.2, hp]

/-- Among lawful parameters, each place has one that fills it. -/
theorem LawfulParams.exists_param {template : Path.Template} {ps : List Param}
    (h : LawfulParams template ps) {place : List Char} (hplace : place ∈ template.placeholders) :
    ∃ q ∈ ps.filterMap (documentedParam? template), q.role = .path ∧ q.name.text.toList = place := by
  obtain ⟨p, hp, hopen, htext⟩ := h.places place hplace
  obtain ⟨name, hname, hplaceName⟩ := Option.map_eq_some_iff.mp htext
  exact ⟨_, List.mem_filterMap.mpr ⟨p, hp, by rw [documentedParam?, hname]; rfl⟩,
    documentedRole_eq_path.mpr ⟨hopen, place, hplace, htext⟩, hplaceName⟩

/-- **Lawful parameters** are the ones that are accepted, each in its role. -/
theorem exists_boundParams_iff {template : Path.Template} {ps : List Param}
    {params : List Parameter} :
    (∃ bs, bindParams template false ps = .ok bs ∧ checkBody bs = .ok () ∧
        checkPlaces template (bs.map (·.1)) = .ok () ∧ params = bs.map (·.1)) ↔
      LawfulParams template ps ∧ params = ps.filterMap (documentedParam? template) := by
  constructor
  · rintro ⟨bs, hbs, hbody, hplaces, rfl⟩
    obtain ⟨hlawful, hparams, -⟩ := boundParams_eq_ok.mp ⟨hbs, hbody, hplaces⟩
    refine ⟨hlawful, List.map_injective_iff.mpr (fun _ _ => Option.some.inj) ?_⟩
    rw [← map_documentedParam? template hlawful.each, hparams, List.map_map]
    rfl
  · rintro ⟨hlawful, rfl⟩
    have hsome := map_documentedParam? template hlawful.each
    have hlength : (ps.filterMap (documentedParam? template)).length =
        (ps.map (documentedBinding template)).length := by
      rw [List.length_map]
      simpa using (congrArg List.length hsome).symm
    have hfst := List.map_fst_zip (Nat.le_of_eq hlength)
    have hsnd := List.map_snd_zip (Nat.le_of_eq hlength.symm)
    obtain ⟨hbs, hbody, hplaces⟩ := boundParams_eq_ok.mpr
      ⟨hlawful, hsome.trans ((congrArg (List.map some) hfst).symm.trans List.map_map), hsnd.symm⟩
    exact ⟨_, hbs, hbody, hplaces, hfst.symm⟩

/-! ## Endpoints -/

theorem takesSharedSelf_iff {s : Signature} :
    takesSharedSelf s = true ↔
      ∃ r inputs, s.inputs = .receiver r :: inputs ∧ r.reference ≠ none ∧ r.isMut = false := by
  unfold takesSharedSelf Signature.receiver?
  match s.inputs with
  | [] => simp
  | .receiver r :: inputs => simp [Option.isSome_iff_ne_none]
  | .param p :: inputs => simp

theorem angleArguments?_eq_some {arguments elements' : List Node} :
    angleArguments? arguments = some elements' ↔ ∃ parts, arguments = [.phrase .genericArgs parts] ∧
      elements' = (elements "," parts).filter fun n =>
        !(n.isOp "<" || n.isOp ">" || n.isOp "::") := by
  unfold angleArguments?
  split
  next parts => simp [eq_comm]
  next hne =>
    simp only [reduceCtorEq, false_iff]
    rintro ⟨parts, rfl, -⟩
    exact hne parts rfl

theorem resultValue?_eq_some {t value : Node} :
    resultValue? t = some value ↔ IsResultOf t value := by
  constructor
  · intro h
    obtain ⟨⟨i, arguments⟩, hseg, h⟩ := Option.bind_eq_some_iff.mp h
    dsimp only at h
    split at h
    next hi =>
      obtain ⟨found, hfound, h⟩ := Option.bind_eq_some_iff.mp h
      obtain ⟨first, hfirst, h⟩ := Option.bind_eq_some_iff.mp h
      split at h
      next htype =>
        cases h
        obtain ⟨parts, rfl, rfl⟩ := angleArguments?_eq_some.mp hfound
        exact ⟨i, parts, typeSegment?_eq_some.mp hseg, by simpa [Ident.is] using hi, hfirst, htype⟩
      next => cases h
    next => cases h
  · rintro ⟨i, parts, hseg, hi, hfirst, htype⟩
    simp only [resultValue?, typeSegment?_eq_some.mpr hseg, Option.bind_eq_bind, Option.bind_some,
      Ident.is, hi, beq_self_eq_true, if_true, angleArguments?, hfirst, htype]

theorem valueOf_eq_ok {s : Signature} {value : Node} :
    valueOf s = .ok value ↔ ∃ t, s.output = some t ∧ IsResultOf t value := by
  unfold valueOf
  simp only [← resultValue?_eq_some, ← Option.bind_eq_some_iff]
  cases s.output.bind resultValue? with
  | none => simp
  | some v => simp

theorem documentedEndpoint?_eq_some {m : Method} {v : Verb} {a : Attribute} {e : Endpoint}
    (hmarkers : verbMarkers m.attributes = [a]) (hverb : verbOf? a = some v) :
    documentedEndpoint? m = some e ↔
      ∃ t value, m.signature.output = some t ∧ IsResultOf t value ∧
        e = ⟨m.signature.name, v, declaredTemplate m,
          m.signature.params.filterMap (documentedParam? (declaredTemplate m)), m.signature.isAsync,
          if isUnit value then none else some value, stripSignature m.signature⟩ := by
  have hfind : Verb.all.find? (fun v => a.isNamed v.marker) = some v := by
    rw [← verbOf?_eq_find, hverb]
  simp only [documentedEndpoint?, hmarkers, List.head?_cons, hfind, Option.bind_eq_bind,
    Option.bind_some, Option.bind_eq_some_iff, Option.pure_def, Option.some.injEq,
    resultValue?_eq_some, eq_comm (b := e)]
  constructor
  · rintro ⟨value, ⟨t, ht, hvalue⟩, he⟩
    exact ⟨t, value, ht, hvalue, he⟩
  · rintro ⟨t, value, ht, hvalue, he⟩
    exact ⟨value, ⟨t, ht, hvalue⟩, he⟩

/-- **An endpoint is accepted** when its object, its parameters and its result are right. -/
theorem extractEndpoint_eq_ok_iff {m : Method} {v : Verb} {path : String} {e : Endpoint} :
    extractEndpoint m v path = .ok e ↔ takesSharedSelf m.signature = true ∧
      LawfulParams (.ofString path) m.signature.params ∧ ∃ value, valueOf m.signature = .ok value ∧
        e = ⟨m.signature.name, v, .ofString path,
          m.signature.params.filterMap (documentedParam? (.ofString path)), m.signature.isAsync,
          if isUnit value then none else some value, stripSignature m.signature⟩ := by
  rw [extractEndpoint]
  by_cases hself : takesSharedSelf m.signature = true
  · simp only [hself, Bool.not_true, Bool.false_eq_true, if_false, bind_eq_ok, pure_eq_ok, true_and]
    constructor
    · rintro ⟨value, hvalue, bs, hbs, ⟨⟩, hbody, ⟨⟩, hplaces, rfl⟩
      obtain ⟨hlawful, hparams⟩ :=
        exists_boundParams_iff.mp ⟨bs, hbs, hbody, hplaces, rfl⟩
      rw [hparams]
      exact ⟨hlawful, value, hvalue, rfl⟩
    · rintro ⟨hlawful, value, hvalue, rfl⟩
      obtain ⟨bs, hbs, hbody, hplaces, hparams⟩ := exists_boundParams_iff.mpr ⟨hlawful, rfl⟩
      exact ⟨value, hvalue, bs, hbs, (), hbody, (), hplaces, by rw [hparams]⟩
  · simp only [hself, Bool.not_false, if_true, Bool.false_eq_true, false_and, iff_false]
    exact fun h => nomatch h

/-- **The endpoint of a marked method** is accepted exactly when the method is lawful. -/
theorem extractEndpoint_eq_ok {m : Method} {v : Verb} {a : Attribute} {e : Endpoint}
    (hmarkers : verbMarkers m.attributes = [a]) (hverb : verbOf? a = some v)
    (hpath : IsPathArgument a.arguments) :
    extractEndpoint m v (declaredPath a.arguments) = .ok e ↔
      LawfulEndpoint m ∧ documentedEndpoint? m = some e := by
  have htemplate : Path.Template.ofString (declaredPath a.arguments) = declaredTemplate m := by
    rw [declaredTemplate, hmarkers]
    rfl
  rw [documentedEndpoint?_eq_some hmarkers hverb, extractEndpoint_eq_ok_iff, htemplate]
  simp only [valueOf_eq_ok]
  constructor
  · rintro ⟨hself, hlawful, value, ⟨t, ht, hvalue⟩, rfl⟩
    exact ⟨⟨⟨a, hmarkers, hpath⟩, takesSharedSelf_iff.mp hself, ⟨t, value, ht, hvalue⟩, hlawful⟩,
      t, value, ht, hvalue, rfl⟩
  · rintro ⟨⟨-, hself, -, hlawful⟩, t, value, ht, hvalue, rfl⟩
    exact ⟨takesSharedSelf_iff.mpr hself, hlawful, value, ⟨t, ht, hvalue⟩, rfl⟩

/-! ## Services -/

theorem documentedEndpoint?_eq_none {m : Method} (h : verbMarkers m.attributes = []) :
    documentedEndpoint? m = none := by
  rw [documentedEndpoint?, h]
  rfl

/-- A lawful endpoint documents one. -/
theorem LawfulEndpoint.exists_documented {m : Method} (h : LawfulEndpoint m) :
    ∃ e, documentedEndpoint? m = some e := by
  obtain ⟨a, ha, -⟩ := h.marker
  have hmem : a ∈ verbMarkers m.attributes := by rw [ha]; exact List.mem_singleton_self a
  obtain ⟨v, hv⟩ := Option.isSome_iff_exists.mp (isSome_verbOf?_of_mem hmem)
  obtain ⟨t, value, ht, hvalue⟩ := h.result
  exact ⟨_, (documentedEndpoint?_eq_some ha hv).mpr ⟨t, value, ht, hvalue, rfl⟩⟩

/-- What a method documents: its endpoint, or that it is skipped. -/
def documentedMember (m : Method) : Member :=
  match documentedEndpoint? m with
  | some e => .endpoint e
  | none => .skipped m.signature.name

/-- **A method is accepted** when it has no marker or is lawful. -/
theorem extractMethod_eq_ok {m : Method} {member : Member} :
    extractMethod m = .ok member ↔
      (verbMarkers m.attributes ≠ [] → LawfulEndpoint m) ∧ member = documentedMember m := by
  unfold extractMethod
  simp only [bind_eq_ok, readVerb_eq_ok]
  constructor
  · rintro ⟨r, ⟨hnil, rfl⟩ | ⟨a, v, ha, hv, hpath, rfl⟩, h⟩
    · refine ⟨fun hne => absurd hnil hne, ?_⟩
      rw [pure_eq_ok.mp h, documentedMember, documentedEndpoint?_eq_none hnil]
    · obtain ⟨e, he, h⟩ := bind_eq_ok.mp h
      obtain ⟨hlawful, hdoc⟩ := (extractEndpoint_eq_ok ha hv hpath).mp he
      exact ⟨fun _ => hlawful, by rw [pure_eq_ok.mp h, documentedMember, hdoc]⟩
  · rintro ⟨hlawful, rfl⟩
    by_cases hnil : verbMarkers m.attributes = []
    · refine ⟨none, .inl ⟨hnil, rfl⟩, ?_⟩
      rw [documentedMember, documentedEndpoint?_eq_none hnil]
      rfl
    · obtain ⟨a, ha, hpath⟩ := (hlawful hnil).marker
      have hmem : a ∈ verbMarkers m.attributes := by rw [ha]; exact List.mem_singleton_self a
      obtain ⟨v, hv⟩ := Option.isSome_iff_exists.mp (isSome_verbOf?_of_mem hmem)
      obtain ⟨e, hdoc⟩ := (hlawful hnil).exists_documented
      refine ⟨_, .inr ⟨a, v, ha, hv, hpath, rfl⟩, bind_eq_ok.mpr ⟨e, ?_, ?_⟩⟩
      · exact (extractEndpoint_eq_ok ha hv hpath).mpr ⟨hlawful hnil, hdoc⟩
      · rw [documentedMember, hdoc]
        rfl

/-- The service that a trait is when its methods are members. -/
def serviceOf (t : TraitDecl) (baseUrl : Option String) (members : List Member) : Service where
  name := t.name
  visibility := t.visibility
  baseUrl := baseUrl
  endpoints := members.filterMap fun
    | .endpoint e => some e
    | .skipped _ => none
  skipped := members.filterMap fun
    | .skipped name => some name
    | .endpoint _ => none

/-- **A trait is accepted** when it is plain and its methods are, and holds what they document. -/
theorem extract_eq_ok {t : TraitDecl} {baseUrl : Option String} {s : Service} :
    extract t baseUrl = .ok s ↔
      LawfulService t ∧ s = serviceOf t baseUrl ((methods t).map documentedMember) := by
  by_cases hplain : t.generics = none ∧ t.whereClause = none
  · obtain ⟨hgenerics, hwhere⟩ := hplain
    simp only [extract, hgenerics, hwhere, Option.isSome_none, Bool.or_self, Bool.false_eq_true,
      if_false, bind_eq_ok, pure_eq_ok, mapM_eq_ok_of fun _ _ => extractMethod_eq_ok]
    constructor
    · rintro ⟨_, ⟨hlawful, rfl⟩, rfl⟩
      exact ⟨⟨⟨hgenerics, hwhere⟩, hlawful⟩, rfl⟩
    · rintro ⟨⟨-, hlawful⟩, rfl⟩
      exact ⟨_, ⟨hlawful, rfl⟩, rfl⟩
  · have hgeneric : (t.generics.isSome || t.whereClause.isSome) = true := by
      rw [Bool.or_eq_true, Option.isSome_iff_ne_none, Option.isSome_iff_ne_none]
      by_cases hgenerics : t.generics = none
      · exact .inr fun hwhere => hplain ⟨hgenerics, hwhere⟩
      · exact .inl hgenerics
    have hrefused : ¬ LawfulService t := fun h => hplain h.plain
    simp only [extract, hgeneric, if_true, hrefused, false_and, iff_false]
    exact fun h => nomatch h

/-! ## What is accepted -/

theorem endpoints_serviceOf (t : TraitDecl) (baseUrl : Option String) (ms : List Method) :
    (serviceOf t baseUrl (ms.map documentedMember)).endpoints =
      ms.filterMap documentedEndpoint? := by
  refine Eq.trans List.filterMap_map (List.filterMap_congr fun m _ => ?_)
  rw [Function.comp_apply, documentedMember]
  cases documentedEndpoint? m with
  | none => rfl
  | some e => rfl

/-- Among lawful methods the skipped ones are those without a marker. -/
theorem skipped_serviceOf (t : TraitDecl) (baseUrl : Option String) {ms : List Method}
    (h : ∀ m ∈ ms, verbMarkers m.attributes ≠ [] → LawfulEndpoint m) :
    (serviceOf t baseUrl (ms.map documentedMember)).skipped =
      (ms.filter fun m => (verbMarkers m.attributes).isEmpty).map (·.signature.name) := by
  rw [← List.filterMap_eq_filter, List.map_filterMap]
  refine Eq.trans List.filterMap_map (List.filterMap_congr fun m hm => ?_)
  rw [Function.comp_apply, documentedMember]
  by_cases hnil : verbMarkers m.attributes = []
  · rw [documentedEndpoint?_eq_none hnil, Option.guard, if_pos (List.isEmpty_iff.mpr hnil)]
    rfl
  · obtain ⟨e, he⟩ := (h m hm hnil).exists_documented
    simp only [he, Option.guard, List.isEmpty_iff, hnil, if_false, Option.map_none]

/-- What a lawful trait gives is documented. -/
theorem serviceOf_eq_documentedService {t : TraitDecl} (h : LawfulService t)
    (baseUrl : Option String) :
    serviceOf t baseUrl ((methods t).map documentedMember) = documentedService t baseUrl := by
  rw [documentedService, ← endpoints_serviceOf t baseUrl,
    ← skipped_serviceOf t baseUrl h.endpoints]
  rfl

/-- **A trait is accepted exactly when it is lawful**, and gives the service it documents. -/
theorem extract_eq_ok_iff_lawfulService (t : TraitDecl) (baseUrl : Option String) (s : Service) :
    extract t baseUrl = .ok s ↔ LawfulService t ∧ s = documentedService t baseUrl := by
  rw [extract_eq_ok]
  exact and_congr_right fun hlawful =>
    Eq.congr_right (serviceOf_eq_documentedService hlawful baseUrl)

/-- Each endpoint of an accepted service is documented by a lawful method. -/
theorem exists_method_of_mem_endpoints {t : TraitDecl} {baseUrl : Option String} {s : Service}
    {e : Endpoint} (hs : extract t baseUrl = .ok s) (he : e ∈ s.endpoints) :
    ∃ m ∈ methods t, LawfulEndpoint m ∧ documentedEndpoint? m = some e := by
  obtain ⟨hlawful, rfl⟩ := extract_eq_ok.mp hs
  rw [endpoints_serviceOf, List.mem_filterMap] at he
  obtain ⟨m, hm, hdoc⟩ := he
  refine ⟨m, hm, hlawful.endpoints m hm fun hnil => ?_, hdoc⟩
  rw [documentedEndpoint?_eq_none hnil] at hdoc
  cases hdoc

end RestLoom.Service
