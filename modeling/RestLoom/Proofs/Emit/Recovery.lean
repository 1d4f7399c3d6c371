import RestLoom.Proofs.Emit.Expansion
import RestLoom.Proofs.Source.Declared
import RestLoom.Proofs.Token.Literal

/-!
# Proofs/Emit/Recovery — a trait survives that is no service

    #[rest_client(⊥)] trait A …  ──▸  compile_error! · trait A …
    #[rest_client(…)] trait A …  ──▸                   trait A … · contract · client · registration

Whether a marked trait declares a service or not, the trait without its markers comes out, once and
in the same tokens; what stands beside it tells the two cases apart (`expansion_keeps_trait`).  The
word `trait` is in the trait and nowhere beside it, so that the trait cannot stand at a second
place.
-/

namespace RestLoom.Emit

open RestLoom.Token
open RestLoom.Source
open RestLoom.Service (ExtractError)

/-! ## One place -/

section
variable {α : Type} {part before after whole : List α}

/-- Whether a part stands between `before` and `after`, and nowhere else. -/
structure HoldsOnce (part before after whole : List α) : Prop where
  eq : whole = before ++ part ++ after
  unique : ∀ before' after', whole = before' ++ part ++ after' → before' = before ∧ after' = after

variable {p : α → Bool}

/-- The first element of a kind comes after all that are not of the kind. -/
theorem findIdx_append_of_forall {as bs : List α} (h : ∀ a ∈ as, p a = false) :
    (as ++ bs).findIdx p = as.length + bs.findIdx p := by
  have hnone : as.findIdx p = as.length :=
    List.findIdx_eq_length.mpr fun a ha => h a ha
  rw [List.findIdx_append, hnone, if_neg (Nat.lt_irrefl _), Nat.add_comm]

/-- **A part stands once** that has an element of a kind of which there are no others. -/
theorem holdsOnce_of_kind (hpart : ∃ a ∈ part, p a = true) (hbefore : ∀ a ∈ before, p a = false)
    (hafter : ∀ a ∈ after, p a = false) :
    HoldsOnce part before after (before ++ part ++ after) where
  eq := rfl
  unique before' after' h := by
    -- all elements of the kind are in the part, so none is before it or after it
    have hcount {as : List α} (has : ∀ a ∈ as, p a = false) : as.countP p = 0 :=
      List.countP_eq_zero.mpr fun a ha => Bool.eq_false_iff.mp (has a ha)
    have hall := congrArg (List.countP p) h
    simp only [List.countP_append, hcount hbefore, hcount hafter] at hall
    have hbefore' : ∀ a ∈ before', p a = false := fun a ha =>
      Bool.eq_false_iff.mpr (List.countP_eq_zero.mp (by omega : before'.countP p = 0) a ha)
    -- so the first of them is at the same place in the part
    have hfirst := congrArg (List.findIdx p) h
    have hinside := List.findIdx_lt_length.mpr hpart
    rw [List.append_assoc, List.append_assoc, findIdx_append_of_forall hbefore,
      findIdx_append_of_forall hbefore', List.findIdx_append, List.findIdx_append, if_pos hinside,
      if_pos hinside] at hfirst
    rw [List.append_assoc, List.append_assoc] at h
    obtain ⟨rfl, hrest⟩ := List.append_inj h (Nat.add_right_cancel hfirst)
    exact ⟨rfl, (List.append_cancel_left hrest).symm⟩

end

/-! ## What tokens are -/

/-- The words that begin items. -/
def itemWords : List String := ["trait", "struct", "impl", "fn"]

/-- What a token marks: an item, by the word that begins it, or the call of a macro. -/
def mark? : Token → Option String
  | .ident i => if i.text ∈ itemWords then some i.text else none
  | .punct '!' _ => some "!"
  | _ => none

/-- The marks of tokens in order; what is inside their groups does not count. -/
def marks (ts : List Token) : List String := ts.filterMap mark?

/-- The macros that are called by tokens, and on what. -/
def calls : List Token → List (Ident × List Token)
  | .ident i :: .punct '!' _ :: .group _ content :: ts => (i, content) :: calls ts
  | _ :: ts => calls ts
  | [] => []

section
variable {i : Ident} {s : Service} {client : Ident} {ts : List Token}

theorem marks_append (ts us : List Token) : marks (ts ++ us) = marks ts ++ marks us :=
  List.filterMap_append

theorem marks_braces (ts : List Token) : marks (braces ts) = [] := rfl

theorem marks_attributeOf (ts : List Token) : marks (attributeOf ts) = [] := by
  have hsharp : marks (code "#") = [] := by decide +kernel
  rw [attributeOf, marks_append, hsharp]
  rfl

/-- A name that is no keyword begins no item. -/
theorem marks_nameOf (hname : Source.isName i = true) (hraw : i.raw = false) :
    marks (nameOf i) = [] := by
  have hkeywords : ∀ w ∈ itemWords, keywords.contains w = true := by decide
  have htext : i.text ∉ itemWords := by
    intro hmem
    rw [Ident.text, hraw, if_neg Bool.false_ne_true] at hmem
    rw [Source.isName, hraw, hkeywords _ hmem] at hname
    cases hname
  exact List.filterMap_cons_none (if_neg htext)

/-- A name with more letters than any such word begins no item. -/
theorem marks_nameOf_plain {name : String} (hlong : 6 < name.length) :
    marks (nameOf (.plain name)) = [] := by
  have hshort : ∀ w ∈ itemWords, w.length ≤ 6 := by decide
  exact List.filterMap_cons_none (if_neg fun hmem => absurd (hshort name hmem) (by omega))

theorem marks_visibilityTokens (v : Visibility) : marks (visibilityTokens v) = [] := by
  cases v with
  | inherited => rfl
  | everyone => rfl
  | within hasIn path => rfl

/-! ## The code beside a trait -/

theorem marks_contractTokens (hname : Source.isName s.name = true) (hraw : s.name.raw = false) :
    marks (contractTokens s) = ["impl"] := by
  have hhead : marks (code "impl ::refit::ServiceContract for dyn") = ["impl"] := by decide +kernel
  rw [contractTokens, marks_append, marks_append, hhead, marks_nameOf hname hraw, marks_braces]
  rfl

theorem marks_clientTokens (hname : Source.isName s.name = true) (hraw : s.name.raw = false)
    (hclient : marks (nameOf client) = []) :
    marks (clientTokens s client) = ["struct", "impl", "impl"] := by
  have hstruct : marks (code "struct") = ["struct"] := by decide +kernel
  have himpl : marks (code "impl") = ["impl"] := by decide +kernel
  have hfor : marks (code "for") = [] := by decide +kernel
  simp only [clientTokens, marks_append, marks_attributeOf, marks_visibilityTokens, hstruct, himpl,
    hfor, marks_braces, marks_nameOf hname hraw, hclient]
  rfl

/-- The registration of a client ends with the call that submits it. -/
theorem registrationTokens_eq (s : Service) (client : Ident) : ∃ front content,
    registrationTokens s client =
      front ++ [.ident (.plain "submit"), .punct '!' .alone, .group .brace content] ∧
    marks front = ["fn", "fn"] := by
  have hsubmit : code "::refit::inventory::submit!" =
      code "::refit::inventory::" ++ [.ident (.plain "submit"), .punct '!' .alone] := by
    decide +kernel
  have hfn : marks (code "fn") = ["fn"] := by decide +kernel
  have hkey : marks (code "() -> ::refit::ServiceKey") = [] := by decide +kernel
  have hfactory : marks (code
      "(transport: ::refit::RestTransport) -> ::std::boxed::Box<dyn ::core::any::Any>") = [] := by
    decide +kernel
  have hpath : marks (code "::refit::inventory::") = [] := by decide +kernel
  have hlong {front name : String} (hfront : 6 < front.length) : 6 < (front ++ name).length := by
    rw [String.length_append]
    omega
  have hkeyName : marks (nameOf (keyName s)) = [] := marks_nameOf_plain (hlong (by decide))
  have hfactoryName : marks (nameOf (factoryName s)) = [] := marks_nameOf_plain (hlong (by decide))
  have hcall (as bs : List Token) (a b c : Token) :
      as ++ (bs ++ [a, b]) ++ [c] = as ++ bs ++ [a, b, c] := by simp
  rw [registrationTokens, hsubmit]
  refine ⟨_, _, hcall _ _ _ _ _, ?_⟩
  simp only [marks_append, marks_attributeOf, hfn, hkey, hfactory, hpath, hkeyName, hfactoryName,
    marks_braces]
  rfl

/-! ## Calls -/

theorem calls_cons {t : Token} (hnext : ∀ u ∈ ts.head?, mark? u ≠ some "!") :
    calls (t :: ts) = calls ts := by
  cases t with
  | ident i =>
    cases ts with
    | nil => rfl
    | cons u us =>
      cases u with
      | punct c spacing =>
        rw [calls]
        rintro _ _ _ _ _ - heq
        cases heq
        exact hnext _ rfl rfl
      | _ => rfl
  | _ => rfl

/-- **The first call** is the one that is marked. -/
theorem calls_append (h : "!" ∉ marks ts) (i : Ident) (spacing : Spacing) (d : Delimiter)
    (content us : List Token) :
    calls (ts ++ .ident i :: .punct '!' spacing :: .group d content :: us) =
      (i, content) :: calls us := by
  induction ts with
  | nil => rfl
  | cons t ts ih =>
    have hrest : "!" ∉ marks ts := fun hmem => h <| by
      rw [← List.singleton_append, marks_append]
      exact List.mem_append_right _ hmem
    have hnext : ∀ u ∈ (ts ++ .ident i :: .punct '!' spacing :: .group d content :: us).head?,
        mark? u ≠ some "!" := by
      cases ts with
      | nil =>
        rintro _ ⟨⟩ hmark
        rw [mark?] at hmark
        split at hmark
        next hmem =>
          rw [Option.some.inj hmark] at hmem
          exact absurd hmem (by decide)
        next => cases hmark
      | cons u ts =>
        rintro _ ⟨⟩ hmark
        exact hrest (List.mem_filterMap.mpr ⟨u, List.mem_cons_self, hmark⟩)
    rw [List.cons_append, calls_cons hnext, ih hrest]

end

/-! ## Recovery -/

section
variable {arguments item : List Token} {t : TraitDecl} {before after : List Token}

/-- **What stands beside a trait** under a marker with those arguments. -/
structure Beside (arguments : List Token) (t : TraitDecl) (before after : List Token) : Prop where
  /-- If anything fails, its diagnostic stands before the trait, and there is nothing else. -/
  failed : ∀ e, markedService arguments t = .error e →
    before = diagnosticTokens e.message ∧ after = [] ∧ marks (before ++ after) = ["!"]
  /-- If nothing does, the code of the service stands behind the trait. -/
  generated : ∀ s, markedService arguments t = .ok s → ∃ client,
    Service.clientName? s.name = some client ∧ before = [] ∧
    after = contractTokens s ++ clientTokens s client ++ registrationTokens s client ∧
    marks (before ++ after) = ["impl", "struct", "impl", "impl", "fn", "fn", "!"]
  /-- An error is reported exactly if something failed, and it is that diagnostic. -/
  reported : ∀ content, (.plain "compile_error", content) ∈ calls (before ++ after) ↔
    ∃ e, markedService arguments t = .error e ∧ content = stringOf e.message
  /-- A client is submitted exactly if nothing failed. -/
  submitted : (∃ content, (.plain "submit", content) ∈ calls (before ++ after)) ↔
    ∃ s, markedService arguments t = .ok s

/-- The diagnostic is the call of one macro. -/
theorem diagnosticTokens_eq (message : String) : diagnosticTokens message =
    code "::core::" ++ [.ident (.plain "compile_error"), .punct '!' .alone,
      .group .brace (stringOf message)] := by
  have hcall : code "::core::compile_error!" =
      code "::core::" ++ [.ident (.plain "compile_error"), .punct '!' .alone] := by decide +kernel
  rw [diagnosticTokens, hcall, List.append_assoc]
  rfl

/-- The word `trait` is in every trait. -/
theorem exists_mem_trait (t : TraitDecl) :
    ∃ u ∈ t.toNode.tokens, (mark? u == some "trait") = true := by
  refine ⟨.ident (.plain "trait"), ?_, by decide⟩
  simp [TraitDecl.toNode, Node.tokens, Node.tokensAll, Node.tokensAll_append, Node.word]

/-- A trait stands once among tokens that have no trait beside it. -/
theorem holdsOnce_of_marks (t : TraitDecl) (hbefore : "trait" ∉ marks before)
    (hafter : "trait" ∉ marks after) :
    HoldsOnce t.toNode.tokens before after (before ++ t.toNode.tokens ++ after) := by
  have hnone {ts : List Token} (h : "trait" ∉ marks ts) :
      ∀ u ∈ ts, (mark? u == some "trait") = false := fun u hu =>
    beq_false_of_ne fun hmark => h (List.mem_filterMap.mpr ⟨u, hu, hmark⟩)
  exact holdsOnce_of_kind (exists_mem_trait t) (hnone hbefore) (hnone hafter)

theorem beside_of_error {e : ExtractError} (he : markedService arguments t = .error e) :
    Beside arguments t (diagnosticTokens e.message) [] ∧
      "trait" ∉ marks (diagnosticTokens e.message) := by
  have hfront : marks (code "::core::") = [] := by decide +kernel
  have hmarks : marks (diagnosticTokens e.message) = ["!"] := by
    rw [diagnosticTokens_eq, marks_append, hfront]
    rfl
  have hcalls : calls (diagnosticTokens e.message ++ []) =
      [(.plain "compile_error", stringOf e.message)] := by
    rw [List.append_nil, diagnosticTokens_eq, calls_append (hfront ▸ List.not_mem_nil)]
    rfl
  refine ⟨⟨fun e' he' => ?_, fun s hs => ?_, fun content => ?_, ?_⟩, by rw [hmarks]; decide⟩
  · obtain rfl : e' = e := Except.error.inj (he'.symm.trans he)
    exact ⟨rfl, rfl, (List.append_nil _).symm ▸ hmarks⟩
  · rw [he] at hs
    cases hs
  · rw [hcalls, List.mem_singleton, Prod.mk.injEq, and_iff_right rfl, he]
    simp only [Except.error.injEq, exists_eq_left']
  · rw [hcalls, he]
    simp [Ident.plain]

/-- The code of a service is an item after the other, and the call that submits its client last. -/
theorem exists_service_call {s : Service} {client : Ident} (hname : Source.isName s.name = true)
    (hraw : s.name.raw = false) (hclient : Service.clientName? s.name = some client) :
    ∃ front content, contractTokens s ++ clientTokens s client ++ registrationTokens s client =
      front ++ [.ident (.plain "submit"), .punct '!' .alone, .group .brace content] ∧
    marks front = ["impl", "struct", "impl", "impl", "fn", "fn"] := by
  have hlong : marks (nameOf client) = [] := by
    rw [Service.clientName?, hraw, if_neg Bool.false_ne_true] at hclient
    obtain rfl := Option.some.inj hclient
    refine marks_nameOf_plain ?_
    have hsuffix : Service.clientSuffix.length = 15 := by decide
    rw [Service.clientText, String.length_append, hsuffix]
    omega
  obtain ⟨front, content, heq, hfront⟩ := registrationTokens_eq s client
  refine ⟨_, content, by rw [heq, ← List.append_assoc], ?_⟩
  rw [marks_append, marks_append, marks_contractTokens hname hraw,
    marks_clientTokens hname hraw hlong, hfront]
  rfl

theorem beside_of_ok {s : Service} {client : Ident} (hs : markedService arguments t = .ok s)
    (hname : Source.isName s.name = true) (hraw : s.name.raw = false)
    (hclient : Service.clientName? s.name = some client) :
    Beside arguments t []
        (contractTokens s ++ clientTokens s client ++ registrationTokens s client) ∧
      "trait" ∉ marks
        (contractTokens s ++ clientTokens s client ++ registrationTokens s client) := by
  obtain ⟨front, content, heq, hfront⟩ := exists_service_call hname hraw hclient
  have hmarks : marks (contractTokens s ++ clientTokens s client ++ registrationTokens s client) =
      ["impl", "struct", "impl", "impl", "fn", "fn", "!"] := by
    rw [heq, marks_append, hfront]
    rfl
  have hcalls : calls ([] ++
      (contractTokens s ++ clientTokens s client ++ registrationTokens s client)) =
        [(.plain "submit", content)] := by
    rw [List.nil_append, heq, calls_append (by rw [hfront]; decide)]
    rfl
  refine ⟨⟨fun e he => ?_, fun s' hs' => ?_, fun content' => ?_, ?_⟩, by rw [hmarks]; decide⟩
  · rw [hs] at he
    cases he
  · obtain rfl : s' = s := Except.ok.inj (hs'.symm.trans hs)
    exact ⟨client, hclient, rfl, rfl, hmarks⟩
  · rw [hcalls, hs]
    simp [Ident.plain]
  · rw [hcalls]
    exact iff_of_true ⟨content, List.mem_singleton.mpr rfl⟩ ⟨s, hs⟩

/-- **Whether a marked item is recovered** that declares no service. -/
structure Recovers (arguments item : List Token) : Prop where
  /-- What is no trait becomes the diagnostic that says so. -/
  rejected : ∀ e, TraitDecl.ofTokens item = .error e →
    expansion arguments item = some (diagnosticTokens e.message)
  /-- A trait comes out once, whatever becomes of the service. -/
  kept : ∀ t, TraitDecl.ofTokens item = .ok t → t.name.raw = false → ∃ whole before after,
    expansion arguments item = some whole ∧
    HoldsOnce (serviceTrait t).toNode.tokens before after whole ∧ Beside arguments t before after

/-- **A marked trait stays**, for all arguments of its marker and every item: it comes out once and
in the same tokens, whether it declares a service or not. -/
theorem expansion_keeps_trait (arguments item : List Token) : Recovers arguments item where
  rejected e he := by rw [expansion, he]
  kept t ht hraw := by
    have hnil : "trait" ∉ marks [] := List.not_mem_nil
    cases hs : markedService arguments t with
    | error e =>
      obtain ⟨hbeside, htrait⟩ := beside_of_error hs
      refine ⟨_, _, _, expansion_of_error ht hs, ?_, hbeside⟩
      have hheld := holdsOnce_of_marks (serviceTrait t) htrait hnil
      rwa [List.append_nil] at hheld
    | ok s =>
      have hsame := name_of_markedService hs
      have hclient : Service.clientName? s.name = some (.plain (Service.clientText s.name)) := by
        rw [Service.clientName?, hsame, hraw, if_neg Bool.false_ne_true]
      obtain ⟨hbeside, htrait⟩ :=
        beside_of_ok hs (hsame ▸ isName_of_ofTokens ht) (hsame ▸ hraw) hclient
      refine ⟨_, _, _, expansion_of_ok ht hs hclient, ?_, hbeside⟩
      have hheld := holdsOnce_of_marks (serviceTrait t) hnil htrait
      rwa [List.nil_append, ← List.append_assoc, ← List.append_assoc] at hheld

/-- A key that markers do not have. -/
def strangeArguments : List Token :=
  [.ident (.plain "url"), .punct '=' .alone, .literal "\x22a\x22"]

/-- The trait with a memo stays when its marker is rejected, next to the diagnostic. -/
theorem exists_memo_kept : ∃ e whole, TraitDecl.ofTokens memoItem = .ok memoTrait ∧
    markedService strangeArguments memoTrait = .error e ∧
    expansion strangeArguments memoItem = some whole ∧
    HoldsOnce (serviceTrait memoTrait).toNode.tokens (diagnosticTokens e.message) [] whole := by
  obtain ⟨whole, before, after, hwhole, honce, hbeside⟩ :=
    (expansion_keeps_trait strangeArguments memoItem).kept memoTrait ofTokens_memoItem rfl
  cases he : markedService strangeArguments memoTrait with
  | ok s => cases he
  | error e =>
    obtain ⟨rfl, rfl, -⟩ := hbeside.failed e he
    exact ⟨e, whole, ofTokens_memoItem, rfl, hwhole, honce⟩

end

end RestLoom.Emit
