import RestLoom.Proofs.Emit.Report
import RestLoom.Proofs.Service.Scope

/-!
# Proofs/Emit/Flattening — what the imports of several modules come to in one unit

    use a; mod m { use a; trait … }  ──clientUnit──▸  use a; use a; trait …

Modules do not inherit imports, so each of them has those that it needs.  A client unit is one
module and has the imports of all modules that its service is looked up in, one after the other.
Thus it has an import twice exactly if two of these modules share one, or one of them shares one
with the options (`unit_importsOnce_iff`).
-/

namespace RestLoom.Emit

open RestLoom.Token (Ident)
open RestLoom.Source
open RestLoom.Service (imports importsInScope markedAll moduleItems? scopes)

variable {items content : List Item} {ms : List Ident} {o : Options}

/-! ## Use items, told by their tokens -/

/-- The use items among items, each told by its tokens. -/
def spelledImports (items : List Item) : List (List Token) := (imports items).map Node.tokens

/-- The use item that imports everything from a module, told by its tokens. -/
def globTokens (i : String) : List Token :=
  [Piece.line "#[allow(unused_imports)]", .line ("use " ++ i ++ "::*;")].flatMap Piece.readTokens

/-- The use items of a client unit: those that the options ask for, and those in scope. -/
def unitImports (o : Options) (uses : List Node) : List (List Token) :=
  o.imports.map globTokens ++ uses.map Node.tokens

/-- **No module repeats a use item**: neither the items themselves nor those of a module at any
depth hold two that are the same. -/
structure NoRepeats (items : List Item) : Prop where
  top : (spelledImports items).Nodup
  inside : ∀ v, Stands items v → ∀ attributes visibility isUnsafe name content,
    v.item = .module attributes visibility isUnsafe name content → (spelledImports content).Nodup

/-- No two levels share a use item. -/
def ShareNone (levels : List (List Item)) : Prop :=
  levels.Pairwise fun outer inner => (spelledImports outer).Disjoint (spelledImports inner)

theorem NoRepeats.of_moduleItems? {name : Ident} (h : NoRepeats items)
    (hname : moduleItems? name items = some content) : NoRepeats content := by
  obtain ⟨before, attributes, v, isUnsafe, i, after, rfl⟩ :=
    Service.exists_module_of_moduleItems? hname
  refine ⟨h.inside _ (.here before _ after) _ _ _ _ _ rfl, ?_⟩
  rintro ⟨around, inner, item⟩ hw
  exact h.inside ⟨⟨before, i, content⟩ :: around, inner, item⟩
    (.inside before attributes v isUnsafe i content after hw)

/-- Wherever names lead, no module repeats a use item. -/
theorem NoRepeats.nodup_of_mem_scopes (h : NoRepeats items) {level : List Item}
    (hlevel : level ∈ scopes items ms) : (spelledImports level).Nodup := by
  induction ms generalizing items with
  | nil => exact List.mem_singleton.mp hlevel ▸ h.top
  | cons m ms ih =>
    rw [scopes] at hlevel
    obtain rfl | hlevel := List.mem_cons.mp hlevel
    · exact h.top
    · cases hm : moduleItems? m items with
      | none =>
        rw [hm] at hlevel
        cases hlevel
      | some inner =>
        rw [hm] at hlevel
        exact ih (h.of_moduleItems? hm) hlevel

/-! ## One level after the other -/

theorem map_tokens_importsInScope (items : List Item) (ms : List Ident) :
    (importsInScope items ms).map Node.tokens = (scopes items ms).flatMap spelledImports := by
  rw [Service.importsInScope_eq_flatMap, List.map_flatMap]
  rfl

/-- **The imports in scope have none twice** just when no two levels share one. -/
theorem nodup_importsInScope_iff (h : NoRepeats items) :
    ((importsInScope items ms).map Node.tokens).Nodup ↔ ShareNone (scopes items ms) := by
  rw [map_tokens_importsInScope, List.nodup_flatMap]
  exact and_iff_right fun level hlevel => h.nodup_of_mem_scopes hlevel

theorem nodup_unitImports_iff (h : NoRepeats items) :
    (unitImports o (importsInScope items ms)).Nodup ↔
      ShareNone (scopes items ms) ∧ (o.imports.map globTokens).Nodup ∧
        ∀ level ∈ scopes items ms, (o.imports.map globTokens).Disjoint (spelledImports level) := by
  have hglobs : (o.imports.map globTokens).Disjoint ((scopes items ms).flatMap spelledImports) ↔
      ∀ level ∈ scopes items ms, (o.imports.map globTokens).Disjoint (spelledImports level) :=
    ⟨fun h level hlevel _ hglob hn => h hglob (List.mem_flatMap_of_mem hlevel hn),
      fun h _ hglob hn =>
        have ⟨level, hlevel, hn⟩ := List.mem_flatMap.mp hn
        h level hlevel hglob hn⟩
  rw [unitImports, List.nodup_append', nodup_importsInScope_iff h, map_tokens_importsInScope, hglobs,
    and_left_comm]

/-- **A client unit repeats no import** exactly if no two of the modules that its service is looked
up in share one, nor do the options ask for one twice or for one of theirs, provided that no single
module of the source repeats one.  The unit is built of these imports, one after the other, and
nothing is done about those that are the same. -/
theorem unit_importsOnce_iff {text : String} {r : Report} (h : generate o text = .ok r) :
    ∃ file js, File.ofText text = .ok file ∧ r = Report.of js ∧
      Judging file.items o [] (markedAll [] file.items) js ∧
      ∀ j ∈ js, ∀ b, j.verdict = .ok b → ∃ s client uses,
        uses = importsInScope file.items j.found.modules ∧
        checkedText (clientPieces j.found.decl s client uses o.imports) = .ok b.client ∧
        (NoRepeats file.items → ((unitImports o uses).Nodup ↔
          ShareNone (scopes file.items j.found.modules) ∧ (o.imports.map globTokens).Nodup ∧
            ∀ level ∈ scopes file.items j.found.modules,
              (o.imports.map globTokens).Disjoint (spelledImports level))) := by
  obtain ⟨file, js, hfile, hrun, -, hr⟩ := exists_judging_of_generate h
  refine ⟨file, js, hfile, hr, hrun, fun j hj b hb => ?_⟩
  obtain ⟨stems, hjudges⟩ := hrun.exists_judges hj
  rw [hb] at hjudges
  cases hjudges with
  | @built s client _ hs hclient hfree hstem hunits =>
    obtain ⟨b', hstem', hunits', hpieces, -⟩ := serviceUnits_eq_ok hunits
    obtain rfl := Built.eq_of_units (hstem.trans hstem'.symm) hunits'
    exact ⟨s, client, _, rfl, hpieces, nodup_unitImports_iff⟩

/-! ## An import that two levels share -/

/-- A text with an import, and a module with the same import and a service. -/
def sharedSource : String :=
  "use x::Text;\n\nmod m \x7b\n    use x::Text;\n\n    #[rest_client]\n    trait A \x7b\x7d\n\x7d\n"

/-- The tokens of the import. -/
def sharedImport : List Token :=
  [.ident (.plain "use"), .ident (.plain "x"), .punct ':' .joint, .punct ':' .alone,
    .ident (.plain "Text"), .punct ';' .alone]

/-- The tokens of the service's trait in its unit. -/
def bareTokens : List Token :=
  (serviceTrait { memoTrait with visibility := widened .inherited, items := [] }).toNode.tokens

/-- The items of the service's client unit, each with its text. -/
def sharedParts : List (List Token × List Char) :=
  (sharedImport ++ sharedImport, charsOf "use x::Text;\nuse x::Text;" String.toList_ofList) ::
  (bareTokens, charsOf
    "#[::refit::async_trait]\npub(crate) trait A: ::core::marker::Send + ::core::marker::Sync \x7b\x7d"
    String.toList_ofList) ::
  memoParts.tail

/-- The stem of its units. -/
def sharedStem : String := "m_a_generated_client"

theorem isName_sharedStem : isName sharedStem = true := rfl

section
variable (n n' : Node) (t : TraitDecl) (attributes : List Attribute) (v : Visibility)
  (isUnsafe : Bool) (name : Ident)

/-- The items of such a text where they stand. -/
theorem standings_shared :
    standings [.use n, .module attributes v isUnsafe name [.use n', .trait t]] =
      [⟨[], [], .use n⟩,
        ⟨[], [.use n], .module attributes v isUnsafe name [.use n', .trait t]⟩,
        ⟨[⟨[.use n], name, [.use n', .trait t]⟩], [], .use n'⟩,
        ⟨[⟨[.use n], name, [.use n', .trait t]⟩], [.use n'], .trait t⟩] := rfl

theorem noRepeats_shared :
    NoRepeats [.use n, .module attributes v isUnsafe name [.use n', .trait t]] where
  top := List.nodup_singleton _
  inside w hw := by
    rw [← mem_standings_iff, standings_shared] at hw
    simp only [List.mem_cons, List.not_mem_nil, or_false] at hw
    obtain rfl | rfl | rfl | rfl := hw
    · nofun
    · rintro _ _ _ _ _ ⟨⟩
      exact List.nodup_singleton _
    · nofun
    · nofun

theorem markedAll_shared {r : Except Service.ExtractError Service}
    (hr : Service.extractMarked t = some r) :
    markedAll [] [.use n, .module attributes v isUnsafe name [.use n', .trait t]] =
      [⟨[name], t, r⟩] := by
  rw [Service.markedAll_nil_eq, standings_shared]
  simp only [List.filterMap_cons, Service.foundAt?, Service.foundItem?, Service.found?, hr]
  rfl

end

/-- Whether a file is an import, and a module with the same import and the service. -/
def isSharedFile (file : File) : Bool :=
  match file.items with
  | [.use n, .module _ _ _ name [.use n', .trait t]] =>
    match Service.extractMarked t with
    | some (.ok ⟨i, .inherited, none, [], []⟩) =>
      name = .plain "m" && i = memoService.name && n.tokens = sharedImport &&
        n'.tokens = sharedImport &&
        (serviceTrait { t with visibility := widened t.visibility }).toNode.tokens = bareTokens
    | _ => false
  | _ => false

/-- What is seen by computation: the text is such a file, its unit's items are laid out, and both
units read as files, the first one with the import twice. -/
theorem shared_computed :
    (match File.ofText sharedSource with
      | .ok file => isSharedFile file
      | .error _ => false) = true ∧
    (∀ part ∈ sharedParts.take 2, LaidOutAs part.2 part.1) ∧
    (match Token.trees? (unitText sharedParts) with
      | some ts => match File.ofTokens ts with
        | .ok file => decide (spelledImports file.items = [sharedImport, sharedImport])
        | .error _ => false
      | none => false) = true ∧
    (registrationText sharedStem).head? = some '/' ∧
    (match Token.trees? (registrationText sharedStem) with
      | some ts => (File.ofTokens ts).isOk
      | none => false) = true := by
  refine ⟨by decide +kernel, ?_, by decide +kernel, by decide +kernel, by decide +kernel⟩
  simp only [sharedParts, List.take, List.forall_mem_cons]
  exact ⟨laidOutAs_of_isSetAs (by decide +kernel), laidOutAs_of_isSetAs (by decide +kernel),
    List.forall_mem_nil _⟩

theorem laidOutAs_of_mem_sharedParts : ∀ part ∈ sharedParts, LaidOutAs part.2 part.1 := by
  intro part hpart
  rw [show sharedParts = sharedParts.take 2 ++ memoParts.tail from rfl, List.mem_append] at hpart
  obtain hpart | hpart := hpart
  · exact shared_computed.2.1 part hpart
  · exact laidOutAs_of_mem_memoParts part (List.mem_of_mem_tail hpart)

/-- The client unit is built, and the file it reads as has the import twice. -/
theorem exists_sharedUnit : ∃ text file, checkedText (unitPieces sharedParts) = .ok text ∧
    File.ofText text = .ok file ∧ spelledImports file.items = [sharedImport, sharedImport] := by
  have hread := shared_computed.2.2.1
  split at hread
  next ts hts =>
    split at hread
    next file hfile =>
      obtain ⟨text, hchecked, htext⟩ :=
        exists_checkedText_unitPieces laidOutAs_of_mem_sharedParts (by
          rw [hts]
          dsimp only
          rw [hfile]
          rfl)
      obtain ⟨cs, hcs⟩ : ∃ cs, unitText sharedParts = '/' :: cs :=
        exists_toList_of_clientPieces _
      have hcomment : text.toList = '/' :: cs := htext.trans hcs
      refine ⟨text, file, hchecked, ?_, of_decide_eq_true hread⟩
      rw [ofText_of_tokens hcomment (by rw [lex?_of_comment hcomment, htext, hts]), hfile]
    next => cases hread
  next => cases hread

theorem exists_sharedRegistration :
    ∃ text, checkedText (registrationPieces sharedStem memoService memoClient) = .ok text := by
  obtain ⟨-, -, -, hhead, hread⟩ := shared_computed
  obtain ⟨cs, hcs⟩ := List.head?_eq_some_iff.mp hhead
  rw [hcs] at hread
  exact exists_registration hcs hread

/-- **The unit of the shared import** is reported, with the import twice. -/
theorem exists_sharedReport : ∃ file f b, File.ofText sharedSource = .ok file ∧
    NoRepeats file.items ∧
    Judging file.items .default [] (markedAll [] file.items) [⟨f, .ok b⟩] ∧
    generate .default sharedSource = .ok (Report.of [⟨f, .ok b⟩]) ∧
    (importsInScope file.items f.modules).map Node.tokens = [sharedImport, sharedImport] ∧
    ∃ unit, File.ofText b.client = .ok unit ∧
      spelledImports unit.items = [sharedImport, sharedImport] := by
  have hfile := shared_computed.1
  split at hfile
  next file htext =>
    rw [isSharedFile] at hfile
    split at hfile
    next n attributes v isUnsafe name n' t hitems =>
      split at hfile
      next i hmarked =>
        simp only [Bool.and_eq_true, decide_eq_true_eq] at hfile
        obtain ⟨⟨⟨⟨rfl, rfl⟩, hn⟩, hn'⟩, htrait⟩ := hfile
        have hscope : importsInScope file.items [.plain "m"] = [n, n'] := by
          rw [hitems]
          rfl
        obtain ⟨client, unit, hclient, hunit, himports⟩ := exists_sharedUnit
        obtain ⟨registration, hregistration⟩ := exists_sharedRegistration
        have hpieces : clientPieces t memoService memoClient [n, n'] [] = unitPieces sharedParts := by
          rw [clientPieces, htrait, Node.tokensAll, Node.tokensAll, Node.tokensAll, hn, hn']
          rfl
        have hunits : serviceUnits file.items .default ⟨[.plain "m"], t, .ok memoService⟩ memoService
            memoClient = .ok (⟨sharedStem, client, registration⟩ : Built).units :=
          serviceUnits_of_checkedText rfl
            (by rw [hscope, show Options.default.imports = [] from rfl, hpieces]; exact hclient)
            hregistration
        have hall : markedAll [] file.items = [⟨[.plain "m"], t, .ok memoService⟩] := by
          rw [hitems]
          exact markedAll_shared n n' t attributes v isUnsafe _ hmarked
        have hrun : Judging file.items .default [] (markedAll [] file.items)
            [⟨⟨[.plain "m"], t, .ok memoService⟩, .ok ⟨sharedStem, client, registration⟩⟩] := by
          rw [hall]
          exact .cons (.built rfl rfl List.not_mem_nil rfl hunits) (.nil _)
        refine ⟨file, ⟨[.plain "m"], t, .ok memoService⟩, ⟨sharedStem, client, registration⟩, htext,
          hitems ▸ noRepeats_shared n n' t attributes v isUnsafe _, hrun, ?_, ?_, unit, hunit,
          himports⟩
        · unfold generate
          rw [htext]
          exact generateFile_of_judging rfl hrun (List.forall_mem_singleton.mpr isName_sharedStem)
        · rw [hscope, List.map_cons, List.map_singleton, hn, hn']
      next => cases hfile
    next => cases hfile
  next => cases hfile

theorem not_nodup_sharedImports : ¬[sharedImport, sharedImport].Nodup :=
  fun h => (List.nodup_cons.mp h).1 (List.mem_singleton_self _)

/-- The import is repeated since the levels of the service share it. -/
theorem exists_levels_share : ∃ file f b, File.ofText sharedSource = .ok file ∧
    generate .default sharedSource = .ok (Report.of [⟨f, .ok b⟩]) ∧ NoRepeats file.items ∧
    ¬ShareNone (scopes file.items f.modules) := by
  obtain ⟨file, f, b, hfile, hrepeats, hrun, hreport, himports, -⟩ := exists_sharedReport
  obtain ⟨file', js, hfile', -, hrun', hall⟩ := unit_importsOnce_iff hreport
  obtain rfl := Except.ok.inj (hfile.symm.trans hfile')
  obtain rfl := hrun.unique hrun'
  obtain ⟨-, -, _, rfl, -, hiff⟩ := hall _ List.mem_cons_self b rfl
  refine ⟨file, f, b, hfile, hreport, hrepeats, fun hshare => ?_⟩
  have hnodup := (hiff hrepeats).mpr
    ⟨hshare, List.nodup_nil, fun level _ => List.disjoint_nil_left _⟩
  rw [unitImports, himports] at hnodup
  exact not_nodup_sharedImports hnodup

/-- **A unit with an import twice**, of a source in which no module repeats one. -/
theorem exists_import_repeated : ∃ file r u unit, File.ofText sharedSource = .ok file ∧
    NoRepeats file.items ∧ generate .default sharedSource = .ok r ∧ u ∈ r.units ∧
    File.ofText u.contents = .ok unit ∧ ¬(spelledImports unit.items).Nodup := by
  obtain ⟨file, f, b, hfile, hrepeats, -, hreport, -, unit, hunit, himports⟩ := exists_sharedReport
  refine ⟨file, _, ⟨b.stem ++ ".rs", b.client⟩, unit, hfile, hrepeats, hreport, List.mem_cons_self,
    hunit, ?_⟩
  rw [himports]
  exact not_nodup_sharedImports

end RestLoom.Emit
