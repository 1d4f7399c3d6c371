import RestLoom.Proofs.Emit.Accounts
import RestLoom.Proofs.Emit.Expansion
import RestLoom.Proofs.Emit.Stripping
import RestLoom.Proofs.Source.Reach

/-!
# Proofs/Emit/Siblings — what a registration uses of the client unit beside it

    place ─┬─ mod a_generated_client               pub(crate) trait A · pub(crate) struct …
           └─ mod a_generated_client_registration  use super::a_generated_client::{…, A};

The two units of a service are modules of one place, and the registration names the trait and the
client of the other unit and calls `new`.  All three are declared with the visibility of the trait,
where none is widened to the whole package (`Judging.linked`).  So the registration may use them
whenever the visibility opens the client unit to the place around it, which `pub(self)` and most
paths do not (`generate_linked`, `exists_private_unreached`).
-/

namespace RestLoom.Emit

open RestLoom.Token
open RestLoom.Source
open RestLoom.Service (Found markedAll)

/-! ## Declarations among tokens -/

/-- Whether tokens declare with a visibility what words say: these stand behind it, and an attribute
in front of it. -/
def Declares (v : Visibility) (words ts : List Token) : Prop :=
  ∃ before inside after,
    ts = before ++ attributeOf inside ++ visibilityTokens v ++ words ++ after

/-- The words that declare a trait. -/
def traitWords (t : TraitDecl) : List Token :=
  Node.tokensAll (Signature.keyword t.isUnsafe "unsafe" ++ Signature.keyword t.isAuto "auto") ++
    [.ident (.plain "trait"), .ident t.name]

/-- The words that declare the client of a service. -/
def structWords (client : Ident) : List Token := [.ident (.plain "struct"), .ident client]

/-- The words that declare the function that makes a client. -/
def newWords : List Token := [.ident (.plain "fn"), .ident (.plain "new")]

/-- What is inside the first group of a kind. -/
def inside? (d : Delimiter) : List Token → Option (List Token)
  | .group e content :: ts => if e = d then some content else inside? d ts
  | _ :: ts => inside? d ts
  | [] => none

/-- The shape that a contract says a service has, by whether the service is public. -/
def shapeTokens (isPublic : Bool) : List Token :=
  code "interface: true, public:" ++ truthTokens isPublic ++ code ", generic: false,"

/-- The shape that a contract says. -/
def shape? (contract : List Token) : Option (List Token) :=
  (inside? .brace contract).bind (inside? .brace)

variable {v : Visibility} {words ts : List Token} {t : TraitDecl} {s : Service} {client : Ident}

/-- A declaration stays one when tokens follow. -/
theorem Declares.append (h : Declares v words ts) (us : List Token) :
    Declares v words (ts ++ us) := by
  obtain ⟨before, inside, after, rfl⟩ := h
  exact ⟨before, inside, after ++ us, (List.append_assoc _ after us).symm ▸ rfl⟩

theorem declares_of_eq (before inside : List Token)
    (h : ts = before ++ attributeOf inside ++ visibilityTokens v ++ words) : Declares v words ts :=
  ⟨before, inside, [], h.trans (List.append_nil _).symm⟩

/-! ## What the units declare -/

/-- A trait without markers is declared with its visibility, behind the attribute that it gets. -/
theorem declares_serviceTrait (t : TraitDecl) :
    Declares t.visibility (traitWords t) (serviceTrait t).toNode.tokens := by
  have houter : Attribute.outerNodes ((Service.stripTrait t).attributes ++ [asyncTrait]) =
      Attribute.outerNodes (Service.stripTrait t).attributes ++ [asyncTrait.toNode] := by
    rw [Attribute.outerNodes, List.filter_append, List.map_append]
    rfl
  have hattribute : asyncTrait.toNode.tokens =
      attributeOf (Node.tokensAll [asyncTrait.path]) := by
    rw [attributeOf, code_sharp]
    rfl
  rw [serviceTrait_eq, TraitDecl.toNode, Node.tokens, houter]
  simp only [Node.tokensAll_append]
  -- the words are followed by generic parameters, bounds, conditions and the items
  refine .append (.append (.append (.append (declares_of_eq
    (Node.tokensAll (Attribute.outerNodes (Service.stripTrait t).attributes))
    (Node.tokensAll [asyncTrait.path]) ?_) _) _) _) _
  simp only [Node.tokensAll, hattribute, traitWords, visibilityTokens, Node.tokensAll_append,
    List.append_assoc, List.append_nil]
  rfl

/-- The functions of a client. -/
def clientFunctions (s : Service) : List Token :=
  rawDoc " Creates a client dispatching through \x60transport\x60." ++
    visibilityTokens s.visibility ++
    code "fn new(transport: ::refit::RestTransport) -> Self" ++
    braces (code "Self" ++ braces (code "transport")) ++
    rawDoc " The transport this client dispatches through." ++
    visibilityTokens s.visibility ++
    code "fn transport(&self) -> &::refit::RestTransport" ++ braces (code "&self.transport")

/-- The block of functions of a client, with its head. -/
def clientBlock (s : Service) (client : Ident) : List Token :=
  code "impl" ++ nameOf client ++ braces (clientFunctions s)

/-- A client is declared with the visibility of its service. -/
theorem declares_struct (s : Service) (client : Ident) :
    Declares s.visibility (structWords client) (clientTokens s client) := by
  have hstruct : code "struct" = [.ident (.plain "struct")] := by decide +kernel
  rw [clientTokens, hstruct]
  -- the block of functions and the methods come after it
  iterate 10 refine Declares.append ?_ _
  exact declares_of_eq _ _ (List.append_assoc _ _ (nameOf client))

/-- The function that makes a client is declared with that visibility too. -/
theorem declares_new (s : Service) : Declares s.visibility newWords (clientFunctions s) := by
  have hnew : code "fn new(transport: ::refit::RestTransport) -> Self" =
      newWords ++ code "(transport: ::refit::RestTransport) -> Self" := by decide +kernel
  rw [clientFunctions, hnew]
  iterate 5 refine Declares.append ?_ _
  rw [← List.append_assoc]
  exact .append (declares_of_eq [] _ rfl) _

theorem clientBlock_infix (s : Service) (client : Ident) :
    clientBlock s client <:+: clientTokens s client := by
  rw [clientTokens]
  iterate 6 refine List.IsInfix.trans ?_ (List.prefix_append _ _).isInfix
  rw [List.append_assoc, List.append_assoc, clientBlock, List.append_assoc]
  exact (List.suffix_append _ _).isInfix

theorem inside?_append (d : Delimiter) (ts us : List Token) :
    inside? d (ts ++ us) = (inside? d ts).or (inside? d us) := by
  induction ts with
  | nil => rfl
  | cons t ts ih =>
    cases t with
    | group e content =>
      rw [List.cons_append, inside?, inside?]
      split
      · rfl
      · exact ih
    | _ => exact ih

/-- **The contract of a service** says whether it is public. -/
theorem shape?_contractTokens (s : Service) :
    shape? (contractTokens s) = some (shapeTokens s.isPublic) := by
  have hhead : inside? .brace (code "impl ::refit::ServiceContract for dyn") = none := by
    decide +kernel
  have hname : inside? .brace (code "const NAME: &'static str = ::core::concat!") = none := by
    decide +kernel
  have hend : inside? .brace (code ";") = none := by decide +kernel
  have hshape : inside? .brace (code "const SHAPE: ::refit::ServiceShape = ::refit::ServiceShape") =
      none := by decide +kernel
  have hnameOf (i : Ident) : inside? .brace (nameOf i) = none := rfl
  have hparens (ts : List Token) : inside? .brace (parens ts) = none := rfl
  have hbraces (ts : List Token) : inside? .brace (braces ts) = some ts := rfl
  simp only [shape?, contractTokens, inside?_append, hhead, hnameOf, hbraces, hname, hparens, hend,
    hshape, Option.none_or, Option.some_or, Option.bind_some, shapeTokens]

/-- The contract says so exactly if the trait is for everyone. -/
theorem shape?_contractTokens_iff (s : Service) :
    shape? (contractTokens s) = some (shapeTokens true) ↔ s.visibility = .everyone := by
  have hdiffer : shapeTokens false ≠ shapeTokens true := by decide +kernel
  rw [shape?_contractTokens, Option.some.injEq, Service.isPublic]
  cases s.visibility with
  | everyone => exact iff_of_true rfl rfl
  | _ => exact iff_of_false hdiffer nofun

/-! ## From where it may be used -/

/-- The client unit with a stem, as a module of a place. -/
def unitPlace (place : Place) (stem : String) : Place := place ++ [.plain stem]

/-- The registration unit that belongs to it. -/
def registrationPlace (place : Place) (stem : String) : Place :=
  place ++ [.plain (stem ++ "_registration")]

/-- **From where a client unit may be used** if the trait was declared with a visibility. -/
structure OpensUnit (v : Visibility) (stem : String) : Prop where
  /-- The place around the unit may use it if nothing was written or what is written opens it. -/
  place_iff : ∀ place, (widened v).Reaches (unitPlace place stem) place ↔
    v = .inherited ∨ v.IsOpen place (.plain stem)
  /-- The registration may if its place may. -/
  registration_iff : ∀ place,
    (widened v).Reaches (unitPlace place stem) (registrationPlace place stem) ↔
      (widened v).Reaches (unitPlace place stem) place
  /-- That is so wherever the unit is, for most of what can be written. -/
  open_of_word : ∀ hasIn, v = .inherited ∨ v = .everyone ∨
    v = .restricted hasIn "crate" ∨ v = .restricted hasIn "super" →
      ∀ place, (widened v).Reaches (unitPlace place stem) place
  /-- It is never so for what the module of the trait keeps to itself. -/
  closed_of_self : ∀ hasIn, v = .restricted hasIn "self" →
    ∀ place, ¬(widened v).Reaches (unitPlace place stem) place

theorem reaches_widened_iff (v : Visibility) (place : Place) (stem : String) :
    (widened v).Reaches (unitPlace place stem) place ↔
      v = .inherited ∨ v.IsOpen place (.plain stem) := by
  rw [unitPlace, Visibility.reaches_outside_iff]
  cases v with
  | inherited => exact iff_of_true Visibility.isOpen_crate (.inl rfl)
  | everyone => exact iff_of_true trivial (.inr trivial)
  | within hasIn path => exact (or_iff_right nofun).symm

theorem opensUnit (v : Visibility) (stem : String) : OpensUnit v stem where
  place_iff place := reaches_widened_iff v place stem
  registration_iff place := by
    refine Visibility.reaches_sibling_iff _ fun hsame => ?_
    have hlength := congrArg (fun i => i.name.length) hsame
    simp [Ident.plain] at hlength
  open_of_word hasIn h place := by
    rw [reaches_widened_iff]
    obtain rfl | rfl | rfl | rfl := h
    · exact .inl rfl
    · exact .inr trivial
    · exact .inr Visibility.isOpen_crate
    · exact .inr Visibility.isOpen_super
  closed_of_self hasIn h place := by
    rw [reaches_widened_iff, h]
    rintro (h | h)
    · cases h
    · exact Visibility.not_isOpen_self h

/-! ## Units of a report -/

/-- **What the two units of a service have to do with each other.** -/
structure Linked (f : Found) (s : Service) (client : Ident) (b : Built) : Prop where
  result : f.result = .ok s
  name : Service.clientName? s.name = some client
  /-- The registration imports the client and the trait from the client unit. -/
  imports : (registrationHead b.stem client.text s.name.text).toList <+: b.registration.toList
  registration : BuiltOf [registrationTokens s client] b.registration
  /-- The client unit is built of imports, the trait, the contract and the client. -/
  unit : ∃ uses, BuiltOf (uses ++ [(widenedTrait (serviceTrait f.decl)).toNode.tokens,
    contractTokens s, clientTokens (widenedService s) client]) b.client
  trait : Declares (widened f.decl.visibility) (traitWords f.decl)
    (widenedTrait (serviceTrait f.decl)).toNode.tokens
  struct : Declares (widened f.decl.visibility) (structWords client)
    (clientTokens (widenedService s) client)
  block : clientBlock (widenedService s) client <:+: clientTokens (widenedService s) client
  new : Declares (widened f.decl.visibility) newWords (clientFunctions (widenedService s))
  /-- The contract says that the service is public exactly if its trait was declared so. -/
  isPublic : shape? (contractTokens s) = some (shapeTokens true) ↔ f.decl.visibility = .everyone
  reach : OpensUnit f.decl.visibility b.stem

/-- A service has the name and the visibility of its trait. -/
theorem head_of_extract {baseUrl : Option String} (h : Service.extract t baseUrl = .ok s) :
    s.name = t.name ∧ s.visibility = t.visibility := by
  rw [(Service.extract_eq_ok.mp h).2]
  exact ⟨rfl, rfl⟩

/-- The contents of units that are those of a service. -/
theorem builtOf_of_serviceUnits {items : List Item} {o : Options} {f : Found} {b : Built}
    (h : serviceUnits items o f s client = .ok b.units) :
    (∃ uses, BuiltOf (uses ++ [(widenedTrait (serviceTrait f.decl)).toNode.tokens,
      contractTokens s, clientTokens (widenedService s) client]) b.client) ∧
      BuiltOf [registrationTokens s client] b.registration := by
  obtain ⟨c, hsame, hclient, hregistration⟩ := serviceUnits_builtOf h
  simp only [Built.units, List.cons.injEq, SourceUnit.mk.injEq, and_true] at hsame
  obtain ⟨⟨-, hc⟩, -, hr⟩ := hsame
  rw [hc, hr]
  exact ⟨⟨_, hclient⟩, hregistration⟩

/-- **The units of every service** that a run builds are linked. -/
theorem Judging.linked {file : File} {o : Options} {js : List Judged}
    (h : Judging file.items o [] (markedAll [] file.items) js)
    (hnames : ∀ stem ∈ stemsOf js, isName stem = true) {j : Judged} (hj : j ∈ js) {b : Built}
    (hb : j.verdict = .ok b) : ∃ s client, Linked j.found s client b := by
  obtain ⟨stems, hjudges⟩ := h.exists_judges hj
  rw [hb] at hjudges
  cases hjudges with
  | @built s client _ hs hclient hfree hstem hunits =>
    have hmem : j.found ∈ markedAll [] file.items := h.map_found ▸ List.mem_map_of_mem hj
    obtain ⟨baseUrl, hextract⟩ := Service.exists_extract_of_mem_markedAll hmem hs
    have hvisibility := (head_of_extract hextract).2
    have hsame : (widenedService s).visibility = widened j.found.decl.visibility :=
      congrArg widened hvisibility
    obtain ⟨hunit, hregistration⟩ := builtOf_of_serviceUnits hunits
    obtain ⟨s', client', hs', hclient', -, himports⟩ := (h.accounts hnames).built j hj b hb
    obtain rfl : s' = s := Except.ok.inj (hs'.symm.trans hs)
    obtain rfl : client' = client := Option.some.inj (hclient'.symm.trans hclient)
    refine ⟨s', client', hs, hclient, himports, hregistration, hunit, ?_, ?_,
      clientBlock_infix _ _, ?_, ?_, opensUnit _ _⟩
    · rw [← serviceTrait_widenedTrait]
      exact declares_serviceTrait (widenedTrait j.found.decl)
    · rw [← hsame]
      exact declares_struct _ _
    · rw [← hsame]
      exact declares_new _
    · rw [shape?_contractTokens_iff, hvisibility]

/-- **What a registration uses of the client unit**, for every source that generation reports on and
each of its services: the trait, the client and `new` have one visibility, which opens the unit to
its place unless the trait was declared with `pub(self)` or with a path that does not lead out of
the unit. -/
theorem generate_linked {o : Options} {text : String} {r : Report} (h : generate o text = .ok r) :
    ∃ file js, File.ofText text = .ok file ∧
      Judging file.items o [] (markedAll [] file.items) js ∧ r = Report.of js ∧
      ∀ j ∈ js, ∀ b, j.verdict = .ok b → ∃ s client, Linked j.found s client b := by
  obtain ⟨file, js, hfile, hrun, hnames, rfl⟩ := exists_judging_of_generate h
  exact ⟨file, js, hfile, hrun, rfl, fun j hj b hb => hrun.linked hnames hj hb⟩

/-- The units of the service with the memo are linked. -/
theorem exists_memo_linked : ∃ r f b s client, generate .default memoSource = .ok r ∧
    r.services.length = 1 ∧ Linked f s client b := by
  obtain ⟨f, g, e, b, -, hreport⟩ := exists_memoSource_report
  obtain ⟨file, js, -, -, hjs, hlinked⟩ := generate_linked hreport
  have hservices : (js.filterMap Judged.service?).length = 1 :=
    congrArg (fun r => r.services.length) hjs.symm
  obtain ⟨name, hname⟩ := List.exists_mem_of_length_pos (hservices ▸ Nat.one_pos)
  obtain ⟨j, hj, hservice⟩ := List.mem_filterMap.mp hname
  cases hverdict : j.verdict with
  | error e =>
    rw [Judged.service?, hverdict] at hservice
    cases hservice
  | ok b =>
    obtain ⟨s, client, h⟩ := hlinked j hj b hverdict
    exact ⟨_, j.found, b, s, client, hreport, rfl, h⟩

/-! ## A trait that its module keeps to itself -/

/-- A trait that is declared with `pub(self)`. -/
def keptTrait : TraitDecl :=
  { memoTrait with visibility := .restricted false "self", items := [] }

/-- The service of the trait. -/
def keptService : Service := { memoService with visibility := .restricted false "self" }

/-- The text of the trait. -/
def keptTraitText : List Char :=
  charsOf
    "#[::refit::async_trait]\npub(self) trait A: ::core::marker::Send + ::core::marker::Sync \x7b\x7d"
    String.toList_ofList

/-- A text in which the module itself stands for the whole package. -/
def keptToSelf : List Char → List Char
  | 'c' :: 'r' :: 'a' :: 't' :: 'e' :: cs => 's' :: 'e' :: 'l' :: 'f' :: keptToSelf cs
  | c :: cs => c :: keptToSelf cs
  | [] => []

/-- The text of the client. -/
def keptClientText : List Char := keptToSelf memoClientText

/-- The items of the service's client unit, each with its text. -/
def keptParts : List (List Token × List Char) :=
  [((serviceTrait (widenedTrait keptTrait)).toNode.tokens, keptTraitText),
    (contractTokens (widenedService keptService), memoContractText),
    (clientTokens (widenedService keptService) memoClient, keptClientText)]

theorem laidOutAs_of_mem_keptParts : ∀ part ∈ keptParts, LaidOutAs part.2 part.1 := by
  -- neither service is public, so the contract is that of the one with the memo
  have hcontract : LaidOutAs memoContractText (contractTokens (widenedService keptService)) := by
    have hsame : contractTokens (widenedService keptService) =
        contractTokens (widenedService memoService) := contractTokens_congr rfl rfl rfl
    rw [hsame]
    exact laidOutAs_of_mem_memoParts (contractTokens (widenedService memoService), memoContractText)
      (List.mem_cons_of_mem _ List.mem_cons_self)
  simp only [keptParts, List.forall_mem_cons]
  exact ⟨laidOutAs_of_isSetAs (by decide +kernel), hcontract,
    laidOutAs_of_isSetAs (by decide +kernel), fun _ h => nomatch h⟩

theorem exists_keptText : ∃ text,
    checkedText (clientPieces keptTrait keptService memoClient [] []) = .ok text := by
  have hpieces : clientPieces keptTrait keptService memoClient [] [] = unitPieces keptParts := rfl
  obtain ⟨text, htext, -⟩ :=
    exists_checkedText_unitPieces laidOutAs_of_mem_keptParts (by decide +kernel)
  exact ⟨text, hpieces ▸ htext⟩

/-- Of a service, a registration holds no more than its name. -/
theorem registrationPieces_congr {s s' : Service} (h : s.name = s'.name) (stem : String)
    (client : Ident) : registrationPieces stem s client = registrationPieces stem s' client := by
  rw [registrationPieces, registrationPieces, registrationTokens, registrationTokens, keyName,
    keyName, factoryName, factoryName, h]

theorem exists_keptRegistration : ∃ text,
    checkedText (registrationPieces memoStem keptService memoClient) = .ok text := by
  have hsame : registrationPieces memoStem keptService memoClient = memoRegistration :=
    registrationPieces_congr rfl memoStem memoClient
  rw [hsame]
  exact exists_memoRegistration

/-- A text with that trait. -/
def keptSource : String := "#[rest_client]\npub(self) trait A \x7b\x7d\n"

/-- Whether a file has that trait, and no other that is marked. -/
def isKeptFile (file : File) : Bool :=
  match markedAll [] file.items with
  | [⟨[], decl, .ok
      ⟨name, .within false (.phrase .path [.phrase .segment [.ident i]]), none, [], []⟩⟩] =>
    (Service.imports file.items).isEmpty && name = .plain "A" && i = .plain "self" &&
      (serviceTrait (widenedTrait decl)).toNode.tokens =
        (serviceTrait (widenedTrait keptTrait)).toNode.tokens
  | _ => false

/-- The service is built. -/
theorem exists_judging_of_isKeptFile {file : File} (h : isKeptFile file = true) : ∃ f b,
    Judging file.items .default [] (markedAll [] file.items) [⟨f, .ok b⟩] ∧
      f.result = .ok keptService ∧ isName b.stem = true := by
  rw [isKeptFile] at h
  split at h
  next decl name i hall =>
    simp only [Bool.and_eq_true, decide_eq_true_eq, List.isEmpty_iff] at h
    obtain ⟨⟨⟨himports, rfl⟩, rfl⟩, htokens⟩ := h
    obtain ⟨client, hclient⟩ := exists_keptText
    obtain ⟨registration, hregistration⟩ := exists_keptRegistration
    have hstem : memoStem = Service.unitStem [] keptService.name := unitStem_memo.symm
    have hchecked : checkedText (clientPieces decl keptService memoClient
        (Service.importsInScope file.items []) []) = .ok client := by
      rw [show Service.importsInScope file.items [] = [] from himports, clientPieces_congr htokens]
      exact hclient
    have hunits : serviceUnits file.items .default ⟨[], decl, .ok keptService⟩ keptService
        memoClient = .ok (Built.units ⟨memoStem, client, registration⟩) :=
      serviceUnits_of_checkedText (b := ⟨memoStem, client, registration⟩) hstem hchecked
        hregistration
    rw [hall]
    exact ⟨⟨[], decl, .ok keptService⟩, ⟨memoStem, client, registration⟩,
      .cons (.built rfl rfl List.not_mem_nil hstem hunits) (.nil _), rfl, isName_memoStem⟩
  next => cases h

/-- **A registration that may not use its client unit**: the service is reported as generated, and
the trait, the client and `new` are kept from every place that the unit may have, and from the
registration there. -/
theorem exists_private_unreached : ∃ r file f b s client,
    generate .default keptSource = .ok r ∧ r.services = ["A"] ∧ r.failures.length = 0 ∧
      File.ofText keptSource = .ok file ∧ r = Report.of [⟨f, .ok b⟩] ∧ Linked f s client b ∧
      f.decl.visibility = .restricted false "self" ∧
      ∀ place, ¬(widened f.decl.visibility).Reaches (unitPlace place b.stem) place ∧
        ¬(widened f.decl.visibility).Reaches (unitPlace place b.stem)
          (registrationPlace place b.stem) := by
  obtain ⟨file, htext, hfile⟩ : ∃ file, File.ofText keptSource = .ok file ∧
      isKeptFile file = true := Outcome.exists_of_any (by decide +kernel)
  obtain ⟨f, b, hrun, hresult, hname⟩ := exists_judging_of_isKeptFile hfile
  have hnames : ∀ stem ∈ stemsOf [⟨f, .ok b⟩], isName stem = true :=
    List.forall_mem_singleton.mpr hname
  have hreport : generate .default keptSource = .ok (Report.of [⟨f, .ok b⟩]) := by
    unfold generate
    rw [htext]
    exact generateFile_of_judging rfl hrun hnames
  obtain ⟨s, client, hlinked⟩ := hrun.linked hnames (List.mem_singleton.mpr rfl) rfl
  have hmem : f ∈ markedAll [] file.items := hrun.map_found ▸ List.mem_singleton.mpr rfl
  obtain ⟨baseUrl, hextract⟩ := Service.exists_extract_of_mem_markedAll hmem hresult
  obtain ⟨hsame, hkept⟩ := head_of_extract hextract
  have hkept : f.decl.visibility = .restricted false "self" := hkept.symm
  refine ⟨_, file, f, b, s, client, hreport, ?_, rfl, htext, rfl, hlinked, hkept, fun place => ?_⟩
  · exact congrArg (fun i => [i.text]) hsame.symm
  · have hclosed := hlinked.reach.closed_of_self false hkept place
    exact ⟨hclosed, mt (hlinked.reach.registration_iff place).mp hclosed⟩

end RestLoom.Emit
