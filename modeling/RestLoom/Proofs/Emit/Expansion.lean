import RestLoom.Emit.Expansion
import RestLoom.Proofs.Emit.Halting
import RestLoom.Proofs.Emit.Independence

/-!
# Proofs/Emit/Expansion — one service, generated where it stands or from its file

    #[rest_client(…)] trait A …  ──expansion──▸  trait · contract · client · registration
               │
               └──generate──▸  a_generated_client.rs               imports · trait · contract · client
                               a_generated_client_registration.rs  registration

Where a marker stands in source code, its arguments come apart from the trait; in a file the marker
is still on the trait and has to be found and read.  It is the only one, it is read as its
arguments, and without markers the two traits are one.  So both come to the same service or the same
error, and what they generate for the service differs in the visibility that units widen
(`expansion_agrees`).
-/

namespace RestLoom.Emit

open RestLoom.Token
open RestLoom.Source
open RestLoom.Service (ExtractError Found Removal isServiceMarker)

/-! ## A trait under a marker -/

/-- Whether an attribute marks a trait as a service, with those arguments. -/
structure IsMarker (arguments : List Token) (a : Attribute) : Prop where
  marks : isServiceMarker a = true
  arguments : a.arguments = .absent ∧ arguments = [] ∨ ∃ d, a.arguments = .list d arguments

/-- Whether the second trait is the first one, which has no marker, under a marker with those
arguments: it stands somewhere among the attributes. -/
structure Marked (arguments : List Token) (t t' : TraitDecl) : Prop where
  bare : ∀ a ∈ t.attributes, isServiceMarker a = false
  placed : ∃ before marker after, IsMarker arguments marker ∧ t.attributes = before ++ after ∧
    t' = { t with attributes := before ++ marker :: after }

variable {arguments : List Token} {t t' : TraitDecl} {s : Service} {client : Ident}

/-- A marker is read as its arguments are. -/
theorem IsMarker.readServiceMarker {a : Attribute} (h : IsMarker arguments a) :
    Service.readServiceMarker a = Service.readServiceArguments arguments := by
  rw [Service.readServiceMarker]
  obtain ⟨habsent, rfl⟩ | ⟨d, hlist⟩ := h.arguments
  · rw [habsent]
    rfl
  · rw [hlist]

/-- **The service of a marked trait** is the one it declares without its marker. -/
theorem Marked.extractMarked (h : Marked arguments t t') :
    Service.extractMarked t' = some (markedService arguments t) := by
  obtain ⟨before, marker, after, hmarker, heq, rfl⟩ := h.placed
  have hbefore : before.find? isServiceMarker = none := List.find?_eq_none.mpr fun a ha =>
    Bool.eq_false_iff.mp (h.bare a (heq ▸ List.mem_append_left after ha))
  have hfind : (before ++ marker :: after).find? isServiceMarker = some marker := by
    rw [List.find?_append, hbefore, Option.none_or, List.find?_cons_of_pos hmarker.marks]
  rw [Service.extractMarked, hfind, Option.map_some, hmarker.readServiceMarker]
  rfl

/-- **Without markers** the two traits are one. -/
theorem Marked.stripTrait (h : Marked arguments t t') :
    Service.stripTrait t' = Service.stripTrait t := by
  obtain ⟨before, marker, after, hmarker, heq, rfl⟩ := h.placed
  have hfilter : (before ++ marker :: after).filter (fun a => !isServiceMarker a) =
      t.attributes.filter fun a => !isServiceMarker a := by
    rw [heq, List.filter_append, List.filter_append, List.filter_cons, hmarker.marks]
    rfl
  exact congrArg (fun attributes =>
    { t with attributes := attributes, items := t.items.map Service.stripTraitItem }) hfilter

theorem Marked.serviceTrait (h : Marked arguments t t') : serviceTrait t' = serviceTrait t := by
  rw [Emit.serviceTrait, Emit.serviceTrait, h.stripTrait]

/-- **A search** that comes to its end has found a marked trait that stands in the file, among the
others in it. -/
theorem Marked.findServices (h : Marked arguments t t') {signal : Signal} {file : File}
    {found : List Found} {looks : Nat}
    (hfound : Service.findServices signal file = some (found, looks))
    {modules : List Ident} {rest : List Item} (hstands : Removal t' modules file.items rest) :
    ∃ before after, found = before ++ ⟨modules, t', markedService arguments t⟩ :: after ∧
      Service.markedAll [] rest = before ++ after := by
  obtain ⟨-, hall⟩ := Service.findServices_eq_some_iff.mp hfound
  obtain ⟨before, after, hbefore, hrest⟩ := hstands.markedAll []
  have hhere : Service.found? modules t' = some ⟨modules, t', markedService arguments t⟩ := by
    rw [Service.found?, h.extractMarked, Option.map_some]
  rw [List.nil_append, hhere, Option.toList_some, List.append_assoc, List.singleton_append]
    at hbefore
  exact ⟨before, after, (congrArg Prod.fst hall).trans hbefore, hrest⟩

/-! ## Where the marker stands -/

/-- What a marked trait becomes that declares no service. -/
theorem expansion_of_error {item : List Token} (hitem : TraitDecl.ofTokens item = .ok t)
    {e : ExtractError} (he : markedService arguments t = .error e) :
    expansion arguments item =
      some (diagnosticTokens e.message ++ (Emit.serviceTrait t).toNode.tokens) := by
  rw [expansion, hitem]
  dsimp only
  rw [he]

/-- What a marked trait becomes that declares a service. -/
theorem expansion_of_ok {item : List Token} (hitem : TraitDecl.ofTokens item = .ok t)
    (hs : markedService arguments t = .ok s) (hclient : Service.clientName? s.name = some client) :
    expansion arguments item = some (serviceTokens t s client) := by
  rw [expansion, hitem]
  dsimp only
  rw [hs]
  dsimp only
  rw [hclient, Option.map_some]

/-- A service is named after its trait. -/
theorem name_of_markedService (hs : markedService arguments t = .ok s) : s.name = t.name := by
  obtain ⟨baseUrl, -, hextract⟩ := Outcome.bind_eq_ok.mp hs
  rw [(Service.extract_eq_ok.mp hextract).2]
  rfl

/-! ## The units of its file -/

/-- A trait that the whole package may use. -/
def widenedTrait (t : TraitDecl) : TraitDecl := { t with visibility := widened t.visibility }

/-- A service that the whole package may use. -/
def widenedService (s : Service) : Service := { s with visibility := widened s.visibility }

theorem isPublic_widened (v : Visibility) : (widened v).isPublic = v.isPublic := by
  cases v <;> rfl

/-- The visibility of a trait is not touched when its markers go. -/
theorem serviceTrait_widenedTrait (t : TraitDecl) :
    serviceTrait (widenedTrait t) = widenedTrait (serviceTrait t) := by
  have hbound (name : String) (t : TraitDecl) :
      requireBound name (widenedTrait t) = widenedTrait (requireBound name t) := by
    rw [requireBound, requireBound, apply_ite widenedTrait]
    rfl
  rw [serviceTrait, serviceTrait, ← hbound, ← hbound]
  rfl

/-- Of a service, a contract holds its name, its address, and whether it is public. -/
theorem contractTokens_congr {s s' : Service} (hname : s.name = s'.name)
    (hbaseUrl : s.baseUrl = s'.baseUrl) (hpublic : s.isPublic = s'.isPublic) :
    contractTokens s = contractTokens s' := by
  rw [contractTokens, contractTokens, hname, hbaseUrl, hpublic]

/-- The whole package does not change whether a service is public. -/
theorem contractTokens_widenedService (s : Service) :
    contractTokens (widenedService s) = contractTokens s :=
  contractTokens_congr rfl rfl (isPublic_widened s.visibility)

/-- Whether a text is built of pieces with those items in this order, and reads as a file. -/
def BuiltOf (items : List (List Token)) (text : String) : Prop :=
  ∃ ps : List Piece, ps.flatMap Piece.ownItems = items ∧ checkedText ps = .ok text

/-- The items that imports are. -/
def importItems (uses : List Node) : List (List Token) :=
  if uses.isEmpty then [] else [Node.tokensAll uses]

/-- **The units of a service** are built of its imports, its trait, its contract and its client, and
of its registration. -/
theorem serviceUnits_builtOf {items : List Item} {o : Options} {f : Found} {us : List SourceUnit}
    (h : serviceUnits items o f s client = .ok us) : ∃ b : Built, us = b.units ∧
      BuiltOf (importItems (Service.importsInScope items f.modules) ++
        [(widenedTrait (serviceTrait f.decl)).toNode.tokens, contractTokens s,
          clientTokens (widenedService s) client]) b.client ∧
      BuiltOf [registrationTokens s client] b.registration := by
  obtain ⟨b, -, rfl, hclient, hregistration⟩ := serviceUnits_eq_ok h
  refine ⟨b, rfl, ⟨_, ?_, hclient⟩, ⟨_, rfl, hregistration⟩⟩
  rw [← serviceTrait_widenedTrait, ← contractTokens_widenedService]
  exact flatMap_ownItems_clientPieces

/-! ## Agreement -/

/-- Whether a marked trait comes to the same where its marker stands and in the units of its
file. -/
structure Agrees (arguments item : List Token) (t t' : TraitDecl) : Prop where
  /-- It declares the same service, or the error is the same. -/
  extracted : Service.extractMarked t' = some (markedService arguments t)
  /-- So it is found in each file in which it stands. -/
  found : ∀ {signal file found looks modules rest},
    Service.findServices signal file = some (found, looks) → Removal t' modules file.items rest →
      ∃ before after, found = before ++ ⟨modules, t', markedService arguments t⟩ :: after ∧
        Service.markedAll [] rest = before ++ after
  /-- An error is the diagnostic where the marker stands, and the trait stays. -/
  failed : ∀ e, markedService arguments t = .error e → expansion arguments item =
    some (diagnosticTokens e.message ++ (serviceTrait t').toNode.tokens)
  /-- A service is its trait, its contract, its client and its registration where the marker stands,
  and its units are built of the same, but for the visibility of the trait and the client. -/
  generated : ∀ s, markedService arguments t = .ok s → ∃ client,
    Service.clientName? s.name = some client ∧
    expansion arguments item = some ((serviceTrait t').toNode.tokens ++ contractTokens s ++
      clientTokens s client ++ registrationTokens s client) ∧
    ∀ {items o modules us}, serviceUnits items o ⟨modules, t', .ok s⟩ s client = .ok us →
      ∃ b : Built, us = b.units ∧
        BuiltOf (importItems (Service.importsInScope items modules) ++
          [(widenedTrait (serviceTrait t')).toNode.tokens, contractTokens s,
            clientTokens (widenedService s) client]) b.client ∧
        BuiltOf [registrationTokens s client] b.registration

/-- **Both ways to generate a service agree**: a trait whose name is not raw comes to the same
service or the same error under a marker with any arguments, wherever among its attributes it is
put, and to the same code. -/
theorem expansion_agrees {arguments item : List Token} {t t' : TraitDecl}
    (hitem : TraitDecl.ofTokens item = .ok t) (hname : t.name.raw = false)
    (hmarked : Marked arguments t t') : Agrees arguments item t t' where
  extracted := hmarked.extractMarked
  found := fun hfound hstands => hmarked.findServices hfound hstands
  failed := fun e he => by
    rw [hmarked.serviceTrait]
    exact expansion_of_error hitem he
  generated := fun s hs => by
    have hclient : Service.clientName? s.name = some (.plain (Service.clientText s.name)) := by
      rw [Service.clientName?, name_of_markedService hs, hname, if_neg Bool.false_ne_true]
    refine ⟨_, hclient, ?_, fun hunits => serviceUnits_builtOf hunits⟩
    rw [hmarked.serviceTrait]
    exact expansion_of_ok hitem hs hclient

/-- The tokens of the trait with a memo. -/
def memoItem : List Token :=
  [.ident (.plain "trait"), .ident (.plain "A"), .group .brace
    [.ident (.plain "const"), .ident (.plain "NOTE"), .punct ':' .alone, .ident (.plain "Text"),
      .punct '=' .alone, .literal "\x22a\n \nb\x22", .punct ';' .alone]]

theorem ofTokens_memoItem : TraitDecl.ofTokens memoItem = .ok memoTrait := rfl

/-- The trait with a memo is generated where its marker stands, and its units are made. -/
theorem exists_memo_agrees : ∃ b : Built,
    expansion [] memoItem = some ((serviceTrait markedMemo).toNode.tokens ++
      contractTokens memoService ++ clientTokens memoService memoClient ++
      registrationTokens memoService memoClient) ∧
    serviceUnits [] .default ⟨[], markedMemo, .ok memoService⟩ memoService memoClient =
      .ok b.units ∧
    BuiltOf [(widenedTrait (serviceTrait markedMemo)).toNode.tokens, contractTokens memoService,
      clientTokens (widenedService memoService) memoClient] b.client ∧
    BuiltOf [registrationTokens memoService memoClient] b.registration := by
  have hmarked : Marked [] memoTrait markedMemo :=
    ⟨List.forall_mem_nil _, [], serviceMarker, [], ⟨rfl, .inl ⟨rfl, rfl⟩⟩, rfl, rfl⟩
  obtain ⟨client, hclient, hexpansion, hunits⟩ :=
    (expansion_agrees ofTokens_memoItem rfl hmarked).generated memoService rfl
  obtain rfl : client = memoClient := (Option.some.inj hclient).symm
  have huses : Service.importsInScope [] [] = [] := rfl
  obtain ⟨b, -, hb⟩ :=
    exists_serviceUnits_memo (f := ⟨[], markedMemo, .ok memoService⟩) rfl huses rfl
  obtain ⟨b', hsame, hbuilt⟩ := hunits hb
  rw [hsame] at hb
  exact ⟨b', hexpansion, hb, hbuilt⟩

end RestLoom.Emit
