import RestLoom.Proofs.Emit.Names
import RestLoom.Proofs.Emit.Report

/-!
# Proofs/Emit/Halting — when generation breaks down

    marked traits A B C  ──▸  A judged, B raw  ──▸  no report, not even on A and C

Generation ends with a report or with an error, or it breaks down: it makes a name of a text that is
none, or lays out a phrase that has no layout.  A breakdown takes the units of all services with it.
It happens at the first trait that causes it, if the traits before have been judged (`StopsAt`), or
after the last one, when the modules of a stem that is no name are declared (`HaltsOn`); there is no
other reason (`generate_breaksDown_iff`).
-/

namespace RestLoom.Emit

open RestLoom.Token (Ident)
open RestLoom.Source
open RestLoom.Service (Found markedAll)

/-- Whether generation stops for a reason that it neither reports nor returns. -/
def Halt.IsBreakdown : Halt → Prop
  | .error _ => False
  | .notAName _ => True
  | .noLayout => True

/-! ## Items without a layout -/

/-- Whether tokens form a file all of which can be laid out. -/
def HasLayout (ts : List Token) : Prop :=
  ∃ f, File.ofTokens ts = .ok f ∧ Node.anyVerbatim f.toNodes = false

/-- Whether tokens form a file with a phrase that cannot be laid out. -/
def LacksLayout (ts : List Token) : Prop :=
  ∃ f, File.ofTokens ts = .ok f ∧ Node.anyVerbatim f.toNodes = true

/-- Whether some items cannot be laid out while all those before them can. -/
def SomeLacksLayout (items : List (List Token)) : Prop :=
  ∃ before ts after, items = before ++ ts :: after ∧ (∀ t ∈ before, HasLayout t) ∧ LacksLayout ts

variable {ts : List Token} {ps : List Piece}

theorem someLacksLayout_singleton : SomeLacksLayout [ts] ↔ LacksLayout ts := by
  constructor
  · rintro ⟨before, ts', after, hall, -, hlacks⟩
    cases before with
    | nil =>
      rw [List.nil_append, List.cons.injEq] at hall
      rwa [hall.1]
    | cons t before => cases before <;> cases hall
  · exact fun h => ⟨[], ts, [], rfl, nofun, h⟩

theorem itemLines_of_file {depth : Nat} {f : File} (hf : File.ofTokens ts = .ok f) :
    Piece.itemLines depth (.ok ts) = match Layout.ofFile f with
      | some text => .ok (Piece.textLines depth (Text.dropEndWhile Text.isBlank text.toList))
      | none => .error .noLayout := by
  rw [Piece.itemLines, Except.bind, hf]
  rfl

theorem itemLines_of_error {depth : Nat} {e : ReadError} (he : File.ofTokens ts = .error e) :
    Piece.itemLines depth (.ok ts) = .error (.invalid e) := by
  rw [Piece.itemLines, Except.bind, he]
  rfl

/-- Why items are not laid out, if they are not. -/
def itemsFault? (ts : List Token) : Option BuildFault :=
  match Piece.itemLines 0 (.ok ts) with
  | .ok _ => none
  | .error e => some e

theorem itemsFault?_eq_none_iff : itemsFault? ts = none ↔ HasLayout ts := by
  unfold itemsFault? HasLayout
  cases hf : File.ofTokens ts with
  | error e =>
    rw [itemLines_of_error hf]
    exact iff_of_false (by rintro ⟨⟩) (by rintro ⟨_, ⟨⟩, -⟩)
  | ok f =>
    rw [itemLines_of_file hf, Layout.ofFile]
    cases hverbatim : Node.anyVerbatim f.toNodes with
    | true =>
      refine iff_of_false (by rintro ⟨⟩) ?_
      rintro ⟨_, ⟨⟩, h⟩
      exact Bool.noConfusion (hverbatim.symm.trans h)
    | false => exact iff_of_true rfl ⟨f, rfl, hverbatim⟩

theorem itemsFault?_eq_noLayout_iff : itemsFault? ts = some .noLayout ↔ LacksLayout ts := by
  unfold itemsFault? LacksLayout
  cases hf : File.ofTokens ts with
  | error e =>
    rw [itemLines_of_error hf]
    exact iff_of_false (by rintro ⟨⟩) (by rintro ⟨_, ⟨⟩, -⟩)
  | ok f =>
    rw [itemLines_of_file hf, Layout.ofFile]
    cases hverbatim : Node.anyVerbatim f.toNodes with
    | true => exact iff_of_true rfl ⟨f, rfl, hverbatim⟩
    | false =>
      refine iff_of_false (by rintro ⟨⟩) ?_
      rintro ⟨_, ⟨⟩, h⟩
      exact Bool.noConfusion (hverbatim.symm.trans h)

/-! ## Texts -/

/-- The items that a piece is. -/
def Piece.ownItems : Piece → List (List Token)
  | .items (.ok ts) => [ts]
  | _ => []

/-- The reason that a report gives. -/
def Piece.Report.fault? : Piece.Report → Option BuildFault
  | .failure e => some e
  | .depth _ => none

theorem buildText_eq (ps : List Piece) :
    buildText ps = match (Piece.reportsAllAt 0 ps).findSome? Piece.Report.fault? with
      | some e => .error e
      | none => .ok (textOfLines (Piece.linesAllAt 0 ps)) := rfl

/-- Whether no items are inside of a piece, and it is items only if there are some. -/
def Piece.IsFlat : Piece → Prop
  | .items (.error _) => False
  | .block _ body => Piece.reportsAllAt 1 body = []
  | _ => True

theorem findSome?_reportsAt {p : Piece} (h : p.IsFlat) :
    (Piece.reportsAt 0 p).findSome? Piece.Report.fault? = p.ownItems.findSome? itemsFault? := by
  cases p with
  | items tokens =>
    cases tokens with
    | error e => exact h.elim
    | ok ts =>
      rw [Piece.reportsAt, Piece.ownItems, List.findSome?_singleton, itemsFault?]
      cases Piece.itemLines 0 (.ok ts) <;> rfl
  | block header body =>
    rw [Piece.reportsAt, show Piece.reportsAllAt 1 body = [] from h]
    rfl
  | line => rfl
  | blank => rfl
  | comment => rfl
  | tellDepth => rfl

/-- The first fault of pieces is that of their items. -/
theorem findSome?_reportsAllAt (h : ∀ p ∈ ps, p.IsFlat) :
    (Piece.reportsAllAt 0 ps).findSome? Piece.Report.fault? =
      (ps.flatMap Piece.ownItems).findSome? itemsFault? := by
  induction ps with
  | nil => rfl
  | cons p ps ih =>
    rw [List.forall_mem_cons] at h
    rw [Piece.reportsAllAt, List.flatMap_cons, List.findSome?_append, List.findSome?_append,
      findSome?_reportsAt h.1, ih h.2]

/-- **A text lacks a layout** just when some of its items do, and those before them do not. -/
theorem buildText_eq_noLayout_iff (h : ∀ p ∈ ps, p.IsFlat) :
    buildText ps = .error .noLayout ↔ SomeLacksLayout (ps.flatMap Piece.ownItems) := by
  have hfault : buildText ps = .error .noLayout ↔
      (ps.flatMap Piece.ownItems).findSome? itemsFault? = some .noLayout := by
    rw [buildText_eq, findSome?_reportsAllAt h]
    cases (ps.flatMap Piece.ownItems).findSome? itemsFault? with
    | none => exact iff_of_false nofun nofun
    | some e => rw [Except.error.injEq, Option.some.injEq]
  rw [hfault, List.findSome?_eq_some_iff]
  simp only [itemsFault?_eq_none_iff, itemsFault?_eq_noLayout_iff, SomeLacksLayout]
  constructor
  · rintro ⟨before, ts, after, hall, hlacks, hbefore⟩
    exact ⟨before, ts, after, hall, hbefore, hlacks⟩
  · rintro ⟨before, ts, after, hall, hbefore, hlacks⟩
    exact ⟨before, ts, after, hall, hlacks, hbefore⟩

variable {h : Halt}

/-- **A unit's text** is never refused for a name; its breakdown is that some items cannot be laid
out. -/
theorem checkedText_eq_error_iff (hh : h.IsBreakdown) :
    checkedText ps = .error h ↔ h = .noLayout ∧ buildText ps = .error .noLayout := by
  rw [checkedText]
  cases hbuild : buildText ps with
  | error e =>
    cases e with
    | invalid e =>
      refine iff_of_false ?_ (by rintro ⟨-, ⟨⟩⟩)
      rintro ⟨⟩
      exact hh
    | noLayout =>
      rw [and_iff_left rfl]
      exact ⟨fun h => (Except.error.inj h).symm, fun h => h ▸ rfl⟩
  | ok text =>
    refine iff_of_false (fun herror => ?_) (by rintro ⟨-, ⟨⟩⟩)
    change (do
      let _ ← (File.ofText text).mapError fun e => Halt.ofFault (.invalid e)
      return text) = _ at herror
    cases hfile : File.ofText text with
    | ok f =>
      rw [hfile] at herror
      cases herror
    | error e =>
      rw [hfile] at herror
      cases herror
      exact hh

/-! ## Units -/

variable {decl : TraitDecl} {s : Service} {client : Ident} {uses : List Node}
  {imports : List String} {modules : List Ident}

/-- The items of a client unit: imports, trait, contract and client. -/
def clientItems (decl : TraitDecl) (s : Service) (client : Ident) (uses : List Node) :
    List (List Token) :=
  let decl := { decl with visibility := widened decl.visibility }
  let service := { s with visibility := widened s.visibility }
  (if uses.isEmpty then [] else [Node.tokensAll uses]) ++
    [(serviceTrait decl).toNode.tokens, contractTokens service, clientTokens service client]

theorem flatMap_ownItems_clientPieces :
    (clientPieces decl s client uses imports).flatMap Piece.ownItems =
      clientItems decl s client uses := by
  have himports : (imports.flatMap fun i =>
      [Piece.line "#[allow(unused_imports)]", .line ("use " ++ i ++ "::*;")]).flatMap
        Piece.ownItems = [] := by
    rw [List.flatMap_assoc]
    exact List.flatMap_eq_nil_iff.mpr fun _ _ => rfl
  have huses : (if uses.isEmpty then [] else [itemsPiece (Node.tokensAll uses)]).flatMap
      Piece.ownItems = if uses.isEmpty then [] else [Node.tokensAll uses] := by
    split <;> rfl
  have hblank : (if imports.isEmpty && uses.isEmpty then [] else [Piece.blank]).flatMap
      Piece.ownItems = [] := by
    split <;> rfl
  rw [clientPieces, clientItems, List.flatMap_append, List.flatMap_append, List.flatMap_append,
    List.flatMap_append, himports, huses, hblank]
  simp only [List.append_nil]
  rfl

theorem isFlat_of_mem_clientPieces {p : Piece} (hp : p ∈ clientPieces decl s client uses imports) :
    p.IsFlat := by
  simp only [clientPieces, List.mem_append, List.mem_cons, List.not_mem_nil, or_false,
    List.mem_flatMap] at hp
  obtain ((((rfl | rfl) | ⟨i, -, rfl | rfl⟩) | hp) | hp) | hp := hp
  · trivial
  · trivial
  · trivial
  · trivial
  · split at hp
    · cases hp
    · rw [List.mem_singleton.mp hp]
      trivial
  · split at hp
    · cases hp
    · rw [List.mem_singleton.mp hp]
      trivial
  · obtain rfl | rfl | rfl | rfl | rfl := hp <;> trivial

theorem map_eq_error {α β : Type} {x : Except Halt α} {g : α → β} :
    (do return g (← x)) = .error h ↔ x = .error h := by
  cases x with
  | error e =>
    exact ⟨fun h => congrArg _ (Except.error.inj h), fun h => congrArg _ (Except.error.inj h)⟩
  | ok a => exact iff_of_false nofun nofun

theorem clientUnit_eq_error_iff (hh : h.IsBreakdown) :
    clientUnit modules decl s client uses imports = .error h ↔
      h = .noLayout ∧ SomeLacksLayout (clientItems decl s client uses) := by
  have hitems : clientItems decl s client uses =
      (clientPieces decl s client uses imports).flatMap Piece.ownItems :=
    flatMap_ownItems_clientPieces.symm
  rw [hitems, ← buildText_eq_noLayout_iff fun _ hp => isFlat_of_mem_clientPieces hp,
    ← checkedText_eq_error_iff hh]
  exact map_eq_error

theorem registrationUnit_eq_error_iff (hh : h.IsBreakdown) :
    registrationUnit modules s client = .error h ↔
      h = .noLayout ∧ LacksLayout (registrationTokens s client) := by
  have hflat : ∀ p ∈ registrationPieces (Service.unitStem modules s.name) s client, p.IsFlat := by
    intro p hp
    simp only [registrationPieces, List.mem_cons, List.not_mem_nil, or_false] at hp
    obtain rfl | rfl | rfl | rfl | rfl | rfl | rfl := hp
    · trivial
    · trivial
    · trivial
    · trivial
    · trivial
    · trivial
    · rfl
  have hitems : (registrationPieces (Service.unitStem modules s.name) s client).flatMap
      Piece.ownItems = [registrationTokens s client] := rfl
  rw [← someLacksLayout_singleton, ← hitems, ← buildText_eq_noLayout_iff hflat,
    ← checkedText_eq_error_iff hh]
  exact map_eq_error

variable {items : List Item} {o : Options} {f : Found}

/-- Whether some items of a service's units cannot be laid out, while the units are made up to
them. -/
inductive UnitsLackLayout (items : List Item) (o : Options) (f : Found) (s : Service)
    (client : Ident) : Prop
  | client
    (h : SomeLacksLayout (clientItems f.decl s client (Service.importsInScope items f.modules)))
  | registration {u : SourceUnit}
    (hu : clientUnit f.modules f.decl s client (Service.importsInScope items f.modules) o.imports =
      .ok u)
    (h : LacksLayout (registrationTokens s client))

theorem serviceUnits_eq_error_iff (hh : h.IsBreakdown) :
    serviceUnits items o f s client = .error h ↔
      h = .noLayout ∧ UnitsLackLayout items o f s client := by
  rw [serviceUnits, Outcome.bind_eq_error, clientUnit_eq_error_iff hh]
  constructor
  · rintro (⟨rfl, hlacks⟩ | ⟨u, hu, herror⟩)
    · exact ⟨rfl, .client hlacks⟩
    · obtain ⟨rfl, hlacks⟩ := (registrationUnit_eq_error_iff hh).mp (map_eq_error.mp herror)
      exact ⟨rfl, .registration hu hlacks⟩
  · rintro ⟨rfl, hlacks | ⟨hu, hlacks⟩⟩
    · exact .inl ⟨rfl, hlacks⟩
    · exact .inr ⟨_, hu,
        map_eq_error.mpr ((registrationUnit_eq_error_iff hh).mpr ⟨rfl, hlacks⟩)⟩

/-! ## The traits -/

/-- **How a marked trait stops generation** when the units in `stems` have been built before it. -/
inductive StopsAt (items : List Item) (o : Options) (stems : List String) (f : Found) : Halt → Prop
  /-- It declares a service whose name is raw, so that the client would have a name that is none. -/
  | rawName {s : Service} (hs : f.result = .ok s) (hraw : s.name.raw = true) :
    StopsAt items o stems f (.notAName (Service.clientText s.name))
  /-- The units of its service have items without a layout. -/
  | noLayout {s : Service} {client : Ident} (hs : f.result = .ok s)
    (hclient : Service.clientName? s.name = some client)
    (hfree : Service.unitStem f.modules s.name ∉ stems)
    (hlacks : UnitsLackLayout items o f s client) : StopsAt items o stems f .noLayout

theorem StopsAt.isBreakdown {stems : List String} (hstops : StopsAt items o stems f h) :
    h.IsBreakdown := by
  cases hstops <;> trivial

theorem clientName?_eq_none_iff {name : Ident} :
    Service.clientName? name = none ↔ name.raw = true := by
  rw [Service.clientName?]
  split <;> simp_all

variable {js : List Judged} {fs : List Found}

theorem addService_eq_error_iff (hh : h.IsBreakdown) :
    addService items o (progressOf js) f = .error h ↔ StopsAt items o (stemsOf js) f h := by
  constructor
  · intro herror
    rw [addService] at herror
    dsimp only at herror
    cases hs : f.result with
    | error e =>
      rw [hs] at herror
      cases herror
    | ok s =>
      rw [hs] at herror
      dsimp only at herror
      cases hclient : Service.clientName? s.name with
      | none =>
        rw [hclient] at herror
        rw [← Except.error.inj herror]
        exact .rawName hs (clientName?_eq_none_iff.mp hclient)
      | some client =>
        rw [hclient] at herror
        dsimp only at herror
        by_cases htaken : Service.unitStem f.modules s.name ∈ stemsOf js
        · rw [if_pos (contains_stems_iff.mpr htaken)] at herror
          cases herror
        · rw [if_neg (mt contains_stems_iff.mp htaken)] at herror
          have hunits : serviceUnits items o f s client = .error h := by
            cases hunits : serviceUnits items o f s client with
            | ok us =>
              rw [hunits] at herror
              cases herror
            | error e =>
              rw [hunits] at herror
              cases e with
              | error e => cases herror
              | notAName text => exact congrArg _ (Except.error.inj herror)
              | noLayout => exact congrArg _ (Except.error.inj herror)
          obtain ⟨rfl, hlacks⟩ := (serviceUnits_eq_error_iff hh).mp hunits
          exact .noLayout hs hclient htaken hlacks
  · rintro (⟨hs, hraw⟩ | ⟨hs, hclient, hfree, hlacks⟩)
    · rw [addService, hs]
      dsimp only
      rw [clientName?_eq_none_iff.mpr hraw]
    · rw [addService, hs]
      dsimp only
      rw [hclient]
      refine (if_neg (mt contains_stems_iff.mp hfree)).trans ?_
      rw [(serviceUnits_eq_error_iff (h := .noLayout) trivial).mpr ⟨rfl, hlacks⟩]

/-- **A run over the traits breaks down** at the first that stops it, once those before have been
judged. -/
theorem addServices_eq_error_iff (hh : h.IsBreakdown) {looks : Nat} :
    addServices items o looks (progressOf js) fs = .error h ↔
      ∃ before f after js', fs = before ++ f :: after ∧
        o.signal.IsDown looks (looks + (before.length + 1)) ∧
        Judging items o (stemsOf js) before js' ∧ StopsAt items o (stemsOf (js ++ js')) f h := by
  induction fs generalizing js looks with
  | nil =>
    refine iff_of_false nofun ?_
    rintro ⟨before, f, after, js', hall, -⟩
    exact List.append_ne_nil_of_right_ne_nil _ (List.cons_ne_nil _ _) hall.symm
  | cons f fs ih =>
    rw [addServices]
    cases hup : o.signal.isUp looks with
    | true =>
      refine iff_of_false (fun herror => ?_) ?_
      · rw [if_pos rfl] at herror
        cases herror
        exact hh
      · rintro ⟨before, -, -, -, -, hdown, -⟩
        rw [hdown looks le_rfl (by omega)] at hup
        cases hup
    | false =>
      rw [if_neg Bool.false_ne_true, Outcome.bind_eq_error, addService_eq_error_iff hh]
      have hshift (n : Nat) : o.signal.IsDown looks (looks + (n + 1)) ↔
          o.signal.IsDown (looks + 1) (looks + 1 + n) := by
        rw [show looks + (n + 1) = looks + 1 + n by omega,
          Signal.isDown_append (Nat.le_add_right looks 1) (Nat.le_add_right _ _),
          Signal.isDown_singleton, and_iff_right hup]
      constructor
      · rintro (hstops | ⟨_, hp, hrest⟩)
        · refine ⟨[], f, fs, [], rfl, (hshift 0).mpr (Signal.isDown_empty _ _), .nil _, ?_⟩
          rwa [List.append_nil]
        · obtain ⟨v, hv, rfl⟩ := addService_eq_ok_iff.mp hp
          obtain ⟨before, g, after, js', rfl, hdown, hrun, hstops⟩ := ih.mp hrest
          rw [stemsOf_append] at hrun
          refine ⟨f :: before, g, after, ⟨f, v⟩ :: js', rfl, (hshift _).mpr hdown, .cons hv hrun, ?_⟩
          rwa [List.append_assoc, List.singleton_append] at hstops
      · rintro ⟨before, g, after, js', hall, hdown, hrun, hstops⟩
        cases before with
        | nil =>
          cases hrun
          rw [List.nil_append, List.cons.injEq] at hall
          rw [List.append_nil, ← hall.1] at hstops
          exact .inl hstops
        | cons f' before =>
          rw [List.cons_append, List.cons.injEq] at hall
          obtain ⟨rfl, rfl⟩ := hall
          cases hrun with
          | @cons _ _ v _ js' hv hrun =>
            rw [← stemsOf_append] at hrun
            refine .inr ⟨_, addService_of_judges hv, ih.mpr ⟨before, g, after, js', rfl,
              (hshift _).mp hdown, hrun, ?_⟩⟩
            rwa [List.append_assoc, List.singleton_append]

/-! ## The whole of generation -/

/-- The first stem that is no name. -/
def unnamed? (stems : List String) : Option String := stems.find? fun s => !isName s

/-- **The unit of modules** breaks down at the first stem that is no name. -/
theorem moduleUnit_eq_error_iff {stems : List String} (hne : stems ≠ [])
    (hstems : ∀ s ∈ stems, IsModuleName s) :
    moduleUnit stems = .error h ↔ ∃ stem, unnamed? stems = some stem ∧ h = .notAName stem := by
  cases hfind : unnamed? stems with
  | some stem =>
    have hunit : moduleUnit stems = .error (.notAName stem) := by
      rw [moduleUnit, show (stems.find? fun s => !isName s) = some stem from hfind]
    rw [hunit, Except.error.injEq]
    constructor
    · rintro rfl
      exact ⟨stem, rfl, rfl⟩
    · rintro ⟨_, ⟨⟩, rfl⟩
      rfl
  | none =>
    have hnames : ∀ s ∈ stems, isName s = true := fun s hs => by
      simpa using List.find?_eq_none.mp hfind s hs
    rw [moduleUnit_of_names hne hstems hnames]
    exact iff_of_false (by rintro ⟨⟩) (by rintro ⟨_, ⟨⟩, -⟩)

theorem Judging.completed_eq_error_iff {stems : List String} (hrun : Judging items o stems fs js) :
    completed (progressOf js) = .error h ↔
      ∃ stem, unnamed? (stemsOf js) = some stem ∧ h = .notAName stem := by
  by_cases hne : stemsOf js = []
  · rw [completed, if_pos (isEmpty_stems_iff.mpr hne), hne]
    exact iff_of_false (by rintro ⟨⟩) (by rintro ⟨_, ⟨⟩, -⟩)
  · rw [completed, if_neg (mt isEmpty_stems_iff.mp hne),
      ← moduleUnit_eq_error_iff hne fun s hs => isModuleName_of_stemEnd (hrun.stemEnd_suffix hs)]
    exact map_eq_error

/-- **How generation from a file breaks down**: at a marked trait once those before it have been
judged, or after all of them have been, at the first stem that is no name. -/
inductive HaltsOn (o : Options) (file : File) : Halt → Prop
  | atTrait {before after : List Found} {f : Found} {js : List Judged} {h : Halt}
    (hall : markedAll [] file.items = before ++ f :: after)
    (hdown : o.signal.IsDown 0 (Service.countAll file.items + (before.length + 1)))
    (hrun : Judging file.items o [] before js) (hstops : StopsAt file.items o (stemsOf js) f h) :
    HaltsOn o file h
  | atModules {js : List Judged} {stem : String} (hdown : o.signal.IsDown 0 (looksOf file))
    (hrun : Judging file.items o [] (markedAll [] file.items) js)
    (hstem : unnamed? (stemsOf js) = some stem) : HaltsOn o file (.notAName stem)

theorem HaltsOn.isBreakdown {file : File} (hhalts : HaltsOn o file h) : h.IsBreakdown := by
  cases hhalts with
  | atTrait _ _ _ hstops => exact hstops.isBreakdown
  | atModules => trivial

theorem generateFile_eq_error_iff (hh : h.IsBreakdown) {file : File} :
    generateFile o file = .error h ↔ HaltsOn o file h := by
  have hsplit (n : Nat) : o.signal.IsDown 0 (Service.countAll file.items + n) ↔
      o.signal.IsDown 0 (Service.countAll file.items) ∧
        o.signal.IsDown (Service.countAll file.items) (Service.countAll file.items + n) :=
    Signal.isDown_append (Nat.zero_le _) (Nat.le_add_right _ _)
  rw [generateFile_eq]
  cases hfind : Service.findServices o.signal file with
  | none =>
    have hup : ¬o.signal.IsDown 0 (Service.countAll file.items) := fun hdown => by
      rw [Service.findServices_eq_some_iff.mpr ⟨hdown, rfl⟩] at hfind
      cases hfind
    refine iff_of_false ?_ ?_
    · rintro ⟨⟩
      exact hh
    · rintro (⟨-, hdown, -⟩ | ⟨hdown, -⟩)
      · exact hup ((hsplit _).mp hdown).1
      · exact hup ((hsplit _).mp hdown).1
  | some found =>
    obtain ⟨hdown, rfl⟩ := Service.findServices_eq_some_iff.mp hfind
    dsimp only
    rw [Outcome.bind_eq_error, addServices_eq_error_iff hh]
    constructor
    · rintro (⟨before, f, after, js, hall, hlooks, hrun, hstops⟩ | ⟨p, hp, herror⟩)
      · exact .atTrait hall ((hsplit _).mpr ⟨hdown, hlooks⟩) hrun hstops
      · obtain ⟨hlooks, js, hrun, rfl⟩ := addServices_eq_ok_iff.mp hp
        obtain ⟨stem, hstem, rfl⟩ := hrun.completed_eq_error_iff.mp herror
        exact .atModules ((hsplit _).mpr ⟨hdown, hlooks⟩) hrun hstem
    · rintro (⟨hall, hlooks, hrun, hstops⟩ | ⟨hlooks, hrun, hstem⟩)
      · exact .inl ⟨_, _, _, _, hall, ((hsplit _).mp hlooks).2, hrun, hstops⟩
      · exact .inr ⟨_, addServices_eq_ok_iff.mpr ⟨((hsplit _).mp hlooks).2, _, hrun, rfl⟩,
          hrun.completed_eq_error_iff.mpr ⟨_, hstem, rfl⟩⟩

/-- What stops a trait is a breakdown: any error is noted as its failure. -/
theorem isBreakdown_of_addService {p : Progress} (herror : addService items o p f = .error h) :
    h.IsBreakdown := by
  rw [addService] at herror
  dsimp only at herror
  split at herror
  · cases herror
  · split at herror
    · cases herror
      trivial
    · split at herror
      · cases herror
      · split at herror
        · cases herror
        next hne hunits =>
          cases herror
          cases h with
          | error e => exact hne e rfl
          | notAName => trivial
          | noLayout => trivial
        · cases herror

/-- A run over the traits returns an error only where it sees the signal up. -/
theorem exists_isUp_of_addServices {p : Progress} {looks : Nat} {e : GenerateError}
    (herror : addServices items o looks p fs = .error (.error e)) :
    ∃ look, o.signal.isUp look = true := by
  induction fs generalizing p looks with
  | nil => cases herror
  | cons f fs ih =>
    rw [addServices] at herror
    split at herror
    next hup => exact ⟨looks, hup⟩
    next =>
      obtain hstep | ⟨p', -, hrest⟩ := Outcome.bind_eq_error.mp herror
      · exact (isBreakdown_of_addService hstep).elim
      · exact ih hrest

/-- **With a signal that stays down** a text that reads as a file is reported on, or generation
breaks down on the file. -/
theorem generate_eq_ok_or_haltsOn (hsignal : o.signal = .never) {text : String} {file : File}
    (hfile : File.ofText text = .ok file) :
    (∃ r, generate o text = .ok r) ∨ ∃ h, generate o text = .error h ∧ HaltsOn o file h := by
  have hgenerate : generate o text = generateFile o file := by
    unfold generate
    rw [hfile]
  rw [hgenerate]
  cases hresult : generateFile o file with
  | ok r => exact .inl ⟨r, rfl⟩
  | error h =>
    refine .inr ⟨h, rfl, (generateFile_eq_error_iff ?_).mp hresult⟩
    cases h with
    | notAName => trivial
    | noLayout => trivial
    | error e =>
      have hfind : Service.findServices o.signal file =
          some (markedAll [] file.items, Service.countAll file.items) := by
        rw [hsignal]
        exact Service.findServices_eq_some_iff.mpr ⟨Signal.never_isDown _ _, rfl⟩
      rw [generateFile_eq, hfind] at hresult
      obtain herror | ⟨p, hp, herror⟩ := Outcome.bind_eq_error.mp hresult
      · obtain ⟨look, hup⟩ := exists_isUp_of_addServices herror
        rw [hsignal, Signal.never_isUp] at hup
        cases hup
      · obtain ⟨-, js, hrun, rfl⟩ := addServices_eq_ok_iff.mp hp
        obtain ⟨stem, -, hstem⟩ := hrun.completed_eq_error_iff.mp herror
        cases hstem

/-- Whether no marked trait of a file, and no module around one, has a raw name. -/
def HasPlainNames (file : File) : Prop :=
  ∀ f ∈ markedAll [] file.items, ∀ i ∈ f.modules ++ [f.decl.name], i.raw = false

/-- **Where names are plain**, generation breaks down only for want of a layout. -/
theorem HaltsOn.eq_noLayout {text : String} {file : File} (hhalts : HaltsOn o file h)
    (hfile : File.ofText text = .ok file) (hplain : HasPlainNames file) : h = .noLayout := by
  have hname {f : Found} {s : Service} (hf : f ∈ markedAll [] file.items) (hs : f.result = .ok s) :
      f.decl.name = s.name := by
    obtain ⟨baseUrl, hextract⟩ := Service.exists_extract_of_mem_markedAll hf hs
    obtain ⟨-, rfl⟩ := Service.extract_eq_ok.mp hextract
    rfl
  cases hhalts with
  | @atTrait before after f js _ hall hdown hrun hstops =>
    cases hstops with
    | noLayout => rfl
    | @rawName s hs hraw =>
      have hf : f ∈ markedAll [] file.items := by
        rw [hall]
        exact List.mem_append_right before List.mem_cons_self
      have hdown := hplain f hf f.decl.name (List.mem_append_right _ (List.mem_singleton_self _))
      rw [hname hf hs, hraw] at hdown
      cases hdown
  | @atModules js stem hdown hrun hstem =>
    obtain ⟨hnone, -⟩ := List.find?_eq_some_iff_append.mp hstem
    obtain ⟨j, hj, b, hb, rfl⟩ := mem_stemsOf (List.mem_of_find?_eq_some hstem)
    obtain ⟨stems', hjudges⟩ := hrun.exists_judges hj
    rw [hb] at hjudges
    obtain ⟨s, hs, hstem', -⟩ := hjudges.stem
    have hf : j.found ∈ markedAll [] file.items := by
      rw [← hrun.map_found]
      exact List.mem_map_of_mem hj
    have hplain' := hplain j.found hf
    rw [hname hf hs] at hplain'
    rw [hstem', (isName_unitStem_iff (isSpelled_of_mem_markedAll hfile hf hs)).mpr hplain'] at hnone
    cases hnone

/-- **The names that are made for a service** in modules: those of its client and of its units' stem
are made of plain names only, and the others always are names. -/
structure NamesMade (modules : List Ident) (s : Service) : Prop where
  client : isName (Service.clientText s.name) = true ↔ s.name.raw = false
  stem : isName (Service.unitStem modules s.name) = true ↔ ∀ i ∈ modules ++ [s.name], i.raw = false
  key : isName (keyName s).text = true
  factory : isName (factoryName s).text = true
  /-- The name for a place of a path is that of a parameter, not made of the text of the place. -/
  places : ∀ e ∈ s.endpoints, ∀ place ∈ e.path.placeholders,
    ∃ p ∈ e.params, e.pathParam? place = some p

theorem namesMade {text : String} {file : File} (hfile : File.ofText text = .ok file)
    (hf : f ∈ markedAll [] file.items) (hs : f.result = .ok s) : NamesMade f.modules s := by
  have hspelled := isSpelled_of_mem_markedAll hfile hf hs
  have hname := hspelled s.name (List.mem_append_right _ List.mem_cons_self)
  obtain ⟨baseUrl, hextract⟩ := Service.exists_extract_of_mem_markedAll hf hs
  exact
    { client := isName_clientText_iff hname
      stem := isName_unitStem_iff hspelled
      key := isName_keyName hname
      factory := isName_factoryName hname
      places := fun _ he _ hplace => exists_pathParam hextract he hplace }

/-- Generation breaks down on a text just when it does on the file that the text reads as. -/
theorem generate_eq_breakdown_iff {o : Options} {text : String} {h : Halt} :
    generate o text = .error h ∧ h.IsBreakdown ↔
      ∃ file, File.ofText text = .ok file ∧ HaltsOn o file h := by
  unfold generate
  cases File.ofText text with
  | error e =>
    refine iff_of_false ?_ nofun
    rintro ⟨⟨⟩, hh⟩
    exact hh
  | ok file =>
    constructor
    · rintro ⟨herror, hh⟩
      exact ⟨file, rfl, (generateFile_eq_error_iff hh).mp herror⟩
    · rintro ⟨_, ⟨⟩, hhalts⟩
      exact ⟨(generateFile_eq_error_iff hhalts.isBreakdown).mpr hhalts, hhalts.isBreakdown⟩

/-- **Generation breaks down** on a text just when the text reads as a file with a trait that stops
it, or with services whose modules cannot be declared; all else it reports or returns as an error.
Of the names made for a service, only those of its client and of its units' stem may be none. -/
theorem generate_breaksDown_iff (o : Options) (text : String) :
    (∀ h, generate o text = .error h ∧ h.IsBreakdown ↔
      ∃ file, File.ofText text = .ok file ∧ HaltsOn o file h) ∧
    ∀ file, File.ofText text = .ok file → ∀ f ∈ markedAll [] file.items, ∀ s, f.result = .ok s →
      NamesMade f.modules s :=
  ⟨fun _ => generate_eq_breakdown_iff, fun _ hfile _ hf _ hs => namesMade hfile hf hs⟩

/-- A text with a service whose name is raw. -/
def rawSource : String := "#[rest_client]\ntrait r#type \x7b\x7d\n"

/-- Whether generation stops for a text that is no name. -/
def isHaltedBy (text : String) : Except Halt Report → Bool
  | .error (.notAName t) => t = text
  | _ => false

theorem eq_of_isHaltedBy {text : String} {r : Except Halt Report} (h : isHaltedBy text r = true) :
    r = .error (.notAName text) := by
  unfold isHaltedBy at h
  split at h
  · rw [of_decide_eq_true h]
  · cases h

/-- Whether a file has just one marked trait, a service whose name is raw. -/
def isRawFile (file : File) : Bool :=
  match markedAll [] file.items with
  | [⟨_, _, .ok s⟩] => s.name.raw
  | _ => false

/-- What is seen by computation: generation stops, and the text reads as a file with the service. -/
theorem rawSource_computed :
    isHaltedBy "r#typeGeneratedClient" (generate .default rawSource) = true ∧
      (match File.ofText rawSource with
        | .ok file => isRawFile file
        | .error _ => false) = true :=
  ⟨by decide +kernel, by decide +kernel⟩

theorem generate_rawSource :
    generate .default rawSource = .error (.notAName "r#typeGeneratedClient") :=
  eq_of_isHaltedBy rawSource_computed.1

/-- **A service whose name is raw** stops generation from a text that reads as a file. -/
theorem exists_rawSource_breaksDown : ∃ file f s, File.ofText rawSource = .ok file ∧
    HaltsOn .default file (.notAName "r#typeGeneratedClient") ∧ f ∈ markedAll [] file.items ∧
    f.result = .ok s ∧ s.name.raw = true ∧ NamesMade f.modules s := by
  obtain ⟨file, hfile, hhalts⟩ :=
    ((generate_breaksDown_iff .default rawSource).1 _).mp ⟨generate_rawSource, trivial⟩
  have hraw := rawSource_computed.2
  rw [hfile] at hraw
  dsimp only at hraw
  rw [isRawFile] at hraw
  split at hraw
  next modules decl s hall =>
    have hf : ⟨modules, decl, .ok s⟩ ∈ markedAll [] file.items := by
      rw [hall]
      exact List.mem_singleton_self _
    exact ⟨file, _, s, hfile, hhalts, hf, rfl, hraw,
      (generate_breaksDown_iff .default rawSource).2 file hfile _ hf s rfl⟩
  next => cases hraw

/-- Generation does not report on every text that reads as a file, or else return an error: it
breaks down on a name that is raw. -/
theorem not_forall_generate_reports : ¬ ∀ o text file, File.ofText text = .ok file →
    (∃ r, generate o text = .ok r) ∨ ∃ e, generate o text = .error (.error e) := by
  intro hall
  have hraw := rawSource_computed.2
  cases htext : File.ofText rawSource with
  | error e =>
    rw [htext] at hraw
    cases hraw
  | ok file =>
    obtain ⟨r, h⟩ | ⟨e, h⟩ := hall .default rawSource file htext
    · cases generate_rawSource.symm.trans h
    · cases generate_rawSource.symm.trans h

end RestLoom.Emit
