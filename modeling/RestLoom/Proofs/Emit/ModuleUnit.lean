import RestLoom.Emit.Units
import RestLoom.Proofs.Layout.Rows
import RestLoom.Proofs.Source.Modules
import RestLoom.Proofs.Token.Tree

/-!
# Proofs/Emit/ModuleUnit — the unit that declares the modules

    a, b  ──moduleUnit──▸  // notice ⏎ ⏎ pub mod a; ⏎ mod a_registration; ⏎ pub use a::*; ⏎ pub mod b; …

Whenever the stems are names the unit is made, and its text is the notice and three lines for each
stem (`moduleUnit_eq_ok_iff`), however long the names are.
-/

namespace RestLoom.Emit

open RestLoom.Token (Ident)
open RestLoom.Source
open RestLoom.Layout (Row)

/-- The lines of a service in the unit of modules. -/
def moduleLines (stem : String) : List String :=
  ["pub mod " ++ stem ++ ";", "mod " ++ stem ++ "_registration;", "pub use " ++ stem ++ "::*;"]

/-- The text of the unit that declares the modules of these stems. -/
def modulesText (stems : List String) : String :=
  "// " ++ notice ++ "\n\n" ++ String.join ((stems.flatMap moduleLines).map (· ++ "\n"))

/-! ## Reading the declarations -/

/-- The declarations of a service's modules, as items. -/
def moduleItems (stem : String) : List Item :=
  [moduleDeclaration .everyone (.plain stem),
    moduleDeclaration .inherited (.plain (stem ++ "_registration")), globImport (.plain stem)]

theorem moduleTokens_eq (stem : String) :
    moduleTokens stem = (moduleItems stem).flatMap fun i => i.toNode.tokens := by
  have hmod : Token.code "pub mod" = [.ident (.plain "pub"), .ident (.plain "mod")] := by
    decide +kernel
  have hnext : Token.code "; mod" = [.punct ';' .alone, .ident (.plain "mod")] := by
    decide +kernel
  have huse : Token.code "; pub use" =
      [.punct ';' .alone, .ident (.plain "pub"), .ident (.plain "use")] := by
    decide +kernel
  have hall : Token.code "::*;" =
      [.punct ':' .joint, .punct ':' .alone, .punct '*' .alone, .punct ';' .alone] := by
    decide +kernel
  rw [moduleTokens, hmod, hnext, huse, hall]
  rfl

/-- Whether neither a stem nor the name of its registration is a keyword. -/
def IsModuleName (stem : String) : Prop :=
  Source.isName (.plain stem) = true ∧ Source.isName (.plain (stem ++ "_registration")) = true

theorem ofTokens_moduleTokens {stems : List String} (h : ∀ s ∈ stems, IsModuleName s) :
    File.ofTokens (stems.flatMap moduleTokens) = .ok ⟨none, [], stems.flatMap moduleItems⟩ := by
  rw [funext moduleTokens_eq, ← List.flatMap_assoc]
  refine ofTokens_flatMap fun i hi => ?_
  obtain ⟨s, hs, hi⟩ := List.mem_flatMap.mp hi
  obtain ⟨hname, hregistration⟩ := h s hs
  simp only [moduleItems, List.mem_cons, List.not_mem_nil, or_false] at hi
  obtain rfl | rfl | rfl := hi
  · exact isReadItem_moduleDeclaration hname (.inr rfl)
  · exact isReadItem_moduleDeclaration hregistration (.inl rfl)
  · exact isReadItem_globImport hname

/-! ## Laying them out -/

/-- The rows in which a service's modules are laid out. -/
def moduleRows (stem : String) : List Row :=
  [⟨true, ["pub ", "mod ", stem, ";"]⟩, ⟨true, ["mod ", stem ++ "_registration", ";"]⟩,
    ⟨false, ["pub ", "use ", stem, "::", "*", ";"]⟩]

variable (r : Layout.Rules)

theorem itemDoc_moduleDeclaration {s : String} (hs : s ≠ "unsafe") :
    Layout.itemDoc r (moduleDeclaration .everyone (.plain s)).toNode =
        Row.doc ⟨true, ["pub ", "mod ", s, ";"]⟩ ∧
      Layout.itemDoc r (moduleDeclaration .inherited (.plain s)).toNode =
        Row.doc ⟨true, ["mod ", s, ";"]⟩ := by
  have hother : (Ident.plain s).is "unsafe" = false := beq_false_of_ne hs
  have hword (v : Visibility) (hv : v = .everyone ∨ v = .inherited) :
      hasWord "unsafe" (v.toNodes ++ [.word "mod", .ident (.plain s), .op ";"]) = false := by
    obtain rfl | rfl := hv
    · change ((Ident.plain s).is "unsafe" || false) = false
      rw [hother, Bool.or_false]
    · change ((Ident.plain s).is "unsafe" || false) = false
      rw [hother, Bool.or_false]
  constructor
  · change Layout.moduleDoc r _ = _
    rw [Layout.moduleDoc, Layout.keywordDoc, hword .everyone (.inl rfl)]
    rfl
  · change Layout.moduleDoc r _ = _
    rw [Layout.moduleDoc, Layout.keywordDoc, hword .inherited (.inr rfl)]
    rfl

theorem itemDoc_globImport (s : String) :
    Layout.itemDoc r (globImport (.plain s)).toNode =
      Row.doc ⟨false, ["pub ", "use ", s, "::", "*", ";"]⟩ := by
  rfl

theorem unsafe_ne {s : String} (h : Source.isName (.plain s) = true) : s ≠ "unsafe" := by
  rintro rfl
  revert h
  decide

theorem flatMap_itemDoc {stem : String} (h : IsModuleName stem) :
    (moduleItems stem).flatMap (fun i => Layout.itemDoc r i.toNode) =
      (moduleRows stem).flatMap Row.doc := by
  rw [moduleItems, moduleRows, List.flatMap_cons, List.flatMap_cons, List.flatMap_cons,
    (itemDoc_moduleDeclaration r (unsafe_ne h.1)).1, (itemDoc_moduleDeclaration r (unsafe_ne h.2)).2,
    itemDoc_globImport]
  rfl

theorem toNodes_eq_map (items : List Item) : Item.toNodes items = items.map Item.toNode := by
  induction items with
  | nil => rw [Item.toNodes, List.map_nil]
  | cons i items ih => rw [Item.toNodes, List.map_cons, ih]

/-- The tree of such an item has a phrase above it that is no attribute, and none below that is only
kept as it is written. -/
theorem kind_moduleItems {stem : String} {i : Item} (hi : i ∈ moduleItems stem) :
    i.toNode.isKind .attribute = false ∧ i.toNode.hasVerbatim = false := by
  simp only [moduleItems, List.mem_cons, List.not_mem_nil, or_false] at hi
  obtain rfl | rfl | rfl := hi <;> exact ⟨rfl, rfl⟩

theorem anyVerbatim_of_forall {ns : List Node} (h : ∀ n ∈ ns, n.hasVerbatim = false) :
    Node.anyVerbatim ns = false := by
  induction ns with
  | nil => rw [Node.anyVerbatim]
  | cons n ns ih =>
    rw [List.forall_mem_cons] at h
    rw [Node.anyVerbatim, h.1, ih h.2, Bool.or_false]

/-- A file whose items are no attributes is laid out item by item. -/
theorem fileDoc_of_forall {items : List Item}
    (h : ∀ i ∈ items, i.toNode.isKind .attribute = false) :
    ∃ r, Layout.fileDoc ⟨none, [], items⟩ = Layout.Doc.openAll 0 ++
      items.flatMap (fun i => Layout.itemDoc r i.toNode) ++ Layout.Doc.close := by
  have hnodes : File.toNodes ⟨none, [], items⟩ = items.map Item.toNode := toNodes_eq_map items
  have hkind : ∀ n ∈ items.map Item.toNode, n.isKind .attribute = false := by
    rw [List.forall_mem_map]
    exact h
  have hleading : leadingAttributes (items.map Item.toNode) = [] :=
    List.takeWhile_eq_nil_iff.mpr fun hl => Bool.eq_false_iff.mp (hkind _ (List.get_mem _ ⟨0, hl⟩))
  have hafter : afterAttributes (items.map Item.toNode) = items.map Item.toNode :=
    List.dropWhile_eq_self_iff.mpr fun hl => Bool.eq_false_iff.mp (hkind _ (List.getElem_mem hl))
  refine ⟨Layout.rules (3 * Node.depthAll (items.map Item.toNode) + 7), ?_⟩
  rw [Layout.fileDoc, hnodes, Layout.leadingDoc, hleading, hafter, List.flatMap_map]
  rfl

theorem ofFile_moduleItems {stems : List String} (hne : stems ≠ [])
    (h : ∀ s ∈ stems, IsModuleName s) :
    Layout.ofFile ⟨none, [], stems.flatMap moduleItems⟩ =
      some (String.ofList ((stems.flatMap moduleRows).flatMap Row.line)) := by
  have hkinds : ∀ i ∈ stems.flatMap moduleItems,
      i.toNode.isKind .attribute = false ∧ i.toNode.hasVerbatim = false := by
    intro i hi
    obtain ⟨s, -, hi⟩ := List.mem_flatMap.mp hi
    exact kind_moduleItems hi
  have hverbatim : Node.anyVerbatim (File.toNodes ⟨none, [], stems.flatMap moduleItems⟩) = false := by
    rw [show File.toNodes ⟨none, [], stems.flatMap moduleItems⟩ = _ from toNodes_eq_map _]
    refine anyVerbatim_of_forall ?_
    rw [List.forall_mem_map]
    exact fun i hi => (hkinds i hi).2
  obtain ⟨r, hdoc⟩ := fileDoc_of_forall fun i hi => (hkinds i hi).1
  have hrows : (stems.flatMap moduleItems).flatMap (fun i => Layout.itemDoc r i.toNode) =
      (stems.flatMap moduleRows).flatMap Row.doc := by
    rw [List.flatMap_assoc, List.flatMap_assoc]
    exact List.flatMap_congr fun s hs => flatMap_itemDoc r (h s hs)
  rw [Layout.ofFile, hverbatim, hdoc, hrows, Layout.render_rows]
  · rfl
  · obtain ⟨s, stems, rfl⟩ := List.exists_cons_of_ne_nil hne
    exact List.cons_ne_nil _ _
  · intro row hrow
    obtain ⟨s, -, hrow⟩ := List.mem_flatMap.mp hrow
    simp only [moduleRows, List.mem_cons, List.not_mem_nil, or_false] at hrow
    obtain rfl | rfl | rfl := hrow <;> exact List.cons_ne_nil _ _

/-! ## The unit -/

/-- The rows of a service are its lines. -/
theorem toList_moduleLines (stem : String) :
    ((moduleLines stem).map (· ++ "\n")).flatMap String.toList =
      (moduleRows stem).flatMap Row.line := by
  simp [moduleLines, moduleRows, Row.line]

theorem join_moduleLines (stems : List String) :
    String.join ((stems.flatMap moduleLines).map (· ++ "\n")) =
      String.ofList ((stems.flatMap moduleRows).flatMap Row.line) := by
  rw [← String.toList_inj, String.toList_ofList, String.toList_join, List.map_flatMap,
    List.flatMap_assoc, List.flatMap_assoc]
  exact List.flatMap_congr fun s _ => toList_moduleLines s

theorem moduleUnit_of_names {stems : List String} (hne : stems ≠ [])
    (h : ∀ s ∈ stems, IsModuleName s) (hnames : ∀ s ∈ stems, isName s = true) :
    moduleUnit stems = .ok ⟨"mod.rs", modulesText stems⟩ := by
  have hfind : (stems.find? fun s => !isName s) = none :=
    List.find?_eq_none.mpr fun s hs => by rw [hnames s hs]; exact Bool.false_ne_true
  have htext : formatCode ⟨none, [], stems.flatMap moduleItems⟩ = some (modulesText stems) := by
    rw [formatCode, ofFile_moduleItems hne h, modulesText, join_moduleLines]
    rfl
  rw [moduleUnit, hfind, ofTokens_moduleTokens h]
  refine Outcome.bind_eq_ok.mpr ⟨⟨none, [], stems.flatMap moduleItems⟩, rfl, ?_⟩
  rw [htext]
  rfl

/-- **The unit of modules** is made just when the stems are names; it is the notice and, for each of
the stems in order, its lines. -/
theorem moduleUnit_eq_ok_iff {stems : List String} (hne : stems ≠ [])
    (h : ∀ s ∈ stems, IsModuleName s) {u : SourceUnit} :
    moduleUnit stems = .ok u ↔
      (∀ s ∈ stems, isName s = true) ∧ u = ⟨"mod.rs", modulesText stems⟩ := by
  by_cases hnames : ∀ s ∈ stems, isName s = true
  · rw [moduleUnit_of_names hne h hnames, and_iff_right hnames, Except.ok.injEq, eq_comm]
  · refine iff_of_false (fun hu => hnames fun s hs => ?_) fun hu => hnames hu.1
    rw [moduleUnit] at hu
    cases hfind : stems.find? fun s => !isName s with
    | some t =>
      rw [hfind] at hu
      cases hu
    | none => simpa using List.find?_eq_none.mp hfind s hs

end RestLoom.Emit
