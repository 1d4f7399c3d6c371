import RestLoom.Proofs.Outcome
import RestLoom.Service.Find

/-!
# Proofs/Service/Find — the marked traits of a file

    trait · mod m { trait · use · mod n { trait } }  ──markedAll──▸  traits with m, n around them

The search for services is a walk that a signal may end.  What it finds, if it comes to its end, is
the list of the marked traits in the order of the text (`findAll_eq_some_iff`), and that list does
not depend on anything else: without one of its traits a file has the others, with the same imports
in scope (`Removal.markedAll`, `Removal.importsInScope`).
-/

namespace RestLoom

/-! ## Looking at a signal -/

namespace Signal

variable {s : Signal} {a b c : Nat}

/-- Whether no look from one up to another sees the signal up. -/
def IsDown (s : Signal) (a b : Nat) : Prop := ∀ look, a ≤ look → look < b → s.isUp look = false

theorem isDown_empty (s : Signal) (a : Nat) : s.IsDown a a := fun _ h h' =>
  absurd h (Nat.not_le.mpr h')

theorem isDown_singleton : s.IsDown a (a + 1) ↔ s.isUp a = false := by
  refine ⟨fun h => h a (Nat.le_refl a) (Nat.lt_succ_self a), fun h look hle hlt => ?_⟩
  rwa [Nat.le_antisymm (Nat.lt_succ_iff.mp hlt) hle]

theorem isDown_append (hab : a ≤ b) (hbc : b ≤ c) :
    s.IsDown a c ↔ s.IsDown a b ∧ s.IsDown b c := by
  refine ⟨fun h => ⟨fun look hle hlt => h look hle (Nat.lt_of_lt_of_le hlt hbc),
    fun look hle hlt => h look (Nat.le_trans hab hle) hlt⟩, fun h look hle hlt => ?_⟩
  obtain hlook | hlook := Nat.lt_or_ge look b
  · exact h.1 look hle hlook
  · exact h.2 look hlook hlt

theorem never_isDown (a b : Nat) : never.IsDown a b := fun look _ _ => never_isUp look

end Signal

namespace Service

open RestLoom.Token (Ident)
open RestLoom.Source

/-! ## The list -/

mutual

/-- The marked traits in an item. -/
def marked (modules : List Ident) : Item → List Found
  | .trait t => (found? modules t).toList
  | .module _ _ _ name content => markedAll (modules ++ [name]) content
  | .use _ => []
  | .other _ => []

/-- The marked traits in items, at any depth, in the order of the text. -/
def markedAll (modules : List Ident) : List Item → List Found
  | [] => []
  | i :: is => marked modules i ++ markedAll modules is

end

theorem found?_eq_some {modules : List Ident} {t : TraitDecl} {f : Found}
    (h : found? modules t = some f) : f.modules = modules ∧ f.decl = t ∧
      extractMarked t = some f.result := by
  obtain ⟨result, hresult, rfl⟩ := Option.map_eq_some_iff.mp h
  exact ⟨rfl, rfl, hresult⟩

mutual

theorem extractMarked_of_mem_marked {modules : List Ident} {i : Item} {f : Found}
    (h : f ∈ marked modules i) : extractMarked f.decl = some f.result := by
  match i with
  | .trait t =>
    rw [marked, Option.mem_toList] at h
    obtain ⟨-, hdecl, hresult⟩ := found?_eq_some h
    rwa [hdecl]
  | .module _ _ _ name content =>
    rw [marked] at h
    exact extractMarked_of_mem_markedAll h
  | .use _ => rw [marked] at h; cases h
  | .other _ => rw [marked] at h; cases h

/-- What a marked trait comes to is what its marker and itself declare. -/
theorem extractMarked_of_mem_markedAll {modules : List Ident} {is : List Item} {f : Found}
    (h : f ∈ markedAll modules is) : extractMarked f.decl = some f.result := by
  match is with
  | [] => rw [markedAll] at h; cases h
  | i :: is =>
    rw [markedAll, List.mem_append] at h
    exact h.elim extractMarked_of_mem_marked extractMarked_of_mem_markedAll

end

theorem exists_extract_of_mem_markedAll {modules : List Ident} {is : List Item} {f : Found}
    {s : Service} (h : f ∈ markedAll modules is) (hs : f.result = .ok s) :
    ∃ baseUrl, extract f.decl baseUrl = .ok s := by
  have hmarked := extractMarked_of_mem_markedAll h
  rw [hs] at hmarked
  obtain ⟨marker, -, hextract⟩ := Option.map_eq_some_iff.mp hmarked
  obtain ⟨baseUrl, -, hextract⟩ := Outcome.bind_eq_ok.mp hextract
  exact ⟨baseUrl, hextract⟩

/-! ## The search -/

mutual

/-- The number of items inside an item, at any depth. -/
def countIn : Item → Nat
  | .trait _ => 0
  | .module _ _ _ _ content => countAll content
  | .use _ => 0
  | .other _ => 0

/-- The number of items, at any depth. -/
def countAll : List Item → Nat
  | [] => 0
  | i :: is => 1 + countIn i + countAll is

end

variable {s : Signal}

/-- What takes no look comes to its end. -/
theorem some_eq_some_iff {looks : Nat} {fs : List Found} {r : List Found × Nat} :
    some (fs, looks) = some r ↔ s.IsDown looks (looks + 0) ∧ r = (fs, looks + 0) := by
  rw [Nat.add_zero, and_iff_right (Signal.isDown_empty s looks), Option.some.injEq, eq_comm]

mutual

theorem findIn_eq_some_iff {modules : List Ident} {looks : Nat} {i : Item}
    {r : List Found × Nat} : findIn s modules looks i = some r ↔
      s.IsDown looks (looks + countIn i) ∧ r = (marked modules i, looks + countIn i) := by
  match i with
  | .trait t =>
    rw [findIn, marked, countIn]
    exact some_eq_some_iff
  | .module _ _ _ name content =>
    rw [findIn, marked, countIn]
    exact findAll_eq_some_iff
  | .use _ =>
    rw [findIn, marked, countIn]
    exact some_eq_some_iff
  | .other _ =>
    rw [findIn, marked, countIn]
    exact some_eq_some_iff

/-- **A search** looks once for each item, and comes to its end if no look sees the signal up; what
it finds then are the marked traits. -/
theorem findAll_eq_some_iff {modules : List Ident} {looks : Nat} {is : List Item}
    {r : List Found × Nat} : findAll s modules looks is = some r ↔
      s.IsDown looks (looks + countAll is) ∧ r = (markedAll modules is, looks + countAll is) := by
  match is with
  | [] =>
    rw [findAll, markedAll, countAll]
    exact some_eq_some_iff
  | i :: is =>
    rw [findAll, markedAll, countAll, ← Nat.add_assoc, ← Nat.add_assoc,
      Signal.isDown_append (show looks ≤ looks + 1 + countIn i by omega) (Nat.le_add_right _ _),
      Signal.isDown_append (Nat.le_add_right looks 1) (Nat.le_add_right _ _),
      Signal.isDown_singleton]
    cases hup : s.isUp looks with
    | true => exact iff_of_false nofun fun h => Bool.noConfusion h.1.1.1
    | false =>
      rw [if_neg Bool.false_ne_true, Option.bind_eq_bind, Option.bind_eq_some_iff]
      constructor
      · rintro ⟨_, hhere, h⟩
        obtain ⟨hdown, rfl⟩ := findIn_eq_some_iff.mp hhere
        obtain ⟨_, hrest, h⟩ := Option.bind_eq_some_iff.mp h
        obtain ⟨hdown', rfl⟩ := findAll_eq_some_iff.mp hrest
        exact ⟨⟨⟨rfl, hdown⟩, hdown'⟩, (Option.some.inj h).symm⟩
      · rintro ⟨⟨⟨-, hdown⟩, hdown'⟩, rfl⟩
        exact ⟨_, findIn_eq_some_iff.mpr ⟨hdown, rfl⟩,
          Option.bind_eq_some_iff.mpr ⟨_, findAll_eq_some_iff.mpr ⟨hdown', rfl⟩, rfl⟩⟩

end

theorem findServices_eq_some_iff {f : File} {r : List Found × Nat} :
    findServices s f = some r ↔
      s.IsDown 0 (countAll f.items) ∧ r = (markedAll [] f.items, countAll f.items) := by
  rw [findServices, findAll_eq_some_iff, Nat.zero_add]

/-! ## One trait less -/

/-- Whether the second items are the first ones without a trait that stands in the modules `path`
among them. -/
inductive Removal (t : TraitDecl) : List Ident → List Item → List Item → Prop
  | here (is : List Item) : Removal t [] (.trait t :: is) is
  | later {path : List Ident} {is is' : List Item} (i : Item) (h : Removal t path is is') :
    Removal t path (i :: is) (i :: is')
  | inside {path : List Ident} {content content' : List Item} (attributes : List Attribute)
    (v : Visibility) (isUnsafe : Bool) (name : Ident) (is : List Item)
    (h : Removal t path content content') :
    Removal t (name :: path) (.module attributes v isUnsafe name content :: is)
      (.module attributes v isUnsafe name content' :: is)

variable {t : TraitDecl} {path : List Ident} {is is' : List Item}

/-- **The other marked traits** stay as they are. -/
theorem Removal.markedAll (h : Removal t path is is') (modules : List Ident) :
    ∃ before after,
      Service.markedAll modules is = before ++ (found? (modules ++ path) t).toList ++ after ∧
        Service.markedAll modules is' = before ++ after := by
  induction h generalizing modules with
  | here is =>
    refine ⟨[], Service.markedAll modules is, ?_, rfl⟩
    rw [Service.markedAll, marked, List.append_nil, List.nil_append]
  | @later path is is' i h ih =>
    obtain ⟨before, after, hall, hrest⟩ := ih modules
    refine ⟨marked modules i ++ before, after, ?_, ?_⟩
    · rw [Service.markedAll, hall, List.append_assoc, List.append_assoc, List.append_assoc]
    · rw [Service.markedAll, hrest, List.append_assoc]
  | @inside path content content' attributes v isUnsafe name is h ih =>
    obtain ⟨before, after, hall, hrest⟩ := ih (modules ++ [name])
    refine ⟨before, after ++ Service.markedAll modules is, ?_, ?_⟩
    · rw [Service.markedAll, marked, hall, List.append_assoc modules, List.singleton_append,
        List.append_assoc]
    · rw [Service.markedAll, marked, hrest, List.append_assoc]

theorem Removal.imports (h : Removal t path is is') : Service.imports is' = Service.imports is := by
  induction h with
  | here is => rfl
  | later i h ih =>
    rw [Service.imports, Service.imports, List.filterMap_cons, List.filterMap_cons]
    rw [Service.imports, Service.imports] at ih
    rw [ih]
  | inside => rfl

theorem moduleItems?_module (attributes : List Attribute) (v : Visibility) (isUnsafe : Bool)
    (i name : Ident) (content is : List Item) :
    Service.moduleItems? name (.module attributes v isUnsafe i content :: is) =
      if i.text == name.text then some content else Service.moduleItems? name is := by
  rw [Service.moduleItems?, List.findSome?_cons]
  dsimp only
  cases i.text == name.text <;> rfl

/-- The module of a name is the same, or the trait has gone from it. -/
theorem Removal.moduleItems? (h : Removal t path is is') (name : Ident) :
    Service.moduleItems? name is' = Service.moduleItems? name is ∨
      ∃ path' content content', Service.moduleItems? name is = some content ∧
        Service.moduleItems? name is' = some content' ∧ Removal t path' content content' := by
  induction h with
  | here is => exact .inl rfl
  | later i h ih =>
    rw [Service.moduleItems?, Service.moduleItems?, List.findSome?_cons, List.findSome?_cons]
    split
    · exact .inl rfl
    · exact ih
  | @inside path content content' attributes v isUnsafe i is h _ =>
    rw [moduleItems?_module, moduleItems?_module]
    split
    · exact .inr ⟨path, content, content', rfl, rfl, h⟩
    · exact .inl rfl

/-- **The imports in scope** stay as they are. -/
theorem Removal.importsInScope (h : Removal t path is is') (modules : List Ident) :
    Service.importsInScope is' modules = Service.importsInScope is modules := by
  induction modules generalizing path is is' with
  | nil => exact h.imports
  | cons m ms ih =>
    rw [Service.importsInScope, Service.importsInScope, h.imports]
    obtain hsame | ⟨path', content, content', hitems, hitems', hinner⟩ := h.moduleItems? m
    · rw [hsame]
    · rw [hitems, hitems']
      exact congrArg (_ ++ ·) (ih hinner)

end Service

end RestLoom
