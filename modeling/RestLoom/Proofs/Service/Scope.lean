import RestLoom.Proofs.Service.Search
import RestLoom.Proofs.Token.Tree

/-!
# Proofs/Service/Scope — the imports that are in scope for a trait

    mod m { use a; }        mod m { use b; trait … }
         ▴                       ▴
    where the names lead     where the trait stands

A found trait is known by the names of the modules around it, and its imports are looked up again by
these names: at each level the first module of a name is taken.  As long as no module around the
trait stands behind another one of its name, these are the modules around it; the outermost one that
does leads the look-up astray, into what stands in its namesake (`importsInScope_exact_iff`).
-/

namespace RestLoom.Service

open RestLoom.Token (Ident)
open RestLoom.Source

variable {items before after content namesake : List Item} {n : Node} {name : Ident}

theorem mem_imports_iff : n ∈ imports items ↔ .use n ∈ items := by
  rw [imports, List.mem_filterMap]
  constructor
  · rintro ⟨i, hi, h⟩
    split at h
    · rwa [← Option.some.inj h]
    · cases h
  · exact fun h => ⟨_, h, rfl⟩

/-! ## The first module of a name -/

theorem moduleItems?_append : moduleItems? name (before ++ after) =
    (moduleItems? name before).or (moduleItems? name after) := List.findSome?_append

/-- The name of a module leads into it, unless there is a namesake before it. -/
theorem moduleItems?_self (attributes : List Attribute) (v : Visibility) (isUnsafe : Bool) :
    moduleItems? name (before ++ .module attributes v isUnsafe name content :: after) =
      some ((moduleItems? name before).getD content) := by
  rw [moduleItems?_append, moduleItems?_module, beq_self_eq_true, if_pos rfl]
  cases moduleItems? name before <;> rfl

theorem exists_module_of_moduleItems? (h : moduleItems? name items = some content) :
    ∃ before attributes v isUnsafe i after,
      items = before ++ .module attributes v isUnsafe i content :: after := by
  obtain ⟨before, item, after, rfl, hitem, -⟩ := List.findSome?_eq_some_iff.mp h
  split at hitem
  · split at hitem
    · cases hitem
      exact ⟨before, _, _, _, _, after, rfl⟩
    · cases hitem
  · cases hitem

/-! ## Where the names lead -/

/-- **The items that names lead to**: those at the top, and those of the first module of each name,
as long as there is one. -/
def scopes (items : List Item) : List Ident → List (List Item)
  | [] => [items]
  | m :: ms =>
    items :: match moduleItems? m items with
      | some inner => scopes inner ms
      | none => []

theorem importsInScope_eq_flatMap (items : List Item) (ms : List Ident) :
    importsInScope items ms = (scopes items ms).flatMap imports := by
  induction ms generalizing items with
  | nil => rw [importsInScope, scopes, List.flatMap_singleton]
  | cons m ms ih =>
    rw [importsInScope, scopes, List.flatMap_cons]
    cases moduleItems? m items with
    | none => rfl
    | some inner => exact congrArg (imports items ++ ·) (ih inner)

theorem importsInScope_module (attributes : List Attribute) (v : Visibility) (isUnsafe : Bool)
    (ms : List Ident) :
    importsInScope (before ++ .module attributes v isUnsafe name content :: after) (name :: ms) =
      imports (before ++ .module attributes v isUnsafe name content :: after) ++
        importsInScope ((moduleItems? name before).getD content) ms := by
  rw [importsInScope, moduleItems?_self]

/-! ## Around an item -/

/-- **Whether an import is declared around an item**: at the top, or directly in one of the modules
around it. -/
def IsImportedAround (items : List Item) (around : List Around) (n : Node) : Prop :=
  .use n ∈ items ∨ ∃ a ∈ around, .use n ∈ a.content

theorem isImportedAround_cons (a : Around) (around : List Around) :
    IsImportedAround items (a :: around) n ↔
      .use n ∈ items ∨ IsImportedAround a.content around n := by
  rw [IsImportedAround, IsImportedAround, List.exists_mem_cons_iff]

theorem isImportedAround_append (outer inner : List Around) :
    IsImportedAround items (outer ++ inner) n ↔
      IsImportedAround items outer n ∨ ∃ a ∈ inner, .use n ∈ a.content := by
  simp only [IsImportedAround, List.mem_append, or_and_right, exists_or, or_assoc]

/-- **Where the look-up goes astray**: of the modules around an item, `a` is the outermost one with
a module of its name before it, and that one holds `namesake`. -/
structure Strays (around outer : List Around) (a : Around) (inner : List Around)
    (namesake : List Item) : Prop where
  split : around = outer ++ a :: inner
  first : ∀ b ∈ outer, moduleItems? b.name b.before = none
  namesake : moduleItems? a.name a.before = some namesake

/-- The look-up goes astray somewhere, or each module around is the first one of its name. -/
theorem exists_strays_or (around : List Around) :
    (∃ outer a inner namesake, Strays around outer a inner namesake) ∨
      ∀ a ∈ around, moduleItems? a.name a.before = none := by
  induction around with
  | nil => exact .inr (List.forall_mem_nil _)
  | cons b around ih =>
    cases hb : moduleItems? b.name b.before with
    | some namesake => exact .inl ⟨[], b, around, namesake, rfl, List.forall_mem_nil _, hb⟩
    | none =>
      obtain ⟨outer, a, inner, namesake, h⟩ | h := ih
      · exact .inl ⟨b :: outer, a, inner, namesake, congrArg (b :: ·) h.split,
          List.forall_mem_cons.mpr ⟨hb, h.first⟩, h.namesake⟩
      · exact .inr (List.forall_mem_cons.mpr ⟨hb, h⟩)

/-- **A look-up that does not go astray** collects what the modules around the item import, from
outside inward. -/
theorem importsInScope_of_first {around : List Around} {inner : List Item} {i : Item}
    (h : Stands items ⟨around, inner, i⟩)
    (hfirst : ∀ a ∈ around, moduleItems? a.name a.before = none) :
    importsInScope items (around.map (·.name)) =
      imports items ++ around.flatMap fun a => imports a.content := by
  induction around generalizing items with
  | nil => exact (List.append_nil _).symm
  | cons a around ih =>
    rw [List.forall_mem_cons] at hfirst
    cases h with
    | inside before attributes v isUnsafe name content after h =>
      rw [List.map_cons, importsInScope_module, hfirst.1, Option.getD_none, ih h hfirst.2,
        List.flatMap_cons]

/-- **A look-up that goes astray** collects what is imported around the outermost module with a
namesake, and then what it finds in the namesake. -/
theorem mem_importsInScope_of_strays {around outer inner : List Around} {a : Around}
    {below : List Item} {i : Item} (h : Stands items ⟨around, below, i⟩)
    (hstrays : Strays around outer a inner namesake) :
    n ∈ importsInScope items (around.map (·.name)) ↔
      IsImportedAround items outer n ∨ n ∈ importsInScope namesake (inner.map (·.name)) := by
  obtain ⟨rfl, hfirst, hnamesake⟩ := hstrays
  induction outer generalizing items with
  | nil =>
    cases h with
    | inside before attributes v isUnsafe name content after h =>
      rw [List.nil_append, List.map_cons, importsInScope_module, hnamesake, Option.getD_some,
        List.mem_append, mem_imports_iff, IsImportedAround]
      simp
  | cons b outer ih =>
    rw [List.forall_mem_cons] at hfirst
    cases h with
    | inside before attributes v isUnsafe name content after h =>
      rw [List.cons_append, List.map_cons, importsInScope_module, hfirst.1, Option.getD_none,
        List.mem_append, mem_imports_iff, ih hfirst.2 h, isImportedAround_cons, or_assoc]

/-- **The imports in scope** for a found trait are those declared around it just when, wherever the
look-up goes astray, it finds in the namesake the imports that it leaves out: those of the outermost
module with a namesake and of the modules further inside, as far as they are not imported further
outside as well. -/
theorem importsInScope_exact_iff {s : Signal} {file : File} {found : List Found} {looks : Nat}
    (hfound : findServices s file = some (found, looks)) {f : Found} (hf : f ∈ found) :
    (∃ v, Stands file.items v ∧ foundAt? v = some f) ∧
      ∀ v, Stands file.items v → foundAt? v = some f →
        ((∀ n, n ∈ importsInScope file.items f.modules ↔
            IsImportedAround file.items v.around n) ↔
          ∀ outer a inner namesake, Strays v.around outer a inner namesake →
            ∀ n, ¬IsImportedAround file.items outer n →
              (n ∈ importsInScope namesake (inner.map (·.name)) ↔
                ∃ b ∈ a :: inner, .use n ∈ b.content)) := by
  obtain ⟨-, hall⟩ := findServices_eq_some_iff.mp hfound
  obtain rfl : found = markedAll [] file.items := congrArg Prod.fst hall
  refine ⟨exists_stands_of_mem_markedAll hf, fun v hv hat => ?_⟩
  rw [modules_of_foundAt? hat]
  constructor
  · intro h outer a inner namesake hstrays n hn
    have hread := (mem_importsInScope_of_strays hv hstrays).symm.trans (h n)
    rwa [hstrays.split, isImportedAround_append, or_iff_right hn, or_iff_right hn] at hread
  · intro h n
    obtain ⟨outer, a, inner, namesake, hstrays⟩ | hfirst := exists_strays_or v.around
    · rw [Standing.modules, mem_importsInScope_of_strays hv hstrays, hstrays.split,
        isImportedAround_append]
      by_cases hn : IsImportedAround file.items outer n
      · exact iff_of_true (.inl hn) (.inl hn)
      · rw [or_iff_right hn, or_iff_right hn]
        exact h outer a inner namesake hstrays n hn
    · rw [Standing.modules, importsInScope_of_first hv hfirst, List.mem_append, List.mem_flatMap,
        mem_imports_iff, IsImportedAround]
      simp only [mem_imports_iff]

/-! ## Two modules of one name -/

/-- A text with two modules of one name, each with an import and a service of its own. -/
def twinSource : String :=
  "#[cfg(a)]\nmod m \x7b\n    use x::A;\n    #[rest_client]\n    trait R \x7b\x7d\n\x7d\n" ++
    "#[cfg(not(a))]\nmod m \x7b\n    use y::B;\n    #[rest_client]\n    trait S \x7b\x7d\n\x7d\n"

/-- Whether a file is two modules of one name, each of an import and a marked trait, and the imports
are not the same. -/
def isTwinFile (file : File) : Bool :=
  match file.items with
  | [.module _ _ _ m [.use n, .trait t], .module _ _ _ m' [.use n', .trait t']] =>
    m.text == m'.text && decide (n.tokens ≠ n'.tokens) && (extractMarked t).isSome &&
      (extractMarked t').isSome
  | _ => false

theorem twinSource_computed : (match File.ofText twinSource with
    | .ok file => isTwinFile file
    | .error _ => false) = true := by
  decide +kernel

/-- The twins: two imports that are not the same, and two services that stand beside them. -/
theorem exists_twins : ∃ file, File.ofText twinSource = .ok file ∧
    ∃ first second n n' v v' f f', n ≠ n' ∧ Stands file.items v ∧ Stands file.items v' ∧
      foundAt? v = some f ∧ foundAt? v' = some f' ∧ v.around = [first] ∧ v'.around = [second] ∧
      moduleItems? first.name first.before = none ∧
      moduleItems? second.name second.before = some first.content ∧
      imports file.items = [] ∧ imports first.content = [n] ∧ imports second.content = [n'] := by
  have hcomputed := twinSource_computed
  split at hcomputed
  next file hfile =>
    refine ⟨file, hfile, ?_⟩
    rw [isTwinFile] at hcomputed
    split at hcomputed
    next attributes v isUnsafe m n t attributes' v' isUnsafe' m' n' t' hitems =>
      simp only [Bool.and_eq_true, decide_eq_true_eq] at hcomputed
      obtain ⟨⟨⟨hname, hne⟩, ht⟩, ht'⟩ := hcomputed
      obtain ⟨r, hr⟩ := Option.isSome_iff_exists.mp ht
      obtain ⟨r', hr'⟩ := Option.isSome_iff_exists.mp ht'
      rw [hitems]
      refine ⟨⟨[], m, [.use n, .trait t]⟩,
        ⟨[.module attributes v isUnsafe m [.use n, .trait t]], m', [.use n', .trait t']⟩, n, n',
        ⟨[_], [.use n], .trait t⟩, ⟨[_], [.use n'], .trait t'⟩, ⟨[m], t, r⟩, ⟨[m'], t', r'⟩,
        fun h => hne (congrArg Node.tokens h),
        .inside [] attributes v isUnsafe m _ _ (.here [.use n] _ []),
        .inside [.module attributes v isUnsafe m _] attributes' v' isUnsafe' m' _ []
          (.here [.use n'] _ []), ?_, ?_, rfl, rfl, rfl, ?_, rfl, rfl, rfl⟩
      · exact congrArg (Option.map _) hr
      · exact congrArg (Option.map _) hr'
      · exact (moduleItems?_module attributes v isUnsafe m m' _ []).trans (if_pos hname)
    next => cases hcomputed
  next => cases hcomputed

/-- **The first twin has its imports, and the second one has not**: its look-up goes astray. -/
theorem exists_twins_strays : ∃ file found looks f f', File.ofText twinSource = .ok file ∧
    findServices .never file = some (found, looks) ∧ f ∈ found ∧ f' ∈ found ∧
    ∃ v v', Stands file.items v ∧ Stands file.items v' ∧ foundAt? v = some f ∧
      foundAt? v' = some f' ∧
      (∀ n, n ∈ importsInScope file.items f.modules ↔ IsImportedAround file.items v.around n) ∧
      ¬∀ n, n ∈ importsInScope file.items f'.modules ↔
        IsImportedAround file.items v'.around n := by
  obtain ⟨file, hfile, first, second, n, n', v, v', f, f', hne, hv, hv', hf, hf', hfirst, hsecond,
    hnone, hnamesake, htop, hn, hn'⟩ := exists_twins
  have hfound : findServices .never file =
      some (markedAll [] file.items, countAll file.items) :=
    findServices_eq_some_iff.mpr ⟨Signal.never_isDown _ _, rfl⟩
  have hmem := mem_markedAll_of_stands hv hf
  have hmem' := mem_markedAll_of_stands hv' hf'
  refine ⟨file, _, _, f, f', hfile, hfound, hmem, hmem', v, v', hv, hv', hf, hf', ?_, fun hall => ?_⟩
  · refine ((importsInScope_exact_iff hfound hmem).2 v hv hf).mpr fun outer a inner namesake h => ?_
    obtain ⟨rfl, ha⟩ | ⟨-, ha⟩ := List.singleton_eq_append_iff.mp (hfirst.symm.trans h.split)
    · obtain ⟨rfl, -⟩ := List.cons.inj ha
      exact absurd (hnone.symm.trans h.namesake) nofun
    · cases ha
  · have hstrays : Strays v'.around [] second [] first.content :=
      ⟨hsecond, List.forall_mem_nil _, hnamesake⟩
    -- the import of the first twin is found, and it is not that of the second one
    have hread := ((importsInScope_exact_iff hfound hmem').2 v' hv' hf').mp hall _ _ _ _ hstrays n
    simp only [List.map_nil, importsInScope, IsImportedAround, ← mem_imports_iff, List.mem_singleton,
      exists_eq_left, htop, hn, hn', List.not_mem_nil, false_and, exists_false, or_self,
      not_false_eq_true, true_implies, true_iff] at hread
    exact hne hread

/-- **In the second twin the import of the first one is in scope**, and not its own. -/
theorem exists_import_of_namesake : ∃ file found looks f v n n', File.ofText twinSource = .ok file ∧
    findServices .never file = some (found, looks) ∧ f ∈ found ∧ Stands file.items v ∧
    foundAt? v = some f ∧
    n ∈ importsInScope file.items f.modules ∧ ¬IsImportedAround file.items v.around n ∧
    n' ∉ importsInScope file.items f.modules ∧ IsImportedAround file.items v.around n' := by
  obtain ⟨file, hfile, first, second, n, n', -, v, -, f, hne, -, hv, -, hf, -, hsecond, -, hnamesake,
    htop, hn, hn'⟩ := exists_twins
  have hstrays : Strays v.around [] second [] first.content :=
    ⟨hsecond, List.forall_mem_nil _, hnamesake⟩
  refine ⟨file, _, _, f, v, n, n', hfile,
    findServices_eq_some_iff.mpr ⟨Signal.never_isDown _ _, rfl⟩, mem_markedAll_of_stands hv hf, hv, hf,
    ?_⟩
  rw [modules_of_foundAt? hf, Standing.modules, mem_importsInScope_of_strays hv hstrays,
    mem_importsInScope_of_strays hv hstrays]
  simp [IsImportedAround, importsInScope, ← mem_imports_iff, htop, hn, hn', hsecond, hne, hne.symm]

end RestLoom.Service
