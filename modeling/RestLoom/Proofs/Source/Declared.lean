import RestLoom.Proofs.Source.File
import RestLoom.Proofs.Source.Productions
import RestLoom.Proofs.Token.Spelled

/-!
# Proofs/Source/Declared — the names that items declare stand among the tokens

    mod a { trait B { … } }  ──item──▸  declares a, B

A trait and a module have a name, and a module the items inside it.  A reader that is given tokens
whose names all satisfy a property declares names that satisfy it too (`Gives`); applied to the
property of standing among the tokens of a file, that says where the names of its traits and modules
come from (`ident_mem_of_ofTokens`).
-/

namespace RestLoom.Source

open RestLoom.Token (Ident Delimiter atomsAll)

/-! ## Names of traits and modules -/

mutual

/-- The names of the traits and modules in an item. -/
def declaredIn : Item → List Ident
  | .trait t => [t.name]
  | .module _ _ _ name content => name :: declared content
  | .use _ => []
  | .other _ => []

/-- The names of the traits and modules in items, at any depth. -/
def declared : List Item → List Ident
  | [] => []
  | i :: is => declaredIn i ++ declared is

end

theorem forall_mem_declared_iff {P : Ident → Prop} {is : List Item} :
    (∀ i ∈ declared is, P i) ↔ ∀ item ∈ is, ∀ i ∈ declaredIn item, P i := by
  induction is with
  | nil =>
    rw [declared]
    exact iff_of_true nofun nofun
  | cons item is ih => rw [declared, List.forall_mem_append, List.forall_mem_cons, ih]

/-! ## Results from tokens with names of a kind -/

variable {α β : Type} {P : Ident → Prop} {q : α → Prop} {q' : β → Prop}

/-- Whether each name among tokens satisfies a property, at any depth. -/
def NamesSatisfy (P : Ident → Prop) (ts : List Token) : Prop := ∀ i, .ident i ∈ atomsAll ts → P i

theorem namesSatisfy_append {ts us : List Token} :
    NamesSatisfy P (ts ++ us) ↔ NamesSatisfy P ts ∧ NamesSatisfy P us := by
  simp only [NamesSatisfy, Token.atomsAll_append, List.mem_append, or_imp, forall_and]

theorem NamesSatisfy.of_suffix {ts us : List Token} (h : NamesSatisfy P ts) (hus : us <:+ ts) :
    NamesSatisfy P us := by
  obtain ⟨before, rfl⟩ := hus
  exact (namesSatisfy_append.mp h).2

theorem NamesSatisfy.of_ident {ts rest : List Token} {i : Ident} (h : NamesSatisfy P ts)
    (hts : ts = .ident i :: rest) : P i := by
  rw [hts] at h
  exact h i (by simp [atomsAll, Token.atoms])

theorem NamesSatisfy.of_group {ts content rest : List Token} {d : Delimiter}
    (h : NamesSatisfy P ts) (hts : ts = .group d content :: rest) : NamesSatisfy P content := by
  rw [hts] at h
  intro i hi
  exact h i (by simp [atomsAll, Token.atoms, hi])

/-- Whether the result of a reader satisfies `q` if the names ahead satisfy `P`. -/
structure Gives (P : Ident → Prop) (q : α → Prop) (r : Reader α) : Prop where
  of_run {s s' : ReadState} {a : α} : NamesSatisfy P s.ahead → r.run s = .ok (a, s') → q a

namespace Gives

theorem of_forall {r : Reader α} (h : ∀ a, q a) : Gives P q r where
  of_run _ _ := h _

theorem pure {a : α} (h : q a) : Gives P q (Pure.pure a) where
  of_run _ hrun := by
    cases hrun
    exact h

theorem bind {r : Reader α} {f : α → Reader β} [Advances r] (hr : Gives P q r)
    (hf : ∀ a, q a → Gives P q' (f a)) : Gives P q' (r >>= f) where
  of_run hs hrun := by
    obtain ⟨a, t, h, h'⟩ := run_bind_eq_ok hrun
    exact (hf a (hr.of_run hs h)).of_run (hs.of_suffix (Advances.suffix h)) h'

/-- A step whose result does not matter. -/
theorem bind_any {r : Reader α} {f : α → Reader β} [Advances r] (hf : ∀ a, Gives P q' (f a)) :
    Gives P q' (r >>= f) :=
  (of_forall (q := fun _ => True) fun _ => trivial).bind fun a _ => hf a

theorem ite {c : Prop} [Decidable c] {r r' : Reader α} (hr : Gives P q r) (hr' : Gives P q r') :
    Gives P q (if c then r else r') := by
  split
  · exact hr
  · exact hr'

theorem refuse {choices : List String} : Gives P q (Source.refuse choices) :=
  bind_any fun _ => ⟨fun _ hrun => nomatch hrun⟩

theorem refuseAll {choices : List Ahead} : Gives P q (Source.refuseAll choices) :=
  bind_any fun _ => refuse

theorem name : Gives P P Source.name where
  of_run {s s' i} hs hrun := by
    obtain ⟨_, _, ht, h⟩ := run_bind_eq_ok hrun
    cases ht
    split at h
    next j rest hahead =>
      split at h
      · cases h
        exact hs.of_ident hahead
      · cases h
    next => exact (refuse (q := P)).of_run hs h

/-- What is read as a name is no keyword. -/
theorem name_isName : Gives P (fun i => isName i = true) Source.name where
  of_run {s s' i} hs hrun := by
    obtain ⟨_, _, ht, h⟩ := run_bind_eq_ok hrun
    cases ht
    split at h
    next j rest hahead =>
      split at h
      next hname =>
        cases h
        exact hname
      next => cases h
    next => exact (refuse (q := fun i => isName i = true)).of_run hs h

theorem anyWord : Gives P P Source.anyWord where
  of_run {s s' i} hs hrun := by
    obtain ⟨_, _, ht, h⟩ := run_bind_eq_ok hrun
    cases ht
    split at h
    next j rest hahead =>
      cases h
      exact hs.of_ident hahead
    next => exact (refuse (q := P)).of_run hs h

theorem inGroup {d : Delimiter} {r : Reader α} (hr : Gives P q r) :
    Gives P q (Source.inGroup d r) where
  of_run {s s' a} hs hrun := by
    obtain ⟨_, _, ht, h⟩ := run_bind_eq_ok hrun
    cases ht
    split at h
    next e content rest hahead =>
      split at h
      · obtain ⟨outer, _, -, h⟩ := run_bind_eq_ok h
        obtain ⟨_, _, hset, h⟩ := run_bind_eq_ok h
        cases hset
        obtain ⟨result, _, hresult, h⟩ := run_bind_eq_ok h
        obtain ⟨_, _, -, h⟩ := run_bind_eq_ok h
        obtain ⟨_, _, -, h⟩ := run_bind_eq_ok h
        cases h
        exact hr.of_run (hs.of_group hahead) hresult
      · exact refuse.of_run hs h
    next => exact refuse.of_run hs h

theorem repeatUpTo {step : List α → Reader (List α × Bool)} [∀ acc, Advances (step acc)]
    {p : List α → Prop} (hstep : ∀ acc, p acc → Gives P (fun next => p next.1) (step acc))
    (fuel : Nat) {acc : List α} (hacc : p acc) : Gives P p (Source.repeatUpTo step fuel acc) := by
  induction fuel generalizing acc with
  | zero => exact pure hacc
  | succ fuel ih =>
    exact (hstep acc hacc).bind fun next hnext => ite (ih hnext) (pure hnext)

theorem untilEnd {r : Reader α} [Advances r] (hr : Gives P q r) :
    Gives P (fun as => ∀ a ∈ as, q a) (Source.untilEnd r) := by
  refine bind_any fun ts => repeatUpTo (fun acc hacc => ?_) _ nofun
  refine bind_any fun done => ite (pure hacc) (hr.bind fun a ha => pure ?_)
  exact List.forall_mem_append.mpr ⟨hacc, List.forall_mem_singleton.mpr ha⟩

end Gives

/-! ## Items -/

variable {g : Grammar} [g.Advances] {attributes : List Attribute} {v : Visibility}

/-- Whether the names that an item declares satisfy a property. -/
def DeclaresIn (P : Ident → Prop) (item : Item) : Prop := ∀ i ∈ declaredIn item, P i

theorem declaresIn_trait {t : TraitDecl} (h : P t.name) : DeclaresIn P (.trait t) := by
  rw [DeclaresIn, declaredIn]
  exact List.forall_mem_singleton.mpr h

theorem declaresIn_use (n : Node) : DeclaresIn P (.use n) := by
  rw [DeclaresIn, declaredIn]
  exact nofun

theorem declaresIn_other (n : Node) : DeclaresIn P (.other n) := by
  rw [DeclaresIn, declaredIn]
  exact nofun

theorem declaresIn_module {isUnsafe : Bool} {i : Ident} {content : List Item} (hi : P i)
    (hcontent : ∀ item ∈ content, DeclaresIn P item) :
    DeclaresIn P (.module attributes v isUnsafe i content) := by
  rw [DeclaresIn, declaredIn]
  exact List.forall_mem_cons.mpr ⟨hi, forall_mem_declared_iff.mpr hcontent⟩

theorem gives_traitRest {p : Ident → Prop} {isUnsafe isAuto : Bool} {i : Ident}
    {generics : Option Node} (hi : p i) :
    Gives P (fun t => p t.name) (traitRest g attributes v isUnsafe isAuto i generics) := by
  refine .bind_any fun _ => .ite (.bind_any fun _ => .bind_any fun _ => ?_) (.bind_any fun _ => ?_)
  · exact .bind_any fun _ => .bind_any fun _ => .pure hi
  · exact .bind_any fun _ => .bind_any fun _ => .pure hi

/-- A trait has the name that is read for it. -/
theorem gives_traitAfterVisibility {p : Ident → Prop} (hname : Gives P p Source.name) :
    Gives P (fun t => p t.name) (traitAfterVisibility g attributes v) :=
  .bind_any fun _ => .bind_any fun _ => .bind_any fun _ => hname.bind fun _ hi =>
    .bind_any fun _ => gives_traitRest hi

theorem gives_trait : Gives P (DeclaresIn P)
    (do return .trait (← traitAfterVisibility g attributes v)) :=
  (gives_traitAfterVisibility .name).bind fun _ ht => .pure (declaresIn_trait ht)

/-- What is none of a trait, a module and an import declares no name. -/
theorem gives_other {r : Reader Node} [Advances r] :
    Gives P (DeclaresIn P) (do return .other (← r)) :=
  .bind_any fun n => .pure (declaresIn_other n)

theorem gives_traitOrAlias : Gives P (DeclaresIn P) (traitOrAlias g attributes v) := by
  refine .bind_any fun _ => Gives.name.bind fun i hi => .bind_any fun _ => .bind_any fun _ => ?_
  refine .ite ((gives_traitRest hi).bind fun _ ht => .pure (declaresIn_trait ht)) ?_
  refine .bind_any fun _ => .ite ?_ .refuseAll
  exact .bind_any fun _ => .bind_any fun _ => .bind_any fun _ => .bind_any fun _ =>
    .pure (declaresIn_other _)

theorem gives_useItem {start : List Token} {front : List Node} :
    Gives P (DeclaresIn P) (useItem start front) :=
  .bind_any fun _ => .bind_any fun _ => .bind_any fun _ => .bind_any fun _ => .bind_any fun _ =>
    .ite gives_other (.pure (declaresIn_use _))

theorem gives_moduleItem (hg : Gives P (DeclaresIn P) g.item) :
    Gives P (DeclaresIn P) (moduleItem g attributes v) := by
  have hbody {i : Ident} (hi : P i) (u : List Node) (m : Node) : Gives P (DeclaresIn P) (do
      if ← peekOp ";" then
        let s ← op ";"
        return .other (.phrase .moduleItem
          (Attribute.outerNodes attributes ++ v.toNodes ++ u ++ [m, .ident i, s]))
      else if ← peek (.group .brace) then
        inGroup .brace do
          let inner ← innerAttributes g
          let items ← untilEnd g.item
          return .module (attributes ++ inner) v (!u.isEmpty) i items
      else refuseAll [.op ";", .group .brace]) := by
    refine .bind_any fun _ => .ite (.bind_any fun _ => .pure (declaresIn_other _)) ?_
    refine .bind_any fun _ => .ite (.inGroup (.bind_any fun _ => ?_)) .refuseAll
    exact hg.untilEnd.bind fun items hitems => .pure (declaresIn_module hi hitems)
  refine .bind_any fun u => .bind_any fun m => .bind_any fun _ => .ite ?_ ?_
  · exact Gives.anyWord.bind fun _ hi => hbody hi u m
  · exact Gives.name.bind fun _ hi => hbody hi u m

theorem gives_unsafeItem (hg : Gives P (DeclaresIn P) g.item) {start : List Token} :
    Gives P (DeclaresIn P) (unsafeItem g start attributes v) := by
  refine .bind_any fun _ => .bind_any fun _ => .bind_any fun _ => .ite gives_trait ?_
  refine .bind_any fun _ => .ite gives_other ?_
  refine .bind_any fun _ => .ite gives_other ?_
  refine .bind_any fun _ => .ite (gives_moduleItem hg) ?_
  exact .bind_any fun _ => .refuseAll

theorem gives_itemAfterVisibility (hg : Gives P (DeclaresIn P) g.item) {start : List Token} :
    Gives P (DeclaresIn P) (itemAfterVisibility g start attributes v) := by
  -- functions
  refine .bind_any fun _ => .bind_any fun _ => .ite ?_ ?_
  · refine .bind_any fun _ => .bind_any fun _ => .ite (.bind_any fun _ => gives_other) ?_
    exact .bind_any fun _ => .pure (declaresIn_other _)
  refine .bind_any fun _ => .ite gives_other ?_
  refine .bind_any fun _ => .ite gives_useItem ?_
  refine .bind_any fun _ => .ite gives_other ?_
  -- constants
  refine .bind_any fun _ => .ite ?_ ?_
  · exact .bind_any fun _ => .bind_any fun _ => .ite gives_other (.bind_any fun _ => .refuseAll)
  refine .bind_any fun _ => .ite (gives_unsafeItem hg) ?_
  refine .bind_any fun _ => .ite (gives_moduleItem hg) ?_
  refine .bind_any fun _ => .ite gives_other ?_
  refine .bind_any fun _ => .ite gives_other ?_
  refine .bind_any fun _ => .ite gives_other ?_
  refine .bind_any fun _ => .bind_any fun _ => .ite gives_other ?_
  refine .bind_any fun _ => .ite gives_traitOrAlias ?_
  refine .bind_any fun _ => .bind_any fun _ => .ite gives_trait ?_
  -- implementations and macros
  refine .bind_any fun _ => .bind_any fun _ => .bind_any fun _ => .ite gives_other ?_
  refine .bind_any fun _ => .ite gives_other ?_
  refine .bind_any fun _ => .ite gives_other ?_
  exact .ite .refuseAll .refuseAll

/-- **An item declares names that stand among its tokens**, whatever the items inside it are. -/
theorem gives_item (n : Nat) : Gives P (DeclaresIn P) (grammar n).item := by
  induction n with
  | zero => exact .refuse
  | succ n ih =>
    have := advances_grammar n
    exact .bind_any fun _ => .bind_any fun _ => .bind_any fun _ => gives_itemAfterVisibility ih

/-! ## Traits and files -/

/-- **The name of a trait** is no keyword. -/
theorem isName_of_ofTokens {ts : List Token} {t : TraitDecl} (h : TraitDecl.ofTokens ts = .ok t) :
    isName t.name = true := by
  have := advances_grammar (4 * tokenCountAll ts + 32)
  have hgives : Gives (fun _ => True) (fun t => isName t.name = true)
      (traitDecl (grammar (4 * tokenCountAll ts + 32))) :=
    .bind_any fun _ => .bind_any fun _ => gives_traitAfterVisibility .name_isName
  obtain ⟨s, hrun⟩ := exists_run_of_readAll h
  exact hgives.of_run (fun _ _ => trivial) hrun

/-- **The names that a file declares** stand among its tokens. -/
theorem ident_mem_of_ofTokens {ts : List Token} {f : File} (h : File.ofTokens ts = .ok f)
    {i : Ident} (hi : i ∈ declared f.items) : .ident i ∈ atomsAll ts := by
  have := advances_grammar (4 * tokenCountAll ts + 32)
  have hgives : Gives (fun i => .ident i ∈ atomsAll ts)
      (fun f => ∀ item ∈ f.items, DeclaresIn (fun i => .ident i ∈ atomsAll ts) item)
      (fileInside (grammarFor ts)) :=
    .bind_any fun _ => (gives_item _).untilEnd.bind fun _ hitems => .pure hitems
  obtain ⟨s, hrun⟩ := exists_run_of_readAll h
  exact forall_mem_declared_iff.mpr (hgives.of_run (fun _ h => h) hrun) i hi

/-- **The names that a text declares** are spelled as names. -/
theorem isSpelled_of_ofText {text : String} {f : File} (h : File.ofText text = .ok f)
    {i : Ident} (hi : i ∈ declared f.items) : i.IsSpelled := by
  rw [File.ofText] at h
  obtain ⟨ts, hts, h⟩ := Outcome.bind_eq_ok.mp h
  obtain ⟨f', hf', h⟩ := Outcome.bind_eq_ok.mp h
  cases h
  rw [tokensOfText] at hts
  split at hts
  next hlex =>
    cases hts
    exact Token.isSpelled_of_lex? hlex (ident_mem_of_ofTokens hf' hi)
  next => cases hts

end RestLoom.Source
