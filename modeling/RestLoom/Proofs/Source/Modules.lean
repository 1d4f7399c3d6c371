import RestLoom.Source.Grammar

/-!
# Proofs/Source/Modules — reading the declarations of modules

    pub mod a ; mod b ; pub use a::*;  ──ofTokens──▸  items whose tokens these are

Reading a file of items one after the other is reading each of them wherever it stands (`Reads`).
For the declaration of a module whose content is elsewhere, and for the import of all that a module
holds, this is a walk through the grammar in which the name may be any but a keyword.
-/

namespace RestLoom.Source

open RestLoom.Token (Ident Delimiter)

variable {α β : Type}

/-! ## Steps of a reader -/

/-- What a reader does after a step that succeeds. -/
theorem run_bind_of_ok {r : Reader α} {k : α → Reader β} {s t : ReadState} {a : α}
    (h : r.run s = .ok (a, t)) : (r >>= k).run s = (k a).run t := by
  rw [StateT.run_bind, h]
  rfl

/-- Whether a reader takes just these tokens, whatever stands behind and around them. -/
def Reads (r : Reader α) (ts : List Token) (a : α) : Prop :=
  ∀ rest inside unread, r.run ⟨ts ++ rest, inside, unread⟩ = .ok (a, ⟨rest, inside, unread⟩)

/-- What is read until nothing is ahead, with `n` pieces of it at most. -/
theorem run_repeat_untilEnd {r : Reader α} {f : α → List Token} {xs : List α}
    (hxs : ∀ x ∈ xs, f x ≠ [] ∧ Reads r (f x) x) (inside : Option Delimiter)
    (unread : Option (Option Delimiter)) {n : Nat} (hn : xs.length < n) (acc : List α) :
    (repeatUpTo (fun acc => do
        if ← atEnd then return (acc, false) else return (acc ++ [← r], true)) n acc).run
      ⟨xs.flatMap f, inside, unread⟩ = .ok (acc ++ xs, ⟨[], inside, unread⟩) := by
  induction xs generalizing n acc with
  | nil =>
    obtain ⟨n, rfl⟩ := Nat.exists_eq_succ_of_ne_zero (Nat.ne_zero_of_lt hn)
    rw [List.append_nil]
    rfl
  | cons x xs ih =>
    obtain ⟨n, rfl⟩ := Nat.exists_eq_succ_of_ne_zero (Nat.ne_zero_of_lt hn)
    rw [List.forall_mem_cons] at hxs
    obtain ⟨⟨hne, hreads⟩, hxs⟩ := hxs
    obtain ⟨t, ts, hts⟩ := List.exists_cons_of_ne_nil hne
    have hstep := hreads (xs.flatMap f) inside unread
    rw [hts] at hstep
    rw [List.flatMap_cons, hts]
    have hmore : (do
        if ← atEnd then return (acc, false) else return (acc ++ [← r], true) :
          Reader (List α × Bool)).run ⟨t :: ts ++ xs.flatMap f, inside, unread⟩ =
        .ok ((acc ++ [x], true), ⟨xs.flatMap f, inside, unread⟩) := by
      refine (run_bind_of_ok (a := false) (t := ⟨t :: ts ++ _, inside, unread⟩) rfl).trans ?_
      exact (run_bind_of_ok hstep).trans rfl
    have hrest := ih hxs (Nat.lt_of_succ_lt_succ hn) (acc ++ [x])
    rw [List.append_assoc, List.singleton_append] at hrest
    exact (run_bind_of_ok hmore).trans hrest

theorem length_le_flatMap {f : α → List β} {xs : List α} (hxs : ∀ x ∈ xs, f x ≠ []) :
    xs.length ≤ (xs.flatMap f).length := by
  induction xs with
  | nil => exact Nat.le_refl 0
  | cons x xs ih =>
    rw [List.forall_mem_cons] at hxs
    have hone := List.length_pos_iff.mpr hxs.1
    have hrest := ih hxs.2
    rw [List.length_cons, List.flatMap_cons, List.length_append]
    omega

theorem run_untilEnd {r : Reader α} {f : α → List Token} {xs : List α}
    (hxs : ∀ x ∈ xs, f x ≠ [] ∧ Reads r (f x) x) (inside : Option Delimiter)
    (unread : Option (Option Delimiter)) :
    (untilEnd r).run ⟨xs.flatMap f, inside, unread⟩ = .ok (xs, ⟨[], inside, unread⟩) :=
  run_repeat_untilEnd hxs inside unread
    (Nat.lt_succ_of_le (length_le_flatMap fun x hx => (hxs x hx).1)) []

/-- Whether an item that begins with a word is read from its tokens wherever they stand. -/
structure IsReadItem (i : Item) : Prop where
  starts : ∃ w ts, i.toNode.tokens = .ident w :: ts
  reads : ∀ g, Reads (itemOf g) i.toNode.tokens i

/-- **The file of items**: the tokens of such items one after the other are the file of them. -/
theorem ofTokens_flatMap {items : List Item} (hitems : ∀ i ∈ items, IsReadItem i) :
    File.ofTokens (items.flatMap fun i => i.toNode.tokens) = .ok ⟨none, [], items⟩ := by
  generalize hts : (items.flatMap fun i => i.toNode.tokens) = ts
  have hinner (g : Grammar) :
      (innerAttributes g).run ⟨ts, none, none⟩ = .ok ([], ⟨ts, none, none⟩) := by
    cases items with
    | nil =>
      subst hts
      rfl
    | cons i items =>
      obtain ⟨w, us, h⟩ := (hitems i List.mem_cons_self).starts
      rw [List.flatMap_cons, h] at hts
      subst hts
      rfl
  have huntil (g : Grammar) :
      (untilEnd (itemOf g)).run ⟨ts, none, none⟩ = .ok (items, ⟨[], none, none⟩) := by
    rw [← hts]
    refine run_untilEnd (fun i hi => ⟨?_, (hitems i hi).reads g⟩) none none
    obtain ⟨w, us, h⟩ := (hitems i hi).starts
    rw [h]
    exact List.cons_ne_nil _ _
  have hfile : (fileInside (grammarFor ts)).run ⟨ts, none, none⟩ =
      .ok (⟨none, [], items⟩, ⟨[], none, none⟩) :=
    (run_bind_of_ok (hinner _)).trans ((run_bind_of_ok (huntil _)).trans rfl)
  rw [File.ofTokens, readAll, hfile]
  rfl

/-! ## Declarations of modules -/

/-- The declaration of a module whose content is elsewhere. -/
def moduleDeclaration (v : Visibility) (i : Ident) : Item :=
  .other (.phrase .moduleItem (v.toNodes ++ [.word "mod", .ident i, .op ";"]))

/-- The public import of all that a module holds. -/
def globImport (i : Ident) : Item :=
  .use (.phrase .useItem [.phrase .visibility [.word "pub"], .word "use",
    .phrase .usePath [.ident i, .op "::", .phrase .useGlob [.op "*"]], .op ";"])

variable {i : Ident}

theorem run_name (hi : isName i = true) (ts : List Token) (inside : Option Delimiter)
    (unread : Option (Option Delimiter)) :
    name.run ⟨.ident i :: ts, inside, unread⟩ = .ok (i, ⟨ts, inside, unread⟩) := by
  change (if isName i = true then _ else _ : Reader Ident) _ = _
  rw [if_pos hi]
  rfl

theorem run_moduleItem (hi : isName i = true) (g : Grammar) (v : Visibility) (rest : List Token)
    (inside : Option Delimiter) (unread : Option (Option Delimiter)) :
    (moduleItem g [] v).run
        ⟨.ident (.plain "mod") :: .ident i :: .punct ';' .alone :: rest, inside, unread⟩ =
      .ok (moduleDeclaration v i, ⟨rest, inside, unread⟩) := by
  refine (run_bind_of_ok (a := []) (t := ⟨.ident (.plain "mod") :: _, inside, unread⟩) rfl).trans ?_
  refine (run_bind_of_ok (a := .word "mod") (t := ⟨.ident i :: _, inside, unread⟩) rfl).trans ?_
  refine (run_bind_of_ok (a := i.is "try") (t := ⟨.ident i :: _, inside, unread⟩) rfl).trans ?_
  dsimp only
  split
  · cases v <;> rfl
  · refine (run_bind_of_ok (run_name hi _ _ _)).trans ?_
    cases v <;> rfl

/-- The declaration of a module is read wherever it stands. -/
theorem isReadItem_moduleDeclaration (hi : isName i = true) {v : Visibility}
    (hv : v = .inherited ∨ v = .everyone) : IsReadItem (moduleDeclaration v i) := by
  obtain rfl | rfl := hv
  · exact ⟨⟨_, _, rfl⟩, fun g => run_moduleItem hi g .inherited⟩
  · exact ⟨⟨_, _, rfl⟩, fun g => run_moduleItem hi g .everyone⟩

theorem run_useTreeUpTo_glob (hi : isName i = true) (n : Nat) (rest : List Token)
    (inside : Option Delimiter) (unread : Option (Option Delimiter)) :
    (useTreeUpTo (n + 2) true).run
        ⟨.ident i :: .punct ':' .joint :: .punct ':' .alone :: .punct '*' .alone :: rest, inside,
          unread⟩ =
      .ok ((.phrase .usePath [.ident i, .op "::", .phrase .useGlob [.op "*"]], false),
        ⟨rest, inside, unread⟩) := by
  have hpeek (ts : List Token) :
      (peekAny [.name, .word "self", .word "super", .word "crate", .word "try"]).run
        ⟨.ident i :: ts, inside, unread⟩ = .ok (true, ⟨.ident i :: ts, inside, unread⟩) := by
    change Except.ok (isName i || _, _) = _
    rw [hi]
    rfl
  exact (run_bind_of_ok (hpeek _)).trans rfl

/-- The import of all that a module holds is read wherever it stands. -/
theorem isReadItem_globImport (hi : isName i = true) : IsReadItem (globImport i) := by
  refine ⟨⟨_, _, rfl⟩, fun g rest inside unread => ?_⟩
  have hitem : (itemOf g).run ⟨(globImport i).toNode.tokens ++ rest, inside, unread⟩ =
      (useItem ((globImport i).toNode.tokens ++ rest) Visibility.everyone.toNodes).run
        ⟨.ident (.plain "use") :: .ident i :: .punct ':' .joint :: .punct ':' .alone ::
          .punct '*' .alone :: .punct ';' .alone :: rest, inside, unread⟩ := rfl
  refine hitem.trans ?_
  refine (run_bind_of_ok (a := .word "use") (t := ⟨.ident i :: _, inside, unread⟩) rfl).trans ?_
  refine (run_bind_of_ok (a := []) (t := ⟨.ident i :: _, inside, unread⟩) rfl).trans ?_
  refine (run_bind_of_ok rfl).trans ?_
  exact (run_bind_of_ok (run_useTreeUpTo_glob hi _ _ _ _)).trans rfl

end RestLoom.Source
