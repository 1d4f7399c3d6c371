import Mathlib.Data.List.Basic
import Mathlib.Data.List.TakeWhile
import RestLoom.Text.Lines

/-!
# Proofs/Text/Lines — cutting and joining texts

    parts ──join──▸ text ──splitAt──▸ parts

A text is cut where a separator stands, so cutting what was joined gives the parts back as long as
none of them holds the separator (`splitAt_join`).
-/

namespace RestLoom.Text

attribute [local simp] breakAt splitAt join dropStart?

variable {p : Char → Bool}

theorem dropStart?_eq_some {start cs rest : List Char} :
    dropStart? start cs = some rest ↔ cs = start ++ rest := by
  induction start generalizing cs with
  | nil => rw [dropStart?, Option.some.injEq, List.nil_append]
  | cons s start ih =>
    cases cs with
    | nil => simp
    | cons c cs =>
      rw [dropStart?, List.cons_append, List.cons.injEq]
      split
      next h => rw [ih, h, eq_self, true_and]
      next h => simp [Ne.symm h]

/-! ## Breaking once -/

theorem breakAt_of_forall {a : List Char} (h : ∀ c ∈ a, p c = false) : breakAt p a = (a, []) := by
  have hnot : ∀ c ∈ a, (!p c) = true := fun c hc => by rw [h c hc]; rfl
  rw [breakAt, List.takeWhile_eq_self_iff.mpr hnot, List.dropWhile_eq_nil_iff.mpr hnot]

/-- **A text breaks at its first separator.** -/
theorem breakAt_append_cons {a b : List Char} {d : Char} (h : ∀ c ∈ a, p c = false)
    (hd : p d = true) : breakAt p (a ++ d :: b) = (a, d :: b) := by
  have hnot : ∀ c ∈ a, (!p c) = true := fun c hc => by rw [h c hc]; rfl
  have hstop : (!p d) = false := by rw [hd]; rfl
  rw [breakAt, List.takeWhile_append_of_pos hnot, List.dropWhile_append_of_pos hnot,
    List.takeWhile_cons_of_neg (by rw [hstop]; exact Bool.false_ne_true),
    List.dropWhile_cons_of_neg (by rw [hstop]; exact Bool.false_ne_true), List.append_nil]

theorem breakAt_append_of_forall {a : List Char} (h : ∀ c ∈ a, p c = false) (b : List Char) :
    breakAt p (a ++ b) = (a ++ (breakAt p b).1, (breakAt p b).2) := by
  have hnot : ∀ c ∈ a, (!p c) = true := fun c hc => by rw [h c hc]; rfl
  rw [breakAt, List.takeWhile_append_of_pos hnot, List.dropWhile_append_of_pos hnot]
  rfl

theorem breakAt_append (cs : List Char) : (breakAt p cs).1 ++ (breakAt p cs).2 = cs :=
  List.takeWhile_append_dropWhile

/-- A text written character by character breaks where it did, if the separators are written as they
are and nothing else is written with one. -/
theorem breakAt_flatMap {g : Char → List Char} (hkeep : ∀ c, p c = true → g c = [c])
    (hnew : ∀ c, p c = false → ∀ d ∈ g c, p d = false) (cs : List Char) :
    breakAt p (cs.flatMap g) = ((breakAt p cs).1.flatMap g, (breakAt p cs).2.flatMap g) := by
  induction cs with
  | nil => rfl
  | cons c cs ih =>
    rw [List.flatMap_cons]
    cases hc : p c with
    | true =>
      have hself (rest : List Char) : breakAt p (c :: rest) = ([], c :: rest) :=
        breakAt_append_cons (List.forall_mem_nil _) hc
      rw [hkeep c hc, List.singleton_append, hself, hself, List.flatMap_nil, List.flatMap_cons,
        hkeep c hc]
      rfl
    | false =>
      have hself : ∀ d ∈ [c], p d = false := List.forall_mem_singleton.mpr hc
      rw [breakAt_append_of_forall (hnew c hc), ih, ← List.singleton_append,
        breakAt_append_of_forall hself, List.singleton_append, List.flatMap_cons]

theorem of_mem_breakAt {cs : List Char} {c : Char} (h : c ∈ (breakAt p cs).1) : p c = false := by
  have hnot := List.mem_takeWhile_imp h
  rwa [Bool.not_eq_true'] at hnot

/-- What is left begins with the separator. -/
theorem of_breakAt_eq_cons {cs rest : List Char} {c : Char} (h : (breakAt p cs).2 = c :: rest) :
    p c = true := by
  have hnot := List.head?_dropWhile_not (!p ·) cs
  rw [show cs.dropWhile (!p ·) = c :: rest from h] at hnot
  simpa using hnot

/-! ## Splitting everywhere -/

theorem splitAt_ne_nil (cs : List Char) : splitAt p cs ≠ [] := by
  cases cs with
  | nil => exact List.cons_ne_nil _ _
  | cons c cs =>
    rw [splitAt]
    split
    · exact List.cons_ne_nil _ _
    · split <;> exact List.cons_ne_nil _ _

theorem splitAt_of_forall {a : List Char} (h : ∀ c ∈ a, p c = false) : splitAt p a = [a] := by
  induction a with
  | nil => rfl
  | cons c a ih =>
    rw [List.forall_mem_cons] at h
    rw [splitAt, h.1, if_neg Bool.false_ne_true, ih h.2]

/-- **The first part** of a text ends at its first separator. -/
theorem splitAt_append_cons {a b : List Char} {d : Char} (h : ∀ c ∈ a, p c = false)
    (hd : p d = true) : splitAt p (a ++ d :: b) = a :: splitAt p b := by
  induction a with
  | nil => rw [List.nil_append, splitAt, if_pos hd]
  | cons c a ih =>
    rw [List.forall_mem_cons] at h
    rw [List.cons_append, splitAt, h.1, if_neg Bool.false_ne_true, ih h.2]

/-- Text without a separator joins the first part of what follows. -/
theorem splitAt_append_of_forall {a : List Char} (h : ∀ c ∈ a, p c = false) (b : List Char) :
    splitAt p (a ++ b) = (splitAt p b).modifyHead (a ++ ·) := by
  induction a with
  | nil => exact (congrFun List.modifyHead_id _).symm
  | cons c a ih =>
    rw [List.forall_mem_cons] at h
    rw [List.cons_append, splitAt, h.1, if_neg Bool.false_ne_true, ih h.2]
    cases hsplit : splitAt p b with
    | nil => exact absurd hsplit (splitAt_ne_nil b)
    | cons l ls => rfl

/-- **A separator ends a part**, wherever it stands. -/
theorem splitAt_append {d : Char} (hd : p d = true) (a b : List Char) :
    splitAt p (a ++ d :: b) = splitAt p a ++ splitAt p b := by
  induction a with
  | nil => exact if_pos hd
  | cons c a ih =>
    rw [List.cons_append, splitAt, splitAt, ih]
    split
    next => rfl
    next =>
      cases hsplit : splitAt p a with
      | nil => exact absurd hsplit (splitAt_ne_nil a)
      | cons l ls => rfl

/-- A separator at the end begins an empty part. -/
theorem splitAt_concat {d : Char} (hd : p d = true) (cs : List Char) :
    splitAt p (cs ++ [d]) = splitAt p cs ++ [[]] :=
  splitAt_append hd cs []

/-- The parts of a text hold its characters, and no separator. -/
theorem mem_of_mem_splitAt {cs part : List Char} {c : Char} (hpart : part ∈ splitAt p cs)
    (hc : c ∈ part) : c ∈ cs ∧ p c = false := by
  induction cs generalizing part with
  | nil =>
    rw [splitAt, List.mem_singleton] at hpart
    rw [hpart] at hc
    cases hc
  | cons d cs ih =>
    rw [splitAt] at hpart
    split at hpart
    next =>
      obtain rfl | hpart := List.mem_cons.mp hpart
      · cases hc
      · exact (ih hpart hc).imp_left (List.mem_cons_of_mem d)
    next hd =>
      split at hpart
      next hnil => exact absurd hnil (splitAt_ne_nil cs)
      next l ls hsplit =>
        rw [hsplit] at ih
        obtain rfl | hpart := List.mem_cons.mp hpart
        · obtain rfl | hc := List.mem_cons.mp hc
          · exact ⟨List.mem_cons_self, by simpa using hd⟩
          · exact (ih List.mem_cons_self hc).imp_left (List.mem_cons_of_mem d)
        · exact (ih (List.mem_cons_of_mem l hpart) hc).imp_left (List.mem_cons_of_mem d)

/-- A text written character by character is cut where it was. -/
theorem splitAt_flatMap {g : Char → List Char} (hkeep : ∀ c, p c = true → g c = [c])
    (hnew : ∀ c, p c = false → ∀ d ∈ g c, p d = false) (cs : List Char) :
    splitAt p (cs.flatMap g) = (splitAt p cs).map (·.flatMap g) := by
  induction cs with
  | nil => rfl
  | cons c cs ih =>
    rw [List.flatMap_cons, splitAt]
    cases hc : p c with
    | true =>
      rw [hkeep c hc, List.singleton_append, splitAt, if_pos hc, if_pos rfl, ih, List.map_cons,
        List.flatMap_nil]
    | false =>
      rw [splitAt_append_of_forall (hnew c hc), ih, if_neg Bool.false_ne_true]
      cases hsplit : splitAt p cs with
      | nil => exact absurd hsplit (splitAt_ne_nil cs)
      | cons l ls => rfl

/-- A text has one part more than it has separators. -/
theorem length_splitAt (cs : List Char) : (splitAt p cs).length = cs.countP p + 1 := by
  induction cs with
  | nil => rfl
  | cons c cs ih =>
    rw [splitAt, List.countP_cons]
    split
    next => rw [List.length_cons, ih]
    next =>
      rw [Nat.add_zero, ← ih]
      cases hsplit : splitAt p cs with
      | nil => exact absurd hsplit (splitAt_ne_nil cs)
      | cons l ls => rfl

/-! ## Joining -/

theorem join_cons (sep : List Char) (part : List Char) {parts : List (List Char)} (h : parts ≠ []) :
    join sep (part :: parts) = part ++ sep ++ join sep parts := by
  cases parts with
  | nil => exact absurd rfl h
  | cons next parts => rfl

theorem join_concat (sep : List Char) {parts : List (List Char)} (h : parts ≠ [])
    (part : List Char) : join sep (parts ++ [part]) = join sep parts ++ sep ++ part := by
  induction parts with
  | nil => exact absurd rfl h
  | cons first parts ih =>
    by_cases hparts : parts = []
    · subst hparts
      rfl
    · rw [List.cons_append, join_cons sep first (by simp), ih hparts, join_cons sep first hparts]
      simp only [List.append_assoc]

/-- Each part with a separator before it. -/
theorem flatMap_cons_eq_join {d : Char} {parts : List (List Char)} (h : parts ≠ []) :
    parts.flatMap (d :: ·) = d :: join [d] parts := by
  induction parts with
  | nil => exact absurd rfl h
  | cons part parts ih =>
    cases parts with
    | nil => exact congrArg (d :: ·) (List.append_nil part)
    | cons next parts =>
      rw [List.flatMap_cons, ih (List.cons_ne_nil _ _), join_cons _ _ (List.cons_ne_nil _ _),
        List.append_assoc]
      rfl

/-- An empty part at the end joins with what follows. -/
theorem join_concat_nil_append {d : Char} (front : List (List Char)) {parts : List (List Char)}
    (h : parts ≠ []) : join [d] (front ++ [[]]) ++ join [d] parts = join [d] (front ++ parts) := by
  induction front with
  | nil => rfl
  | cons part front ih =>
    have hne : front ++ parts ≠ [] := List.append_ne_nil_of_right_ne_nil front h
    have hne' : front ++ [[]] ≠ [] := List.append_ne_nil_of_right_ne_nil front (List.cons_ne_nil _ _)
    rw [List.cons_append, List.cons_append, join_cons _ _ hne, join_cons _ _ hne', List.append_assoc,
      ih]

/-- **What was joined** is cut into the same parts. -/
theorem splitAt_join {d : Char} (hd : p d = true) {parts : List (List Char)} (hne : parts ≠ [])
    (h : ∀ part ∈ parts, ∀ c ∈ part, p c = false) : splitAt p (join [d] parts) = parts := by
  induction parts with
  | nil => exact absurd rfl hne
  | cons part parts ih =>
    rw [List.forall_mem_cons] at h
    cases parts with
    | nil => exact splitAt_of_forall h.1
    | cons next parts =>
      rw [join, List.append_assoc, List.singleton_append, splitAt_append_cons h.1 hd,
        ih (List.cons_ne_nil _ _) h.2]
      exact List.cons_ne_nil _ _

/-- Parts have one separator less between them than they are. -/
theorem countP_join {d : Char} (hd : p d = true) {parts : List (List Char)} (hne : parts ≠ [])
    (h : ∀ part ∈ parts, ∀ c ∈ part, p c = false) :
    (join [d] parts).countP p + 1 = parts.length := by
  rw [← length_splitAt, splitAt_join hd hne h]

theorem mem_join {d c : Char} {parts : List (List Char)} (h : c ∈ join [d] parts) :
    c = d ∨ ∃ part ∈ parts, c ∈ part := by
  induction parts with
  | nil => cases h
  | cons part parts ih =>
    cases parts with
    | nil => exact .inr ⟨part, List.mem_cons_self, h⟩
    | cons next parts =>
      rw [join, List.append_assoc, List.singleton_append, List.mem_append, List.mem_cons] at h
      · obtain h | rfl | h := h
        · exact .inr ⟨part, List.mem_cons_self, h⟩
        · exact .inl rfl
        · exact (ih h).imp_right fun ⟨l, hl, hc⟩ => ⟨l, List.mem_cons_of_mem part hl, hc⟩
      · exact List.cons_ne_nil _ _

/-- The parts of a text, joined again, are the text. -/
theorem join_splitAt {d : Char} (hd : ∀ c, p c = true ↔ c = d) (cs : List Char) :
    join [d] (splitAt p cs) = cs := by
  induction cs with
  | nil => rfl
  | cons c cs ih =>
    rw [splitAt]
    split
    next hc =>
      obtain rfl := (hd c).mp hc
      rw [join, ih]
      · rfl
      · exact splitAt_ne_nil cs
    next =>
      split
      next hnil => exact absurd hnil (splitAt_ne_nil cs)
      next l ls hsplit =>
        rw [hsplit] at ih
        rw [← ih]
        cases ls with
        | nil => rfl
        | cons next ls => rfl

/-! ## Ends -/

/-- The end of a list is the end of its last part that is not empty. -/
theorem exists_concat_of_append {α : Type} {a b t : List α} {c : α} (h : a ++ b = t ++ [c])
    (hne : b ≠ []) : ∃ r, b = r ++ [c] := by
  refine ⟨b.dropLast, ?_⟩
  have hlast := congrArg List.getLast? h
  rw [List.getLast?_append_of_ne_nil a hne, List.getLast?_concat] at hlast
  exact (List.dropLast_append_getLast? c hlast).symm

/-- A text that ends in a separator has it in what is left after the first one. -/
theorem exists_breakAt_concat {d : Char} (hd : p d = true) (r : List Char) :
    ∃ r', (breakAt p (r ++ [d])).2 = r' ++ [d] := by
  refine exists_concat_of_append (breakAt_append (r ++ [d])) fun hnil => ?_
  have happend := breakAt_append (p := p) (r ++ [d])
  rw [hnil, List.append_nil] at happend
  have hmem : d ∈ (breakAt p (r ++ [d])).1 := by
    rw [happend]
    exact List.mem_append_right _ List.mem_cons_self
  rw [of_mem_breakAt hmem] at hd
  cases hd

/-- **What is dropped at the end** stands after the last character that stays. -/
theorem dropEndWhile_append_cons {c : Char} (h : p c = false) (a b : List Char) :
    dropEndWhile p (a ++ c :: b) = a ++ c :: dropEndWhile p b := by
  have hstop : ¬p c = true := by rw [h]; exact Bool.false_ne_true
  rw [dropEndWhile, dropEndWhile, List.reverse_append, List.reverse_cons, List.append_assoc,
    List.dropWhile_append]
  split
  next hnil =>
    rw [List.isEmpty_iff.mp hnil, List.singleton_append, List.dropWhile_cons_of_neg hstop,
      List.reverse_cons, List.reverse_reverse]
    rfl
  next =>
    rw [List.reverse_append, List.singleton_append, List.reverse_cons, List.reverse_reverse,
      List.append_assoc]
    rfl

theorem dropEndWhile_of_getLast {a : List Char} {c : Char} (h : p c = false) :
    dropEndWhile p (a ++ [c]) = a ++ [c] :=
  dropEndWhile_append_cons h a []

end RestLoom.Text
