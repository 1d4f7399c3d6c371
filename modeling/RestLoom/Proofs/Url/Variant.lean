import Mathlib.Data.List.Basic
import RestLoom.Proofs.Text.Ascii
import RestLoom.Proofs.Text.Lines
import RestLoom.Text.Composition
import RestLoom.Url.Variant

/-!
# Proofs/Url/Variant — folded names have no capital letters

    name ──fold──▸ ──normalForm──▸ small letters of ASCII only

What a character stands for is looked up in tables, and composing characters looks them up again.
None of the tables leads to a capital letter of ASCII, so neither does folding.  The tables are gone
through once, entry by entry.
-/

namespace RestLoom.Url

open RestLoom.Text

/-! ## Tables -/

/-- Whether a character is a capital letter of ASCII. -/
def isCapital (c : Char) : Bool := 65 ≤ c.toNat && c.toNat ≤ 90

/-- A text without capital letters of ASCII. -/
def NoCapital (cs : List Char) : Prop := ∀ c ∈ cs, isCapital c = false

theorem isCapital_of_gt {c : Char} (h : 90 < c.toNat) : isCapital c = false := by
  rw [isCapital, Bool.and_eq_false_iff, decide_eq_false_iff_not, decide_eq_false_iff_not]
  exact .inr (Nat.not_le.mpr h)

/-- A number from ninety-one on makes no capital letter, whether it is a code point or not. -/
theorem isCapital_ofNat {n : Nat} (h : 90 < n) : isCapital (Char.ofNat n) = false := by
  by_cases hn : n.isValidChar
  · refine isCapital_of_gt ?_
    rw [Char.ofNat, dif_pos hn]
    exact h
  · rw [Char.ofNat, dif_neg hn]
    rfl

/-- A run whose texts have no capital letters, and do not stand for one. -/
structure IsSmall (r : Run) : Prop where
  texts : NoCapital r.texts.toList
  first : 90 < r.first

theorem isSmall_mk {n : Nat} {cs : List Char} (hn : 90 < n)
    (h : (cs.all fun c => !isCapital c) = true) : IsSmall ⟨n, String.ofList cs⟩ := by
  refine ⟨fun c hc => ?_, hn⟩
  rw [String.toList_ofList] at hc
  simpa using List.all_eq_true.mp h c hc

set_option maxRecDepth 10000 in
theorem isSmall_variants : ∀ r ∈ variants, IsSmall r := by
  simp only [variants, List.forall_mem_cons, List.not_mem_nil, false_implies, implies_true]
  and_intros
  all_goals first | exact trivial | exact isSmall_mk (by decide) (by decide +kernel)

set_option maxRecDepth 10000 in
theorem isSmall_composites : ∀ r ∈ composites, IsSmall r := by
  simp only [composites, List.forall_mem_cons, List.not_mem_nil, false_implies, implies_true]
  and_intros
  all_goals first | exact trivial | exact isSmall_mk (by decide) (by decide +kernel)

theorem noCapital_of_find? {runs : List Run} (hruns : ∀ r ∈ runs, IsSmall r) {c : Char}
    {cs : List Char} (h : Run.find? runs c = some cs) : NoCapital cs := by
  unfold Run.find? at h
  split at h
  next r hr =>
    have hmem : r ∈ runs := (List.takeWhile_sublist _).subset (List.mem_of_getLast? hr)
    have hcs : cs ∈ r.split := List.mem_of_getElem? h
    exact fun d hd => (hruns r hmem).texts d (mem_of_mem_splitAt hcs hd).1
  next => cases h

theorem isCapital_of_search? {runs : List Run} (hruns : ∀ r ∈ runs, IsSmall r) {text : List Char}
    {c : Char} (h : Run.search? runs text = some c) : isCapital c = false := by
  obtain ⟨r, hr, h⟩ := List.exists_of_findSome?_eq_some h
  obtain ⟨i, -, rfl⟩ := Option.map_eq_some_iff.mp h
  exact isCapital_ofNat (Nat.lt_of_lt_of_le (hruns r hr).first (Nat.le_add_right _ _))

/-! ## Folding -/

theorem noCapital_toLower_of_ascii : ∀ n < 128, isCapital (Char.ofNat n).toLower = false := by
  decide

theorem lowerOffsets_gt : ∀ o ∈ lowerOffsets, 90 < o.1.first + o.2 := by decide +kernel

/-- The small letter of a character beyond ASCII is no capital one. -/
theorem noCapital_toLower {c : Char} (hc : 128 ≤ c.toNat) : NoCapital (toLower c) := by
  rw [toLower, if_neg (Nat.not_lt.mpr hc)]
  split
  · intro d hd
    obtain rfl | rfl := List.mem_pair.mp hd
    · decide
    · decide
  · split
    next r d hfind =>
      have hmem := List.mem_of_find?_eq_some hfind
      have hholds := List.find?_some hfind
      have hgt : 90 < (r.first : Int) + d := lowerOffsets_gt (r, d) hmem
      simp only [CodeRange.holds, Bool.and_eq_true, decide_eq_true_iff] at hholds
      intro e he
      rw [List.mem_singleton.mp he]
      exact isCapital_ofNat (by omega)
    next =>
      intro d hd
      rw [List.mem_singleton.mp hd]
      exact isCapital_of_gt (by omega)

/-- **Folding leaves no capital letter.** -/
theorem noCapital_foldForDomain (c : Char) : NoCapital (foldForDomain c) := by
  have hself (hc : 128 ≤ c.toNat) : NoCapital [c] := fun d hd => by
    rw [List.mem_singleton.mp hd]
    exact isCapital_of_gt (by omega)
  rw [foldForDomain]
  split
  next hc =>
    intro d hd
    rw [List.mem_singleton.mp hd, ← Char.ofNat_toNat c]
    exact noCapital_toLower_of_ascii _ hc
  next hc =>
    rw [Nat.not_lt] at hc
    rw [foldVariant]
    split
    · exact fun d hd => absurd hd List.not_mem_nil
    · split
      next cs hfind => exact noCapital_of_find? isSmall_variants hfind
      next =>
        split
        · exact hself hc
        · split
          next hn =>
            rw [Bool.and_eq_true, decide_eq_true_iff, decide_eq_true_iff] at hn
            intro d hd
            rw [List.mem_singleton.mp hd]
            exact noCapital_toLower_of_ascii _ (by omega)
          next => exact noCapital_toLower hc

/-! ## Composing -/

theorem noCapital_syllableParts? {c a b : Char} (h : syllableParts? c = some (a, b)) :
    isCapital a = false ∧ isCapital b = false := by
  unfold syllableParts? at h
  dsimp only at h
  split at h
  next hc =>
    rw [Bool.and_eq_true, decide_eq_true_iff, decide_eq_true_iff] at hc
    split at h
    · obtain ⟨ha, hb⟩ := Prod.mk.inj (Option.some.inj h)
      rw [← ha, ← hb]
      exact ⟨isCapital_ofNat (by omega), isCapital_ofNat (by omega)⟩
    · obtain ⟨ha, hb⟩ := Prod.mk.inj (Option.some.inj h)
      rw [← ha, ← hb]
      exact ⟨isCapital_ofNat (by omega), isCapital_ofNat (by omega)⟩
  next => cases h

theorem isCapital_of_syllable? {a b c : Char} (h : syllable? a b = some c) :
    isCapital c = false := by
  unfold syllable? at h
  dsimp only at h
  split at h
  · rw [← Option.some.inj h]
    exact isCapital_ofNat (by omega)
  · split at h
    next hm =>
      simp only [Bool.and_eq_true, decide_eq_true_iff] at hm
      rw [← Option.some.inj h]
      exact isCapital_ofNat (by omega)
    next => cases h

theorem noCapital_parts? {c a b : Char} (h : parts? c = some (a, b)) :
    isCapital a = false ∧ isCapital b = false := by
  unfold parts? at h
  split at h
  next hfind =>
    cases h
    have hsmall := noCapital_of_find? isSmall_composites hfind
    exact ⟨hsmall a List.mem_cons_self, hsmall b (List.mem_cons_of_mem _ List.mem_cons_self)⟩
  next => exact noCapital_syllableParts? h

theorem isCapital_of_composite? {a b c : Char} (h : composite? a b = some c) :
    isCapital c = false := by
  unfold composite? at h
  split at h
  next hsearch =>
    cases h
    exact isCapital_of_search? isSmall_composites hsearch
  next => exact isCapital_of_syllable? h

theorem noCapital_pieces {c : Char} (hc : isCapital c = false) (n : Nat) :
    NoCapital (pieces n c) := by
  induction n generalizing c with
  | zero =>
    intro d hd
    rw [List.mem_singleton.mp hd]
    exact hc
  | succ n ih =>
    rw [pieces]
    split
    next a b hparts =>
      obtain ⟨ha, hb⟩ := noCapital_parts? hparts
      intro d hd
      obtain hd | hd := List.mem_append.mp hd
      · exact ih ha d hd
      · rw [List.mem_singleton.mp hd]
        exact hb
    next =>
      intro d hd
      rw [List.mem_singleton.mp hd]
      exact hc

theorem mem_place {c d : Char} {ds : List Char} (h : d ∈ place c ds) : d = c ∨ d ∈ ds := by
  induction ds with
  | nil => exact .inl (List.mem_singleton.mp h)
  | cons e ds ih =>
    rw [place] at h
    split at h
    · obtain rfl | h := List.mem_cons.mp h
      · exact .inr List.mem_cons_self
      · exact (ih h).imp_right (List.mem_cons_of_mem e)
    · exact List.mem_cons.mp h

/-- Putting marks in order keeps the characters. -/
theorem mem_ordered {cs : List Char} {d : Char} (h : d ∈ ordered cs) : d ∈ cs := by
  have hfold (cs done : List Char) (h : d ∈ cs.foldl (fun done c => place c done) done) :
      d ∈ done ∨ d ∈ cs := by
    induction cs generalizing done with
    | nil => exact .inl h
    | cons c cs ih =>
      obtain h | h := ih (place c done) h
      · obtain rfl | h := mem_place h
        · exact .inr List.mem_cons_self
        · exact .inl h
      · exact .inr (List.mem_cons_of_mem c h)
  exact (hfold cs [] (List.mem_reverse.mp h)).resolve_left List.not_mem_nil

theorem noCapital_append {a b : List Char} : NoCapital (a ++ b) ↔ NoCapital a ∧ NoCapital b :=
  List.forall_mem_append

/-- Composed characters are no capital letters, so composing brings none. -/
theorem noCapital_compose {letter : Option Char} {held : List Char} {last : Nat} {cs : List Char}
    (hletter : NoCapital letter.toList) (hheld : NoCapital held) (hcs : NoCapital cs) :
    NoCapital (compose letter held last cs) := by
  induction cs generalizing letter held last with
  | nil => exact noCapital_append.mpr ⟨hletter, hheld⟩
  | cons c cs ih =>
    have hc : NoCapital [c] := fun d hd =>
      hcs d (List.mem_cons.mpr (.inl (List.mem_singleton.mp hd)))
    have hcs : NoCapital cs := fun d hd => hcs d (List.mem_cons_of_mem c hd)
    rw [compose]
    split
    next whole hwhole =>
      refine ih (fun d hd => ?_) hheld hcs
      rw [List.mem_singleton.mp hd]
      split at hwhole
      · obtain ⟨a, -, h⟩ := Option.bind_eq_some_iff.mp hwhole
        exact isCapital_of_composite? h
      · cases hwhole
    next =>
      split
      · exact noCapital_append.mpr ⟨noCapital_append.mpr ⟨hletter, hheld⟩,
          ih hc (fun d hd => absurd hd List.not_mem_nil) hcs⟩
      · exact ih hletter (noCapital_append.mpr ⟨hheld, hc⟩) hcs

theorem noCapital_normalForm {cs : List Char} (h : NoCapital cs) : NoCapital (normalForm cs) := by
  rw [normalForm]
  split
  · exact h
  · refine noCapital_compose (fun d hd => absurd hd List.not_mem_nil)
      (fun d hd => absurd hd List.not_mem_nil) fun d hd => ?_
    obtain ⟨c, hc, hd⟩ := List.mem_flatMap.mp (mem_ordered hd)
    exact noCapital_pieces (h c hc) deepest d hd

/-- **The folded form of a name** has no capital letter of ASCII. -/
theorem noCapital_normalForm_fold (name : List Char) :
    NoCapital (normalForm (name.flatMap foldForDomain)) := by
  refine noCapital_normalForm fun d hd => ?_
  obtain ⟨c, -, hd⟩ := List.mem_flatMap.mp hd
  exact noCapital_foldForDomain c d hd

/-- **Folding keeps small letters** and the other characters of ASCII. -/
theorem normalForm_fold_eq_self {name : List Char} (hascii : ∀ c ∈ name, c.toNat < 128)
    (h : NoCapital name) : normalForm (name.flatMap foldForDomain) = name := by
  have hfold : name.flatMap foldForDomain = name := by
    induction name with
    | nil => rfl
    | cons c name ih =>
      rw [List.forall_mem_cons] at hascii
      have hc := h c List.mem_cons_self
      have hself := forall_ascii (P := fun c => isCapital c = false → c.toLower = c) (by decide)
        hascii.1 hc
      rw [List.flatMap_cons, foldForDomain, if_pos hascii.1, hself,
        ih hascii.2 fun d hd => h d (List.mem_cons_of_mem c hd)]
      rfl
  rw [hfold]
  exact normalForm_eq_self_of_plain (List.all_eq_true.mpr fun c hc =>
    decide_eq_true (Nat.lt_trans (hascii c hc) (by decide)))

end RestLoom.Url
