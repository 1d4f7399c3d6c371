import RestLoom.Proofs.Outcome
import RestLoom.Proofs.Text.Lines
import RestLoom.Proofs.Url.Punycode
import RestLoom.Proofs.Url.Variant
import RestLoom.Url.Domain

/-!
# Proofs/Url/Domain — a name in ASCII is its own name in ASCII

    name ──domainToAscii──▸ ascii ──domainToAscii──▸ ascii

The labels of a name in ASCII show the characters that they were written for, so reading it again
comes to the same labels (`shownLabel?_labelToAscii`).  Only a code that is too long to be read is
refused the second time: writing has no limit for codes.
-/

namespace RestLoom.Url

open RestLoom.Text

/-! ## Labels -/

theorem labelOfCode?_eq_some {code label : List Char} :
    labelOfCode? code = some label ↔ code.all isAscii = true ∧ code.length ≤ 2 * labelLimit ∧
      ¬ label.all isAscii = true ∧ Punycode.encode label = code := by
  unfold labelOfCode?
  constructor
  · intro h
    split at h
    next => cases h
    next hlimit =>
      split at h
      next => cases h
      next decoded hdecoded =>
        split at h
        next => cases h
        next hfit =>
          cases h
          simp only [Bool.or_eq_true, not_or, Bool.not_eq_true', Bool.not_eq_false,
            decide_eq_true_iff, Nat.not_lt, bne_iff_ne, Decidable.not_not] at hlimit hfit
          exact ⟨hlimit.1, hlimit.2, by simpa using hfit.1, hfit.2⟩
  · rintro ⟨hascii, hlimit, hlabel, rfl⟩
    have hnot : ¬ 2 * labelLimit < (Punycode.encode label).length := Nat.not_lt.mpr hlimit
    rw [if_neg (by simp [hascii, hnot]), Punycode.decode?_encode]
    exact if_neg (by simp [hlabel])

/-- The characters of ASCII of a text are in its code. -/
theorem mem_encode_of_isAscii {label : List Char} {c : Char} (hc : c ∈ label)
    (hascii : isAscii c = true) : c ∈ Punycode.encode label := by
  have hbasic : c ∈ label.filter (·.toNat < 0x80) := List.mem_filter.mpr ⟨hc, hascii⟩
  rw [Punycode.encode_eq, if_neg (List.ne_nil_of_mem hbasic)]
  exact List.mem_append_left _ (List.mem_append_left _ hbasic)

/-- **The characters of a code**: those of ASCII of its text, hyphens and digits. -/
theorem mem_encode {label : List Char} {c : Char} (h : c ∈ Punycode.encode label) :
    (c ∈ label ∧ isAscii c = true) ∨ c = '-' ∨ ∃ n < 36, c = Punycode.digit n := by
  rw [Punycode.encode_eq, List.mem_append] at h
  obtain h | h := h
  · split at h
    · cases h
    · obtain h | h := List.mem_append.mp h
      · exact .inl (List.mem_filter.mp h)
      · exact .inr (.inl (List.mem_singleton.mp h))
  · exact .inr (.inr (Punycode.mem_numbersOf h))

/-- What a label shows has no characters of ASCII but its own. -/
theorem mem_of_mem_shownLabel? {label shown : List Char} (h : shownLabel? label = some shown)
    {c : Char} (hc : c ∈ shown) (hascii : isAscii c = true) : c ∈ label := by
  unfold shownLabel? at h
  split at h
  next code hcode =>
    obtain ⟨-, -, -, rfl⟩ := labelOfCode?_eq_some.mp h
    rw [dropStart?_eq_some.mp hcode]
    exact List.mem_append_right _ (mem_encode_of_isAscii hc hascii)
  next =>
    cases h
    exact hc

theorem isAscii_digit : ∀ n < 36, isAscii (Punycode.digit n) = true := by decide

theorem all_isAscii_encode (label : List Char) : (Punycode.encode label).all isAscii = true := by
  rw [List.all_eq_true]
  intro c hc
  obtain ⟨-, h⟩ | rfl | ⟨n, hn, rfl⟩ := mem_encode hc
  · exact h
  · rfl
  · exact isAscii_digit n hn

/-- A label whose code, if it has one, is short enough to be read. -/
def IsReadable (label : List Char) : Prop :=
  ∀ code, dropStart? codeMark label = some code → code.length ≤ 2 * labelLimit

theorem dropStart?_labelToAscii {shown : List Char} (h : ¬ shown.all isAscii = true) :
    dropStart? codeMark (labelToAscii shown) = some (Punycode.encode shown) := by
  rw [labelToAscii, if_neg h, dropStart?_eq_some]

/-- A label of ASCII that is shown has no code. -/
theorem dropStart?_of_shownLabel? {label shown : List Char} (h : shownLabel? label = some shown)
    (hascii : shown.all isAscii = true) : label = shown ∧ dropStart? codeMark shown = none := by
  unfold shownLabel? at h
  split at h
  next code hcode =>
    obtain ⟨-, -, hnot, -⟩ := labelOfCode?_eq_some.mp h
    exact absurd hascii hnot
  next hnone =>
    cases h
    exact ⟨rfl, hnone⟩

/-- **A label in ASCII shows** what it was written for, if its code can be read. -/
theorem shownLabel?_labelToAscii {label shown : List Char} (h : shownLabel? label = some shown)
    (hread : IsReadable (labelToAscii shown)) : shownLabel? (labelToAscii shown) = some shown := by
  by_cases hascii : shown.all isAscii = true
  · obtain ⟨-, hnone⟩ := dropStart?_of_shownLabel? h hascii
    rw [labelToAscii, if_pos hascii, shownLabel?, hnone]
  · have hcode := dropStart?_labelToAscii hascii
    rw [shownLabel?, hcode]
    exact labelOfCode?_eq_some.mpr ⟨all_isAscii_encode shown, hread _ hcode, hascii, rfl⟩

/-- A label whose code is too long shows nothing. -/
theorem isReadable_of_shownLabel? {label shown : List Char} (h : shownLabel? label = some shown) :
    IsReadable label := by
  intro code hcode
  rw [shownLabel?, hcode] at h
  exact (labelOfCode?_eq_some.mp h).2.1

/-! ## Names -/

/-- The labels of a name as they stand between full stops. -/
abbrev labelsOf (name : List Char) : List (List Char) := splitAt (· == '.') name

/-- A name all of whose codes can be read. -/
def IsReadableName (name : List Char) : Prop := ∀ label ∈ labelsOf name, IsReadable label

/-- The checks that labels have to pass. -/
def Passes (labels : List (List Char)) : Prop :=
  (labels.any (·.any deniedInDomain) || labels.any (fun l => !l.all isAscii && !isFitLabel l) ||
    !labelsFit labels) = false

theorem domainToAscii_eq_ok {name ascii : List Char} :
    domainToAscii name = .ok ascii ↔
      ∃ labels, labelsOf? name = some labels ∧ Passes labels ∧
        ascii = join ['.'] (labels.map labelToAscii) := by
  unfold domainToAscii Passes
  cases labelsOf? name with
  | none => simp
  | some labels =>
    simp only [Option.some.injEq, exists_eq_left']
    split
    next h => simp [h]
    next h => rw [Except.ok.injEq, Bool.eq_false_iff, and_iff_right h, eq_comm]

/-- What is shown for the labels of a name. -/
theorem labelsOf?_eq_some {name : List Char} {labels : List (List Char)} :
    labelsOf? name = some labels ↔ List.Forall₂ (fun label shown => shownLabel? label = some shown)
      (labelsOf (normalForm (name.flatMap foldForDomain))) labels :=
  Outcome.mapM_eq_some

/-- The characters that codes are written in. -/
def IsCodeChar (c : Char) : Prop := c = '-' ∨ ∃ n < 36, c = Punycode.digit n

/-- A character that names in ASCII may have: a small one of ASCII that is not denied. -/
structure IsPlain (c : Char) : Prop where
  isAscii : isAscii c = true
  small : isCapital c = false
  fit : deniedInDomain c = false

theorem isPlain_of_isCodeChar {c : Char} (h : IsCodeChar c) : IsPlain c ∧ c ≠ '.' := by
  have hdigit : ∀ n < 36, isAscii (Punycode.digit n) = true ∧
      isCapital (Punycode.digit n) = false ∧ deniedInDomain (Punycode.digit n) = false ∧
      Punycode.digit n ≠ '.' := by decide
  obtain rfl | ⟨n, hn, rfl⟩ := h
  · exact ⟨⟨by decide, by decide, by decide⟩, by decide⟩
  · obtain ⟨hascii, hsmall, hfit, hne⟩ := hdigit n hn
    exact ⟨⟨hascii, hsmall, hfit⟩, hne⟩

/-- **The characters of a label in ASCII** are among those it was read from, or of a code. -/
theorem mem_labelToAscii {label shown : List Char} (h : shownLabel? label = some shown) {c : Char}
    (hc : c ∈ labelToAscii shown) :
    (c ∈ label ∧ c ∈ shown ∧ isAscii c = true) ∨ IsCodeChar c := by
  rw [labelToAscii] at hc
  split at hc
  next hall =>
    have hascii := List.all_eq_true.mp hall c hc
    exact .inl ⟨mem_of_mem_shownLabel? h hc hascii, hc, hascii⟩
  next =>
    have hmark : ∀ c ∈ ['x', 'n', '-', '-'], IsCodeChar c := by
      simp only [List.forall_mem_cons]
      exact ⟨.inr ⟨23, by decide⟩, .inr ⟨13, by decide⟩, .inl rfl, .inl rfl,
        fun c hc => absurd hc List.not_mem_nil⟩
    obtain hc | hc := List.mem_append.mp hc
    · exact .inr (hmark c hc)
    · obtain ⟨hc, hascii⟩ | hc := mem_encode hc
      · exact .inl ⟨mem_of_mem_shownLabel? h hc hascii, hc, hascii⟩
      · exact .inr hc

theorem exists_label_of_mem {name : List Char} {labels : List (List Char)}
    (h : labelsOf? name = some labels) {shown : List Char} (hshown : shown ∈ labels) :
    ∃ label ∈ labelsOf (normalForm (name.flatMap foldForDomain)),
      shownLabel? label = some shown :=
  Outcome.exists_of_mem_left (labelsOf?_eq_some.mp h).flip hshown

/-- The labels of a name in ASCII are plain and have no full stop in them. -/
theorem isPlain_of_mem_labelToAscii {name : List Char} {labels : List (List Char)}
    (h : labelsOf? name = some labels) (hpasses : Passes labels) {shown : List Char}
    (hshown : shown ∈ labels) {c : Char} (hc : c ∈ labelToAscii shown) : IsPlain c ∧ c ≠ '.' := by
  obtain ⟨label, hmem, hlabel⟩ := exists_label_of_mem h hshown
  obtain ⟨hc, hcs, hascii⟩ | hcode := mem_labelToAscii hlabel hc
  · obtain ⟨hname, hdot⟩ := mem_of_mem_splitAt hmem hc
    rw [Passes, Bool.or_eq_false_iff, Bool.or_eq_false_iff, List.any_eq_false] at hpasses
    have hdenied := hpasses.1.1 shown hshown
    rw [Bool.not_eq_true, List.any_eq_false] at hdenied
    exact ⟨⟨hascii, noCapital_normalForm_fold name c hname, by simpa using hdenied c hcs⟩,
      by simpa using hdot⟩
  · exact isPlain_of_isCodeChar hcode

theorem isPlain_of_mem_ascii {name ascii : List Char} (h : domainToAscii name = .ok ascii)
    {c : Char} (hc : c ∈ ascii) : IsPlain c := by
  obtain ⟨labels, hlabels, hpasses, rfl⟩ := domainToAscii_eq_ok.mp h
  obtain rfl | ⟨part, hpart, hc⟩ := mem_join hc
  · exact ⟨by decide, by decide, by decide⟩
  · obtain ⟨shown, hshown, rfl⟩ := List.mem_map.mp hpart
    exact (isPlain_of_mem_labelToAscii hlabels hpasses hshown hc).1

/-- Plain names are folded already. -/
theorem normalForm_fold_of_isPlain {name : List Char} (h : ∀ c ∈ name, IsPlain c) :
    normalForm (name.flatMap foldForDomain) = name :=
  normalForm_fold_eq_self (fun c hc => of_decide_eq_true (h c hc).isAscii)
    fun c hc => (h c hc).small

/-- The labels of a name in ASCII. -/
theorem labelsOf_ascii {name : List Char} {labels : List (List Char)}
    (h : labelsOf? name = some labels) (hpasses : Passes labels) :
    labelsOf (join ['.'] (labels.map labelToAscii)) = labels.map labelToAscii := by
  refine splitAt_join rfl ?_ fun part hpart c hc => ?_
  · have hlength := (labelsOf?_eq_some.mp h).length_eq
    rintro hnil
    rw [List.map_eq_nil_iff] at hnil
    rw [hnil, List.length_nil, List.length_eq_zero_iff] at hlength
    exact splitAt_ne_nil _ hlength
  · obtain ⟨shown, hshown, rfl⟩ := List.mem_map.mp hpart
    exact beq_eq_false_iff_ne.mpr (isPlain_of_mem_labelToAscii h hpasses hshown hc).2

/-- **A name in ASCII** is its own name in ASCII, if its codes can be read. -/
theorem domainToAscii_of_domainToAscii {name ascii : List Char} (h : domainToAscii name = .ok ascii)
    (hread : IsReadableName ascii) : domainToAscii ascii = .ok ascii := by
  have hfold := normalForm_fold_of_isPlain fun c hc => isPlain_of_mem_ascii h hc
  obtain ⟨labels, hlabels, hpasses, rfl⟩ := domainToAscii_eq_ok.mp h
  refine domainToAscii_eq_ok.mpr ⟨labels, labelsOf?_eq_some.mpr ?_, hpasses, rfl⟩
  rw [IsReadableName, labelsOf_ascii hlabels hpasses] at hread
  rw [hfold, labelsOf_ascii hlabels hpasses, List.forall₂_map_left_iff, List.forall₂_same]
  intro shown hshown
  obtain ⟨label, -, hlabel⟩ := exists_label_of_mem hlabels hshown
  exact shownLabel?_labelToAscii hlabel (hread _ (List.mem_map_of_mem hshown))

/-- A name in ASCII with a code that is too long is refused. -/
theorem isReadableName_of_domainToAscii {name ascii again : List Char}
    (h : domainToAscii name = .ok ascii) (hagain : domainToAscii ascii = .ok again) :
    IsReadableName ascii := by
  have hfold := normalForm_fold_of_isPlain fun c hc => isPlain_of_mem_ascii h hc
  obtain ⟨labels, hlabels, -, -⟩ := domainToAscii_eq_ok.mp hagain
  have hforall := labelsOf?_eq_some.mp hlabels
  rw [hfold] at hforall
  intro label hlabel
  obtain ⟨shown, -, hshown⟩ := Outcome.exists_of_mem_left hforall hlabel
  exact isReadable_of_shownLabel? hshown

/-! ## Names without codes -/

theorem runsRight_of_ascii {word : List Char} (h : ∀ c ∈ word, isAscii c = true) :
    Direction.runsRight word = false := by
  rw [Direction.runsRight, List.any_eq_false]
  intro c hc
  rw [forall_ascii (P := fun c => Direction.isRight (.ofChar c) = false) (by decide)
    (of_decide_eq_true (h c hc))]
  exact Bool.false_ne_true

/-- **A plain name without codes** is its own name in ASCII. -/
theorem domainToAscii_of_isPlain {name : List Char} (h : ∀ c ∈ name, IsPlain c)
    (hcodes : ∀ label ∈ labelsOf name, dropStart? codeMark label = none) :
    domainToAscii name = .ok name := by
  have hmem : ∀ label ∈ labelsOf name, ∀ c ∈ label, IsPlain c := fun label hlabel c hc =>
    h c (mem_of_mem_splitAt hlabel hc).1
  have hall : ∀ label ∈ labelsOf name, label.all isAscii = true := fun label hlabel =>
    List.all_eq_true.mpr fun c hc => (hmem label hlabel c hc).isAscii
  refine domainToAscii_eq_ok.mpr ⟨labelsOf name, labelsOf?_eq_some.mpr ?_, ?_, ?_⟩
  · rw [normalForm_fold_of_isPlain h, List.forall₂_same]
    intro label hlabel
    rw [shownLabel?, hcodes label hlabel]
  · rw [Passes, labelsFit, Bool.or_eq_false_iff, Bool.or_eq_false_iff, List.any_eq_false,
      List.any_eq_false]
    refine ⟨⟨fun label hlabel => ?_, fun label hlabel => ?_⟩, ?_⟩
    · rw [Bool.not_eq_true, List.any_eq_false]
      intro c hc
      rw [(hmem label hlabel c hc).fit]
      exact Bool.false_ne_true
    · rw [hall label hlabel]
      exact Bool.false_ne_true
    · have hnone : (labelsOf name).any Direction.runsRight = false := by
        rw [List.any_eq_false]
        intro label hlabel
        rw [runsRight_of_ascii fun c hc => (hmem label hlabel c hc).isAscii]
        exact Bool.false_ne_true
      rw [hnone]
      rfl
  · have hself : (labelsOf name).map labelToAscii = labelsOf name :=
      (List.map_congr_left fun label hlabel => if_pos (hall label hlabel)).trans (List.map_id _)
    rw [hself, join_splitAt fun c => beq_iff_eq]

end RestLoom.Url
