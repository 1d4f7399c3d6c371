import RestLoom.Proofs.Url.Host

/-!
# Proofs/Url/Standard — names of hosts as the URL standard has them

    name ──domainToAscii──▸ ascii ──Standard.domainToAscii──▸ ascii

The standard sets no limit to how long a label or its code may be; the reader of names does
(`labelLimit`).  `Standard.domainToAscii` is the reading without the limit.  It agrees with the
reader on every name within the limit (`Standard.domainToAscii_eq`), and it takes whatever the
reader writes for itself (`Standard.domainToAscii_ascii`): so where the reader keeps to the
standard, a name that it wrote can be read back.
-/

namespace RestLoom.Url

open RestLoom.Text

/-! ## The length of what is read -/

theorem Punycode.length_of_readPoints {point place bias : Nat} {out cs text : List Char}
    (h : readPoints point place bias out cs = some text) :
    text.length ≤ out.length + cs.length := by
  fun_induction readPoints point place bias out cs with
  | case1 =>
    cases h
    exact Nat.le_add_right _ _
  | case2 => cases h
  | case3 point place bias out cs hne far rest hread hlt count next i hpoint ih =>
    have hrest := ih h
    rw [List.length_append, List.length_cons, List.length_take, List.length_drop] at hrest
    omega
  | case4 => cases h

/-- A text is no longer than its code. -/
theorem Punycode.length_of_decode? {code text : List Char} (h : decode? code = some text) :
    text.length ≤ code.length := by
  have hread := length_of_readPoints h
  have hdigits : (code.reverse.takeWhile (· != '-')).length ≤ code.reverse.length :=
    (List.takeWhile_prefix _).length_le
  rw [List.length_take, List.length_reverse] at hread
  rw [List.length_reverse] at hdigits
  omega

namespace Standard

/-! ## The reading of the standard -/

/-- The label that a code stands for, however long it is. -/
def labelOfCode? (code : List Char) : Option (List Char) :=
  if !code.all isAscii then none
  else match Punycode.decode? code with
    | none => none
    | some label =>
      if label.all isAscii || Punycode.encode label != code then none else some label

/-- A label with the characters that it shows. -/
def shownLabel? (label : List Char) : Option (List Char) :=
  match dropStart? codeMark label with
  | some code => labelOfCode? code
  | none => some label

/-- Whether a label with characters beyond ASCII shows what it is. -/
def isFitLabel (label : List Char) : Bool :=
  label.all allowedInDomain && isNormal label && !label.head?.any isMark && joinersFit [] label

/-- The labels of a name with the characters that they show. -/
def labelsOf? (name : List Char) : Option (List (List Char)) :=
  (labelsOf (normalForm (name.flatMap foldForDomain))).mapM shownLabel?

/-- Whether the labels of a name are refused. -/
def areRefused (labels : List (List Char)) : Bool :=
  labels.any (·.any deniedInDomain) || labels.any (fun l => !l.all isAscii && !isFitLabel l) ||
    !labelsFit labels

/-- **The name in ASCII**, without a limit to its length. -/
def domainToAscii (name : List Char) : Except ParseError (List Char) :=
  match labelsOf? name with
  | none => .error .invalidDomain
  | some labels =>
    if areRefused labels then .error .invalidDomain
    else .ok (join ['.'] (labels.map labelToAscii))

/-! ## Names within the limit -/

variable {name ascii code label shown : List Char} {labels : List (List Char)}

theorem labelOfCode?_eq (h : code.length ≤ 2 * labelLimit) :
    labelOfCode? code = Url.labelOfCode? code :=
  if_congr (by rw [decide_eq_false (Nat.not_lt.mpr h), Bool.or_false]) rfl rfl

theorem shownLabel?_eq (h : label.length ≤ labelLimit) :
    shownLabel? label = Url.shownLabel? label := by
  rw [shownLabel?, Url.shownLabel?]
  cases hcode : dropStart? codeMark label with
  | none => rfl
  | some code =>
    rw [dropStart?_eq_some.mp hcode, List.length_append] at h
    exact labelOfCode?_eq (by omega)

theorem isFitLabel_eq (h : label.length ≤ labelLimit) :
    isFitLabel label = Url.isFitLabel label := by
  rw [isFitLabel, Url.isFitLabel, decide_eq_true h, Bool.and_true]

/-- A label shows no more characters than it has. -/
theorem length_of_shownLabel? (h : Url.shownLabel? label = some shown) :
    shown.length ≤ label.length := by
  unfold Url.shownLabel? at h
  split at h
  next code hcode =>
    obtain ⟨-, -, -, rfl⟩ := labelOfCode?_eq_some.mp h
    rw [dropStart?_eq_some.mp hcode, List.length_append]
    exact Nat.le_add_left_of_le (Punycode.length_of_decode? (Punycode.decode?_encode shown))
  next =>
    cases h
    exact Nat.le_refl _

/-- **Within the limit** the reader of names keeps to the standard. -/
theorem domainToAscii_eq
    (h : ∀ label ∈ labelsOf (normalForm (name.flatMap foldForDomain)), label.length ≤ labelLimit) :
    domainToAscii name = Url.domainToAscii name := by
  have hlabels : labelsOf? name = Url.labelsOf? name :=
    Outcome.mapM_congr fun label hlabel => shownLabel?_eq (h label hlabel)
  rw [domainToAscii, Url.domainToAscii, hlabels]
  cases hshown : Url.labelsOf? name with
  | none => rfl
  | some labels =>
    have hfit : ∀ shown ∈ labels, isFitLabel shown = Url.isFitLabel shown := by
      intro shown hmem
      obtain ⟨label, hlabel, hshows⟩ := exists_label_of_mem hshown hmem
      exact isFitLabel_eq ((length_of_shownLabel? hshows).trans (h label hlabel))
    have hany : (labels.any fun l => !l.all isAscii && !isFitLabel l) =
        labels.any fun l => !l.all isAscii && !Url.isFitLabel l := by
      rw [Bool.eq_iff_iff, List.any_eq_true, List.any_eq_true]
      exact exists_congr fun shown => and_congr_right fun hmem => by rw [hfit shown hmem]
    dsimp only
    rw [areRefused, hany]

/-! ## Names in ASCII -/

/-- A label in ASCII shows what it was written for. -/
theorem shownLabel?_labelToAscii (h : Url.shownLabel? label = some shown) :
    shownLabel? (labelToAscii shown) = some shown := by
  by_cases hascii : shown.all isAscii = true
  · obtain ⟨-, hnone⟩ := dropStart?_of_shownLabel? h hascii
    rw [labelToAscii, if_pos hascii, shownLabel?, hnone]
  · rw [shownLabel?, dropStart?_labelToAscii hascii]
    change labelOfCode? _ = _
    rw [labelOfCode?, all_isAscii_encode, Punycode.decode?_encode]
    simp [hascii]

/-- Labels that pass the checks of the reader are not refused. -/
theorem areRefused_of_passes (h : Passes labels) : areRefused labels = false := by
  rw [Passes, Bool.or_eq_false_iff, Bool.or_eq_false_iff] at h
  obtain ⟨⟨hdenied, hfit⟩, hway⟩ := h
  rw [areRefused, hdenied, hway, Bool.or_false, Bool.false_or, List.any_eq_false]
  intro label hmem hunfit
  refine List.any_eq_false.mp hfit label hmem ?_
  rw [Bool.and_eq_true, Bool.not_eq_true'] at hunfit ⊢
  refine hunfit.imp_right fun hunfit => ?_
  rw [Url.isFitLabel, ← isFitLabel, Bool.not_and, hunfit, Bool.true_or]

/-- **A name in ASCII** is its own name in ASCII, as the standard has it. -/
theorem domainToAscii_ascii (h : Url.domainToAscii name = .ok ascii) :
    domainToAscii ascii = .ok ascii := by
  have hfold := normalForm_fold_of_isPlain fun c hc => isPlain_of_mem_ascii h hc
  obtain ⟨labels, hlabels, hpasses, rfl⟩ := domainToAscii_eq_ok.mp h
  have hshown : labelsOf? (join ['.'] (labels.map labelToAscii)) = some labels := by
    rw [labelsOf?, hfold, labelsOf_ascii hlabels hpasses, Outcome.mapM_eq_some,
      List.forall₂_map_left_iff, List.forall₂_same]
    intro shown hmem
    obtain ⟨label, -, hlabel⟩ := exists_label_of_mem hlabels hmem
    exact shownLabel?_labelToAscii hlabel
  rw [domainToAscii, hshown]
  dsimp only
  rw [areRefused_of_passes hpasses, if_neg Bool.false_ne_true]

end Standard

/-! ## Hosts -/

/-- Whether a host is read as the standard has it: its name, if it has one, is. -/
def KeepsToStandard (host : Host) : Prop :=
  ∀ name, host = .domain name → domainToAscii name = Standard.domainToAscii name

/-- **A host that was read is read back** where the reader keeps to the standard. -/
theorem isReadableHost_of_keepsToStandard {cs : List Char} {host : Host}
    (h : readHost cs = .ok host) (hstandard : KeepsToStandard host) : IsReadableHost host := by
  rintro ascii rfl
  obtain ⟨ps, hps, -⟩ | ⟨a, ha, -⟩ | ⟨name, ascii, heq, hascii, -, -⟩ := readHost_eq_ok h
  · cases hps
  · cases ha
  · cases heq
    exact isReadableName_of_domainToAscii hascii
      ((hstandard ascii rfl).trans (Standard.domainToAscii_ascii hascii))

end RestLoom.Url
