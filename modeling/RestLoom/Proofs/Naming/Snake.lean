import RestLoom.Naming.Snake
import RestLoom.Proofs.Text.Ascii
import RestLoom.Text.Name

/-!
# Proofs/Naming/Snake — names stay names in small letters

    HTTPClient ──snakeCase──▸ http_client        r#type ──snakeCase──▸ r#type

The small letters of a character that may stand in a name may stand there too, and they may begin it
if the character may (`toLower_of_isNameRest`); this is read off the tables range by range, not
character by character.  So the snake-case form of a name is a name (`isName_snakeCase`), while a
mark that no name has is kept (`mem_snakeFrom`).
-/

namespace RestLoom.Text

/-! ## Small letters of name characters -/

/-- Whether all code points from one to another lie in a range beyond ASCII that leaves none out. -/
def CodeRange.covers (s : CodeRange) (first last : Nat) : Bool :=
  last ≤ s.last && s.first ≤ first && s.step == 1 && 0x80 ≤ s.first &&
    (s.last < 0xd800 || 0xdfff < s.first && s.last < 0x110000)

theorem isNameStart_of_covers {s : CodeRange} {first last n : Nat} (hs : s ∈ nameStartRanges)
    (h : s.covers first last = true) (hn : first ≤ n ∧ n ≤ last) :
    isNameStart (Char.ofNat n) = true := by
  simp only [CodeRange.covers, Bool.and_eq_true, Bool.or_eq_true, beq_iff_eq,
    decide_eq_true_eq] at h
  obtain ⟨⟨⟨⟨hlast, hfirst⟩, hstep⟩, hbeyond⟩, hscalar⟩ := h
  have hvalid : n.isValidChar := by
    unfold Nat.isValidChar
    omega
  have htoNat : (Char.ofNat n).toNat = n := by
    rw [Char.ofNat, dif_pos hvalid]
    rfl
  rw [isNameStart, htoNat, if_neg (by omega), CodeRange.mem, List.any_eq_true]
  refine ⟨s, hs, ?_⟩
  rw [CodeRange.holds, htoNat, hstep, Nat.mod_one, decide_eq_true (by omega : s.first ≤ n),
    decide_eq_true (by omega : n ≤ s.last)]
  rfl

/-- The ranges of capital letters: their small letters may begin a name, except for the Kelvin sign,
whose small letter is in ASCII, and for letters in circles, which names do not have at all. -/
theorem lowerOffsets_cases {r : CodeRange} {offset : Int} (h : (r, offset) ∈ lowerOffsets) :
    (∃ s ∈ nameStartRanges,
      s.covers (r.first + offset).toNat (r.last + offset).toNat = true) ∨
      (r.first = 0x212a ∧ r.last = 0x212a ∧ offset = -0x20bf) ∨
      (0x24b6 ≤ r.first ∧ r.last ≤ 0x24cf) := by
  have hall : (lowerOffsets.all fun p =>
      nameStartRanges.any (·.covers (p.1.first + p.2).toNat (p.1.last + p.2).toNat) ||
      (p.1.first == 0x212a && p.1.last == 0x212a && p.2 == -0x20bf) ||
      (0x24b6 ≤ p.1.first && p.1.last ≤ 0x24cf)) = true := by
    decide +kernel
  simpa [List.any_eq_true, and_assoc, or_assoc] using List.all_eq_true.mp hall _ h

theorem isNameRest_circled {c : Char} (h : 0x24b6 ≤ c.toNat ∧ c.toNat ≤ 0x24cf) :
    isNameRest c = false := by
  have hall : ∀ s ∈ nameStartRanges ++ nameRestRanges, s.last < 0x24b6 ∨ 0x24cf < s.first := by
    decide +kernel
  have hmem : CodeRange.mem (nameStartRanges ++ nameRestRanges) c = false := by
    rw [CodeRange.mem, List.any_eq_false]
    intro s hs hholds
    simp only [CodeRange.holds, Bool.and_eq_true, decide_eq_true_eq] at hholds
    obtain hbefore | hafter := hall s hs
    · omega
    · omega
  rw [isNameRest, if_neg (by omega), ← hmem, CodeRange.mem, CodeRange.mem, CodeRange.mem,
    List.any_append]

theorem toLower_of_ascii {c : Char} (hc : c.toNat < 0x80) :
    toLower c = [c] ∨ ∃ d, toLower c = [d] ∧ isNameStart d = true := by
  have hascii : ∀ n < 128, toLower (Char.ofNat n) = [Char.ofNat n] ∨
      isNameStart ((toLower (Char.ofNat n)).headD ' ') = true ∧
        (toLower (Char.ofNat n)).length = 1 := by
    decide
  obtain h | ⟨hstart, hlength⟩ :=
    forall_ascii (P := fun c => toLower c = [c] ∨ isNameStart ((toLower c).headD ' ') = true ∧
      (toLower c).length = 1) hascii hc
  · exact .inl h
  · obtain ⟨d, hd⟩ := List.length_eq_one_iff.mp hlength
    rw [hd] at hstart
    exact .inr ⟨d, hd, hstart⟩

/-- **The small letters of a name's character** are the character itself, or a character that may
begin a name with others that may follow it. -/
theorem toLower_of_isNameRest {c : Char} (h : isNameRest c = true) :
    toLower c = [c] ∨ ∃ d ds, toLower c = d :: ds ∧ isNameStart d = true ∧
      ∀ x ∈ ds, isNameRest x = true := by
  by_cases hascii : c.toNat < 0x80
  · exact (toLower_of_ascii hascii).imp_right fun ⟨d, hd, hstart⟩ => ⟨d, [], hd, hstart, nofun⟩
  by_cases hdotted : c.toNat = 0x130
  · refine .inr ⟨'i', [Char.ofNat 0x307], ?_, by decide, ?_⟩
    · rw [toLower, if_neg hascii, if_pos hdotted]
    · intro x hx
      rw [List.mem_singleton.mp hx]
      decide +kernel
  · rw [toLower, if_neg hascii, if_neg hdotted]
    cases hfind : lowerOffsets.find? (·.1.holds c.toNat) with
    | none => exact .inl rfl
    | some p =>
      obtain ⟨r, offset⟩ := p
      have hholds := List.find?_some hfind
      dsimp only at hholds
      have hin : r.first ≤ c.toNat ∧ c.toNat ≤ r.last := by
        simp only [CodeRange.holds, Bool.and_eq_true, decide_eq_true_eq] at hholds
        exact hholds.1
      refine .inr ⟨_, [], rfl, ?_, nofun⟩
      obtain ⟨s, hs, hcovers⟩ | ⟨hfirst, hlast, rfl⟩ | ⟨hfirst, hlast⟩ :=
        lowerOffsets_cases (List.mem_of_find?_eq_some hfind)
      · exact isNameStart_of_covers hs hcovers (by omega)
      · obtain hkelvin : c.toNat = 0x212a := by omega
        rw [hkelvin]
        decide
      · rw [isNameRest_circled (by omega)] at h
        cases h

/-! ## Names -/

theorem isNameRest_of_mem {cs : List Char} (h : isName cs = true) {c : Char} (hc : c ∈ cs) :
    isNameRest c = true := by
  obtain ⟨first, rest, rfl⟩ := List.exists_cons_of_ne_nil (List.ne_nil_of_mem hc)
  rw [isName, Bool.and_eq_true, List.all_eq_true] at h
  obtain rfl | hc := List.mem_cons.mp hc
  · exact isNameRest_of_isNameStart h.1
  · exact h.2 c hc

theorem isName_cons_iff {c : Char} {cs : List Char} :
    isName (c :: cs) = true ↔ isNameStart c = true ∧ ∀ d ∈ cs, isNameRest d = true := by
  rw [isName, Bool.and_eq_true, List.all_eq_true]

/-- What follows a name may be anything that names go on with. -/
theorem isName_append {cs ds : List Char} (h : isName cs = true)
    (hds : ∀ d ∈ ds, isNameRest d = true) : isName (cs ++ ds) = true := by
  cases cs with
  | nil => cases h
  | cons c cs =>
    rw [isName_cons_iff] at h
    rw [List.cons_append, isName_cons_iff]
    exact ⟨h.1, fun d hd => (List.mem_append.mp hd).elim (h.2 d) (hds d)⟩

end RestLoom.Text

namespace RestLoom.Naming

open RestLoom.Text

variable {before : Option Char} {cs : List Char}

/-- A character that is no capital letter is kept. -/
theorem mem_snakeFrom {c : Char} (hc : c ∈ cs) (hupper : isUpper c = false) :
    c ∈ snakeFrom before cs := by
  induction cs generalizing before with
  | nil => cases hc
  | cons d cs ih =>
    rw [snakeFrom]
    obtain rfl | hc := List.mem_cons.mp hc
    · rw [hupper]
      exact List.mem_append_left _ (List.mem_singleton_self c)
    · exact List.mem_append_right _ (ih hc)

theorem isNameRest_of_mem_toLower {c d : Char} (h : isNameRest c = true) (hd : d ∈ toLower c) :
    isNameRest d = true := by
  obtain hsame | ⟨e, es, hlower, hstart, hrest⟩ := toLower_of_isNameRest h
  · rw [hsame, List.mem_singleton] at hd
    rwa [hd]
  · rw [hlower, List.mem_cons] at hd
    obtain rfl | hd := hd
    · exact isNameRest_of_isNameStart hstart
    · exact hrest d hd

theorem isNameRest_of_mem_snakeFrom (h : ∀ c ∈ cs, isNameRest c = true) {d : Char}
    (hd : d ∈ snakeFrom before cs) : isNameRest d = true := by
  induction cs generalizing before with
  | nil => cases hd
  | cons c cs ih =>
    rw [List.forall_mem_cons] at h
    rw [snakeFrom, List.mem_append] at hd
    obtain hd | hd := hd
    · split at hd
      · split at hd
        · obtain rfl | hd := List.mem_cons.mp hd
          · decide
          · exact isNameRest_of_mem_toLower h.1 hd
        · exact isNameRest_of_mem_toLower h.1 hd
      · rw [List.mem_singleton.mp hd]
        exact h.1
    · exact ih h.2 hd

/-- No underscore stands in front of the first word. -/
theorem snakeCase_cons (c : Char) (cs : List Char) :
    snakeCase (c :: cs) = (if isUpper c then toLower c else [c]) ++ snakeFrom (some c) cs := rfl

/-- **The snake-case form of a name is a name.** -/
theorem isName_snakeCase (h : isName cs = true) : isName (snakeCase cs) = true := by
  cases cs with
  | nil => cases h
  | cons c cs =>
    rw [isName_cons_iff] at h
    have hrest : ∀ d ∈ snakeFrom (some c) cs, isNameRest d = true :=
      fun d hd => isNameRest_of_mem_snakeFrom h.2 hd
    have hfirst : isName (if isUpper c then toLower c else [c]) = true := by
      have hself : isName [c] = true := isName_cons_iff.mpr ⟨h.1, nofun⟩
      split
      · obtain hsame | ⟨d, ds, hlower, hd⟩ := toLower_of_isNameRest (isNameRest_of_isNameStart h.1)
        · rwa [hsame]
        · rw [hlower]
          exact isName_cons_iff.mpr hd
      · exact hself
    rw [snakeCase_cons]
    exact isName_append hfirst hrest

end RestLoom.Naming
