import RestLoom.Text.Utf8

/-!
# Proofs/Text/Ascii — characters of one byte

What a test says of the characters of ASCII is seen by going through all of them (`forall_ascii`).
A text of them is the only text with its bytes (`eq_of_utf8_eq`).
-/

namespace RestLoom.Text

/-- **A test of characters of ASCII** holds of all when it holds of each. -/
theorem forall_ascii {P : Char → Prop} (h : ∀ n < 128, P (Char.ofNat n)) {c : Char}
    (hc : c.toNat < 128) : P c := by
  rw [← Char.ofNat_toNat c]
  exact h c.toNat hc

theorem toNat_lt_of_isAlphanum {c : Char} (h : c.isAlphanum = true) : c.toNat < 128 := by
  delta Char.isAlphanum Char.isAlpha Char.isUpper Char.isLower Char.isDigit at h
  simp only [Bool.or_eq_true, Bool.and_eq_true, decide_eq_true_iff] at h
  have hval : c.toNat = c.val.toNat := rfl
  obtain ((⟨-, h⟩ | ⟨-, h⟩) | ⟨-, h⟩) := h
  all_goals
    have h := UInt32.le_iff_toNat_le.mp h
    simp at h
    omega

/-! ## Bytes -/

theorem utf8EncodeChar_of_ascii {c : Char} (h : c.toNat < 128) :
    String.utf8EncodeChar c = [UInt8.ofNat c.toNat] := by
  have hle : c.val.toNat ≤ 0x7f := Nat.le_of_lt_succ h
  exact if_pos hle

/-- **No byte of a character beyond ASCII** is a byte of ASCII. -/
theorem le_of_mem_utf8EncodeChar {c : Char} (h : 128 ≤ c.toNat) {b : UInt8}
    (hb : b ∈ String.utf8EncodeChar c) : 128 ≤ b.toNat := by
  have hgt : ¬ c.val.toNat ≤ 0x7f := Nat.not_le.mpr h
  have hbyte (n : Nat) (hn : 128 ≤ n) (hlt : n < 2 ^ 8) : 128 ≤ (UInt8.ofNat n).toNat := by
    rw [UInt8.toNat_ofNat', Nat.mod_eq_of_lt hlt]
    exact hn
  rw [String.utf8EncodeChar, if_neg hgt] at hb
  split at hb
  · simp only [List.mem_cons, List.not_mem_nil, or_false] at hb
    obtain rfl | rfl := hb <;> exact hbyte _ (by omega) (by omega)
  · split at hb
    · simp only [List.mem_cons, List.not_mem_nil, or_false] at hb
      obtain rfl | rfl | rfl := hb <;> exact hbyte _ (by omega) (by omega)
    · simp only [List.mem_cons, List.not_mem_nil, or_false] at hb
      obtain rfl | rfl | rfl | rfl := hb <;> exact hbyte _ (by omega) (by omega)

/-- The first byte of a character beyond ASCII is no byte of ASCII. -/
theorem utf8EncodeChar_of_not_ascii {c : Char} (h : 128 ≤ c.toNat) :
    ∃ b bs, String.utf8EncodeChar c = b :: bs ∧ 128 ≤ b.toNat := by
  obtain ⟨b, bs, hbytes⟩ := List.exists_cons_of_ne_nil (String.utf8EncodeChar_ne_nil (c := c))
  exact ⟨b, bs, hbytes, le_of_mem_utf8EncodeChar h (hbytes ▸ List.mem_cons_self)⟩

/-- **A byte of ASCII** at the start of a text is its first character. -/
theorem eq_of_utf8EncodeChar_append {c : Char} {rest bs : List UInt8} {b : UInt8}
    (hb : b.toNat < 128) (h : String.utf8EncodeChar c ++ rest = b :: bs) :
    c = Char.ofNat b.toNat ∧ rest = bs := by
  by_cases hc : c.toNat < 128
  · rw [utf8EncodeChar_of_ascii hc, List.singleton_append, List.cons.injEq] at h
    refine ⟨?_, h.2⟩
    rw [← h.1, UInt8.toNat_ofNat', Nat.mod_eq_of_lt (Nat.lt_trans hc (by decide)),
      Char.ofNat_toNat]
  · obtain ⟨first, others, heq, hfirst⟩ := utf8EncodeChar_of_not_ascii (Nat.not_lt.mp hc)
    rw [heq, List.cons_append, List.cons.injEq] at h
    rw [h.1] at hfirst
    exact absurd hb (Nat.not_lt.mpr hfirst)

theorem utf8_cons_of_ascii {c : Char} (h : c.toNat < 128) (text : List Char) :
    utf8 (c :: text) = UInt8.ofNat c.toNat :: utf8 text := by
  rw [utf8, List.flatMap_cons, utf8EncodeChar_of_ascii h]
  rfl

/-- **A text of ASCII** is the only text with its bytes. -/
theorem eq_of_utf8_eq {text ascii : List Char} (hascii : ∀ c ∈ ascii, c.toNat < 128)
    (h : utf8 text = utf8 ascii) : text = ascii := by
  induction ascii generalizing text with
  | nil =>
    cases text with
    | nil => rfl
    | cons c text => exact absurd (List.append_eq_nil_iff.mp h).1 String.utf8EncodeChar_ne_nil
  | cons d ascii ih =>
    rw [List.forall_mem_cons] at hascii
    rw [utf8_cons_of_ascii hascii.1] at h
    have hbyte : (UInt8.ofNat d.toNat).toNat = d.toNat := by
      rw [UInt8.toNat_ofNat', Nat.mod_eq_of_lt (Nat.lt_trans hascii.1 (by decide))]
    cases text with
    | nil => cases h
    | cons c text =>
      rw [utf8, List.flatMap_cons] at h
      have hlt : (UInt8.ofNat d.toNat).toNat < 128 :=
        Nat.lt_of_le_of_lt (Nat.le_of_eq hbyte) hascii.1
      obtain ⟨rfl, hrest⟩ := eq_of_utf8EncodeChar_append hlt h
      rw [hbyte, Char.ofNat_toNat, ih hascii.2 hrest]

theorem eq_map_of_utf8 {text : List Char} (h : ∀ b ∈ utf8 text, b.toNat < 128) :
    text = (utf8 text).map fun b => Char.ofNat b.toNat := by
  induction text with
  | nil => rfl
  | cons c text ih =>
    have hc : c.toNat < 128 := by
      refine Nat.not_le.mp fun hle => ?_
      obtain ⟨b, bs, heq, hb⟩ := utf8EncodeChar_of_not_ascii hle
      have hmem : b ∈ utf8 (c :: text) := by
        rw [utf8, List.flatMap_cons, heq]
        exact List.mem_cons_self
      exact absurd (h b hmem) (Nat.not_lt.mpr hb)
    rw [utf8_cons_of_ascii hc] at h ⊢
    rw [List.map_cons, UInt8.toNat_ofNat', Nat.mod_eq_of_lt (Nat.lt_trans hc (by decide)),
      Char.ofNat_toNat, ← ih (List.forall_mem_cons.mp h).2]

/-- The bytes of a text. -/
def bytesOf (text : String) : List UInt8 := text.toByteArray.data.toList

theorem bytesOf_eq (text : String) : bytesOf text = utf8 text.toList := by
  have hbytes := String.toByteArray_ofList (l := text.toList)
  rw [String.ofList_toList] at hbytes
  rw [bytesOf, hbytes, List.utf8Encode, List.toList_data_toByteArray, utf8]

/-- A text is told by its bytes. -/
theorem bytesOf_injective {s t : String} (h : bytesOf s = bytesOf t) : s = t :=
  String.toByteArray_inj.mp (ByteArray.ext (Array.toList_inj.mp h))

/-- **The characters of a text of ASCII** are its bytes. -/
theorem toList_eq_map_bytesOf {text : String} (h : ∀ b ∈ bytesOf text, b.toNat < 128) :
    text.toList = (bytesOf text).map fun b => Char.ofNat b.toNat := by
  rw [bytesOf_eq] at h ⊢
  exact eq_map_of_utf8 h

end RestLoom.Text
