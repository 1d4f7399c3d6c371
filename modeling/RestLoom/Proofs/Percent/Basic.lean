import Mathlib.Data.List.Basic
import RestLoom.Percent.Basic
import RestLoom.Proofs.Text.Ascii

/-!
# Proofs/Percent/Basic — escapes stand for bytes

    decode (encode keep text)  =  utf8 text

An encoding that escapes the percent sign is undone by decoding (`decode_encode`).  One that keeps
it leaves text alone that is encoded already (`encode_encode`).
-/

namespace RestLoom.Percent

open RestLoom.Text

attribute [local simp] encode encodeChar escapeChar escapeByte decode

/-! ## Escapes -/

theorem hexValue_hexDigit : ∀ n < 16, hexValue (hexDigit n) = some n := by decide

theorem toNat_lt_of_hexValue {c : Char} {d : Nat} (h : hexValue c = some d) : c.toNat < 128 := by
  unfold hexValue at h
  split at h
  next hc => exact Nat.lt_of_le_of_lt (UInt32.le_iff_toNat_le.mp hc.2) (by decide)
  next =>
    split at h
    next hc => exact Nat.lt_of_le_of_lt (UInt32.le_iff_toNat_le.mp hc.2) (by decide)
    next =>
      split at h
      next hc => exact Nat.lt_of_le_of_lt (UInt32.le_iff_toNat_le.mp hc.2) (by decide)
      next => cases h

theorem hexValue_lt {c : Char} {d : Nat} (h : hexValue c = some d) : d < 16 :=
  forall_ascii (P := fun c => ∀ d ∈ hexValue c, d < 16) (by decide) (toNat_lt_of_hexValue h) d h

/-- The characters of escapes: the percent sign and the capital hexadecimal digits. -/
def inEscape (c : Char) : Bool := c == '%' || c.isDigit || ('A' ≤ c && c ≤ 'F')

theorem inEscape_hexDigit : ∀ n < 16, inEscape (hexDigit n) = true := by decide

theorem inEscape_of_mem_escapeByte {b : UInt8} {c : Char} (h : c ∈ escapeByte b) :
    inEscape c = true := by
  have hb := b.toNat_lt
  simp only [escapeByte, List.mem_cons, List.not_mem_nil, or_false] at h
  obtain rfl | rfl | rfl := h
  · rfl
  · exact inEscape_hexDigit _ (by omega)
  · exact inEscape_hexDigit _ (by omega)

/-- **An encoding** holds characters that it keeps and those of escapes. -/
theorem mem_encode {keep : Char → Bool} {text : List Char} {c : Char} (h : c ∈ encode keep text) :
    (c ∈ text ∧ keep c = true) ∨ inEscape c = true := by
  obtain ⟨d, hd, hc⟩ := List.mem_flatMap.mp h
  rw [encodeChar] at hc
  split at hc
  next hkeep =>
    obtain rfl := List.mem_singleton.mp hc
    exact .inl ⟨hd, hkeep⟩
  next =>
    obtain ⟨b, -, hb⟩ := List.mem_flatMap.mp hc
    exact .inr (inEscape_of_mem_escapeByte hb)

theorem encode_cons_of_pos {keep : Char → Bool} {c : Char} (h : keep c = true) (text : List Char) :
    encode keep (c :: text) = c :: encode keep text := by
  rw [encode, List.flatMap_cons, encodeChar, if_pos h]
  rfl

theorem encode_eq_self {keep : Char → Bool} {text : List Char} (h : ∀ c ∈ text, keep c = true) :
    encode keep text = text := by
  induction text with
  | nil => rfl
  | cons c text ih =>
    rw [List.forall_mem_cons] at h
    rw [encode_cons_of_pos h.1, ih h.2]

/-- An escaped character is longer than the character. -/
theorem two_le_length_escapeChar (c : Char) : 2 ≤ (escapeChar c).length := by
  obtain ⟨b, bs, hbytes⟩ := List.exists_cons_of_ne_nil (String.utf8EncodeChar_ne_nil (c := c))
  rw [escapeChar, hbytes, List.flatMap_cons, List.length_append]
  exact Nat.le_add_right_of_le (Nat.le_succ 2)

theorem length_le_length_encode (keep : Char → Bool) (text : List Char) :
    text.length ≤ (encode keep text).length := by
  induction text with
  | nil => exact Nat.le_refl 0
  | cons c text ih =>
    cases hkeep : keep c with
    | true =>
      rw [encode_cons_of_pos hkeep]
      exact Nat.succ_le_succ ih
    | false =>
      have hlength := two_le_length_escapeChar c
      rw [encode, List.flatMap_cons, encodeChar, hkeep, if_neg Bool.false_ne_true,
        List.length_append, List.length_cons]
      change _ ≤ _ + (encode keep text).length
      omega

/-- **Text is encoded as itself** exactly when all of its characters are kept. -/
theorem encode_eq_self_iff {keep : Char → Bool} {text : List Char} :
    encode keep text = text ↔ ∀ c ∈ text, keep c = true := by
  refine ⟨fun h => ?_, encode_eq_self⟩
  induction text with
  | nil => exact List.forall_mem_nil _
  | cons c text ih =>
    cases hkeep : keep c with
    | true =>
      rw [encode_cons_of_pos hkeep, List.cons.injEq] at h
      exact List.forall_mem_cons.mpr ⟨hkeep, ih h.2⟩
    | false =>
      -- an escape makes the text longer, and nothing makes it shorter
      have hlength := congrArg List.length h
      rw [encode, List.flatMap_cons, encodeChar, hkeep, if_neg Bool.false_ne_true,
        List.length_append, List.length_cons] at hlength
      have hescape := two_le_length_escapeChar c
      have hrest : text.length ≤ (text.flatMap (encodeChar keep)).length :=
        length_le_length_encode keep text
      omega

/-- Every character is written as something. -/
theorem encodeChar_ne_nil (keep : Char → Bool) (c : Char) : encodeChar keep c ≠ [] := by
  rw [encodeChar]
  split
  · exact List.cons_ne_nil _ _
  · intro hnil
    rw [escapeChar, List.flatMap_eq_nil_iff] at hnil
    obtain ⟨b, hb⟩ := List.exists_mem_of_ne_nil _ (String.utf8EncodeChar_ne_nil (c := c))
    exact List.cons_ne_nil _ _ (hnil b hb)

theorem encode_eq_nil {keep : Char → Bool} {text : List Char} :
    encode keep text = [] ↔ text = [] := by
  constructor
  · intro h
    cases text with
    | nil => rfl
    | cons c text =>
      rw [encode, List.flatMap_cons, List.append_eq_nil_iff] at h
      exact absurd h.1 (encodeChar_ne_nil keep c)
  · rintro rfl
    rfl

/-- **Encoding again** changes nothing when escapes are kept. -/
theorem encode_encode {keep keep' : Char → Bool} (hkeep : ∀ c, keep' c = true → keep c = true)
    (hescape : ∀ c, inEscape c = true → keep c = true) (text : List Char) :
    encode keep (encode keep' text) = encode keep' text :=
  encode_eq_self fun c hc => (mem_encode hc).elim (fun h => hkeep c h.2) (hescape c)

/-! ## Decoding -/

theorem decode_escapeByte_append (b : UInt8) (rest : List Char) :
    decode (escapeByte b ++ rest) = b :: decode rest := by
  have hb := b.toNat_lt
  have hhigh := hexValue_hexDigit (b.toNat / 16) (by omega)
  have hlow := hexValue_hexDigit (b.toNat % 16) (by omega)
  rw [escapeByte, List.cons_append, List.cons_append, List.singleton_append, decode, hhigh, hlow]
  refine congrArg (· :: decode rest) ?_
  rw [Nat.div_add_mod]
  exact UInt8.ofNat_toNat

theorem decode_escapeBytes_append (bs : List UInt8) (rest : List Char) :
    decode (bs.flatMap escapeByte ++ rest) = bs ++ decode rest := by
  induction bs with
  | nil => rfl
  | cons b bs ih =>
    rw [List.flatMap_cons, List.append_assoc, decode_escapeByte_append, ih, List.cons_append]

/-- Any character but the percent sign stands for itself. -/
theorem decode_cons {c : Char} (h : c ≠ '%') (rest : List Char) :
    decode (c :: rest) = String.utf8EncodeChar c ++ decode rest := by
  rw [decode]
  exact fun _ _ _ hc => absurd hc h

/-- **Decoding undoes encoding** when the percent sign is escaped. -/
theorem decode_encode_append {keep : Char → Bool} (h : keep '%' = false) (text rest : List Char) :
    decode (encode keep text ++ rest) = utf8 text ++ decode rest := by
  induction text with
  | nil => rfl
  | cons c text ih =>
    rw [encode, utf8, List.flatMap_cons, List.flatMap_cons, List.append_assoc, List.append_assoc,
      encodeChar]
    split
    next hkeep =>
      have hne : c ≠ '%' := by
        rintro rfl
        rw [h] at hkeep
        cases hkeep
      rw [List.singleton_append, decode_cons hne]
      exact congrArg (String.utf8EncodeChar c ++ ·) ih
    next =>
      rw [escapeChar, decode_escapeBytes_append]
      exact congrArg (String.utf8EncodeChar c ++ ·) ih

theorem decode_encode {keep : Char → Bool} (h : keep '%' = false) (text : List Char) :
    decode (encode keep text) = utf8 text := by
  have happend := decode_encode_append h text []
  rw [List.append_nil] at happend
  exact happend.trans (List.append_nil _)

/-- Text without a percent sign stands for itself. -/
theorem decode_eq_utf8 {text : List Char} (h : '%' ∉ text) : decode text = utf8 text := by
  induction text with
  | nil => rfl
  | cons c text ih =>
    rw [List.mem_cons, not_or] at h
    rw [decode_cons (Ne.symm h.1), ih h.2]
    rfl

/-! ## Escaping more -/

/-- Whether a text begins with two digits of an escape. -/
def BeginsByte (text : List Char) : Prop :=
  ∃ a b rest, text = a :: b :: rest ∧ hexValue a ≠ none ∧ hexValue b ≠ none

/-- A percent sign without two digits after it stands for itself. -/
theorem decode_percent {text : List Char} (h : ¬BeginsByte text) :
    decode ('%' :: text) = String.utf8EncodeChar '%' ++ decode text := by
  rw [decode.eq_def]
  split
  next a b rest heq =>
    obtain rfl := (List.cons.inj heq).2
    split
    next x y hx hy =>
      refine absurd ⟨a, b, rest, rfl, ?_, ?_⟩ h
      · rw [hx]
        exact Option.some_ne_none x
      · rw [hy]
        exact Option.some_ne_none y
    next => rfl
  next heq =>
    cases heq
    rfl
  next heq => cases heq

theorem exists_escapeChar (c : Char) : ∃ rest, escapeChar c = '%' :: rest := by
  obtain ⟨b, bs, hbytes⟩ := List.exists_cons_of_ne_nil (String.utf8EncodeChar_ne_nil (c := c))
  rw [escapeChar, hbytes]
  exact ⟨_, rfl⟩

section KeepsEscapes

variable {keep : Char → Bool} (hpercent : keep '%' = true)
  (hdigit : ∀ c, hexValue c ≠ none → keep c = true)

include hdigit in
/-- The digits of an escape stay, and none are made. -/
theorem beginsByte_encode {text : List Char} : BeginsByte (encode keep text) ↔ BeginsByte text := by
  have hhead {c a : Char} {rest more : List Char} (ha : hexValue a ≠ none)
      (heq : encodeChar keep c ++ rest = a :: more) : c = a ∧ rest = more := by
    rw [encodeChar] at heq
    split at heq
    next => exact List.cons.inj heq
    next =>
      obtain ⟨tail, htail⟩ := exists_escapeChar c
      rw [htail] at heq
      rw [← (List.cons.inj heq).1] at ha
      exact absurd rfl ha
  constructor
  · rintro ⟨a, b, rest, heq, ha, hb⟩
    cases text with
    | nil => cases heq
    | cons c text =>
      obtain ⟨rfl, hrest⟩ := hhead ha heq
      cases text with
      | nil => cases hrest
      | cons d text =>
        obtain ⟨rfl, -⟩ := hhead hb hrest
        exact ⟨c, d, text, rfl, ha, hb⟩
  · rintro ⟨a, b, rest, rfl, ha, hb⟩
    refine ⟨a, b, encode keep rest, ?_, ha, hb⟩
    rw [encode_cons_of_pos (hdigit a ha), encode_cons_of_pos (hdigit b hb)]

include hpercent hdigit in
/-- **Encoding that keeps escapes** changes nothing of what a text stands for. -/
theorem decode_encode_of_keep (text : List Char) : decode (encode keep text) = decode text := by
  -- An escape is read three characters at a time, so the induction is on the length.
  induction hlength : text.length using Nat.strongRecOn generalizing text with
  | ind n ih =>
    cases text with
    | nil => rfl
    | cons c text =>
      have hrest : decode (encode keep text) = decode text :=
        ih text.length (hlength ▸ Nat.lt_succ_self _) text rfl
      by_cases hc : c = '%'
      · subst hc
        by_cases hbegins : BeginsByte text
        · obtain ⟨a, b, rest, rfl, ha, hb⟩ := hbegins
          have hlater : decode (encode keep rest) = decode rest := by
            refine ih rest.length ?_ rest rfl
            rw [← hlength, List.length_cons, List.length_cons, List.length_cons]
            omega
          obtain ⟨x, hx⟩ := Option.ne_none_iff_exists'.mp ha
          obtain ⟨y, hy⟩ := Option.ne_none_iff_exists'.mp hb
          rw [encode_cons_of_pos hpercent, encode_cons_of_pos (hdigit a ha),
            encode_cons_of_pos (hdigit b hb), decode, decode, hx, hy]
          exact congrArg _ hlater
        · rw [encode_cons_of_pos hpercent, decode_percent hbegins,
            decode_percent ((beginsByte_encode hdigit).not.mpr hbegins), hrest]
      · rw [decode_cons hc, encode, List.flatMap_cons, encodeChar]
        split
        next => rw [List.singleton_append, decode_cons hc]; exact congrArg _ hrest
        next => rw [escapeChar, decode_escapeBytes_append]; exact congrArg _ hrest

end KeepsEscapes

/-! ## The sets -/

theorem toNat_lt_of_notControl {c : Char} (h : notControl c = true) : c.toNat < 128 := by
  simp only [notControl, Bool.and_eq_true, decide_eq_true_iff] at h
  omega

theorem toNat_lt_of_inEscape {c : Char} (h : inEscape c = true) : c.toNat < 128 := by
  rw [inEscape, Bool.or_eq_true, Bool.or_eq_true, beq_iff_eq] at h
  obtain (rfl | h) | h := h
  · decide
  · exact toNat_lt_of_isAlphanum (by rw [Char.isAlphanum, h, Bool.or_true])
  · rw [Bool.and_eq_true, decide_eq_true_iff, decide_eq_true_iff] at h
    have hle : c.toNat ≤ 70 := UInt32.le_iff_toNat_le.mp h.2
    omega

/-- The sets of the parts of a URL keep escapes. -/
theorem userinfo_of_inEscape {c : Char} (h : inEscape c = true) : userinfo c = true := by
  exact forall_ascii (P := fun c => inEscape c = true → userinfo c = true) (by decide)
    (toNat_lt_of_inEscape h) h

theorem path_of_userinfo {c : Char} (h : userinfo c = true) : path c = true := by
  rw [userinfo, Bool.and_eq_true] at h
  exact h.1

theorem path_of_inEscape {c : Char} (h : inEscape c = true) : path c = true :=
  path_of_userinfo (userinfo_of_inEscape h)

theorem toNat_lt_of_unreserved {c : Char} (h : unreserved c = true) : c.toNat < 128 := by
  simp only [unreserved, isAlnum, Bool.or_eq_true, beq_iff_eq] at h
  obtain (((h | rfl) | rfl) | rfl) | rfl := h
  · exact toNat_lt_of_isAlphanum h
  all_goals decide

theorem path_of_unreserved {c : Char} (h : unreserved c = true) : path c = true := by
  exact forall_ascii (P := fun c => unreserved c = true → path c = true) (by decide)
    (toNat_lt_of_unreserved h) h

end RestLoom.Percent
