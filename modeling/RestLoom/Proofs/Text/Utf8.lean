import Mathlib.Tactic.SplitIfs
import RestLoom.Text.Utf8

/-!
# Proofs/Text/Utf8 — bytes are read as the text they were written for

    é  ──utf8──▸  c3 a9  ──decode?──▸  é

A character has one byte to four, and the first of them tells how many.  `utf8Step_encodeChar` reads
the bytes of one character wherever they stand, and `decode?_utf8` those of a text.
-/

namespace RestLoom.Text

/-! ## One character -/

theorem toNat_ofNat_byte {n : Nat} (h : n < 256) : (UInt8.ofNat n).toNat = n :=
  UInt8.toNat_ofNat_of_lt h

/-- A byte after the first one of a character. -/
theorem isTail_low (v : Nat) : isTail (v % 64 + 128) = true := by
  simp only [isTail, Bool.and_eq_true, decide_eq_true_eq]
  omega

theorem toNat_low (v : Nat) : (UInt8.ofNat (v % 64 + 128)).toNat = v % 64 + 128 :=
  toNat_ofNat_byte (by omega)

theorem within_of_le {first last x : Nat} (h : first ≤ x ∧ x ≤ last) :
    (first ≤ x && x ≤ last) = true := by
  simp only [Bool.and_eq_true, decide_eq_true_eq]
  exact h

theorem not_within_of_lt {first last x : Nat} (h : last < x) :
    ¬(first ≤ x && x ≤ last) = true := by
  simp only [Bool.and_eq_true, decide_eq_true_eq]
  omega

variable {v : Nat}

/-- **A character of two bytes** is read from them. -/
theorem utf8Step_two (hlow : 127 < v) (hhigh : v ≤ 2047) (rest : List UInt8) :
    utf8Step (v / 64 % 32 + 192) (UInt8.ofNat (v % 64 + 128) :: rest) =
      .char (Char.ofNat v) 2 := by
  have hsum : (v / 64 % 32 + 192 - 0xc0) * 64 + (v % 64 + 128 - 0x80) = v := by omega
  rw [utf8Step, if_neg (by omega), if_pos (within_of_le (by omega))]
  simp only [List.map_cons]
  rw [toNat_low, if_pos (isTail_low v), hsum]

/-- **A character of three bytes** is read from them: the second byte tells it from a surrogate. -/
theorem utf8Step_three (hlow : 2047 < v) (hhigh : v ≤ 65535) (hvalid : v < 0xd800 ∨ 0xdfff < v)
    (rest : List UInt8) :
    utf8Step (v / 4096 % 16 + 224)
        (UInt8.ofNat (v / 64 % 64 + 128) :: UInt8.ofNat (v % 64 + 128) :: rest) =
      .char (Char.ofNat v) 3 := by
  have hsecond : ((secondBounds (v / 4096 % 16 + 224)).1 ≤ v / 64 % 64 + 128 &&
      v / 64 % 64 + 128 ≤ (secondBounds (v / 4096 % 16 + 224)).2) = true := by
    rw [secondBounds]
    split_ifs <;> exact within_of_le (by omega)
  have hsum : (v / 4096 % 16 + 224 - 0xe0) * 4096 + (v / 64 % 64 + 128 - 0x80) * 64 +
      (v % 64 + 128 - 0x80) = v := by omega
  rw [utf8Step, if_neg (by omega), if_neg (not_within_of_lt (by omega)),
    if_pos (within_of_le (by omega))]
  simp only [List.map_cons]
  rw [toNat_low, toNat_low, if_pos hsecond, if_pos (isTail_low v), hsum]

/-- **A character of four bytes** is read from them. -/
theorem utf8Step_four (hlow : 65535 < v) (hhigh : v < 0x110000) (rest : List UInt8) :
    utf8Step (v / 262144 % 8 + 240) (UInt8.ofNat (v / 4096 % 64 + 128) ::
        UInt8.ofNat (v / 64 % 64 + 128) :: UInt8.ofNat (v % 64 + 128) :: rest) =
      .char (Char.ofNat v) 4 := by
  have hsecond : ((secondBounds (v / 262144 % 8 + 240)).1 ≤ v / 4096 % 64 + 128 &&
      v / 4096 % 64 + 128 ≤ (secondBounds (v / 262144 % 8 + 240)).2) = true := by
    rw [secondBounds]
    split_ifs <;> exact within_of_le (by omega)
  have hsum : (v / 262144 % 8 + 240 - 0xf0) * 262144 + (v / 4096 % 64 + 128 - 0x80) * 4096 +
      (v / 64 % 64 + 128 - 0x80) * 64 + (v % 64 + 128 - 0x80) = v := by omega
  rw [utf8Step, if_neg (by omega), if_neg (not_within_of_lt (by omega)),
    if_neg (not_within_of_lt (by omega)), if_pos (within_of_le (by omega))]
  simp only [List.map_cons]
  rw [toNat_low, toNat_low, toNat_low, if_pos hsecond, if_pos (isTail_low _),
    if_pos (isTail_low v), hsum]

/-- **The bytes of a character** are read as it, whatever follows them. -/
theorem utf8Step_encodeChar (c : Char) (rest : List UInt8) :
    ∃ b bs, String.utf8EncodeChar c = b :: bs ∧
      utf8Step b.toNat (bs ++ rest) = .char c (bs.length + 1) := by
  have hvalid : c.toNat < 0xd800 ∨ 0xdfff < c.toNat ∧ c.toNat < 0x110000 := c.valid
  have hchar : Char.ofNat c.toNat = c := Char.ofNat_toNat c
  rw [String.utf8EncodeChar, show c.val.toNat = c.toNat from rfl]
  generalize c.toNat = v at hvalid hchar
  rw [← hchar]
  split_ifs with hone htwo hthree
  · refine ⟨_, _, rfl, ?_⟩
    rw [toNat_ofNat_byte (by omega), utf8Step, if_pos (by omega)]
    rfl
  · refine ⟨_, _, rfl, ?_⟩
    rw [toNat_ofNat_byte (by omega)]
    exact utf8Step_two (by omega) htwo rest
  · refine ⟨_, _, rfl, ?_⟩
    rw [toNat_ofNat_byte (by omega)]
    exact utf8Step_three (by omega) hthree (hvalid.imp_right And.left) rest
  · refine ⟨_, _, rfl, ?_⟩
    rw [toNat_ofNat_byte (by omega)]
    exact utf8Step_four (by omega) (by omega) rest

/-! ## Texts -/

theorem decodeUpTo_utf8 {text : List Char} {n : Nat} (h : (utf8 text).length ≤ n) :
    decodeUpTo n (utf8 text) = some text := by
  induction text generalizing n with
  | nil => cases n <;> rfl
  | cons c text ih =>
    obtain ⟨b, bs, heq, hstep⟩ := utf8Step_encodeChar c (utf8 text)
    have hcons : utf8 (c :: text) = b :: (bs ++ utf8 text) := by
      rw [utf8, List.flatMap_cons, heq]
      rfl
    rw [hcons, List.length_cons, List.length_append] at h
    cases n with
    | zero => exact absurd h (Nat.not_succ_le_zero _)
    | succ n =>
      rw [hcons, decodeUpTo, hstep]
      dsimp only
      rw [Nat.add_sub_cancel, List.drop_left, ih (by omega)]
      rfl

/-- **The bytes of a text** are read as the text. -/
theorem decode?_utf8 (text : List Char) : decode? (utf8 text) = some text :=
  decodeUpTo_utf8 (Nat.le_refl _)

/-- Nothing is replaced in bytes that are text. -/
theorem decodeLossyUpTo_of_decodeUpTo {n : Nat} {bs : List UInt8} {text : List Char}
    (h : decodeUpTo n bs = some text) : decodeLossyUpTo n bs = text := by
  induction n generalizing bs text with
  | zero =>
    cases bs with
    | nil => exact Option.some.inj h
    | cons b bs => cases h
  | succ n ih =>
    cases bs with
    | nil => exact Option.some.inj h
    | cons b bs =>
      rw [decodeUpTo] at h
      rw [decodeLossyUpTo]
      split at h
      next c size hstep =>
        obtain ⟨rest, hrest, rfl⟩ := Option.map_eq_some_iff.mp h
        exact congrArg (c :: ·) (ih hrest)
      next => cases h

theorem decodeLossy_utf8 (text : List Char) : decodeLossy (utf8 text) = text :=
  decodeLossyUpTo_of_decodeUpTo (decode?_utf8 text)

end RestLoom.Text
