import RestLoom.Client.Request
import RestLoom.Proofs.Percent.Basic

/-!
# Proofs/Percent/Escaped — values in a path

    "a b/ß"  ──encodePathValue──▸  "a%20b%2F%C3%9F"

A value stands in a path as characters that no part of a URL reserves and as escapes, one for each
byte of every other character (`IsEscaped`).  So whatever text the value is, nothing in it can end a
part of the path or begin another one, and the text is read back from its bytes
(`encodePathValue_reversible`).
-/

namespace RestLoom.Percent

open RestLoom.Text

/-! ## Characters -/

/-- The characters that no part of a URL reserves. -/
def IsUnreserved (c : Char) : Prop := c.isAlphanum = true ∨ c ∈ ['-', '_', '.', '~']

theorem unreserved_iff {c : Char} : unreserved c = true ↔ IsUnreserved c := by
  simp [unreserved, isAlnum, IsUnreserved, or_assoc]

/-- The digits that escapes are written with. -/
def IsCapitalDigit (c : Char) : Prop :=
  c ∈ ['0', '1', '2', '3', '4', '5', '6', '7', '8', '9', 'A', 'B', 'C', 'D', 'E', 'F']

theorem isCapitalDigit_hexDigit : ∀ n < 16, IsCapitalDigit (hexDigit n) := by
  unfold IsCapitalDigit
  decide

/-- The control characters. -/
def IsControl (c : Char) : Prop := c.toNat < 0x20 ∨ (0x7f ≤ c.toNat ∧ c.toNat < 0xa0)

/-- A character that ends no part of a URL and begins none. -/
structure IsHarmless (c : Char) : Prop where
  plain : c ∉ ['/', '?', '#', '&', '=', '+', '\\', '{', '}']
  inked : isBlank c = false
  visible : ¬IsControl c

theorem isHarmless_of_mem_encode {text : List Char} {c : Char} (h : c ∈ encode unreserved text) :
    IsHarmless c := by
  have hkept : unreserved c = true ∨ inEscape c = true := (mem_encode h).imp_left And.right
  have hascii : c.toNat < 128 := hkept.elim toNat_lt_of_unreserved toNat_lt_of_inEscape
  have hall := forall_ascii (P := fun c => (unreserved c = true ∨ inEscape c = true) →
    c ∉ ['/', '?', '#', '&', '=', '+', '\\', '{', '}'] ∧ isBlank c = false ∧ 0x20 ≤ c.toNat ∧
      c.toNat ≠ 0x7f) (by decide) hascii hkept
  exact ⟨hall.1, hall.2.1, fun hcontrol => by unfold IsControl at hcontrol; omega⟩

/-! ## Texts -/

/-- **An escaped text** is made of unreserved characters and of escapes with two capital
hexadecimal digits. -/
inductive IsEscaped : List Char → Prop where
  | nil : IsEscaped []
  | kept {c : Char} {text : List Char} (hc : IsUnreserved c) (h : IsEscaped text) :
    IsEscaped (c :: text)
  | escape {a b : Char} {text : List Char} (ha : IsCapitalDigit a) (hb : IsCapitalDigit b)
    (h : IsEscaped text) : IsEscaped ('%' :: a :: b :: text)

theorem IsEscaped.escapeBytes_append {text : List Char} (h : IsEscaped text) (bs : List UInt8) :
    IsEscaped (bs.flatMap escapeByte ++ text) := by
  induction bs with
  | nil => exact h
  | cons b bs ih =>
    have hb := b.toNat_lt
    rw [List.flatMap_cons, List.append_assoc]
    exact .escape (isCapitalDigit_hexDigit _ (by omega)) (isCapitalDigit_hexDigit _ (by omega)) ih

theorem isEscaped_encode (text : List Char) : IsEscaped (encode unreserved text) := by
  induction text with
  | nil => exact .nil
  | cons c text ih =>
    cases hc : unreserved c with
    | true =>
      rw [encode_cons_of_pos hc]
      exact .kept (unreserved_iff.mp hc) ih
    | false =>
      rw [encode, List.flatMap_cons, encodeChar, hc, if_neg Bool.false_ne_true]
      exact ih.escapeBytes_append _

/-! ## Byte by byte -/

/-- A byte as it is written: an unreserved character as it is, any other byte as an escape. -/
def writeByte (b : UInt8) : List Char :=
  if unreserved (Char.ofNat b.toNat) then [Char.ofNat b.toNat] else escapeByte b

theorem not_unreserved_of_le {b : UInt8} (h : 128 ≤ b.toNat) :
    ¬ unreserved (Char.ofNat b.toNat) = true := by
  intro hkeep
  have hb := b.toNat_lt
  have hlt := toNat_lt_of_unreserved hkeep
  rw [Char.ofNat, dif_pos (.inl (by omega))] at hlt
  exact Nat.not_lt.mpr h hlt

/-- A character is kept or escaped as its bytes are. -/
theorem encodeChar_eq_flatMap (c : Char) :
    encodeChar unreserved c = (String.utf8EncodeChar c).flatMap writeByte := by
  by_cases hc : c.toNat < 128
  · have hbyte : (UInt8.ofNat c.toNat).toNat = c.toNat := by
      rw [UInt8.toNat_ofNat', Nat.mod_eq_of_lt (Nat.lt_trans hc (by decide))]
    rw [encodeChar, escapeChar, utf8EncodeChar_of_ascii hc, List.flatMap_singleton,
      List.flatMap_singleton, writeByte, hbyte, Char.ofNat_toNat]
  · have hle := Nat.not_lt.mp hc
    rw [encodeChar, if_neg fun hkeep => hc (toNat_lt_of_unreserved hkeep), escapeChar]
    exact List.flatMap_congr fun b hb =>
      (if_neg (not_unreserved_of_le (le_of_mem_utf8EncodeChar hle hb))).symm

theorem encode_eq_flatMap (text : List Char) :
    encode unreserved text = (utf8 text).flatMap writeByte := by
  rw [encode, utf8, List.flatMap_assoc]
  exact List.flatMap_congr fun c _ => encodeChar_eq_flatMap c

end RestLoom.Percent

namespace RestLoom.Client.Request

open RestLoom.Text
open RestLoom.Percent (IsUnreserved IsHarmless IsEscaped writeByte decode)

theorem toList_encodePathValue (s : String) :
    (encodePathValue s).toList = Percent.encode Percent.unreserved s.toList :=
  String.toList_ofList

/-- How the texts of values are written reversibly, in characters that are safe in a path. -/
structure IsReversible (write : String → String) : Prop where
  /-- What is written is unreserved characters and escapes. -/
  escaped (s : String) : IsEscaped (write s).toList
  /-- Nothing in it ends a part of a URL. -/
  harmless (s : String) : ∀ c ∈ (write s).toList, IsHarmless c
  /-- The bytes of the text are written one by one. -/
  bytewise (s : String) : (write s).toList = (bytesOf s).flatMap writeByte
  /-- The bytes of the text are read back. -/
  decoded (s : String) : decode (write s).toList = bytesOf s
  /-- Different texts are written differently. -/
  injective (s t : String) : write s = write t → s = t
  append (s t : String) : write (s ++ t) = write s ++ write t
  /-- Exactly the texts of unreserved characters are written as they are. -/
  eq_self_iff (s : String) : write s = s ↔ ∀ c ∈ s.toList, IsUnreserved c

/-- **Values are written into paths reversibly**, whatever their texts are. -/
theorem encodePathValue_reversible : IsReversible encodePathValue := by
  have hdecoded (s : String) : decode (encodePathValue s).toList = bytesOf s := by
    rw [toList_encodePathValue, bytesOf_eq]
    exact Percent.decode_encode rfl s.toList
  refine ⟨fun s => ?_, fun s c hc => ?_, fun s => ?_, hdecoded, fun s t h => ?_, fun s t => ?_,
    fun s => ?_⟩
  · rw [toList_encodePathValue]
    exact Percent.isEscaped_encode s.toList
  · rw [toList_encodePathValue] at hc
    exact Percent.isHarmless_of_mem_encode hc
  · rw [toList_encodePathValue, bytesOf_eq]
    exact Percent.encode_eq_flatMap s.toList
  · exact bytesOf_injective (by rw [← hdecoded s, ← hdecoded t, h])
  · rw [encodePathValue, String.toList_append, Percent.encode_append, String.ofList_append]
    rfl
  · rw [← String.toList_inj, toList_encodePathValue, Percent.encode_eq_self_iff]
    exact forall₂_congr fun c _ => Percent.unreserved_iff

example : encodePathValue "a b/c" = "a%20b%2Fc" := by decide

end RestLoom.Client.Request
