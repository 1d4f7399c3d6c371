import Mathlib.Data.List.Basic
import RestLoom.Token.Literal

/-!
# Proofs/Token/Literal — values are read back from their literals

    value ──quote──▸ "a\tb" ──stringValue?──▸ value

The literal of a value spells this value (`stringValue?_quote`), so different values have different
literals (`quote_inj`).
-/

namespace RestLoom.Token

open RestLoom.Text

/-! ## Code points -/

theorem hexDigit?_digitChar : ∀ d < 16, hexDigit? d.digitChar = some d ∧ d.digitChar ≠ '}' ∧
    d.digitChar ≠ '_' := by
  decide

theorem readCode_digitChar {n d : Nat} (hd : d < 16) (rest : List Char) :
    readCode n (d.digitChar :: rest) = readCode (n * 16 + d) rest := by
  obtain ⟨hhex, hbrace, hline⟩ := hexDigit?_digitChar d hd
  rw [readCode, hhex, Option.bind_eq_bind, Option.bind_some]
  · exact hbrace
  · exact hline

/-- **The digits of a code point** are read as the code point. -/
theorem readCode_toDigits (n : Nat) (rest : List Char) :
    readCode 0 (Nat.toDigits 16 n ++ rest) = readCode n rest := by
  induction n using Nat.strongRecOn generalizing rest with
  | ind n ih =>
    rw [Nat.toDigits_eq_if (by decide)]
    split
    next hlt => rw [List.singleton_append, readCode_digitChar hlt, Nat.zero_mul, Nat.zero_add]
    next hge =>
      rw [List.append_assoc, ih (n / 16) (Nat.div_lt_self (by omega) (by decide)),
        List.singleton_append, readCode_digitChar (Nat.mod_lt _ (by decide)), Nat.mul_comm,
        Nat.div_add_mod]

/-! ## Strings -/

variable {fuel : Nat} {rest : List Char}

/-- A visible character stands for itself. -/
theorem unescape_cons {c : Char} (hquote : c ≠ '\x22') (hslash : c ≠ '\\') (hreturn : c ≠ '\r') :
    unescape (fuel + 1) (c :: rest) = (unescape fuel rest).map (c :: ·) := by
  rw [unescape]
  · cases unescape fuel rest <;> rfl
  all_goals
    intros
    first
      | exact hquote ‹_›
      | exact hslash ‹_›
      | exact hreturn ‹_›

/-- **A code point** in an escape is read as its character. -/
theorem unescape_escapeCode (c : Char) :
    unescape (fuel + 1) (escapeCode c ++ rest) = (unescape fuel rest).map (c :: ·) := by
  have hcode : readCode 0 (Nat.toDigits 16 c.toNat ++ '}' :: rest) = some (c.toNat, rest) := by
    rw [readCode_toDigits, readCode]
  have hshape : escapeCode c ++ rest =
      '\\' :: 'u' :: '{' :: (Nat.toDigits 16 c.toNat ++ '}' :: rest) := by
    rw [escapeCode, List.append_assoc, List.append_assoc]
    rfl
  rw [hshape, unescape, hcode, Option.bind_eq_bind, Option.bind_some]
  dsimp only
  rw [Char.ofNat_toNat]
  cases unescape fuel rest <;> rfl

/-- One character is read back from its part of the literal. -/
theorem unescape_escapeChar (c : Char) (next : Option Char) :
    unescape (fuel + 1) (escapeChar c next ++ rest) = (unescape fuel rest).map (c :: ·) := by
  have hbind (c : Char) :
      (do return c :: (← unescape fuel rest)) = (unescape fuel rest).map (c :: ·) := by
    cases unescape fuel rest <;> rfl
  rw [escapeChar]
  split_ifs with hnull hdigit htab hreturn hfeed hslash hquote hvisible
  · rw [hnull]
    exact hbind _
  · rw [hnull]
    exact hbind _
  · rw [htab]
    exact hbind _
  · rw [hreturn]
    exact hbind _
  · rw [hfeed]
    exact hbind _
  · rw [hslash]
    exact hbind _
  · rw [hquote]
    exact hbind _
  · exact unescape_escapeCode c
  · exact unescape_cons hquote hslash hreturn

theorem unescape_escape (value : List Char) {fuel : Nat} (h : value.length < fuel) :
    unescape fuel (escape value ++ ['\x22']) = some value := by
  induction value generalizing fuel with
  | nil =>
    obtain ⟨fuel, rfl⟩ := Nat.exists_eq_succ_of_ne_zero (Nat.ne_zero_of_lt h)
    rfl
  | cons c value ih =>
    obtain ⟨fuel, rfl⟩ := Nat.exists_eq_succ_of_ne_zero (Nat.ne_zero_of_lt h)
    rw [escape, List.append_assoc, unescape_escapeChar, ih (Nat.lt_of_succ_lt_succ h),
      Option.map_some]

theorem escapeChar_ne_nil (c : Char) (next : Option Char) : escapeChar c next ≠ [] := by
  rw [escapeChar]
  split_ifs
  all_goals simp [escapeCode]

theorem length_le_length_escape (value : List Char) : value.length ≤ (escape value).length := by
  induction value with
  | nil => exact Nat.le_refl 0
  | cons c value ih =>
    have hpos := List.length_pos_of_ne_nil (escapeChar_ne_nil c value.head?)
    rw [escape, List.length_append, List.length_cons]
    omega

/-- **The literal of a value** spells the value. -/
theorem stringValue?_quote (value : String) : stringValue? (quote value) = some value := by
  have hlength := length_le_length_escape value.toList
  have hvalue : unescape ((escape value.toList ++ ['\x22']).length + 1)
      (escape value.toList ++ ['\x22']) = some value.toList :=
    unescape_escape value.toList (by rw [List.length_append]; omega)
  rw [stringValue?, quote, String.toList_ofList, List.cons_append]
  change (unescape ((escape value.toList ++ ['\x22']).length + 1)
    (escape value.toList ++ ['\x22'])).map String.ofList = some value
  rw [hvalue, Option.map_some, String.ofList_toList]

theorem quote_inj {a b : String} (h : quote a = quote b) : a = b := by
  have hvalue := stringValue?_quote a
  rw [h, stringValue?_quote] at hvalue
  exact (Option.some.inj hvalue).symm

/-! ## Spelling -/

mutual

/-- A token in which each string literal is spelled as its value is written. -/
def respell : Token → Token
  | literal text => literal (((stringValue? text).map quote).getD text)
  | group d inner => group d (respellAll inner)
  | t => t

/-- Tokens in which each string literal is spelled as its value is written. -/
def respellAll : List Token → List Token
  | [] => []
  | t :: ts => respell t :: respellAll ts

end

end RestLoom.Token
