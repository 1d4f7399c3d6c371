import Mathlib.Data.List.Basic
import RestLoom.Url.Address

/-!
# Proofs/Url/Digits — numbers are read back from their digits

    n ──toDigits b──▸ digits ──digitsValue b──▸ n

The digits of a number in a base up to sixteen have its value (`digitsValue_toDigits`).
-/

namespace RestLoom.Url

theorem hexValue_digitChar : ∀ d < 16, Percent.hexValue d.digitChar = some d := by decide

theorem digitsValue_append (base : Nat) (a : List Char) (c : Char) :
    digitsValue base (a ++ [c]) = digitsValue base a * base + (Percent.hexValue c).getD 0 := by
  rw [digitsValue, List.foldl_append]
  rfl

/-- **The digits of a number** have its value. -/
theorem digitsValue_toDigits {base : Nat} (hbase : 1 < base) (hle : base ≤ 16) (n : Nat) :
    digitsValue base (Nat.toDigits base n) = n := by
  induction n using Nat.strongRecOn with
  | ind n ih =>
    rw [Nat.toDigits_eq_if hbase]
    split
    next hlt =>
      have hvalue := digitsValue_append base [] n.digitChar
      rw [hexValue_digitChar n (Nat.lt_of_lt_of_le hlt hle)] at hvalue
      exact hvalue.trans (by simp [digitsValue])
    next hge =>
      have hmod : n % base < base := Nat.mod_lt _ (Nat.lt_trans Nat.zero_lt_one hbase)
      rw [digitsValue_append, ih (n / base) (Nat.div_lt_self (by omega) hbase),
        hexValue_digitChar _ (Nat.lt_of_lt_of_le hmod hle), Option.getD_some, Nat.mul_comm,
        Nat.div_add_mod]

theorem mem_toDigits {base : Nat} (hbase : 1 < base) {n : Nat} {c : Char}
    (h : c ∈ Nat.toDigits base n) : ∃ d < base, c = d.digitChar := by
  induction n using Nat.strongRecOn with
  | ind n ih =>
    rw [Nat.toDigits_eq_if hbase] at h
    split at h
    next hlt => exact ⟨n, hlt, List.mem_singleton.mp h⟩
    next hge =>
      obtain h | h := List.mem_append.mp h
      · exact ih (n / base) (Nat.div_lt_self (by omega) hbase) h
      · exact ⟨n % base, Nat.mod_lt _ (Nat.lt_trans Nat.zero_lt_one hbase),
          List.mem_singleton.mp h⟩

/-! ## Decimal digits -/

theorem decimal_eq (n : Nat) : decimal n = Nat.toDigits 10 n := by
  rw [decimal, Nat.toString_eq_repr, Nat.toList_repr]

theorem digitsValue_decimal (n : Nat) : digitsValue 10 (decimal n) = n := by
  rw [decimal_eq, digitsValue_toDigits (by decide) (by decide)]

theorem isDigit_of_mem_decimal {n : Nat} {c : Char} (h : c ∈ decimal n) : c.isDigit = true := by
  rw [decimal_eq] at h
  exact Nat.isDigit_of_mem_toDigits (by decide) (by decide) h

theorem decimal_ne_nil (n : Nat) : decimal n ≠ [] := by
  rw [decimal_eq]
  exact Nat.toDigits_ne_nil

/-- A part of an address is read as the number it is. -/
theorem readLabelNumber_decimal {n : Nat} (h : n < 256) : readLabelNumber (decimal n) = some n := by
  have hall : ∀ n < 256, readLabelNumber (Nat.toDigits 10 n) = some n := by decide +kernel
  rw [decimal_eq]
  exact hall n h

end RestLoom.Url
