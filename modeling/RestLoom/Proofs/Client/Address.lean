import RestLoom.Client.Address
import RestLoom.Proofs.Text.Lines

/-!
# Proofs/Client/Address — which texts are base addresses

    " https://host/api// "  ──trim, dropSlashes──▸  https://host/api  ──▸  https://host/api/

A text is taken for a base address after its ends were cut and one slash was put there
(`normalizeBaseAddress_eq_ok`).
-/

namespace RestLoom.Client

open RestLoom.Text

/-! ## Ends -/

variable {text : List Char} {c : Char}

theorem dropSlashes_eq_self (h : text.getLast? ≠ some '/') : dropSlashes text = text := by
  obtain rfl | ⟨init, c, rfl⟩ := List.eq_nil_or_concat' text
  · rfl
  · rw [List.getLast?_concat] at h
    exact dropEndWhile_of_getLast (beq_false_of_ne fun hc => h (congrArg some hc))

theorem dropSlashes_append_slashes (text : List Char) (n : Nat) :
    dropSlashes (text ++ List.replicate n '/') = dropSlashes text := by
  rw [dropSlashes, dropSlashes, dropEndWhile, dropEndWhile, List.reverse_append,
    List.reverse_replicate, List.dropWhile_append_of_pos]
  exact fun d hd => beq_iff_eq.mpr (List.eq_of_mem_replicate hd)

/-- A text between characters that are no blanks has nothing trimmed. -/
theorem trim_eq_self {d : Char} (hc : isBlank c = false) (hd : isBlank d = false) :
    trim (c :: (text ++ [d])) = c :: (text ++ [d]) := by
  rw [trim, List.dropWhile_cons_of_neg (by rw [hc]; exact Bool.false_ne_true), ← List.cons_append,
    dropEndWhile_of_getLast hd]

/-! ## Base addresses -/

variable {address : String} {base : Url}

/-- A text is read as a base if, without blanks at its ends and with one slash at the end, it is the
text of a base without query and fragment. -/
theorem readBaseAddress_eq_ok : readBaseAddress text = .ok base ↔ trim text ≠ [] ∧
    Url.parse (dropSlashes (trim text) ++ ['/']) = .ok base ∧
      base.canBeBase = true ∧ base.query = none ∧ base.fragment = none := by
  rw [readBaseAddress]
  split
  next hnil => exact ⟨nofun, fun h => absurd hnil h.1⟩
  next hne =>
    split
    next e hparse =>
      rw [hparse]
      exact ⟨nofun, fun h => nomatch h.2.1⟩
    next url hparse =>
      rw [hparse]
      split
      next hbase =>
        refine ⟨nofun, ?_⟩
        rintro ⟨-, ⟨⟩, hcan, -⟩
        rw [hcan] at hbase
        cases hbase
      next hbase =>
        split
        next htail =>
          refine ⟨nofun, ?_⟩
          rintro ⟨-, ⟨⟩, -, hquery, hfragment⟩
          rw [hquery, hfragment] at htail
          cases htail
        next htail =>
          rw [Bool.not_eq_true, Bool.not_eq_false'] at hbase
          rw [Bool.not_eq_true, Bool.or_eq_false_iff, Option.isSome_eq_false_iff,
            Option.isSome_eq_false_iff, Option.isNone_iff_eq_none,
            Option.isNone_iff_eq_none] at htail
          constructor
          · rintro ⟨⟩
            exact ⟨hne, rfl, hbase, htail⟩
          · rintro ⟨-, ⟨⟩, -⟩
            rfl

/-- **A text is a base address** if it is read as one. -/
theorem normalizeBaseAddress_eq_ok :
    normalizeBaseAddress address = .ok base ↔ trim address.toList ≠ [] ∧
      Url.parse (dropSlashes (trim address.toList) ++ ['/']) = .ok base ∧
        base.canBeBase = true ∧ base.query = none ∧ base.fragment = none := by
  rw [normalizeBaseAddress, ← readBaseAddress_eq_ok]
  cases readBaseAddress address.toList with
  | ok url => exact ⟨fun h => congrArg _ (Except.ok.inj h), fun h => congrArg _ (Except.ok.inj h)⟩
  | error f => exact ⟨nofun, nofun⟩

end RestLoom.Client
