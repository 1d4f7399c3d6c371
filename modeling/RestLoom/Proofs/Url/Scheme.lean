import Mathlib.Data.List.TakeWhile
import RestLoom.Proofs.Text.Ascii
import RestLoom.Url.Parse

/-!
# Proofs/Url/Scheme — schemes are read back from their text

    HTTP://h  ──readScheme──▸  http · //h         http ++ ":" ++ rest  ──readScheme──▸  http · rest

A scheme is a letter and then letters, digits and three marks, all of them small, so no character of
it is a colon or has a part in anything after it.
-/

namespace RestLoom.Url

open RestLoom.Text

/-- What a scheme is that was read. -/
structure IsScheme (scheme : List Char) : Prop where
  alpha : ∃ c cs, scheme = c :: cs ∧ c.isAlpha = true
  inScheme : ∀ c ∈ scheme, inScheme c = true
  small : ∀ c ∈ scheme, c.toLower = c

theorem toNat_lt_of_inScheme {c : Char} (h : inScheme c = true) : c.toNat < 128 := by
  simp only [inScheme, Bool.or_eq_true, beq_iff_eq] at h
  obtain ((h | rfl) | rfl) | rfl := h
  · exact toNat_lt_of_isAlphanum h
  all_goals decide

/-- The small form of a character of a scheme. -/
theorem inScheme_toLower {c : Char} (h : inScheme c = true) :
    inScheme c.toLower = true ∧ c.toLower.toLower = c.toLower ∧
      (c.isAlpha = true → c.toLower.isAlpha = true) :=
  forall_ascii (P := fun c => inScheme c = true → inScheme c.toLower = true ∧
    c.toLower.toLower = c.toLower ∧ (c.isAlpha = true → c.toLower.isAlpha = true)) (by decide)
    (toNat_lt_of_inScheme h) h

theorem inScheme_of_isAlpha {c : Char} (h : c.isAlpha = true) : inScheme c = true := by
  rw [inScheme, Char.isAlphanum, h]
  rfl

/-- **A scheme that was read** is one, and a colon followed it. -/
theorem isScheme_of_readScheme {cs scheme rest : List Char}
    (h : readScheme cs = some (scheme, rest)) : IsScheme scheme := by
  cases cs with
  | nil => cases h
  | cons c cs =>
    rw [readScheme] at h
    split at h
    next halpha =>
      split at h
      next =>
        obtain rfl := (Prod.mk.inj (Option.some.inj h)).1
        have hin : ∀ d ∈ (c :: cs).takeWhile inScheme, inScheme d = true := fun d hd =>
          List.mem_takeWhile_imp hd
        have hc := inScheme_of_isAlpha halpha
        refine ⟨⟨c.toLower, (cs.takeWhile inScheme).map (·.toLower), ?_,
          (inScheme_toLower hc).2.2 halpha⟩, ?_, ?_⟩
        · rw [List.takeWhile_cons_of_pos hc, List.map_cons]
        · exact List.forall_mem_map.mpr fun d hd => (inScheme_toLower (hin d hd)).1
        · exact List.forall_mem_map.mpr fun d hd => (inScheme_toLower (hin d hd)).2.1
      next => cases h
    next => cases h

/-- **A scheme** ends at its colon. -/
theorem IsScheme.readScheme {scheme : List Char} (h : IsScheme scheme) (rest : List Char) :
    readScheme (scheme ++ ':' :: rest) = some (scheme, rest) := by
  have hcolon : ¬Url.inScheme ':' = true := by decide
  have hdrop : (scheme ++ ':' :: rest).dropWhile Url.inScheme = ':' :: rest := by
    rw [List.dropWhile_append_of_pos h.inScheme, List.dropWhile_cons_of_neg hcolon]
  have htake : (scheme ++ ':' :: rest).takeWhile Url.inScheme = scheme := by
    rw [List.takeWhile_append_of_pos h.inScheme, List.takeWhile_cons_of_neg hcolon, List.append_nil]
  have hsmall : scheme.map (·.toLower) = scheme :=
    (List.map_congr_left h.small).trans (List.map_id' scheme)
  obtain ⟨c, cs, heq, halpha⟩ := h.alpha
  have hcons : scheme ++ ':' :: rest = c :: (cs ++ ':' :: rest) := by rw [heq]; rfl
  rw [hcons] at hdrop htake ⊢
  rw [Url.readScheme, if_pos halpha, hdrop, htake, hsmall]
  rfl

/-- The characters of a scheme count. -/
theorem IsScheme.lt_of_mem {scheme : List Char} (h : IsScheme scheme) {c : Char} (hc : c ∈ scheme) :
    0x20 < c.toNat :=
  forall_ascii (P := fun c => Url.inScheme c = true → 0x20 < c.toNat) (by decide)
    (toNat_lt_of_inScheme (h.inScheme c hc)) (h.inScheme c hc)

end RestLoom.Url
