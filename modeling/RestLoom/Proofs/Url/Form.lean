import RestLoom.Proofs.Percent.Basic
import RestLoom.Proofs.Text.Lines
import RestLoom.Proofs.Text.Utf8
import RestLoom.Url.Form

/-!
# Proofs/Url/Form — pairs are read back from a query

    x=1  ·  ("a&b", "é")  ──appendPair──▸  x=1&a%26b=%C3%A9  ──decodePairs──▸  ("x", "1"), ("a&b", "é")

The text of a name or a value holds neither of the two separators, so a pair that is added is one
part of the query, and what was there before stays as it was (`decodePairs_foldl_appendPair`).  The
escapes that a URL adds to a query change nothing of its pairs (`decodePairs_encode`).
-/

namespace RestLoom.Url

open RestLoom.Text

/-- A blank for a plus sign, as in the names and the values of a query. -/
def blankOfPlus (c : Char) : Char := if c = '+' then ' ' else c

theorem formBytes_eq (cs : List Char) : formBytes cs = Percent.decode (cs.map blankOfPlus) := rfl

/-! ## Names and values -/

theorem map_blankOfPlus_escapeChar (c : Char) :
    (Percent.escapeChar c).map blankOfPlus = Percent.escapeChar c := by
  refine (List.map_congr_left fun d hd => ?_).trans (List.map_id _)
  obtain ⟨b, -, hd⟩ := List.mem_flatMap.mp hd
  have hplus : d ≠ '+' := by
    rintro rfl
    exact absurd (Percent.inEscape_of_mem_escapeByte hd) (by decide)
  exact if_neg hplus

/-- With its plus signs read as blanks, the text of a name escapes all but blanks and form
characters. -/
theorem map_blankOfPlus_formText (cs : List Char) :
    (formText cs).map blankOfPlus = Percent.encode (fun c => c == ' ' || Percent.form c) cs := by
  rw [formText, List.map_flatMap, Percent.encode]
  refine List.flatMap_congr fun c _ => ?_
  rw [formChar, Percent.encodeChar, Percent.encodeChar]
  by_cases hblank : c = ' '
  · subst hblank
    rfl
  · rw [if_neg hblank, beq_false_of_ne hblank, Bool.false_or]
    split
    next hform =>
      have hplus : c ≠ '+' := by
        rintro rfl
        exact absurd hform (by decide)
      exact congrArg (fun d => [d]) (if_neg hplus)
    next => exact map_blankOfPlus_escapeChar c

/-- **A name or a value** is read back. -/
theorem formBytes_formText (cs : List Char) : formBytes (formText cs) = utf8 cs := by
  rw [formBytes_eq, map_blankOfPlus_formText]
  exact Percent.decode_encode rfl cs

/-- The characters of a name or a value. -/
theorem mem_formText {cs : List Char} {c : Char} (h : c ∈ formText cs) :
    c = '+' ∨ Percent.form c = true ∨ Percent.inEscape c = true := by
  obtain ⟨d, -, hc⟩ := List.mem_flatMap.mp h
  rw [formChar, Percent.encodeChar] at hc
  split at hc
  next => exact .inl (List.mem_singleton.mp hc)
  next =>
    split at hc
    next hform =>
      obtain rfl := List.mem_singleton.mp hc
      exact .inr (.inl hform)
    next =>
      obtain ⟨b, -, hc⟩ := List.mem_flatMap.mp hc
      exact .inr (.inr (Percent.inEscape_of_mem_escapeByte hc))

/-- The text of a name or a value holds no separator. -/
theorem not_separator_of_mem_formText {cs : List Char} {c : Char} (h : c ∈ formText cs) :
    (c == '&') = false ∧ (c == '=') = false := by
  simp only [beq_eq_false_iff_ne]
  constructor
  all_goals
    rintro rfl
    obtain hc | hc | hc := mem_formText h
    all_goals exact absurd hc (by decide)

/-! ## Pairs -/

/-- The bytes of the name and the value in one part of a query. -/
def decodePart (part : List Char) : List UInt8 × List UInt8 :=
  (formBytes (breakAt (· == '=') part).1, formBytes ((breakAt (· == '=') part).2.drop 1))

theorem decodePairs_eq (query : List Char) :
    decodePairs query = ((splitAt (· == '&') query).filter (· ≠ [])).map decodePart := rfl

/-- **A pair** is read back from its text. -/
theorem decodePart_formPair (p : Pair) : decodePart (formPair p) = (utf8 p.1, utf8 p.2) := by
  have hname : ∀ c ∈ formText p.1, (c == '=') = false := fun c hc =>
    (not_separator_of_mem_formText hc).2
  rw [decodePart, formPair, breakAt_append_cons hname rfl, formBytes_formText, List.drop_one,
    List.tail_cons, formBytes_formText]

theorem splitAt_formPair (p : Pair) : splitAt (· == '&') (formPair p) = [formPair p] := by
  refine splitAt_of_forall fun c hc => ?_
  obtain hc | hc := List.mem_append.mp hc
  · exact (not_separator_of_mem_formText hc).1
  · obtain rfl | hc := List.mem_cons.mp hc
    · rfl
    · exact (not_separator_of_mem_formText hc).1

theorem formPair_ne_nil (p : Pair) : formPair p ≠ [] :=
  List.append_ne_nil_of_right_ne_nil _ (List.cons_ne_nil _ _)

/-- **A pair that is added** is the last one, and the others stay. -/
theorem decodePairs_appendPair (query : List Char) (p : Pair) :
    decodePairs (appendPair query p) = decodePairs query ++ [(utf8 p.1, utf8 p.2)] := by
  have hpair : ((splitAt (· == '&') (formPair p)).filter (· ≠ [])).map decodePart =
      [(utf8 p.1, utf8 p.2)] := by
    rw [splitAt_formPair, List.filter_singleton, decide_eq_true (formPair_ne_nil p), cond_true,
      List.map_singleton, decodePart_formPair]
  rw [appendPair]
  split
  next hnil =>
    subst hnil
    exact hpair
  next =>
    rw [decodePairs_eq, splitAt_append rfl, List.filter_append, List.map_append, hpair]
    rfl

theorem decodePairs_foldl_appendPair (query : List Char) (ps : List Pair) :
    decodePairs (ps.foldl appendPair query) =
      decodePairs query ++ ps.map fun p => (utf8 p.1, utf8 p.2) := by
  induction ps generalizing query with
  | nil => exact (List.append_nil _).symm
  | cons p ps ih =>
    rw [List.foldl_cons, ih, decodePairs_appendPair, List.append_assoc, List.map_cons,
      List.singleton_append]

/-! ## Escapes in a query -/

/-- What an encoding of queries keeps: escapes, plus signs and the separators. -/
structure KeepsPairs (keep : Char → Bool) : Prop where
  percent : keep '%' = true
  digit : ∀ c, Percent.hexValue c ≠ none → keep c = true
  plus : keep '+' = true
  ampersand : keep '&' = true
  equals : keep '=' = true

theorem keepsPairs_query : KeepsPairs Percent.query :=
  ⟨rfl, fun c hc => by
    obtain ⟨d, hd⟩ := Option.ne_none_iff_exists'.mp hc
    exact forall_ascii (P := fun c => Percent.hexValue c ≠ none → Percent.query c = true) (by decide)
      (Percent.toNat_lt_of_hexValue hd) hc, rfl, rfl, rfl⟩

theorem keepsPairs_specialQuery : KeepsPairs Percent.specialQuery :=
  ⟨rfl, fun c hc => by
    have hquote : c ≠ '\x27' := by
      rintro rfl
      exact hc rfl
    rw [Percent.specialQuery, keepsPairs_query.digit c hc, bne_iff_ne.mpr hquote, Bool.and_true],
    rfl, rfl, rfl⟩

variable {keep : Char → Bool}

theorem KeepsPairs.inEscape (h : KeepsPairs keep) {c : Char} (hc : Percent.inEscape c = true) :
    keep c = true := by
  have hescape : c = '%' ∨ Percent.hexValue c ≠ none :=
    forall_ascii (P := fun c => Percent.inEscape c = true → c = '%' ∨ Percent.hexValue c ≠ none)
      (by decide) (Percent.toNat_lt_of_inEscape hc) hc
  obtain rfl | hdigit := hescape
  · exact h.percent
  · exact h.digit c hdigit

/-- **Escapes change no name and no value.** -/
theorem formBytes_encode (h : KeepsPairs keep) (cs : List Char) :
    formBytes (Percent.encode keep cs) = formBytes cs := by
  -- Escaping the rest of either text gives the same text.
  have hsame : Percent.encode keep ((Percent.encode keep cs).map blankOfPlus) =
      Percent.encode keep (cs.map blankOfPlus) := by
    rw [Percent.encode, Percent.encode, Percent.encode, List.map_flatMap, List.flatMap_assoc,
      List.flatMap_map]
    refine List.flatMap_congr fun c _ => ?_
    cases hc : keep c with
    | true => rw [Percent.encodeChar, if_pos hc, List.map_singleton, List.flatMap_singleton]
    | false =>
      have hplus : c ≠ '+' := by
        rintro rfl
        rw [h.plus] at hc
        cases hc
      have hescape : Percent.encodeChar keep c = Percent.escapeChar c := by
        rw [Percent.encodeChar, hc, if_neg Bool.false_ne_true]
      rw [hescape, map_blankOfPlus_escapeChar, blankOfPlus, if_neg hplus, hescape]
      refine Percent.encode_eq_self fun d hd => ?_
      obtain ⟨b, -, hd⟩ := List.mem_flatMap.mp hd
      exact h.inEscape (Percent.inEscape_of_mem_escapeByte hd)
  rw [formBytes_eq, formBytes_eq, ← Percent.decode_encode_of_keep h.percent h.digit, hsame,
    Percent.decode_encode_of_keep h.percent h.digit]

/-- A separator that is kept is written as itself, and nothing else is written with it. -/
theorem encodeChar_separator {d : Char} (hd : keep d = true) (hescape : Percent.inEscape d = false)
    (c : Char) : ((c == d) = true → Percent.encodeChar keep c = [c]) ∧
      ((c == d) = false → ∀ e ∈ Percent.encodeChar keep c, (e == d) = false) := by
  constructor
  · intro hc
    rw [beq_iff_eq.mp hc, Percent.encodeChar, if_pos hd]
  · intro hc e he
    rw [Percent.encodeChar] at he
    split at he
    next =>
      rw [List.mem_singleton.mp he]
      exact hc
    next =>
      obtain ⟨b, -, he⟩ := List.mem_flatMap.mp he
      rw [beq_eq_false_iff_ne]
      rintro rfl
      rw [Percent.inEscape_of_mem_escapeByte he] at hescape
      cases hescape

theorem decodePart_encode (h : KeepsPairs keep) (part : List Char) :
    decodePart (Percent.encode keep part) = decodePart part := by
  have hseparator := encodeChar_separator h.equals rfl
  rw [decodePart, Percent.encode, breakAt_flatMap (fun c => (hseparator c).1)
    fun c => (hseparator c).2]
  have hdrop : ((breakAt (· == '=') part).2.flatMap (Percent.encodeChar keep)).drop 1 =
      Percent.encode keep ((breakAt (· == '=') part).2.drop 1) := by
    cases hrest : (breakAt (· == '=') part).2 with
    | nil => rfl
    | cons c rest =>
      have hc := of_breakAt_eq_cons hrest
      rw [List.flatMap_cons, (hseparator c).1 hc]
      rfl
  rw [hdrop, formBytes_encode h]
  exact congrArg (·, _) (formBytes_encode h _)

/-- **Escapes change no pair** of a query. -/
theorem decodePairs_encode (h : KeepsPairs keep) (query : List Char) :
    decodePairs (Percent.encode keep query) = decodePairs query := by
  have hseparator := encodeChar_separator h.ampersand rfl
  rw [decodePairs_eq, decodePairs_eq, Percent.encode, splitAt_flatMap (fun c => (hseparator c).1)
    fun c => (hseparator c).2, List.filter_map, List.map_map]
  have hfilter : (splitAt (· == '&') query).filter ((fun part => decide (part ≠ [])) ∘
      fun part => part.flatMap (Percent.encodeChar keep)) =
        (splitAt (· == '&') query).filter (· ≠ []) :=
    List.filter_congr fun part _ => decide_eq_decide.mpr Percent.encode_eq_nil.not
  rw [hfilter]
  exact List.map_congr_left fun part _ => decodePart_encode h part

end RestLoom.Url
