import Mathlib.Data.Bool.AllAny
import RestLoom.Token.Lexer
import RestLoom.Proofs.Text.Recut

/-!
# Proofs/Token/Local — readers that see one word

    reads (ink ++ gap)  =  reads ink, then gap

Names, numbers, operator characters and escapes stand within a line and hold no blank, so their
readers see nothing from the next blank on: what follows a word can be changed freely.  Such a
reader is *local*.
-/

namespace RestLoom.Token

open RestLoom.Text

/-! ## Blanks -/

/-- The blanks. -/
def blanks : List Char :=
  ['\t', '\n', '\x0b', '\x0c', '\r', ' ', '\x85', '\xa0', '\u1680', '\u2000', '\u2001', '\u2002',
    '\u2003', '\u2004', '\u2005', '\u2006', '\u2007', '\u2008', '\u2009', '\u200a', '\u2028',
    '\u2029', '\u202f', '\u205f', '\u3000']

/-- What holds of each blank. -/
theorem forall_blank {P : Char → Prop} [DecidablePred P]
    (h : (blanks.all fun c => P c) = true) {c : Char} (hc : isBlank c = true) : P c := by
  have hmem : ∀ n ∈ blanks.map Char.toNat, P (Char.ofNat n) := by
    intro n hn
    obtain ⟨d, hd, rfl⟩ := List.mem_map.mp hn
    rw [Char.ofNat_toNat]
    exact List.all_iff_forall_prop.mp h d hd
  rw [← Char.ofNat_toNat c]
  refine hmem c.toNat ?_
  simp only [isBlank, Bool.or_eq_true, Bool.and_eq_true, decide_eq_true_iff, beq_iff_eq] at hc
  have hlist : blanks.map Char.toNat =
      [0x9, 0xa, 0xb, 0xc, 0xd, 0x20, 0x85, 0xa0, 0x1680, 0x2000, 0x2001, 0x2002, 0x2003, 0x2004,
        0x2005, 0x2006, 0x2007, 0x2008, 0x2009, 0x200a, 0x2028, 0x2029, 0x202f, 0x205f, 0x3000] :=
    rfl
  rw [hlist]
  simp only [List.mem_cons, List.not_mem_nil, or_false]
  omega

theorem not_isNameRest_of_isBlank {c : Char} (h : isBlank c = true) : isNameRest c = false :=
  forall_blank (P := fun c => isNameRest c = false) (by decide +kernel) h

theorem not_isNameStart_of_isBlank {c : Char} (h : isBlank c = true) : isNameStart c = false :=
  forall_blank (P := fun c => isNameStart c = false) (by decide +kernel) h

theorem hexDigit?_of_isBlank {c : Char} (h : isBlank c = true) : hexDigit? c = none :=
  forall_blank (P := fun c => hexDigit? c = none) (by decide) h

theorem not_isDigitPart_of_isBlank {c : Char} (h : isBlank c = true) : isDigitPart c = false :=
  forall_blank (P := fun c => isDigitPart c = false) (by decide) h

theorem not_isPunct_of_isBlank {c : Char} (h : isBlank c = true) : punctChars.contains c = false :=
  forall_blank (P := fun c => punctChars.contains c = false) (by decide +kernel) h

/-! ## Local readers -/

variable {α β : Type} {w b cs r start : List Char} {c : Char} {p : Char → Bool}

/-- A reader of an extent that sees no more than the ink in front. -/
structure Local (f : List Char → Option (List Char)) : Prop where
  append : ∀ {w b}, Ink w → Gap b → f (w ++ b) = (f w).map (· ++ b)
  suffix : ∀ {cs r}, f cs = some r → r <:+ cs

/-- A reader of a value that sees no more than the ink in front. -/
structure LocalTo (f : List Char → Option (α × List Char)) : Prop where
  append : ∀ {w b}, Ink w → Gap b → f (w ++ b) = (f w).map fun v => (v.1, v.2 ++ b)
  suffix : ∀ {cs v r}, f cs = some (v, r) → r <:+ cs

theorem takeWhile_append_gap (hp : ∀ {c}, isBlank c = true → p c = false) (hb : Gap b) :
    (w ++ b).takeWhile p = w.takeWhile p := by
  induction w with
  | nil =>
    obtain rfl | ⟨c, b, rfl, hc⟩ := hb.eq_nil_or
    · rfl
    · rw [List.nil_append, List.takeWhile_cons_of_neg (by rw [hp hc]; exact Bool.false_ne_true),
        List.takeWhile_nil]
  | cons c w ih => rw [List.cons_append, List.takeWhile_cons, List.takeWhile_cons, ih]

theorem dropWhile_append_gap (hp : ∀ {c}, isBlank c = true → p c = false) (hb : Gap b) :
    (w ++ b).dropWhile p = w.dropWhile p ++ b := by
  induction w with
  | nil =>
    obtain rfl | ⟨c, b, rfl, hc⟩ := hb.eq_nil_or
    · rfl
    · rw [List.nil_append, List.dropWhile_cons_of_neg (by rw [hp hc]; exact Bool.false_ne_true),
        List.dropWhile_nil, List.nil_append]
  | cons c w ih =>
    rw [List.cons_append, List.dropWhile_cons, List.dropWhile_cons, ih]
    split <;> rfl

/-- What stands first in a word stands first in the text. -/
theorem any_head_append_gap (hp : ∀ {c}, isBlank c = true → p c = false) (hb : Gap b) :
    (w ++ b).head?.any p = w.head?.any p := by
  cases w with
  | nil =>
    obtain rfl | ⟨c, b, rfl, hc⟩ := hb.eq_nil_or
    · rfl
    · exact hp hc
  | cons c w => rfl

theorem head?_append_gap (hc : isBlank c = false) (hb : Gap b) :
    (w ++ b).head? = some c ↔ w.head? = some c := by
  cases w with
  | nil =>
    obtain rfl | ⟨d, b, rfl, hd⟩ := hb.eq_nil_or
    · rfl
    · have hne : ¬d = c := fun h => by simp [h, hc] at hd
      simp [hne]
  | cons d w => rfl

theorem startsWith_append_gap (hs : Ink start) (hb : Gap b) :
    startsWith (w ++ b) start = startsWith w start := by
  induction start generalizing w with
  | nil => simp [startsWith]
  | cons c start ih =>
    rw [ink_cons] at hs
    cases w with
    | nil =>
      obtain rfl | ⟨d, b, rfl, hd⟩ := hb.eq_nil_or
      · rfl
      · have hne : (c == d) = false := beq_eq_false_iff_ne.mpr fun h => by simp [h, hd] at hs
        rw [List.nil_append, startsWith, List.isPrefixOf_cons_cons, hne, Bool.false_and]
        rfl
    | cons d w =>
      have ih := ih hs.2 (w := w)
      rw [startsWith, startsWith] at ih ⊢
      rw [List.cons_append, List.isPrefixOf_cons_cons, List.isPrefixOf_cons_cons, ih]

theorem dropStart?_append_gap (hs : Ink start) (hb : Gap b) :
    dropStart? start (w ++ b) = (dropStart? start w).map (· ++ b) := by
  induction start generalizing w with
  | nil => rw [dropStart?, dropStart?, Option.map_some]
  | cons c start ih =>
    rw [ink_cons] at hs
    cases w with
    | nil =>
      obtain rfl | ⟨d, b, rfl, hd⟩ := hb.eq_nil_or
      · rfl
      · have hne : ¬c = d := fun h => by simp [h, hd] at hs
        simp only [List.nil_append, dropStart?, if_neg hne, Option.map_none]
    | cons d w =>
      rw [List.cons_append, dropStart?, dropStart?, ih hs.2]
      split <;> rfl

theorem suffix_of_dropStart? (h : dropStart? start cs = some r) : r <:+ cs := by
  induction start generalizing cs with
  | nil =>
    rw [dropStart?, Option.some.injEq] at h
    exact h ▸ List.suffix_refl cs
  | cons c start ih =>
    cases cs with
    | nil => cases h
    | cons d cs =>
      rw [dropStart?] at h
      split at h
      · exact (ih h).trans (List.suffix_cons d cs)
      · cases h

/-! ## Names -/

theorem localTo_bareName? : LocalTo bareName? where
  append := by
    intro w b _ hb
    cases w with
    | nil =>
      obtain rfl | ⟨c, b, rfl, hc⟩ := hb.eq_nil_or
      · rfl
      · simp only [List.nil_append, bareName?, not_isNameStart_of_isBlank hc, Bool.false_eq_true,
          if_false, Option.map_none]
    | cons c w =>
      rw [List.cons_append, bareName?, bareName?, takeWhile_append_gap not_isNameRest_of_isBlank hb,
        dropWhile_append_gap not_isNameRest_of_isBlank hb]
      split <;> rfl
  suffix := by
    intro cs v r h
    cases cs with
    | nil => cases h
    | cons c cs =>
      rw [bareName?] at h
      split at h
      · rw [Option.some.injEq, Prod.mk.injEq] at h
        rw [← h.2]
        exact (List.dropWhile_suffix _).trans (List.suffix_cons c cs)
      · cases h

theorem localTo_name? : LocalTo name? where
  append := by
    intro w b hw hb
    have hstart : Ink ['r', '#'] := by decide
    rw [name?, name?, dropStart?_append_gap hstart hb]
    cases hdrop : dropStart? ['r', '#'] w with
    | none =>
      rw [Option.map_none]
      dsimp only
      rw [localTo_bareName?.append hw hb]
      cases bareName? w <;> rfl
    | some cs =>
      rw [Option.map_some]
      dsimp only
      rw [localTo_bareName?.append (hw.of_suffix (suffix_of_dropStart? hdrop)) hb]
      cases bareName? cs with
      | none => rfl
      | some v =>
        simp only [Option.map_some, Option.bind_eq_bind, Option.bind_some]
        split <;> rfl
  suffix := by
    intro cs v r h
    rw [name?] at h
    split at h
    next cs' hdrop =>
      obtain ⟨⟨v', r'⟩, hname, h⟩ := Option.bind_eq_some_iff.mp h
      dsimp only at h
      split at h
      · cases h
      · rw [Option.some.injEq, Prod.mk.injEq] at h
        rw [← h.2]
        exact (localTo_bareName?.suffix hname).trans (suffix_of_dropStart? hdrop)
    next =>
      obtain ⟨⟨v', r'⟩, hname, h⟩ := Option.bind_eq_some_iff.mp h
      rw [Option.pure_def, Option.some.injEq, Prod.mk.injEq] at h
      rw [← h.2]
      exact localTo_bareName?.suffix hname

/-- Openers of literals are ink. -/
theorem ink_literalOpeners : ∀ o ∈ literalOpeners, Ink o.toList := by decide

theorem any_literalOpeners_append_gap (hb : Gap b) :
    (literalOpeners.any fun o => startsWith (w ++ b) o.toList) =
      literalOpeners.any fun o => startsWith w o.toList := by
  rw [Bool.eq_iff_iff, List.any_eq_true, List.any_eq_true]
  exact exists_congr fun o => and_congr_right fun ho => by
    rw [startsWith_append_gap (ink_literalOpeners o ho) hb]

theorem localTo_ident? : LocalTo ident? where
  append := by
    intro w b hw hb
    rw [ident?, ident?, any_literalOpeners_append_gap hb, localTo_name?.append hw hb]
    split <;> rfl
  suffix := by
    intro cs v r h
    rw [ident?] at h
    split at h
    · cases h
    · exact localTo_name?.suffix h

theorem dropSuffix_append_gap (hw : Ink w) (hb : Gap b) :
    dropSuffix (w ++ b) = dropSuffix w ++ b := by
  rw [dropSuffix, dropSuffix, localTo_bareName?.append hw hb]
  cases bareName? w <;> rfl

theorem dropSuffix_suffix (cs : List Char) : dropSuffix cs <:+ cs := by
  rw [dropSuffix]
  split
  next hname => exact localTo_bareName?.suffix hname
  next => exact List.suffix_refl cs

/-! ## Escapes -/

theorem localTo_codePoint? (n count : Nat) : LocalTo (codePoint? n count) where
  append := by
    intro w b hw hb
    induction w generalizing n count with
    | nil =>
      obtain rfl | ⟨c, b, rfl, hc⟩ := hb.eq_nil_or
      · rfl
      · rw [List.nil_append, codePoint?, hexDigit?_of_isBlank hc]
        · rfl
        · rintro rfl
          exact absurd hc (by decide)
        · rintro rfl
          exact absurd hc (by decide)
    | cons c w ih =>
      have ih := fun n count => @ih n count (ink_cons.mp hw).2
      rw [List.cons_append]
      by_cases hbrace : c = '}'
      · subst hbrace
        rw [codePoint?, codePoint?]
        split <;> rfl
      · by_cases hline : c = '_'
        · subst hline
          rw [codePoint?, codePoint?, ih]
          split <;> rfl
        · rw [codePoint?, codePoint?]
          · cases hexDigit? c with
            | none => rfl
            | some d =>
              simp only [Option.bind_eq_bind, Option.bind_some, ih]
              split <;> rfl
          all_goals assumption
  suffix := by
    intro cs v r h
    induction cs generalizing n count with
    | nil => cases h
    | cons c cs ih =>
      rw [codePoint?.eq_def] at h
      split at h
      next heq =>
        obtain ⟨rfl, rfl⟩ := List.cons.inj heq
        split at h
        · rw [Option.some.injEq, Prod.mk.injEq] at h
          exact h.2 ▸ List.suffix_cons _ _
        · cases h
      next heq =>
        obtain ⟨rfl, rfl⟩ := List.cons.inj heq
        split at h
        · exact (ih _ _ h).trans (List.suffix_cons _ _)
        · cases h
      next heq =>
        obtain ⟨rfl, rfl⟩ := List.cons.inj heq
        obtain ⟨d, hd, h⟩ := Option.bind_eq_some_iff.mp h
        split at h
        · cases h
        · exact (ih _ _ h).trans (List.suffix_cons _ _)
      next heq => cases heq

variable {a : Alphabet}

theorem afterEscape_blank (hc : isBlank c = true) : afterEscape a (c :: cs) = none := by
  refine forall_blank (P := fun c => afterEscape a (c :: cs) = none) ?_ hc
  simp [blanks, afterEscape]

/-- An escape of one letter. -/
theorem afterEscape_letter (hx : c ≠ 'x') (hu : c ≠ 'u') :
    (∀ cs, afterEscape a (c :: cs) = some cs) ∨ ∀ cs, afterEscape a (c :: cs) = none := by
  by_cases hplain : c ∈ ['n', 'r', 't', '\\', '\x27', '\x22']
  · simp only [List.mem_cons, List.not_mem_nil, or_false] at hplain
    obtain rfl | rfl | rfl | rfl | rfl | rfl := hplain
    all_goals exact .inl fun cs => rfl
  · simp only [List.mem_cons, List.not_mem_nil, or_false, not_or] at hplain
    by_cases hnull : c = '0'
    · subst hnull
      by_cases ha : a = .terminated
      · exact .inr fun cs => if_pos ha
      · exact .inl fun cs => if_neg ha
    · refine .inr fun cs => ?_
      rw [afterEscape.eq_def]
      split
      all_goals simp_all

theorem afterEscape_code (h : cs.head? ≠ some '{') : afterEscape a ('u' :: cs) = none := by
  cases cs with
  | nil => rfl
  | cons d cs =>
    rw [afterEscape.eq_def]
    split
    all_goals simp_all

/-- The two digits of an escape are ink. -/
theorem afterEscape_hex_append_gap (hb : Gap b) :
    afterEscape a ('x' :: (w ++ b)) = (afterEscape a ('x' :: w)).map (· ++ b) := by
  match w with
  | [] =>
    obtain rfl | ⟨c, b, rfl, hc⟩ := hb.eq_nil_or
    · rfl
    · cases b with
      | nil => rfl
      | cons d b =>
        rw [List.nil_append, afterEscape, hexDigit?_of_isBlank hc]
        rfl
  | [h] =>
    obtain rfl | ⟨c, b, rfl, hc⟩ := hb.eq_nil_or
    · rfl
    · rw [List.singleton_append, afterEscape, hexDigit?_of_isBlank hc]
      cases hexDigit? h <;> rfl
  | h :: l :: w =>
    rw [List.cons_append, List.cons_append, afterEscape, afterEscape]
    cases hexDigit? h with
    | none => rfl
    | some h =>
      cases hexDigit? l with
      | none => rfl
      | some l =>
        simp only [Option.bind_eq_bind, Option.bind_some]
        split
        · rfl
        · split <;> rfl

theorem local_afterEscape : Local (afterEscape a) where
  append := by
    intro w b hw hb
    cases w with
    | nil =>
      obtain rfl | ⟨c, b, rfl, hc⟩ := hb.eq_nil_or
      · rfl
      · rw [List.nil_append, afterEscape_blank hc]
        rfl
    | cons c w =>
      rw [List.cons_append]
      by_cases hx : c = 'x'
      · subst hx
        exact afterEscape_hex_append_gap hb
      · by_cases hu : c = 'u'
        · subst hu
          by_cases hbrace : w.head? = some '{'
          · obtain ⟨w, rfl⟩ := List.head?_eq_some_iff.mp hbrace
            have hw := (ink_cons.mp (ink_cons.mp hw).2).2
            rw [List.cons_append, afterEscape, afterEscape,
              (localTo_codePoint? 0 0).append hw hb]
            cases codePoint? 0 0 w with
            | none => split <;> rfl
            | some v =>
              rw [Option.map_some]
              dsimp only
              split
              · rfl
              · split <;> rfl
          · have hhead : (w ++ b).head? ≠ some '{' :=
              fun h => hbrace ((head?_append_gap (by decide) hb).mp h)
            rw [afterEscape_code hhead, afterEscape_code hbrace, Option.map_none]
        · obtain h | h := afterEscape_letter hx hu (a := a)
          · rw [h, h, Option.map_some]
          · rw [h, h, Option.map_none]
  suffix := by
    intro cs r h
    rw [afterEscape.eq_def] at h
    split at h
    next =>
      obtain ⟨_, _, h⟩ := Option.bind_eq_some_iff.mp h
      obtain ⟨_, _, h⟩ := Option.bind_eq_some_iff.mp h
      split at h
      · cases h
      · split at h
        · cases h
        · rw [← Option.some.inj h]
          exact List.suffix_append ['x', _, _] _
    next =>
      split at h
      · cases h
      · split at h
        next hcode =>
          split at h
          · cases h
          · rw [← Option.some.inj h]
            exact ((localTo_codePoint? 0 0).suffix hcode).trans (List.suffix_append ['u', '{'] _)
        next => cases h
    iterate 6 next => exact Option.some.inj h ▸ List.suffix_cons _ _
    next =>
      split at h
      · cases h
      · exact Option.some.inj h ▸ List.suffix_cons _ _
    next => cases h

/-! ## Numbers -/

theorem local_afterNumber : Local afterNumber where
  append := by
    intro w b hw hb
    rw [afterNumber, afterNumber, dropSuffix_append_gap hw hb,
      any_head_append_gap not_isNameRest_of_isBlank hb]
    split <;> rfl
  suffix := by
    intro cs r h
    rw [afterNumber] at h
    split at h
    · cases h
    · exact Option.some.inj h ▸ dropSuffix_suffix cs

theorem local_afterExponent (signed valued : Bool) : Local (afterExponent signed valued) where
  append := by
    intro w b hw hb
    induction w generalizing signed valued with
    | nil =>
      obtain rfl | ⟨c, b, rfl, hc⟩ := hb.eq_nil_or
      · rw [List.append_nil]
        cases afterExponent signed valued [] with
        | none => rfl
        | some r => rw [Option.map_some, List.append_nil]
      · have hsign : ¬(c = '+' ∨ c = '-') := by
          rintro (rfl | rfl) <;> exact absurd hc (by decide)
        have hpart := not_isDigitPart_of_isBlank hc
        rw [isDigitPart, Bool.or_eq_false_iff, beq_eq_false_iff_ne] at hpart
        rw [List.nil_append, afterExponent, if_neg hsign, hpart.1, if_neg Bool.false_ne_true,
          if_neg hpart.2, afterExponent]
        split <;> rfl
    | cons c w ih =>
      have ih := fun signed valued => @ih signed valued (ink_cons.mp hw).2
      rw [List.cons_append, afterExponent, afterExponent, ih, ih, ih]
      split_ifs <;> rfl
  suffix := by
    intro cs r h
    induction cs generalizing signed valued with
    | nil =>
      rw [afterExponent] at h
      split at h
      · exact Option.some.inj h ▸ List.suffix_refl []
      · cases h
    | cons c cs ih =>
      rw [afterExponent] at h
      split_ifs at h
      · exact Option.some.inj h ▸ List.suffix_refl _
      · exact (ih _ _ h).trans (List.suffix_cons c cs)
      · exact (ih _ _ h).trans (List.suffix_cons c cs)
      · exact (ih _ _ h).trans (List.suffix_cons c cs)
      · exact Option.some.inj h ▸ List.suffix_refl _

theorem local_afterDigits (base : Nat) (filled : Bool) : Local (afterDigits base filled) where
  append := by
    intro w b hw hb
    induction w generalizing filled with
    | nil =>
      obtain rfl | ⟨c, b, rfl, hc⟩ := hb.eq_nil_or
      · rw [List.append_nil]
        cases afterDigits base filled [] with
        | none => rfl
        | some r => rw [Option.map_some, List.append_nil]
      · have hline : ¬c = '_' := by
          rintro rfl
          exact absurd hc (by decide)
        rw [List.nil_append, afterDigits, if_neg hline, hexDigit?_of_isBlank hc, afterDigits]
        cases filled <;> rfl
    | cons c w ih =>
      have ih := fun filled => @ih filled (ink_cons.mp hw).2
      rw [List.cons_append, afterDigits, afterDigits, ih]
      split
      · split <;> rfl
      · cases hexDigit? c with
        | none =>
          dsimp only
          split <;> rfl
        | some d =>
          dsimp only
          rw [ih]
          split_ifs <;> rfl
  suffix := by
    intro cs r h
    induction cs generalizing filled with
    | nil =>
      rw [afterDigits] at h
      split at h
      · exact Option.some.inj h ▸ List.suffix_refl []
      · cases h
    | cons c cs ih =>
      rw [afterDigits] at h
      split at h
      · split at h
        · cases h
        · exact (ih _ h).trans (List.suffix_cons c cs)
      · split at h
        · split_ifs at h
          · exact (ih _ h).trans (List.suffix_cons c cs)
          · exact Option.some.inj h ▸ List.suffix_refl _
        · split at h
          · exact Option.some.inj h ▸ List.suffix_refl _
          · cases h

/-- A local reader after another one. -/
theorem Local.bind {f g : List Char → Option (List Char)} (hf : Local f) (hg : Local g) :
    Local fun cs => (f cs).bind g where
  append := by
    intro w b hw hb
    rw [hf.append hw hb]
    cases h : f w with
    | none => rfl
    | some r => exact hg.append (hw.of_suffix (hf.suffix h)) hb
  suffix := by
    intro cs r h
    obtain ⟨r', hr', h⟩ := Option.bind_eq_some_iff.mp h
    exact (hg.suffix h).trans (hf.suffix hr')

/-- The sign that gives a whole number its base. -/
def baseMark? : List Char → Option (Nat × List Char)
  | '0' :: 'x' :: cs => some (16, cs)
  | '0' :: 'o' :: cs => some (8, cs)
  | '0' :: 'b' :: cs => some (2, cs)
  | _ => none

theorem baseMark?_cons_cons (c d : Char) (cs : List Char) : baseMark? (c :: d :: cs) =
    if c = '0' then
      if d = 'x' then some (16, cs) else if d = 'o' then some (8, cs)
      else if d = 'b' then some (2, cs) else none
    else none := by
  rw [baseMark?.eq_def]
  split
  all_goals simp_all

theorem baseMark?_singleton (c : Char) : baseMark? [c] = none := by
  rw [baseMark?.eq_def]
  split
  all_goals simp_all

theorem localTo_baseMark? : LocalTo baseMark? where
  append := by
    intro w b _ hb
    match w with
    | [] =>
      obtain rfl | ⟨c, b, rfl, hc⟩ := hb.eq_nil_or
      · rfl
      · have hzero : ¬c = '0' := by
          rintro rfl
          exact absurd hc (by decide)
        cases b with
        | nil => exact baseMark?_singleton c
        | cons d b =>
          rw [List.nil_append, baseMark?_cons_cons, if_neg hzero]
          rfl
    | [c] =>
      rw [baseMark?_singleton, Option.map_none]
      obtain rfl | ⟨d, b, rfl, hd⟩ := hb.eq_nil_or
      · exact baseMark?_singleton c
      · have hne : ∀ e ∈ ['x', 'o', 'b'], ¬d = e := by
          rintro e he rfl
          simp only [List.mem_cons, List.not_mem_nil, or_false] at he
          obtain rfl | rfl | rfl := he <;> exact absurd hd (by decide)
        rw [List.singleton_append, baseMark?_cons_cons, if_neg (hne 'x' (by decide)),
          if_neg (hne 'o' (by decide)), if_neg (hne 'b' (by decide)), ite_self]
    | c :: d :: w =>
      rw [List.cons_append, List.cons_append, baseMark?_cons_cons, baseMark?_cons_cons]
      split_ifs <;> rfl
  suffix := by
    intro cs v r h
    rw [baseMark?.eq_def] at h
    split at h
    iterate 3 next => exact (Prod.mk.inj (Option.some.inj h)).2 ▸ List.suffix_append ['0', _] _
    next => cases h

/-- What follows the digits of a whole number in any base. -/
def afterWhole? (cs : List Char) : Option (List Char) :=
  match baseMark? cs with
  | some (base, cs) => afterDigits base false cs
  | none => afterDigits 10 false cs

theorem afterInt?_eq : afterInt? = fun cs => (afterWhole? cs).bind afterNumber := by
  funext cs
  rw [afterInt?.eq_def, afterWhole?, baseMark?.eq_def]
  split
  · rfl
  · rfl
  · rfl
  · grind

theorem local_afterWhole? : Local afterWhole? where
  append := by
    intro w b hw hb
    rw [afterWhole?, afterWhole?, localTo_baseMark?.append hw hb]
    cases h : baseMark? w with
    | none => exact (local_afterDigits 10 false).append hw hb
    | some v =>
      exact (local_afterDigits v.1 false).append (hw.of_suffix (localTo_baseMark?.suffix h)) hb
  suffix := by
    intro cs r h
    rw [afterWhole?] at h
    split at h
    next hmark => exact ((local_afterDigits _ false).suffix h).trans (localTo_baseMark?.suffix hmark)
    next => exact (local_afterDigits 10 false).suffix h

theorem local_afterInt? : Local afterInt? := by
  rw [afterInt?_eq]
  exact local_afterWhole?.bind local_afterNumber

/-- What follows the end of a fraction, which may have an exponent. -/
def afterFraction? : List Char → Option (List Char)
  | e :: cs =>
    if e = 'e' ∨ e = 'E' then
      match afterExponent false false cs with
      | some rest => afterNumber rest
      | none => afterNumber (e :: cs)
    else afterNumber (e :: cs)
  | [] => some []

/-- What follows the digits of a number that has a point or an exponent. -/
def afterDecimals? : List Char → Option (List Char)
  | c :: cs =>
    if c = '.' then
      if cs.head?.any fun c => c == '.' || isNameStart c then none
      else afterFraction? (cs.dropWhile isDigitPart)
    else if c = 'e' ∨ c = 'E' then (afterExponent false false cs).bind afterNumber
    else none
  | [] => none

theorem afterFloat?_eq (cs : List Char) : afterFloat? cs =
    if !cs.head?.any (·.isDigit) then none else afterDecimals? (cs.dropWhile isDigitPart) := by
  rw [afterFloat?]
  split
  · rfl
  · cases cs.dropWhile isDigitPart with
    | nil => rfl
    | cons c cs =>
      rw [afterDecimals?]
      dsimp only
      split
      next heq =>
        obtain ⟨rfl, rfl⟩ := List.cons.inj heq
        rw [if_pos rfl]
        refine if_congr Iff.rfl rfl ?_
        cases List.dropWhile isDigitPart cs <;> rfl
      next hpoint heq =>
        obtain ⟨rfl, rfl⟩ := List.cons.inj heq
        rw [if_neg hpoint]
        rfl
      next heq => cases heq

theorem local_afterFraction? : Local afterFraction? where
  append := by
    intro w b hw hb
    cases w with
    | nil =>
      obtain rfl | ⟨c, b, rfl, hc⟩ := hb.eq_nil_or
      · rfl
      · have hmark : ¬(c = 'e' ∨ c = 'E') := by
          rintro (rfl | rfl) <;> exact absurd hc (by decide)
        rw [List.nil_append, afterFraction?, if_neg hmark]
        exact local_afterNumber.append Ink.nil hb
    | cons e w =>
      rw [List.cons_append, afterFraction?, afterFraction?, ← List.cons_append,
        local_afterNumber.append hw hb, (local_afterExponent false false).append (ink_cons.mp hw).2 hb]
      cases h : afterExponent false false w with
      | none =>
        dsimp only [Option.map_none]
        split <;> rfl
      | some r =>
        have hr := (ink_cons.mp hw).2.of_suffix ((local_afterExponent false false).suffix h)
        dsimp only [Option.map_some]
        rw [local_afterNumber.append hr hb]
        split <;> rfl
  suffix := by
    intro cs r h
    cases cs with
    | nil => exact Option.some.inj h ▸ List.suffix_refl []
    | cons e cs =>
      rw [afterFraction?] at h
      split at h
      · split at h
        next hexp =>
          exact (local_afterNumber.suffix h).trans
            (((local_afterExponent false false).suffix hexp).trans (List.suffix_cons e cs))
        next => exact local_afterNumber.suffix h
      · exact local_afterNumber.suffix h

theorem local_afterDecimals? : Local afterDecimals? where
  append := by
    intro w b hw hb
    cases w with
    | nil =>
      obtain rfl | ⟨c, b, rfl, hc⟩ := hb.eq_nil_or
      · rfl
      · have hpoint : ¬c = '.' := by
          rintro rfl
          exact absurd hc (by decide)
        have hmark : ¬(c = 'e' ∨ c = 'E') := by
          rintro (rfl | rfl) <;> exact absurd hc (by decide)
        rw [List.nil_append, afterDecimals?, if_neg hpoint, if_neg hmark]
        rfl
    | cons c w =>
      have hw := (ink_cons.mp hw).2
      have hhead : ((w ++ b).head?.any fun c => c == '.' || isNameStart c) =
          w.head?.any fun c => c == '.' || isNameStart c :=
        any_head_append_gap (fun {d} hd => by
          have hpoint : (d == '.') = false := beq_eq_false_iff_ne.mpr <| by
            rintro rfl
            exact absurd hd (by decide)
          rw [hpoint, not_isNameStart_of_isBlank hd, Bool.false_or]) hb
      have hrest := hw.of_suffix (List.dropWhile_suffix isDigitPart)
      rw [List.cons_append, afterDecimals?, afterDecimals?, hhead,
        dropWhile_append_gap not_isDigitPart_of_isBlank hb, local_afterFraction?.append hrest hb,
        ((local_afterExponent false false).bind local_afterNumber).append hw hb]
      split_ifs <;> rfl
  suffix := by
    intro cs r h
    cases cs with
    | nil => cases h
    | cons c cs =>
      rw [afterDecimals?] at h
      split_ifs at h
      · exact (local_afterFraction?.suffix h).trans
          ((List.dropWhile_suffix _).trans (List.suffix_cons c cs))
      · exact (((local_afterExponent false false).bind local_afterNumber).suffix h).trans
          (List.suffix_cons c cs)

theorem local_afterFloat? : Local afterFloat? where
  append := by
    intro w b hw hb
    have hdigit : ∀ {c}, isBlank c = true → c.isDigit = false := fun hc => by
      have hpart := not_isDigitPart_of_isBlank hc
      rw [isDigitPart, Bool.or_eq_false_iff] at hpart
      exact hpart.1
    rw [afterFloat?_eq, afterFloat?_eq, any_head_append_gap hdigit hb,
      dropWhile_append_gap not_isDigitPart_of_isBlank hb,
      local_afterDecimals?.append (hw.of_suffix (List.dropWhile_suffix isDigitPart)) hb]
    split <;> rfl
  suffix := by
    intro cs r h
    rw [afterFloat?_eq] at h
    split at h
    · cases h
    · exact (local_afterDecimals?.suffix h).trans (List.dropWhile_suffix _)

/-! ## Operator characters -/

theorem punctChar?_cons (c : Char) (cs : List Char) : punctChar? (c :: cs) =
    if c = '/' ∧ (cs.head? = some '/' ∨ cs.head? = some '*') then none
    else if punctChars.contains c then some (c, cs) else none := by
  by_cases h : c = '/' ∧ (cs.head? = some '/' ∨ cs.head? = some '*')
  · rw [if_pos h]
    obtain ⟨rfl, h | h⟩ := h
    · obtain ⟨cs, rfl⟩ := List.head?_eq_some_iff.mp h
      rfl
    · obtain ⟨cs, rfl⟩ := List.head?_eq_some_iff.mp h
      rfl
  · rw [if_neg h, punctChar?]
    · rintro cs' rfl rfl
      exact h ⟨rfl, .inl rfl⟩
    · rintro cs' rfl rfl
      exact h ⟨rfl, .inr rfl⟩

theorem localTo_punctChar? : LocalTo punctChar? where
  append := by
    intro w b _ hb
    cases w with
    | nil =>
      obtain rfl | ⟨c, b, rfl, hc⟩ := hb.eq_nil_or
      · rfl
      · have hslash : ¬c = '/' := by
          rintro rfl
          exact absurd hc (by decide)
        rw [List.nil_append, punctChar?_cons, if_neg fun h => hslash h.1, not_isPunct_of_isBlank hc]
        rfl
    | cons c w =>
      simp only [List.cons_append, punctChar?_cons,
        head?_append_gap (show isBlank '/' = false by decide) hb,
        head?_append_gap (show isBlank '*' = false by decide) hb]
      split_ifs <;> rfl
  suffix := by
    intro cs v r h
    cases cs with
    | nil => cases h
    | cons c cs =>
      rw [punctChar?_cons] at h
      split_ifs at h
      rw [← (Prod.mk.inj (Option.some.inj h)).2]
      exact List.suffix_cons c cs

theorem localTo_punct? : LocalTo punct? where
  append := by
    intro w b hw hb
    rw [punct?, punct?, localTo_punctChar?.append hw hb]
    cases h : punctChar? w with
    | none => rfl
    | some v =>
      obtain ⟨c, r⟩ := v
      have hr := hw.of_suffix (localTo_punctChar?.suffix h)
      have hraw : Ink ['r', '#'] := by simp [Ink]; decide
      simp only [Option.map_some, Option.bind_eq_bind, Option.bind_some,
        localTo_name?.append hr hb, localTo_punctChar?.append hr hb, Option.isSome_map,
        startsWith_append_gap hraw hb]
      split
      · cases hname : name? r with
        | none => rfl
        | some v =>
          obtain ⟨i, after⟩ := v
          simp only [Option.map_some, Option.bind_some,
            head?_append_gap (show isBlank '\x27' = false by decide) hb,
            head?_append_gap (show isBlank '#' = false by decide) hb]
          split <;> rfl
      · rfl
  suffix := by
    intro cs v r h
    obtain ⟨⟨c, rest⟩, hpunct, h⟩ := Option.bind_eq_some_iff.mp h
    have hsuffix := localTo_punctChar?.suffix hpunct
    dsimp only at h
    split at h
    · obtain ⟨⟨i, after⟩, hname, h⟩ := Option.bind_eq_some_iff.mp h
      dsimp only at h
      split at h
      · cases h
      · exact (Prod.mk.inj (Option.some.inj h)).2 ▸ hsuffix
    · exact (Prod.mk.inj (Option.some.inj h)).2 ▸ hsuffix

/-! ## On lines that are written again -/

variable {z : List Char} {f : List Char → Option (List Char)}

/-- A local reader reads the same word on lines that are written again. -/
theorem Local.relined (hf : Local f) (cs : List Char) :
    f (relined z none cs) = (f cs).map (relined z none) := by
  obtain ⟨w, b, hw, hb, rfl⟩ := exists_ink_append cs
  rw [relined_none_append hw, hf.append hw hb.relined, hf.append hw hb]
  cases h : f w with
  | none => rfl
  | some r =>
    rw [Option.map_some, Option.map_some, Option.map_some,
      relined_none_append (hw.of_suffix (hf.suffix h))]

theorem LocalTo.relined {g : List Char → Option (α × List Char)} (hg : LocalTo g)
    (cs : List Char) :
    g (relined z none cs) = (g cs).map fun v => (v.1, relined z none v.2) := by
  obtain ⟨w, b, hw, hb, rfl⟩ := exists_ink_append cs
  rw [relined_none_append hw, hg.append hw hb.relined, hg.append hw hb]
  cases h : g w with
  | none => rfl
  | some v =>
    rw [Option.map_some, Option.map_some, Option.map_some,
      relined_none_append (hw.of_suffix (hg.suffix h))]

theorem dropSuffix_relined (cs : List Char) :
    dropSuffix (relined z none cs) = relined z none (dropSuffix cs) := by
  rw [dropSuffix, dropSuffix, localTo_bareName?.relined]
  cases bareName? cs <;> rfl

theorem startsWith_relined (hs : Ink start) (cs : List Char) :
    startsWith (relined z none cs) start = startsWith cs start := by
  obtain ⟨w, b, hw, hb, rfl⟩ := exists_ink_append cs
  rw [relined_none_append hw, startsWith_append_gap hs hb.relined, startsWith_append_gap hs hb]

theorem head?_relined (hc : isBlank c = false) (cs : List Char) :
    (relined z none cs).head? = some c ↔ cs.head? = some c := by
  obtain ⟨w, b, hw, hb, rfl⟩ := exists_ink_append cs
  rw [relined_none_append hw, head?_append_gap hc hb.relined, head?_append_gap hc hb]

/-- What a local reader reads is ink. -/
theorem Local.exists_ink (hf : Local f) (h : f cs = some r) : ∃ u, Ink u ∧ cs = u ++ r := by
  obtain ⟨w, b, hw, hb, rfl⟩ := exists_ink_append cs
  rw [hf.append hw hb] at h
  obtain ⟨r', hr', rfl⟩ := Option.map_eq_some_iff.mp h
  obtain ⟨u, rfl⟩ := hf.suffix hr'
  exact ⟨u, (ink_append.mp hw).1, (List.append_assoc u r' b)⟩

theorem dropSuffix_ink (cs : List Char) : ∃ u, Ink u ∧ cs = u ++ dropSuffix cs := by
  obtain ⟨w, b, hw, hb, rfl⟩ := exists_ink_append cs
  rw [dropSuffix_append_gap hw hb]
  obtain ⟨u, hu⟩ := dropSuffix_suffix w
  refine ⟨u, fun c hc => hw c ?_, by rw [← List.append_assoc, hu]⟩
  rw [← hu]
  exact List.mem_append_left _ hc

/-- A literal with its suffix ends in ink. -/
theorem endsInk_dropSuffix (hc : isBlank c = false) (cs : List Char) :
    EndsInk (c :: cs) (dropSuffix cs) := by
  obtain ⟨u, hu, heq⟩ := dropSuffix_ink cs
  have hends := EndsInk.of_ink (ink_cons.mpr ⟨hc, hu⟩) (List.cons_ne_nil c u) (dropSuffix cs)
  rwa [List.cons_append, ← heq] at hends

end RestLoom.Token
