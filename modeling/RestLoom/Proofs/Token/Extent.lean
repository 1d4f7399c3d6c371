import RestLoom.Proofs.Text.Ascii
import RestLoom.Proofs.Token.Quoted

/-!
# Proofs/Token/Extent — where literals end

    r#"a␣␣⏎␣␣⏎b"# rest  ──▸  r#"a␣␣⏎⏎b"# rest

Literals of every kind end where they ended when the lines they stand on are written again
(`afterLiteral?_relined`), and they end in ink (`endsInk_of_afterLiteral?`); so each of them changes
like a text of its own.
-/

namespace RestLoom.Token

open RestLoom.Text

variable {z cs r held : List Char} {s : Option (List Char)} {a : Alphabet} {c : Char} {signs : Nat}

/-! ## Raw literals -/

theorem ink_signs (signs : Nat) : Ink (List.replicate signs '#') := by
  intro c hc
  rw [List.eq_of_mem_replicate hc]
  decide

theorem closesRaw_quote (cs : List Char) :
    closesRaw signs ('\x22' :: cs) = startsWith cs (List.replicate signs '#') := by
  rw [closesRaw, startsWith, startsWith, List.isPrefixOf_cons_cons, beq_self_eq_true, Bool.true_and]

theorem closesRaw_of_ne (h : c ≠ '\x22') (cs : List Char) : closesRaw signs (c :: cs) = false := by
  rw [closesRaw, startsWith, List.isPrefixOf_cons_cons, beq_eq_false_iff_ne.mpr h.symm,
    Bool.false_and]

/-- Lines that are written again close a raw literal where it was closed. -/
theorem closesRaw_relined (h : isBlank c = false) (cs : List Char) :
    closesRaw signs (relined z none (c :: cs)) = closesRaw signs (c :: cs) := by
  rw [relined_none_cons (.of_ink h)]
  by_cases hquote : c = '\x22'
  · subst hquote
    rw [closesRaw_quote, closesRaw_quote, startsWith_relined (ink_signs signs)]
  · rw [closesRaw_of_ne hquote, closesRaw_of_ne hquote]

/-- What closes a raw literal. -/
theorem exists_of_closesRaw (h : closesRaw signs (c :: cs) = true) :
    c = '\x22' ∧ ∃ cs', cs = List.replicate signs '#' ++ cs' := by
  by_cases hquote : c = '\x22'
  · subst hquote
    rw [closesRaw_quote, startsWith, List.isPrefixOf_iff_prefix] at h
    obtain ⟨cs', rfl⟩ := h
    exact ⟨rfl, cs', rfl⟩
  · rw [closesRaw_of_ne hquote] at h
    cases h

/-- The reader of a raw literal goes on after a character that does not close it. -/
theorem afterRawBody_cons (hopen : closesRaw signs (c :: cs) = false)
    (hreturn : c ≠ '\r' ∨ cs.head? = some '\n') (ha : Admits a c) :
    afterRawBody a signs (c :: cs) = afterRawBody a signs cs := by
  have hinside : ¬(c = '\r' ∧ cs.head? ≠ some '\n') :=
    fun h => hreturn.elim (fun hne => hne h.1) h.2
  rw [afterRawBody, hopen, if_neg Bool.false_ne_true, if_neg hinside, if_neg ha.1, if_neg ha.2]

theorem afterRawBody_blank (hc : isBlank c = true) (hreturn : c ≠ '\r' ∨ cs.head? = some '\n')
    (ha : Admits a c) : afterRawBody a signs (c :: cs) = afterRawBody a signs cs := by
  refine afterRawBody_cons (closesRaw_of_ne ?_ cs) hreturn ha
  rintro rfl
  exact absurd hc (by decide)

theorem afterRawBody_append_of_passes (h : Passes a held) :
    afterRawBody a signs (held ++ cs) = afterRawBody a signs cs := by
  induction held with
  | nil => rfl
  | cons c held ih =>
    obtain ⟨⟨hblank, hreturn, ha⟩, hheld⟩ := List.forall_mem_cons.mp h
    rw [List.cons_append, afterRawBody_blank hblank (.inl hreturn) ha, ih hheld]

theorem admits_of_afterRawBody (h : afterRawBody a signs (c :: cs) = some r)
    (hopen : closesRaw signs (c :: cs) = false) :
    (c ≠ '\r' ∨ cs.head? = some '\n') ∧ Admits a c ∧ afterRawBody a signs cs = some r := by
  rw [afterRawBody, hopen, if_neg Bool.false_ne_true] at h
  split_ifs at h with hreturn hbytes hnull
  rw [not_and_or, not_not] at hreturn
  exact ⟨hreturn, ⟨hbytes, hnull⟩, h⟩

/-- **A raw literal** ends where it did when its lines are written again. -/
theorem afterRawBody_relined (h : afterRawBody a signs cs = some r)
    (hs : ∀ held ∈ s, Passes a held) :
    afterRawBody a signs (relined z s cs) = some (relined z none r) := by
  have hfeed : Admits a '\n' := admits_of_lt (by decide) (by decide)
  induction cs using line_induction generalizing s with
  | nil => cases h
  | feed cs ih =>
    rw [afterRawBody_blank (by decide) (.inl (by decide)) hfeed] at h
    rw [relined_feed, afterRawBody_blank (by decide) (.inl (by decide)) hfeed]
    exact ih h fun held hheld => Option.some.inj hheld ▸ passes_nil
  | return_feed cs ih =>
    rw [afterRawBody_blank (by decide) (.inr rfl)
        (admits_of_lt (by decide) (by decide)),
      afterRawBody_blank (by decide) (.inl (by decide)) hfeed] at h
    rw [relined_return_feed, afterRawBody_blank (by decide) (.inl (by decide)) hfeed]
    exact ih h fun held hheld => Option.some.inj hheld ▸ passes_nil
  | inside c cs hinside ih =>
    cases hc : isBlank c with
    | false =>
      have hnone : afterRawBody a signs (relined z none (c :: cs)) = some (relined z none r) := by
        have hcloses : closesRaw signs (relined z none (c :: cs)) = _ := closesRaw_relined hc cs
        rw [relined_none_cons (.of_ink hc)] at hcloses ⊢
        cases hopen : closesRaw signs (c :: cs) with
        | true =>
          obtain ⟨rfl, cs', rfl⟩ := exists_of_closesRaw hopen
          rw [afterRawBody, hopen, if_pos rfl, Option.some.injEq] at h
          rw [afterRawBody, hcloses, hopen, if_pos rfl, ← h,
            relined_none_append (ink_signs signs), List.drop_left' (by simp),
            List.drop_left' (by simp), dropSuffix_relined]
        | false =>
          obtain ⟨hreturn, ha, h⟩ := admits_of_afterRawBody h hopen
          rw [hopen] at hcloses
          have hreturn : c ≠ '\r' := by
            rintro rfl
            exact absurd hc (by decide)
          rw [afterRawBody_cons hcloses (.inl hreturn) ha]
          exact ih h fun _ hheld => nomatch hheld
      cases s with
      | none => exact hnone
      | some held =>
        rw [relined_some_ink hc, afterRawBody_append_of_passes (hs held rfl)]
        exact hnone
    | true =>
      have hquote : c ≠ '\x22' := by
        rintro rfl
        exact absurd hc (by decide)
      obtain ⟨hreturn, ha, h⟩ := admits_of_afterRawBody h (closesRaw_of_ne hquote cs)
      have hreturn : c ≠ '\r' := by
        rintro rfl
        exact hinside.2 rfl (hreturn.resolve_left (not_not_intro rfl))
      cases s with
      | none =>
        rw [relined_none_cons hinside, afterRawBody_blank hc (.inl hreturn) ha]
        exact ih h fun _ hheld => nomatch hheld
      | some held =>
        rw [relined_some_blank hinside hc]
        refine ih h fun held' hheld' => Option.some.inj hheld' ▸ ?_
        exact List.forall_mem_append.mpr
          ⟨hs held rfl, List.forall_mem_singleton.mpr ⟨hc, hreturn, ha⟩⟩

theorem endsInk_of_afterRawBody (h : afterRawBody a signs cs = some r) : EndsInk cs r := by
  induction cs with
  | nil => cases h
  | cons c cs ih =>
    cases hopen : closesRaw signs (c :: cs) with
    | true =>
      obtain ⟨rfl, cs', rfl⟩ := exists_of_closesRaw hopen
      rw [afterRawBody, hopen, if_pos rfl, Option.some.injEq, List.drop_left' (by simp)] at h
      obtain ⟨u, hu, heq⟩ := dropSuffix_ink cs'
      have hink : Ink ('\x22' :: (List.replicate signs '#' ++ u)) :=
        ink_cons.mpr ⟨by decide, ink_append.mpr ⟨ink_signs signs, hu⟩⟩
      have hends := EndsInk.of_ink hink (List.cons_ne_nil _ _) r
      rwa [List.cons_append, List.append_assoc, ← h, ← heq, h] at hends
    | false =>
      exact (ih (admits_of_afterRawBody h hopen).2.2).of_suffix (List.suffix_cons c cs)

/-- The shape of a raw literal whose letters have been read. -/
theorem afterRaw_eq_some_iff : afterRaw a cs = some r ↔
    ∃ n body, cs = List.replicate n '#' ++ '\x22' :: body ∧ n ≤ 255 ∧
      afterRawBody a n body = some r := by
  have hsigns (n : Nat) (body : List Char) :
      (List.replicate n '#' ++ '\x22' :: body).takeWhile (· == '#') = List.replicate n '#' := by
    rw [List.takeWhile_append_of_pos fun c hc => by rw [List.eq_of_mem_replicate hc]; rfl,
      List.takeWhile_cons_of_neg (by decide), List.append_nil]
  constructor
  · intro h
    rw [afterRaw] at h
    split at h
    next body hdrop =>
      split at h
      · cases h
      next hle =>
        refine ⟨_, body, ?_, Nat.not_lt.mp hle, h⟩
        have hsame : cs.takeWhile (· == '#') =
            List.replicate (cs.takeWhile (· == '#')).length '#' :=
          List.eq_replicate_of_mem fun c hc => by simpa using List.mem_takeWhile_imp hc
        rw [← hdrop, ← hsame]
        exact (List.prefix_iff_eq_append.mp (List.takeWhile_prefix _)).symm
    next => cases h
  · rintro ⟨n, body, rfl, hn, h⟩
    rw [afterRaw, hsigns, List.length_replicate, List.drop_left' (by simp)]
    change (if 255 < n then none else afterRawBody a n body) = some r
    rw [if_neg (Nat.not_lt.mpr hn), h]

theorem afterRaw_relined (h : afterRaw a cs = some r) :
    afterRaw a (relined z none cs) = some (relined z none r) := by
  obtain ⟨n, body, rfl, hn, h⟩ := afterRaw_eq_some_iff.mp h
  refine afterRaw_eq_some_iff.mpr ⟨n, relined z none body, ?_, hn,
    afterRawBody_relined h fun _ hheld => nomatch hheld⟩
  rw [relined_none_append (ink_signs n), relined_none_cons (.of_ink (by decide))]

theorem endsInk_of_afterRaw (h : afterRaw a cs = some r) : EndsInk cs r := by
  obtain ⟨n, body, rfl, hn, h⟩ := afterRaw_eq_some_iff.mp h
  refine (endsInk_of_afterRawBody h).of_suffix ?_
  exact (List.suffix_cons _ body).trans (List.suffix_append _ _)

/-! ## Strings -/

theorem afterQuoted_relined (h : afterQuoted a (cs.length + 1) cs = some r) :
    afterQuoted a ((relined z none cs).length + 1) (relined z none cs) =
      some (relined z none r) :=
  ((quoted_of_afterQuoted h).relines.quoted none fun _ hheld => nomatch hheld).afterQuoted
    (Nat.lt_succ_self _)

/-- **A string literal** of any form ends where it did when its lines are written again. -/
theorem afterString?_relined (h : afterString? cs = some r) :
    afterString? (relined z none cs) = some (relined z none r) := by
  have hcons {c : Char} (hc : isBlank c = false) (cs : List Char) :=
    relined_none_cons (z := z) (show Inside c cs from .of_ink hc)
  rw [afterString?.eq_def] at h
  split at h
  · rw [hcons (by decide)]
    exact afterQuoted_relined h
  · rw [hcons (by decide)]
    exact afterRaw_relined h
  · rw [hcons (by decide), hcons (by decide)]
    exact afterQuoted_relined h
  · rw [hcons (by decide), hcons (by decide)]
    exact afterRaw_relined h
  · rw [hcons (by decide), hcons (by decide)]
    exact afterQuoted_relined h
  · rw [hcons (by decide), hcons (by decide)]
    exact afterRaw_relined h
  · cases h

theorem endsInk_of_afterString? (h : afterString? cs = some r) : EndsInk cs r := by
  rw [afterString?.eq_def] at h
  split at h
  · exact (quoted_of_afterQuoted h).endsInk.of_suffix (List.suffix_cons _ _)
  · exact (endsInk_of_afterRaw h).of_suffix (List.suffix_cons _ _)
  · exact (quoted_of_afterQuoted h).endsInk.of_suffix (List.suffix_append ['b', '\x22'] _)
  · exact (endsInk_of_afterRaw h).of_suffix (List.suffix_append ['b', 'r'] _)
  · exact (quoted_of_afterQuoted h).endsInk.of_suffix (List.suffix_append ['c', '\x22'] _)
  · exact (endsInk_of_afterRaw h).of_suffix (List.suffix_append ['c', 'r'] _)
  · cases h

/-- Whether a string literal may open here. -/
def opensString (cs : List Char) : Bool :=
  startsWith cs ['\x22'] || literalOpeners.any fun o => startsWith cs o.toList

theorem opensString_relined (cs : List Char) :
    opensString (relined z none cs) = opensString cs := by
  obtain ⟨w, b, hw, hb, rfl⟩ := exists_ink_append cs
  have hquote : Ink ['\x22'] := List.forall_mem_singleton.mpr (by decide)
  rw [relined_none_append hw, opensString, opensString, startsWith_append_gap hquote hb.relined,
    startsWith_append_gap hquote hb, any_literalOpeners_append_gap hb.relined,
    any_literalOpeners_append_gap hb]

theorem opensString_of_afterString? (h : afterString? cs = some r) : opensString cs = true := by
  have hopener (o : String) (ho : o ∈ literalOpeners) (h : o.toList <+: cs) :
      opensString cs = true := by
    rw [opensString, Bool.or_eq_true, List.any_eq_true]
    exact .inr ⟨o, ho, List.isPrefixOf_iff_prefix.mpr h⟩
  rw [afterString?.eq_def] at h
  split at h
  next => rfl
  next =>
    obtain ⟨n, body, rfl, -⟩ := afterRaw_eq_some_iff.mp h
    obtain _ | _ | n := n
    · exact hopener "r\x22" (by decide) ⟨body, rfl⟩
    · exact hopener "r#\x22" (by decide) ⟨body, rfl⟩
    · exact hopener "r##" (by decide) ⟨List.replicate n '#' ++ '\x22' :: body, rfl⟩
  next body => exact hopener "b\x22" (by decide) ⟨body, rfl⟩
  next =>
    obtain ⟨n, body, rfl, -⟩ := afterRaw_eq_some_iff.mp h
    obtain _ | n := n
    · exact hopener "br\x22" (by decide) ⟨body, rfl⟩
    · exact hopener "br#" (by decide) ⟨List.replicate n '#' ++ '\x22' :: body, rfl⟩
  next body => exact hopener "c\x22" (by decide) ⟨body, rfl⟩
  next =>
    obtain ⟨n, body, rfl, -⟩ := afterRaw_eq_some_iff.mp h
    obtain _ | n := n
    · exact hopener "cr\x22" (by decide) ⟨body, rfl⟩
    · exact hopener "cr#" (by decide) ⟨List.replicate n '#' ++ '\x22' :: body, rfl⟩
  next => cases h

/-! ## Characters -/

/-- What follows the closing mark of a character. -/
def afterMark? : List Char → Option (List Char)
  | c :: cs => if c = '\x27' then some (dropSuffix cs) else none
  | [] => none

theorem local_afterMark? : Local afterMark? where
  append := by
    intro w b hw hb
    cases w with
    | nil =>
      obtain rfl | ⟨c, b, rfl, hc⟩ := hb.eq_nil_or
      · rfl
      · have hmark : ¬c = '\x27' := by
          rintro rfl
          exact absurd hc (by decide)
        rw [List.nil_append, afterMark?, if_neg hmark]
        rfl
    | cons c w =>
      rw [List.cons_append, afterMark?, afterMark?, dropSuffix_append_gap (ink_cons.mp hw).2 hb]
      split <;> rfl
  suffix := by
    intro cs r h
    cases cs with
    | nil => cases h
    | cons c cs =>
      rw [afterMark?] at h
      split at h
      · exact Option.some.inj h ▸ (dropSuffix_suffix cs).trans (List.suffix_cons c cs)
      · cases h

theorem afterMark?_eq (cs : List Char) : (match cs with
    | '\x27' :: rest => some (dropSuffix rest)
    | _ => none) = afterMark? cs := by
  cases cs with
  | nil => rfl
  | cons c cs =>
    rw [afterMark?]
    split
    next heq =>
      obtain ⟨rfl, rfl⟩ := List.cons.inj heq
      rw [if_pos rfl]
    next hne => rw [if_neg fun h => hne cs (by rw [h])]

theorem afterChar_backslash (cs : List Char) :
    afterChar a ('\\' :: cs) = (afterEscape a cs).bind afterMark? := by
  rw [← funext afterMark?_eq]
  rfl

theorem afterChar_cons (hc : c ≠ '\\') (cs : List Char) : afterChar a (c :: cs) =
    if a = .bytes ∧ 0x80 ≤ c.toNat then none else afterMark? cs := by
  rw [← afterMark?_eq]
  unfold afterChar
  split
  next heq => exact absurd (List.cons.inj heq).1 hc
  next heq =>
    obtain ⟨rfl, rfl⟩ := List.cons.inj heq
    split <;> rfl
  next heq => cases heq

/-- Ink between single quotes is read alike on lines that are written again. -/
theorem afterChar_relined_ink (hc : isBlank c = false) (cs : List Char) :
    afterChar a (relined z none (c :: cs)) = (afterChar a (c :: cs)).map (relined z none) := by
  rw [relined_none_cons (.of_ink hc)]
  by_cases hslash : c = '\\'
  · subst hslash
    rw [afterChar_backslash, afterChar_backslash]
    exact (local_afterEscape.bind local_afterMark?).relined cs
  · rw [afterChar_cons hslash, afterChar_cons hslash, local_afterMark?.relined]
    split <;> rfl

/-- **A character** ends where it did when its lines are written again. -/
theorem afterChar_relined (h : afterChar a cs = some r) :
    afterChar a (relined z none cs) = some (relined z none r) := by
  cases cs with
  | nil => cases h
  | cons c cs =>
    cases hc : isBlank c with
    | false => rw [afterChar_relined_ink hc, h, Option.map_some]
    | true =>
      have hslash : c ≠ '\\' := by
        rintro rfl
        exact absurd hc (by decide)
      rw [afterChar_cons hslash] at h
      split at h
      · cases h
      next hbytes =>
        have hmark : ∃ cs', cs = '\x27' :: cs' := by
          cases cs with
          | nil => cases h
          | cons d cs =>
            rw [afterMark?] at h
            split at h
            next hd => exact ⟨cs, by rw [hd]⟩
            next => cases h
        obtain ⟨cs, rfl⟩ := hmark
        have hrelined : relined z none (c :: '\x27' :: cs) = c :: relined z none ('\x27' :: cs) := by
          by_cases hfeed : c = '\n'
          · rw [hfeed, relined_feed, relined_some_ink (by decide), List.nil_append]
          · exact relined_none_cons ⟨hfeed, fun _ hhead => absurd (Option.some.inj hhead) (by decide)⟩
        rw [hrelined, afterChar_cons hslash, if_neg hbytes, local_afterMark?.relined, h,
          Option.map_some]

theorem endsInk_of_afterMark? (h : afterMark? cs = some r) : EndsInk cs r := by
  cases cs with
  | nil => cases h
  | cons c cs =>
    rw [afterMark?] at h
    split at h
    next hc =>
      rw [hc, ← Option.some.inj h]
      exact endsInk_dropSuffix (by decide) cs
    next => cases h

theorem endsInk_of_afterChar (h : afterChar a cs = some r) : EndsInk cs r := by
  cases cs with
  | nil => cases h
  | cons c cs =>
    by_cases hslash : c = '\\'
    · subst hslash
      rw [afterChar_backslash] at h
      obtain ⟨cs', hescape, h⟩ := Option.bind_eq_some_iff.mp h
      exact (endsInk_of_afterMark? h).of_suffix
        ((local_afterEscape.suffix hescape).trans (List.suffix_cons _ cs))
    · rw [afterChar_cons hslash] at h
      split at h
      · cases h
      · exact (endsInk_of_afterMark? h).of_suffix (List.suffix_cons c cs)

theorem afterCharacter?_relined (h : afterCharacter? cs = some r) :
    afterCharacter? (relined z none cs) = some (relined z none r) := by
  rw [afterCharacter?.eq_def] at h
  split at h
  · rw [relined_none_cons (.of_ink (by decide)), relined_none_cons (.of_ink (by decide))]
    exact afterChar_relined h
  · rw [relined_none_cons (.of_ink (by decide))]
    exact afterChar_relined h
  · cases h

theorem endsInk_of_afterCharacter? (h : afterCharacter? cs = some r) : EndsInk cs r := by
  rw [afterCharacter?.eq_def] at h
  split at h
  · exact (endsInk_of_afterChar h).of_suffix (List.suffix_append ['b', '\x27'] _)
  · exact (endsInk_of_afterChar h).of_suffix (List.suffix_cons _ _)
  · cases h

/-! ## Literals of every kind -/

/-- A number begins with a digit and ends before a character that goes on with no name. -/
structure IsNumberExtent (cs r : List Char) : Prop where
  digit : cs.head?.any (·.isDigit) = true
  ends : r.head?.any isNameRest = false

theorem ends_of_afterNumber (h : afterNumber cs = some r) : r.head?.any isNameRest = false := by
  rw [afterNumber] at h
  split at h
  · cases h
  next hends => exact Option.some.inj h ▸ Bool.eq_false_iff.mpr hends

theorem ends_of_afterFraction? (h : afterFraction? cs = some r) :
    r.head?.any isNameRest = false := by
  cases cs with
  | nil => exact Option.some.inj h ▸ rfl
  | cons e cs =>
    rw [afterFraction?] at h
    split at h
    · split at h
      · exact ends_of_afterNumber h
      · exact ends_of_afterNumber h
    · exact ends_of_afterNumber h

theorem isNumberExtent_of_afterFloat? (h : afterFloat? cs = some r) : IsNumberExtent cs r := by
  rw [afterFloat?_eq] at h
  split at h
  · cases h
  next hdigit =>
    refine ⟨by simpa using hdigit, ?_⟩
    cases hrest : cs.dropWhile isDigitPart with
    | nil =>
      rw [hrest] at h
      cases h
    | cons c cs =>
      rw [hrest, afterDecimals?] at h
      split_ifs at h
      · exact ends_of_afterFraction? h
      · obtain ⟨r', -, h⟩ := Option.bind_eq_some_iff.mp h
        exact ends_of_afterNumber h

/-- The hexadecimal digits of a value below ten are the decimal digits. -/
theorem isDigit_of_hexDigit? {d : Nat} (h : hexDigit? c = some d) (hd : d < 10) :
    c.isDigit = true := by
  rw [hexDigit?] at h
  split_ifs at h with hdecimal hsmall hlarge
  · exact Bool.and_eq_true_iff.mpr ⟨decide_eq_true hdecimal.1, decide_eq_true hdecimal.2⟩
  · have hle : 97 ≤ c.toNat := hsmall.1
    have heq := Option.some.inj h
    omega
  · have hle : 65 ≤ c.toNat := hlarge.1
    have heq := Option.some.inj h
    omega

theorem isDigit_of_afterDigits (h : afterDigits 10 false cs = some r) :
    cs.head?.any (·.isDigit) = true := by
  cases cs with
  | nil => cases h
  | cons c cs =>
    rw [afterDigits] at h
    split at h
    · cases h
    · split at h
      next d hhex =>
        split at h
        next hd => exact isDigit_of_hexDigit? hhex hd
        next =>
          split at h
          · cases h
          · cases h
      next => cases h

theorem isNumberExtent_of_afterInt? (h : afterInt? cs = some r) : IsNumberExtent cs r := by
  rw [afterInt?_eq] at h
  obtain ⟨r', hwhole, h⟩ := Option.bind_eq_some_iff.mp h
  refine ⟨?_, ends_of_afterNumber h⟩
  rw [afterWhole?] at hwhole
  split at hwhole
  next hmark =>
    rw [baseMark?.eq_def] at hmark
    split at hmark
    · rfl
    · rfl
    · rfl
    · cases hmark
  next => exact isDigit_of_afterDigits hwhole

theorem isNameRest_of_isDigit (h : c.isDigit = true) : isNameRest c = true := by
  have hlt : c.toNat < 0x80 := toNat_lt_of_isAlphanum (by rw [Char.isAlphanum, h, Bool.or_true])
  rw [isNameRest, if_pos hlt, Char.isAlphanum, h, Bool.or_true, Bool.true_or]

/-- A local reader of numbers reads something. -/
theorem IsNumberExtent.endsInk {f : List Char → Option (List Char)} (h : IsNumberExtent cs r)
    (hf : Local f) (hr : f cs = some r) : EndsInk cs r := by
  obtain ⟨u, hu, rfl⟩ := hf.exists_ink hr
  refine EndsInk.of_ink hu ?_ r
  rintro rfl
  have hdigit := h.digit
  have hends := h.ends
  rw [List.nil_append] at hdigit
  cases r with
  | nil => cases hdigit
  | cons c r => exact absurd (isNameRest_of_isDigit hdigit) (Bool.eq_false_iff.mp hends)

/-- No string and no character begins with a digit. -/
theorem no_quote_of_digit (h : cs.head?.any (·.isDigit) = true) :
    afterString? cs = none ∧ afterCharacter? cs = none := by
  constructor
  · rw [afterString?.eq_def]
    split
    all_goals first | rfl | cases h
  · rw [afterCharacter?.eq_def]
    split
    all_goals first | rfl | cases h

/-- What a literal is. -/
theorem afterLiteral?_cases (h : afterLiteral? cs = some r) :
    afterString? cs = some r ∨ afterString? cs = none ∧ afterCharacter? cs = some r ∨
      afterFloat? cs = some r ∨ afterFloat? cs = none ∧ afterInt? cs = some r := by
  rw [afterLiteral?] at h
  cases hstring : afterString? cs with
  | some r' =>
    rw [hstring] at h
    exact .inl h
  | none =>
    cases hchar : afterCharacter? cs with
    | some r' =>
      rw [hstring, hchar] at h
      exact .inr (.inl ⟨rfl, h⟩)
    | none =>
      cases hfloat : afterFloat? cs with
      | some r' =>
        rw [hstring, hchar, hfloat] at h
        exact .inr (.inr (.inl h))
      | none =>
        rw [hstring, hchar, hfloat] at h
        exact .inr (.inr (.inr ⟨rfl, h⟩))

theorem endsInk_of_afterLiteral? (h : afterLiteral? cs = some r) : EndsInk cs r := by
  obtain h | ⟨-, h⟩ | h | ⟨-, h⟩ := afterLiteral?_cases h
  · exact endsInk_of_afterString? h
  · exact endsInk_of_afterCharacter? h
  · exact (isNumberExtent_of_afterFloat? h).endsInk local_afterFloat? h
  · exact (isNumberExtent_of_afterInt? h).endsInk local_afterInt? h

/-- A number on lines that are written again begins with its digit too. -/
theorem digit_relined (h : cs.head?.any (·.isDigit) = true) :
    (relined z none cs).head?.any (·.isDigit) = true := by
  cases cs with
  | nil => cases h
  | cons c cs =>
    have hink : isBlank c = false := by
      cases hblank : isBlank c with
      | false => rfl
      | true =>
        have hrest := isNameRest_of_isDigit h
        rw [not_isNameRest_of_isBlank hblank] at hrest
        cases hrest
    rw [relined_none_cons (.of_ink hink)]
    exact h

/-- **A literal** of any kind ends where it did when its lines are written again. -/
theorem afterLiteral?_relined (h : afterLiteral? cs = some r) :
    afterLiteral? (relined z none cs) = some (relined z none r) := by
  rw [afterLiteral?]
  obtain h | ⟨hstring, h⟩ | h | ⟨hfloat, h⟩ := afterLiteral?_cases h
  · rw [afterString?_relined h]
    rfl
  · have hnone : afterString? (relined z none cs) = none := by
      rw [afterCharacter?.eq_def] at h
      split at h
      · rw [relined_none_cons (.of_ink (by decide)), relined_none_cons (.of_ink (by decide))]
        rfl
      · rw [relined_none_cons (.of_ink (by decide))]
        rfl
      · cases h
    rw [hnone, afterCharacter?_relined h]
    rfl
  · have hnone := no_quote_of_digit (digit_relined (z := z) (isNumberExtent_of_afterFloat? h).digit)
    rw [hnone.1, hnone.2, local_afterFloat?.relined, h]
    rfl
  · have hnone := no_quote_of_digit (digit_relined (z := z) (isNumberExtent_of_afterInt? h).digit)
    rw [hnone.1, hnone.2, local_afterFloat?.relined, hfloat, local_afterInt?.relined, h]
    rfl

theorem afterLiteral?_eq_none_iff : afterLiteral? cs = none ↔
    afterString? cs = none ∧ afterCharacter? cs = none ∧ afterFloat? cs = none ∧
      afterInt? cs = none := by
  simp [afterLiteral?]

/-- What is no literal is none on lines that are written again, if it cannot open a string, and if
ink follows a single quote. -/
theorem afterLiteral?_relined_none (h : afterLiteral? cs = none) (hopens : opensString cs = false)
    (hmark : ∀ cs', cs = '\x27' :: cs' → ∃ c cs'', cs' = c :: cs'' ∧ isBlank c = false) :
    afterLiteral? (relined z none cs) = none := by
  obtain ⟨-, hchar, hfloat, hint⟩ := afterLiteral?_eq_none_iff.mp h
  refine afterLiteral?_eq_none_iff.mpr ⟨?_, ?_, ?_, ?_⟩
  · rw [Option.eq_none_iff_forall_ne_some]
    intro r hr
    have hopens' := opensString_of_afterString? hr
    rw [opensString_relined, hopens] at hopens'
    cases hopens'
  · rw [Option.eq_none_iff_forall_ne_some]
    intro r hr
    rw [afterCharacter?.eq_def] at hr
    split at hr
    next cs' heq =>
      have hopener : opensString (relined z none cs) = true := by
        rw [heq]
        rfl
      rw [opensString_relined, hopens] at hopener
      cases hopener
    next cs' heq =>
      have hhead := (head?_relined (z := z) (show isBlank '\x27' = false by decide) cs).mp
        (by rw [heq, List.head?_cons])
      obtain ⟨cs, rfl⟩ := List.head?_eq_some_iff.mp hhead
      obtain ⟨c, cs, rfl, hc⟩ := hmark cs rfl
      rw [relined_none_cons (.of_ink (by decide)), List.cons.injEq] at heq
      rw [← heq.2, afterChar_relined_ink hc] at hr
      rw [afterCharacter?] at hchar
      rw [hchar] at hr
      cases hr
    next => cases hr
  · rw [local_afterFloat?.relined, hfloat, Option.map_none]
  · rw [local_afterInt?.relined, hint, Option.map_none]

end RestLoom.Token
