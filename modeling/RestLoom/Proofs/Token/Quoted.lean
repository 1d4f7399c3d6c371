import RestLoom.Proofs.Token.Local

/-!
# Proofs/Token/Quoted — string literals on lines that are written again

    "a␣␣⏎␣␣⏎b" rest  ──▸  "a␣␣⏎⏎b" rest

A string literal may go on over several lines, so its text changes with them; but it ends where it
ended before.  `Quoted` is the reader of a literal between quotes without its fuel, by the pieces
that the literal is made of (`Quoted.afterQuoted`); each piece of a literal is one of the
literal on the lines written again (`Quoted.relined`).
-/

namespace RestLoom.Token

open RestLoom.Text

variable {z cs cs' r held : List Char} {s : Option (List Char)} {a : Alphabet} {c : Char}

/-! ## Lines that are continued -/

/-- What follows the blanks after a backslash at the end of a line. -/
def pastBlanks? : List Char → Option (List Char)
  | ' ' :: cs => pastBlanks? cs
  | '\t' :: cs => pastBlanks? cs
  | '\n' :: cs => pastBlanks? cs
  | '\r' :: '\n' :: cs => pastBlanks? cs
  | '\r' :: _ => none
  | [] => none
  | c :: cs => some (c :: cs)

/-- What follows them when a carriage return has been read. -/
def pastReturn? : List Char → Option (List Char)
  | '\n' :: cs => pastBlanks? cs
  | _ => none

theorem afterLineEnd_eq {fuel : Nat} (h : cs.length < fuel) :
    afterLineEnd fuel false cs = pastBlanks? cs := by
  fun_induction pastBlanks? cs generalizing fuel with
  | case1 cs ih | case2 cs ih | case3 cs ih =>
    obtain _ | fuel := fuel
    · cases h
    · exact ih (Nat.lt_of_succ_lt_succ h)
  | case4 cs ih =>
    obtain _ | _ | fuel := fuel
    · cases h
    · exact absurd (Nat.lt_of_succ_lt_succ h) (Nat.not_lt_zero _)
    · exact ih (Nat.lt_of_succ_lt_succ (Nat.lt_of_succ_lt_succ h))
  | case5 cs hfeed =>
    obtain _ | _ | fuel := fuel
    · cases h
    · rfl
    · rw [afterLineEnd, if_neg Bool.false_ne_true, afterLineEnd.eq_def]
      dsimp only
      rw [if_pos rfl]
      split
      next cs => exact absurd rfl (hfeed cs)
      next => rfl
  | case6 =>
    obtain _ | fuel := fuel
    · rfl
    · rfl
  | case7 c cs hspace htab hfeed hreturn' hreturn =>
    obtain _ | fuel := fuel
    · cases h
    · rw [afterLineEnd, if_neg Bool.false_ne_true]
      all_goals simp_all

theorem afterLineEnd_true_eq {fuel : Nat} (h : cs.length < fuel) :
    afterLineEnd fuel true cs = pastReturn? cs := by
  obtain _ | fuel := fuel
  · cases h
  · rw [afterLineEnd.eq_def, pastReturn?.eq_def]
    dsimp only
    rw [if_pos rfl]
    split
    next => exact afterLineEnd_eq (Nat.lt_of_succ_lt_succ h)
    next hfeed => grind

theorem pastBlanks?_suffix (h : pastBlanks? cs = some r) : r <:+ cs := by
  fun_induction pastBlanks? cs with
  | case1 cs ih | case2 cs ih | case3 cs ih => exact (ih h).trans (List.suffix_cons _ cs)
  | case4 cs ih => exact (ih h).trans (List.suffix_append ['\r', '\n'] cs)
  | case5 | case6 => cases h
  | case7 => exact Option.some.inj h ▸ List.suffix_refl _

theorem pastReturn?_suffix (h : pastReturn? cs = some r) : r <:+ cs := by
  rw [pastReturn?.eq_def] at h
  split at h
  · exact (pastBlanks?_suffix h).trans (List.suffix_cons _ _)
  · cases h

/-- **Blanks after a backslash** are passed on lines that are written again too, but for spaces and
tabs that begin the line where text goes on. -/
theorem pastBlanks?_relined (h : pastBlanks? cs = some cs')
    (hheld : ∀ c ∈ held, c = ' ' ∨ c = '\t') :
    ∃ held', (∀ c ∈ held', c = ' ' ∨ c = '\t') ∧
      pastBlanks? (relined z (some held) cs) = pastBlanks? (relined z (some held') cs') := by
  fun_induction pastBlanks? cs generalizing held with
  | case1 cs ih =>
    have hcons : relined z (some held) (' ' :: cs) = relined z (some (held ++ [' '])) cs :=
      relined_some_blank ⟨by decide, fun h => absurd h (by decide)⟩ (by decide)
    rw [hcons]
    exact ih h (List.forall_mem_append.mpr ⟨hheld, List.forall_mem_singleton.mpr (.inl rfl)⟩)
  | case2 cs ih =>
    have hcons : relined z (some held) ('\t' :: cs) = relined z (some (held ++ ['\t'])) cs :=
      relined_some_blank ⟨by decide, fun h => absurd h (by decide)⟩ (by decide)
    rw [hcons]
    exact ih h (List.forall_mem_append.mpr ⟨hheld, List.forall_mem_singleton.mpr (.inr rfl)⟩)
  | case3 cs ih =>
    rw [relined_feed, pastBlanks?]
    exact ih h (List.forall_mem_nil _)
  | case4 cs ih =>
    rw [relined_return_feed, pastBlanks?]
    exact ih h (List.forall_mem_nil _)
  | case5 | case6 => cases h
  | case7 => exact ⟨held, hheld, by rw [Option.some.inj h]⟩

/-! ## Literals between quotes -/

/-- Whether a character may stand for itself in a literal. -/
def Admits (a : Alphabet) (c : Char) : Prop :=
  ¬(a = .bytes ∧ 0x80 ≤ c.toNat) ∧ ¬(a = .terminated ∧ c.toNat = 0)

/-- **A literal between quotes** from its opening quote on, and what follows it. -/
inductive Quoted (a : Alphabet) : List Char → List Char → Prop
  | close (cs : List Char) : Quoted a ('\x22' :: cs) (dropSuffix cs)
  | lineEnd {cs r : List Char} : Quoted a cs r → Quoted a ('\r' :: '\n' :: cs) r
  | feed {cs cs' r : List Char} :
    pastBlanks? cs = some cs' → Quoted a cs' r → Quoted a ('\\' :: '\n' :: cs) r
  | returned {cs cs' r : List Char} :
    pastReturn? cs = some cs' → Quoted a cs' r → Quoted a ('\\' :: '\r' :: cs) r
  | escape {cs cs' r : List Char} :
    afterEscape a cs = some cs' → Quoted a cs' r → Quoted a ('\\' :: cs) r
  | plain {c : Char} {cs r : List Char} :
    c ≠ '\x22' → c ≠ '\\' → c ≠ '\r' → Admits a c → Quoted a cs r → Quoted a (c :: cs) r

theorem quoted_of_afterQuoted {fuel : Nat} (h : afterQuoted a fuel cs = some r) :
    Quoted a cs r := by
  fun_induction afterQuoted a fuel cs with
  | case1 | case2 | case5 | case9 | case10 => cases h
  | case3 fuel cs => exact Option.some.inj h ▸ .close cs
  | case4 fuel cs ih => exact .lineEnd (ih h)
  | case6 fuel cs ih =>
    obtain ⟨cs', hpast, h⟩ := Option.bind_eq_some_iff.mp h
    rw [afterLineEnd_eq (Nat.lt_succ_self _)] at hpast
    exact .feed hpast (ih cs' h)
  | case7 fuel cs ih =>
    obtain ⟨cs', hpast, h⟩ := Option.bind_eq_some_iff.mp h
    rw [afterLineEnd_true_eq (Nat.lt_succ_self _)] at hpast
    exact .returned hpast (ih cs' h)
  | case8 fuel cs hfeed hreturn ih =>
    obtain ⟨cs', hescape, h⟩ := Option.bind_eq_some_iff.mp h
    exact .escape hescape (ih cs' h)
  | case11 fuel c cs hquote _ hreturn _ _ hslash hbytes hnull ih =>
    exact .plain hquote hslash hreturn ⟨hbytes, hnull⟩ (ih h)

/-- Enough fuel reads a literal to its end. -/
theorem Quoted.afterQuoted (h : Quoted a cs r) {fuel : Nat} (hfuel : cs.length < fuel) :
    afterQuoted a fuel cs = some r := by
  induction h generalizing fuel with
  | close cs =>
    obtain _ | fuel := fuel
    · cases hfuel
    · rfl
  | lineEnd _ ih =>
    obtain _ | fuel := fuel
    · cases hfuel
    · exact ih (Nat.lt_of_succ_lt (Nat.lt_of_succ_lt_succ hfuel))
  | feed hpast _ ih =>
    obtain _ | fuel := fuel
    · cases hfuel
    · have hlength := (pastBlanks?_suffix hpast).length_le
      simp only [List.length_cons] at hfuel
      rw [Token.afterQuoted, afterLineEnd_eq (Nat.lt_succ_self _), hpast]
      exact ih (by omega)
  | returned hpast _ ih =>
    obtain _ | fuel := fuel
    · cases hfuel
    · have hlength := (pastReturn?_suffix hpast).length_le
      simp only [List.length_cons] at hfuel
      rw [Token.afterQuoted, afterLineEnd_true_eq (Nat.lt_succ_self _), hpast]
      exact ih (by omega)
  | escape hescape _ ih =>
    obtain _ | fuel := fuel
    · cases hfuel
    · have hlength := (local_afterEscape.suffix hescape).length_le
      simp only [List.length_cons] at hfuel
      rw [Token.afterQuoted, hescape]
      · exact ih (by omega)
      · rintro cs rfl
        rw [afterEscape_blank (by decide)] at hescape
        cases hescape
      · rintro cs rfl
        rw [afterEscape_blank (by decide)] at hescape
        cases hescape
  | plain hquote hslash hreturn hadmits _ ih =>
    obtain _ | fuel := fuel
    · cases hfuel
    · rw [Token.afterQuoted, if_neg hadmits.1, if_neg hadmits.2]
      · exact ih (Nat.lt_of_succ_lt_succ hfuel)
      all_goals simp_all

/-- **A literal between quotes** ends in ink. -/
theorem Quoted.endsInk (h : Quoted a cs r) : EndsInk cs r := by
  induction h with
  | close cs => exact endsInk_dropSuffix (by decide) cs
  | lineEnd _ ih => exact ih.of_suffix (List.suffix_append ['\r', '\n'] _)
  | feed hpast _ ih =>
    exact ih.of_suffix ((pastBlanks?_suffix hpast).trans (List.suffix_append ['\\', '\n'] _))
  | returned hpast _ ih =>
    exact ih.of_suffix ((pastReturn?_suffix hpast).trans (List.suffix_append ['\\', '\r'] _))
  | escape hescape _ ih =>
    exact ih.of_suffix ((local_afterEscape.suffix hescape).trans (List.suffix_cons _ _))
  | plain _ _ _ _ _ ih => exact ih.of_suffix (List.suffix_cons _ _)

/-! ## On lines that are written again -/

/-- Whether a literal goes on after blanks, all of which it admits. -/
def Passes (a : Alphabet) (held : List Char) : Prop :=
  ∀ c ∈ held, isBlank c = true ∧ c ≠ '\r' ∧ Admits a c

theorem passes_nil : Passes a [] := List.forall_mem_nil _

theorem admits_of_lt (h : c.toNat ≠ 0) (hlt : c.toNat < 0x80) : Admits a c :=
  ⟨fun hbytes => absurd hbytes.2 (Nat.not_le.mpr hlt), fun hnull => h hnull.2⟩

/-- The blanks that begin a continued line are admitted. -/
theorem passes_of_blanks (h : ∀ c ∈ held, c = ' ' ∨ c = '\t') : Passes a held := by
  intro c hc
  obtain rfl | rfl := h c hc
  · exact ⟨by decide, by decide, admits_of_lt (by decide) (by decide)⟩
  · exact ⟨by decide, by decide, admits_of_lt (by decide) (by decide)⟩

theorem Quoted.plain_blank (hc : isBlank c = true) (hreturn : c ≠ '\r') (ha : Admits a c)
    (h : Quoted a cs r) : Quoted a (c :: cs) r := by
  refine .plain ?_ ?_ hreturn ha h
  · rintro rfl
    exact absurd hc (by decide)
  · rintro rfl
    exact absurd hc (by decide)

theorem Quoted.pass (hheld : Passes a held) (h : Quoted a cs r) : Quoted a (held ++ cs) r := by
  induction held with
  | nil => exact h
  | cons c held ih =>
    obtain ⟨⟨hblank, hreturn, ha⟩, hheld⟩ := List.forall_mem_cons.mp hheld
    exact (ih hheld).plain_blank hblank hreturn ha

/-- Of blanks after a backslash, those that are not dropped belong to the literal. -/
theorem Quoted.exists_pastBlanks? (hheld : Passes a held) (hc : isBlank c = false)
    (h : Quoted a (c :: cs) r) :
    ∃ cs', pastBlanks? (held ++ c :: cs) = some cs' ∧ Quoted a cs' r := by
  induction held with
  | nil =>
    refine ⟨c :: cs, ?_, h⟩
    rw [List.nil_append, pastBlanks?]
    all_goals
      intros
      subst c
      exact absurd hc (by decide)
  | cons d held ih =>
    obtain ⟨⟨hblank, hreturn, ha⟩, hheld⟩ := List.forall_mem_cons.mp hheld
    have ih := ih hheld
    rw [List.cons_append]
    by_cases hspace : d = ' ' ∨ d = '\t' ∨ d = '\n'
    · obtain rfl | rfl | rfl := hspace
      all_goals exact ih
    · rw [not_or, not_or] at hspace
      refine ⟨d :: (held ++ c :: cs), ?_, (h.pass hheld).plain_blank hblank hreturn ha⟩
      rw [pastBlanks?]
      all_goals simp_all

/-- What a literal is on lines that are written again: a literal that ends where it did, also when
blanks in front of it are dropped because a line is continued. -/
structure Relines (z : List Char) (a : Alphabet) (cs r : List Char) : Prop where
  quoted : ∀ s, (∀ held ∈ s, Passes a held) → Quoted a (relined z s cs) (relined z none r)
  continued : ∀ held, Passes a held →
    ∃ cs', pastBlanks? (relined z (some held) cs) = some cs' ∧ Quoted a cs' (relined z none r)

/-- Ink lets out the blanks in front of it. -/
theorem Relines.of_ink (hc : isBlank c = false)
    (h : Quoted a (relined z none (c :: cs)) (relined z none r)) : Relines z a (c :: cs) r where
  quoted := by
    intro s hs
    cases s with
    | none => exact h
    | some held =>
      rw [relined_some_ink hc]
      exact h.pass (hs held rfl)
  continued := by
    intro held hheld
    rw [relined_some_ink hc]
    rw [relined_none_cons (.of_ink hc)] at h ⊢
    exact h.exists_pastBlanks? hheld hc

/-- A line end of either kind becomes a line feed of the literal. -/
theorem Relines.of_feed (h : Relines z a cs r)
    (hfeed : ∀ s, relined z s cs' = '\n' :: relined z (some []) cs) : Relines z a cs' r where
  quoted := by
    intro s _
    rw [hfeed]
    exact (h.quoted (some []) fun held hheld => Option.some.inj hheld ▸ passes_nil).plain_blank
      (by decide) (by decide) (admits_of_lt (by decide) (by decide))
  continued := by
    intro held _
    rw [hfeed]
    exact h.continued [] passes_nil

/-- A blank within a line is held back, or written. -/
theorem Relines.of_blank (h : Relines z a cs r) (hc : isBlank c = true) (hinside : Inside c cs)
    (hreturn : c ≠ '\r') (ha : Admits a c) : Relines z a (c :: cs) r where
  quoted := by
    intro s hs
    cases s with
    | none =>
      rw [relined_none_cons hinside]
      exact (h.quoted none fun _ hheld => nomatch hheld).plain_blank hc hreturn ha
    | some held =>
      rw [relined_some_blank hinside hc]
      refine h.quoted _ fun held' hheld' => Option.some.inj hheld' ▸ ?_
      exact List.forall_mem_append.mpr
        ⟨hs held rfl, List.forall_mem_singleton.mpr ⟨hc, hreturn, ha⟩⟩
  continued := by
    intro held hheld
    rw [relined_some_blank hinside hc]
    exact h.continued _ (List.forall_mem_append.mpr
      ⟨hheld, List.forall_mem_singleton.mpr ⟨hc, hreturn, ha⟩⟩)

/-- A backslash at a line end continues the line on lines that are written again. -/
theorem Relines.of_continued (h : Relines z a cs' r) (hpast : pastBlanks? cs = some cs') :
    Quoted a ('\\' :: '\n' :: relined z (some []) cs) (relined z none r) := by
  obtain ⟨held, hheld, heq⟩ := pastBlanks?_relined (z := z) hpast (List.forall_mem_nil _)
  obtain ⟨cs'', hpast', hquoted⟩ := h.continued held (passes_of_blanks hheld)
  exact .feed (heq.trans hpast') hquoted

/-- **A literal between quotes** ends where it did when its lines are written again. -/
theorem Quoted.relines (h : Quoted a cs r) : Relines z a cs r := by
  induction h with
  | close cs =>
    refine .of_ink (by decide) ?_
    rw [relined_none_cons (.of_ink (by decide)), ← dropSuffix_relined]
    exact .close _
  | lineEnd _ ih => exact ih.of_feed fun s => relined_return_feed
  | feed hpast _ ih =>
    refine .of_ink (by decide) ?_
    rw [relined_none_cons (.of_ink (by decide)), relined_feed]
    exact ih.of_continued hpast
  | returned hpast _ ih =>
    rw [pastReturn?.eq_def] at hpast
    split at hpast
    · refine .of_ink (by decide) ?_
      rw [relined_none_cons (.of_ink (by decide)), relined_return_feed]
      exact ih.of_continued hpast
    · cases hpast
  | escape hescape _ ih =>
    refine .of_ink (by decide) ?_
    rw [relined_none_cons (.of_ink (by decide))]
    refine .escape ?_ (ih.quoted none fun _ hheld => nomatch hheld)
    rw [local_afterEscape.relined, hescape, Option.map_some]
  | @plain c cs r hquote hslash hreturn ha _ ih =>
    cases hc : isBlank c with
    | false =>
      refine .of_ink hc ?_
      rw [relined_none_cons (.of_ink hc)]
      exact .plain hquote hslash hreturn ha (ih.quoted none fun _ hheld => nomatch hheld)
    | true =>
      by_cases hfeed : c = '\n'
      · subst hfeed
        exact ih.of_feed fun s => relined_feed
      · exact ih.of_blank hc ⟨hfeed, fun h => absurd h hreturn⟩ hreturn ha

end RestLoom.Token
