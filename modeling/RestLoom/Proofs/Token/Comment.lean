import RestLoom.Proofs.Token.Extent

/-!
# Proofs/Token/Comment — blanks and comments on lines that are written again

    /* a␣␣⏎␣␣⏎b */ rest  ──▸  /* a␣␣⏎⏎b */ rest

What stands between tokens is skipped whatever it is, so it may change (`skip_relined`).  A comment
in a block ends where it did (`takeBlock_relined`), which matters where it is documentation.
-/

namespace RestLoom.Token

open RestLoom.Text

attribute [local simp] takeBlock takeLine skip separates returnsEndLines

variable {z cs r held : List Char} {s : Option (List Char)} {c : Char}

/-- What begins with ink when its lines are written again began with that ink. -/
theorem exists_of_relined_eq_cons {y : List Char} (h : relined z none cs = c :: y)
    (hc : isBlank c = false) : ∃ cs', cs = c :: cs' ∧ y = relined z none cs' := by
  have hhead := (head?_relined (z := z) hc cs).mp (by rw [h, List.head?_cons])
  obtain ⟨cs', rfl⟩ := List.head?_eq_some_iff.mp hhead
  rw [relined_none_cons (.of_ink hc), List.cons.injEq] at h
  exact ⟨cs', rfl, h.2.symm⟩

/-! ## Openers -/

/-- The comment that starts somewhere, with another text after its opener. -/
def CommentStart.onto (f : List Char → List Char) : CommentStart → CommentStart
  | plainLine rest => .plainLine (f rest)
  | plainBlock rest => .plainBlock (f rest)
  | docLine inner rest => .docLine inner (f rest)
  | docBlock inner rest => .docBlock inner (f rest)

theorem commentStart?_relined (cs : List Char) : commentStart? (relined z none cs) =
    (commentStart? cs).map (·.onto (relined z none)) := by
  have hslash : isBlank '/' = false := by decide
  have hstar : isBlank '*' = false := by decide
  have hbang : isBlank '!' = false := by decide
  have hcons {c : Char} (hc : isBlank c = false) (cs : List Char) :
      relined z none (c :: cs) = c :: relined z none cs := relined_none_cons (.of_ink hc)
  have hother {c : Char} {cs : List Char} (hc : isBlank c = false)
      (h : ∀ cs', cs = c :: cs' → False) (y : List Char) : relined z none cs ≠ c :: y := by
    intro hy
    obtain ⟨cs', rfl, -⟩ := exists_of_relined_eq_cons hy hc
    exact h cs' rfl
  rw [commentStart?.eq_def cs]
  split
  next => rw [hcons hslash, hcons hslash, hcons hslash, hcons hslash]; rfl
  next hline =>
    rw [hcons hslash, hcons hslash, hcons hslash, commentStart?]
    · rfl
    · exact fun y hy => hother hslash hline y hy
  next => rw [hcons hslash, hcons hslash, hcons hbang]; rfl
  next _ hline hinner =>
    rw [hcons hslash, hcons hslash, commentStart?]
    · rfl
    · exact fun y hy => hother hslash hline _ hy
    · exact fun y hy => hother hslash hline y hy
    · exact fun y hy => hother hbang hinner y hy
  next => rw [hcons hslash, hcons hstar, hcons hstar, hcons hslash]; rfl
  next => rw [hcons hslash, hcons hstar, hcons hstar, hcons hstar]; rfl
  next hend hstars =>
    rw [hcons hslash, hcons hstar, hcons hstar, commentStart?]
    · rfl
    · exact fun y hy => hother hslash hend y hy
    · exact fun y hy => hother hstar hstars y hy
  next => rw [hcons hslash, hcons hstar, hcons hbang]; rfl
  next _ _ hstars hinner =>
    rw [hcons hslash, hcons hstar, commentStart?]
    · rfl
    · exact fun y hy => hother hstar hstars _ hy
    · exact fun y hy => hother hstar hstars _ hy
    · exact fun y hy => hother hstar hstars y hy
    · exact fun y hy => hother hbang hinner y hy
  next _ _ _ hline _ _ _ _ hblock =>
    rw [Option.map_none, commentStart?.eq_def]
    split
    any_goals rfl
    all_goals
      rename_i heq
      obtain ⟨cs', rfl, hrest⟩ := exists_of_relined_eq_cons heq hslash
      first
        | exact absurd hrest.symm (hother hslash (fun cs'' h => hline cs'' (by rw [h])) _)
        | exact absurd hrest.symm (hother hstar (fun cs'' h => hblock cs'' (by rw [h])) _)

/-! ## Blocks -/

/-- A character of a block that neither opens nor closes one. -/
theorem takeBlock_cons {depth : Nat} (hopen : c = '/' → cs.head? ≠ some '*')
    (hclose : c = '*' → cs.head? ≠ some '/') : takeBlock depth (c :: cs) =
      (takeBlock depth cs).map fun v => (c :: v.1, v.2) := by
  rw [takeBlock]
  · cases takeBlock depth cs <;> rfl
  · exact fun cs' hc hcs => hopen hc (by rw [hcs, List.head?_cons])
  · exact fun cs' _ hc hcs => hclose hc (by rw [hcs, List.head?_cons])
  · exact fun _ cs' _ hc hcs => hclose hc (by rw [hcs, List.head?_cons])

theorem takeBlock_open (depth : Nat) (cs : List Char) : takeBlock depth ('/' :: '*' :: cs) =
    (takeBlock (depth + 1) cs).map fun v => ('/' :: '*' :: v.1, v.2) := by
  rw [takeBlock]
  cases takeBlock (depth + 1) cs <;> rfl

theorem takeBlock_close (depth : Nat) (cs : List Char) : takeBlock (depth + 1) ('*' :: '/' :: cs) =
    (takeBlock depth cs).map fun v => ('*' :: '/' :: v.1, v.2) := by
  rw [takeBlock]
  cases takeBlock depth cs <;> rfl

/-- A block is a stretch of the text, and its end stands at the end. -/
theorem append_of_takeBlock {depth : Nat} {body : List Char}
    (h : takeBlock depth cs = some (body, r)) : cs = body ++ r ∧ ∃ v, body = v ++ ['*', '/'] := by
  fun_induction takeBlock depth cs generalizing body with
  | case1 depth cs ih | case3 depth cs ih =>
    obtain ⟨⟨body, r⟩, hbody, h⟩ := Option.bind_eq_some_iff.mp h
    obtain ⟨rfl, rfl⟩ := Prod.mk.inj (Option.some.inj h)
    obtain ⟨rfl, v, rfl⟩ := ih hbody
    exact ⟨rfl, _ :: _ :: v, rfl⟩
  | case4 depth c cs _ _ _ ih =>
    obtain ⟨⟨body, r⟩, hbody, h⟩ := Option.bind_eq_some_iff.mp h
    obtain ⟨rfl, rfl⟩ := Prod.mk.inj (Option.some.inj h)
    obtain ⟨rfl, v, rfl⟩ := ih hbody
    exact ⟨rfl, c :: v, rfl⟩
  | case2 cs =>
    obtain ⟨rfl, rfl⟩ := Prod.mk.inj (Option.some.inj h)
    exact ⟨rfl, [], rfl⟩
  | case5 => cases h

/-- Blanks in front are part of a block. -/
theorem takeBlock_append_of_blank {depth : Nat} (h : ∀ c ∈ held, isBlank c = true) :
    takeBlock depth (held ++ cs) = (takeBlock depth cs).map fun v => (held ++ v.1, v.2) := by
  induction held with
  | nil => cases h : takeBlock depth cs <;> simp [h]
  | cons c held ih =>
    rw [List.forall_mem_cons] at h
    rw [List.cons_append, takeBlock_cons, ih h.2, Option.map_map]
    · rfl
    · rintro rfl
      exact absurd h.1 (by decide)
    · rintro rfl
      exact absurd h.1 (by decide)

/-- Blanks that are held back belong to the block. -/
def HeldBlank (s : Option (List Char)) : Prop := ∀ held ∈ s, ∀ c ∈ held, isBlank c = true

theorem heldBlank_none : HeldBlank none := fun _ h => nomatch h

theorem heldBlank_nil : HeldBlank (some []) :=
  fun _ h => Option.some.inj h ▸ List.forall_mem_nil _

/-- A block that begins with ink lets out the blanks in front of it. -/
theorem takeBlock_relined_ink {depth : Nat} {body : List Char} (hs : HeldBlank s)
    (hc : isBlank c = false) (h : takeBlock depth (relined z none (c :: cs)) =
      some (recut none (c :: body), r)) :
    takeBlock depth (relined z s (c :: cs)) = some (recut s (c :: body), r) := by
  cases s with
  | none => exact h
  | some held =>
    rw [relined_some_ink hc, recut_some_ink hc, takeBlock_append_of_blank (hs held rfl), h,
      Option.map_some]

/-- **A block** ends where it did when its lines are written again. -/
theorem takeBlock_relined {depth : Nat} {body : List Char}
    (h : takeBlock depth cs = some (body, r)) (hs : HeldBlank s) :
    takeBlock depth (relined z s cs) = some (recut s body, relined z none r) := by
  fun_induction takeBlock depth cs generalizing body s with
  | case1 depth cs ih =>
    obtain ⟨⟨body, r⟩, hbody, h⟩ := Option.bind_eq_some_iff.mp h
    obtain ⟨rfl, rfl⟩ := Prod.mk.inj (Option.some.inj h)
    refine takeBlock_relined_ink hs (by decide) ?_
    rw [relined_none_cons (.of_ink (by decide)), relined_none_cons (.of_ink (by decide)),
      recut_none_cons (.of_ink (by decide)), recut_none_cons (.of_ink (by decide)),
      takeBlock_open, ih hbody heldBlank_none, Option.map_some]
  | case2 cs =>
    obtain ⟨rfl, rfl⟩ := Prod.mk.inj (Option.some.inj h)
    refine takeBlock_relined_ink hs (by decide) ?_
    rw [relined_none_cons (.of_ink (by decide)), relined_none_cons (.of_ink (by decide))]
    rfl
  | case3 depth cs ih =>
    obtain ⟨⟨body, r⟩, hbody, h⟩ := Option.bind_eq_some_iff.mp h
    obtain ⟨rfl, rfl⟩ := Prod.mk.inj (Option.some.inj h)
    refine takeBlock_relined_ink hs (by decide) ?_
    rw [relined_none_cons (.of_ink (by decide)), relined_none_cons (.of_ink (by decide)),
      recut_none_cons (.of_ink (by decide)), recut_none_cons (.of_ink (by decide)),
      takeBlock_close, ih hbody heldBlank_none, Option.map_some]
  | case4 depth c cs hopen hclose hclose' ih =>
    obtain ⟨⟨body, r⟩, hbody, h⟩ := Option.bind_eq_some_iff.mp h
    obtain ⟨rfl, rfl⟩ := Prod.mk.inj (Option.some.inj h)
    have ih := fun {s} hs => ih (s := s) hbody hs
    cases hc : isBlank c with
    | false =>
      refine takeBlock_relined_ink hs hc ?_
      rw [relined_none_cons (.of_ink hc), recut_none_cons (.of_ink hc), takeBlock_cons,
        ih heldBlank_none, Option.map_some]
      · intro hslash hhead
        obtain ⟨cs', rfl⟩ := List.head?_eq_some_iff.mp ((head?_relined (by decide) cs).mp hhead)
        exact hopen cs' hslash rfl
      · intro hstar hhead
        obtain ⟨cs', rfl⟩ := List.head?_eq_some_iff.mp ((head?_relined (by decide) cs).mp hhead)
        cases depth with
        | zero => exact hclose cs' rfl hstar rfl
        | succ depth => exact hclose' depth cs' rfl hstar rfl
    | true =>
      have hne {d : Char} (hd : isBlank d = false) : c ≠ d := by
        rintro rfl
        rw [hc] at hd
        cases hd
      have hcons (cs : List Char) : takeBlock depth (c :: cs) =
          (takeBlock depth cs).map fun v => (c :: v.1, v.2) :=
        takeBlock_cons (fun h => absurd h (hne (by decide))) (fun h => absurd h (hne (by decide)))
      obtain ⟨happend, v, hv⟩ := append_of_takeBlock hbody
      have hhead : cs.head? = body.head? := by
        rw [happend, hv]
        cases v <;> rfl
      by_cases hinside : Inside c cs
      · have hinside' : Inside c body := ⟨hinside.1, fun h => hhead ▸ hinside.2 h⟩
        cases s with
        | none =>
          rw [relined_none_cons hinside, recut_none_cons hinside', hcons, ih heldBlank_none,
            Option.map_some]
        | some held =>
          rw [relined_some_blank hinside hc, recut_some_blank hinside' hc]
          exact ih fun held' hheld' => Option.some.inj hheld' ▸ List.forall_mem_append.mpr
            ⟨hs held rfl, List.forall_mem_singleton.mpr hc⟩
      · by_cases hfeed : c = '\n'
        · subst hfeed
          rw [relined_feed, recut_feed, hcons, ih heldBlank_nil, Option.map_some]
        · have hreturn : c = '\r' ∧ cs.head? = some '\n' := by
            by_contra hnot
            exact hinside ⟨hfeed, fun h hhead => hnot ⟨h, hhead⟩⟩
          obtain ⟨rfl, hfirst⟩ := hreturn
          obtain ⟨cs, rfl⟩ := List.head?_eq_some_iff.mp hfirst
          obtain ⟨body, rfl⟩ := List.head?_eq_some_iff.mp (hhead.symm.trans hfirst)
          rw [relined_return_feed, recut_return_feed, ← relined_feed (s := s), ← recut_feed (s := s)]
          exact ih hs
  | case5 => cases h

/-! ## Lines -/

theorem takeLine_cons (h : Inside c cs) :
    takeLine (c :: cs) = (c :: (takeLine cs).1, (takeLine cs).2) := by
  rw [takeLine]
  · exact h.1
  · rintro cs' rfl rfl
    exact h.2 rfl rfl

theorem takeLine_suffix (cs : List Char) : (takeLine cs).2 <:+ cs := by
  induction cs using line_induction with
  | nil => exact List.suffix_refl []
  | feed cs => exact List.suffix_refl _
  | return_feed cs => exact List.suffix_refl _
  | inside c cs h ih =>
    rw [takeLine_cons h]
    exact ih.trans (List.suffix_cons c cs)

/-- **A line** ends where it did when it is written again, unless it ends in a carriage return,
which then becomes part of its end. -/
theorem takeLine_relined (cs : List Char) :
    takeLine (relined z none cs) = ((takeLine cs).1, relined z none (takeLine cs).2) ∨
      ∃ l, (takeLine cs).1 = l ++ ['\r'] ∧
        takeLine (relined z none cs) = (l, '\r' :: relined z none (takeLine cs).2) := by
  induction cs using line_induction with
  | nil =>
    rw [relined_nil]
    exact .inl rfl
  | feed cs =>
    rw [relined_feed]
    exact .inl (by rw [takeLine, takeLine, relined_feed])
  | return_feed cs =>
    rw [relined_return_feed]
    exact .inl (by rw [takeLine, takeLine, relined_return_feed])
  | inside c cs h ih =>
    rw [relined_none_cons h, takeLine_cons h]
    by_cases hinside : Inside c (relined z none cs)
    · rw [takeLine_cons hinside]
      obtain ih | ⟨l, hl, ih⟩ := ih
      · exact .inl (by rw [ih])
      · exact .inr ⟨c :: l, by rw [hl, List.cons_append], by rw [ih]⟩
    · have hreturn : c = '\r' ∧ (relined z none cs).head? = some '\n' := by
        by_contra hnot
        exact hinside ⟨h.1, fun hc hhead => hnot ⟨hc, hhead⟩⟩
      obtain ⟨rfl, hhead⟩ := hreturn
      obtain ⟨y, hy⟩ := List.head?_eq_some_iff.mp hhead
      have hline : takeLine cs = ([], cs) := by
        obtain rfl | ⟨cs, rfl⟩ | ⟨cs, rfl⟩ | ⟨d, cs, rfl, hd⟩ := line_cases cs
        · rfl
        · rfl
        · rfl
        · rw [relined_none_cons hd, List.cons.injEq] at hy
          exact absurd hy.1 hd.1
      refine .inr ⟨[], by rw [hline, List.nil_append], ?_⟩
      rw [hline, hy]
      rfl

theorem returnsEndLines_cons (h : c ≠ '\r') (cs : List Char) :
    returnsEndLines (c :: cs) = returnsEndLines cs := by
  rw [returnsEndLines]
  · rintro cs' rfl
    exact absurd rfl h
  · exact h

/-- A carriage return at the end of a text ends no line. -/
theorem returnsEndLines_concat (l : List Char) : returnsEndLines (l ++ ['\r']) = false := by
  induction l using line_induction with
  | nil => rfl
  | feed l ih => rwa [List.cons_append, returnsEndLines_cons (by decide)]
  | return_feed l ih => exact ih
  | inside c l h ih =>
    by_cases hc : c = '\r'
    · subst hc
      rw [List.cons_append, returnsEndLines]
      rintro cs hcs
      cases l with
      | nil => cases hcs
      | cons d l => exact h.2 rfl (by rw [(List.cons.inj hcs).1, List.head?_cons])
    · rwa [List.cons_append, returnsEndLines_cons hc]

theorem returnsEndLines_of_not_mem (h : '\r' ∉ cs) : returnsEndLines cs = true := by
  induction cs with
  | nil => rfl
  | cons c cs ih =>
    rw [List.mem_cons, not_or] at h
    rw [returnsEndLines_cons (Ne.symm h.1), ih h.2]

/-- Lines that end in carriage returns only lose them all when they are written again. -/
theorem return_not_mem_recut (h : returnsEndLines cs = true) (hs : ∀ held ∈ s, '\r' ∉ held)
    (hc : isBlank c = false) : '\r' ∉ recut s (cs ++ [c]) := by
  have hne : '\r' ≠ c := by
    rintro rfl
    exact absurd hc (by decide)
  have hnil : ∀ held ∈ some [], '\r' ∉ held := fun _ h => Option.some.inj h ▸ List.not_mem_nil
  induction cs using line_induction generalizing s with
  | nil =>
    cases s with
    | none => simpa [recut_none_cons (.of_ink hc)] using hne
    | some held =>
      rw [List.nil_append, recut_some_ink hc]
      simpa [recut_none_cons (.of_ink hc), hne] using hs held rfl
  | feed cs ih =>
    rw [returnsEndLines_cons (by decide)] at h
    rw [List.cons_append, recut_feed, List.mem_cons, not_or]
    exact ⟨by decide, ih h hnil⟩
  | return_feed cs ih =>
    rw [returnsEndLines] at h
    rw [List.cons_append, List.cons_append, recut_return_feed, List.mem_cons, not_or]
    exact ⟨by decide, ih h hnil⟩
  | inside d cs hd ih =>
    have hreturn : d ≠ '\r' := by
      rintro rfl
      rw [returnsEndLines] at h
      · cases h
      · rintro cs' rfl
        exact hd.2 rfl rfl
    rw [returnsEndLines_cons hreturn] at h
    rw [List.cons_append]
    cases s with
    | none =>
      rw [recut_none_cons (hd.append_ink hc), List.mem_cons, not_or]
      exact ⟨hreturn.symm, ih h hs⟩
    | some held =>
      rw [recut_some_cons (hd.append_ink hc)]
      split
      · refine ih h fun held' hheld' => Option.some.inj hheld' ▸ ?_
        rw [List.mem_append, List.mem_singleton, not_or]
        exact ⟨hs held rfl, hreturn.symm⟩
      · rw [List.mem_append, List.mem_cons, not_or, not_or]
        exact ⟨hs held rfl, hreturn.symm, ih h fun _ h => nomatch h⟩

/-! ## Skipping

`skipOnce?` is one step of `skip`; it leaves less of the text, so the number of steps never
shows. -/

/-- What follows the blank or the plain comment at the start. -/
def skipOnce? (cs : List Char) : Option (List Char) :=
  match commentStart? cs with
  | some (.plainLine rest) => some (takeLine rest).2
  | some (.plainBlock rest) => (takeBlock 0 rest).map (·.2)
  | some _ => none
  | none =>
    match cs with
    | c :: rest => if separates c then some rest else none
    | [] => none

/-- The text after the opener of a comment. -/
def CommentStart.rest : CommentStart → List Char
  | plainLine rest => rest
  | plainBlock rest => rest
  | docLine _ rest => rest
  | docBlock _ rest => rest

theorem length_commentStart? {start : CommentStart} (h : commentStart? cs = some start) :
    start.rest.length < cs.length := by
  rw [commentStart?.eq_def] at h
  split at h
  case h_10 => cases h
  all_goals
    rw [← Option.some.inj h]
    simp only [CommentStart.rest, List.length_cons]
    omega

theorem length_skipOnce? (h : skipOnce? cs = some r) : r.length < cs.length := by
  unfold skipOnce? at h
  split at h
  next rest hstart =>
    rw [← Option.some.inj h]
    exact Nat.lt_of_le_of_lt (takeLine_suffix rest).length_le (length_commentStart? hstart)
  next rest hstart =>
    obtain ⟨⟨body, r'⟩, hblock, rfl⟩ := Option.map_eq_some_iff.mp h
    have hlength : rest.length < cs.length := length_commentStart? hstart
    rw [(append_of_takeBlock hblock).1, List.length_append] at hlength
    exact Nat.lt_of_le_of_lt (Nat.le_add_left _ _) hlength
  next => cases h
  next =>
    split at h
    · split at h
      · rw [← Option.some.inj h]
        exact Nat.lt_succ_self _
      · cases h
    · cases h

theorem skipUpTo_succ (fuel : Nat) (cs : List Char) :
    skipUpTo (fuel + 1) cs = (skipOnce? cs).elim cs (skipUpTo fuel) := by
  rw [skipUpTo.eq_def, skipOnce?.eq_def]
  dsimp only
  cases commentStart? cs with
  | none =>
    dsimp only
    cases cs with
    | nil => rfl
    | cons c cs =>
      dsimp only
      split <;> rfl
  | some start =>
    cases start with
    | plainLine rest => rfl
    | plainBlock rest =>
      dsimp only
      cases takeBlock 0 rest <;> rfl
    | docLine inner rest => rfl
    | docBlock inner rest => rfl

theorem skipUpTo_eq {fuel : Nat} (h : cs.length ≤ fuel) : skipUpTo fuel cs = skip cs := by
  have hmore (n m : Nat) (cs : List Char) (hn : cs.length ≤ n) (hm : cs.length ≤ m) :
      skipUpTo n cs = skipUpTo m cs := by
    induction n generalizing m cs with
    | zero =>
      obtain rfl := List.eq_nil_of_length_eq_zero (Nat.le_zero.mp hn)
      cases m <;> rfl
    | succ n ih =>
      cases m with
      | zero =>
        obtain rfl := List.eq_nil_of_length_eq_zero (Nat.le_zero.mp hm)
        rfl
      | succ m =>
        rw [skipUpTo_succ, skipUpTo_succ]
        cases hstep : skipOnce? cs with
        | none => rfl
        | some r =>
          have hlength := length_skipOnce? hstep
          exact ih m r (by omega) (by omega)
  exact hmore fuel cs.length cs h le_rfl

/-- **Skipping** is one step after the other. -/
theorem skip_eq (cs : List Char) : skip cs = (skipOnce? cs).elim cs skip := by
  cases hstep : skipOnce? cs with
  | none =>
    rw [skip]
    cases cs with
    | nil => rfl
    | cons c cs => rw [List.length_cons, skipUpTo_succ, hstep]; rfl
  | some r =>
    have hlength := length_skipOnce? hstep
    obtain ⟨fuel, hfuel⟩ := Nat.exists_eq_succ_of_ne_zero (Nat.ne_zero_of_lt hlength)
    rw [skip, hfuel, skipUpTo_succ, hstep]
    exact skipUpTo_eq (by omega)

theorem skip_of_none (h : skipOnce? cs = none) : skip cs = cs := by
  rw [skip_eq, h, Option.elim_none]

theorem skip_of_some (h : skipOnce? cs = some r) : skip cs = skip r := by
  rw [skip_eq, h, Option.elim_some]

/-- Nothing can be skipped after skipping. -/
theorem skipOnce?_skip (cs : List Char) : skipOnce? (skip cs) = none := by
  induction hn : cs.length using Nat.strongRecOn generalizing cs with
  | _ n ih =>
    cases hstep : skipOnce? cs with
    | none => rw [skip_of_none hstep, hstep]
    | some r =>
      rw [skip_of_some hstep]
      exact ih r.length (hn ▸ length_skipOnce? hstep) r rfl

theorem commentStart?_of_ne (h : c ≠ '/') (cs : List Char) : commentStart? (c :: cs) = none := by
  rw [commentStart?.eq_def]
  split
  case h_10 => rfl
  all_goals
    rename_i heq
    exact absurd (List.cons.inj heq).1 h

theorem skipOnce?_separator (h : separates c = true) (cs : List Char) :
    skipOnce? (c :: cs) = some cs := by
  have hslash : c ≠ '/' := by
    rintro rfl
    exact absurd h (by decide)
  unfold skipOnce?
  rw [commentStart?_of_ne hslash]
  exact if_pos h

theorem separates_of_isBlank (h : isBlank c = true) : separates c = true := by
  rw [separates, h, Bool.true_or, Bool.true_or]

theorem skip_append_of_blank (h : ∀ c ∈ held, isBlank c = true) :
    skip (held ++ cs) = skip cs := by
  induction held with
  | nil => rfl
  | cons c held ih =>
    rw [List.forall_mem_cons] at h
    rw [List.cons_append, skip_of_some (skipOnce?_separator (separates_of_isBlank h.1) _), ih h.2]

/-- Ink is found behind the blanks in front of it. -/
theorem skip_relined_ink (hs : HeldBlank s) (hc : isBlank c = false) :
    skip (relined z s (c :: cs)) = skip (relined z none (c :: cs)) := by
  cases s with
  | none => rfl
  | some held => rw [relined_some_ink hc, skip_append_of_blank (hs held rfl)]

theorem isBlank_of_commentStart? {start : CommentStart} (h : commentStart? (c :: cs) = some start) :
    isBlank c = false := by
  by_cases hslash : c = '/'
  · rw [hslash]
    decide
  · rw [commentStart?_of_ne hslash] at h
    cases h

/-- A step of skipping is one on lines that are written again, or was lost with a blank line. -/
theorem skipOnce?_relined (h : skipOnce? cs = some r) (hs : HeldBlank s) :
    ∃ s', HeldBlank s' ∧ skip (relined z s cs) = skip (relined z s' r) := by
  cases cs with
  | nil => cases h
  | cons c cs =>
    have hstart := commentStart?_relined (z := z) (c :: cs)
    unfold skipOnce? at h
    split at h
    next rest heq =>
      rw [← Option.some.inj h]
      refine ⟨none, heldBlank_none, ?_⟩
      rw [heq] at hstart
      rw [skip_relined_ink hs (isBlank_of_commentStart? heq)]
      have honce : skipOnce? (relined z none (c :: cs)) =
          some (takeLine (relined z none rest)).2 := by
        unfold skipOnce?
        rw [hstart]
        rfl
      rw [skip_of_some honce]
      obtain hline | ⟨l, -, hline⟩ := takeLine_relined (z := z) rest
      · rw [hline]
      · rw [hline, skip_of_some (skipOnce?_separator (by decide) _)]
    next rest heq =>
      obtain ⟨⟨body, r'⟩, hblock, rfl⟩ := Option.map_eq_some_iff.mp h
      refine ⟨none, heldBlank_none, ?_⟩
      rw [heq] at hstart
      rw [skip_relined_ink hs (isBlank_of_commentStart? heq)]
      refine skip_of_some ?_
      unfold skipOnce?
      rw [hstart]
      dsimp only [Option.map_some, CommentStart.onto]
      rw [takeBlock_relined hblock heldBlank_none]
      rfl
    next => cases h
    next =>
      split at h
      next c cs heq =>
        obtain ⟨rfl, rfl⟩ := List.cons.inj heq
        split at h
        next hseparates =>
          rw [← Option.some.inj h]
          by_cases hinside : Inside c cs
          · cases hc : isBlank c with
            | false =>
              refine ⟨none, heldBlank_none, ?_⟩
              rw [skip_relined_ink hs hc, relined_none_cons hinside]
              exact skip_of_some (skipOnce?_separator hseparates _)
            | true =>
              cases s with
              | none =>
                refine ⟨none, heldBlank_none, ?_⟩
                rw [relined_none_cons hinside]
                exact skip_of_some (skipOnce?_separator hseparates _)
              | some held =>
                refine ⟨some (held ++ [c]), fun held' hheld' => Option.some.inj hheld' ▸ ?_, ?_⟩
                · exact List.forall_mem_append.mpr
                    ⟨hs held rfl, List.forall_mem_singleton.mpr hc⟩
                · rw [relined_some_blank hinside hc]
          · by_cases hfeed : c = '\n'
            · refine ⟨some [], heldBlank_nil, ?_⟩
              rw [hfeed, relined_feed]
              exact skip_of_some (skipOnce?_separator (by decide) _)
            · have hreturn : c = '\r' ∧ cs.head? = some '\n' := by
                by_contra hnot
                exact hinside ⟨hfeed, fun h hhead => hnot ⟨h, hhead⟩⟩
              obtain ⟨rfl, hfirst⟩ := hreturn
              obtain ⟨cs, rfl⟩ := List.head?_eq_some_iff.mp hfirst
              exact ⟨s, hs, by rw [relined_return_feed, relined_feed]⟩
        next => cases h
      next => cases h

/-- Skipping stops at ink. -/
theorem ink_of_skipOnce? (h : skipOnce? (c :: cs) = none) : isBlank c = false := by
  cases hc : isBlank c with
  | false => rfl
  | true =>
    rw [skipOnce?_separator (separates_of_isBlank hc)] at h
    cases h

/-- **What stands between tokens** is skipped on lines that are written again too. -/
theorem skip_relined (hs : HeldBlank s) :
    skip (relined z s cs) = skip (relined z none (skip cs)) := by
  induction hn : cs.length using Nat.strongRecOn generalizing cs s with
  | _ n ih =>
    cases hstep : skipOnce? cs with
    | none =>
      rw [skip_of_none hstep]
      cases cs with
      | nil => rw [relined_nil, relined_nil]
      | cons c cs => exact skip_relined_ink hs (ink_of_skipOnce? hstep)
    | some r =>
      obtain ⟨s', hs', heq⟩ := skipOnce?_relined (z := z) hstep hs
      rw [heq, skip_of_some hstep]
      exact ih r.length (hn ▸ length_skipOnce? hstep) hs' rfl

end RestLoom.Token
