import Mathlib.Data.List.Basic
import RestLoom.Proofs.Text.Lines

/-!
# Proofs/Text/Recut — what cutting a text into lines does to it

    let s = "a␣␣⏎␣␣⏎b";  ──recut──▸  let s = "a␣␣⏎⏎b";

A text that is cut into lines and written again loses the blanks of its blank lines and the carriage
returns at its line ends, wherever they stand.  `recut` does this one character after the other,
holding back the blanks that a line begins with; it changes a stretch of text exactly if the stretch
is *torn* (`recut_eq_self_iff`).
-/

namespace RestLoom.Text

/-! ## Ink and gaps -/

/-- No character is blank. -/
def Ink (w : List Char) : Prop := ∀ c ∈ w, isBlank c = false

instance (w : List Char) : Decidable (Ink w) :=
  decidable_of_iff (w.all (!isBlank ·) = true) <| by
    simp only [List.all_eq_true, Bool.not_eq_true', Ink]

/-- A text that is empty or begins with a blank. -/
def Gap (b : List Char) : Prop := ∀ c ∈ b.head?, isBlank c = true

theorem Ink.nil : Ink [] := List.forall_mem_nil _

theorem ink_cons {c : Char} {w : List Char} : Ink (c :: w) ↔ isBlank c = false ∧ Ink w :=
  List.forall_mem_cons

theorem ink_append {v w : List Char} : Ink (v ++ w) ↔ Ink v ∧ Ink w := List.forall_mem_append

theorem Ink.of_suffix {v w : List Char} (h : Ink w) (hs : v <:+ w) : Ink v :=
  fun c hc => h c (hs.subset hc)

theorem gap_cons {c : Char} {b : List Char} : Gap (c :: b) ↔ isBlank c = true := by
  simp [Gap]

/-- A gap is empty, or a blank and what follows it. -/
theorem Gap.eq_nil_or {b : List Char} (h : Gap b) :
    b = [] ∨ ∃ c b', b = c :: b' ∧ isBlank c = true := by
  cases b with
  | nil => exact .inl rfl
  | cons c b => exact .inr ⟨c, b, rfl, gap_cons.mp h⟩

/-- A text begins with ink, up to its first blank. -/
theorem exists_ink_append (cs : List Char) : ∃ w b, Ink w ∧ Gap b ∧ cs = w ++ b := by
  refine ⟨cs.takeWhile (!isBlank ·), cs.dropWhile (!isBlank ·), fun c hc => ?_, fun c hc => ?_,
    List.takeWhile_append_dropWhile.symm⟩
  · have hnot := List.mem_takeWhile_imp hc
    rwa [Bool.not_eq_true'] at hnot
  · have hnot := List.head?_dropWhile_not (!isBlank ·) cs
    rw [Option.mem_def.mp hc] at hnot
    simpa using hnot

/-- Whether ink stands right before the rest of a text. -/
def EndsInk (cs r : List Char) : Prop := ∃ v c, isBlank c = false ∧ cs = v ++ c :: r

theorem EndsInk.of_ink {w : List Char} (h : Ink w) (hne : w ≠ []) (r : List Char) :
    EndsInk (w ++ r) r := by
  obtain ⟨v, c, rfl⟩ := List.eq_nil_or_concat w |>.resolve_left hne
  refine ⟨v, c, h c ?_, ?_⟩
  · rw [List.concat_eq_append]
    exact List.mem_append_right v (List.mem_singleton_self c)
  · rw [List.concat_eq_append, List.append_assoc, List.singleton_append]

theorem EndsInk.of_suffix {cs cs' r : List Char} (h : EndsInk cs' r) (hs : cs' <:+ cs) :
    EndsInk cs r := by
  obtain ⟨v, c, hc, rfl⟩ := h
  obtain ⟨u, rfl⟩ := hs
  exact ⟨u ++ v, c, hc, (List.append_assoc u v (c :: r)).symm⟩

/-! ## Writing lines again -/

/-- A text with its blank lines emptied and its line ends made line feeds.  `held` are the blanks
that the line at hand begins with; `none` says that more than blanks stand on it. -/
def recut : Option (List Char) → List Char → List Char
  | _, [] => []
  | _, '\r' :: '\n' :: cs => '\n' :: recut (some []) cs
  | _, '\n' :: cs => '\n' :: recut (some []) cs
  | none, c :: cs => c :: recut none cs
  | some held, c :: cs =>
    if isBlank c then recut (some (held ++ [c])) cs else held ++ c :: recut none cs

/-- Whether no line ends with the character, given what follows it. -/
def Inside (c : Char) (cs : List Char) : Prop := c ≠ '\n' ∧ (c = '\r' → cs.head? ≠ some '\n')

variable {s : Option (List Char)} {held : List Char} {c : Char} {cs : List Char}

theorem Inside.of_ink (h : isBlank c = false) : Inside c cs := by
  constructor
  · rintro rfl
    exact absurd h (by decide)
  · rintro rfl
    exact absurd h (by decide)

@[simp] theorem recut_nil : recut s [] = [] := by cases s <;> rfl

@[simp] theorem recut_feed : recut s ('\n' :: cs) = '\n' :: recut (some []) cs := by
  cases s <;> rfl

@[simp] theorem recut_return_feed :
    recut s ('\r' :: '\n' :: cs) = '\n' :: recut (some []) cs := by
  cases s <;> rfl

theorem recut_none_cons (h : Inside c cs) : recut none (c :: cs) = c :: recut none cs := by
  rw [recut]
  · rintro cs' rfl rfl
    exact h.2 rfl rfl
  · rintro rfl
    exact h.1 rfl

theorem recut_some_cons (h : Inside c cs) : recut (some held) (c :: cs) =
    if isBlank c then recut (some (held ++ [c])) cs else held ++ c :: recut none cs := by
  rw [recut]
  · rintro cs' rfl rfl
    exact h.2 rfl rfl
  · rintro rfl
    exact h.1 rfl

/-- How a text can begin: with a line end of either kind, or inside a line. -/
theorem line_cases (cs : List Char) : cs = [] ∨ (∃ cs', cs = '\n' :: cs') ∨
    (∃ cs', cs = '\r' :: '\n' :: cs') ∨ ∃ c cs', cs = c :: cs' ∧ Inside c cs' := by
  cases cs with
  | nil => exact .inl rfl
  | cons c cs =>
    by_cases hfeed : c = '\n'
    · subst hfeed
      exact .inr (.inl ⟨cs, rfl⟩)
    · by_cases hreturn : c = '\r' ∧ cs.head? = some '\n'
      · obtain ⟨rfl, hhead⟩ := hreturn
        cases cs with
        | nil => exact absurd hhead (by decide)
        | cons d cs =>
          obtain rfl := Option.some.inj hhead
          exact .inr (.inr (.inl ⟨cs, rfl⟩))
      · exact .inr (.inr (.inr ⟨c, cs, rfl, hfeed, fun h hhead => hreturn ⟨h, hhead⟩⟩))

/-- Induction on a text by its line ends. -/
@[elab_as_elim]
theorem line_induction {P : List Char → Prop} (nil : P []) (feed : ∀ cs, P cs → P ('\n' :: cs))
    (return_feed : ∀ cs, P cs → P ('\r' :: '\n' :: cs))
    (inside : ∀ c cs, Inside c cs → P cs → P (c :: cs)) (cs : List Char) : P cs := by
  obtain rfl | ⟨cs', rfl⟩ | ⟨cs', rfl⟩ | ⟨c, cs', rfl, hc⟩ := line_cases cs
  · exact nil
  · exact feed cs' (line_induction nil feed return_feed inside cs')
  · exact return_feed cs' (line_induction nil feed return_feed inside cs')
  · exact inside c cs' hc (line_induction nil feed return_feed inside cs')
termination_by cs.length

/-! ## Lines -/

theorem lines_cons_of_inside (h : Inside c cs) : lines (c :: cs) =
    match lines cs with
    | [] => [[c]]
    | l :: ls => (c :: l) :: ls := by
  rw [lines.eq_def]
  split
  next heq => cases heq
  next heq => exact absurd (List.cons.inj heq).1 h.1
  next heq =>
    obtain ⟨rfl, rfl⟩ := List.cons.inj heq
    exact absurd rfl (h.2 rfl)
  next heq =>
    obtain ⟨rfl, rfl⟩ := List.cons.inj heq
    rfl

/-- A text without a line feed is one line. -/
theorem lines_singleton {l : List Char} (hne : l ≠ []) (h : '\n' ∉ l) : lines l = [l] := by
  induction l with
  | nil => exact absurd rfl hne
  | cons c cs ih =>
    rw [List.mem_cons, not_or] at h
    have hinside : Inside c cs :=
      ⟨fun hc => h.1 hc.symm, fun _ hcs => h.2 (List.mem_of_mem_head? hcs)⟩
    rw [lines_cons_of_inside hinside]
    by_cases hcs : cs = []
    · subst hcs
      rfl
    · rw [ih hcs h.2]

/-- **No line goes on** over a line feed. -/
theorem unbroken_of_mem_lines {text : List Char} {l : List Char} (h : l ∈ lines text) : '\n' ∉ l := by
  induction text using line_induction generalizing l with
  | nil => cases h
  | feed cs ih =>
    obtain rfl | h := List.mem_cons.mp h
    · exact List.not_mem_nil
    · exact ih h
  | return_feed cs ih =>
    obtain rfl | h := List.mem_cons.mp h
    · exact List.not_mem_nil
    · exact ih h
  | inside c cs hc ih =>
    rw [lines_cons_of_inside hc] at h
    have hcons {l : List Char} (hl : '\n' ∉ l) : '\n' ∉ c :: l :=
      List.not_mem_cons_of_ne_of_not_mem hc.1.symm hl
    split at h
    · rw [List.mem_singleton.mp h]
      exact hcons List.not_mem_nil
    · next heq =>
      rw [heq] at ih
      obtain rfl | h := List.mem_cons.mp h
      · exact hcons (ih List.mem_cons_self)
      · exact ih (List.mem_cons_of_mem _ h)

/-! ## Ink stays -/

theorem recut_none_append {w : List Char} (h : Ink w) :
    recut none (w ++ cs) = w ++ recut none cs := by
  induction w with
  | nil => rfl
  | cons c w ih =>
    rw [ink_cons] at h
    rw [List.cons_append, recut_none_cons (.of_ink h.1), ih h.2, List.cons_append]

/-- Ink lets out the blanks that were held back. -/
theorem recut_some_ink (h : isBlank c = false) :
    recut (some held) (c :: cs) = held ++ recut none (c :: cs) := by
  rw [recut_some_cons (.of_ink h), recut_none_cons (.of_ink h), h, if_neg Bool.false_ne_true]

theorem recut_some_blank (hc : Inside c cs) (h : isBlank c = true) :
    recut (some held) (c :: cs) = recut (some (held ++ [c])) cs := by
  rw [recut_some_cons hc, if_pos h]

theorem Inside.append_ink {v b : List Char} {d : Char} (h : Inside d v) (hc : isBlank c = false) :
    Inside d (v ++ c :: b) := by
  refine ⟨h.1, fun hd => ?_⟩
  cases v with
  | nil => exact fun hhead => absurd (Option.some.inj hhead ▸ hc) (by decide)
  | cons e v => exact h.2 hd

/-- **After ink** nothing of what came before matters. -/
theorem recut_append_ink (v : List Char) (hc : isBlank c = false) (b : List Char) :
    recut s (v ++ c :: b) = recut s (v ++ [c]) ++ recut none b := by
  induction v using line_induction generalizing s with
  | nil =>
    cases s with
    | none => rw [List.nil_append, List.nil_append, recut_none_cons (.of_ink hc),
        recut_none_cons (.of_ink hc), recut_nil, List.singleton_append]
    | some held =>
      rw [List.nil_append, List.nil_append, recut_some_ink hc, recut_some_ink hc,
        recut_none_cons (.of_ink hc), recut_none_cons (.of_ink hc), recut_nil, List.append_assoc,
        List.singleton_append]
  | feed v ih => rw [List.cons_append, List.cons_append, recut_feed, recut_feed, ih, List.cons_append]
  | return_feed v ih =>
    rw [List.cons_append, List.cons_append, List.cons_append, List.cons_append, recut_return_feed,
      recut_return_feed, ih, List.cons_append]
  | inside d v hd ih =>
    rw [List.cons_append, List.cons_append]
    cases s with
    | none =>
      rw [recut_none_cons (hd.append_ink hc), recut_none_cons (hd.append_ink hc), ih,
        List.cons_append]
    | some held =>
      rw [recut_some_cons (hd.append_ink hc), recut_some_cons (hd.append_ink hc), ih, ih]
      split
      · rfl
      · rw [List.append_assoc, List.cons_append]

/-- Ink at the end stays at the end. -/
theorem exists_recut_concat (v : List Char) (hc : isBlank c = false) :
    ∃ v', recut s (v ++ [c]) = v' ++ [c] := by
  induction v using line_induction generalizing s with
  | nil =>
    have hnone : recut none [c] = [c] := by rw [recut_none_cons (.of_ink hc), recut_nil]
    cases s with
    | none => exact ⟨[], hnone⟩
    | some held => exact ⟨held, by rw [List.nil_append, recut_some_ink hc, hnone]⟩
  | feed v ih =>
    obtain ⟨v', hv'⟩ := ih (s := some [])
    exact ⟨'\n' :: v', by rw [List.cons_append, recut_feed, hv', List.cons_append]⟩
  | return_feed v ih =>
    obtain ⟨v', hv'⟩ := ih (s := some [])
    exact ⟨'\n' :: v', by
      rw [List.cons_append, List.cons_append, recut_return_feed, hv', List.cons_append]⟩
  | inside d v hd ih =>
    rw [List.cons_append]
    cases s with
    | none =>
      obtain ⟨v', hv'⟩ := ih (s := none)
      exact ⟨d :: v', by rw [recut_none_cons (hd.append_ink hc), hv', List.cons_append]⟩
    | some held =>
      rw [recut_some_cons (hd.append_ink hc)]
      split
      · exact ih
      · obtain ⟨v', hv'⟩ := ih (s := none)
        exact ⟨held ++ d :: v', by rw [hv', List.append_assoc, List.cons_append]⟩

/-! ## With more lines behind -/

variable {z : List Char}

/-- A text with its lines written again and the lines `z` after them. -/
def relined (z : List Char) (s : Option (List Char)) (cs : List Char) : List Char :=
  recut s cs ++ '\n' :: z

@[simp] theorem relined_nil : relined z s [] = '\n' :: z := by rw [relined, recut_nil, List.nil_append]

@[simp] theorem relined_feed : relined z s ('\n' :: cs) = '\n' :: relined z (some []) cs := by
  rw [relined, recut_feed, List.cons_append, relined]

@[simp] theorem relined_return_feed :
    relined z s ('\r' :: '\n' :: cs) = '\n' :: relined z (some []) cs := by
  rw [relined, recut_return_feed, List.cons_append, relined]

theorem relined_none_cons (h : Inside c cs) :
    relined z none (c :: cs) = c :: relined z none cs := by
  rw [relined, recut_none_cons h, List.cons_append, relined]

theorem relined_some_blank (hc : Inside c cs) (h : isBlank c = true) :
    relined z (some held) (c :: cs) = relined z (some (held ++ [c])) cs := by
  rw [relined, recut_some_blank hc h, relined]

theorem relined_some_ink (h : isBlank c = false) :
    relined z (some held) (c :: cs) = held ++ relined z none (c :: cs) := by
  rw [relined, recut_some_ink h, List.append_assoc, relined]

theorem relined_none_append {w : List Char} (h : Ink w) :
    relined z none (w ++ cs) = w ++ relined z none cs := by
  rw [relined, recut_none_append h, List.append_assoc, relined]

theorem relined_append_ink (v : List Char) (hc : isBlank c = false) (b : List Char) :
    relined z s (v ++ c :: b) = recut s (v ++ [c]) ++ relined z none b := by
  rw [relined, recut_append_ink v hc, List.append_assoc, relined]

/-- A gap stays a gap. -/
theorem Gap.relined {b : List Char} (h : Gap b) : Gap (relined z none b) := by
  obtain rfl | ⟨b, rfl⟩ | ⟨b, rfl⟩ | ⟨c, b, rfl, hc⟩ := line_cases b
  · rw [relined_nil, gap_cons]
    decide
  · rw [relined_feed, gap_cons]
    decide
  · rw [relined_return_feed, gap_cons]
    decide
  · rwa [relined_none_cons hc, gap_cons, ← gap_cons (b := b)]

/-! ## Torn texts -/

/-- Whether a text holds a carriage return at a line end, or a line of nothing but blanks. -/
def Torn (w : List Char) : Prop :=
  ['\r', '\n'] <:+: w ∨
    ∃ l, l ≠ [] ∧ (∀ c ∈ l, isBlank c = true ∧ c ≠ '\n') ∧ '\n' :: l ++ ['\n'] <:+: w

/-- Whether the line that begins with `held` is nothing but blanks, and not empty. -/
def HoldsBlankLine (held w : List Char) : Prop :=
  ∃ l, held ++ l ≠ [] ∧ (∀ c ∈ l, isBlank c = true ∧ c ≠ '\n') ∧ l ++ ['\n'] <+: w

/-- A text that does not end in a blank. -/
def Solid (w : List Char) : Prop := ∀ c ∈ w.getLast?, isBlank c = false

instance (w : List Char) : Decidable (Solid w) :=
  decidable_of_iff (w.getLast?.all (!isBlank ·) = true) <| by
    simp only [Option.all_eq_true, Bool.not_eq_true', Solid, Option.mem_def]

theorem solid_concat {v : List Char} : Solid (v ++ [c]) ↔ isBlank c = false := by
  simp [Solid]

theorem Solid.of_cons {w : List Char} (h : Solid (c :: w)) : Solid w := by
  cases w with
  | nil => exact fun _ hd => nomatch hd
  | cons d w => exact h

theorem torn_feed {w : List Char} : Torn ('\n' :: w) ↔ Torn w ∨ HoldsBlankLine [] w := by
  simp only [Torn, HoldsBlankLine, List.infix_cons_iff, List.nil_append, List.cons_append,
    List.cons_prefix_cons, true_and, show ('\r' : Char) ≠ '\n' by decide, false_and, false_or]
  constructor
  · rintro (h | ⟨l, hne, hl, h | h⟩)
    · exact .inl (.inl h)
    · exact .inr ⟨l, hne, hl, h⟩
    · exact .inl (.inr ⟨l, hne, hl, h⟩)
  · rintro ((h | ⟨l, hne, hl, h⟩) | ⟨l, hne, hl, h⟩)
    · exact .inl h
    · exact .inr ⟨l, hne, hl, .inr h⟩
    · exact .inr ⟨l, hne, hl, .inl h⟩

theorem torn_return_feed {w : List Char} : Torn ('\r' :: '\n' :: w) :=
  .inl (List.IsPrefix.isInfix ⟨w, rfl⟩)

theorem torn_inside {w : List Char} (h : Inside c w) : Torn (c :: w) ↔ Torn w := by
  have hreturn : ¬['\r', '\n'] <+: c :: w := by
    rintro ⟨b, hb⟩
    obtain ⟨rfl, rfl⟩ := List.cons.inj hb
    exact h.2 rfl rfl
  have hfeed (l : List Char) : ¬ '\n' :: (l ++ ['\n']) <+: c :: w :=
    fun hl => h.1 (List.cons_prefix_cons.mp hl).1.symm
  simp only [Torn, List.infix_cons_iff, List.cons_append, hreturn, hfeed, false_or]

theorem holdsBlankLine_feed {w : List Char} : HoldsBlankLine held ('\n' :: w) ↔ held ≠ [] := by
  constructor
  · rintro ⟨l, hne, hl, hprefix⟩
    cases l with
    | nil => rwa [List.append_nil] at hne
    | cons d l =>
      exact absurd (List.cons_prefix_cons.mp hprefix).1 (hl d List.mem_cons_self).2
  · intro hne
    exact ⟨[], by rwa [List.append_nil], List.forall_mem_nil _, w, rfl⟩

theorem holdsBlankLine_inside {w : List Char} (h : Inside c w) : HoldsBlankLine held (c :: w) ↔
    isBlank c = true ∧ HoldsBlankLine (held ++ [c]) w := by
  constructor
  · rintro ⟨l, -, hl, hprefix⟩
    cases l with
    | nil => exact absurd (List.cons_prefix_cons.mp hprefix).1.symm h.1
    | cons d l =>
      obtain ⟨rfl, hrest⟩ := List.cons_prefix_cons.mp hprefix
      rw [List.forall_mem_cons] at hl
      exact ⟨hl.1.1, l, by simp, hl.2, hrest⟩
  · rintro ⟨hc, l, -, hl, hrest⟩
    exact ⟨c :: l, by simp, List.forall_mem_cons.mpr ⟨⟨hc, h.1⟩, hl⟩,
      List.cons_prefix_cons.mpr ⟨rfl, hrest⟩⟩

/-- Writing lines again makes no text longer. -/
theorem length_recut_le (w : List Char) :
    (recut none w).length ≤ w.length ∧
      ∀ held, (recut (some held) w).length ≤ held.length + w.length := by
  induction w using line_induction with
  | nil => simp
  | feed w ih =>
    have hfeed := ih.2 []
    simp only [List.length_nil, Nat.zero_add] at hfeed
    simp only [recut_feed, List.length_cons]
    exact ⟨by omega, fun held => by omega⟩
  | return_feed w ih =>
    have hfeed := ih.2 []
    simp only [List.length_nil, Nat.zero_add] at hfeed
    simp only [recut_return_feed, List.length_cons]
    exact ⟨by omega, fun held => by omega⟩
  | inside c w hc ih =>
    refine ⟨by rw [recut_none_cons hc]; exact Nat.succ_le_succ ih.1, fun held => ?_⟩
    rw [recut_some_cons hc, List.length_cons]
    have hheld := ih.2 (held ++ [c])
    rw [List.length_append, List.length_singleton] at hheld
    have hout := ih.1
    split
    · omega
    · rw [List.length_append, List.length_cons]
      omega

/-- A text that keeps its length was not torn. -/
theorem not_torn_of_length (w : List Char) :
    ((recut none w).length = w.length → ¬Torn w) ∧
      ∀ held, (recut (some held) w).length = held.length + w.length →
        ¬Torn w ∧ ¬HoldsBlankLine held w := by
  induction w using line_induction with
  | nil =>
    have hnil : ¬Torn [] := by simp [Torn]
    exact ⟨fun _ => hnil, fun held _ => ⟨hnil, by simp [HoldsBlankLine]⟩⟩
  | feed w ih =>
    have hle := (length_recut_le w).2 []
    have heq := ih.2 []
    rw [List.length_nil, Nat.zero_add] at hle heq
    simp only [recut_feed, List.length_cons, torn_feed, holdsBlankLine_feed, not_or]
    refine ⟨fun h => heq (by omega), fun held h => ⟨heq (by omega), ?_⟩⟩
    exact not_not_intro (List.eq_nil_of_length_eq_zero (by omega))
  | return_feed w ih =>
    have hle := (length_recut_le w).2 []
    rw [List.length_nil, Nat.zero_add] at hle
    simp only [recut_return_feed, List.length_cons]
    exact ⟨fun h => by omega, fun held h => by omega⟩
  | inside c w hc ih =>
    have hle := length_recut_le w
    rw [recut_none_cons hc, torn_inside hc, List.length_cons, List.length_cons,
      Nat.add_right_cancel_iff]
    refine ⟨ih.1, fun held => ?_⟩
    rw [recut_some_cons hc, holdsBlankLine_inside hc]
    split
    next hblank =>
      intro h
      have hheld := ih.2 (held ++ [c]) (by rw [h, List.length_append, List.length_singleton]; omega)
      exact ⟨hheld.1, fun hline => hheld.2 hline.2⟩
    next hink =>
      intro h
      rw [List.length_append, List.length_cons] at h
      exact ⟨ih.1 (by omega), fun hline => hink hline.1⟩

/-- A text that is not torn stays as it is. -/
theorem recut_of_not_torn (w : List Char) (h : Solid w) :
    (¬Torn w → recut none w = w) ∧
      ∀ held, w ≠ [] → ¬Torn w → ¬HoldsBlankLine held w → recut (some held) w = held ++ w := by
  induction w using line_induction with
  | nil => exact ⟨fun _ => rfl, fun held hne => absurd rfl hne⟩
  | feed w ih =>
    have hsome : ¬Torn ('\n' :: w) → recut (some []) w = w := by
      intro htorn
      rw [torn_feed, not_or] at htorn
      cases w with
      | nil => rfl
      | cons d w => exact (ih h.of_cons).2 [] (List.cons_ne_nil d w) htorn.1 htorn.2
    refine ⟨fun htorn => by rw [recut_feed, hsome htorn], fun held _ htorn hline => ?_⟩
    rw [holdsBlankLine_feed, not_not] at hline
    rw [recut_feed, hsome htorn, hline, List.nil_append]
  | return_feed w ih =>
    exact ⟨fun htorn => absurd torn_return_feed htorn,
      fun held _ htorn => absurd torn_return_feed htorn⟩
  | inside c w hc ih =>
    rw [torn_inside hc]
    refine ⟨fun htorn => by rw [recut_none_cons hc, (ih h.of_cons).1 htorn],
      fun held _ htorn hline => ?_⟩
    rw [holdsBlankLine_inside hc, not_and] at hline
    rw [recut_some_cons hc]
    split
    next hblank =>
      have hne : w ≠ [] := by
        rintro rfl
        have hink : isBlank c = false := h c rfl
        rw [hink] at hblank
        exact absurd hblank Bool.false_ne_true
      rw [(ih h.of_cons).2 (held ++ [c]) hne htorn (hline hblank), List.append_assoc,
        List.singleton_append]
    next => rw [(ih h.of_cons).1 htorn]

/-- **Writing its lines again** changes a text exactly if it is torn. -/
theorem recut_eq_self_iff {w : List Char} (h : Solid w) : recut none w = w ↔ ¬Torn w :=
  ⟨fun heq => (not_torn_of_length w).1 (by rw [heq]), (recut_of_not_torn w h).1⟩

end RestLoom.Text
