import Mathlib.Data.List.TakeWhile
import Mathlib.Tactic.Ring
import RestLoom.Url.Punycode

/-!
# Proofs/Url/Punycode — every code is read back as the text it was written for

    text ──encode──▸ code ──decode?──▸ text

Writing goes through the text once for each code point; reading inserts one character for each
number.  Both are at a cursor: a code point `m` and a place that cuts the text in two.  The reader
then has the characters up to `m` before the place and those below `m` after it, and the distance
the writer has counted is the one to the cursor (`Follows`).
-/

namespace RestLoom.Url.Punycode

/-! ## Digits and numbers -/

theorem value?_digit : ∀ n < 36, value? (digit n) = some n := by decide

theorem threshold_le (bias k : Nat) : threshold bias k ≤ 26 := by
  unfold threshold
  split
  · omega
  · split <;> omega

/-- **A number is read back**, at any weight and before anything. -/
theorem readNumber_writeNumber (bias k v : Nat) (weight n : Nat) (rest : List Char) :
    readNumber bias k weight n (writeNumber bias k v ++ rest) = some (n + v * weight, rest) := by
  fun_induction writeNumber bias k v generalizing weight n with
  | case1 k v t hv =>
    have hle : t ≤ 26 := threshold_le bias k
    rw [List.singleton_append, readNumber, value?_digit v (by omega)]
    exact if_pos hv
  | case2 k v t hv ih =>
    have hle : t ≤ 26 := threshold_le bias k
    have hmod : (v - t) % (36 - t) < 36 - t := Nat.mod_lt _ (by omega)
    have hdigit := value?_digit (t + (v - t) % (36 - t)) (by omega)
    rw [List.cons_append, readNumber, hdigit]
    refine (if_neg (Nat.not_lt.mpr (Nat.le_add_right t _))).trans ?_
    rw [ih]
    have hv' : v = t + (v - t) % (36 - t) + (v - t) / (36 - t) * (36 - t) := by
      have hdiv := Nat.mod_add_div' (v - t) (36 - t)
      omega
    refine congrArg (fun x => some (x, rest)) ?_
    calc n + (t + (v - t) % (36 - t)) * weight + (v - t) / (36 - t) * (weight * (36 - t))
        = n + (t + (v - t) % (36 - t) + (v - t) / (36 - t) * (36 - t)) * weight := by ring
      _ = n + v * weight := by rw [← hv']

/-- A digit of a number is a small letter or a decimal digit. -/
theorem mem_writeNumber {bias k v : Nat} {c : Char} (h : c ∈ writeNumber bias k v) :
    ∃ n < 36, c = digit n := by
  fun_induction writeNumber bias k v with
  | case1 k v t hv =>
    have hle : t ≤ 26 := threshold_le bias k
    exact ⟨v, by omega, List.mem_singleton.mp h⟩
  | case2 k v t hv ih =>
    have hle : t ≤ 26 := threshold_le bias k
    have hmod : (v - t) % (36 - t) < 36 - t := Nat.mod_lt _ (by omega)
    obtain rfl | h := List.mem_cons.mp h
    · exact ⟨_, by omega, rfl⟩
    · exact ih h

theorem writeNumber_ne_nil (bias k v : Nat) : writeNumber bias k v ≠ [] := by
  rw [writeNumber]
  split
  · exact List.cons_ne_nil _ _
  · exact List.cons_ne_nil _ _

/-! ## One insertion -/

/-- **Reading a number inserts a character** at the cursor it leads to. -/
theorem readPoints_writeNumber {point place bias m far : Nat} {before after : List Char}
    (hm : isPoint m = true) (hle : point ≤ m)
    (hreach : place + far = (m - point) * (before.length + after.length + 1) + before.length)
    (rest : List Char) :
    readPoints point place bias (before ++ after) (writeNumber bias 36 far ++ rest) =
      readPoints m (before.length + 1)
        (adapt far (before.length + after.length + 1) (place == 0 && point == 0x80))
        (before ++ Char.ofNat m :: after) rest := by
  have hne : writeNumber bias 36 far ++ rest ≠ [] :=
    List.append_ne_nil_of_left_ne_nil (writeNumber_ne_nil _ _ _) rest
  have hread := readNumber_writeNumber bias 36 far 1 0 rest
  rw [Nat.zero_add, Nat.mul_one] at hread
  have hcount : 0 < before.length + after.length + 1 := Nat.succ_pos _
  have hlt : before.length < before.length + after.length + 1 := by omega
  have hdiv : (place + far) / (before.length + after.length + 1) = m - point := by
    rw [hreach, Nat.mul_comm, Nat.mul_add_div hcount, Nat.div_eq_of_lt hlt, Nat.add_zero]
  have hmod : (place + far) % (before.length + after.length + 1) = before.length := by
    rw [hreach, Nat.mul_comm, Nat.mul_add_mod, Nat.mod_eq_of_lt hlt]
  rw [readPoints, if_neg hne]
  split
  next h => rw [hread] at h; cases h
  next far' rest' h =>
    rw [hread] at h
    cases h
    simp only [List.length_append, hdiv, hmod, Nat.add_sub_cancel' hle, hm, if_true,
      List.take_left, List.drop_left]

/-! ## Writing and reading together -/

/-- **The reader at the writer's cursor.**  The cursor is at code point `m`, with the code points
`before` and `after` it in the reader's text; `point` and `place` are what the reader carries. -/
structure Follows (basic : Nat) (w : Writer) (point place m : Nat) (before after : List Nat) :
    Prop where
  done : w.done = before.length + after.length
  /-- The distance counted so far leads from the reader to the cursor. -/
  reach : place + w.far = (m - point) * (before.length + after.length + 1) + before.length
  le : point ≤ m
  basic_le : basic ≤ w.done
  first : w.done = basic ↔ place = 0 ∧ point = 0x80

/-- What the reader makes of a code when it stands before `tail`, and after which it goes on. -/
def Reads (point place bias : Nat) (text : List Nat) (code : List Char) (point' place' bias' : Nat)
    (text' : List Nat) : Prop :=
  ∀ tail, readPoints point place bias (text.map Char.ofNat) (code ++ tail) =
    readPoints point' place' bias' (text'.map Char.ofNat) tail

theorem Reads.trans {point place bias point' place' bias' point'' place'' bias'' : Nat}
    {text text' text'' : List Nat} {code code' : List Char}
    (h : Reads point place bias text code point' place' bias' text')
    (h' : Reads point' place' bias' text' code' point'' place'' bias'' text'') :
    Reads point place bias text (code ++ code') point'' place'' bias'' text'' := fun tail => by
  rw [List.append_assoc, h, h']

/-- Past a character that is there already, the distance grows by one. -/
theorem Follows.skip {basic point place m c : Nat} {w : Writer} {before after : List Nat}
    (h : Follows basic w point place m before (c :: after)) :
    Follows basic { w with far := w.far + 1 } point place m (before ++ [c]) after := by
  obtain ⟨hdone, hreach, hle, hbasic, hfirst⟩ := h
  rw [List.length_cons] at hdone hreach
  refine ⟨?_, ?_, hle, hbasic, hfirst⟩
  · rw [List.length_append, List.length_singleton]
    dsimp only
    omega
  · rw [List.length_append, List.length_singleton]
    dsimp only
    rw [← Nat.add_assoc, hreach]
    ring

/-- **Where a character is written**, the reader inserts it. -/
theorem Follows.write {basic point place m : Nat} {w : Writer} {before after : List Nat}
    (h : Follows basic w point place m before after) (hm : isPoint m = true) :
    Follows basic (writePlace basic m w m) m (before.length + 1) m (before ++ [m]) after ∧
      Reads point place w.bias (before ++ after) (writeNumber w.bias 36 w.far) m
        (before.length + 1) (writePlace basic m w m).bias (before ++ m :: after) := by
  obtain ⟨hdone, hreach, hle, hbasic, hfirst⟩ := h
  have hwrite : writePlace basic m w m =
      { far := 0
        bias := adapt w.far (w.done + 1) (w.done == basic)
        done := w.done + 1
        out := w.out ++ writeNumber w.bias 36 w.far } := by
    rw [writePlace, if_neg (Nat.lt_irrefl m), if_pos rfl]
  have hisFirst : (w.done == basic) = (place == 0 && point == 0x80) := by
    rw [Bool.eq_iff_iff, Bool.and_eq_true, beq_iff_eq, beq_iff_eq, beq_iff_eq, hfirst]
  rw [hwrite]
  refine ⟨⟨?_, ?_, Nat.le_refl m, Nat.le_succ_of_le hbasic, ?_⟩, fun tail => ?_⟩
  · rw [List.length_append, List.length_singleton]
    dsimp only
    omega
  · rw [List.length_append, List.length_singleton, Nat.sub_self, Nat.zero_mul, Nat.zero_add]
    exact Nat.add_zero _
  · dsimp only
    omega
  · have hchars : place + w.far = (m - point) *
        ((before.map Char.ofNat).length + (after.map Char.ofNat).length + 1) +
          (before.map Char.ofNat).length := by
      rw [List.length_map, List.length_map]
      exact hreach
    rw [List.map_append, readPoints_writeNumber hm hle hchars, List.length_map, List.length_map,
      ← hdone, hisFirst, List.map_append, List.map_cons]

/-- **Going over the text for one code point** writes what makes the reader follow. -/
theorem exists_follows_scan {basic m : Nat} (hm : isPoint m = true) (cs : List Nat) :
    ∀ (before : List Nat) (w : Writer) (point place : Nat),
      Follows basic w point place m before (cs.filter (· < m)) →
        ∃ code point' place', (cs.foldl (writePlace basic m) w).out = w.out ++ code ∧
          Follows basic (cs.foldl (writePlace basic m) w) point' place' m
            (before ++ cs.filter (· ≤ m)) [] ∧
          Reads point place w.bias (before ++ cs.filter (· < m)) code point' place'
            (cs.foldl (writePlace basic m) w).bias (before ++ cs.filter (· ≤ m)) := by
  induction cs with
  | nil =>
    intro before w point place h
    refine ⟨[], point, place, (List.append_nil _).symm, ?_, fun tail => rfl⟩
    rw [List.filter_nil, List.append_nil]
    exact h
  | cons c cs ih =>
    intro before w point place h
    rw [List.foldl_cons]
    obtain hlt | heq | hgt := Nat.lt_trichotomy c m
    · -- the character is there already, and the cursor goes past it
      have hbelow : (c :: cs).filter (· < m) = c :: cs.filter (· < m) :=
        List.filter_cons_of_pos (by simpa using hlt)
      have hupto : (c :: cs).filter (· ≤ m) = c :: cs.filter (· ≤ m) :=
        List.filter_cons_of_pos (by simpa using Nat.le_of_lt hlt)
      rw [hbelow] at h
      rw [hbelow, hupto, writePlace, if_pos hlt]
      simpa only [List.append_assoc, List.singleton_append] using ih _ _ _ _ h.skip
    · subst heq
      have hbelow : (c :: cs).filter (· < c) = cs.filter (· < c) :=
        List.filter_cons_of_neg (by simp)
      have hupto : (c :: cs).filter (· ≤ c) = c :: cs.filter (· ≤ c) :=
        List.filter_cons_of_pos (by simp)
      rw [hbelow] at h
      rw [hbelow, hupto]
      obtain ⟨hfollows, hwritten⟩ := h.write hm
      obtain ⟨code, point', place', hout, hfollows', hreads⟩ := ih _ _ _ _ hfollows
      rw [List.append_assoc, List.singleton_append] at hfollows' hreads
      rw [List.append_assoc, List.singleton_append] at hreads
      refine ⟨writeNumber w.bias 36 w.far ++ code, point', place', ?_, hfollows',
        hwritten.trans hreads⟩
      rw [hout, writePlace, if_neg (Nat.lt_irrefl c), if_pos rfl, List.append_assoc]
    · -- the character comes later
      have hbelow : (c :: cs).filter (· < m) = cs.filter (· < m) :=
        List.filter_cons_of_neg (by simpa using Nat.le_of_lt hgt)
      have hupto : (c :: cs).filter (· ≤ m) = cs.filter (· ≤ m) :=
        List.filter_cons_of_neg (by simpa using hgt)
      rw [hbelow] at h
      rw [hbelow, hupto, writePlace, if_neg (by omega), if_neg (by omega)]
      exact ih _ _ _ _ h

/-- Where no code point of the text lies in between, the cursor is taken to a later one. -/
theorem Follows.jump {basic point place next p : Nat} {w : Writer} {after : List Nat}
    (h : Follows basic w point place next [] after) (hle : next ≤ p) :
    Follows basic { w with far := w.far + (p - next) * (w.done + 1) } point place p [] after := by
  obtain ⟨hdone, hreach, hpoint, hbasic, hfirst⟩ := h
  rw [List.length_nil, Nat.zero_add] at hdone hreach
  refine ⟨?_, ?_, Nat.le_trans hpoint hle, hbasic, hfirst⟩
  · rw [List.length_nil, Nat.zero_add]
    exact hdone
  · rw [List.length_nil, Nat.zero_add]
    dsimp only
    rw [hdone, ← Nat.add_assoc, hreach, show p - point = (next - point) + (p - next) by omega]
    ring

/-- At the end of the text, the cursor goes to the start of it for the next code point. -/
theorem Follows.wrap {basic point place p : Nat} {w : Writer} {before : List Nat}
    (h : Follows basic w point place p before []) :
    Follows basic { w with far := w.far + 1 } point place (p + 1) [] before := by
  obtain ⟨hdone, hreach, hpoint, hbasic, hfirst⟩ := h
  rw [List.length_nil, Nat.add_zero] at hdone hreach
  refine ⟨?_, ?_, Nat.le_succ_of_le hpoint, hbasic, hfirst⟩
  · rw [List.length_nil, Nat.zero_add]
    exact hdone
  · rw [List.length_nil, Nat.zero_add]
    dsimp only
    rw [← Nat.add_assoc, hreach, show p + 1 - point = (p - point) + 1 by omega]
    ring

/-- **Going over all code points** in turn, the reader ends with the whole text. -/
theorem exists_reads_writePoints {basic : Nat} {text : List Nat} (ps : List Nat) :
    ∀ (next : Nat) (w : Writer) (point place : Nat),
      Follows basic w point place next [] (text.filter (· < next)) →
      ps.Pairwise (· < ·) → (∀ p ∈ ps, next ≤ p ∧ isPoint p = true) →
      (∀ c ∈ text, next ≤ c → c ∈ ps) →
        ∃ code point' place' bias', (writePoints text basic ps next w).out = w.out ++ code ∧
          Reads point place w.bias (text.filter (· < next)) code point' place' bias' text := by
  induction ps with
  | nil =>
    intro next w point place h _ _ hall
    have hfilter : text.filter (· < next) = text := by
      refine List.filter_eq_self.mpr fun c hc => decide_eq_true (Nat.not_le.mp fun hle => ?_)
      exact absurd (hall c hc hle) List.not_mem_nil
    rw [hfilter]
    exact ⟨[], point, place, w.bias, (List.append_nil _).symm, fun tail => rfl⟩
  | cons p ps ih =>
    intro next w point place h hsorted hps hall
    obtain ⟨hbelow, hsorted⟩ := List.pairwise_cons.mp hsorted
    obtain ⟨⟨hle, hp⟩, hps⟩ := List.forall_mem_cons.mp hps
    -- no code point of the text lies between the last one and this one
    have hskip : text.filter (· < next) = text.filter (· < p) := by
      refine List.filter_congr fun c hc => decide_eq_decide.mpr ⟨fun hlt => ?_, fun hlt => ?_⟩
      · exact Nat.lt_of_lt_of_le hlt hle
      · refine Nat.not_le.mp fun hge => ?_
        obtain rfl | hmem := List.mem_cons.mp (hall c hc hge)
        · exact Nat.lt_irrefl _ hlt
        · exact Nat.lt_asymm hlt (hbelow c hmem)
    have hupto : text.filter (· ≤ p) = text.filter (· < p + 1) :=
      List.filter_congr fun c _ => decide_eq_decide.mpr Nat.lt_succ_iff.symm
    rw [hskip] at h ⊢
    obtain ⟨code, point', place', hout, hfollows, hreads⟩ :=
      exists_follows_scan hp text [] _ point place (h.jump hle)
    rw [List.nil_append, hupto] at hfollows hreads
    obtain ⟨code', point'', place'', bias'', hout', hreads'⟩ :=
      ih (p + 1) _ point' place' hfollows.wrap hsorted
        (fun q hq => ⟨hbelow q hq, (hps q hq).2⟩)
        (fun c hc hlt => (List.mem_cons.mp
          (hall c hc (Nat.le_trans hle (Nat.le_of_lt hlt)))).resolve_left (Nat.ne_of_gt hlt))
    refine ⟨code ++ code', point'', place'', bias'', ?_, hreads.trans hreads'⟩
    rw [writePoints, hout', hout, List.append_assoc]

/-! ## What is written -/

/-- What is written beyond what was there is digits. -/
def AddsDigits (w w' : Writer) : Prop := ∀ c ∈ w'.out, c ∈ w.out ∨ ∃ n < 36, c = digit n

theorem AddsDigits.trans {w w' w'' : Writer} (h : AddsDigits w w') (h' : AddsDigits w' w'') :
    AddsDigits w w'' := fun c hc => (h' c hc).elim (h c) .inr

theorem addsDigits_writePlace (basic m : Nat) (w : Writer) (c : Nat) :
    AddsDigits w (writePlace basic m w c) := by
  rw [writePlace]
  split
  · exact fun c hc => .inl hc
  · split
    · exact fun c hc => (List.mem_append.mp hc).imp_right mem_writeNumber
    · exact fun c hc => .inl hc

theorem addsDigits_scan (basic m : Nat) (w : Writer) (cs : List Nat) :
    AddsDigits w (cs.foldl (writePlace basic m) w) := by
  induction cs generalizing w with
  | nil => exact fun c hc => .inl hc
  | cons c cs ih => exact (addsDigits_writePlace basic m w c).trans (ih _)

theorem addsDigits_writePoints (text : List Nat) (basic : Nat) (ps : List Nat) (next : Nat)
    (w : Writer) : AddsDigits w (writePoints text basic ps next w) := by
  induction ps generalizing next w with
  | nil => exact fun c hc => .inl hc
  | cons p ps ih =>
    intro c hc
    rw [writePoints] at hc
    obtain h | h := ih _ _ c hc
    · exact addsDigits_scan basic p { w with far := w.far + (p - next) * (w.done + 1) } text c h
    · exact .inr h

/-- Sorted code points without repetition increase. -/
theorem pairwise_lt_eraseDups {ps : List Nat} (h : ps.Pairwise (· ≤ ·)) :
    ps.eraseDups.Pairwise (· < ·) := by
  match ps with
  | [] => exact List.Pairwise.nil
  | p :: ps =>
    obtain ⟨hle, hps⟩ := List.pairwise_cons.mp h
    rw [List.eraseDups_cons]
    refine List.pairwise_cons.mpr ⟨fun q hq => ?_, pairwise_lt_eraseDups (hps.filter _)⟩
    obtain ⟨hmem, hne⟩ := List.mem_filter.mp (List.mem_eraseDups.mp hq)
    have hqp : q ≠ p := by simpa using hne
    exact Nat.lt_of_le_of_ne (hle q hmem) (Ne.symm hqp)
termination_by ps.length
decreasing_by exact Nat.lt_succ_of_le (List.length_filter_le _ _)

/-! ## Whole texts -/

/-- The code points beyond ASCII of a text, each once, from small to large. -/
def pointsOf (text : List Char) : List Nat :=
  ((text.map (·.toNat)).filter (0x80 ≤ ·)).mergeSort.eraseDups

/-- The numbers of a code. -/
def numbersOf (text : List Char) : List Char :=
  (writePoints (text.map (·.toNat)) (text.filter (·.toNat < 0x80)).length (pointsOf text) 0x80
    ⟨0, 72, (text.filter (·.toNat < 0x80)).length, []⟩).out

theorem encode_eq (text : List Char) :
    encode text = (if text.filter (·.toNat < 0x80) = [] then []
      else text.filter (·.toNat < 0x80) ++ ['-']) ++ numbersOf text := rfl

theorem mem_numbersOf {text : List Char} {c : Char} (h : c ∈ numbersOf text) :
    ∃ n < 36, c = digit n :=
  (addsDigits_writePoints _ _ _ _ _ c h).resolve_left List.not_mem_nil

theorem mem_pointsOf {text : List Char} {p : Nat} :
    p ∈ pointsOf text ↔ ∃ c ∈ text, c.toNat = p ∧ 0x80 ≤ p := by
  rw [pointsOf, List.mem_eraseDups, List.mem_mergeSort, List.mem_filter, List.mem_map]
  simp only [decide_eq_true_iff]
  grind

theorem pairwise_pointsOf (text : List Char) : (pointsOf text).Pairwise (· < ·) := by
  have hpairwise : ((text.map (·.toNat)).filter (0x80 ≤ ·)).mergeSort.Pairwise
      fun a b => decide (a ≤ b) = true :=
    List.pairwise_mergeSort
      (fun a b c h h' => by simpa using Nat.le_trans (of_decide_eq_true h) (of_decide_eq_true h'))
      (fun a b => by simpa using Nat.le_total a b) _
  exact pairwise_lt_eraseDups (hpairwise.imp of_decide_eq_true)

theorem isPoint_toNat (c : Char) : isPoint c.toNat = true := by
  have hvalid : c.toNat < 0xd800 ∨ 0xdfff < c.toNat ∧ c.toNat < 0x110000 := c.valid
  rw [isPoint, Bool.or_eq_true, Bool.and_eq_true]
  simp only [decide_eq_true_iff]
  omega

/-- The characters of a text from their code points. -/
theorem map_ofNat_filter_toNat (text : List Char) (p : Nat → Bool) :
    ((text.map (·.toNat)).filter p).map Char.ofNat = text.filter fun c => p c.toNat := by
  rw [List.filter_map, List.map_map]
  exact (List.map_congr_left fun c _ => Char.ofNat_toNat c).trans (List.map_id _)

/-- **The numbers of a code** are read back into the text after its characters of ASCII. -/
theorem readPoints_numbersOf (text : List Char) :
    readPoints 0x80 0 72 (text.filter (·.toNat < 0x80)) (numbersOf text) = some text := by
  have hlength : ((text.map (·.toNat)).filter (· < 0x80)).length =
      (text.filter (·.toNat < 0x80)).length := by
    rw [← map_ofNat_filter_toNat text (· < 0x80), List.length_map]
  have hfollows : Follows (text.filter (·.toNat < 0x80)).length
      ⟨0, 72, (text.filter (·.toNat < 0x80)).length, []⟩ 0x80 0 0x80 []
      ((text.map (·.toNat)).filter (· < 0x80)) := by
    refine ⟨?_, ?_, Nat.le_refl _, Nat.le_refl _, ⟨fun _ => ⟨rfl, rfl⟩, fun _ => rfl⟩⟩
    · rw [hlength, List.length_nil, Nat.zero_add]
    · rw [Nat.sub_self, Nat.zero_mul, List.length_nil]
  obtain ⟨code, point', place', bias', hout, hreads⟩ :=
    exists_reads_writePoints (pointsOf text) 0x80 _ 0x80 0 hfollows (pairwise_pointsOf text)
      (fun p hp => by
        obtain ⟨c, -, rfl, hle⟩ := mem_pointsOf.mp hp
        exact ⟨hle, isPoint_toNat c⟩)
      (fun n hn hle => by
        obtain ⟨c, hc, rfl⟩ := List.mem_map.mp hn
        exact mem_pointsOf.mpr ⟨c, hc, rfl, hle⟩)
  have hread := hreads []
  rw [map_ofNat_filter_toNat text (· < 0x80), List.append_nil] at hread
  rw [numbersOf, hout, List.nil_append, hread, readPoints, if_pos rfl, List.map_map]
  exact congrArg some ((List.map_congr_left fun c _ => Char.ofNat_toNat c).trans (List.map_id _))

theorem digit_ne_hyphen : ∀ n < 36, digit n ≠ '-' := by decide

/-- Reading cuts a code at its last hyphen. -/
theorem decode?_append {basic numbers : List Char} (h : ∀ c ∈ numbers, c ≠ '-') :
    decode? ((if basic = [] then [] else basic ++ ['-']) ++ numbers) =
      readPoints 0x80 0 72 basic numbers := by
  have hall : ∀ c ∈ numbers.reverse, (c != '-') = true := fun c hc =>
    bne_iff_ne.mpr (h c (List.mem_reverse.mp hc))
  rw [decode?]
  split
  next hnil =>
    rw [List.nil_append, List.takeWhile_eq_self_iff.mpr hall, List.reverse_reverse, hnil]
    simp
  next hne =>
    have htake : ((basic ++ ['-'] ++ numbers).reverse.takeWhile (· != '-')).reverse = numbers := by
      rw [List.reverse_append, List.takeWhile_append_of_pos hall]
      simp
    have hlength : (basic ++ ['-'] ++ numbers).length - numbers.length - 1 = basic.length := by
      simp only [List.length_append, List.length_singleton]
      omega
    rw [htake, hlength, List.append_assoc, List.take_left]

/-- **Every code is read back** as the text it was written for. -/
theorem decode?_encode (text : List Char) : decode? (encode text) = some text := by
  rw [encode_eq, decode?_append, readPoints_numbersOf]
  rintro _ h rfl
  obtain ⟨n, hn, heq⟩ := mem_numbersOf h
  exact digit_ne_hyphen n hn heq.symm

end RestLoom.Url.Punycode
