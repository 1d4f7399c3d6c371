import Mathlib.Data.List.Induction
import Mathlib.Tactic.Ring
import RestLoom.Proofs.Outcome
import RestLoom.Proofs.Text.Lines
import RestLoom.Proofs.Percent.Basic
import RestLoom.Proofs.Url.Digits

/-!
# Proofs/Url/Address — addresses are read back from their text

    address ──renderIpv4──▸ text ──readIpv4──▸ address
    pieces  ──renderIpv6──▸ text ──readIpv6──▸ pieces

Four decimal parts are cut at the full stops between them.  In the text of eight pieces two colons
in a row stand only for the run of zeros that is left out, so they are found where they were
written.
-/

namespace RestLoom.Url

open RestLoom.Text

/-! ## Four parts -/

/-- The four decimal parts of an address. -/
def partsOf (a : Nat) : List (List Char) :=
  [decimal (a / 16777216 % 256), decimal (a / 65536 % 256), decimal (a / 256 % 256),
    decimal (a % 256)]

theorem renderIpv4_eq (a : Nat) : renderIpv4 a = join ['.'] (partsOf a) := by
  simp [renderIpv4, partsOf, join]

theorem renderIpv4_ne_nil (a : Nat) : renderIpv4 a ≠ [] := by
  rw [renderIpv4_eq]
  exact List.append_ne_nil_of_left_ne_nil
    (List.append_ne_nil_of_left_ne_nil (decimal_ne_nil _) _) _

theorem mem_partsOf {a : Nat} {part : List Char} (h : part ∈ partsOf a) :
    ∃ n < 256, part = decimal n := by
  simp only [partsOf, List.mem_cons, List.not_mem_nil, or_false] at h
  obtain rfl | rfl | rfl | rfl := h
  all_goals exact ⟨_, Nat.mod_lt _ (by decide), rfl⟩

theorem splitAt_renderIpv4 (a : Nat) : splitAt (· == '.') (renderIpv4 a) = partsOf a := by
  rw [renderIpv4_eq]
  refine splitAt_join rfl (List.cons_ne_nil _ _) fun part hpart c hc => ?_
  obtain ⟨n, -, rfl⟩ := mem_partsOf hpart
  have hdigit := isDigit_of_mem_decimal hc
  rw [beq_eq_false_iff_ne]
  rintro rfl
  exact absurd hdigit (by decide)

/-- What the numbers before the last one add to an address. -/
def frontValue (before : List Nat) : Nat :=
  ((List.range before.length).map fun i => before.getD i 0 * 256 ^ (3 - i)).sum

theorem joinParts_append (before : List Nat) (last : Nat) :
    joinParts (before ++ [last]) =
      if 256 ^ (4 - before.length) ≤ last ∨ before.any (255 < ·) then none
      else some (last + frontValue before) := by
  rw [joinParts, List.reverse_append, List.reverse_singleton, List.singleton_append]
  dsimp only
  rw [List.reverse_reverse]
  rfl

/-- The places of the parts before the last one. -/
theorem place_eq : 256 ^ (3 - 0) = 16777216 ∧ 256 ^ (3 - 1) = 65536 ∧ 256 ^ (3 - 2) = 256 :=
  ⟨rfl, rfl, rfl⟩

theorem sum_range_one (f : Nat → Nat) : ((List.range 1).map f).sum = f 0 + 0 := rfl

theorem sum_range_two (f : Nat → Nat) : ((List.range 2).map f).sum = f 0 + (f 1 + 0) := rfl

theorem sum_range_three (f : Nat → Nat) :
    ((List.range 3).map f).sum = f 0 + (f 1 + (f 2 + 0)) := rfl

theorem frontValue_one (w : Nat) : frontValue [w] = w * 16777216 + 0 := by
  refine (sum_range_one _).trans ?_
  rw [place_eq.1]
  rfl

theorem frontValue_two (w x : Nat) :
    frontValue [w, x] = w * 16777216 + (x * 65536 + 0) := by
  refine (sum_range_two _).trans ?_
  rw [place_eq.1, place_eq.2.1]
  rfl

theorem frontValue_three (w x y : Nat) :
    frontValue [w, x, y] = w * 16777216 + (x * 65536 + (y * 256 + 0)) := by
  refine (sum_range_three _).trans ?_
  rw [place_eq.1, place_eq.2.1, place_eq.2.2]
  rfl

/-- **An address of four parts** is read back. -/
theorem readIpv4_renderIpv4 {a : Nat} (h : a < 256 ^ 4) : readIpv4 (renderIpv4 a) = .ok a := by
  have hlast : (partsOf a).getLast? ≠ some [] := by
    intro hlast
    exact decimal_ne_nil _ (Option.some.inj hlast)
  have hread : (partsOf a).mapM readLabelNumber =
      some [a / 16777216 % 256, a / 65536 % 256, a / 256 % 256, a % 256] := by
    rw [Outcome.mapM_eq_some]
    refine .cons ?_ (.cons ?_ (.cons ?_ (.cons ?_ .nil)))
    all_goals exact readLabelNumber_decimal (Nat.mod_lt _ (by decide))
  have hjoin : joinParts [a / 16777216 % 256, a / 65536 % 256, a / 256 % 256, a % 256] =
      some a := by
    refine (joinParts_append [_, _, _] _).trans ?_
    rw [frontValue_three, if_neg]
    · refine congrArg some ?_
      omega
    · simp only [List.length_cons, List.length_nil, List.any_cons, List.any_nil, Bool.or_eq_true,
        decide_eq_true_iff, Bool.false_eq_true, or_false]
      omega
  rw [readIpv4, splitAt_renderIpv4, if_neg hlast, hread, Option.bind_some, hjoin]
  rfl

/-- The last part shows that a host is an address. -/
theorem endsInNumber_renderIpv4 (a : Nat) : endsInNumber (renderIpv4 a) = true := by
  have hread := readLabelNumber_decimal (Nat.mod_lt a (show 0 < 256 by decide))
  obtain ⟨d, ds, hlast⟩ := List.exists_cons_of_ne_nil (decimal_ne_nil (a % 256))
  rw [hlast] at hread
  rw [endsInNumber, splitAt_renderIpv4, partsOf, hlast]
  change (_ || (readLabelNumber (d :: ds)).isSome) = true
  rw [hread, Option.isSome_some, Bool.or_true]

theorem frontValue_le {before : List Nat} (hlength : before.length ≤ 3)
    (h : ∀ p ∈ before, p < 256) : frontValue before + 256 ^ (4 - before.length) ≤ 256 ^ 4 := by
  match before with
  | [] => exact Nat.le_refl _
  | [w] =>
    rw [List.forall_mem_singleton] at h
    rw [frontValue_one, List.length_singleton]
    omega
  | [w, x] =>
    rw [List.forall_mem_cons, List.forall_mem_singleton] at h
    rw [frontValue_two, List.length_cons, List.length_singleton]
    omega
  | [w, x, y] =>
    rw [List.forall_mem_cons, List.forall_mem_cons, List.forall_mem_singleton] at h
    rw [frontValue_three, List.length_cons, List.length_cons, List.length_singleton]
    omega
  | _ :: _ :: _ :: _ :: _ =>
    simp only [List.length_cons] at hlength
    omega

theorem joinParts_lt {parts : List Nat} {a : Nat} (hlength : parts.length ≤ 4)
    (h : joinParts parts = some a) : a < 256 ^ 4 := by
  cases parts using List.reverseRecOn with
  | nil => cases h
  | append_singleton before last =>
    rw [joinParts_append] at h
    split at h
    next => cases h
    next hfits =>
      rw [not_or, Nat.not_le, Bool.not_eq_true, List.any_eq_false] at hfits
      rw [List.length_append, List.length_singleton] at hlength
      have hle := frontValue_le (Nat.le_of_succ_le_succ hlength) fun p hp => by
        simpa [Nat.lt_succ_iff] using hfits.2 p hp
      rw [← Option.some.inj h]
      omega

/-- An address that is read has four bytes. -/
theorem readIpv4_lt {host : List Char} {a : Nat} (h : readIpv4 host = .ok a) : a < 256 ^ 4 := by
  rw [readIpv4] at h
  generalize (if (splitAt (· == '.') host).getLast? = some [] then
    (splitAt (· == '.') host).dropLast else splitAt (· == '.') host) = labels at h
  split at h
  next => cases h
  next hlength =>
    split at h
    next b hb =>
      cases h
      obtain ⟨parts, hparts, hjoin⟩ := Option.bind_eq_some_iff.mp hb
      have hsame := (Outcome.mapM_eq_some.mp hparts).length_eq
      exact joinParts_lt (by omega) hjoin
    next => cases h

/-! ## One piece -/

theorem digitsValue_lt (cs : List Char) : digitsValue 16 cs < 16 ^ cs.length := by
  induction cs using List.reverseRecOn with
  | nil => exact Nat.one_pos
  | append_singleton cs c ih =>
    have hdigit : (Percent.hexValue c).getD 0 < 16 := by
      cases h : Percent.hexValue c with
      | none => decide
      | some d => exact Percent.hexValue_lt h
    rw [digitsValue_append, List.length_append, List.length_singleton, Nat.pow_succ]
    omega

theorem readPiece_lt {cs : List Char} {p : Nat} (h : readPiece cs = some p) : p < 16 ^ 4 := by
  rw [readPiece] at h
  split at h
  next hcs =>
    rw [← Option.some.inj h]
    exact Nat.lt_of_lt_of_le (digitsValue_lt cs) (Nat.pow_le_pow_right (by decide) hcs.2.1)
  next => cases h

/-- The characters of a piece are hexadecimal digits. -/
theorem hex_of_mem_toDigits {p : Nat} {c : Char} (h : c ∈ Nat.toDigits 16 p) :
    (Percent.hexValue c).isSome = true ∧ c ≠ ':' ∧ c ≠ '.' ∧ c ≠ ']' := by
  have hall : ∀ d < 16, (Percent.hexValue d.digitChar).isSome = true ∧ d.digitChar ≠ ':' ∧
      d.digitChar ≠ '.' ∧ d.digitChar ≠ ']' := by decide
  obtain ⟨d, hd, rfl⟩ := mem_toDigits (by decide) h
  exact hall d hd

/-- **A piece** is read back. -/
theorem readPiece_toDigits {p : Nat} (h : p < 16 ^ 4) :
    readPiece (Nat.toDigits 16 p) = some p := by
  have hlength := (Nat.length_toDigits_le_iff (b := 16) (n := p) (k := 4) (by decide)
    (by decide)).mpr h
  have hall : (Nat.toDigits 16 p).all (fun c => (Percent.hexValue c).isSome) = true :=
    List.all_eq_true.mpr fun c hc => (hex_of_mem_toDigits hc).1
  rw [readPiece, if_pos ⟨Nat.toDigits_ne_nil, hlength, hall⟩,
    digitsValue_toDigits (by decide) (by decide)]

/-! ## Runs of pieces -/

theorem renderPieces_eq (ps : List Nat) :
    renderPieces ps = join [':'] (ps.map (Nat.toDigits 16)) := by
  rw [renderPieces]
  generalize ps.map (Nat.toDigits 16) = parts
  induction parts with
  | nil => rfl
  | cons part parts ih =>
    cases parts with
    | nil => exact List.append_nil part
    | cons next parts =>
      rw [List.intersperse_cons_cons, List.flatten_cons, List.flatten_cons, ih]
      exact (List.append_assoc part [':'] _).symm

theorem splitAt_renderPieces {ps : List Nat} (h : ps ≠ []) :
    splitAt (· == ':') (renderPieces ps) = ps.map (Nat.toDigits 16) := by
  rw [renderPieces_eq]
  refine splitAt_join rfl (by simpa using h) fun part hpart c hc => ?_
  obtain ⟨p, -, rfl⟩ := List.mem_map.mp hpart
  exact beq_eq_false_iff_ne.mpr (hex_of_mem_toDigits hc).2.1

theorem readPieces_toDigits (last : Bool) {ps : List Nat} (h : ∀ p ∈ ps, p < 16 ^ 4) :
    readPieces last (ps.map (Nat.toDigits 16)) = some ps := by
  induction ps with
  | nil => rfl
  | cons p ps ih =>
    rw [List.forall_mem_cons] at h
    cases ps with
    | nil =>
      have hdot : (Nat.toDigits 16 p).contains '.' = false := by
        rw [List.contains_eq_mem, decide_eq_false_iff_not]
        exact fun hmem => (hex_of_mem_toDigits hmem).2.2.1 rfl
      rw [List.map_singleton, readPieces, hdot, if_neg Bool.false_ne_true, readPiece_toDigits h.1]
      rfl
    | cons q ps =>
      rw [List.map_cons, readPieces, readPiece_toDigits h.1, ih h.2]
      · rfl
      · exact fun hnil => List.cons_ne_nil _ _ hnil

/-- **A run of pieces** is read back, also one without any. -/
theorem readRun_renderPieces (last : Bool) {ps : List Nat} (h : ∀ p ∈ ps, p < 16 ^ 4) :
    readRun last (renderPieces ps) = some ps := by
  cases ps with
  | nil => rfl
  | cons p ps =>
    have hne : renderPieces (p :: ps) ≠ [] := by
      intro hnil
      have hsplit := splitAt_renderPieces (List.cons_ne_nil p ps)
      rw [hnil, splitAt, List.map_cons] at hsplit
      exact Nat.toDigits_ne_nil (List.cons.inj hsplit).1.symm
    rw [readRun, if_neg hne, splitAt_renderPieces (List.cons_ne_nil p ps),
      readPieces_toDigits last h]

/-! ## Two colons in a row -/

/-- A search for two colons goes past text without a colon. -/
theorem splitDoubleColon_append {part : List Char} (h : ∀ c ∈ part, c ≠ ':')
    (before tail : List Char) :
    splitDoubleColon before (part ++ tail) = splitDoubleColon (before ++ part) tail := by
  induction part generalizing before with
  | nil => rw [List.nil_append, List.append_nil]
  | cons c part ih =>
    rw [List.forall_mem_cons] at h
    rw [List.cons_append, splitDoubleColon, ih h.2, List.append_assoc, List.singleton_append]
    exact fun _ hc => absurd hc h.1

/-- **The search goes past a run of pieces**, whose colons stand alone. -/
theorem splitDoubleColon_renderPieces (ps : List Nat) (before tail : List Char) :
    splitDoubleColon before (renderPieces ps ++ tail) =
      splitDoubleColon (before ++ renderPieces ps) tail := by
  rw [renderPieces_eq]
  induction ps generalizing before with
  | nil =>
    rw [List.map_nil, join, List.append_nil]
    rfl
  | cons p ps ih =>
    have hp : ∀ c ∈ Nat.toDigits 16 p, c ≠ ':' := fun c hc => (hex_of_mem_toDigits hc).2.1
    cases ps with
    | nil => exact splitDoubleColon_append hp before tail
    | cons q ps =>
      have hjoin : join [':'] ((p :: q :: ps).map (Nat.toDigits 16)) =
          Nat.toDigits 16 p ++ ':' :: join [':'] ((q :: ps).map (Nat.toDigits 16)) :=
        List.append_assoc _ [':'] _
      -- the colon is followed by a digit
      obtain ⟨c, cs, hnext⟩ : ∃ c cs, join [':'] ((q :: ps).map (Nat.toDigits 16)) = c :: cs ∧
          c ≠ ':' := by
        obtain ⟨c, cs, hq⟩ := List.exists_cons_of_ne_nil (Nat.toDigits_ne_nil (n := q) (b := 16))
        have hc : c ≠ ':' := (hex_of_mem_toDigits (hq ▸ List.mem_cons_self)).2.1
        cases ps with
        | nil => exact ⟨c, cs, hq, hc⟩
        | cons r ps =>
          refine ⟨c, cs ++ [':'] ++ join [':'] ((r :: ps).map (Nat.toDigits 16)), ?_, hc⟩
          exact congrArg (· ++ [':'] ++ join [':'] ((r :: ps).map (Nat.toDigits 16))) hq
      have hcolon (before : List Char) :
          splitDoubleColon before (':' :: (c :: cs) ++ tail) =
            splitDoubleColon (before ++ [':']) ((c :: cs) ++ tail) := by
        rw [List.cons_append, List.cons_append, splitDoubleColon]
        exact fun _ _ h => absurd (List.cons.inj h).1 hnext.2
      have ih := ih (before ++ Nat.toDigits 16 p ++ [':'])
      rw [hnext.1] at ih
      rw [hjoin, hnext.1, List.append_assoc, splitDoubleColon_append hp, hcolon, ih]
      simp

/-! ## Eight pieces -/

/-- What is left out of a list of pieces: a run of at least two zeros in it. -/
def IsZeroRun (ps : List Nat) (i n : Nat) : Prop :=
  2 ≤ n ∧ (ps.drop i).take n = List.replicate n 0

theorem isZeroRun_zeroRun {ps : List Nat} {i : Nat} (h : 2 ≤ zeroRun (ps.drop i)) :
    IsZeroRun ps i (zeroRun (ps.drop i)) := by
  refine ⟨h, ?_⟩
  generalize ps.drop i = qs at h ⊢
  clear h
  induction qs with
  | nil => rfl
  | cons q qs ih =>
    rw [zeroRun, List.takeWhile_cons]
    split
    next hq =>
      rw [List.length_cons, List.take_succ_cons, List.replicate_succ, beq_iff_eq.mp hq]
      exact congrArg (0 :: ·) ih
    next => rfl

/-- **The longest run of zeros** is one. -/
theorem isZeroRun_longestZeroRun {ps : List Nat} {i n : Nat}
    (h : longestZeroRun ps = some (i, n)) : IsZeroRun ps i n := by
  rw [longestZeroRun] at h
  refine List.foldlRecOn (motive := fun best => ∀ i n, best = some (i, n) → IsZeroRun ps i n)
    _ _ ?_ ?_ i n h
  · rintro _ _ ⟨⟩
  intro best hbest j _ i n h
  dsimp only at h
  split at h
  next =>
    split at h
    next hle =>
      cases h
      exact isZeroRun_zeroRun hle
    next => cases h
  next k m =>
    split at h
    next hlt =>
      cases h
      exact isZeroRun_zeroRun (Nat.le_trans (hbest k m rfl).1 (Nat.le_of_lt hlt))
    next => exact hbest i n h

/-- The text between the brackets of an address. -/
def innerIpv6 (ps : List Nat) : List Char :=
  match longestZeroRun ps with
  | none => renderPieces ps
  | some (i, n) => renderPieces (ps.take i) ++ [':', ':'] ++ renderPieces (ps.drop (i + n))

theorem renderIpv6_eq (ps : List Nat) : renderIpv6 ps = '[' :: innerIpv6 ps ++ [']'] := rfl

/-- **An address of eight pieces** is read back. -/
theorem readIpv6_innerIpv6 {ps : List Nat} (hlength : ps.length = 8)
    (h : ∀ p ∈ ps, p < 16 ^ 4) : readIpv6 (innerIpv6 ps) = .ok ps := by
  rw [innerIpv6]
  split
  next =>
    have hnone := splitDoubleColon_renderPieces ps [] []
    rw [List.append_nil, splitDoubleColon] at hnone
    rw [readIpv6, hnone, readRun_renderPieces true h]
    simp [hlength]
  next i n hrun =>
    obtain ⟨hn, hzeros⟩ := isZeroRun_longestZeroRun hrun
    have hle : i + n ≤ 8 := by
      have hcount := congrArg List.length hzeros
      rw [List.length_take, List.length_drop, List.length_replicate, hlength] at hcount
      omega
    have hsplit : splitDoubleColon []
        (renderPieces (ps.take i) ++ [':', ':'] ++ renderPieces (ps.drop (i + n))) =
          some (renderPieces (ps.take i), renderPieces (ps.drop (i + n))) := by
      rw [List.append_assoc, splitDoubleColon_renderPieces]
      rfl
    have hfront : (ps.take i).length = i := by
      rw [List.length_take, hlength]
      omega
    have hback : (ps.drop (i + n)).length = 8 - (i + n) := by rw [List.length_drop, hlength]
    have hwhole : ps.take i ++ List.replicate n 0 ++ ps.drop (i + n) = ps := by
      rw [← hzeros, ← List.drop_drop, List.append_assoc, List.take_append_drop,
        List.take_append_drop]
    rw [readIpv6, hsplit]
    simp only [Option.bind_eq_bind,
      readRun_renderPieces false fun p hp => h p (List.mem_of_mem_take hp),
      readRun_renderPieces true fun p hp => h p (List.mem_of_mem_drop hp), Option.bind_some,
      hfront, hback]
    rw [if_neg (by omega), show 8 - i - (8 - (i + n)) = n by omega, hwhole]

theorem readDecimalPart_lt {cs : List Char} {n : Nat} (h : readDecimalPart cs = some n) :
    n < 256 := by
  rw [readDecimalPart] at h
  split at h
  next hcs =>
    rw [← Option.some.inj h]
    exact hcs.2.2.2
  next => cases h

theorem readDecimalTail_lt {cs : List Char} {ps : List Nat} (h : readDecimalTail cs = some ps) :
    ∀ p ∈ ps, p < 16 ^ 4 := by
  unfold readDecimalTail at h
  split at h
  next a b c d hparts =>
    obtain ⟨hlength, hget⟩ := List.forall₂_iff_get.mp (Outcome.mapM_eq_some.mp hparts)
    rw [List.length_cons, List.length_cons, List.length_cons, List.length_singleton] at hlength
    have ha : a < 256 := readDecimalPart_lt (hget 0 (by omega) (by simp))
    have hb : b < 256 := readDecimalPart_lt (hget 1 (by omega) (by simp))
    have hc : c < 256 := readDecimalPart_lt (hget 2 (by omega) (by simp))
    have hd : d < 256 := readDecimalPart_lt (hget 3 (by omega) (by simp))
    rw [← Option.some.inj h]
    intro p hp
    obtain rfl | rfl := List.mem_pair.mp hp
    · omega
    · omega
  next => cases h

theorem readPieces_lt {last : Bool} {parts : List (List Char)} {ps : List Nat}
    (h : readPieces last parts = some ps) : ∀ p ∈ ps, p < 16 ^ 4 := by
  fun_induction readPieces last parts generalizing ps with
  | case1 =>
    cases h
    exact fun p hp => absurd hp List.not_mem_nil
  | case2 cs hdot hlast => exact readDecimalTail_lt h
  | case3 cs hdot hlast => cases h
  | case4 cs hdot =>
    obtain ⟨p, hp, rfl⟩ := Option.map_eq_some_iff.mp h
    intro q hq
    rw [List.mem_singleton.mp hq]
    exact readPiece_lt hp
  | case5 cs rest hne ih =>
    obtain ⟨p, hp, h⟩ := Option.bind_eq_some_iff.mp h
    obtain ⟨qs, hqs, h⟩ := Option.bind_eq_some_iff.mp h
    rw [← Option.some.inj h]
    exact List.forall_mem_cons.mpr ⟨readPiece_lt hp, ih hqs⟩

theorem readRun_lt {last : Bool} {cs : List Char} {ps : List Nat}
    (h : readRun last cs = some ps) : ∀ p ∈ ps, p < 16 ^ 4 := by
  rw [readRun] at h
  split at h
  · cases h
    exact fun p hp => absurd hp List.not_mem_nil
  · exact readPieces_lt h

/-- **An address that is read** has eight pieces of two bytes each. -/
theorem readIpv6_spec {cs : List Char} {ps : List Nat} (h : readIpv6 cs = .ok ps) :
    ps.length = 8 ∧ ∀ p ∈ ps, p < 16 ^ 4 := by
  unfold readIpv6 at h
  dsimp only at h
  split at h
  next qs hqs =>
    cases h
    split at hqs
    next a b =>
      obtain ⟨front, hfront, hqs⟩ := Option.bind_eq_some_iff.mp hqs
      obtain ⟨back, hback, hqs⟩ := Option.bind_eq_some_iff.mp hqs
      split at hqs
      next => cases hqs
      next hle =>
        rw [← Option.some.inj hqs]
        refine ⟨?_, fun p hp => ?_⟩
        · simp only [List.length_append, List.length_replicate]
          omega
        · simp only [List.mem_append, List.mem_replicate] at hp
          obtain (hp | ⟨-, rfl⟩) | hp := hp
          · exact readRun_lt hfront p hp
          · decide
          · exact readRun_lt hback p hp
    next =>
      obtain ⟨qs, hrun, hqs⟩ := Option.bind_eq_some_iff.mp hqs
      split at hqs
      next hlength =>
        rw [← Option.some.inj hqs]
        exact ⟨hlength, readRun_lt hrun⟩
      next => cases hqs
  next => cases h

end RestLoom.Url
