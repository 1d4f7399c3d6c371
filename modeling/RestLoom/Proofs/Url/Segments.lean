import Mathlib.Data.Bool.AllAny
import Mathlib.Data.List.Basic
import RestLoom.Proofs.Percent.Basic
import RestLoom.Proofs.Text.Lines
import RestLoom.Url.Parse

/-!
# Proofs/Url/Segments — segments are read back unless they stand for dots

    a/b/c  ──readSegments──▸  [a, b, c]            a/../c  ──readSegments──▸  [c]

A segment that stands for one dot or for two goes while a path is read, however the dots are written
(`isDot_iff`, `isDoubleDot_iff`).  Every other one stays in its place, so a path without dots has as
many segments as its text has parts (`readSegments_join`), and no path that was read has such a
segment (`isSegment_of_mem_readSegments`).
-/

namespace RestLoom.Url

open RestLoom.Text

/-! ## Dots -/

theorem toNat_lt_of_toLower {c : Char} (h : c.toLower.toNat < 128) : c.toNat < 128 := by
  delta Char.toLower at h
  split at h
  next hupper =>
    have hle := UInt32.le_iff_toNat_le.mp hupper.2
    exact Nat.lt_of_le_of_lt hle (by decide)
  next => exact h

/-- The characters of an escaped dot. -/
theorem toLower_eq {c d : Char} (h : c.toLower = d) (hd : d.toNat < 128) :
    (d = '%' → c = '%') ∧ (d = '2' → c = '2') ∧ (d = 'e' → c = 'e' ∨ c = 'E') := by
  subst h
  exact forall_ascii (P := fun c => (c.toLower = '%' → c = '%') ∧ (c.toLower = '2' → c = '2') ∧
    (c.toLower = 'e' → c = 'e' ∨ c = 'E')) (by decide) (toNat_lt_of_toLower hd)

/-- The ways to write a dot. -/
theorem isDot_eq_true {s : List Char} :
    isDot s = true ↔ s = ['.'] ∨ s = ['%', '2', 'e'] ∨ s = ['%', '2', 'E'] := by
  rw [isDot, Bool.or_eq_true, beq_iff_eq, beq_iff_eq]
  refine or_congr_right ⟨fun h => ?_, ?_⟩
  · obtain ⟨a, s, rfl, ha, h⟩ := List.map_eq_cons_iff.mp h
    obtain ⟨b, s, rfl, hb, h⟩ := List.map_eq_cons_iff.mp h
    obtain ⟨e, s, rfl, he, h⟩ := List.map_eq_cons_iff.mp h
    obtain rfl := List.map_eq_nil_iff.mp h
    obtain rfl := (toLower_eq ha (by decide)).1 rfl
    obtain rfl := (toLower_eq hb (by decide)).2.1 rfl
    obtain rfl | rfl := (toLower_eq he (by decide)).2.2 rfl
    · exact .inl rfl
    · exact .inr rfl
  · rintro (rfl | rfl)
    · rfl
    · rfl

theorem eq_of_hexValue {c : Char} {d : Nat} (h : Percent.hexValue c = some d) :
    (d = 2 → c = '2') ∧ (d = 14 → c = 'e' ∨ c = 'E') :=
  forall_ascii (P := fun c => ∀ d ∈ Percent.hexValue c, (d = 2 → c = '2') ∧
    (d = 14 → c = 'e' ∨ c = 'E')) (by decide) (Percent.toNat_lt_of_hexValue h) d h

/-- **A dot in front** is written in one of those ways. -/
theorem decode_eq_dot_cons {s : List Char} {bs : List UInt8} :
    Percent.decode s = 0x2e :: bs ↔
      ∃ dot rest, s = dot ++ rest ∧ isDot dot = true ∧ Percent.decode rest = bs := by
  constructor
  · intro h
    unfold Percent.decode at h
    split at h
    next a b cs =>
      split at h
      next x y hx hy =>
        rw [List.cons.injEq] at h
        have hvalue := congrArg UInt8.toNat h.1
        have hxlt := Percent.hexValue_lt hx
        have hylt := Percent.hexValue_lt hy
        rw [UInt8.toNat_ofNat', Nat.mod_eq_of_lt (by omega)] at hvalue
        have hdigits : x = 2 ∧ y = 14 := by
          change 16 * x + y = 46 at hvalue
          omega
        obtain rfl := (eq_of_hexValue hx).1 hdigits.1
        refine ⟨['%', '2', b], cs, rfl, isDot_eq_true.mpr (.inr ?_), h.2⟩
        obtain rfl | rfl := (eq_of_hexValue hy).2 hdigits.2
        · exact .inl rfl
        · exact .inr rfl
      next =>
        have hpercent := (eq_of_utf8EncodeChar_append (by decide) h).1
        exact absurd hpercent (by decide)
    next c cs _ =>
      obtain ⟨rfl, hrest⟩ := eq_of_utf8EncodeChar_append (by decide) h
      exact ⟨['.'], cs, rfl, rfl, hrest⟩
    next => cases h
  · rintro ⟨dot, rest, rfl, hdot, rfl⟩
    obtain rfl | rfl | rfl := isDot_eq_true.mp hdot
    · exact Percent.decode_cons (by decide) rest
    · rfl
    · rfl

theorem decode_eq_nil {s : List Char} : Percent.decode s = [] ↔ s = [] := by
  constructor
  · intro h
    unfold Percent.decode at h
    split at h
    next =>
      split at h
      next => cases h
      next => exact absurd (List.append_eq_nil_iff.mp h).1 String.utf8EncodeChar_ne_nil
    next => exact absurd (List.append_eq_nil_iff.mp h).1 String.utf8EncodeChar_ne_nil
    next => rfl
  · rintro rfl
    rfl

/-- **A dot** is what stands for the byte of one. -/
theorem isDot_iff {s : List Char} : isDot s = true ↔ Percent.decode s = [0x2e] := by
  rw [decode_eq_dot_cons]
  constructor
  · intro h
    exact ⟨s, [], (List.append_nil s).symm, h, rfl⟩
  · rintro ⟨dot, rest, rfl, hdot, hrest⟩
    rw [decode_eq_nil.mp hrest, List.append_nil]
    exact hdot

/-- **Two dots** are what stands for the bytes of two. -/
theorem isDoubleDot_iff {s : List Char} :
    isDoubleDot s = true ↔ Percent.decode s = [0x2e, 0x2e] := by
  rw [decode_eq_dot_cons]
  constructor
  · intro h
    rw [isDoubleDot, Bool.or_eq_true, Bool.and_eq_true, Bool.and_eq_true] at h
    obtain ⟨hfirst, hsecond⟩ | ⟨hfirst, hsecond⟩ := h
    · exact ⟨s.take 1, s.drop 1, (List.take_append_drop 1 s).symm, hfirst, isDot_iff.mp hsecond⟩
    · exact ⟨s.take 3, s.drop 3, (List.take_append_drop 3 s).symm, hfirst, isDot_iff.mp hsecond⟩
  · rintro ⟨dot, rest, rfl, hdot, hrest⟩
    have hsecond := isDot_iff.mpr hrest
    rw [isDoubleDot, Bool.or_eq_true, Bool.and_eq_true, Bool.and_eq_true]
    obtain rfl | rfl | rfl := isDot_eq_true.mp hdot
    · exact .inl ⟨rfl, hsecond⟩
    · exact .inr ⟨rfl, hsecond⟩
    · exact .inr ⟨rfl, hsecond⟩

/-! ## Collecting -/

/-- Whether a piece stays a segment. -/
def IsKept (p : List Char) : Prop := isDoubleDot p = false ∧ isDot p = false

/-- A word without dots and escapes is no dot. -/
theorem isKept_of_forall {s : List Char} (h : ∀ c ∈ s, c ≠ '.' ∧ c ≠ '%') : IsKept s := by
  have hdot : ∀ dot rest : List Char, s = dot ++ rest → isDot dot = false := by
    rintro dot rest rfl
    rw [Bool.eq_false_iff]
    intro hdot
    obtain rfl | rfl | rfl := isDot_eq_true.mp hdot
    · exact (h '.' (List.mem_append_left _ List.mem_cons_self)).1 rfl
    · exact (h '%' (List.mem_append_left _ List.mem_cons_self)).2 rfl
    · exact (h '%' (List.mem_append_left _ List.mem_cons_self)).2 rfl
  refine ⟨?_, hdot s [] (List.append_nil s).symm⟩
  rw [isDoubleDot, hdot (s.take 1) (s.drop 1) (List.take_append_drop 1 s).symm,
    hdot (s.take 3) (s.drop 3) (List.take_append_drop 3 s).symm]
  rfl

/-- **An encoded value** is kept unless it is one dot or two. -/
theorem isKept_encode_iff {text : List Char} :
    IsKept (Percent.encode Percent.unreserved text) ↔ text ≠ ['.'] ∧ text ≠ ['.', '.'] := by
  have hone : utf8 text = [0x2e] ↔ text = ['.'] := by
    refine ⟨fun h => eq_of_utf8_eq (List.all_iff_forall_prop.mp (by decide)) (h.trans rfl), ?_⟩
    rintro rfl
    rfl
  have htwo : utf8 text = [0x2e, 0x2e] ↔ text = ['.', '.'] := by
    refine ⟨fun h => eq_of_utf8_eq (List.all_iff_forall_prop.mp (by decide)) (h.trans rfl), ?_⟩
    rintro rfl
    rfl
  rw [IsKept, ← Bool.not_eq_true, ← Bool.not_eq_true, isDot_iff, isDoubleDot_iff,
    Percent.decode_encode rfl, hone, htwo, and_comm]

/-- The segments so far, last first, after one more piece. -/
def pushPiece (done : List (List Char)) (p : List Char) (isLast : Bool) : List (List Char) :=
  let close (done : List (List Char)) := if isLast then [] :: done else done
  if isDoubleDot p then close (dropLastSegment done) else if isDot p then close done else p :: done

theorem collectSegments_cons (done : List (List Char)) (p : List Char) (ps : List (List Char)) :
    collectSegments done (p :: ps) = collectSegments (pushPiece done p ps.isEmpty) ps := by
  rw [collectSegments, pushPiece]
  simp only [List.isEmpty_iff]
  split
  · rfl
  · split <;> rfl

theorem pushPiece_of_isKept {done : List (List Char)} {p : List Char} (h : IsKept p)
    (isLast : Bool) : pushPiece done p isLast = p :: done := by
  rw [pushPiece, h.1, h.2]
  rfl

/-- **Kept pieces** are the segments. -/
theorem collectSegments_of_isKept {done ps : List (List Char)} (h : ∀ p ∈ ps, IsKept p) :
    collectSegments done ps = done.reverse ++ ps := by
  induction ps generalizing done with
  | nil => exact (List.append_nil _).symm
  | cons p ps ih =>
    rw [List.forall_mem_cons] at h
    rw [collectSegments_cons, pushPiece_of_isKept h.1, ih h.2, List.reverse_cons, List.append_assoc]
    rfl

theorem mem_of_mem_dropLastSegment {done : List (List Char)} {s : List Char}
    (h : s ∈ dropLastSegment done) : s ∈ done := by
  cases done with
  | nil => exact h
  | cons first done =>
    rw [dropLastSegment] at h
    split at h
    next => exact h
    next => exact List.mem_cons_of_mem first h

theorem mem_pushPiece {done : List (List Char)} {p s : List Char} {isLast : Bool}
    (h : s ∈ pushPiece done p isLast) : s ∈ done ∨ s = [] ∨ s = p ∧ IsKept s := by
  have hclose (kept : List (List Char)) (hs : s ∈ if isLast then [] :: kept else kept) :
      s ∈ kept ∨ s = [] := by
    split at hs
    · exact (List.mem_cons.mp hs).symm
    · exact .inl hs
  rw [pushPiece] at h
  split at h
  next =>
    obtain hs | hs := hclose _ h
    · exact .inl (mem_of_mem_dropLastSegment hs)
    · exact .inr (.inl hs)
  next hdouble =>
    split at h
    next =>
      obtain hs | hs := hclose _ h
      · exact .inl hs
      · exact .inr (.inl hs)
    next hdot =>
      obtain rfl | hs := List.mem_cons.mp h
      · exact .inr (.inr ⟨rfl, Bool.eq_false_iff.mpr hdouble, Bool.eq_false_iff.mpr hdot⟩)
      · exact .inl hs

/-- **Where segments come from**: each is a kept piece or empty. -/
theorem mem_collectSegments {done ps : List (List Char)} {s : List Char}
    (h : s ∈ collectSegments done ps) : s ∈ done ∨ s = [] ∨ s ∈ ps ∧ IsKept s := by
  induction ps generalizing done with
  | nil => exact .inl (List.mem_reverse.mp h)
  | cons p ps ih =>
    rw [collectSegments_cons] at h
    obtain hs | hs | ⟨hs, hkept⟩ := ih h
    · obtain hs | hs | ⟨rfl, hkept⟩ := mem_pushPiece hs
      · exact .inl hs
      · exact .inr (.inl hs)
      · exact .inr (.inr ⟨List.mem_cons_self, hkept⟩)
    · exact .inr (.inl hs)
    · exact .inr (.inr ⟨List.mem_cons_of_mem p hs, hkept⟩)

theorem length_pushPiece_le (done : List (List Char)) (p : List Char) (isLast : Bool) :
    (pushPiece done p isLast).length ≤ done.length + 1 := by
  have hclose (kept : List (List Char)) (hle : kept.length ≤ done.length) :
      (if isLast then [] :: kept else kept).length ≤ done.length + 1 := by
    split
    · exact Nat.succ_le_succ hle
    · exact Nat.le_succ_of_le hle
  have hdrop : (dropLastSegment done).length ≤ done.length := by
    cases done with
    | nil => exact Nat.le_refl 0
    | cons first done =>
      rw [dropLastSegment]
      split
      · exact Nat.le_refl _
      · exact Nat.le_succ _
  rw [pushPiece]
  split
  · exact hclose _ hdrop
  · split
    · exact hclose _ (Nat.le_refl _)
    · exact Nat.le_refl _

/-- **No piece makes two segments.** -/
theorem length_collectSegments_le (done ps : List (List Char)) :
    (collectSegments done ps).length ≤ done.length + ps.length := by
  induction ps generalizing done with
  | nil => rw [collectSegments, List.length_reverse]; exact Nat.le_refl _
  | cons p ps ih =>
    rw [collectSegments_cons, List.length_cons]
    have hle := ih (pushPiece done p ps.isEmpty)
    have hpush := length_pushPiece_le done p ps.isEmpty
    omega

/-- An empty piece at the end is the last segment. -/
theorem exists_collectSegments_concat (done ps : List (List Char)) :
    ∃ front, collectSegments done (ps ++ [[]]) = front ++ [[]] := by
  induction ps generalizing done with
  | nil =>
    rw [List.nil_append, collectSegments_of_isKept]
    · exact ⟨done.reverse, rfl⟩
    · intro p hp
      rw [List.mem_singleton.mp hp]
      exact ⟨rfl, rfl⟩
  | cons p ps ih =>
    rw [List.cons_append, collectSegments_cons]
    exact ih _

/-! ## Paths -/

variable {special : Bool}

/-- What a segment of a path is that was read: not dots, encoded, and without slashes. -/
structure IsSegment (special : Bool) (s : List Char) : Prop where
  kept : IsKept s
  encoded : ∀ c ∈ s, Percent.path c = true
  slashless : ∀ c ∈ s, isSlash special c = false

theorem isSegment_nil : IsSegment special [] := ⟨⟨rfl, rfl⟩, nofun, nofun⟩

theorem isSlash_eq_false {c : Char} (h : isSlash true c = false) : isSlash special c = false := by
  rw [isSlash, Bool.or_eq_false_iff] at h
  rw [isSlash, h.1, show (c == '\\') = false from h.2, Bool.and_false, Bool.or_false]

theorem isSlash_of_inEscape {c : Char} (h : Percent.inEscape c = true) :
    isSlash special c = false :=
  isSlash_eq_false (forall_ascii (P := fun c => Percent.inEscape c = true → isSlash true c = false)
    (by decide) (Percent.toNat_lt_of_inEscape h) h)

/-- A piece of a path is a segment if it is kept. -/
theorem isSegment_of_mem_pieces {cs p : List Char} (hp : p ∈ pieces special cs) (hkept : IsKept p) :
    IsSegment special p := by
  obtain ⟨part, hpart, rfl⟩ := List.mem_map.mp hp
  refine ⟨hkept, fun c hc => ?_, fun c hc => ?_⟩
  · exact (Percent.mem_encode hc).elim (fun h => h.2) Percent.path_of_inEscape
  · exact (Percent.mem_encode hc).elim (fun h => (mem_of_mem_splitAt hpart h.1).2)
      isSlash_of_inEscape

/-- **The segments of a path that was read.** -/
theorem isSegment_of_mem_readSegments {cs s : List Char} (h : s ∈ readSegments special cs) :
    IsSegment special s := by
  obtain hs | rfl | ⟨hs, hkept⟩ := mem_collectSegments h
  · cases hs
  · exact isSegment_nil
  · exact isSegment_of_mem_pieces hs hkept

/-- The pieces of encoded segments are the segments. -/
theorem pieces_join {segs : List (List Char)} (hne : segs ≠ [])
    (hencoded : ∀ s ∈ segs, ∀ c ∈ s, Percent.path c = true)
    (hslash : ∀ s ∈ segs, ∀ c ∈ s, isSlash special c = false) :
    pieces special (join ['/'] segs) = segs := by
  rw [pieces, splitAt_join rfl hne hslash]
  exact (List.map_congr_left fun s hs => Percent.encode_eq_self (hencoded s hs)).trans
    (List.map_id segs)

/-- **Segments are read back** from their text. -/
theorem readSegments_join {segs : List (List Char)} (hne : segs ≠ [])
    (h : ∀ s ∈ segs, IsSegment special s) : readSegments special (join ['/'] segs) = segs := by
  rw [readSegments, pieces_join hne (fun s hs => (h s hs).encoded) fun s hs => (h s hs).slashless,
    collectSegments_of_isKept fun s hs => (h s hs).kept]
  rfl

/-- A path that ends in a slash ends in an empty segment. -/
theorem exists_readSegments_concat (cs : List Char) :
    ∃ front, readSegments special (cs ++ ['/']) = front ++ [[]] := by
  rw [readSegments, pieces, splitAt_concat rfl, List.map_append]
  exact exists_collectSegments_concat _ _

end RestLoom.Url
