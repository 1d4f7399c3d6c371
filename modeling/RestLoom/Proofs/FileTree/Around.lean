import RestLoom.Proofs.FileTree.Location

/-!
# Proofs/FileTree/Around — the directory around a file, as a location

    out/./gen//  ──inside a.rs──▸  out/./gen//a.rs  ──parent?──▸  out/./gen

A location with the name of a file inside it has the parts of the location, up to a slash at its
end, and the name (`partsReversed_inside`).  Its parent is the location without the parts at its end
that are no components (`parent?_inside`), and the parent of that is the same (`parent?_around`).
-/

namespace RestLoom.FileTree.Location

open RestLoom.Text

/-! ## Parts -/

/-- The text of a location after the slash of the root. -/
def body (l : Location) : List Char := if l.isAbsolute then l.text.drop 1 else l.text

theorem partsReversed_eq (l : Location) : l.partsReversed = (splitAt (· == '/') l.body).reverse :=
  rfl

theorem not_mem_of_mem_splitAt {cs part : List Char} (h : part ∈ splitAt (· == '/') cs) :
    '/' ∉ part := fun hmem => by
  have hslash := (mem_of_mem_splitAt h hmem).2
  cases hslash

theorem not_mem_of_mem_partsReversed {l : Location} {part : List Char}
    (h : part ∈ l.partsReversed) : '/' ∉ part :=
  not_mem_of_mem_splitAt (List.mem_reverse.mp h)

/-- More text leaves the beginning as it is. -/
theorem body_append {l : Location} (h : l.text ≠ []) (more : List Char) :
    (Location.mk (l.text ++ more)).body = l.body ++ more ∧
      (Location.mk (l.text ++ more)).isAbsolute = l.isAbsolute := by
  obtain ⟨c, cs, hcs⟩ := List.exists_cons_of_ne_nil h
  have habsolute : (Location.mk (l.text ++ more)).isAbsolute = l.isAbsolute := by
    rw [isAbsolute, isAbsolute, hcs]
    rfl
  refine ⟨?_, habsolute⟩
  rw [body, body, habsolute]
  split
  · rw [hcs]
    rfl
  · rfl

/-- A slash at the end is the root's, or ends the rest of the text. -/
theorem body_of_getLast? {l : Location} (h : l.text.getLast? = some '/') :
    l.body = [] ∨ ∃ q, l.body = q ++ ['/'] := by
  obtain ⟨q, hq⟩ : ∃ q, l = ⟨q ++ ['/']⟩ :=
    ⟨l.text.dropLast, congrArg Location.mk (List.dropLast_append_getLast? '/' h).symm⟩
  subst hq
  by_cases hnil : q = []
  · subst hnil
    exact .inl rfl
  · exact .inr ⟨_, (body_append (l := ⟨q⟩) hnil ['/']).1⟩

/-- The parts that lead inside a location, last part first; a slash at the end has none after it. -/
def partsInside (dir : Location) : List (List Char) :=
  if dir.text = [] ∨ dir.text.getLast? = some '/' then dir.partsReversed.drop 1
  else dir.partsReversed

variable {dir : Location} {name : List Char}

theorem splitAt_name (hslash : '/' ∉ name) : splitAt (· == '/') name = [name] :=
  splitAt_of_forall fun _ hc => beq_false_of_ne fun h => hslash (h ▸ hc)

/-- **The parts of a file** are those of its directory, and its name. -/
theorem partsReversed_inside (dir : Location) (h : IsFileName name) :
    (dir.inside ⟨name⟩).partsReversed = name :: partsInside dir ∧
      (dir.inside ⟨name⟩).isAbsolute = dir.isAbsolute := by
  obtain ⟨hne, hslash, -, -⟩ := h
  have hrelative : (Location.mk name).isAbsolute = false := by
    obtain ⟨c, cs, rfl⟩ := List.exists_cons_of_ne_nil hne
    exact beq_false_of_ne fun h => hslash (Option.some.inj h ▸ List.mem_cons_self)
  rw [inside, hrelative, if_neg Bool.false_ne_true, partsInside]
  by_cases hnil : dir.text = []
  · have hdir : dir = ⟨[]⟩ := by
      obtain ⟨text⟩ := dir
      exact congrArg Location.mk hnil
    subst hdir
    refine ⟨?_, hrelative⟩
    rw [partsReversed_eq, if_pos (.inl rfl), if_pos (.inl rfl), body, if_neg]
    · rw [List.nil_append, splitAt_name hslash]
      rfl
    · exact Bool.eq_false_iff.mp hrelative
  · by_cases hlast : dir.text.getLast? = some '/'
    · obtain ⟨hbody, habsolute⟩ := body_append hnil name
      rw [if_pos (.inr hlast), if_pos (.inr hlast)]
      refine ⟨?_, habsolute⟩
      rw [partsReversed_eq, partsReversed_eq, hbody]
      obtain hend | ⟨q, hend⟩ := body_of_getLast? hlast
      · rw [hend, List.nil_append, splitAt_name hslash]
        rfl
      · rw [hend, List.append_assoc, List.singleton_append, splitAt_slash q hslash,
          splitAt_concat rfl, List.reverse_concat]
        rfl
    · obtain ⟨hbody, habsolute⟩ := body_append hnil ('/' :: name)
      rw [if_neg (not_or.mpr ⟨hnil, hlast⟩), if_neg (not_or.mpr ⟨hnil, hlast⟩)]
      refine ⟨?_, habsolute⟩
      rw [partsReversed_eq, partsReversed_eq, hbody, splitAt_slash _ hslash]

/-! ## Components -/

/-- Parts that are no components do not end what is left. -/
theorem trimmed_suffix (absolute : Bool) (ps : List (List Char)) : trimmed absolute ps <:+ ps := by
  induction ps with
  | nil => exact List.suffix_rfl
  | cons p ps ih =>
    rw [trimmed]
    split
    · exact ih.trans (List.suffix_cons p ps)
    · exact List.suffix_rfl

theorem trimmed_trimmed (absolute : Bool) (ps : List (List Char)) :
    trimmed absolute (trimmed absolute ps) = trimmed absolute ps := by
  induction ps with
  | nil => rfl
  | cons p ps ih =>
    rw [trimmed]
    split
    next => exact ih
    next hkept => rw [trimmed, if_neg hkept]

/-- The first part of a location that does not start at the root is not empty. -/
theorem getLast?_partsReversed_ne {l : Location} (hrelative : l.isAbsolute = false)
    (hne : l.text ≠ []) : l.partsReversed.getLast? ≠ some [] := by
  obtain ⟨c, cs, hcs⟩ := List.exists_cons_of_ne_nil hne
  have hslash : ¬(c == '/') = true := by
    rw [isAbsolute, hcs, List.head?_cons] at hrelative
    simpa using hrelative
  obtain ⟨part, parts, hparts⟩ := List.exists_cons_of_ne_nil (splitAt_ne_nil (p := (· == '/')) cs)
  rw [partsReversed, hrelative, if_neg Bool.false_ne_true, List.getLast?_reverse, hcs, splitAt,
    if_neg hslash, hparts]
  simp

/-- **Parts make a location** that has them again. -/
theorem partsReversed_ofPartsReversed {absolute : Bool} {ps : List (List Char)} (hne : ps ≠ [])
    (hslash : ∀ part ∈ ps, '/' ∉ part) (hfirst : absolute = false → ps.getLast? ≠ some []) :
    (ofPartsReversed absolute ps).isAbsolute = absolute ∧
      (ofPartsReversed absolute ps).partsReversed = ps := by
  have hsplit : splitAt (· == '/') (join ['/'] ps.reverse) = ps.reverse :=
    splitAt_join rfl (List.reverse_eq_nil_iff.not.mpr hne) fun part hpart c hc =>
      beq_false_of_ne fun h => hslash part (List.mem_reverse.mp hpart) (h ▸ hc)
  cases absolute with
  | true =>
    refine ⟨rfl, ?_⟩
    change (splitAt (· == '/') (join ['/'] ps.reverse)).reverse = ps
    rw [hsplit, List.reverse_reverse]
  | false =>
    have hrelative : (ofPartsReversed false ps).isAbsolute = false := by
      obtain ⟨first, rest, hparts⟩ := List.exists_cons_of_ne_nil (List.reverse_eq_nil_iff.not.mpr hne)
      have hmem : first ∈ ps := List.mem_reverse.mp (hparts ▸ List.mem_cons_self)
      have hlast := hfirst rfl
      rw [← List.head?_reverse, hparts, List.head?_cons] at hlast
      obtain ⟨c, cs, rfl⟩ := List.exists_cons_of_ne_nil fun h => hlast (congrArg some h)
      have hhead : (join ['/'] ((c :: cs) :: rest)).head? = some c := by
        cases rest <;> rfl
      have hc : c ≠ '/' := fun h => hslash _ hmem (h ▸ List.mem_cons_self)
      change ((join ['/'] ps.reverse).head? == some '/') = false
      rw [hparts, hhead]
      exact beq_false_of_ne fun h => hc (Option.some.inj h)
    refine ⟨hrelative, ?_⟩
    rw [partsReversed, hrelative, if_neg Bool.false_ne_true]
    change (splitAt (· == '/') (join ['/'] ps.reverse)).reverse = ps
    rw [hsplit, List.reverse_reverse]

/-- **The parts at the front of a location** make a location. -/
theorem partsReversed_of_suffix {l : Location} {ps : List (List Char)} (hne : ps ≠ [])
    (htext : l.text ≠ []) (hsuffix : ps <:+ l.partsReversed) :
    (ofPartsReversed l.isAbsolute ps).isAbsolute = l.isAbsolute ∧
      (ofPartsReversed l.isAbsolute ps).partsReversed = ps := by
  refine partsReversed_ofPartsReversed hne
    (fun part hpart => not_mem_of_mem_partsReversed (hsuffix.subset hpart)) fun hrelative => ?_
  obtain ⟨back, hback⟩ := hsuffix
  rw [← List.getLast?_append_of_ne_nil back hne, hback]
  exact getLast?_partsReversed_ne hrelative htext

/-! ## The directory around a file -/

/-- The directory around the files inside a location. -/
def around (dir : Location) : Location :=
  ofPartsReversed dir.isAbsolute (trimmed dir.isAbsolute (partsInside dir))

/-- A slash at the end has no component after it. -/
theorem trimmed_partsReversed (dir : Location) :
    trimmed dir.isAbsolute dir.partsReversed = trimmed dir.isAbsolute (partsInside dir) := by
  rw [partsInside]
  split
  next hend =>
    obtain hnil | hlast := hend
    · obtain rfl : dir = ⟨[]⟩ := congrArg Location.mk hnil
      rfl
    · rw [partsReversed_eq]
      obtain hbody | ⟨q, hbody⟩ := body_of_getLast? hlast
      · rw [hbody]
        rfl
      · rw [hbody, splitAt_concat rfl, List.reverse_concat]
        exact if_pos (.inl rfl)
  next => rfl

/-- **The parent of a file** is the directory around it. -/
theorem parent?_inside (dir : Location) (h : IsFileName name) :
    (dir.inside ⟨name⟩).parent? = some (around dir) := by
  obtain ⟨hparts, habsolute⟩ := partsReversed_inside dir h
  have hkept : trimmed dir.isAbsolute (name :: partsInside dir) = name :: partsInside dir := by
    rw [trimmed, if_neg]
    rintro (hnil | ⟨hdot, -⟩)
    · exact h.ne_nil hnil
    · exact h.ne_dot hdot
  rw [parent?, hparts, habsolute, hkept]
  rfl

theorem partsInside_suffix (dir : Location) : partsInside dir <:+ dir.partsReversed := by
  rw [partsInside]
  split
  · exact List.drop_suffix 1 _
  · exact List.suffix_rfl

/-- The parts of the directory around a file are the components of the location; there is none if
these are none, but for the root. -/
theorem partsReversed_around (dir : Location) :
    (around dir).isAbsolute = dir.isAbsolute ∧ ((around dir).partsReversed =
        trimmed dir.isAbsolute (partsInside dir) ∨
      trimmed dir.isAbsolute (partsInside dir) = [] ∧ (around dir).partsReversed = [[]]) := by
  by_cases hnil : trimmed dir.isAbsolute (partsInside dir) = []
  · rw [around, hnil]
    cases dir.isAbsolute with
    | true => exact ⟨rfl, .inr ⟨rfl, rfl⟩⟩
    | false => exact ⟨rfl, .inr ⟨rfl, rfl⟩⟩
  · have hsuffix := (trimmed_suffix dir.isAbsolute (partsInside dir)).trans (partsInside_suffix dir)
    have htext : dir.text ≠ [] := fun htext =>
      hnil (by rw [partsInside, if_pos (.inl htext), partsReversed_eq, body, htext]; split <;> rfl)
    obtain ⟨habsolute, hparts⟩ := partsReversed_of_suffix hnil htext hsuffix
    exact ⟨habsolute, .inl hparts⟩

/-- **The parent of that directory** is the parent of the location. -/
theorem parent?_around (dir : Location) : (around dir).parent? = dir.parent? := by
  obtain ⟨habsolute, hparts⟩ := partsReversed_around dir
  have htrimmed : trimmed (around dir).isAbsolute (around dir).partsReversed =
      trimmed dir.isAbsolute dir.partsReversed := by
    rw [habsolute, trimmed_partsReversed]
    obtain hparts | ⟨hnil, hparts⟩ := hparts
    · rw [hparts, trimmed_trimmed]
    · rw [hparts, hnil]
      rfl
  rw [parent?, parent?, htrimmed, habsolute]

end RestLoom.FileTree.Location
