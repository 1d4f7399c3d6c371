import RestLoom.FileTree.Location
import RestLoom.Proofs.Text.Lines

/-!
# Proofs/FileTree/Location — files of a directory and their extensions

    out/a.rs  ──withExtension tmp──▸  out/a.tmp

The name of a file in a directory is the last part of its location, so another extension leaves the
directory as it is (`withExtension_inside`).
-/

namespace RestLoom.FileTree.Location

open RestLoom.Text

/-- Whether characters are the name of a file without its extension. -/
structure IsStem (stem : List Char) : Prop where
  ne_nil : stem ≠ []
  slash : '/' ∉ stem
  dot : '.' ∉ stem

/-- Whether characters are the name of a file: one part, which is no dots. -/
structure IsFileName (name : List Char) : Prop where
  ne_nil : name ≠ []
  slash : '/' ∉ name
  ne_dot : name ≠ ['.']
  ne_dots : name ≠ ['.', '.']

theorem isFileName_append {stem ext : List Char} (hstem : IsStem stem) (hslash : '/' ∉ ext) :
    IsFileName (stem ++ '.' :: ext) := by
  have hmem : '/' ∉ stem ++ '.' :: ext := by
    simp [hstem.slash, hslash]
  obtain ⟨c, cs, rfl⟩ := List.exists_cons_of_ne_nil hstem.ne_nil
  have hdot : c ≠ '.' := fun h => hstem.dot (h ▸ List.mem_cons_self)
  exact ⟨List.cons_ne_nil _ _, hmem, fun h => hdot (List.cons.inj h).1,
    fun h => hdot (List.cons.inj h).1⟩

/-- What stands before a name in a directory: nothing, or text up to a slash. -/
structure Leads (before : List Char) : Prop where
  eq : before = [] ∨ ∃ q, before = q ++ ['/']

/-- **The files of a directory** all have the same text before their names. -/
theorem exists_inside_eq (dir : Location) : ∃ before, Leads before ∧
    ∀ name : List Char, name.head? ≠ some '/' → dir.inside ⟨name⟩ = ⟨before ++ name⟩ := by
  have habsolute {name : List Char} (h : name.head? ≠ some '/') :
      (Location.mk name).isAbsolute = false := beq_false_of_ne h
  by_cases hdir : dir.text = [] ∨ dir.text.getLast? = some '/'
  · refine ⟨dir.text, ⟨hdir.imp_right fun hlast => ?_⟩, fun name hname => ?_⟩
    · exact ⟨dir.text.dropLast, (List.dropLast_append_getLast? '/' hlast).symm⟩
    · rw [inside, habsolute hname, if_neg Bool.false_ne_true, if_pos hdir]
  · refine ⟨dir.text ++ ['/'], ⟨.inr ⟨dir.text, rfl⟩⟩, fun name hname => ?_⟩
    rw [inside, habsolute hname, if_neg Bool.false_ne_true, if_neg hdir, List.append_assoc]
    rfl

variable {before stem : List Char}

theorem splitAt_slash (q : List Char) {name : List Char} (hslash : '/' ∉ name) :
    (splitAt (· == '/') (q ++ '/' :: name)).reverse = name :: (splitAt (· == '/') q).reverse := by
  have hname : splitAt (· == '/') name = [name] :=
    splitAt_of_forall fun c hc => beq_false_of_ne fun h => hslash (h ▸ hc)
  rw [splitAt_append rfl, hname, List.reverse_concat]

theorem join_slash (q other : List Char) :
    join ['/'] (other :: (splitAt (· == '/') q).reverse).reverse = q ++ '/' :: other := by
  rw [List.reverse_cons, List.reverse_reverse, join_concat _ (splitAt_ne_nil q),
    join_splitAt fun c => beq_iff_eq, List.append_assoc]
  rfl

/-- The last part of a location that ends in a name. -/
theorem exists_parts (hbefore : Leads before) {name : List Char} (hslash : '/' ∉ name)
    (hname : name ≠ []) : ∃ ps, (Location.mk (before ++ name)).partsReversed = name :: ps ∧
      ∀ other, ofPartsReversed (Location.mk (before ++ name)).isAbsolute (other :: ps) =
        ⟨before ++ other⟩ := by
  have hparts : splitAt (· == '/') name = [name] :=
    splitAt_of_forall fun c hc => beq_false_of_ne fun h => hslash (h ▸ hc)
  obtain rfl | ⟨q, rfl⟩ := hbefore.eq
  · have hrelative : (Location.mk ([] ++ name)).isAbsolute = false := by
      obtain ⟨c, cs, rfl⟩ := List.exists_cons_of_ne_nil hname
      exact beq_false_of_ne fun h => hslash (Option.some.inj h ▸ List.mem_cons_self)
    refine ⟨[], ?_, fun other => ?_⟩
    · rw [partsReversed, hrelative, if_neg Bool.false_ne_true, List.nil_append, hparts]
      rfl
    · rw [hrelative]
      rfl
  · rw [List.append_assoc, List.singleton_append]
    cases q with
    | nil =>
      refine ⟨[], ?_, fun other => rfl⟩
      change (splitAt (· == '/') name).reverse = _
      rw [hparts]
      rfl
    | cons c q =>
      by_cases hc : c = '/'
      · subst hc
        refine ⟨(splitAt (· == '/') q).reverse, splitAt_slash q hslash, fun other => ?_⟩
        change Location.mk (['/'] ++ join ['/'] (other :: _).reverse) = _
        rw [join_slash, List.append_assoc]
        rfl
      · have hrelative : (Location.mk (c :: q ++ '/' :: name)).isAbsolute = false :=
          beq_false_of_ne fun h => hc (Option.some.inj h)
        refine ⟨(splitAt (· == '/') (c :: q)).reverse, ?_, fun other => ?_⟩
        · rw [partsReversed, hrelative, if_neg Bool.false_ne_true]
          exact splitAt_slash (c :: q) hslash
        · rw [hrelative]
          change Location.mk ([] ++ join ['/'] (other :: _).reverse) = _
          rw [join_slash, List.nil_append, List.append_assoc]
          rfl

/-- The extension is what follows the last dot. -/
theorem stemOf_append (hstem : IsStem stem) {ext : List Char} (hext : '.' ∉ ext) :
    stemOf (stem ++ '.' :: ext) = stem := by
  have hkeep : ∀ c ∈ ext.reverse, (c != '.') = true := fun c hc =>
    bne_iff_ne.mpr fun h => hext (h ▸ List.mem_reverse.mp hc)
  have hdrop : ((stem ++ '.' :: ext).reverse.dropWhile (· != '.')) = '.' :: stem.reverse := by
    rw [List.reverse_append, List.reverse_cons, List.append_assoc,
      List.dropWhile_append_of_pos hkeep]
    rfl
  rw [stemOf, hdrop]
  dsimp only
  rw [if_neg (List.reverse_eq_nil_iff.not.mpr hstem.ne_nil), List.reverse_reverse]

/-- What stands before an extension begins the name. -/
theorem stemOf_isPrefix (name : List Char) : stemOf name <+: name := by
  have hsuffix := List.dropWhile_suffix (l := name.reverse) (· != '.')
  rw [stemOf]
  split
  next before hdrop =>
    split
    · exact List.prefix_rfl
    · rw [hdrop] at hsuffix
      have hbefore := ((List.suffix_cons _ before).trans hsuffix).reverse
      rwa [List.reverse_reverse] at hbefore
  next => exact List.prefix_rfl

theorem withExtension_append (hbefore : Leads before) {name : List Char} (hname : IsFileName name)
    (ext : List Char) : (Location.mk (before ++ name)).withExtension ext =
      ⟨before ++ (stemOf name ++ '.' :: ext)⟩ := by
  obtain ⟨ps, hparts, hrejoin⟩ := exists_parts hbefore hname.slash hname.ne_nil
  have htrimmed (a : Bool) : trimmed a (name :: ps) = name :: ps := by
    rw [trimmed, if_neg]
    rintro (hnil | ⟨hdot, -⟩)
    · exact hname.ne_nil hnil
    · exact hname.ne_dot hdot
  have hfile : (Location.mk (before ++ name)).fileName? = some name := by
    rw [fileName?, hparts, htrimmed]
    exact if_neg (not_or.mpr ⟨hname.ne_dot, hname.ne_dots⟩)
  rw [withExtension, hfile]
  dsimp only
  rw [hparts, htrimmed, List.drop_one, List.tail_cons, hrejoin]

theorem head?_ne_slash {name : List Char} (h : '/' ∉ name) : name.head? ≠ some '/' := fun hhead =>
  h (List.mem_of_head? hhead)

/-- **Another extension** leaves a file in its directory. -/
theorem withExtension_inside_name (dir : Location) {name : List Char} (hname : IsFileName name)
    {ext : List Char} (hext : '/' ∉ ext) : (dir.inside ⟨name⟩).withExtension ext =
      dir.inside ⟨stemOf name ++ '.' :: ext⟩ := by
  obtain ⟨before, hbefore, hinside⟩ := exists_inside_eq dir
  have hstem : '/' ∉ stemOf name := fun h => hname.slash ((stemOf_isPrefix name).subset h)
  have hother : '/' ∉ stemOf name ++ '.' :: ext := by simp [hext, hstem]
  rw [hinside _ (head?_ne_slash hname.slash), hinside _ (head?_ne_slash hother),
    withExtension_append hbefore hname]

theorem head?_append_ne (hstem : IsStem stem) (ext : List Char) :
    (stem ++ '.' :: ext).head? ≠ some '/' := by
  obtain ⟨c, cs, rfl⟩ := List.exists_cons_of_ne_nil hstem.ne_nil
  rintro hc
  obtain rfl : c = '/' := Option.some.inj hc
  exact hstem.slash List.mem_cons_self

/-- A stem keeps its directory, whatever extension it has. -/
theorem withExtension_inside (dir : Location) (hstem : IsStem stem) {ext ext' : List Char}
    (hext : '.' ∉ ext) (hslash : '/' ∉ ext) (hslash' : '/' ∉ ext') :
    (dir.inside ⟨stem ++ '.' :: ext⟩).withExtension ext' = dir.inside ⟨stem ++ '.' :: ext'⟩ := by
  rw [withExtension_inside_name dir (isFileName_append hstem hslash) hslash',
    stemOf_append hstem hext]

theorem inside_inj (dir : Location) {a b : List Char} (ha : a.head? ≠ some '/')
    (hb : b.head? ≠ some '/') (h : dir.inside ⟨a⟩ = dir.inside ⟨b⟩) : a = b := by
  obtain ⟨before, -, hinside⟩ := exists_inside_eq dir
  rw [hinside a ha, hinside b hb] at h
  exact List.append_cancel_left (congrArg Location.text h)

/-- A name and its extension can be told from a file in a directory. -/
theorem inside_stem_inj (dir : Location) {stem' ext ext' : List Char} (hstem : IsStem stem)
    (hstem' : IsStem stem') (hext : '.' ∉ ext) (hext' : '.' ∉ ext')
    (h : dir.inside ⟨stem ++ '.' :: ext⟩ = dir.inside ⟨stem' ++ '.' :: ext'⟩) :
    stem = stem' ∧ ext = ext' := by
  have hname := inside_inj dir (head?_append_ne hstem ext) (head?_append_ne hstem' ext') h
  have heq := stemOf_append hstem hext
  rw [hname, stemOf_append hstem' hext'] at heq
  subst heq
  exact ⟨rfl, List.cons_injective (List.append_cancel_left hname)⟩

end RestLoom.FileTree.Location
