import RestLoom.FileTree.Script
import RestLoom.Proofs.FileTree.Walk

/-!
# Proofs/FileTree/Changes — what changes of files leave as it is

    t ──make out/──▸ · ──write out/a.tmp──▸ · ──rename to out/a.rs──▸ t'

A change works on the place that its location names, and on nothing else (`WritesOnly`).
Directories stay, so locations name the same places afterwards, and changes that are made one after
the other change what each of them does (`WritesOnly.trans`).
-/

namespace RestLoom

namespace FileTree

open Location (around IsFileName)

variable {t t' : FileTree} {p d : Place} {dir l : Location} {name : List Char} {text : String}

/-! ## Scripts -/

theorem Script.run_bind {α β : Type} (s : Script α) (f : α → Script β) (t : FileTree) :
    (s >>= f).run t = (f (s.run t).2).run (s.run t).1 := by
  change (s.bind f).run t = _
  induction s generalizing t with
  | done a => rfl
  | readFile l next ih => exact ih _ _
  | isDirectory l next ih => exact ih _ _
  | change c next ih => exact ih _ _

/-! ## Places of locations -/

/-- The place that a location names. -/
def placeOf? (t : FileTree) (l : Location) : Option Place :=
  match t.locate l with
  | .ok (p, .name n _) => some (p ++ [n])
  | .ok (p, .dots) => some p
  | .error _ => none

theorem Keeps.placeOf? (h : Keeps t t') (hp : t.placeOf? l = some p) :
    t'.placeOf? l = some p := by
  rw [FileTree.placeOf?] at hp ⊢
  cases hlocate : t.locate l with
  | error e =>
    rw [hlocate] at hp
    cases hp
  | ok r =>
    rw [h.locate hlocate]
    rwa [hlocate] at hp

theorem placeOf?_of_locate {slash : Bool} (h : t.locate l = .ok (p, .name name slash)) :
    t.placeOf? l = some (p ++ [name]) := by
  rw [placeOf?, h]

/-- A file in a directory is at the place of its name. -/
theorem placeOf?_inside (hname : IsFileName name) (h : t.placeOf? (dir.inside ⟨name⟩) = some p) :
    ∃ d, t.directoryAt dir = .ok d ∧ p = d ++ [name] := by
  rw [placeOf?] at h
  cases hlocate : t.locate (dir.inside ⟨name⟩) with
  | error e =>
    rw [hlocate] at h
    cases h
  | ok r =>
    obtain ⟨d, hd, rfl⟩ := locate_inside hname hlocate
    rw [hlocate] at h
    exact ⟨d, hd, (Option.some.inj h).symm⟩

/-- **Whether the second tree comes from the first one by writing** to locations inside a directory:
all directories are kept, and what else changes is the directory, which is made where nothing stood,
and what stands at the locations. -/
structure WritesOnly (dir : Location) (ls : List Location) (t t' : FileTree) : Prop where
  keeps : Keeps t t'
  changed : ∀ p, t'.get? p ≠ t.get? p →
    (t'.directoryAt dir = .ok p ∧ t.get? p = none ∧ t'.get? p = some .directory) ∨
      ∃ l ∈ ls, t'.placeOf? l = some p

theorem WritesOnly.refl (dir : Location) (ls : List Location) (t : FileTree) :
    WritesOnly dir ls t t := ⟨.refl t, fun _ h => absurd rfl h⟩

theorem WritesOnly.mono {ls ls' : List Location} (h : WritesOnly dir ls t t') (hsub : ls ⊆ ls') :
    WritesOnly dir ls' t t' where
  keeps := h.keeps
  changed p hp := (h.changed p hp).imp_right fun ⟨l, hl, hplace⟩ => ⟨l, hsub hl, hplace⟩

/-- One change after another. -/
theorem WritesOnly.trans {ls ls' : List Location} {t₁ t₂ t₃ : FileTree}
    (h : WritesOnly dir ls t₁ t₂) (h' : WritesOnly dir ls' t₂ t₃) :
    WritesOnly dir (ls ++ ls') t₁ t₃ where
  keeps := h.keeps.trans h'.keeps
  changed p hp := by
    by_cases hfirst : t₂.get? p = t₁.get? p
    · rw [← hfirst] at hp ⊢
      refine (h'.changed p hp).imp_right ?_
      rintro ⟨l, hl, hplace⟩
      exact ⟨l, List.mem_append_right ls hl, hplace⟩
    · obtain ⟨hdir, hnone, hmade⟩ | ⟨l, hl, hplace⟩ := h.changed p hfirst
      · exact .inl ⟨h'.keeps.walk hdir, hnone, h'.keeps p hmade⟩
      · exact .inr ⟨l, List.mem_append_left ls' hl, h'.keeps.placeOf? hplace⟩

/-! ## Changes -/

/-- **Making the directory around a file** makes that directory. -/
theorem writesOnly_makeDirectory (h : t.makeDirectory (around dir) = .ok t') :
    WritesOnly dir [] t t' := by
  obtain ⟨d, hne, hnone, rfl, hwalk⟩ := makeDirectory_eq_ok h
  rw [walk_around] at hwalk
  refine ⟨keeps_insert hne (by rw [hnone]; rintro ⟨⟩), fun p hp => ?_⟩
  rw [get?_insert t hne] at hp ⊢
  split at hp
  next heq =>
    rw [if_pos heq, heq]
    exact .inl ⟨hwalk, hnone, rfl⟩
  next => exact absurd rfl hp

theorem writesOnly_makeDirectories (h : (t.makeDirectories (around dir)).1 = t ∨
    t.makeDirectory (around dir) = .ok (t.makeDirectories (around dir)).1) :
    WritesOnly dir [] t (t.makeDirectories (around dir)).1 := by
  obtain h | h := h
  · rw [h]
    exact .refl dir [] t
  · exact writesOnly_makeDirectory h

theorem writeFile_eq_ok (h : t.writeFile l text = .ok t') :
    ∃ p n, t.locate l = .ok (p, .name n false) ∧ t.get? (p ++ [n]) ≠ some .directory ∧
      t' = t.insert (p ++ [n]) (.file text) := by
  obtain ⟨⟨p, last⟩, hlocate, h⟩ := Outcome.bind_eq_ok.mp h
  cases last with
  | dots => cases h
  | name n slash =>
    refine ⟨p, n, ?_⟩
    dsimp only at h
    split at h
    · cases h
    next hthere =>
      split at h
      · cases h
      next hslash =>
        rw [Bool.eq_false_iff.mpr hslash] at hlocate
        exact ⟨hlocate, by rw [hthere]; rintro ⟨⟩, (Except.ok.inj h).symm⟩
    next hthere =>
      split at h
      · cases h
      next hslash =>
        rw [Bool.eq_false_iff.mpr hslash] at hlocate
        exact ⟨hlocate, by rw [hthere]; rintro ⟨⟩, (Except.ok.inj h).symm⟩

/-- **Writing a file** changes what stands at its place. -/
theorem writeFile_inside (hname : IsFileName name)
    (h : t.writeFile (dir.inside ⟨name⟩) text = .ok t') :
    ∃ d, t.locate (dir.inside ⟨name⟩) = .ok (d, .name name false) ∧
      t.directoryAt dir = .ok d ∧ t.get? (d ++ [name]) ≠ some .directory ∧
      t' = t.insert (d ++ [name]) (.file text) := by
  obtain ⟨p, n, hlocate, hthere, rfl⟩ := writeFile_eq_ok h
  obtain ⟨d, hdir, heq⟩ := locate_inside hname hlocate
  cases heq
  exact ⟨_, hlocate, hdir, hthere, rfl⟩

theorem rename_eq_ok {source target : Location} (h : t.rename source target = .ok t') :
    ∃ p n slash q m text, t.locate source = .ok (p, .name n slash) ∧
      t.locate target = .ok (q, .name m false) ∧ t.get? (p ++ [n]) = some (.file text) ∧
      t.get? (q ++ [m]) ≠ some .directory ∧
      t' = (t.erase (p ++ [n])).insert (q ++ [m]) (.file text) := by
  obtain ⟨⟨p, first⟩, hsource, h⟩ := Outcome.bind_eq_ok.mp h
  obtain ⟨⟨q, last⟩, htarget, h⟩ := Outcome.bind_eq_ok.mp h
  cases first with
  | dots => cases h
  | name n slash =>
    cases last with
    | dots => cases h
    | name m slash' =>
      dsimp only at h
      split at h
      · cases h
      · cases h
      next text hfile =>
        split at h
        · cases h
        next hslash =>
          split at h
          · cases h
          next hthere =>
            rw [Bool.eq_false_iff.mpr hslash] at htarget
            exact ⟨p, n, slash, q, m, text, hsource, htarget, hfile, hthere,
              (Except.ok.inj h).symm⟩

/-- **Moving a file** within a directory empties its place and fills the other one. -/
theorem rename_inside {name' : List Char} (hname : IsFileName name) (hname' : IsFileName name')
    (h : t.rename (dir.inside ⟨name⟩) (dir.inside ⟨name'⟩) = .ok t') :
    ∃ d text, t.locate (dir.inside ⟨name⟩) = .ok (d, .name name false) ∧
      t.locate (dir.inside ⟨name'⟩) = .ok (d, .name name' false) ∧
      t.directoryAt dir = .ok d ∧ t.get? (d ++ [name]) = some (.file text) ∧
      t.get? (d ++ [name']) ≠ some .directory ∧
      t' = (t.erase (d ++ [name])).insert (d ++ [name']) (.file text) := by
  obtain ⟨p, n, slash, q, m, text, hsource, htarget, hfile, hthere, rfl⟩ := rename_eq_ok h
  obtain ⟨d, hdir, heq⟩ := locate_inside hname hsource
  obtain ⟨d', hdir', heq'⟩ := locate_inside hname' htarget
  obtain rfl := Except.ok.inj (hdir.symm.trans hdir')
  cases heq
  cases heq'
  exact ⟨_, text, hsource, htarget, hdir, hfile, hthere, rfl⟩

theorem append_name_ne_nil (d : Place) (name : List Char) : d ++ [name] ≠ [] :=
  List.append_ne_nil_of_right_ne_nil d (List.cons_ne_nil _ _)

theorem writesOnly_writeFile (hname : IsFileName name)
    (h : t.writeFile (dir.inside ⟨name⟩) text = .ok t') :
    WritesOnly dir [dir.inside ⟨name⟩] t t' := by
  obtain ⟨d, hlocate, -, hthere, rfl⟩ := writeFile_inside hname h
  have hkeeps := keeps_insert (append_name_ne_nil d name) (e := .file text) hthere
  refine ⟨hkeeps, fun p hp => .inr ⟨_, List.mem_singleton_self _, ?_⟩⟩
  rw [get?_insert t (append_name_ne_nil d name)] at hp
  split at hp
  next heq =>
    rw [heq]
    exact placeOf?_of_locate (hkeeps.locate hlocate)
  next => exact absurd rfl hp

theorem writesOnly_rename {name' : List Char} (hname : IsFileName name)
    (hname' : IsFileName name')
    (h : t.rename (dir.inside ⟨name⟩) (dir.inside ⟨name'⟩) = .ok t') :
    WritesOnly dir [dir.inside ⟨name⟩, dir.inside ⟨name'⟩] t t' := by
  obtain ⟨d, text, hlocate, hlocate', -, hfile, htarget, rfl⟩ := rename_inside hname hname' h
  have herased : Keeps t (t.erase (d ++ [name])) :=
    keeps_erase (append_name_ne_nil d name) (by rw [hfile]; rintro ⟨⟩)
  have htarget' : (t.erase (d ++ [name])).get? (d ++ [name']) ≠ some .directory := by
    rw [get?_erase t (append_name_ne_nil d name)]
    split
    · rintro ⟨⟩
    · exact htarget
  have hkeeps := herased.trans
    (keeps_insert (append_name_ne_nil d name') (e := .file text) htarget')
  refine ⟨hkeeps, fun p hp => .inr ?_⟩
  rw [get?_insert _ (append_name_ne_nil d name'), get?_erase t (append_name_ne_nil d name)] at hp
  split at hp
  next heq =>
    refine ⟨dir.inside ⟨name'⟩, List.mem_cons_of_mem _ (List.mem_singleton_self _), ?_⟩
    rw [heq]
    exact placeOf?_of_locate (hkeeps.locate hlocate')
  next =>
    split at hp
    next heq =>
      refine ⟨dir.inside ⟨name⟩, List.mem_cons_self, ?_⟩
      rw [heq]
      exact placeOf?_of_locate (hkeeps.locate hlocate)
    next => exact absurd rfl hp

/-- A file is read where its location is found. -/
theorem readFile_of_locate (h : t.locate l = .ok (d, .name name false))
    (hfile : t.get? (d ++ [name]) = some (.file text)) : t.readFile l = .ok text := by
  refine Outcome.bind_eq_ok.mpr ⟨_, h, ?_⟩
  dsimp only
  rw [hfile]
  rfl

end FileTree

end RestLoom
