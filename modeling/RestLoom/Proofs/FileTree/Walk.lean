import RestLoom.FileTree.Basic
import RestLoom.Proofs.FileTree.Around
import RestLoom.Proofs.Outcome

/-!
# Proofs/FileTree/Walk — following locations through a tree that changes

    out/../gen  ──walk──▸  [gen]        walk in t  =  walk in t'  where t' keeps the directories of t

What a location leads to depends on the directories of a tree only, so that it stays where
directories stay (`Keeps.walk`).  A location and the directory around its files lead to the same
place (`walk_around`), and making that directory makes no other one if its parent is there
(`makeDirectories_eq_or`).
-/

namespace RestLoom.FileTree

open RestLoom.Text
open Location (partsInside around trimmed IsFileName)

variable {t t' : FileTree} {p q d : Place} {l dir : Location} {name : List Char}

/-! ## Places -/

theorem get?_nil (t : FileTree) : t.get? [] = some .directory := rfl

theorem lookup_cons_eq (r : Place) (e : Entry) (entries : List (Place × Entry)) (q : Place) :
    ((r, e) :: entries).lookup q = if q = r then some e else entries.lookup q := by
  rw [List.lookup_cons]
  by_cases hq : q = r
  · rw [if_pos hq, beq_iff_eq.mpr hq]
  · rw [if_neg hq, beq_false_of_ne hq]

theorem lookup_filter_ne (entries : List (Place × Entry)) (p q : Place) :
    (entries.filter fun e => e.1 ≠ p).lookup q = if q = p then none else entries.lookup q := by
  induction entries with
  | nil => exact (ite_self none).symm
  | cons e entries ih =>
    obtain ⟨r, e⟩ := e
    rw [List.filter_cons, lookup_cons_eq]
    by_cases hr : r = p
    · rw [if_neg (by simpa using hr), ih, hr]
      split <;> rfl
    · rw [if_pos (by simpa using hr), lookup_cons_eq, ih]
      by_cases hq : q = r
      · rw [if_pos hq, if_pos hq, if_neg (hq ▸ hr)]
      · rw [if_neg hq, if_neg hq]

/-- What stands in a tree after something has gone from a place. -/
theorem get?_erase (t : FileTree) (hp : p ≠ []) (q : Place) :
    (t.erase p).get? q = if q = p then none else t.get? q := by
  rw [get?, get?]
  by_cases hq : q = []
  · rw [if_pos hq, if_pos hq, if_neg (hq ▸ hp.symm)]
  · rw [if_neg hq, if_neg hq]
    exact lookup_filter_ne t.entries p q

/-- What stands in a tree after something has come to a place. -/
theorem get?_insert (t : FileTree) (hp : p ≠ []) (e : Entry) (q : Place) :
    (t.insert p e).get? q = if q = p then some e else t.get? q := by
  have herase := get?_erase t hp q
  rw [get?] at herase ⊢
  by_cases hq : q = []
  · rw [if_pos hq, if_neg (hq ▸ hp.symm), hq, get?_nil]
  · rw [if_neg hq] at herase ⊢
    rw [insert, lookup_cons_eq, herase]
    split <;> rfl

/-- Whether the directories of a tree are directories of another one. -/
def Keeps (t t' : FileTree) : Prop :=
  ∀ p, t.get? p = some .directory → t'.get? p = some .directory

theorem Keeps.refl (t : FileTree) : Keeps t t := fun _ h => h

theorem Keeps.trans {t₁ t₂ t₃ : FileTree} (h : Keeps t₁ t₂) (h' : Keeps t₂ t₃) : Keeps t₁ t₃ :=
  fun p hp => h' p (h p hp)

theorem keeps_insert (hp : p ≠ []) {e : Entry} (h : t.get? p ≠ some .directory) :
    Keeps t (t.insert p e) := fun q hq => by
  rw [get?_insert t hp, if_neg]
  · exact hq
  · rintro rfl
    exact h hq

theorem keeps_erase (hp : p ≠ []) (h : t.get? p ≠ some .directory) : Keeps t (t.erase p) :=
  fun q hq => by
    rw [get?_erase t hp, if_neg]
    · exact hq
    · rintro rfl
      exact h hq

/-! ## Walks -/

theorem walk_append (t : FileTree) (p : Place) (cs ds : List (List Char)) :
    t.walk p (cs ++ ds) = t.walk p cs >>= fun q => t.walk q ds := by
  induction cs generalizing p with
  | nil => rfl
  | cons c cs ih =>
    rw [List.cons_append, walk, walk]
    split
    · exact ih p
    · split
      · exact ih p.dropLast
      · split
        · rfl
        · split
          · exact ih (p ++ [c])
          · rfl
          · rfl

/-- A part that is no component leads nowhere else. -/
theorem walk_skip {c : List Char} (h : c = [] ∨ c = ['.']) : t.walk p [c] = .ok p := by
  rw [walk, if_pos h]
  rfl

theorem walk_concat_skip {c : List Char} (h : c = [] ∨ c = ['.']) (cs : List (List Char)) :
    t.walk p (cs ++ [c]) = t.walk p cs := by
  rw [walk_append]
  cases t.walk p cs with
  | error e => rfl
  | ok q => exact walk_skip h

theorem walk_trimmed (t : FileTree) (absolute : Bool) (ps : List (List Char)) :
    t.walk p (trimmed absolute ps).reverse = t.walk p ps.reverse := by
  induction ps with
  | nil => rfl
  | cons part ps ih =>
    rw [trimmed]
    split
    next hskip =>
      rw [ih, List.reverse_cons, walk_concat_skip (hskip.imp_right And.left)]
    next => rfl

theorem walk_dropWhile (t : FileTree) (ps : List (List Char)) :
    t.walk p (ps.dropWhile (· == [])).reverse = t.walk p ps.reverse := by
  induction ps with
  | nil => rfl
  | cons part ps ih =>
    rw [List.dropWhile_cons]
    split
    next hnil =>
      rw [ih, List.reverse_cons, walk_concat_skip (.inl (by simpa using hnil))]
    next => rfl

/-- A name leads to the directory of that name. -/
theorem walk_name (hne : name ≠ []) (hdot : name ≠ ['.']) (hdots : name ≠ ['.', '.']) :
    t.walk p [name] = .ok d ↔ ¬255 < (utf8 name).length ∧
      t.get? (p ++ [name]) = some .directory ∧ p ++ [name] = d := by
  rw [walk, if_neg (not_or.mpr ⟨hne, hdot⟩), if_neg hdots]
  by_cases hlength : 255 < (utf8 name).length
  · rw [if_pos hlength]
    exact iff_of_false (by rintro ⟨⟩) fun h => h.1 hlength
  · rw [if_neg hlength, and_iff_right hlength]
    cases t.get? (p ++ [name]) with
    | none => exact iff_of_false (by rintro ⟨⟩) (by rintro ⟨⟨⟩, -⟩)
    | some e =>
      cases e with
      | file text => exact iff_of_false (by rintro ⟨⟩) (by rintro ⟨⟨⟩, -⟩)
      | directory =>
        rw [and_iff_right rfl]
        exact ⟨Except.ok.inj, congrArg Except.ok⟩

/-- **A walk leads to the same place** wherever the directories on it are kept. -/
theorem Keeps.walk (h : Keeps t t') {cs : List (List Char)} (hwalk : t.walk p cs = .ok q) :
    t'.walk p cs = .ok q := by
  induction cs generalizing p with
  | nil => exact hwalk
  | cons c cs ih =>
    rw [FileTree.walk] at hwalk ⊢
    split at hwalk
    next hskip =>
      rw [if_pos hskip]
      exact ih hwalk
    next hskip =>
      rw [if_neg hskip]
      split at hwalk
      next hdots =>
        rw [if_pos hdots]
        exact ih hwalk
      next hdots =>
        rw [if_neg hdots]
        split at hwalk
        · cases hwalk
        next hlength =>
          rw [if_neg hlength]
          split at hwalk
          next hdirectory =>
            rw [h _ hdirectory]
            exact ih hwalk
          next => cases hwalk
          next => cases hwalk

/-- Where a location is found, it is found wherever the directories are kept. -/
theorem Keeps.locate (h : Keeps t t') {r : Place × Last} (hlocate : t.locate l = .ok r) :
    t'.locate l = .ok r := by
  rw [FileTree.locate] at hlocate ⊢
  split at hlocate
  · cases hlocate
  next hnil =>
    rw [if_neg hnil]
    split at hlocate
    · cases hlocate
    next hzero =>
      rw [if_neg hzero]
      obtain ⟨q, hq, hlocate⟩ := Outcome.bind_eq_ok.mp hlocate
      exact Outcome.bind_eq_ok.mpr ⟨q, h.walk hq, hlocate⟩

/-! ## Components -/

/-- **The components of a location** lead where all its parts do. -/
theorem walk_components (t : FileTree) {before : List (List Char)} {last : Last}
    (h : components l = (before, last)) : t.walk [] l.partsReversed.reverse =
      t.walk [] (match last with
        | .name n _ => before ++ [n]
        | .dots => before) := by
  rw [← walk_dropWhile]
  rw [components] at h
  cases hparts : l.partsReversed.dropWhile (· == []) with
  | nil =>
    rw [hparts] at h
    cases h
    rfl
  | cons part ps =>
    rw [hparts] at h
    dsimp only at h
    split at h
    · cases h
      rfl
    · cases h
      rw [List.reverse_cons]

/-- A last component that is a name is no dots. -/
theorem name_of_components {before : List (List Char)} {slash : Bool}
    (h : components l = (before, .name name slash)) :
    name ≠ [] ∧ name ≠ ['.'] ∧ name ≠ ['.', '.'] := by
  rw [components] at h
  cases hparts : l.partsReversed.dropWhile (· == []) with
  | nil =>
    rw [hparts] at h
    cases h
  | cons part ps =>
    rw [hparts] at h
    dsimp only at h
    split at h
    · cases h
    next hdots =>
      cases h
      rw [not_or] at hdots
      refine ⟨?_, hdots⟩
      rintro rfl
      have hhead := List.head?_dropWhile_not (· == []) l.partsReversed
      rw [hparts] at hhead
      cases hhead

/-- A text that the system takes for a location. -/
def IsUsable (l : Location) : Prop := l.text ≠ [] ∧ l.text.contains '\x00' = false

theorem locate_eq_ok {last : Last} : t.locate l = .ok (p, last) ↔
    IsUsable l ∧ ∃ before, components l = (before, last) ∧ t.walk [] before = .ok p ∧
      ∀ n slash, last = .name n slash → ¬255 < (utf8 n).length := by
  rw [locate, IsUsable]
  by_cases hnil : l.text = []
  · rw [if_pos hnil]
    exact iff_of_false (by rintro ⟨⟩) fun h => h.1.1 hnil
  · rw [if_neg hnil]
    by_cases hzero : l.text.contains '\x00' = true
    · rw [if_pos hzero]
      exact iff_of_false (by rintro ⟨⟩) fun h => Bool.eq_false_iff.mp h.1.2 hzero
    · rw [if_neg hzero, and_iff_right ⟨hnil, Bool.eq_false_iff.mpr hzero⟩]
      obtain ⟨before, component⟩ := components l
      dsimp only
      rw [Outcome.bind_eq_ok]
      cases component with
      | dots =>
        constructor
        · rintro ⟨_, hwalk, h⟩
          cases h
          exact ⟨before, rfl, hwalk, by rintro _ _ ⟨⟩⟩
        · rintro ⟨_, heq, hwalk, -⟩
          cases heq
          exact ⟨p, hwalk, rfl⟩
      | name n slash =>
        constructor
        · rintro ⟨q, hwalk, h⟩
          dsimp only at h
          by_cases hlength : 255 < (utf8 n).length
          · rw [if_pos hlength] at h
            cases h
          · rw [if_neg hlength] at h
            cases h
            refine ⟨before, rfl, hwalk, ?_⟩
            rintro _ _ ⟨⟩
            exact hlength
        · rintro ⟨_, heq, hwalk, hlength⟩
          cases heq
          exact ⟨p, hwalk, if_neg (hlength n slash rfl)⟩

/-! ## The directory around a file -/

/-- The place of the directory that the files inside a location are in. -/
def directoryAt (t : FileTree) (dir : Location) : Except FileError Place :=
  t.walk [] (partsInside dir).reverse

theorem walk_partsReversed (t : FileTree) (dir : Location) :
    t.walk [] dir.partsReversed.reverse = t.directoryAt dir := by
  rw [directoryAt, ← walk_trimmed t dir.isAbsolute, ← walk_trimmed t dir.isAbsolute (partsInside dir),
    Location.trimmed_partsReversed]

/-- **The directory around the files of a location** leads where the location does. -/
theorem walk_around (t : FileTree) (dir : Location) :
    t.walk [] (around dir).partsReversed.reverse = t.directoryAt dir := by
  rw [directoryAt, ← walk_trimmed t dir.isAbsolute (partsInside dir)]
  obtain hparts | ⟨hnil, hparts⟩ := (Location.partsReversed_around dir).2
  · rw [hparts]
  · rw [hparts, hnil]
    rfl

/-- A file is found by its name in the directory that the location leads to. -/
theorem locate_inside (hname : IsFileName name) {r : Place × Last}
    (h : t.locate (dir.inside ⟨name⟩) = .ok r) :
    ∃ d, t.directoryAt dir = .ok d ∧ r = (d, .name name false) := by
  have hcomponents : components (dir.inside ⟨name⟩) =
      ((partsInside dir).reverse, .name name false) := by
    have hhead : (some name == some []) = false :=
      beq_false_of_ne fun h => hname.ne_nil (Option.some.inj h)
    rw [components, (Location.partsReversed_inside dir hname).1, List.dropWhile_cons,
      if_neg (by simpa using hname.ne_nil)]
    dsimp only
    rw [if_neg (not_or.mpr ⟨hname.ne_dot, hname.ne_dots⟩), List.head?_cons, hhead]
  obtain ⟨p, last⟩ := r
  obtain ⟨-, before, heq, hwalk, -⟩ := locate_eq_ok.mp h
  obtain ⟨rfl, rfl⟩ := Prod.mk.inj (hcomponents.symm.trans heq)
  exact ⟨p, hwalk, rfl⟩

/-! ## Making directories -/

/-- What a location names is where its parts lead, if that is a directory. -/
theorem walk_of_locate {n : List Char} {slash : Bool} (h : t.locate l = .ok (p, .name n slash))
    (hd : t.get? (p ++ [n]) = some .directory) :
    t.walk [] l.partsReversed.reverse = .ok (p ++ [n]) := by
  obtain ⟨-, before, heq, hwalk, hlength⟩ := locate_eq_ok.mp h
  obtain ⟨hne, hdot, hdots⟩ := name_of_components heq
  rw [walk_components t heq, walk_append, hwalk]
  exact (walk_name hne hdot hdots).mpr ⟨hlength n slash rfl, hd, rfl⟩

theorem walk_of_locate_dots (h : t.locate l = .ok (p, .dots)) :
    t.walk [] l.partsReversed.reverse = .ok p := by
  obtain ⟨-, before, heq, hwalk, -⟩ := locate_eq_ok.mp h
  rw [walk_components t heq, hwalk]

/-- **A directory** is where the parts of its location lead. -/
theorem exists_walk_of_isDirectory (h : t.isDirectory l = true) :
    ∃ d, t.walk [] l.partsReversed.reverse = .ok d := by
  rw [isDirectory] at h
  cases hlocate : t.locate l with
  | error e =>
    rw [hlocate] at h
    cases h
  | ok r =>
    rw [hlocate] at h
    obtain ⟨p, last⟩ := r
    cases last with
    | dots => exact ⟨p, walk_of_locate_dots hlocate⟩
    | name n slash => exact ⟨_, walk_of_locate hlocate (beq_iff_eq.mp h)⟩

/-- **Where the parts of a location lead** to a directory, the location names one. -/
theorem isDirectory_of_walk (husable : IsUsable l)
    (h : t.walk [] l.partsReversed.reverse = .ok d) : t.isDirectory l = true := by
  cases hcomponents : components l with
  | mk before last =>
    rw [walk_components t hcomponents] at h
    cases last with
    | dots =>
      rw [isDirectory, locate_eq_ok.mpr ⟨husable, before, hcomponents, h, by rintro _ _ ⟨⟩⟩]
    | name n slash =>
      obtain ⟨hn, hdot, hdots⟩ := name_of_components hcomponents
      rw [walk_append] at h
      obtain ⟨p, hwalk, hname⟩ := Outcome.bind_eq_ok.mp h
      obtain ⟨hlength, hd, -⟩ := (walk_name hn hdot hdots).mp hname
      rw [isDirectory, locate_eq_ok.mpr
        ⟨husable, before, hcomponents, hwalk, by rintro _ _ ⟨⟩; exact hlength⟩]
      exact beq_iff_eq.mpr hd

theorem makeDirectory_name {n : List Char} {slash : Bool}
    (h : t.locate l = .ok (p, .name n slash)) : t.makeDirectory l =
      if t.get? (p ++ [n]) = none then .ok (t.insert (p ++ [n]) .directory)
      else .error .alreadyExists := by
  rw [makeDirectory, h]
  dsimp only [bind, Except.bind]
  cases t.get? (p ++ [n]) with
  | none => rfl
  | some e => rfl

theorem makeDirectory_dots (h : t.locate l = .ok (p, .dots)) :
    t.makeDirectory l = .error .alreadyExists := by
  rw [makeDirectory, h]
  rfl

theorem makeDirectory_error {e : FileError} (h : t.locate l = .error e) :
    t.makeDirectory l = .error e := by
  rw [makeDirectory, h]
  rfl

theorem makeDirectory_of_isDirectory (h : t.isDirectory l = true) :
    t.makeDirectory l = .error .alreadyExists := by
  rw [isDirectory] at h
  cases hlocate : t.locate l with
  | error e =>
    rw [hlocate] at h
    cases h
  | ok r =>
    rw [hlocate] at h
    obtain ⟨p, last⟩ := r
    cases last with
    | dots => exact makeDirectory_dots hlocate
    | name n slash =>
      have hd : t.get? (p ++ [n]) = some .directory := beq_iff_eq.mp h
      rw [makeDirectory_name hlocate, hd]
      rfl

/-- **A directory that is made** stands where nothing stood, and its location leads there. -/
theorem makeDirectory_eq_ok (h : t.makeDirectory l = .ok t') :
    ∃ d, d ≠ [] ∧ t.get? d = none ∧ t' = t.insert d .directory ∧
      t'.walk [] l.partsReversed.reverse = .ok d := by
  cases hlocate : t.locate l with
  | error e =>
    rw [makeDirectory_error hlocate] at h
    cases h
  | ok r =>
    obtain ⟨p, last⟩ := r
    cases last with
    | dots =>
      rw [makeDirectory_dots hlocate] at h
      cases h
    | name n slash =>
      rw [makeDirectory_name hlocate] at h
      split at h
      next hnone =>
        obtain rfl := Except.ok.inj h
        have hne : p ++ [n] ≠ [] := List.append_ne_nil_of_right_ne_nil _ (List.cons_ne_nil _ _)
        have hkeeps : Keeps t (t.insert (p ++ [n]) .directory) :=
          keeps_insert hne (by rw [hnone]; rintro ⟨⟩)
        refine ⟨p ++ [n], hne, hnone, rfl, walk_of_locate (hkeeps.locate hlocate) ?_⟩
        rw [get?_insert t hne, if_pos rfl]
      next => cases h

/-- Where a location leads to a directory, there is none to make around it. -/
theorem makeDirectory_of_walk (h : t.walk [] l.partsReversed.reverse = .ok d)
    (hne : l.text ≠ []) : ∃ e, t.makeDirectory l = .error e ∧ e ≠ .notFound := by
  by_cases hzero : l.text.contains '\x00' = true
  · have hlocate : t.locate l = .error .zeroCharacter := by
      rw [locate, if_neg hne, if_pos hzero]
    exact ⟨_, makeDirectory_error hlocate, by rintro ⟨⟩⟩
  · have husable : IsUsable l := ⟨hne, Bool.eq_false_iff.mpr hzero⟩
    exact ⟨_, makeDirectory_of_isDirectory (isDirectory_of_walk husable h), by rintro ⟨⟩⟩

/-- So making it leaves the tree as it is. -/
theorem makeDirectories_of_walk (h : t.walk [] l.partsReversed.reverse = .ok d) :
    (t.makeDirectories l).1 = t := by
  rw [makeDirectories, makeDirectoriesUpTo]
  dsimp only
  split
  next => rfl
  next hne =>
    obtain ⟨e, hmake, hfound⟩ := makeDirectory_of_walk h hne
    rw [hmake]
    split
    next heq _ => exact absurd (Except.error.inj heq) hfound
    next => rfl

/-- **Making a directory and those around it** makes one at most, if the parent is there. -/
theorem makeDirectories_eq_or (hparent : ∀ a, l.parent? = some a → a.text = [] ∨
    t.isDirectory a = true) :
    (t.makeDirectories l).1 = t ∨ t.makeDirectory l = .ok (t.makeDirectories l).1 := by
  have hstays (n : Nat) {a : Location} (ha : a.text = [] ∨ t.isDirectory a = true) :
      (makeDirectoriesUpTo n t a).1 = t := by
    cases n with
    | zero => rfl
    | succ n =>
      rw [makeDirectoriesUpTo]
      dsimp only
      split
      next => rfl
      next hne =>
        rw [makeDirectory_of_isDirectory (ha.resolve_left hne)]
  rw [makeDirectories, makeDirectoriesUpTo]
  dsimp only
  by_cases hnil : l.text = []
  · rw [if_pos hnil]
    exact .inl rfl
  · rw [if_neg hnil]
    cases hmake : t.makeDirectory l with
    | ok t' => exact .inr rfl
    | error e =>
      refine .inl ?_
      split
      next a _ hparent? =>
        have ha := hstays l.text.length (hparent a hparent?)
        cases hrec : makeDirectoriesUpTo l.text.length t a with
        | mk t₁ failure =>
          rw [hrec] at ha
          obtain rfl : t₁ = t := ha
          cases failure with
          | none =>
            dsimp only
            rw [hmake]
          | some e => rfl
      next => rfl

end RestLoom.FileTree
