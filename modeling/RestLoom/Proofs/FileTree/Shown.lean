import RestLoom.Proofs.FileTree.Faults

/-!
# Proofs/FileTree/Shown — a tree is a disk without links

    t  ──script──▸  t'            d  ──script──▸  d'        d shows t, and d' shows t'

A disk shows a tree if the same is found at every place and every name is its own (`Shows`).  What
an operation does to the tree, an operation on the disk may do, so the run of a script on a tree is
one way in which it may go on such a disk (`Shows.exists_runs`).  Every tree has one
(`shows_ofTree`).
-/

namespace RestLoom.FileTree

variable {t t' : FileTree} {d : Disk} {p q : Place} {l source target : Location} {text : String}
  {n : List Char} {cs : List (List Char)} {slash : Bool}

/-- What is found where an entry of a tree stands. -/
def Entry.held : Entry → Held
  | file text => .file text
  | directory => .directory

/-- **Whether a disk shows a tree**: the same is found everywhere, every name is its own, and there
is room for new files. -/
structure Shows (d : Disk) (t : FileTree) : Prop where
  home : d.home = []
  held : ∀ p, d.held p = (t.get? p).map Entry.held
  own : ∀ p, d.IsOwn p
  room : ∃ i, ∀ j, i ≤ j → ∀ p, d.node p ≠ some (.file j)

/-! ## The disk of a tree -/

/-- The places that a tree lists. -/
def places (t : FileTree) : List Place := t.entries.map Prod.fst

/-- What stands where an entry of a tree does, with a number if it is a file. -/
def Entry.node (i : Nat) : Entry → Disk.Node
  | file _ => .file i
  | directory => .directory

/-- The text of an entry, if it is a file. -/
def textOf : Option Entry → String
  | some (.file text) => text
  | _ => ""

/-- The disk of a tree: files are numbered in the order of their places. -/
def ofTree (t : FileTree) : Disk where
  node p := (t.get? p).map (Entry.node (t.places.idxOf p))
  text i := textOf ((t.places[i]?).bind t.get?)
  home := []

theorem mem_places (h : t.get? p = some (.file text)) : p ∈ t.places := by
  rw [get?] at h
  split at h
  · cases h
  · obtain ⟨before, after, hentries, -⟩ := List.lookup_eq_some_iff.mp h
    rw [places, hentries, List.map_append, List.map_cons]
    exact List.mem_append_right _ List.mem_cons_self

theorem node_ofTree_eq_file {i : Nat} (h : (ofTree t).node p = some (.file i)) :
    p ∈ t.places ∧ i = t.places.idxOf p := by
  obtain ⟨e, he, heq⟩ := Option.map_eq_some_iff.mp h
  cases e with
  | file text =>
    cases heq
    exact ⟨mem_places he, rfl⟩
  | directory => cases heq

/-- **Every tree** is shown by a disk. -/
theorem shows_ofTree (t : FileTree) : Shows (ofTree t) t where
  home := rfl
  held p := by
    rw [Disk.held, ofTree, Option.map_map]
    refine Option.map_congr fun e he => ?_
    cases e with
    | directory => rfl
    | file text =>
      change Held.file (textOf ((t.places[t.places.idxOf p]?).bind t.get?)) = Held.file text
      rw [List.getElem?_idxOf (mem_places he), Option.bind_some, he, textOf]
  own p x hx := by
    cases x with
    | directory => exact .inl rfl
    | file i =>
      obtain ⟨hp, rfl⟩ := node_ofTree_eq_file hx
      refine .inr ⟨_, rfl, fun q hq => ?_⟩
      obtain ⟨-, heq⟩ := node_ofTree_eq_file hq
      exact (List.idxOf_inj hp).mp heq |>.symm
    | link l =>
      obtain ⟨e, -, heq⟩ := Option.map_eq_some_iff.mp hx
      cases e <;> cases heq
    | device =>
      obtain ⟨e, -, heq⟩ := Option.map_eq_some_iff.mp hx
      cases e <;> cases heq
  room := by
    refine ⟨t.places.length, fun j hj p hp => ?_⟩
    obtain ⟨hmem, rfl⟩ := node_ofTree_eq_file hp
    exact absurd (List.idxOf_lt_length_iff.mpr hmem) (Nat.not_lt.mpr hj)

/-! ## Operations -/

namespace Shows

variable (h : Shows d t)
include h

theorem node_eq_directory (hp : t.get? p = some .directory) : d.node p = some .directory := by
  have hheld := h.held p
  rw [hp, Option.map_some, Disk.held, Option.map_eq_some_iff] at hheld
  obtain ⟨x, hx, heq⟩ := hheld
  cases x with
  | directory => exact hx
  | file _ => cases heq
  | link _ => cases heq
  | device => cases heq

theorem get?_eq_directory (hp : d.node p = some .directory) : t.get? p = some .directory := by
  have hheld := h.held p
  rw [Disk.held_eq_some hp, eq_comm, Option.map_eq_some_iff] at hheld
  obtain ⟨e, he, heq⟩ := hheld
  cases e with
  | directory => exact he
  | file _ => cases heq

theorem node_eq_none (hp : t.get? p = none) : d.node p = none := by
  have hheld := h.held p
  rwa [hp, Option.map_none, Disk.held, Option.map_eq_none_iff] at hheld

theorem exists_node_eq_file (hp : t.get? p = some (.file text)) :
    ∃ i, d.node p = some (.file i) ∧ d.text i = text := by
  have hheld := h.held p
  rw [hp, Option.map_some, Disk.held, Option.map_eq_some_iff] at hheld
  obtain ⟨x, hx, heq⟩ := hheld
  cases x with
  | file i => exact ⟨i, hx, Held.file.inj heq⟩
  | directory => cases heq
  | link _ => cases heq
  | device => cases heq

theorem leads (hwalk : t.walk p cs = .ok q) : d.Leads p cs q := by
  induction cs generalizing p with
  | nil =>
    cases hwalk
    exact .here
  | cons c cs ih =>
    rw [walk] at hwalk
    split at hwalk
    next hskip => exact .skip hskip (ih hwalk)
    next hskip =>
      rw [not_or] at hskip
      split at hwalk
      next hdots =>
        subst hdots
        exact .up (ih hwalk)
      next hdots =>
        split at hwalk
        · cases hwalk
        · split at hwalk
          next hdirectory =>
            exact .down ⟨hskip.1, hskip.2, hdots⟩ (h.node_eq_directory hdirectory) (ih hwalk)
          next => cases hwalk
          next => cases hwalk

theorem start_eq (l : Location) : l.start d.home = [] := by
  rw [Location.start, h.home]
  exact ite_self []

theorem names (hlocate : t.locate l = .ok (p, .name n slash)) :
    d.Names d.home l p n slash := by
  obtain ⟨husable, before, hcomponents, hwalk, -⟩ := locate_eq_ok.mp hlocate
  refine ⟨husable, before, hcomponents, ?_⟩
  rw [h.start_eq]
  exact h.leads hwalk

theorem isDirectory (hdirectory : t.isDirectory l = true) : d.IsDirectory l := by
  obtain ⟨p, hp⟩ := exists_walk_of_isDirectory hdirectory
  refine ⟨?_, p, ?_⟩
  · rw [FileTree.isDirectory] at hdirectory
    cases hlocate : t.locate l with
    | error e =>
      rw [hlocate] at hdirectory
      cases hdirectory
    | ok r => exact (locate_eq_ok.mp hlocate).1
  · rw [Disk.LeadsTo, h.start_eq]
    exact h.leads hp

theorem opens (hlocate : t.locate l = .ok (p, .name n false)) : d.Opens d.home l (p ++ [n]) :=
  .name (h.names hlocate) fun _ => (h.own _).not_link

theorem reads (hread : t.readFile l = .ok text) : d.Reads l text := by
  obtain ⟨⟨p, last⟩, hlocate, hread⟩ := Outcome.bind_eq_ok.mp hread
  cases last with
  | dots => cases hread
  | name n slash =>
    dsimp only at hread
    split at hread
    next old hfile =>
      split at hread
      · cases hread
      next hslash =>
        cases hread
        obtain rfl : slash = false := Bool.eq_false_iff.mpr hslash
        obtain ⟨i, hnode, htext⟩ := h.exists_node_eq_file hfile
        exact ⟨_, i, h.opens hlocate, hnode, htext.symm⟩
    next => cases hread
    next => cases hread

/-- A directory is made where nothing stands. -/
theorem place (hp : p ≠ []) (hnone : t.get? p = none) :
    Shows (d.place p (some .directory)) (t.insert p .directory) := by
  have hnode := h.node_eq_none hnone
  refine ⟨h.home, fun q => ?_, fun q => ?_, ?_⟩
  · rw [get?_insert t hp]
    split
    next heq =>
      rw [heq, Disk.held, Disk.node_place, if_pos rfl]
      rfl
    next hne =>
      rw [← h.held q]
      exact Disk.held_congr (by rw [Disk.node_place, if_neg hne]) fun _ _ => rfl
  · by_cases heq : q = p
    · intro x hx
      rw [heq, Disk.node_place, if_pos rfl] at hx
      exact .inl (Option.some.inj hx).symm
    · exact (h.own q).place_directory (Ne.symm heq)
  · obtain ⟨i, hi⟩ := h.room
    refine ⟨i, fun j hj q hq => hi j hj q ?_⟩
    rw [Disk.node_place] at hq
    split at hq
    · cases hq
    · exact hq

theorem exists_makes (hmake : t.makeDirectory l = .ok t') : ∃ d', d.Makes l d' ∧ Shows d' t' := by
  cases hlocate : t.locate l with
  | error e =>
    rw [makeDirectory_error hlocate] at hmake
    cases hmake
  | ok r =>
    obtain ⟨p, last⟩ := r
    cases last with
    | dots =>
      rw [makeDirectory_dots hlocate] at hmake
      cases hmake
    | name n slash =>
      rw [makeDirectory_name hlocate] at hmake
      split at hmake
      next hnone =>
        cases hmake
        exact ⟨_, ⟨p, n, slash, h.names hlocate, h.node_eq_none hnone, rfl⟩,
          h.place (append_name_ne_nil p n) hnone⟩
      next => cases hmake

/-- A file is written where no directory stands. -/
theorem exists_fills (hp : p ≠ []) (hthere : t.get? p ≠ some .directory) (text : String) :
    ∃ d', d.Fills p text d' ∧ Shows d' (t.insert p (.file text)) := by
  obtain ⟨i, hi⟩ := h.room
  obtain ⟨d', hfill, hhome, j, hj⟩ : ∃ d', d.Fills p text d' ∧ d'.home = d.home ∧
      ∃ j, ∀ k, j ≤ k → ∀ q, d'.node q ≠ some (.file k) := by
    cases hnode : t.get? p with
    | none =>
      refine ⟨_, .new (h.node_eq_none hnode) (hi i (Nat.le_refl i)), rfl, i + 1,
        fun k hk q hq => ?_⟩
      rw [Disk.node_fill, Disk.node_place] at hq
      split at hq
      · cases hq
        omega
      · exact hi k (Nat.le_of_succ_le hk) q hq
    | some e =>
      cases e with
      | directory => exact absurd hnode hthere
      | file old =>
        obtain ⟨j, hfile, -⟩ := h.exists_node_eq_file hnode
        exact ⟨_, .file hfile, rfl, i, hi⟩
  refine ⟨d', hfill, hhome.trans h.home, fun q => ?_, fun q => hfill.isOwn (h.own p) (h.own q),
    j, hj⟩
  rw [hfill.held_eq (h.own p), get?_insert t hp, h.held q]
  split <;> rfl

theorem exists_writes (hwrite : t.writeFile l text = .ok t') :
    ∃ d', d.Writes l text d' ∧ Shows d' t' := by
  obtain ⟨p, n, hlocate, hthere, rfl⟩ := writeFile_eq_ok hwrite
  obtain ⟨d', hfill, hshows⟩ := h.exists_fills (append_name_ne_nil p n) hthere text
  exact ⟨d', ⟨_, h.opens hlocate, hfill⟩, hshows⟩

/-- A file is moved to where no directory stands. -/
theorem exists_relinks (hp : p ≠ []) (hq : q ≠ []) (hfile : t.get? p = some (.file text))
    (hthere : t.get? q ≠ some .directory) :
    ∃ d', d.Relinks p q d' ∧ Shows d' ((t.erase p).insert q (.file text)) := by
  obtain ⟨i, hnode, htext⟩ := h.exists_node_eq_file hfile
  by_cases heq : q = p
  · subst heq
    refine ⟨d, .same hnode hnode, h.home, fun r => ?_, h.own, h.room⟩
    rw [get?_insert _ hq, get?_erase t hp, h.held r]
    split
    next hr => rw [hr, hfile]
    next => rfl
  · have htarget : d.node q ≠ some .directory := fun hnode => hthere (h.get?_eq_directory hnode)
    have hmove : d.Relinks p q ((d.place p none).place q (some (.file i))) :=
      .moved hnode (by rintro ⟨⟩) htarget fun j hj hfile => heq ((h.own p).file hnode (hj ▸ hfile))
    refine ⟨_, hmove, h.home, fun r => ?_, fun r => ?_, ?_⟩
    · rw [hmove.held_eq (h.own p) heq, get?_insert _ hq, get?_erase t hp]
      split
      · rw [h.held p, hfile]
      · split
        · rfl
        · exact h.held r
    · by_cases hr : r = q
      · rw [hr]
        exact hmove.isOwn_target (h.own p) heq
      · exact hmove.isOwn (h.own p) heq (h.own r) hr
    · obtain ⟨j, hj⟩ := h.room
      refine ⟨j, fun k hk r hr => ?_⟩
      rw [Disk.node_moved] at hr
      split at hr
      · cases hr
        exact hj _ hk p hnode
      · split at hr
        · cases hr
        · exact hj k hk r hr

theorem exists_renames (hrename : t.rename source target = .ok t') :
    ∃ d', d.Renames source target d' ∧ Shows d' t' := by
  obtain ⟨p, n, slash, q, m, text, hsource, htarget, hfile, hthere, rfl⟩ := rename_eq_ok hrename
  obtain ⟨d', hmove, hshows⟩ := h.exists_relinks (append_name_ne_nil p n) (append_name_ne_nil q m)
    hfile hthere
  exact ⟨d', ⟨p, n, slash, q, m, h.names hsource, h.names htarget, hmove⟩, hshows⟩

/-! ## Runs -/

/-- The last attempt to make a directory. -/
theorem exists_makesAll_attempt (l : Location) :
    ∃ seen d', MakesAll d l seen d'
        (match t.makeDirectory l with
          | .ok t' => (t', none)
          | .error e => (t, if t.isDirectory l then none else some e)).2 ∧
      Shows d' (match t.makeDirectory l with
        | .ok t' => (t', none)
        | .error e => (t, if t.isDirectory l then none else some e)).1 := by
  cases hmake : t.makeDirectory l with
  | ok t' =>
    obtain ⟨d', hmakes, hshows⟩ := h.exists_makes hmake
    exact ⟨_, d', .made hmakes, hshows⟩
  | error e =>
    dsimp only
    split
    next hdirectory => exact ⟨_, d, .there (h.isDirectory hdirectory), h⟩
    next => exact ⟨_, d, .failed e, h⟩

omit h in
/-- Making a directory and the ones around it. -/
theorem exists_makesAll (k : Nat) {t : FileTree} {d : Disk} (h : Shows d t) (l : Location) :
    ∃ seen d', MakesAll d l seen d' (makeDirectoriesUpTo k t l).2 ∧
      Shows d' (makeDirectoriesUpTo k t l).1 := by
  induction k generalizing t d l with
  | zero => exact ⟨_, d, .failed _, h⟩
  | succ k ih =>
    rw [makeDirectoriesUpTo]
    dsimp only
    split
    next hnil => exact ⟨_, d, .nothing hnil, h⟩
    next =>
      split
      next a _ ha =>
        obtain ⟨seen, d₁, haround, hshows⟩ := ih h a
        cases hrun : makeDirectoriesUpTo k t a with
        | mk t₁ failure =>
          rw [hrun] at haround hshows
          cases failure with
          | some e => exact ⟨_, d₁, .aroundFailed ha haround, hshows⟩
          | none =>
            obtain ⟨seen', d', hrest, hshows'⟩ := hshows.exists_makesAll_attempt l
            exact ⟨_, d', .around ha haround hrest, hshows'⟩
      next => exact h.exists_makesAll_attempt l

/-- **What a change does to a tree**, it may do to the disk. -/
theorem exists_happens (c : Change) :
    ∃ seen d', Happens d c seen d' (t.apply c).2 ∧ Shows d' (t.apply c).1 := by
  cases c with
  | makeDirectories l =>
    obtain ⟨seen, d', hmake, hshows⟩ := exists_makesAll (l.text.length + 1) h l
    exact ⟨seen, d', .directories hmake, hshows⟩
  | writeFile l text =>
    rw [apply]
    cases hwrite : t.writeFile l text with
    | error e => exact ⟨_, d, .refused e, h⟩
    | ok t' =>
      obtain ⟨d', hwrites, hshows⟩ := h.exists_writes hwrite
      exact ⟨_, d', .written (List.forall_mem_nil _) hwrites, hshows⟩
  | rename source target =>
    rw [apply]
    cases hrename : t.rename source target with
    | error e => exact ⟨_, d, .refused e, h⟩
    | ok t' =>
      obtain ⟨d', hrenames, hshows⟩ := h.exists_renames hrename
      exact ⟨_, d', .moved hrenames, hshows⟩

omit h in
/-- **The run of a script on a tree** is one way in which it may go on a disk that shows it. -/
theorem exists_runs {α : Type} (s : Script α) {t : FileTree} {d : Disk} (h : Shows d t) :
    ∃ seen d', s.Runs d seen d' (s.run t).2 ∧ Shows d' (s.run t).1 := by
  induction s generalizing t d with
  | done a => exact ⟨_, d, .done a d, h⟩
  | readFile l next ih =>
    obtain ⟨seen, d', hnext, hshows⟩ := ih (t.readFile l) h
    refine ⟨seen, d', .readFile ?_ hnext, hshows⟩
    cases hread : t.readFile l with
    | ok text => exact .inl ⟨text, rfl, h.reads hread⟩
    | error e => exact .inr ⟨e, rfl⟩
  | isDirectory l next ih =>
    obtain ⟨seen, d', hnext, hshows⟩ := ih (t.isDirectory l) h
    exact ⟨seen, d', .isDirectory h.isDirectory hnext, hshows⟩
  | change c next ih =>
    obtain ⟨seen, d₁, hchange, hshows⟩ := h.exists_happens c
    obtain ⟨seen', d', hnext, hshows'⟩ := ih (t.apply c).2 hshows
    exact ⟨_, d', .change hchange hnext, hshows'⟩

/-- Whatever stands on a disk stands in a directory, if it does in the tree. -/
theorem isDisk (htree : ∀ e ∈ t.entries, t.get? e.1.dropLast = some .directory) : d.IsDisk := by
  have htop : d.node [] = some .directory := h.node_eq_directory (get?_nil t)
  refine ⟨htop, by rwa [h.home], fun p n x hx => h.node_eq_directory ?_⟩
  have hheld := h.held (p ++ [n])
  rw [Disk.held_eq_some hx, eq_comm, Option.map_eq_some_iff] at hheld
  obtain ⟨e, he, -⟩ := hheld
  rw [get?, if_neg (append_name_ne_nil p n)] at he
  have hmem : (p ++ [n], e) ∈ t.entries := by
    obtain ⟨before, after, hentries, -⟩ := List.lookup_eq_some_iff.mp he
    rw [hentries]
    exact List.mem_append_right _ List.mem_cons_self
  simpa using htree _ hmem

end Shows

end RestLoom.FileTree
