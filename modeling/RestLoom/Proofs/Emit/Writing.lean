import RestLoom.Proofs.Emit.Accounts
import RestLoom.Proofs.FileTree.Changes

/-!
# Proofs/Emit/Writing — what writing units does to a tree

    a.rs, b.rs  ──writeUnits out──▸  out/a.rs · out/b.rs, and nothing else

A unit is written by changes inside its directory, each of which leaves everything else as it is
(`writeAtomic_writesOnly`).  By induction so do several, and a unit that has been written is still
there at the end, since no later one comes to its place (`writeEach_spec`).  The directory is the
only one that is made, since nothing is written unless it or its parent is there
(`writeUnits_spec`).
-/

namespace RestLoom.Emit

open RestLoom.FileTree
open RestLoom.FileTree.Location (around IsStem IsFileName isFileName_append)

variable {t t' : FileTree} {dir : Location} {stem : List Char} {text : String}

/-! ## Changes one after the other -/

theorem run_makeChanges_cons (c : Change) (cs : List Change) (t : FileTree) :
    (makeChanges (c :: cs)).run t = match (t.apply c).2 with
      | none => (makeChanges cs).run (t.apply c).1
      | some e => ((t.apply c).1, .error (.write c.location.toString e)) := by
  rw [makeChanges, Script.run]
  cases (t.apply c).2 with
  | none => rfl
  | some e => rfl

/-- The first change, and the others if it succeeds. -/
theorem writesOnly_makeChanges_cons {c : Change} {cs : List Change} {ls ls' : List Location}
    (hfirst : WritesOnly dir ls t (t.apply c).1)
    (hrest : (t.apply c).2 = none → WritesOnly dir ls' (t.apply c).1
      ((makeChanges cs).run (t.apply c).1).1) :
    WritesOnly dir (ls ++ ls') t ((makeChanges (c :: cs)).run t).1 := by
  rw [run_makeChanges_cons]
  cases hfailure : (t.apply c).2 with
  | none => exact hfirst.trans (hrest hfailure)
  | some e => exact hfirst.mono (List.subset_append_left ls ls')

/-- Changes are all made when the first one is and then the others. -/
theorem makeChanges_cons_eq_ok {c : Change} {cs : List Change}
    (h : (makeChanges (c :: cs)).run t = (t', .ok ())) :
    (t.apply c).2 = none ∧ (makeChanges cs).run (t.apply c).1 = (t', .ok ()) := by
  rw [run_makeChanges_cons] at h
  cases hfailure : (t.apply c).2 with
  | none =>
    rw [hfailure] at h
    exact ⟨rfl, h⟩
  | some e =>
    rw [hfailure] at h
    cases (Prod.mk.inj h).2

/-- A change that fails leaves the tree as it is. -/
theorem writesOnly_settle {ls : List Location} {r : Except FileError FileTree}
    (h : ∀ t', r = .ok t' → WritesOnly dir ls t t') : WritesOnly dir ls t (settle t r).1 := by
  cases r with
  | ok t' => exact h t' rfl
  | error e => exact .refl dir ls t

theorem settle_eq_none {r : Except FileError FileTree} (h : (settle t r).2 = none) :
    r = .ok (settle t r).1 := by
  cases r with
  | ok t' => rfl
  | error e => cases h

/-! ## One unit -/

/-- Where the file of a stem is written, and where it is put. -/
def stemPlaces (dir : Location) (stem : List Char) : List Location :=
  [dir.inside ⟨stem ++ '.' :: temporaryExtension⟩, dir.inside ⟨stem ++ '.' :: ['r', 's']⟩]

/-- The changes that write the file of a stem. -/
theorem writeSteps_inside (hstem : IsStem stem) :
    writeSteps (dir.inside ⟨stem ++ '.' :: ['r', 's']⟩) text =
      (if (around dir).text = [] then [] else [.makeDirectories (around dir)]) ++
        [.writeFile (dir.inside ⟨stem ++ '.' :: temporaryExtension⟩) text,
          .rename (dir.inside ⟨stem ++ '.' :: temporaryExtension⟩)
            (dir.inside ⟨stem ++ '.' :: ['r', 's']⟩)] := by
  rw [writeSteps, Location.parent?_inside dir (isFileName_append hstem (by decide)),
    Location.withExtension_inside dir hstem (by decide) (by decide) (by decide)]

theorem isFileName_temporary (hstem : IsStem stem) :
    IsFileName (stem ++ '.' :: temporaryExtension) :=
  isFileName_append hstem (by decide)

theorem isFileName_unit (hstem : IsStem stem) : IsFileName (stem ++ '.' :: ['r', 's']) :=
  isFileName_append hstem (by decide)

/-- Writing a file and moving it. -/
theorem writesOnly_placing (hstem : IsStem stem) (t : FileTree) :
    WritesOnly dir (stemPlaces dir stem) t ((makeChanges
      [.writeFile (dir.inside ⟨stem ++ '.' :: temporaryExtension⟩) text,
        .rename (dir.inside ⟨stem ++ '.' :: temporaryExtension⟩)
          (dir.inside ⟨stem ++ '.' :: ['r', 's']⟩)]).run t).1 := by
  refine (writesOnly_makeChanges_cons
    (writesOnly_settle fun t' => writesOnly_writeFile (isFileName_temporary hstem)) fun _ =>
    writesOnly_makeChanges_cons (writesOnly_settle fun t' =>
      writesOnly_rename (isFileName_temporary hstem) (isFileName_unit hstem)) fun _ =>
    .refl dir [] _).mono ?_
  intro l hl
  simpa [stemPlaces] using hl

/-- **Whether a directory can be made** without another one, if it is not there. -/
def MakesOne (t : FileTree) (dir : Location) : Prop :=
  (t.makeDirectories (around dir)).1 = t ∨
    t.makeDirectory (around dir) = .ok (t.makeDirectories (around dir)).1

theorem makesOne_of_directoryAt {d : Place} (h : t.directoryAt dir = .ok d) : MakesOne t dir :=
  .inl (makeDirectories_of_walk ((walk_around t dir).trans h))

/-- **Writing a unit** changes the places of its file only, and makes its directory. -/
theorem writeAtomic_writesOnly (text : String) (hdir : MakesOne t dir) (hstem : IsStem stem) :
    WritesOnly dir (stemPlaces dir stem) t
      ((writeAtomic (dir.inside ⟨stem ++ '.' :: ['r', 's']⟩) text).run t).1 := by
  rw [writeAtomic, writeSteps_inside hstem]
  split
  · exact writesOnly_placing hstem t
  · have hmake : WritesOnly dir [] t (t.apply (.makeDirectories (around dir))).1 :=
      writesOnly_makeDirectories hdir
    exact writesOnly_makeChanges_cons hmake fun _ => writesOnly_placing hstem _

/-- Once a file has been written and moved, it is in its directory. -/
theorem placing_eq_ok (hstem : IsStem stem) (h : (makeChanges
      [.writeFile (dir.inside ⟨stem ++ '.' :: temporaryExtension⟩) text,
        .rename (dir.inside ⟨stem ++ '.' :: temporaryExtension⟩)
          (dir.inside ⟨stem ++ '.' :: ['r', 's']⟩)]).run t = (t', .ok ())) :
    ∃ d, t'.directoryAt dir = .ok d ∧
      t'.locate (dir.inside ⟨stem ++ '.' :: ['r', 's']⟩) =
        .ok (d, .name (stem ++ '.' :: ['r', 's']) false) ∧
      t'.get? (d ++ [stem ++ '.' :: ['r', 's']]) = some (.file text) := by
  obtain ⟨hwrite, h⟩ := makeChanges_cons_eq_ok h
  obtain ⟨hrename, h⟩ := makeChanges_cons_eq_ok h
  obtain ⟨rfl, -⟩ := Prod.mk.inj h
  have hwritten := settle_eq_none hwrite
  have hrenamed := settle_eq_none hrename
  obtain ⟨d, hlocate, hd, hthere, htree⟩ :=
    writeFile_inside (isFileName_temporary hstem) hwritten
  obtain ⟨d', moved, -, hlocate', hd', hmoved, -, htree'⟩ :=
    rename_inside (isFileName_temporary hstem) (isFileName_unit hstem) hrenamed
  have hkeeps := (writesOnly_writeFile (isFileName_temporary hstem) hwritten).keeps
  have hkeeps' := (writesOnly_rename (isFileName_temporary hstem) (isFileName_unit hstem)
    hrenamed).keeps
  obtain rfl : d = d' := Except.ok.inj ((hkeeps.walk hd).symm.trans hd')
  obtain rfl : text = moved := by
    change FileTree.get? (settle t _).1 _ = _ at hmoved
    rw [htree, get?_insert t (append_name_ne_nil d _), if_pos rfl] at hmoved
    exact Entry.file.inj (Option.some.inj hmoved)
  refine ⟨d, hkeeps'.walk hd', hkeeps'.locate hlocate', ?_⟩
  change FileTree.get? (settle _ _).1 _ = _
  rw [htree', get?_insert _ (append_name_ne_nil d _), if_pos rfl]

theorem writeAtomic_eq_ok (hstem : IsStem stem)
    (h : (writeAtomic (dir.inside ⟨stem ++ '.' :: ['r', 's']⟩) text).run t = (t', .ok ())) :
    ∃ d, t'.directoryAt dir = .ok d ∧
      t'.locate (dir.inside ⟨stem ++ '.' :: ['r', 's']⟩) =
        .ok (d, .name (stem ++ '.' :: ['r', 's']) false) ∧
      t'.get? (d ++ [stem ++ '.' :: ['r', 's']]) = some (.file text) := by
  rw [writeAtomic, writeSteps_inside hstem] at h
  split at h
  · exact placing_eq_ok hstem h
  · exact placing_eq_ok hstem (makeChanges_cons_eq_ok h).2

/-! ## Several units -/

variable {us : List SourceUnit} {names : List String}

theorem run_writeEach_cons (u : SourceUnit) (us : List SourceUnit) (t : FileTree) :
    (writeEach dir (u :: us)).run t =
      match (writeAtomic (unitLocation dir u) u.contents).run t with
      | (t₁, .error e) => (t₁, .error e)
      | (t₁, .ok ()) => (((writeEach dir us).run t₁).1,
        ((writeEach dir us).run t₁).2.map fun ls => unitLocation dir u :: ls) := by
  rw [writeEach, Script.run_bind]
  cases (writeAtomic (unitLocation dir u) u.contents).run t with
  | mk t₁ r =>
    cases r with
    | error e => rfl
    | ok => exact Script.run_bind _ _ t₁

/-- **A file stays** while units with other names are written. -/
theorem get?_of_writesOnly {name : String} {d : Place}
    (hus : us.map (·.fileName) = names.map (· ++ ".rs")) (hstems : ∀ n ∈ names, IsStem n.toList)
    (hname : IsStem name.toList) (hfresh : name ∉ names)
    (hwrites : WritesOnly dir (us.flatMap (placesOf dir)) t t') (hd : t.directoryAt dir = .ok d)
    (hfile : t.get? (d ++ [name.toList ++ '.' :: ['r', 's']]) = some (.file text)) :
    t'.get? (d ++ [name.toList ++ '.' :: ['r', 's']]) = some (.file text) := by
  rw [← hfile]
  by_contra hchanged
  obtain ⟨-, hnone, -⟩ | ⟨l, hl, hplace⟩ := hwrites.changed _ hchanged
  · rw [hnone] at hfile
    cases hfile
  · rw [flatMap_placesOf dir hus hstems] at hl
    obtain ⟨n, hn, hl⟩ := List.mem_flatMap.mp hl
    have hother {ext : List Char} (hslash : '/' ∉ ext) (hdot : '.' ∉ ext)
        (hl : l = dir.inside ⟨n.toList ++ '.' :: ext⟩) : False := by
      rw [hl] at hplace
      obtain ⟨d', hd', hsame⟩ := placeOf?_inside (isFileName_append (hstems n hn) hslash) hplace
      obtain rfl : d = d' := Except.ok.inj ((hwrites.keeps.walk hd).symm.trans hd')
      have hnames := List.singleton_inj.mp (List.append_cancel_left hsame)
      obtain ⟨hstem, -⟩ := Location.inside_stem_inj dir hname (hstems n hn) (by decide) hdot
        (congrArg (fun cs => dir.inside ⟨cs⟩) hnames)
      exact hfresh (String.toList_inj.mp hstem ▸ hn)
    simp only [List.mem_cons, List.not_mem_nil, or_false] at hl
    obtain hl | hl := hl
    · exact hother (by decide) (by decide) hl
    · exact hother (by decide) (by decide) hl

/-- **Writing units one after the other** changes the places of their files only; if none fails,
each of them reads back. -/
theorem writeEach_spec (hus : us.map (·.fileName) = names.map (· ++ ".rs")) (hnames : names.Nodup)
    (hstems : ∀ n ∈ names, IsStem n.toList) (hdir : MakesOne t dir) :
    WritesOnly dir (us.flatMap (placesOf dir)) t ((writeEach dir us).run t).1 ∧
      ∀ ls, ((writeEach dir us).run t).2 = .ok ls → ls = us.map (unitLocation dir) ∧
        ∀ u ∈ us, ((writeEach dir us).run t).1.readFile (unitLocation dir u) = .ok u.contents := by
  induction us generalizing names t with
  | nil =>
    refine ⟨.refl dir _ t, ?_⟩
    rintro ls ⟨⟩
    exact ⟨rfl, List.forall_mem_nil _⟩
  | cons u us ih =>
    cases names with
    | nil => cases hus
    | cons name names =>
      rw [List.map_cons, List.map_cons, List.cons.injEq] at hus
      rw [List.nodup_cons] at hnames
      rw [List.forall_mem_cons] at hstems
      obtain ⟨fileName, contents⟩ := u
      obtain rfl : fileName = name ++ ".rs" := hus.1
      have hwrites := writeAtomic_writesOnly contents hdir hstems.1
      rw [run_writeEach_cons, List.flatMap_cons, placesOf_named dir hstems.1, unitLocation_named]
      cases hrun : (writeAtomic (dir.inside ⟨name.toList ++ '.' :: ['r', 's']⟩) contents).run t with
      | mk t₁ r =>
        rw [hrun] at hwrites
        cases r with
        | error e =>
          refine ⟨hwrites.mono (List.subset_append_left _ _), ?_⟩
          rintro ls ⟨⟩
        | ok =>
          obtain ⟨d, hd, hlocate, hfile⟩ := writeAtomic_eq_ok hstems.1 hrun
          obtain ⟨hrest, hread⟩ := ih hus.2 hnames.2 hstems.2 (makesOne_of_directoryAt hd)
          refine ⟨hwrites.trans hrest, fun ls hls => ?_⟩
          dsimp only at hls ⊢
          cases hresult : ((writeEach dir us).run t₁).2 with
          | error e =>
            rw [hresult] at hls
            cases hls
          | ok ls' =>
            rw [hresult] at hls
            obtain ⟨rfl, hread⟩ := hread ls' hresult
            obtain rfl := Except.ok.inj hls
            rw [List.map_cons, unitLocation_named, List.forall_mem_cons, unitLocation_named]
            exact ⟨rfl, readFile_of_locate (hrest.keeps.locate hlocate)
              (get?_of_writesOnly hus.2 hstems.2 hstems.1 hnames.1 hrest hd hfile), hread⟩

/-! ## The directory of units -/

theorem run_parentIsThere (dir : Location) (t : FileTree) :
    ((parentIsThere dir).run t).1 = t ∧ (((parentIsThere dir).run t).2 = true ↔
      ∀ a, dir.parent? = some a → a.text = [] ∨ t.isDirectory a = true) := by
  rw [parentIsThere]
  cases dir.parent? with
  | none => exact ⟨rfl, iff_of_true rfl (by rintro _ ⟨⟩)⟩
  | some a =>
    dsimp only
    split
    next hnil =>
      refine ⟨rfl, iff_of_true rfl ?_⟩
      rintro _ ⟨⟩
      exact .inl hnil
    next hne =>
      refine ⟨rfl, ?_⟩
      constructor
      · rintro h _ ⟨⟩
        exact .inr h
      · intro h
        exact (h a rfl).resolve_left hne

/-- Units are written where the directory is or the one around it. -/
theorem run_writeUnits (us : List SourceUnit) (dir : Location) (t : FileTree) :
    (writeUnits us dir).run t =
      if t.isDirectory dir = true ∨ ((parentIsThere dir).run t).2 = true then
        (writeEach dir us).run t
      else (t, .error (.outputDirNotFound dir.toString)) := by
  rw [writeUnits, Script.run_bind]
  change ((if t.isDirectory dir = true then writeEach dir us else do
    if ← parentIsThere dir then writeEach dir us
    else return .error (.outputDirNotFound dir.toString)).run t) = _
  by_cases hdir : t.isDirectory dir = true
  · rw [if_pos hdir, if_pos (.inl hdir)]
  · rw [if_neg hdir, Script.run_bind, (run_parentIsThere dir t).1]
    by_cases hparent : ((parentIsThere dir).run t).2 = true
    · rw [if_pos hparent, if_pos (.inr hparent)]
    · rw [if_neg hparent, if_neg (not_or_intro hdir hparent)]
      rfl

/-- **Writing units** with distinct names changes the places of their files only, and makes at most
their directory; if it succeeds, each unit reads back. -/
theorem writeUnits_spec (hus : us.map (·.fileName) = names.map (· ++ ".rs")) (hnames : names.Nodup)
    (hstems : ∀ n ∈ names, IsStem n.toList) (dir : Location) (t : FileTree) :
    WritesOnly dir (us.flatMap (placesOf dir)) t ((writeUnits us dir).run t).1 ∧
      ∀ ls, ((writeUnits us dir).run t).2 = .ok ls → ls = us.map (unitLocation dir) ∧
        ∀ u ∈ us, ((writeUnits us dir).run t).1.readFile (unitLocation dir u) = .ok u.contents := by
  rw [run_writeUnits]
  split
  next hthere =>
    refine writeEach_spec hus hnames hstems ?_
    obtain hdir | hparent := hthere
    · obtain ⟨d, hd⟩ := exists_walk_of_isDirectory hdir
      exact makesOne_of_directoryAt ((walk_partsReversed t dir).symm.trans hd)
    · refine makeDirectories_eq_or fun a ha => ?_
      exact (run_parentIsThere dir t).2.mp hparent a ((Location.parent?_around dir).symm.trans ha)
  next =>
    refine ⟨.refl dir _ t, ?_⟩
    rintro ls ⟨⟩

/-- The units of a run over traits are written as any others: their names are distinct. -/
theorem Judging.writeUnits_spec {items : List Source.Item} {o : Options}
    {fs : List Service.Found} {js : List Judged} (h : Judging items o [] fs js)
    (hnames : ∀ s ∈ stemsOf js, isName s = true) (dir : Location) (t : FileTree) :
    WritesOnly dir ((Report.of js).units.flatMap (placesOf dir)) t
        ((writeUnits (Report.of js).units dir).run t).1 ∧
      ∀ ls, ((writeUnits (Report.of js).units dir).run t).2 = .ok ls →
        ls = (Report.of js).units.map (unitLocation dir) ∧
        ∀ u ∈ (Report.of js).units,
          ((writeUnits (Report.of js).units dir).run t).1.readFile (unitLocation dir u) =
            .ok u.contents :=
  Emit.writeUnits_spec (fileNames_report js)
    (nodup_unitNames (h.nodup List.nodup_nil) fun _ hs => h.stemEnd_suffix hs)
    (fun _ hn => isStem_unitNames hnames hn) dir t

end RestLoom.Emit
