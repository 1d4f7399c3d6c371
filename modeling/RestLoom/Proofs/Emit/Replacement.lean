import RestLoom.Proofs.Emit.Writing
import RestLoom.Proofs.FileTree.Faults

/-!
# Proofs/Emit/Replacement — a unit's file is replaced as a whole

    a.rs: old   b.rs: old     ──a.tmp: A──▸ ──a.rs: A──▸ ──b.tmp: "B…──▸ and the disk fails
    a.rs: A     b.rs: old

A unit is written under a temporary name and moved.  Whatever the disk fails at, its target is never
seen in part, because only temporary names are written to and moving is all or nothing, and no
temporary name is a target (`WritesUnit`).  So, by induction, some units, the first ones, have their
new contents, and the others are as they were (`WritesUnits`).

The argument is on what is found at the places of a disk.  `Follows` is what every step keeps: at
which places something may have changed.  It needs the temporary names to be their own: a file that
has another name, or that a link leads to, is written to under that name as well.
-/

namespace RestLoom.Emit

open RestLoom.FileTree
open RestLoom.FileTree.Location (around stemOf stemOf_isPrefix IsFileName)

variable {dir : Location} {D p q : Place} {d d₁ d' s : Disk} {names names' : List (List Char)}
  {name target n : List Char} {text : String} {seen : List Disk} {units : List SourceUnit}
  {slash : Bool}

/-! ## Names -/

/-- The name of a unit's file: one part that ends in the extension of source files. -/
structure IsUnitName (name : List Char) : Prop where
  slash : '/' ∉ name
  extension : ['.', 'r', 's'] <:+ name

theorem IsUnitName.isFileName (h : IsUnitName name) : IsFileName name := by
  obtain ⟨stem, rfl⟩ := h.extension
  have hlength : 3 ≤ (stem ++ ['.', 'r', 's']).length := by simp
  refine ⟨?_, h.slash, ?_, ?_⟩ <;>
  · intro heq
    rw [heq] at hlength
    simp at hlength

/-- The name under which a file is written first. -/
def temporaryName (name : List Char) : List Char := stemOf name ++ '.' :: temporaryExtension

theorem isFileName_temporaryName (h : '/' ∉ name) : IsFileName (temporaryName name) := by
  have hstem : '/' ∉ stemOf name := fun hmem => h ((stemOf_isPrefix name).subset hmem)
  have hlength : 4 ≤ (temporaryName name).length := by simp [temporaryName, temporaryExtension]
  refine ⟨?_, by simp [temporaryName, temporaryExtension, hstem], ?_, ?_⟩ <;>
  · intro heq
    rw [heq] at hlength
    simp at hlength

/-- **No temporary name** is that of a unit. -/
theorem temporaryName_ne (h : IsUnitName target) : temporaryName name ≠ target := by
  obtain ⟨stem, rfl⟩ := h.extension
  intro heq
  have hlast := congrArg List.getLast? heq
  simp [temporaryName, temporaryExtension] at hlast

/-- The names to which the file of a unit is written. -/
def namesOf (u : SourceUnit) : List (List Char) :=
  [temporaryName u.fileName.toList, u.fileName.toList]

theorem withExtension_unitLocation {u : SourceUnit} (h : IsUnitName u.fileName.toList) :
    (unitLocation dir u).withExtension temporaryExtension =
      dir.inside ⟨temporaryName u.fileName.toList⟩ :=
  Location.withExtension_inside_name dir h.isFileName (by decide)

/-- The changes that write a unit. -/
theorem writeSteps_unitLocation {u : SourceUnit} (h : IsUnitName u.fileName.toList) :
    writeSteps (unitLocation dir u) u.contents =
      (if (around dir).text = [] then [] else [.makeDirectories (around dir)]) ++
        [.writeFile (dir.inside ⟨temporaryName u.fileName.toList⟩) u.contents,
          .rename (dir.inside ⟨temporaryName u.fileName.toList⟩) (unitLocation dir u)] := by
  have hparent : (unitLocation dir u).parent? = some (around dir) :=
    Location.parent?_inside dir h.isFileName
  rw [writeSteps, hparent, withExtension_unitLocation h]

/-- Where the file of a unit is put, in a directory. -/
abbrev targetOf (D : Place) (u : SourceUnit) : Place := D ++ [u.fileName.toList]

/-- Where the file of a unit is written first. -/
abbrev temporaryOf (D : Place) (u : SourceUnit) : Place := D ++ [temporaryName u.fileName.toList]

/-! ## What every step keeps -/

theorem append_name_ne (D : Place) (n : List Char) : D ++ [n] ≠ D := fun h => by
  simpa using congrArg List.length h

theorem append_name_inj {n m : List Char} : D ++ [n] = D ++ [m] ↔ n = m := by
  rw [List.append_cancel_left_eq, List.singleton_inj]

/-- **Where units can be written**: a location has led to a directory since some disk on which the
temporary names were their own, and they still are.  The directory itself may be missing yet. -/
structure Stands (dir : Location) (D : Place) (units : List SourceUnit) (d : Disk) : Prop where
  origin : ∃ o : Disk, o.LeadsTo dir D ∧ o.node D = some .directory ∧
    (∀ u ∈ units, o.IsOwn (temporaryOf D u)) ∧ Disk.KeepsWays D o d
  own : ∀ u ∈ units, d.IsOwn (temporaryOf D u)

/-- **What files with these names become** in a directory, and nothing else. -/
structure Follows (dir : Location) (D : Place) (units : List SourceUnit) (names : List (List Char))
    (d s : Disk) : Prop where
  stands : Stands dir D units s
  others : ∀ p, p ≠ D → (∀ n ∈ names, p ≠ D ++ [n]) → s.held p = d.held p
  directory : s.held D = d.held D ∨ d.held D = none ∧ s.held D = some .directory

namespace Follows

theorem refl (h : Stands dir D units d) : Follows dir D units names d d :=
  ⟨h, fun _ _ _ => rfl, .inl rfl⟩

theorem mono (h : Follows dir D units names d s) (hsub : names ⊆ names') :
    Follows dir D units names' d s :=
  ⟨h.stands, fun p hp hmem => h.others p hp fun n hn => hmem n (hsub hn), h.directory⟩

theorem trans (h : Follows dir D units names d d₁) (h' : Follows dir D units names' d₁ s) :
    Follows dir D units (names ++ names') d s := by
  refine ⟨h'.stands, fun p hp hmem => ?_, ?_⟩
  · rw [h'.others p hp fun n hn => hmem n (List.mem_append_right names hn),
      h.others p hp fun n hn => hmem n (List.mem_append_left names' hn)]
  · obtain hsame | ⟨hnone, hmade⟩ := h.directory
    · rw [← hsame]
      exact h'.directory
    · -- the directory has been made, and is not made again
      obtain hsame | ⟨hnone', -⟩ := h'.directory
      · exact .inr ⟨hnone, hsame.trans hmade⟩
      · rw [hmade] at hnone'
        cases hnone'

/-- Another name of the directory holds what it held. -/
theorem held_eq (h : Follows dir D units names d s) (hn : n ∉ names) :
    s.held (D ++ [n]) = d.held (D ++ [n]) :=
  h.others _ (append_name_ne D n) fun _ hm heq => hn (append_name_inj.mp heq ▸ hm)

end Follows

section
variable (h : Stands dir D units d)
include h

/-- A location leads to one directory, if it leads anywhere. -/
theorem Stands.eq_of_leadsTo (hq : d.LeadsTo dir q) : q = D := by
  obtain ⟨o, hD, -, -, hways⟩ := h.origin
  exact (hways.leadsTo hq).unique hD

theorem Stands.eq_of_names (hname : IsFileName name)
    (hnames : d.Names d.home (dir.inside ⟨name⟩) p n slash) : p = D ∧ n = name := by
  obtain ⟨hp, rfl⟩ := hnames.inside hname
  exact ⟨h.eq_of_leadsTo hp, rfl⟩

/-- Units can still be written where the ways are kept and the temporary names are their own. -/
theorem Stands.keeps
    (hkeeps : ∀ o : Disk, o.node D = some .directory → (∀ u ∈ units, o.IsOwn (temporaryOf D u)) →
      Disk.KeepsWays D o d → Disk.KeepsWays D o s)
    (hown : ∀ u ∈ units, s.IsOwn (temporaryOf D u)) : Stands dir D units s := by
  obtain ⟨o, hleads, hD, hbefore, hways⟩ := h.origin
  exact ⟨⟨o, hleads, hD, hbefore, hkeeps o hD hbefore hways⟩, hown⟩

/-- **Making the directory** makes nothing else. -/
theorem follows_place (hnone : d.node D = none) :
    Follows dir D units [] d (d.place D (some .directory)) := by
  have hstands : Stands dir D units (d.place D (some .directory)) :=
    h.keeps (fun _ hD _ hways => hways.place hD) fun u hu =>
      (h.own u hu).place_directory (append_name_ne D _).symm
  refine ⟨hstands, fun p hp _ => ?_, .inr ⟨?_, ?_⟩⟩
  · exact Disk.held_congr (by rw [Disk.node_place, if_neg hp]) fun _ _ => rfl
  · exact Disk.held_eq_none hnone
  · rw [Disk.held, Disk.node_place, if_pos rfl]
    rfl

theorem follows_makeDirectories {f : Option FileError}
    (hrun : Happens d (.makeDirectories (around dir)) seen d' f) :
    ∀ s ∈ d :: seen, Follows dir D units [] d s := by
  cases hrun with
  | refused e => exact List.forall_mem_singleton.mpr (.refl h)
  | directories hmake =>
    obtain ⟨o, hleads, hD, -, hways⟩ := h.origin
    intro s hs
    obtain rfl | ⟨hnone, rfl⟩ := hmake.eq_of_leadsTo hD hways
      ⟨D, (Disk.leadsTo_around dir).mpr hleads⟩ s hs
    · exact .refl h
    · exact follows_place h hnone

/-- **Writing to a temporary name.** -/
theorem follows_writeFile {u : SourceUnit} (hu : u ∈ units)
    (hname : IsFileName (temporaryName u.fileName.toList))
    (hwrite : d.Writes (dir.inside ⟨temporaryName u.fileName.toList⟩) text s) :
    Follows dir D units [temporaryName u.fileName.toList] d s ∧
      s.held (temporaryOf D u) = some (.file text) := by
  obtain ⟨p, hopen, hfill⟩ := hwrite
  have hown := h.own u hu
  obtain rfl : p = temporaryOf D u := by
    cases hopen with
    | name hnames _ =>
      obtain ⟨rfl, rfl⟩ := h.eq_of_names hname hnames
      rfl
    | link hnames hnode _ =>
      obtain ⟨rfl, rfl⟩ := h.eq_of_names hname hnames
      exact absurd hnode hown.not_link
  have hheld := hfill.held_eq hown
  have hstands : Stands dir D units s :=
    h.keeps (fun _ _ _ hways => hways.fills hown hfill) fun v hv => hfill.isOwn hown (h.own v hv)
  refine ⟨⟨hstands, fun q _ hq => ?_, .inl ?_⟩, ?_⟩
  · rw [hheld, if_neg (hq _ (List.mem_singleton_self _))]
  · rw [hheld, if_neg (append_name_ne D _).symm]
  · rw [hheld, if_pos rfl]

/-- **Moving a unit** from its temporary name. -/
theorem follows_rename {u : SourceUnit} (hu : u ∈ units) (hunit : IsUnitName u.fileName.toList)
    (hrename : d.Renames (dir.inside ⟨temporaryName u.fileName.toList⟩) (unitLocation dir u) s) :
    Follows dir D units (namesOf u) d s ∧ s.held (targetOf D u) = d.held (temporaryOf D u) ∧
      s.held (temporaryOf D u) = none := by
  obtain ⟨p, n, slash, q, m, hsource, htarget, hmove⟩ := hrename
  obtain ⟨rfl, rfl⟩ := h.eq_of_names (isFileName_temporaryName hunit.slash) hsource
  obtain ⟨rfl, rfl⟩ := h.eq_of_names hunit.isFileName htarget
  have hne (v : SourceUnit) : temporaryOf q v ≠ targetOf q u := fun heq =>
    temporaryName_ne hunit (append_name_inj.mp heq)
  have hown := h.own u hu
  have hheld := hmove.held_eq hown (hne u).symm
  have hstands : Stands dir q units s :=
    h.keeps (fun _ _ hbefore hways => hways.relinks hown (hbefore u hu) (hne u).symm hmove)
      fun v hv => hmove.isOwn hown (hne u).symm (h.own v hv) (hne v)
  refine ⟨⟨hstands, fun r _ hr => ?_, .inl ?_⟩, ?_, ?_⟩
  · rw [hheld, if_neg (hr _ (List.mem_cons_of_mem _ (List.mem_singleton_self _))),
      if_neg (hr _ List.mem_cons_self)]
  · rw [hheld, if_neg (append_name_ne _ _).symm, if_neg (append_name_ne _ _).symm]
  · exact (hheld _).trans (if_pos rfl)
  · exact ((hheld _).trans (if_neg (hne u))).trans (if_pos rfl)

end

/-! ## Changes that may fail -/

theorem happens_writeFile {l : Location} {f : Option FileError}
    (hrun : Happens d (.writeFile l text) seen d' f) :
    (∀ s ∈ seen, ∃ part, d.Writes l part s) ∧ (f = none → d.Writes l text d') := by
  cases hrun with
  | refused e => exact ⟨List.forall_mem_nil _, by rintro ⟨⟩⟩
  | written hparts hwrite =>
    refine ⟨?_, fun _ => hwrite⟩
    rw [List.forall_mem_append, List.forall_mem_singleton]
    exact ⟨hparts, text, hwrite⟩
  | cutOff hparts hwrite e =>
    refine ⟨?_, by rintro ⟨⟩⟩
    rw [List.forall_mem_append, List.forall_mem_singleton]
    exact ⟨hparts, _, hwrite⟩

/-- **Moving a file** is all or nothing. -/
theorem happens_rename {l l' : Location} {f : Option FileError}
    (hrun : Happens d (.rename l l') seen d' f) :
    (f = none ∧ seen = [d'] ∧ d.Renames l l' d') ∨ ∃ e, f = some e ∧ seen = [] ∧ d' = d := by
  cases hrun with
  | refused e => exact .inr ⟨e, rfl, rfl, rfl⟩
  | moved hrename => exact .inl ⟨rfl, rfl, hrename⟩

/-- Changes go on as long as none fails. -/
theorem runs_makeChanges_cons {c : Change} {cs : List Change} {r : Except GenerateError Unit}
    (h : (makeChanges (c :: cs)).Runs d seen d' r) : ∃ seen₁ d₁ f, Happens d c seen₁ d₁ f ∧
      ((f = none ∧ ∃ seen₂, (makeChanges cs).Runs d₁ seen₂ d' r ∧ seen = seen₁ ++ seen₂) ∨
        ∃ e, f = some e ∧ seen = seen₁ ∧ d' = d₁ ∧ r = .error (.write c.location.toString e)) := by
  rw [makeChanges] at h
  cases h with
  | @change _ _ _ d₁ _ seen₁ seen₂ _ f hchange hnext =>
    refine ⟨seen₁, d₁, f, hchange, ?_⟩
    cases f with
    | none => exact .inl ⟨rfl, seen₂, hnext, rfl⟩
    | some e =>
      cases hnext with
      | done => exact .inr ⟨e, rfl, List.append_nil _, rfl, rfl⟩

/-! ## One unit -/

/-- **What comes of writing a unit** by changes: only its names change, its target never holds a
part, and in the end it holds the unit or what it held. -/
structure WritesUnit (dir : Location) (D : Place) (units : List SourceUnit) (u : SourceUnit)
    (cs : List Change) (d : Disk) (seen : List Disk) (d' : Disk) (r : Except GenerateError Unit) :
    Prop where
  follows : ∀ s ∈ d :: seen, Follows dir D units (namesOf u) d s
  whole : ∀ s ∈ d :: seen, s.held (targetOf D u) = d.held (targetOf D u) ∨
    s.held (targetOf D u) = some (.file u.contents)
  written : r = .ok () → d'.held (targetOf D u) = some (.file u.contents) ∧
    d'.held (temporaryOf D u) = none
  failed : ∀ e, r = .error e → d'.held (targetOf D u) = d.held (targetOf D u) ∧
    ∃ c ∈ cs, ∃ f, e = .write c.location.toString f

section
variable {u : SourceUnit} {c : Change} {cs : List Change} {seen' : List Disk}
  {r : Except GenerateError Unit} (hu : IsUnitName u.fileName.toList)

section
include hu

/-- A target holds what it held as long as its temporary name is the only one to change. -/
theorem held_of_follows_temporary
    (h : Follows dir D units [temporaryName u.fileName.toList] d s) :
    s.held (targetOf D u) = d.held (targetOf D u) :=
  h.held_eq fun hmem => temporaryName_ne hu (List.mem_singleton.mp hmem).symm

variable (hfirst : ∀ s ∈ d :: seen, Follows dir D units [temporaryName u.fileName.toList] d s)
include hfirst

omit hu in
theorem follows_namesOf (hs : s ∈ d :: seen) : Follows dir D units (namesOf u) d s :=
  (hfirst s hs).mono (List.cons_subset.mpr ⟨List.mem_cons_self, List.nil_subset _⟩)

/-- **A change of the temporary name** that fails. -/
theorem writesUnit_of_failure (hlast : d' ∈ d :: seen) (e : FileError) :
    WritesUnit dir D units u (c :: cs) d seen d' (.error (.write c.location.toString e)) where
  follows s hs := follows_namesOf hfirst hs
  whole s hs := .inl (held_of_follows_temporary hu (hfirst s hs))
  written := by rintro ⟨⟩
  failed := by
    rintro _ ⟨⟩
    exact ⟨held_of_follows_temporary hu (hfirst d' hlast), c, List.mem_cons_self, e, rfl⟩

/-- **A change of the temporary name** comes before the others. -/
theorem WritesUnit.cons (hlast : d₁ ∈ d :: seen)
    (hrest : WritesUnit dir D units u cs d₁ seen' d' r) :
    WritesUnit dir D units u (c :: cs) d (seen ++ seen') d' r := by
  have hold := held_of_follows_temporary hu (hfirst d₁ hlast)
  refine ⟨fun s hs => ?_, fun s hs => ?_, hrest.written, fun e he => ?_⟩
  · rw [← List.cons_append, List.mem_append] at hs
    obtain hs | hs := hs
    · exact follows_namesOf hfirst hs
    · refine ((hfirst d₁ hlast).trans (hrest.follows s (List.mem_cons_of_mem d₁ hs))).mono ?_
      simp [namesOf]
  · rw [← List.cons_append, List.mem_append] at hs
    obtain hs | hs := hs
    · exact .inl (held_of_follows_temporary hu (hfirst s hs))
    · rw [← hold]
      exact hrest.whole s (List.mem_cons_of_mem d₁ hs)
  · obtain ⟨hkept, c', hc', hwording⟩ := hrest.failed e he
    exact ⟨hkept.trans hold, c', List.mem_cons_of_mem c hc', hwording⟩

end

variable (hmem : u ∈ units) (h : Stands dir D units d)
include hu hmem h

/-- **Moving a unit** from its temporary name. -/
theorem writesUnit_rename (htemporary : d.held (temporaryOf D u) = some (.file u.contents))
    (hrun : (makeChanges [.rename (dir.inside ⟨temporaryName u.fileName.toList⟩)
      (unitLocation dir u)]).Runs d seen d' r) :
    WritesUnit dir D units u
      [.rename (dir.inside ⟨temporaryName u.fileName.toList⟩) (unitLocation dir u)]
      d seen d' r := by
  obtain ⟨seen₁, d₁, f, hrename, hrest⟩ := runs_makeChanges_cons hrun
  obtain ⟨rfl, rfl, hmoved⟩ | ⟨e, rfl, rfl, rfl⟩ := happens_rename hrename
  · obtain ⟨-, seen₂, hdone, rfl⟩ | ⟨e, ⟨⟩, -⟩ := hrest
    cases hdone with
    | done =>
      obtain ⟨hfollows, htarget, hsource⟩ := follows_rename h hmem hu hmoved
      rw [htemporary] at htarget
      exact
        { follows := List.forall_mem_cons.mpr ⟨.refl h, List.forall_mem_singleton.mpr hfollows⟩
          whole := List.forall_mem_cons.mpr
            ⟨.inl rfl, List.forall_mem_singleton.mpr (.inr htarget)⟩
          written := fun _ => ⟨htarget, hsource⟩
          failed := by rintro _ ⟨⟩ }
  · obtain ⟨⟨⟩, -⟩ | ⟨e', ⟨⟩, rfl, rfl, rfl⟩ := hrest
    exact writesUnit_of_failure hu (List.forall_mem_singleton.mpr (.refl h)) List.mem_cons_self e

/-- **Writing a unit under its temporary name** and moving it. -/
theorem writesUnit_placing (hrun : (makeChanges
      [.writeFile (dir.inside ⟨temporaryName u.fileName.toList⟩) u.contents,
        .rename (dir.inside ⟨temporaryName u.fileName.toList⟩) (unitLocation dir u)]).Runs
      d seen d' r) :
    WritesUnit dir D units u [.writeFile (dir.inside ⟨temporaryName u.fileName.toList⟩) u.contents,
      .rename (dir.inside ⟨temporaryName u.fileName.toList⟩) (unitLocation dir u)]
      d seen d' r := by
  have hname := isFileName_temporaryName hu.slash
  obtain ⟨seen₁, d₁, f, hwrite, hrest⟩ := runs_makeChanges_cons hrun
  obtain ⟨hparts, hwritten⟩ := happens_writeFile hwrite
  have hfirst : ∀ s ∈ d :: seen₁,
      Follows dir D units [temporaryName u.fileName.toList] d s := by
    refine List.forall_mem_cons.mpr ⟨.refl h, fun s hs => ?_⟩
    obtain ⟨part, hpart⟩ := hparts s hs
    exact (follows_writeFile h hmem hname hpart).1
  obtain ⟨hnone, seen₂, hmove, rfl⟩ | ⟨e, -, rfl, rfl, rfl⟩ := hrest
  · have hheld := (follows_writeFile h hmem hname (hwritten hnone)).2
    exact WritesUnit.cons hu hfirst hwrite.mem
      (writesUnit_rename hu hmem (hfirst d₁ hwrite.mem).stands hheld hmove)
  · exact writesUnit_of_failure hu hfirst hwrite.mem e

/-- **Writing a unit.** -/
theorem writesUnit_writeAtomic (hrun : (writeAtomic (unitLocation dir u) u.contents).Runs
      d seen d' r) :
    WritesUnit dir D units u (writeSteps (unitLocation dir u) u.contents) d seen d' r := by
  rw [writeAtomic, writeSteps_unitLocation hu] at hrun
  rw [writeSteps_unitLocation hu]
  split at hrun
  next hnil =>
    rw [if_pos hnil]
    exact writesUnit_placing hu hmem h hrun
  next hne =>
    rw [if_neg hne]
    obtain ⟨seen₁, d₁, f, hmake, hrest⟩ := runs_makeChanges_cons hrun
    have hfollows := follows_makeDirectories h hmake
    have hfirst (s : Disk) (hs : s ∈ d :: seen₁) :
        Follows dir D units [temporaryName u.fileName.toList] d s :=
      (hfollows s hs).mono (List.nil_subset _)
    obtain ⟨-, seen₂, hplace, rfl⟩ | ⟨e, -, rfl, rfl, rfl⟩ := hrest
    · exact WritesUnit.cons hu hfirst hmake.mem
        (writesUnit_placing hu hmem (hfollows d₁ hmake.mem).stands hplace)
    · exact writesUnit_of_failure hu hfirst hmake.mem e

end

/-! ## Several units -/

/-- **When the first units are written** and the others are not: the former have their contents, and
the latter hold what they held. -/
structure Between (D : Place) (d s : Disk) (before after : List SourceUnit) : Prop where
  written : ∀ u ∈ before, s.held (targetOf D u) = some (.file u.contents)
  kept : ∀ u ∈ after, s.held (targetOf D u) = d.held (targetOf D u)

/-- **A run that fails at a unit**: the units before it are written, by a run that succeeds, and
writing it fails. -/
structure FailsAt (dir : Location) (d : Disk) (seen : List Disk) (d' : Disk)
    (e : GenerateError) (before : List SourceUnit) (u : SourceUnit) : Prop where
  runs : ∃ seen₁ d₁ ls seen₂, (writeEach dir before).Runs d seen₁ d₁ (.ok ls) ∧
    (writeAtomic (unitLocation dir u) u.contents).Runs d₁ seen₂ d' (.error e) ∧
    seen = seen₁ ++ seen₂
  error : ∃ c ∈ writeSteps (unitLocation dir u) u.contents, ∃ f, e = .write c.location.toString f

/-- **What comes of writing units** one after the other. -/
structure WritesUnits (dir : Location) (D : Place) (units us : List SourceUnit) (d : Disk)
    (seen : List Disk) (d' : Disk) (r : Except GenerateError (List Location)) : Prop where
  follows : ∀ s ∈ d :: seen, Follows dir D units (us.flatMap namesOf) d s
  whole : ∀ s ∈ d :: seen, ∃ before after, us = before ++ after ∧ Between D d s before after
  written : ∀ ls, r = .ok ls → ls = us.map (unitLocation dir) ∧
    ∀ u ∈ us, d'.held (targetOf D u) = some (.file u.contents) ∧
      d'.held (temporaryOf D u) = none
  failed : ∀ e, r = .error e → ∃ before u after, us = before ++ u :: after ∧
    Between D d d' before (u :: after) ∧ FailsAt dir d seen d' e before u

/-- Units are written as long as none fails. -/
theorem runs_writeEach_cons {u : SourceUnit} {us : List SourceUnit}
    {r : Except GenerateError (List Location)} : (writeEach dir (u :: us)).Runs d seen d' r ↔
      (∃ e, r = .error e ∧
        (writeAtomic (unitLocation dir u) u.contents).Runs d seen d' (.error e)) ∨
      ∃ seen₁ d₁ seen₂ rest,
        (writeAtomic (unitLocation dir u) u.contents).Runs d seen₁ d₁ (.ok ()) ∧
        (writeEach dir us).Runs d₁ seen₂ d' rest ∧
        r = rest.map (fun ls => unitLocation dir u :: ls) ∧ seen = seen₁ ++ seen₂ := by
  rw [writeEach, Script.runs_bind]
  constructor
  · rintro ⟨seen₁, d₁, a, seen₂, hunit, hnext, rfl⟩
    cases a with
    | error e =>
      cases hnext with
      | done => exact .inl ⟨e, rfl, (List.append_nil seen₁).symm ▸ hunit⟩
    | ok x =>
      obtain ⟨seen₃, d₂, rest, seen₄, hrest, hdone, rfl⟩ := Script.runs_bind.mp hnext
      cases hdone with
      | done => exact .inr ⟨seen₁, d₁, seen₃, rest, hunit, hrest, rfl, by rw [List.append_nil]⟩
  · rintro (⟨e, rfl, hunit⟩ | ⟨seen₁, d₁, seen₂, rest, hunit, hrest, rfl, rfl⟩)
    · exact ⟨seen, d', .error e, [], hunit, .done _ d', (List.append_nil seen).symm⟩
    · exact ⟨seen₁, d₁, .ok (), seen₂, hunit,
        Script.runs_bind.mpr ⟨seen₂, d', rest, [], hrest, .done _ d', (List.append_nil seen₂).symm⟩,
        rfl⟩

/-- A unit with another name holds what it held. -/
theorem held_of_writesUnit {u v : SourceUnit} {cs : List Change} {r : Except GenerateError Unit}
    (h : WritesUnit dir D units u cs d seen d' r) (hs : s ∈ d :: seen)
    (hv : IsUnitName v.fileName.toList) (hne : v.fileName ≠ u.fileName) :
    s.held (targetOf D v) = d.held (targetOf D v) := by
  refine (h.follows s hs).held_eq fun hmem => ?_
  obtain heq | heq := by simpa [namesOf] using hmem
  · exact temporaryName_ne hv heq.symm
  · exact hne (String.toList_inj.mp heq)

section
variable {u : SourceUnit} {us : List SourceUnit} (hu : IsUnitName u.fileName.toList)
  (hnames : ∀ v ∈ us, IsUnitName v.fileName.toList) (hother : ∀ v ∈ us, v.fileName ≠ u.fileName)
include hnames hother

/-- **While one unit is written**, it is the only one that may be. -/
theorem exists_between_of_writesUnit {cs : List Change} {r : Except GenerateError Unit}
    (h : WritesUnit dir D units u cs d seen d' r) (hs : s ∈ d :: seen) :
    ∃ before after, u :: us = before ++ after ∧ Between D d s before after := by
  have hkept (v : SourceUnit) (hv : v ∈ us) :
      s.held (targetOf D v) = d.held (targetOf D v) :=
    held_of_writesUnit h hs (hnames v hv) (hother v hv)
  obtain hold | hnew := h.whole s hs
  · exact ⟨[], u :: us, rfl, List.forall_mem_nil _, List.forall_mem_cons.mpr ⟨hold, hkept⟩⟩
  · exact ⟨[u], us, rfl, List.forall_mem_singleton.mpr hnew, hkept⟩

/-- The first unit cannot be written. -/
theorem writesUnits_of_failure {e : GenerateError}
    (hrun : (writeAtomic (unitLocation dir u) u.contents).Runs d seen d' (.error e))
    (h : WritesUnit dir D units u (writeSteps (unitLocation dir u) u.contents) d seen d'
      (.error e)) :
    WritesUnits dir D units (u :: us) d seen d' (.error e) where
  follows s hs := (h.follows s hs).mono (List.subset_append_left _ _)
  whole s hs := exists_between_of_writesUnit hnames hother h hs
  written := by rintro _ ⟨⟩
  failed := by
    rintro _ ⟨⟩
    obtain ⟨hold, herror⟩ := h.failed e rfl
    exact ⟨[], u, us, rfl, ⟨List.forall_mem_nil _, List.forall_mem_cons.mpr ⟨hold, fun v hv =>
      held_of_writesUnit h hrun.mem (hnames v hv) (hother v hv)⟩⟩,
      ⟨[], d, [], seen, .done _ d, hrun, rfl⟩, herror⟩

include hu

omit hnames in
/-- No other unit puts a file in the place of this one. -/
theorem fileName_not_mem : u.fileName.toList ∉ us.flatMap namesOf := by
  intro hmem
  obtain ⟨v, hv, hmem⟩ := List.mem_flatMap.mp hmem
  obtain heq | heq := by simpa [namesOf] using hmem
  · exact temporaryName_ne hu heq.symm
  · exact hother v hv (String.toList_inj.mp heq).symm

omit hother hu in
/-- A temporary name is only shared with other temporary names. -/
theorem exists_temporaryName_eq (hmem : temporaryName name ∈ us.flatMap namesOf) :
    ∃ v ∈ us, temporaryName name = temporaryName v.fileName.toList := by
  obtain ⟨v, hv, hmem⟩ := List.mem_flatMap.mp hmem
  obtain heq | heq := by simpa [namesOf] using hmem
  · exact ⟨v, hv, heq⟩
  · exact absurd heq (temporaryName_ne (hnames v hv))

section
variable {seen' : List Disk} {r : Except GenerateError (List Location)}
  (hrun : (writeAtomic (unitLocation dir u) u.contents).Runs d seen d₁ (.ok ()))
  (h : WritesUnit dir D units u (writeSteps (unitLocation dir u) u.contents) d seen d₁ (.ok ()))
  (hrest : WritesUnits dir D units us d₁ seen' d' r)
include hrun h hrest

/-- **While the others are written**, the first unit is in place. -/
theorem WritesUnits.between_cons (hs : s ∈ d₁ :: seen') {before after : List SourceUnit}
    (hus : us = before ++ after) (hb : Between D d₁ s before after) :
    Between D d s (u :: before) after where
  written := by
    refine List.forall_mem_cons.mpr ⟨?_, hb.written⟩
    rw [← (h.written rfl).1]
    exact (hrest.follows s hs).held_eq (fileName_not_mem hu hother)
  kept v hv := by
    have hmem : v ∈ us := hus ▸ List.mem_append_right before hv
    rw [hb.kept v hv]
    exact held_of_writesUnit h hrun.mem (hnames v hmem) (hother v hmem)

/-- The first unit is written, and then the others. -/
theorem WritesUnits.cons (hlast : d' ∈ d₁ :: seen') :
    WritesUnits dir D units (u :: us) d (seen ++ seen') d'
      (r.map fun ls => unitLocation dir u :: ls) := by
  refine ⟨fun s hs => ?_, fun s hs => ?_, fun ls hls => ?_, fun e he => ?_⟩
  · rw [← List.cons_append, List.mem_append] at hs
    obtain hs | hs := hs
    · exact (h.follows s hs).mono (List.subset_append_left _ _)
    · exact (h.follows d₁ hrun.mem).trans (hrest.follows s (List.mem_cons_of_mem d₁ hs))
  · rw [← List.cons_append, List.mem_append] at hs
    obtain hs | hs := hs
    · exact exists_between_of_writesUnit hnames hother h hs
    · have hs := List.mem_cons_of_mem d₁ hs
      obtain ⟨before, after, hus, hb⟩ := hrest.whole s hs
      exact ⟨u :: before, after, congrArg (u :: ·) hus,
        hrest.between_cons hu hnames hother hrun h hs hus hb⟩
  · cases r with
    | error e => cases hls
    | ok ls' =>
      obtain ⟨rfl, hall⟩ := hrest.written ls' rfl
      obtain rfl := Except.ok.inj hls
      have hfirst := (hrest.between_cons hu hnames hother hrun h hlast (List.append_nil us).symm
        ⟨fun v hv => (hall v hv).1, List.forall_mem_nil _⟩).written u List.mem_cons_self
      refine ⟨rfl, List.forall_mem_cons.mpr ⟨⟨hfirst, ?_⟩, hall⟩⟩
      by_cases hmem : temporaryName u.fileName.toList ∈ us.flatMap namesOf
      · -- another unit has the same temporary name, and has moved its file as well
        obtain ⟨v, hv, heq⟩ := exists_temporaryName_eq hnames hmem
        rw [temporaryOf, heq]
        exact (hall v hv).2
      · rw [← (h.written rfl).2]
        exact (hrest.follows d' hlast).held_eq hmem
  · cases r with
    | ok ls => cases he
    | error e' =>
      obtain rfl := Except.error.inj he
      obtain ⟨before, v, after, rfl, hb, ⟨seen₁, d₂, ls, seen₂, hbefore, hv, rfl⟩, herror⟩ :=
        hrest.failed e' rfl
      refine ⟨u :: before, v, after, rfl, hrest.between_cons hu hnames hother hrun h hlast rfl hb,
        ⟨seen ++ seen₁, d₂, unitLocation dir u :: ls, seen₂, ?_, hv, ?_⟩, herror⟩
      · exact runs_writeEach_cons.mpr (.inr ⟨seen, d₁, seen₁, .ok ls, hrun, hbefore, rfl, rfl⟩)
      · rw [List.append_assoc]

end

end

/-- **Units with distinct names** are written one after the other. -/
theorem writesUnits_writeEach {us : List SourceUnit} {r : Except GenerateError (List Location)}
    (hsub : us ⊆ units) (hnames : ∀ u ∈ us, IsUnitName u.fileName.toList)
    (hnodup : (us.map (·.fileName)).Nodup) (h : Stands dir D units d)
    (hrun : (writeEach dir us).Runs d seen d' r) : WritesUnits dir D units us d seen d' r := by
  induction us generalizing d seen r with
  | nil =>
    cases hrun with
    | done => exact
      { follows := List.forall_mem_singleton.mpr (.refl h)
        whole := List.forall_mem_singleton.mpr
          ⟨[], [], rfl, List.forall_mem_nil _, List.forall_mem_nil _⟩
        written := by
          rintro _ ⟨⟩
          exact ⟨rfl, List.forall_mem_nil _⟩
        failed := by rintro _ ⟨⟩ }
  | cons u us ih =>
    obtain ⟨hmem, hsub⟩ := List.cons_subset.mp hsub
    rw [List.forall_mem_cons] at hnames
    rw [List.map_cons, List.nodup_cons] at hnodup
    have hother (v : SourceUnit) (hv : v ∈ us) : v.fileName ≠ u.fileName := fun heq =>
      hnodup.1 (heq ▸ List.mem_map_of_mem hv)
    obtain ⟨e, rfl, hunit⟩ | ⟨seen₁, d₁, seen₂, rest, hunit, hrest, rfl, rfl⟩ :=
      runs_writeEach_cons.mp hrun
    · exact writesUnits_of_failure hnames.2 hother hunit
        (writesUnit_writeAtomic hnames.1 hmem h hunit)
    · have hwrites := writesUnit_writeAtomic hnames.1 hmem h hunit
      have hstands := (hwrites.follows d₁ hunit.mem).stands
      exact WritesUnits.cons hnames.1 hnames.2 hother hunit hwrites
        (ih hsub hnames.2 hnodup.2 hstands hrest) hrest.mem

end RestLoom.Emit
