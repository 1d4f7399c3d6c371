import Mathlib
import RestLoom.Proofs.Emit.Replacement
import RestLoom.Proofs.FileTree.Shown

/-!
# Proofs/Emit/Atomic — writing units is atomic for each file, and ordered

    report ──▸ a_generated_client.rs · a_generated_client_registration.rs · mod.rs     in this order

Whatever the disk fails at while units are written, and whoever looks in between: the first units
are in place as a whole, the others are as they were, and nothing else has changed but temporary
names (`writeUnits_atomic`).  Where no directory can be made nothing happens at all.  The unit of
modules is the last one of a report, so that a new one never declares a module whose file is not
there (`DeclaresWritten`).

The temporary names have to be their own.  One that is a link is followed, and a file that has
nothing to do with the units is overwritten (`exists_link_overwritten`).
-/

namespace RestLoom.Emit

open RestLoom.FileTree
open RestLoom.FileTree.Location (around IsFileName)

variable {dir : Location} {D : Place} {d d' s : Disk} {seen : List Disk} {us : List SourceUnit}

/-! ## The directory of units -/

/-- Looking for the directory around a location. -/
theorem runs_parentIsThere {b : Bool} (hrun : (parentIsThere dir).Runs d seen d' b) :
    seen = [] ∧ d' = d ∧ (b = true → ∀ a, dir.parent? = some a → ∃ q, d.LeadsTo a q) := by
  rw [parentIsThere] at hrun
  cases hparent : dir.parent? with
  | none =>
    rw [hparent] at hrun
    cases hrun with
    | done => exact ⟨rfl, rfl, fun _ => by rintro _ ⟨⟩⟩
  | some a =>
    rw [hparent] at hrun
    dsimp only at hrun
    split at hrun
    next hnil =>
      cases hrun with
      | done =>
        refine ⟨rfl, rfl, fun _ => ?_⟩
        rintro _ ⟨⟩
        exact ⟨_, Disk.leadsTo_of_text hnil⟩
    next =>
      cases hrun with
      | isDirectory hthere hdone =>
        cases hdone with
        | done =>
          refine ⟨rfl, rfl, fun hb => ?_⟩
          rintro _ ⟨⟩
          exact (hthere hb).2

/-- **Units are written where they can be**, and else nothing happens. -/
theorem runs_writeUnits {r : Except GenerateError (List Location)}
    (hrun : (writeUnits us dir).Runs d seen d' r) :
    ((∀ a, dir.parent? = some a → ∃ q, d.LeadsTo a q) ∧ (writeEach dir us).Runs d seen d' r) ∨
      (seen = [] ∧ d' = d ∧ r = .error (.outputDirNotFound dir.toString)) := by
  rw [writeUnits] at hrun
  obtain ⟨seen₁, d₁, b, seen₂, hlook, hrun, rfl⟩ := Script.runs_bind.mp hrun
  cases hlook with
  | isDirectory hthere hdone =>
    cases hdone with
    | done =>
      cases b with
      | true =>
        obtain ⟨q, hq⟩ := (hthere rfl).2
        exact .inl ⟨fun a ha => hq.parent? ha, hrun⟩
      | false =>
        obtain ⟨seen₃, d₂, b', seen₄, hparent, hrun, rfl⟩ := Script.runs_bind.mp hrun
        obtain ⟨rfl, rfl, hparent⟩ := runs_parentIsThere hparent
        cases b' with
        | true => exact .inl ⟨hparent rfl, hrun⟩
        | false =>
          cases hrun with
          | done => exact .inr ⟨rfl, rfl, rfl⟩

/-- A location leads to a directory where units can be written, if it leads anywhere. -/
theorem stands_of_leadsTo (hdisk : d.IsDisk) (hD : d.LeadsTo dir D)
    (hown : ∀ u ∈ us, d.IsOwn (temporaryOf D u)) : Stands dir D us d :=
  ⟨⟨d, hD, hD.node_eq hdisk, hown, .refl d⟩, hown⟩

/-- **A directory that can be made** is where units can be written. -/
theorem exists_stands_of_makes (hdisk : d.IsDisk) (hmake : d.Makes (around dir) s) :
    ∃ D, Stands dir D us d := by
  obtain ⟨D, hnone, rfl, hD⟩ := hmake.leadsTo
  have hempty (n : List Char) : d.node (D ++ [n]) = none := by
    cases hx : d.node (D ++ [n]) with
    | none => rfl
    | some x => cases hnone.symm.trans (hdisk.inside D n x hx)
  have hown (u : SourceUnit) : d.IsOwn (temporaryOf D u) := Disk.isOwn_of_node_eq_none (hempty _)
  refine ⟨D, ⟨_, (Disk.leadsTo_around dir).mp hD, ?_, fun u _ => ?_, ?_⟩, fun u _ => hown u⟩
  · rw [Disk.node_place, if_pos rfl]
  · exact (hown u).place_directory (append_name_ne D _).symm
  · exact .of_place hnone

/-- **Where no directory is and none can be made**, no unit is written. -/
theorem runs_writeAtomic_of_none {u : SourceUnit} {r : Except GenerateError Unit}
    (hdisk : d.IsDisk) (hu : IsUnitName u.fileName.toList)
    (hparent : ∀ a, dir.parent? = some a → ∃ q, d.LeadsTo a q) (hnot : ∀ q, ¬d.LeadsTo dir q)
    (hmake : ∀ s, ¬d.Makes (around dir) s)
    (hrun : (writeAtomic (unitLocation dir u) u.contents).Runs d seen d' r) :
    (∀ s ∈ d :: seen, s = d) ∧ ∃ c ∈ writeSteps (unitLocation dir u) u.contents, ∃ f,
      r = .error (.write c.location.toString f) := by
  have hnot (q : Place) : ¬d.LeadsTo (around dir) q := fun hq =>
    hnot q ((Disk.leadsTo_around dir).mp hq)
  rw [writeAtomic, writeSteps_unitLocation hu] at hrun
  rw [writeSteps_unitLocation hu]
  split at hrun
  next hnil => exact absurd (Disk.leadsTo_of_text hnil) (hnot _)
  next hne =>
    rw [if_neg hne]
    obtain ⟨seen₁, d₁, f, hchange, hrest⟩ := runs_makeChanges_cons hrun
    obtain ⟨hf, hsame⟩ : f ≠ none ∧ ∀ s ∈ d :: seen₁, s = d := by
      cases hchange with
      | refused e => exact ⟨by rintro ⟨⟩, List.forall_mem_singleton.mpr rfl⟩
      | directories h =>
        exact h.eq_of_not_makes hdisk
          (fun a ha => hparent a ((Location.parent?_around dir).symm.trans ha)) hnot hmake
    obtain ⟨hnone, -⟩ | ⟨e, -, rfl, -, rfl⟩ := hrest
    · exact absurd hnone hf
    · exact ⟨hsame, _, List.mem_cons_self, e, rfl⟩

/-! ## The unit of modules -/

/-- **A target that has changed** is written, and so are the units before it. -/
theorem WritesUnits.between_of_changed {units front : List SourceUnit} {u : SourceUnit}
    {r : Except GenerateError (List Location)}
    (h : WritesUnits dir D units (front ++ [u]) d seen d' r) (hs : s ∈ d :: seen)
    (hchanged : s.held (targetOf D u) ≠ d.held (targetOf D u)) :
    Between D d s (front ++ [u]) [] := by
  obtain ⟨before, after, hus, hb⟩ := h.whole s hs
  rcases List.eq_nil_or_concat after with rfl | ⟨rest, v, rfl⟩
  · rw [hus, List.append_nil]
    exact hb
  · rw [List.concat_eq_append, ← List.append_assoc] at hus
    obtain rfl := List.singleton_inj.mp (List.append_inj_right' hus rfl)
    exact absurd (hb.kept u (by simp)) hchanged

/-- Where the modules are declared. -/
def modulesOf? (D : Place) (s : Disk) : Option Held := s.held (D ++ ["mod.rs".toList])

/-- The names of the modules that belong to a service. -/
def modulesFor (stem : String) : List String := [stem, stem ++ "_registration"]

/-- **Whether a unit of modules is right**: if it has changed, all modules that it declares have the
files of their units. -/
def DeclaresWritten (D : Place) (us : List SourceUnit) (d s : Disk) : Prop :=
  modulesOf? D s ≠ modulesOf? D d →
    ∃ stems, modulesOf? D s = some (.file (modulesText stems)) ∧
      ∀ stem ∈ stems, ∀ name ∈ modulesFor stem, ∃ contents, ⟨name ++ ".rs", contents⟩ ∈ us ∧
        s.held (targetOf D ⟨name ++ ".rs", contents⟩) = some (.file contents)

/-- The modules of what has been built have their units. -/
theorem exists_unit_of_mem_stemsOf {js : List Judged} {stem : String} (hstem : stem ∈ stemsOf js)
    {name : String} (hname : name ∈ modulesFor stem) :
    ∃ contents, ⟨name ++ ".rs", contents⟩ ∈ unitsOf js := by
  obtain ⟨b, hb, rfl⟩ := List.mem_map.mp hstem
  obtain rfl | rfl := by simpa [modulesFor] using hname
  · exact ⟨b.client, List.mem_flatMap.mpr ⟨b, hb, List.mem_cons_self⟩⟩
  · refine ⟨b.registration, List.mem_flatMap.mpr ⟨b, hb, ?_⟩⟩
    rw [String.append_assoc]
    exact List.mem_cons_of_mem _ List.mem_cons_self

/-- **When the unit of modules is new**, its modules are there. -/
theorem WritesUnits.declaresWritten {units : List SourceUnit} {o : Options} {source : String}
    {report : Report} {r : Except GenerateError (List Location)}
    (hreport : generate o source = .ok report)
    (h : WritesUnits dir D units report.units d seen d' r) (hs : s ∈ d :: seen) :
    DeclaresWritten D report.units d s := by
  intro hchanged
  obtain ⟨file, js, -, -, -, rfl⟩ := exists_judging_of_generate hreport
  have hunits : (Report.of js).units = unitsOf js ++ modulesOf (stemsOf js) := rfl
  rw [hunits, modulesOf] at h
  rw [hunits, modulesOf]
  split at h
  next hnil =>
    have hnone : unitsOf js = [] := by
      rw [unitsOf, List.map_eq_nil_iff.mp hnil]
      rfl
    rw [hnone] at h
    exact absurd ((h.follows s hs).held_eq List.not_mem_nil) hchanged
  next hne =>
    rw [if_neg hne]
    have hb := h.between_of_changed hs hchanged
    refine ⟨stemsOf js, hb.written ⟨"mod.rs", modulesText (stemsOf js)⟩
      (List.mem_append_right _ (List.mem_singleton_self _)), fun stem hstem name hname => ?_⟩
    obtain ⟨contents, hmem⟩ := exists_unit_of_mem_stemsOf hstem hname
    exact ⟨contents, List.mem_append_left _ hmem, hb.written _ (List.mem_append_left _ hmem)⟩

/-! ## Atomic writing -/

/-- **What writing units comes to**, whatever fails: `D` is the directory of the units, `d` is
the disk before, `seen` are the disks in between, `d'` is the disk that is left, and `r` is the
result. -/
structure IsAtomic (dir : Location) (D : Place) (us : List SourceUnit) (d : Disk)
    (seen : List Disk) (d' : Disk) (r : Except GenerateError (List Location)) : Prop where
  /-- The location of the directory never leads anywhere else. -/
  directory : ∀ s ∈ d :: seen, ∀ q, s.LeadsTo dir q → q = D
  /-- At any time the first units are in place as a whole, and the others are as they were. -/
  whole : ∀ s ∈ d :: seen, ∃ before after, us = before ++ after ∧ Between D d s before after
  /-- At any time nothing has changed but targets, temporary names and the directory itself. -/
  only : ∀ s ∈ d :: seen, ∀ p, s.held p ≠ d.held p →
    (∃ u ∈ us, p = temporaryOf D u ∨ p = targetOf D u) ∨
      (p = D ∧ d.held p = none ∧ s.held p = some .directory)
  /-- What is left is what is seen last. -/
  last : seen.getLastD d = d'
  /-- If it succeeds all units are in place, no temporary file is left, and the result says where
  they are. -/
  written : ∀ ls, r = .ok ls → ls = us.map (unitLocation dir) ∧
    ∀ u ∈ us, d'.held (targetOf D u) = some (.file u.contents) ∧ d'.held (temporaryOf D u) = none
  /-- If it fails, then before it begins or at one unit, and then those before it are in place and
  it and the others are as they were. -/
  failed : ∀ e, r = .error e → (seen = [] ∧ e = .outputDirNotFound dir.toString) ∨
    ∃ before u after, us = before ++ u :: after ∧ Between D d d' before (u :: after) ∧
      FailsAt dir d seen d' e before u
  /-- Where the directory around is missing it does not begin. -/
  missing : (∃ a, dir.parent? = some a ∧ ∀ q, ¬d.LeadsTo a q) →
    seen = [] ∧ r = .error (.outputDirNotFound dir.toString)
  /-- At any time the unit of modules of a report is right. -/
  modules : ∀ o source report, generate o source = .ok report → us = report.units →
    ∀ s ∈ d :: seen, DeclaresWritten D us d s

/-- Where nothing has changed, at any time. -/
theorem isAtomic_of_same {r : Except GenerateError (List Location)}
    (hdirectory : ∀ q, d.LeadsTo dir q → q = D) (hsame : ∀ s ∈ d :: seen, s = d)
    (hlast : seen.getLastD d = d') (hwritten : ∀ ls, r = .ok ls → ls = [] ∧ us = [])
    (hfailed : ∀ e, r = .error e → (seen = [] ∧ e = .outputDirNotFound dir.toString) ∨
      ∃ u after, us = u :: after ∧ FailsAt dir d seen d' e [] u)
    (hmissing : (∃ a, dir.parent? = some a ∧ ∀ q, ¬d.LeadsTo a q) →
      seen = [] ∧ r = .error (.outputDirNotFound dir.toString)) :
    IsAtomic dir D us d seen d' r where
  directory s hs := by
    rw [hsame s hs]
    exact hdirectory
  whole s hs := ⟨[], us, rfl, List.forall_mem_nil _, fun u _ => by rw [hsame s hs]⟩
  only s hs p hp := absurd (by rw [hsame s hs]) hp
  last := hlast
  written ls hls := by
    obtain ⟨rfl, rfl⟩ := hwritten ls hls
    exact ⟨rfl, List.forall_mem_nil _⟩
  failed e he := by
    refine (hfailed e he).imp_right ?_
    rintro ⟨u, after, rfl, hfails⟩
    have hd' : d' = d := hsame d' (hlast ▸ List.getLastD_mem_cons)
    exact ⟨[], u, after, rfl, ⟨List.forall_mem_nil _, fun v _ => by rw [hd']⟩, hfails⟩
  missing := hmissing
  modules _ _ _ _ _ s hs hchanged := absurd (by rw [hsame s hs]) hchanged

/-- Where units can be written, writing them is atomic. -/
theorem isAtomic_of_stands {r : Except GenerateError (List Location)}
    (hnames : ∀ u ∈ us, IsUnitName u.fileName.toList) (hnodup : (us.map (·.fileName)).Nodup)
    (hstands : Stands dir D us d) (hparent : ∀ a, dir.parent? = some a → ∃ q, d.LeadsTo a q)
    (hrun : (writeEach dir us).Runs d seen d' r) : IsAtomic dir D us d seen d' r := by
  have h := writesUnits_writeEach (List.Subset.refl us) hnames hnodup hstands hrun
  exact
    { directory := fun s hs q hq => (h.follows s hs).stands.eq_of_leadsTo hq
      whole := h.whole
      only := fun s hs p hp => by
        obtain ⟨-, hothers, hdirectory⟩ := h.follows s hs
        by_cases hD : p = D
        · subst hD
          exact .inr ⟨rfl, hdirectory.resolve_left hp⟩
        · left
          by_contra hnot
          refine hp (hothers p hD fun n hn heq => hnot ?_)
          obtain ⟨u, hu, hn⟩ := List.mem_flatMap.mp hn
          refine ⟨u, hu, ?_⟩
          obtain rfl | rfl := by simpa [namesOf] using hn
          · exact .inl heq
          · exact .inr heq
      last := hrun.getLastD_eq
      written := h.written
      failed := fun e he => .inr (h.failed e he)
      missing := fun ⟨a, ha, hmissing⟩ => by
        obtain ⟨q, hq⟩ := hparent a ha
        exact absurd hq (hmissing q)
      modules := by
        rintro o source report hreport rfl s hs
        exact h.declaresWritten hreport hs }

/-- Where no directory is and none can be made, writing units comes to nothing. -/
theorem isAtomic_of_none {r : Except GenerateError (List Location)}
    (hnames : ∀ u ∈ us, IsUnitName u.fileName.toList) (hdisk : d.IsDisk)
    (hparent : ∀ a, dir.parent? = some a → ∃ q, d.LeadsTo a q) (hnot : ∀ q, ¬d.LeadsTo dir q)
    (hmake : ∀ s, ¬d.Makes (around dir) s) (hrun : (writeEach dir us).Runs d seen d' r) :
    IsAtomic dir D us d seen d' r := by
  have hdirectory (q : Place) (hq : d.LeadsTo dir q) : q = D := absurd hq (hnot q)
  have hmissing : ¬∃ a, dir.parent? = some a ∧ ∀ q, ¬d.LeadsTo a q := fun ⟨a, ha, hmissing⟩ => by
    obtain ⟨q, hq⟩ := hparent a ha
    exact hmissing q hq
  cases us with
  | nil =>
    cases hrun with
    | done =>
      refine isAtomic_of_same hdirectory (List.forall_mem_singleton.mpr rfl) rfl ?_ ?_
        fun h => absurd h hmissing
      · rintro _ ⟨⟩
        exact ⟨rfl, rfl⟩
      · rintro _ ⟨⟩
  | cons u us =>
    rw [List.forall_mem_cons] at hnames
    obtain ⟨e, rfl, hunit⟩ | ⟨seen₁, d₁, seen₂, rest, hunit, -⟩ := runs_writeEach_cons.mp hrun
    · obtain ⟨hsame, herror⟩ :=
        runs_writeAtomic_of_none hdisk hnames.1 hparent hnot hmake hunit
      refine isAtomic_of_same hdirectory hsame hrun.getLastD_eq (by rintro _ ⟨⟩) ?_
        fun h => absurd h hmissing
      rintro _ ⟨⟩
      obtain ⟨c, hc, f, ⟨⟩⟩ := herror
      exact .inr ⟨u, us, rfl, ⟨[], d, [], seen, .done _ d, hunit, rfl⟩, c, hc, f, rfl⟩
    · obtain ⟨-, c, hc, f, ⟨⟩⟩ := runs_writeAtomic_of_none hdisk hnames.1 hparent hnot hmake hunit

/-- **Writing units is atomic for each file, and ordered**, on any disk, which may fail at any time,
if the temporary names of the units are their own. -/
theorem writeUnits_atomic {r : Except GenerateError (List Location)}
    (hnames : ∀ u ∈ us, IsUnitName u.fileName.toList) (hnodup : (us.map (·.fileName)).Nodup)
    (hdisk : d.IsDisk) (hown : ∀ D, d.LeadsTo dir D → ∀ u ∈ us, d.IsOwn (temporaryOf D u))
    (hrun : (writeUnits us dir).Runs d seen d' r) : ∃ D, IsAtomic dir D us d seen d' r := by
  obtain ⟨hparent, heach⟩ | ⟨rfl, rfl, rfl⟩ := runs_writeUnits hrun
  · by_cases hthere : ∃ D, d.LeadsTo dir D
    · obtain ⟨D, hD⟩ := hthere
      have hstands := stands_of_leadsTo hdisk hD (hown D hD)
      exact ⟨D, isAtomic_of_stands hnames hnodup hstands hparent heach⟩
    · by_cases hmake : ∃ s, d.Makes (around dir) s
      · obtain ⟨s, hmake⟩ := hmake
        obtain ⟨D, hstands⟩ := exists_stands_of_makes hdisk hmake
        exact ⟨D, isAtomic_of_stands hnames hnodup hstands hparent heach⟩
      · exact ⟨[], isAtomic_of_none hnames hdisk hparent (not_exists.mp hthere)
          (not_exists.mp hmake) heach⟩
  · obtain ⟨D, hD⟩ : ∃ D, ∀ q, d'.LeadsTo dir q → q = D := by
      by_cases hthere : ∃ D, d'.LeadsTo dir D
      · obtain ⟨D, hD⟩ := hthere
        exact ⟨D, fun q hq => hq.unique hD⟩
      · exact ⟨[], fun q hq => absurd ⟨q, hq⟩ hthere⟩
    refine ⟨D, isAtomic_of_same hD (List.forall_mem_singleton.mpr rfl) rfl (by rintro _ ⟨⟩) ?_
      fun _ => ⟨rfl, rfl⟩⟩
    rintro _ ⟨⟩
    exact .inl ⟨rfl, rfl⟩

/-- **The units of a report** have names, all distinct. -/
theorem names_of_generate {o : Options} {source : String} {report : Report}
    (h : generate o source = .ok report) :
    (∀ u ∈ report.units, IsUnitName u.fileName.toList) ∧
      (report.units.map (·.fileName)).Nodup := by
  obtain ⟨file, js, -, hrun, hnames, rfl⟩ := exists_judging_of_generate h
  refine ⟨fun u hu => ?_, (hrun.accounts hnames).fileNames⟩
  have hmem : u.fileName ∈ (Report.of js).units.map (·.fileName) := List.mem_map_of_mem hu
  rw [fileNames_report, List.mem_map] at hmem
  obtain ⟨n, hn, heq⟩ := hmem
  obtain ⟨-, hslash, -⟩ := isStem_unitNames hnames hn
  rw [← heq, String.toList_append]
  exact ⟨by simp [hslash], List.suffix_append _ _⟩

/-! ## A report that is written, and a disk that is full -/

/-- The directory of the units. -/
def outLocation : Location := .ofString "out"

/-- Two units, of which the first one is on disk in an old version. -/
def unitA : SourceUnit := ⟨"a.rs", "A"⟩

def unitB : SourceUnit := ⟨"b.rs", "B"⟩

def oldTree : FileTree :=
  ⟨[([['o', 'u', 't']], .directory), ([['o', 'u', 't'], ['a', '.', 'r', 's']], .file "old")]⟩

/-- The tree once that unit is written. -/
def newTree : FileTree :=
  ⟨[([['o', 'u', 't'], ['a', '.', 'r', 's']], .file "A"), ([['o', 'u', 't']], .directory)]⟩

/-- What the system says when a disk is full. -/
def noSpace : FileError := .other "No space left on device (os error 28)"

/-- The units of a service are written into a new directory. -/
theorem exists_runs_memo (client registration : String) :
    let us := (Built.mk memoStem client registration).units ++ modulesOf [memoStem]
    ∃ seen d', (writeUnits us outLocation).Runs (ofTree .empty) seen d'
      (.ok (us.map (unitLocation outLocation))) := by
  intro us
  have hrun : ((writeUnits us outLocation).run .empty).2 =
      .ok (us.map (unitLocation outLocation)) := by cbv
  obtain ⟨seen, d', h, -⟩ := Shows.exists_runs (writeUnits us outLocation) (shows_ofTree .empty)
  rw [hrun] at h
  exact ⟨seen, d', h⟩

/-- The first unit is written. -/
theorem exists_runs_unitA : ∃ seen d',
    (writeAtomic (unitLocation outLocation unitA) unitA.contents).Runs (ofTree oldTree) seen d'
      (.ok ()) ∧ Shows d' newTree := by
  have hrun : (writeAtomic (unitLocation outLocation unitA) unitA.contents).run oldTree =
      (newTree, .ok ()) := by cbv
  obtain ⟨seen, d', h, hshows⟩ := Shows.exists_runs
    (writeAtomic (unitLocation outLocation unitA) unitA.contents) (shows_ofTree oldTree)
  rw [hrun] at h hshows
  exact ⟨seen, d', h, hshows⟩

/-- The changes that write the second unit. -/
theorem writeSteps_unitB : writeSteps (unitLocation outLocation unitB) unitB.contents =
    [.makeDirectories outLocation, .writeFile (.ofString "out/b.tmp") "B",
      .rename (.ofString "out/b.tmp") (.ofString "out/b.rs")] := by
  cbv

/-- The disk is full when the second unit is written. -/
theorem exists_runs_noSpace : ∃ seen d',
    (writeUnits [unitA, unitB] outLocation).Runs (ofTree oldTree) seen d'
      (.error (.write "out/b.tmp" noSpace)) := by
  obtain ⟨seen₁, d₁, hfirst, hshows⟩ := exists_runs_unitA
  have hthere : newTree.isDirectory outLocation = true := by cbv
  have hpart : newTree.writeFile (.ofString "out/b.tmp") "" =
      .ok (newTree.insert [['o', 'u', 't'], ['b', '.', 't', 'm', 'p']] (.file "")) := by cbv
  obtain ⟨d', hwrites, -⟩ := hshows.exists_writes hpart
  obtain ⟨seen₂, hsecond⟩ : ∃ seen₂, (writeAtomic (unitLocation outLocation unitB)
      unitB.contents).Runs d₁ seen₂ d' (.error (.write "out/b.tmp" noSpace)) := by
    rw [writeAtomic, writeSteps_unitB]
    exact ⟨_, .change (.directories (.there (hshows.isDirectory hthere)))
      (.change (.cutOff (List.forall_mem_nil _) hwrites noSpace) (.done _ _))⟩
  have heach : (writeEach outLocation [unitA, unitB]).Runs (ofTree oldTree) (seen₁ ++ seen₂) _
      (.error (.write "out/b.tmp" noSpace)) :=
    runs_writeEach_cons.mpr (.inr ⟨seen₁, d₁, seen₂, .error (.write "out/b.tmp" noSpace),
      hfirst, runs_writeEach_cons.mpr (.inl ⟨_, rfl, hsecond⟩), rfl, rfl⟩)
  have hout : oldTree.isDirectory outLocation = true := by cbv
  exact ⟨_, _, Script.runs_bind.mpr ⟨[], ofTree oldTree, true, _,
    .isDirectory (fun _ => (shows_ofTree oldTree).isDirectory hout) (.done _ _), heach, rfl⟩⟩

/-- **A report that is written** as a whole, and two units of which the second one is cut off. -/
theorem exists_runs_atomic :
    (∃ report seen d' D, generate .default memoSource = .ok report ∧
      (writeUnits report.units outLocation).Runs (ofTree .empty) seen d'
        (.ok (report.units.map (unitLocation outLocation))) ∧
      IsAtomic outLocation D report.units (ofTree .empty) seen d'
        (.ok (report.units.map (unitLocation outLocation)))) ∧
    ∃ seen d' D, (writeUnits [unitA, unitB] outLocation).Runs (ofTree oldTree) seen d'
        (.error (.write "out/b.tmp" noSpace)) ∧
      IsAtomic outLocation D [unitA, unitB] (ofTree oldTree) seen d'
        (.error (.write "out/b.tmp" noSpace)) := by
  constructor
  · obtain ⟨f, g, e, ⟨_, client, registration⟩, rfl, hreport⟩ := exists_memoSource_report
    obtain ⟨seen, d', hrun⟩ := exists_runs_memo client registration
    obtain ⟨hnames, hnodup⟩ := names_of_generate hreport
    have hshows := shows_ofTree .empty
    obtain ⟨D, hatomic⟩ := writeUnits_atomic hnames hnodup
      (hshows.isDisk (List.forall_mem_nil _)) (fun _ _ _ _ => hshows.own _) hrun
    exact ⟨_, seen, d', D, hreport, hrun, hatomic⟩
  · obtain ⟨seen, d', hrun⟩ := exists_runs_noSpace
    have hnames : ∀ u ∈ [unitA, unitB], IsUnitName u.fileName.toList :=
      List.forall_mem_cons.mpr ⟨⟨by decide, by decide⟩,
        List.forall_mem_singleton.mpr ⟨by decide, by decide⟩⟩
    have hshows := shows_ofTree oldTree
    obtain ⟨D, hatomic⟩ := writeUnits_atomic hnames (by decide) (hshows.isDisk (by decide))
      (fun _ _ _ _ => hshows.own _) hrun
    exact ⟨seen, d', D, hrun, hatomic⟩

/-! ## Names that are not their own -/

/-- The directory of the units, and the notes of somebody else. -/
def outPlace : Place := ["out".toList]

def notesPlace : Place := ["notes".toList]

/-- A disk on which the temporary name of the first unit is a link to the notes. -/
def linkDisk : Disk where
  node p := if p = [] then some .directory else
    [(outPlace, Disk.Node.directory), (notesPlace, .file 0),
      (outPlace ++ ["a.tmp".toList], .link (.ofString "../notes"))].lookup p
  text _ := "mine"
  home := []

theorem isDisk_linkDisk : linkDisk.IsDisk := by
  refine ⟨rfl, rfl, fun p n x hx => ?_⟩
  rw [linkDisk] at hx
  dsimp only at hx
  rw [if_neg (append_name_ne_nil p n)] at hx
  obtain ⟨before, after, hentries, -⟩ := List.lookup_eq_some_iff.mp hx
  have hmem := hentries ▸ List.mem_append_right before (List.mem_cons_self (a := (p ++ [n], x)))
  have hall : ∀ e ∈ [(outPlace, Disk.Node.directory), (notesPlace, .file 0),
      (outPlace ++ ["a.tmp".toList], .link (.ofString "../notes"))],
      linkDisk.node e.1.dropLast = some .directory := by
    simp only [List.forall_mem_cons]
    exact ⟨rfl, rfl, rfl, List.forall_mem_nil _⟩
  simpa using hall _ hmem

/-- The names in the directory of the units. -/
theorem names_outPlace {d : Disk} (hhome : d.home = []) (h : d.node outPlace = some .directory) :
    d.IsDirectory outLocation ∧
      d.Names d.home (.ofString "out/a.tmp") outPlace "a.tmp".toList false ∧
      d.Names d.home (.ofString "out/a.rs") outPlace "a.rs".toList false := by
  have hleads : d.Leads [] outPlace outPlace := .down ⟨by decide, by decide, by decide⟩ h .here
  have hthere : d.LeadsTo outLocation outPlace := by
    change d.Leads (outLocation.start d.home) _ _
    rw [hhome]
    exact hleads
  rw [hhome]
  exact ⟨⟨⟨by decide, by decide⟩, outPlace, hthere⟩, ⟨⟨by decide, by decide⟩, _, rfl, hleads⟩,
    ⟨⟨by decide, by decide⟩, _, rfl, hleads⟩⟩

/-- The changes that write the first unit. -/
theorem writeSteps_unitA : writeSteps (unitLocation outLocation unitA) unitA.contents =
    [.makeDirectories outLocation, .writeFile (.ofString "out/a.tmp") "A",
      .rename (.ofString "out/a.tmp") (.ofString "out/a.rs")] := by
  cbv

/-- The first unit is written to the notes, and the link is moved. -/
theorem exists_runs_unitA_link : ∃ seen d',
    (writeAtomic (unitLocation outLocation unitA) unitA.contents).Runs linkDisk seen d' (.ok ()) ∧
      d'.held notesPlace = some (.file "A") := by
  obtain ⟨hdirectory, htemporary, -⟩ := names_outPlace (d := linkDisk) rfl rfl
  have hnotes : linkDisk.Names outPlace (.ofString "../notes") [] "notes".toList false :=
    ⟨⟨by decide, by decide⟩, _, rfl, .up .here⟩
  have hwrites : linkDisk.Writes (.ofString "out/a.tmp") "A" (linkDisk.fill 0 "A") :=
    ⟨notesPlace, .link htemporary rfl (.name hnotes (by rintro l ⟨⟩)), .file rfl⟩
  obtain ⟨-, hsource, htarget⟩ := names_outPlace (d := linkDisk.fill 0 "A") rfl rfl
  have hmove : (linkDisk.fill 0 "A").Relinks (outPlace ++ ["a.tmp".toList])
      (outPlace ++ ["a.rs".toList]) _ :=
    .moved (x := .link (.ofString "../notes")) rfl (by rintro ⟨⟩) (by rintro ⟨⟩) (by rintro i ⟨⟩)
  rw [writeAtomic, writeSteps_unitA]
  refine ⟨_, _, .change (.directories (.there hdirectory))
    (.change (.written (List.forall_mem_nil _) hwrites)
      (.change (.moved ⟨_, _, _, _, _, hsource, htarget, hmove⟩) (.done _ _))), ?_⟩
  rw [Disk.held, Disk.node_moved, if_neg (by decide), if_neg (by decide)]
  rfl

theorem exists_runs_linkDisk : ∃ seen d',
    (writeUnits [unitA] outLocation).Runs linkDisk seen d' (.ok [.ofString "out/a.rs"]) ∧
      d'.held notesPlace = some (.file "A") := by
  obtain ⟨hdirectory, -⟩ := names_outPlace (d := linkDisk) rfl rfl
  obtain ⟨seen, d', hunit, hnotes⟩ := exists_runs_unitA_link
  have heach : (writeEach outLocation [unitA]).Runs linkDisk seen d'
      (.ok [unitLocation outLocation unitA]) :=
    runs_writeEach_cons.mpr
      (.inr ⟨seen, d', [], .ok [], hunit, .done _ _, rfl, (List.append_nil seen).symm⟩)
  exact ⟨seen, d', Script.runs_bind.mpr ⟨[], linkDisk, true, seen,
    .isDirectory (fun _ => hdirectory) (.done _ _), heach, rfl⟩, hnotes⟩

/-- A tree with a directory for units. -/
def outTree : FileTree := ⟨[(outPlace, .directory)]⟩

/-- Two units whose names differ, and name one file. -/
def aliases : List SourceUnit := [⟨"a.rs", "1"⟩, ⟨"./a.rs", "2"⟩]

/-- **Where a temporary name is a link**, writing a unit overwrites a file that is no target and no
temporary name; and where two names name one file, a unit that has been written is lost. -/
theorem exists_link_overwritten :
    (linkDisk.IsDisk ∧ linkDisk.held notesPlace = some (.file "mine") ∧
      (∃ seen d', (writeUnits [unitA] outLocation).Runs linkDisk seen d'
        (.ok [.ofString "out/a.rs"]) ∧ d'.held notesPlace = some (.file "A")) ∧
      notesPlace ≠ targetOf outPlace unitA ∧ notesPlace ≠ temporaryOf outPlace unitA) ∧
    (aliases.map (·.fileName)).Nodup ∧
      ((writeUnits aliases outLocation).run outTree).2 =
        .ok [.ofString "out/a.rs", .ofString "out/./a.rs"] ∧
      ((writeUnits aliases outLocation).run outTree).1.readFile (.ofString "out/a.rs") =
        .ok "2" := by
  refine ⟨⟨isDisk_linkDisk, rfl, exists_runs_linkDisk, by decide, by decide⟩, by decide, ?_, ?_⟩
  · cbv
  · cbv

end RestLoom.Emit
