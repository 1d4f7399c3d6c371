import RestLoom.Proofs.Emit.ClientUnit
import RestLoom.Proofs.Emit.Stem
import RestLoom.Proofs.Service.Find

/-!
# Proofs/Emit/Report — the report as an account of marked traits

    marked traits  ──one after the other──▸  verdicts  ──Report.of──▸  services · units · failures

Generation judges one marked trait after the other: it fails, or it is built, which gives two units
(`Judges`).  The report is made of these verdicts alone, in their order (`generateFile_eq_ok_iff`);
what a trait's verdict depends on, besides the trait and the imports in scope, are the stems of
those that were built before it.
-/

namespace RestLoom.Emit

open RestLoom.Token (Ident)
open RestLoom.Source
open RestLoom.Service (Found markedAll)

/-! ## Verdicts -/

/-- A service that has been built: the stem of its units, and their contents. -/
structure Built where
  stem : String
  client : String
  registration : String

/-- The units of a service that has been built: first the client, then its registration. -/
def Built.units (b : Built) : List SourceUnit :=
  [⟨b.stem ++ ".rs", b.client⟩, ⟨b.stem ++ "_registration.rs", b.registration⟩]

/-- What becomes of a marked trait: the reason why it fails, or what is built. -/
abbrev Verdict := Except GenerateError Built

/-- A marked trait with its verdict. -/
structure Judged where
  found : Found
  verdict : Verdict

namespace Judged

/-- The name of a service that has been built. -/
def service? (j : Judged) : Option String :=
  match j.verdict with
  | .ok _ => some j.found.decl.name.text
  | .error _ => none

/-- The reason of a failure. -/
def failure? (j : Judged) : Option GenerateError :=
  match j.verdict with
  | .ok _ => none
  | .error e => some e

/-- What has been built. -/
def built? (j : Judged) : Option Built := j.verdict.toOption

end Judged

/-- The stems of what has been built. -/
def stemsOf (js : List Judged) : List String := (js.filterMap Judged.built?).map (·.stem)

/-- The units of what has been built. -/
def unitsOf (js : List Judged) : List SourceUnit := (js.filterMap Judged.built?).flatMap Built.units

/-- The unit of modules, unless there are none. -/
def modulesOf (stems : List String) : List SourceUnit :=
  if stems = [] then [] else [⟨"mod.rs", modulesText stems⟩]

/-- **The report on verdicts**: the services that were built and the failures, each in order, and
the units of the former with the unit that declares them. -/
def Report.of (js : List Judged) : Report where
  services := js.filterMap Judged.service?
  units := unitsOf js ++ modulesOf (stemsOf js)
  failures := js.filterMap Judged.failure?

/-- **How a marked trait is judged** when the units in `stems` have been built before it. -/
inductive Judges (items : List Item) (o : Options) (stems : List String) (f : Found) :
    Verdict → Prop
  /-- It declares no service. -/
  | extraction {e : Service.ExtractError} (he : f.result = .error e) :
    Judges items o stems f (.error (.extraction f.decl.name.text e))
  /-- Its units have the names of others. -/
  | taken {s : Service} {client : Ident} (hs : f.result = .ok s)
    (hclient : Service.clientName? s.name = some client)
    (htaken : Service.unitStem f.modules s.name ∈ stems) :
    Judges items o stems f
      (.error (.code (.stemTaken f.decl.name.text (Service.unitStem f.modules s.name))))
  /-- Its units cannot be made. -/
  | failed {s : Service} {client : Ident} {e : GenerateError} (hs : f.result = .ok s)
    (hclient : Service.clientName? s.name = some client)
    (hfree : Service.unitStem f.modules s.name ∉ stems)
    (he : serviceUnits items o f s client = .error (.error e)) : Judges items o stems f (.error e)
  /-- Its units are made. -/
  | built {s : Service} {client : Ident} {b : Built} (hs : f.result = .ok s)
    (hclient : Service.clientName? s.name = some client)
    (hfree : Service.unitStem f.modules s.name ∉ stems)
    (hstem : b.stem = Service.unitStem f.modules s.name)
    (hunits : serviceUnits items o f s client = .ok b.units) : Judges items o stems f (.ok b)

/-- **A run** judges one trait after the other; the stems of what is built are taken from then
on. -/
inductive Judging (items : List Item) (o : Options) :
    List String → List Found → List Judged → Prop
  | nil (stems : List String) : Judging items o stems [] []
  | cons {stems : List String} {f : Found} {v : Verdict} {fs : List Found} {js : List Judged}
    (h : Judges items o stems f v) (hs : Judging items o (stems ++ stemsOf [⟨f, v⟩]) fs js) :
    Judging items o stems (f :: fs) (⟨f, v⟩ :: js)

variable {items : List Item} {o : Options} {stems : List String} {f : Found} {fs : List Found}
  {js : List Judged}

/-- The units of a service are named after its stem, and are the texts of its pieces. -/
theorem serviceUnits_eq_ok {s : Service} {client : Ident} {us : List SourceUnit}
    (h : serviceUnits items o f s client = .ok us) :
    ∃ b : Built, b.stem = Service.unitStem f.modules s.name ∧ us = b.units ∧
      checkedText (clientPieces f.decl s client (Service.importsInScope items f.modules)
        o.imports) = .ok b.client ∧
      checkedText (registrationPieces b.stem s client) = .ok b.registration := by
  obtain ⟨c, hc, h⟩ := Outcome.bind_eq_ok.mp h
  obtain ⟨r, hr, h⟩ := Outcome.bind_eq_ok.mp h
  obtain ⟨ctext, hctext, hc⟩ := Outcome.bind_eq_ok.mp hc
  obtain ⟨rtext, hrtext, hr⟩ := Outcome.bind_eq_ok.mp hr
  obtain rfl := Outcome.pure_eq_ok.mp hc
  obtain rfl := Outcome.pure_eq_ok.mp hr
  exact ⟨⟨Service.unitStem f.modules s.name, ctext, rtext⟩, rfl, Outcome.pure_eq_ok.mp h, hctext,
    hrtext⟩

/-- Units are made of the texts of their pieces. -/
theorem serviceUnits_of_checkedText {s : Service} {client : Ident} {b : Built}
    (hstem : b.stem = Service.unitStem f.modules s.name)
    (hclient : checkedText (clientPieces f.decl s client
      (Service.importsInScope items f.modules) o.imports) = .ok b.client)
    (hregistration : checkedText (registrationPieces b.stem s client) = .ok b.registration) :
    serviceUnits items o f s client = .ok b.units := by
  rw [hstem] at hregistration
  rw [serviceUnits, clientUnit, registrationUnit, hclient, hregistration, ← hstem]
  rfl

/-! ## Running over the traits -/

/-- The outcome after verdicts. -/
def progressOf (js : List Judged) : Progress where
  report := ⟨js.filterMap Judged.service?, unitsOf js, js.filterMap Judged.failure?⟩
  stems := stemsOf js

theorem progressOf_concat_error (js : List Judged) (f : Found) (e : GenerateError) :
    progressOf (js ++ [⟨f, .error e⟩]) = (progressOf js).fail e := by
  simp [progressOf, Progress.fail, unitsOf, stemsOf, Judged.service?, Judged.failure?,
    Judged.built?, Except.toOption]

theorem progressOf_concat_ok (js : List Judged) (f : Found) (b : Built) :
    progressOf (js ++ [⟨f, .ok b⟩]) =
      { report := { (progressOf js).report with
          services := (progressOf js).report.services ++ [f.decl.name.text]
          units := (progressOf js).report.units ++ b.units }
        stems := (progressOf js).stems ++ [b.stem] } := by
  simp [progressOf, unitsOf, stemsOf, Judged.service?, Judged.failure?, Judged.built?,
    Except.toOption]

theorem contains_stems_iff {stem : String} :
    (progressOf js).stems.contains stem = true ↔ stem ∈ stemsOf js :=
  List.contains_iff_mem

theorem exists_judges_of_addService {p : Progress}
    (h : addService items o (progressOf js) f = .ok p) :
    ∃ v, Judges items o (stemsOf js) f v ∧ p = progressOf (js ++ [⟨f, v⟩]) := by
  rw [addService] at h
  dsimp only at h
  cases hs : f.result with
  | error e =>
    rw [hs] at h
    exact ⟨_, .extraction hs, (Except.ok.inj h).symm.trans (progressOf_concat_error js f _).symm⟩
  | ok s =>
    rw [hs] at h
    dsimp only at h
    cases hclient : Service.clientName? s.name with
    | none =>
      rw [hclient] at h
      cases h
    | some client =>
      rw [hclient] at h
      dsimp only at h
      by_cases htaken : Service.unitStem f.modules s.name ∈ stemsOf js
      · rw [if_pos (contains_stems_iff.mpr htaken)] at h
        exact ⟨_, .taken hs hclient htaken,
          (Except.ok.inj h).symm.trans (progressOf_concat_error js f _).symm⟩
      · rw [if_neg (mt contains_stems_iff.mp htaken)] at h
        cases hunits : serviceUnits items o f s client with
        | error e =>
          rw [hunits] at h
          cases e with
          | error e =>
            exact ⟨_, .failed hs hclient htaken hunits,
              (Except.ok.inj h).symm.trans (progressOf_concat_error js f _).symm⟩
          | notAName => cases h
          | noLayout => cases h
        | ok us =>
          obtain ⟨b, hstem, rfl, -⟩ := serviceUnits_eq_ok hunits
          rw [hunits, ← hstem] at h
          exact ⟨.ok b, .built hs hclient htaken hstem hunits,
            (Except.ok.inj h).symm.trans (progressOf_concat_ok js f b).symm⟩

theorem addService_of_judges {v : Verdict} (h : Judges items o (stemsOf js) f v) :
    addService items o (progressOf js) f = .ok (progressOf (js ++ [⟨f, v⟩])) := by
  rw [addService]
  cases h with
  | extraction he =>
    rw [he, progressOf_concat_error]
  | taken hs hclient htaken =>
    rw [hs, progressOf_concat_error]
    dsimp only
    rw [hclient]
    exact if_pos (contains_stems_iff.mpr htaken)
  | failed hs hclient htaken he =>
    rw [hs, progressOf_concat_error]
    dsimp only
    rw [hclient]
    refine (if_neg (mt contains_stems_iff.mp htaken)).trans ?_
    rw [he]
  | built hs hclient htaken hstem hunits =>
    rw [hs, progressOf_concat_ok]
    dsimp only
    rw [hclient]
    refine (if_neg (mt contains_stems_iff.mp htaken)).trans ?_
    rw [hunits, hstem]

/-- **One step**: adding a service adds its verdict. -/
theorem addService_eq_ok_iff {p : Progress} :
    addService items o (progressOf js) f = .ok p ↔
      ∃ v, Judges items o (stemsOf js) f v ∧ p = progressOf (js ++ [⟨f, v⟩]) := by
  refine ⟨exists_judges_of_addService, ?_⟩
  rintro ⟨v, hv, rfl⟩
  exact addService_of_judges hv

theorem stemsOf_append (js js' : List Judged) : stemsOf (js ++ js') = stemsOf js ++ stemsOf js' := by
  rw [stemsOf, List.filterMap_append, List.map_append]
  rfl

/-- **A run over the traits** looks once before each of them; if no look sees the signal up it adds
the verdicts. -/
theorem addServices_eq_ok_iff {looks : Nat} {p : Progress} :
    addServices items o looks (progressOf js) fs = .ok p ↔
      o.signal.IsDown looks (looks + fs.length) ∧
        ∃ js', Judging items o (stemsOf js) fs js' ∧ p = progressOf (js ++ js') := by
  induction fs generalizing js looks with
  | nil =>
    rw [addServices, List.length_nil, Nat.add_zero, and_iff_right (Signal.isDown_empty _ _),
      Except.ok.injEq]
    constructor
    · rintro rfl
      exact ⟨[], .nil _, by rw [List.append_nil]⟩
    · rintro ⟨_, ⟨⟩, rfl⟩
      rw [List.append_nil]
  | cons f fs ih =>
    rw [addServices, List.length_cons, Nat.add_comm fs.length, ← Nat.add_assoc,
      Signal.isDown_append (Nat.le_add_right looks 1) (Nat.le_add_right _ _),
      Signal.isDown_singleton]
    cases hup : o.signal.isUp looks with
    | true => exact iff_of_false nofun fun h => Bool.noConfusion h.1.1
    | false =>
      rw [if_neg Bool.false_ne_true, Outcome.bind_eq_ok]
      constructor
      · rintro ⟨_, hq, h⟩
        obtain ⟨v, hv, rfl⟩ := addService_eq_ok_iff.mp hq
        obtain ⟨hdown, js', hrun, rfl⟩ := ih.mp h
        rw [stemsOf_append] at hrun
        exact ⟨⟨rfl, hdown⟩, ⟨f, v⟩ :: js', .cons hv hrun,
          by rw [List.append_assoc, List.singleton_append]⟩
      · rintro ⟨⟨-, hdown⟩, _, hrun, rfl⟩
        cases hrun with
        | @cons _ _ v _ js' hv hrun =>
          rw [← stemsOf_append] at hrun
          refine ⟨_, addService_of_judges hv, ih.mpr ⟨hdown, js', hrun, ?_⟩⟩
          rw [List.append_assoc, List.singleton_append]

/-! ## What a run keeps -/

theorem Judging.map_found (h : Judging items o stems fs js) : js.map (·.found) = fs := by
  induction h with
  | nil => rfl
  | cons _ _ ih => rw [List.map_cons, ih]

theorem Judging.exists_judges (h : Judging items o stems fs js) {j : Judged} (hj : j ∈ js) :
    ∃ stems', Judges items o stems' j.found j.verdict := by
  induction h with
  | nil => cases hj
  | cons hv _ ih =>
    obtain rfl | hj := List.mem_cons.mp hj
    · exact ⟨_, hv⟩
    · exact ih hj

theorem Judges.stem {b : Built} (h : Judges items o stems f (.ok b)) :
    ∃ s, f.result = .ok s ∧ b.stem = Service.unitStem f.modules s.name ∧ b.stem ∉ stems := by
  cases h with
  | built hs hclient hfree hstem hunits => exact ⟨_, hs, hstem, hstem ▸ hfree⟩

theorem Built.eq_of_units {b c : Built} (hstem : b.stem = c.stem) (hunits : b.units = c.units) :
    b = c := by
  obtain ⟨stem, client, registration⟩ := b
  obtain ⟨_, client', registration'⟩ := c
  obtain rfl : stem = _ := hstem
  rw [Built.units, Built.units, List.cons.injEq, List.singleton_inj, SourceUnit.mk.injEq,
    SourceUnit.mk.injEq] at hunits
  exact congr (congrArg (Built.mk stem) hunits.1.2) hunits.2.2

/-- **A trait has one verdict.** -/
theorem Judges.unique {v v' : Verdict} (h : Judges items o stems f v)
    (h' : Judges items o stems f v') : v = v' := by
  cases h with
  | extraction he =>
    cases h' with
    | extraction he' => rw [Except.error.inj (he.symm.trans he')]
    | taken hs' | failed hs' | built hs' => cases he.symm.trans hs'
  | taken hs hclient htaken =>
    cases h' with
    | extraction he' => cases hs.symm.trans he'
    | taken hs' => rw [Except.ok.inj (hs.symm.trans hs')]
    | failed hs' _ hfree' | built hs' _ hfree' =>
      exact absurd (Except.ok.inj (hs.symm.trans hs') ▸ htaken) hfree'
  | failed hs hclient hfree he =>
    cases h' with
    | extraction he' => cases hs.symm.trans he'
    | taken hs' _ htaken' => exact absurd (Except.ok.inj (hs'.symm.trans hs) ▸ htaken') hfree
    | failed hs' hclient' _ he' =>
      obtain rfl := Except.ok.inj (hs.symm.trans hs')
      obtain rfl := Option.some.inj (hclient.symm.trans hclient')
      obtain rfl := Halt.error.inj (Except.error.inj (he.symm.trans he'))
      rfl
    | built hs' hclient' _ _ hunits' =>
      obtain rfl := Except.ok.inj (hs.symm.trans hs')
      obtain rfl := Option.some.inj (hclient.symm.trans hclient')
      cases he.symm.trans hunits'
  | built hs hclient hfree hstem hunits =>
    cases h' with
    | extraction he' => cases hs.symm.trans he'
    | taken hs' _ htaken' => exact absurd (Except.ok.inj (hs'.symm.trans hs) ▸ htaken') hfree
    | failed hs' hclient' _ he' =>
      obtain rfl := Except.ok.inj (hs.symm.trans hs')
      obtain rfl := Option.some.inj (hclient.symm.trans hclient')
      cases hunits.symm.trans he'
    | built hs' hclient' _ hstem' hunits' =>
      obtain rfl := Except.ok.inj (hs.symm.trans hs')
      obtain rfl := Option.some.inj (hclient.symm.trans hclient')
      rw [Built.eq_of_units (hstem.trans hstem'.symm) (Except.ok.inj (hunits.symm.trans hunits'))]

/-- **Traits have one run.** -/
theorem Judging.unique {js' : List Judged} (h : Judging items o stems fs js)
    (h' : Judging items o stems fs js') : js = js' := by
  induction h generalizing js' with
  | nil =>
    cases h'
    rfl
  | cons hv _ ih =>
    cases h' with
    | cons hv' hrun' =>
      obtain rfl := hv.unique hv'
      rw [ih hrun']

theorem stemsOf_singleton_error (f : Found) (e : GenerateError) :
    stemsOf [⟨f, .error e⟩] = [] := rfl

theorem stemsOf_singleton_ok (f : Found) (b : Built) : stemsOf [⟨f, .ok b⟩] = [b.stem] := rfl

/-- **No stem is used twice.** -/
theorem Judging.nodup (h : Judging items o stems fs js) (hstems : stems.Nodup) :
    (stems ++ stemsOf js).Nodup := by
  induction h with
  | nil stems => rwa [show stemsOf [] = [] from rfl, List.append_nil]
  | @cons stems f v fs js hv _ ih =>
    have hstep : (stems ++ stemsOf [⟨f, v⟩]).Nodup := by
      cases v with
      | error e => rwa [stemsOf_singleton_error, List.append_nil]
      | ok b =>
        obtain ⟨-, -, -, hfree⟩ := hv.stem
        rw [stemsOf_singleton_ok, List.nodup_append]
        refine ⟨hstems, List.nodup_singleton _, fun s hs s' hs' => ?_⟩
        rw [List.mem_singleton.mp hs']
        exact fun heq => hfree (heq ▸ hs)
    rw [← List.singleton_append, stemsOf_append, ← List.append_assoc]
    exact ih hstep

theorem mem_stemsOf {s : String} (h : s ∈ stemsOf js) :
    ∃ j ∈ js, ∃ b, j.verdict = .ok b ∧ b.stem = s := by
  obtain ⟨b, hb, rfl⟩ := List.mem_map.mp h
  obtain ⟨j, hj, hbuilt⟩ := List.mem_filterMap.mp hb
  refine ⟨j, hj, b, ?_, rfl⟩
  obtain ⟨f, v⟩ := j
  cases v with
  | error e => cases hbuilt
  | ok b' => exact congrArg Except.ok (Option.some.inj hbuilt)

/-- **The stems of a run** end in the word that all stems end in. -/
theorem Judging.stemEnd_suffix (h : Judging items o stems fs js) {s : String}
    (hs : s ∈ stemsOf js) : stemEnd.toList <:+ s.toList := by
  obtain ⟨j, hj, b, hb, rfl⟩ := mem_stemsOf hs
  obtain ⟨stems', hjudges⟩ := h.exists_judges hj
  rw [hb] at hjudges
  obtain ⟨service, -, hstem, -⟩ := hjudges.stem
  rw [hstem]
  exact Emit.stemEnd_suffix _ _

/-! ## The whole of generation -/

/-- The unit of modules after a run that has built something. -/
theorem Judging.moduleUnit_eq_ok_iff (h : Judging items o stems fs js) (hne : stemsOf js ≠ [])
    {u : SourceUnit} : moduleUnit (stemsOf js) = .ok u ↔
      (∀ s ∈ stemsOf js, isName s = true) ∧ modulesOf (stemsOf js) = [u] := by
  rw [Emit.moduleUnit_eq_ok_iff hne fun s hs => isModuleName_of_stemEnd (h.stemEnd_suffix hs),
    modulesOf, if_neg hne, List.singleton_inj, eq_comm (a := u)]

/-- The report on an outcome, with the unit of modules. -/
def completed (p : Progress) : Except Halt Report :=
  if p.stems.isEmpty then pure p.report
  else do
    let modules ← moduleUnit p.stems
    return { p.report with units := p.report.units ++ [modules] }

theorem generateFile_eq (file : File) :
    generateFile o file = match Service.findServices o.signal file with
      | none => .error (.error .cancelled)
      | some (found, looks) => addServices file.items o looks (progressOf []) found >>= completed :=
  rfl

theorem isEmpty_stems_iff : (progressOf js).stems.isEmpty = true ↔ stemsOf js = [] :=
  List.isEmpty_iff

/-- The report on a run is completed just when the stems are names. -/
theorem Judging.completed_eq_ok_iff (h : Judging items o stems fs js) {r : Report} :
    completed (progressOf js) = .ok r ↔
      (∀ s ∈ stemsOf js, isName s = true) ∧ r = Report.of js := by
  by_cases hne : stemsOf js = []
  · have hnames : ∀ s ∈ stemsOf js, isName s = true := by
      rw [hne]
      exact nofun
    have hreport : Report.of js = (progressOf js).report := by
      rw [Report.of, hne]
      exact congrArg (Report.mk _ · _) (List.append_nil _)
    rw [completed, if_pos (isEmpty_stems_iff.mpr hne), Outcome.pure_eq_ok, and_iff_right hnames,
      hreport]
  · rw [completed, if_neg (mt isEmpty_stems_iff.mp hne), Outcome.bind_eq_ok]
    constructor
    · rintro ⟨u, hu, hr⟩
      obtain ⟨hnames, hmodules⟩ := (h.moduleUnit_eq_ok_iff hne).mp hu
      refine ⟨hnames, ?_⟩
      rw [Outcome.pure_eq_ok.mp hr, Report.of, hmodules]
      rfl
    · rintro ⟨hnames, rfl⟩
      have hmodules : modulesOf (stemsOf js) = [⟨"mod.rs", modulesText (stemsOf js)⟩] := if_neg hne
      refine ⟨_, (h.moduleUnit_eq_ok_iff hne).mpr ⟨hnames, hmodules⟩, ?_⟩
      rw [Outcome.pure_eq_ok, Report.of, hmodules]
      rfl

/-- The number of looks at the signal: one for each item, and one for each marked trait. -/
def looksOf (file : File) : Nat :=
  Service.countAll file.items + (markedAll [] file.items).length

/-- **Generation reports** just when no look sees the signal up and the run over the marked traits
gives names as stems; its report is that of the run. -/
theorem generateFile_eq_ok_iff {file : File} {r : Report} :
    generateFile o file = .ok r ↔ o.signal.IsDown 0 (looksOf file) ∧
      ∃ js, Judging file.items o [] (markedAll [] file.items) js ∧
        (∀ s ∈ stemsOf js, isName s = true) ∧ r = Report.of js := by
  rw [generateFile_eq, looksOf,
    Signal.isDown_append (Nat.zero_le _) (Nat.le_add_right (Service.countAll file.items) _)]
  by_cases hdown : o.signal.IsDown 0 (Service.countAll file.items)
  · rw [Service.findServices_eq_some_iff.mpr ⟨hdown, rfl⟩, and_iff_right hdown]
    dsimp only
    rw [Outcome.bind_eq_ok]
    constructor
    · rintro ⟨p, hp, h⟩
      obtain ⟨hdown', js, hrun, rfl⟩ := addServices_eq_ok_iff.mp hp
      exact ⟨hdown', js, hrun, hrun.completed_eq_ok_iff.mp h⟩
    · rintro ⟨hdown', js, hrun, h⟩
      exact ⟨_, addServices_eq_ok_iff.mpr ⟨hdown', js, hrun, rfl⟩, hrun.completed_eq_ok_iff.mpr h⟩
  · refine iff_of_false (fun h => ?_) fun h => hdown h.1.1
    cases hfind : Service.findServices o.signal file with
    | none =>
      rw [hfind] at h
      cases h
    | some found => exact hdown (Service.findServices_eq_some_iff.mp hfind).1

/-- **A report of generation** is that of a run over the marked traits, all of whose stems are
names. -/
theorem exists_judging_of_generateFile {file : File} {r : Report}
    (h : generateFile o file = .ok r) :
    ∃ js, Judging file.items o [] (markedAll [] file.items) js ∧
      (∀ s ∈ stemsOf js, isName s = true) ∧ r = Report.of js :=
  (generateFile_eq_ok_iff.mp h).2

/-- The report on a text is that of a run over the marked traits of its file. -/
theorem exists_judging_of_generate {text : String} {r : Report} (h : generate o text = .ok r) :
    ∃ file js, File.ofText text = .ok file ∧
      Judging file.items o [] (markedAll [] file.items) js ∧
      (∀ s ∈ stemsOf js, isName s = true) ∧ r = Report.of js := by
  unfold generate at h
  cases hfile : File.ofText text with
  | error e =>
    rw [hfile] at h
    cases h
  | ok file =>
    rw [hfile] at h
    exact ⟨file, _, rfl, (exists_judging_of_generateFile h).choose_spec⟩

/-- **A run over the marked traits** whose stems are names is what generation reports, if no signal
stops it. -/
theorem generateFile_of_judging {file : File} (hsignal : o.signal = .never)
    (h : Judging file.items o [] (markedAll [] file.items) js)
    (hnames : ∀ s ∈ stemsOf js, isName s = true) : generateFile o file = .ok (Report.of js) := by
  refine generateFile_eq_ok_iff.mpr ⟨?_, js, h, hnames, rfl⟩
  rw [hsignal]
  exact Signal.never_isDown _ _

/-! ## A failure and a service -/

/-- The stem of the units of the service with the memo. -/
def memoStem : String := "a_generated_client"

theorem unitStem_memo : Service.unitStem [] memoService.name = memoStem := rfl

theorem isName_memoStem : isName memoStem = true := rfl

/-- The pieces of its registration unit. -/
def memoRegistration : List Piece := registrationPieces memoStem memoService memoClient

/-- The text of the items of the registration. -/
def memoRegistrationItems : List Char :=
  Text.join ['\n'] [
    charsOf "#[doc(hidden)]" String.toList_ofList,
    charsOf "#[allow(non_snake_case)]" String.toList_ofList,
    charsOf "fn __refit_service_key_A() -> ::refit::ServiceKey \x7b" String.toList_ofList,
    charsOf "    ::refit::ServiceKey::of::<dyn A>()" String.toList_ofList,
    closingLine,
    charsOf "#[doc(hidden)]" String.toList_ofList,
    charsOf "#[allow(non_snake_case)]" String.toList_ofList,
    charsOf "fn __refit_factory_A(" String.toList_ofList,
    transportLine,
    charsOf ") -> ::std::boxed::Box<dyn ::core::any::Any> \x7b" String.toList_ofList,
    charsOf "    let client: ::std::boxed::Box<dyn A> = ::std::boxed::Box::new("
      String.toList_ofList,
    charsOf "        AGeneratedClient::new(transport)," String.toList_ofList,
    charsOf "    );" String.toList_ofList,
    charsOf "    ::refit::ClientRegistration::erase(client)" String.toList_ofList,
    closingLine,
    charsOf "::refit::inventory::submit! \x7b" String.toList_ofList,
    charsOf "    ::refit::ClientRegistration::new(__refit_service_key_A, __refit_factory_A)"
      String.toList_ofList,
    closingLine]

/-- The text of that unit. -/
def memoRegistrationText : List Char :=
  (Piece.linesAllAt 0 (memoRegistration.take 4) ++
    (Piece.textLines 0 memoRegistrationItems ++
      Piece.linesAllAt 0 (memoRegistration.drop 5))).flatMap fun l => l ++ ['\n']

/-- What is seen by computation: the items are laid out, and the text of the unit reads as a
file. -/
theorem memoRegistration_computed :
    LaidOutAs memoRegistrationItems (registrationTokens memoService memoClient) ∧
      memoRegistrationText.head? = some '/' ∧
      (match Token.trees? memoRegistrationText with
        | some ts => (File.ofTokens ts).isOk
        | none => false) = true :=
  ⟨laidOutAs_of_isSetAs (by decide +kernel), by decide +kernel, by decide +kernel⟩

/-- The text of the registration of the same service among the units of a stem. -/
def registrationText (stem : String) : List Char :=
  (Piece.linesAllAt 0 ((registrationPieces stem memoService memoClient).take 4) ++
    (Piece.textLines 0 memoRegistrationItems ++
      Piece.linesAllAt 0 ((registrationPieces stem memoService memoClient).drop 5))).flatMap
        fun l => l ++ ['\n']

theorem registrationPieces_eq (stem : String) : registrationPieces stem memoService memoClient =
    (registrationPieces stem memoService memoClient).take 4 ++
      itemsPiece (registrationTokens memoService memoClient) ::
        (registrationPieces stem memoService memoClient).drop 5 := rfl

theorem exists_registration {stem : String} {cs : List Char}
    (htext : registrationText stem = '/' :: cs)
    (hread : (match Token.trees? ('/' :: cs) with
      | some ts => (File.ofTokens ts).isOk
      | none => false) = true) :
    ∃ text, checkedText (registrationPieces stem memoService memoClient) = .ok text := by
  have hlaid := memoRegistration_computed.1
  have hreports : Piece.reportsAllAt 0 (registrationPieces stem memoService memoClient) = [] := by
    simp only [registrationPieces, Piece.implementation, Piece.function, Piece.reportsAllAt,
      Piece.reportsAt, hlaid.reportsAt_eq, List.append_nil]
  have hcomment : (textOfLines (Piece.linesAllAt 0
      (registrationPieces stem memoService memoClient))).toList = '/' :: cs := by
    rw [textOfLines, String.toList_ofList, ← htext, registrationText, ← hlaid.linesAt_eq,
      registrationPieces_eq, Piece.linesAllAt_append, Piece.linesAllAt]
    rfl
  obtain ⟨text, htext, -⟩ :=
    exists_checkedText (buildText_of_reportsAllAt hreports) hcomment hread
  exact ⟨text, htext⟩

theorem memoRegistrationText_eq : memoRegistrationText = registrationText memoStem := rfl

theorem exists_memoRegistration : ∃ text, checkedText memoRegistration = .ok text := by
  obtain ⟨-, hhead, hread⟩ := memoRegistration_computed
  obtain ⟨cs, hcs⟩ := List.head?_eq_some_iff.mp hhead
  rw [hcs] at hread
  exact exists_registration (memoRegistrationText_eq.symm.trans hcs) hread

/-- A service with the same pieces as the one with the memo is built. -/
theorem exists_serviceUnits_memo {f : Found} (hmodules : f.modules = [])
    (huses : Service.importsInScope items [] = [])
    (hpieces : clientPieces f.decl memoService memoClient [] [] =
      clientPieces memoTrait memoService memoClient [] []) :
    ∃ b : Built, b.stem = Service.unitStem f.modules memoService.name ∧
      serviceUnits items .default f memoService memoClient = .ok b.units := by
  obtain ⟨client, hclient, -⟩ := exists_memoText
  obtain ⟨registration, hregistration⟩ := exists_memoRegistration
  have hstem : memoStem = Service.unitStem f.modules memoService.name := by
    rw [hmodules, unitStem_memo]
  refine ⟨⟨memoStem, client, registration⟩, hstem,
    serviceUnits_of_checkedText hstem ?_ hregistration⟩
  rw [hmodules, huses, show Options.default.imports = [] from rfl, hpieces]
  exact hclient

/-- **A run over two traits**: the first is no service, and the second has the pieces of the one
with the memo. -/
theorem exists_judging_memo (items : List Item) {f g : Found} {e : Service.ExtractError}
    (he : f.result = .error e) (hg : g.result = .ok memoService) (hmodules : g.modules = [])
    (huses : Service.importsInScope items [] = [])
    (hpieces : clientPieces g.decl memoService memoClient [] [] =
      clientPieces memoTrait memoService memoClient [] []) :
    ∃ js b, js = [⟨f, .error (.extraction f.decl.name.text e)⟩, ⟨g, .ok b⟩] ∧
      Judging items .default [] [f, g] js ∧ (∀ s ∈ stemsOf js, isName s = true) ∧
      b.stem = memoStem := by
  obtain ⟨b, hstem, hunits⟩ := exists_serviceUnits_memo hmodules huses hpieces
  have hmemo : b.stem = memoStem := by rw [hstem, hmodules, unitStem_memo]
  refine ⟨_, b, rfl, .cons (.extraction he) (.cons ?_ (.nil _)), List.forall_mem_singleton.mpr ?_,
    hmemo⟩
  · exact .built hg rfl List.not_mem_nil hstem hunits
  · change isName b.stem = true
    rw [hmemo, isName_memoStem]

end RestLoom.Emit
