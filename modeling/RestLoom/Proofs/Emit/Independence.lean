import RestLoom.Proofs.Emit.Report

/-!
# Proofs/Emit/Independence — the services of a file do not interfere

    … A B C …  ──▸ report        … A C …  ──▸ the report without B

What becomes of a marked trait depends on the others only through the stems of those built before
it, and on the items around it only through the imports in scope.  Without one of its traits a file
therefore has the report that all other verdicts make up (`generateFile_without_trait`): a failure
just disappears; what was built disappears too, unless another trait had failed for its stem.
-/

namespace RestLoom.Emit

open RestLoom.Token (Ident)
open RestLoom.Source
open RestLoom.Service (Found Removal markedAll found?)

variable {items items' : List Item} {o : Options} {stems : List String} {f : Found}
  {fs fs' : List Found} {v : Verdict} {js js' : List Judged}

/-! ## What a verdict depends on -/

theorem Judges.of_importsInScope (h : Judges items o stems f v)
    (hscope : ∀ ms, Service.importsInScope items' ms = Service.importsInScope items ms) :
    Judges items' o stems f v := by
  have hunits (s : Service) (client : Ident) :
      serviceUnits items' o f s client = serviceUnits items o f s client := by
    rw [serviceUnits, serviceUnits, hscope]
  cases h with
  | extraction he => exact .extraction he
  | taken hs hclient htaken => exact .taken hs hclient htaken
  | failed hs hclient hfree he => exact .failed hs hclient hfree ((hunits _ _).trans he)
  | built hs hclient hfree hstem hb => exact .built hs hclient hfree hstem ((hunits _ _).trans hb)

/-- **Items count** only for the imports in scope. -/
theorem Judging.of_importsInScope (h : Judging items o stems fs js)
    (hscope : ∀ ms, Service.importsInScope items' ms = Service.importsInScope items ms) :
    Judging items' o stems fs js := by
  induction h with
  | nil stems => exact .nil stems
  | cons hv _ ih => exact .cons (hv.of_importsInScope hscope) ih

/-- A stem that is not in the way need not be known. -/
theorem Judges.forget {a b : List String} {stem : String} (h : Judges items o (a ++ stem :: b) f v)
    (hv : ∀ name, v ≠ .error (.code (.stemTaken name stem))) : Judges items o (a ++ b) f v := by
  have hfewer {s : String} (hs : s ∉ a ++ stem :: b) : s ∉ a ++ b := fun hmem =>
    hs (List.mem_append.mpr ((List.mem_append.mp hmem).imp_right (List.mem_cons_of_mem stem)))
  cases h with
  | extraction he => exact .extraction he
  | taken hs hclient htaken =>
    refine .taken hs hclient (List.mem_append.mpr ((List.mem_append.mp htaken).imp_right fun h => ?_))
    obtain h | h := List.mem_cons.mp h
    · exact absurd (h ▸ rfl) (hv f.decl.name.text)
    · exact h
  | failed hs hclient hfree he => exact .failed hs hclient (hfewer hfree) he
  | built hs hclient hfree hstem hb => exact .built hs hclient (hfewer hfree) hstem hb

/-- **A stem that no verdict is about** need not be known to the whole run. -/
theorem Judging.forget {a b : List String} {stem : String}
    (h : Judging items o (a ++ stem :: b) fs js)
    (hjs : ∀ j ∈ js, ∀ name, j.verdict ≠ .error (.code (.stemTaken name stem))) :
    Judging items o (a ++ b) fs js := by
  induction fs generalizing b js with
  | nil =>
    cases h
    exact .nil _
  | cons f fs ih =>
    cases h with
    | cons hv hrun =>
      rw [List.forall_mem_cons] at hjs
      rw [List.append_assoc, List.cons_append] at hrun
      refine .cons (hv.forget hjs.1) ?_
      rw [List.append_assoc]
      exact ih hrun hjs.2

/-- A run over two lists is one over the first and then one over the second. -/
theorem Judging.append_inv (h : Judging items o stems (fs ++ fs') js) :
    ∃ a b, js = a ++ b ∧ Judging items o stems fs a ∧ Judging items o (stems ++ stemsOf a) fs' b := by
  induction fs generalizing stems js with
  | nil => exact ⟨[], js, rfl, .nil _, by rwa [show stemsOf [] = [] from rfl, List.append_nil]⟩
  | cons f fs ih =>
    cases h with
    | @cons _ _ v _ js hv hrun =>
      obtain ⟨a, b, rfl, ha, hb⟩ := ih hrun
      rw [List.append_assoc, ← stemsOf_append, List.singleton_append] at hb
      exact ⟨⟨f, v⟩ :: a, b, rfl, .cons hv ha, hb⟩

theorem Judging.append {a b : List Judged} (ha : Judging items o stems fs a)
    (hb : Judging items o (stems ++ stemsOf a) fs' b) :
    Judging items o stems (fs ++ fs') (a ++ b) := by
  induction ha with
  | nil stems => rwa [show stemsOf [] = [] from rfl, List.append_nil] at hb
  | cons hv _ ih =>
    rw [← List.singleton_append, stemsOf_append, ← List.append_assoc] at hb
    exact .cons hv (ih hb)

/-! ## One verdict less -/

/-- Whether the second report is the first one without one of its failures. -/
structure LosesFailure (e : GenerateError) (r r' : Report) : Prop where
  services : r'.services = r.services
  units : r'.units = r.units
  failures : ∃ a b, r.failures = a ++ e :: b ∧ r'.failures = a ++ b

/-- Whether the second report is the first one without one of its services: its name, its two units,
and its lines in the unit of modules, which is gone if it has no others. -/
structure LosesService (name : String) (built : Built) (r r' : Report) : Prop where
  services : ∃ a b, r.services = a ++ name :: b ∧ r'.services = a ++ b
  units : ∃ a b stems stems', r.units = a ++ built.units ++ b ++
      modulesOf (stems ++ built.stem :: stems') ∧ r'.units = a ++ b ++ modulesOf (stems ++ stems')
  failures : r'.failures = r.failures

theorem losesFailure (before after : List Judged) (f : Found) (e : GenerateError) :
    LosesFailure e (Report.of (before ++ ⟨f, .error e⟩ :: after)) (Report.of (before ++ after)) where
  services := by simp [Report.of, List.filterMap_cons, Judged.service?]
  units := by
    simp [Report.of, unitsOf, stemsOf, List.filterMap_cons, Judged.built?, Except.toOption]
  failures := ⟨before.filterMap Judged.failure?, after.filterMap Judged.failure?,
    by simp [Report.of, Judged.failure?], by simp [Report.of]⟩

theorem losesService (before after : List Judged) (f : Found) (b : Built) :
    LosesService f.decl.name.text b (Report.of (before ++ ⟨f, .ok b⟩ :: after))
      (Report.of (before ++ after)) where
  services := ⟨before.filterMap Judged.service?, after.filterMap Judged.service?,
    by simp [Report.of, Judged.service?], by simp [Report.of]⟩
  units := ⟨unitsOf before, unitsOf after, stemsOf before, stemsOf after,
    by simp [Report.of, unitsOf, stemsOf, Judged.built?, Except.toOption],
    by simp [Report.of, unitsOf, stemsOf]⟩
  failures := by simp [Report.of, List.filterMap_cons, Judged.failure?]

/-- The run over the other traits. -/
theorem Judging.without {before after : List Judged} (hbefore : Judging items o stems fs before)
    (hafter : Judging items o (stems ++ stemsOf before ++ stemsOf [⟨f, v⟩]) fs' after)
    (hlater : ∀ b, v = .ok b → ∀ k ∈ after, ∀ name,
      k.verdict ≠ .error (.code (.stemTaken name b.stem))) :
    Judging items o stems (fs ++ fs') (before ++ after) := by
  refine hbefore.append ?_
  cases v with
  | error e => rwa [stemsOf_singleton_error, List.append_nil] at hafter
  | ok b =>
    have hforget := Judging.forget (b := []) hafter (hlater b rfl)
    rwa [List.append_nil] at hforget

/-- **The services of a file do not interfere.**  Without one of its marked traits generation
reports what the others came to: a failure disappears and changes nothing else; what was built
disappears with its units and its lines in the unit of modules, provided that no later trait failed
for its stem. -/
theorem generateFile_without_trait (hsignal : o.signal = .never) {file : File} {t : TraitDecl}
    {path : List Ident} (hremoval : Removal t path file.items items')
    (hfound : found? path t = some f) {r : Report} (h : generateFile o file = .ok r) :
    ∃ before v after,
      Judging file.items o [] (markedAll [] file.items) (before ++ ⟨f, v⟩ :: after) ∧
      r = Report.of (before ++ ⟨f, v⟩ :: after) ∧
      markedAll [] items' = (before ++ after).map (·.found) ∧
      (∀ e, v = .error e → ∃ r', generateFile o { file with items := items' } = .ok r' ∧
        LosesFailure e r r') ∧
      ∀ b, v = .ok b →
        (∀ k ∈ after, ∀ name, k.verdict ≠ .error (.code (.stemTaken name b.stem))) →
        ∃ r', generateFile o { file with items := items' } = .ok r' ∧
          LosesService t.name.text b r r' := by
  obtain ⟨js, hrun, hnames, rfl⟩ := exists_judging_of_generateFile h
  obtain ⟨fs, fs', hall, hrest⟩ := hremoval.markedAll []
  rw [List.nil_append, hfound, Option.toList_some, List.append_assoc, List.singleton_append] at hall
  have hwhole := hrun
  rw [hall] at hrun
  obtain ⟨before, later, rfl, hbefore, hlater⟩ := hrun.append_inv
  cases hlater with
  | @cons _ _ v _ after hv hafter =>
    have hgenerate (hfree : ∀ b, v = .ok b → ∀ k ∈ after, ∀ name,
        k.verdict ≠ .error (.code (.stemTaken name b.stem))) :
        generateFile o { file with items := items' } = .ok (Report.of (before ++ after)) := by
      have hother := (hbefore.without hafter hfree).of_importsInScope hremoval.importsInScope
      rw [← hrest] at hother
      refine generateFile_of_judging hsignal hother fun s hs => hnames s ?_
      rw [← List.singleton_append, stemsOf_append, stemsOf_append]
      rw [stemsOf_append] at hs
      exact List.mem_append.mpr ((List.mem_append.mp hs).imp_right (List.mem_append_right _))
    refine ⟨before, v, after, hwhole, rfl, ?_, ?_, ?_⟩
    · rw [hrest, List.map_append, hbefore.map_found, hafter.map_found]
    · rintro e rfl
      exact ⟨_, hgenerate nofun, losesFailure before after f e⟩
    · rintro b rfl hfree
      have hlost := losesService before after f b
      rw [(Service.found?_eq_some hfound).2.1] at hlost
      exact ⟨_, hgenerate fun _ hb => Except.ok.inj hb ▸ hfree, hlost⟩

/-- The marker of a service. -/
def serviceMarker : Attribute := ⟨false, identPath (.plain "rest_client"), .absent⟩

/-- The marked trait with a memo. -/
def markedMemo : TraitDecl := { memoTrait with attributes := [serviceMarker] }

/-- A marked trait that is no service. -/
def genericMemo : TraitDecl :=
  { markedMemo with name := .plain "B", generics := some (.phrase .generics [.op "<", .op ">"]) }

/-- A file with a failure and a service. -/
def memoFile : File := ⟨none, [], [.trait genericMemo, .trait markedMemo]⟩

/-- **Either trait can go**: without the generic one a failure is lost, and without the other one a
service. -/
theorem exists_memoFile_without : ∃ r, generateFile .default memoFile = .ok r ∧
    (∃ r' e, generateFile .default { memoFile with items := [.trait markedMemo] } = .ok r' ∧
      LosesFailure e r r') ∧
    ∃ r' b, generateFile .default { memoFile with items := [.trait genericMemo] } = .ok r' ∧
      LosesService "A" b r r' := by
  obtain ⟨js, b, hjs, hrun, hnames, -⟩ := exists_judging_memo memoFile.items
    (f := ⟨[], genericMemo, .error .genericTrait⟩) (g := ⟨[], markedMemo, .ok memoService⟩) rfl rfl
    rfl rfl rfl
  have hreport : generateFile .default memoFile = .ok (Report.of js) :=
    generateFile_of_judging rfl hrun hnames
  have hfirst : Removal genericMemo [] memoFile.items [.trait markedMemo] := .here _
  have hsecond : Removal markedMemo [] memoFile.items [.trait genericMemo] := .later _ (.here _)
  have hnames : ("A" : String) ≠ "B" := by decide
  refine ⟨_, hreport, ?_, ?_⟩
  · obtain ⟨before, v, after, hjudged, -, -, hfailure, -⟩ := generateFile_without_trait
      (o := .default) (f := ⟨[], genericMemo, .error .genericTrait⟩) rfl hfirst rfl hreport
    have hsplit := (hjudged.unique hrun).trans hjs
    obtain _ | ⟨k, _ | ⟨k', before⟩⟩ := before
    · obtain ⟨r', hr', hlost⟩ := hfailure _ (congrArg Judged.verdict (List.cons.inj hsplit).1)
      exact ⟨r', _, hr', hlost⟩
    · have hlast := (List.cons.inj (List.cons.inj hsplit).2).1
      exact absurd (congrArg (·.found.decl.name.text) hlast).symm hnames
    · exact absurd (congrArg List.length hsplit) (by simp)
  · obtain ⟨before, v, after, hjudged, -, -, -, hservice⟩ := generateFile_without_trait
      (o := .default) (f := ⟨[], markedMemo, .ok memoService⟩) rfl hsecond rfl hreport
    have hsplit := (hjudged.unique hrun).trans hjs
    obtain _ | ⟨k, _ | ⟨k', before⟩⟩ := before
    · exact absurd (congrArg (·.found.decl.name.text) (List.cons.inj hsplit).1) hnames
    · obtain ⟨hlast, rfl⟩ := List.cons.inj (List.cons.inj hsplit).2
      obtain ⟨r', hr', hlost⟩ := hservice _ (congrArg Judged.verdict hlast)
        (List.forall_mem_nil _)
      exact ⟨r', _, hr', hlost⟩
    · exact absurd (congrArg List.length hsplit) (by simp)

end RestLoom.Emit
