import RestLoom.Emit.Writing
import RestLoom.Proofs.Emit.Blocks
import RestLoom.Proofs.Emit.Names
import RestLoom.Proofs.Emit.Report
import RestLoom.Proofs.FileTree.Location

/-!
# Proofs/Emit/Accounts — every service is accounted for, and no unit overwrites another

    marked traits A B C  ──generate──▸  services A C · failure of B · a.rs a_registration.rs c.rs … mod.rs

The report is made of one verdict for each marked trait (`Report.of`).  Stems are distinct and all
end in one word, which tells them from the names of registrations and of modules, so that the files
are distinct, those they are first written to included (`Accounts`, `generate_accounts`).
-/

namespace RestLoom.Emit

open RestLoom.Text
open RestLoom.Token (Ident)
open RestLoom.Source
open RestLoom.FileTree (Change Location)
open RestLoom.Service (Found markedAll)

/-! ## Files -/

/-- Where a change puts a file. -/
def placed? : Change → Option Location
  | .writeFile l _ => some l
  | .rename _ target => some target
  | .makeDirectories _ => none

/-- The places at which the writing of a unit into a directory puts a file: first under a temporary
name, then under its own. -/
def placesOf (dir : Location) (u : SourceUnit) : List Location :=
  (writeSteps (unitLocation dir u) u.contents).filterMap placed?

theorem placesOf_eq (dir : Location) (u : SourceUnit) :
    placesOf dir u = [(unitLocation dir u).withExtension temporaryExtension, unitLocation dir u] := by
  rw [placesOf, writeSteps]
  cases (unitLocation dir u).parent? with
  | none => rfl
  | some l =>
    dsimp only
    split <;> rfl

/-- The file of a name without its extension. -/
theorem unitLocation_named (dir : Location) (name contents : String) :
    unitLocation dir ⟨name ++ ".rs", contents⟩ = dir.inside ⟨name.toList ++ '.' :: ['r', 's']⟩ := by
  rw [unitLocation, Location.ofString, String.toList_append]
  rfl

theorem placesOf_named (dir : Location) {name : String} (h : Location.IsStem name.toList)
    (contents : String) : placesOf dir ⟨name ++ ".rs", contents⟩ =
      [dir.inside ⟨name.toList ++ '.' :: temporaryExtension⟩,
        dir.inside ⟨name.toList ++ '.' :: ['r', 's']⟩] := by
  rw [placesOf_eq, unitLocation_named, Location.withExtension_inside dir h (by decide) (by decide)
    (by decide)]

variable {js : List Judged} {items : List Item} {o : Options} {stems : List String}
  {fs : List Found}

/-- The names of the units of a report. -/
theorem fileNames_report (js : List Judged) :
    (Report.of js).units.map (·.fileName) = (unitNames (stemsOf js)).map (· ++ ".rs") := by
  have hunits (bs : List Built) : (bs.flatMap Built.units).map (·.fileName) =
      ((bs.map (·.stem)).flatMap fun s => [s, s ++ registrationEnd]).map (· ++ ".rs") := by
    induction bs with
    | nil => rfl
    | cons b bs ih =>
      rw [List.flatMap_cons, List.map_append, ih, List.map_cons, List.flatMap_cons, List.map_append]
      congr 1
      simp only [Built.units, List.map_cons, List.map_nil, String.append_assoc]
      rfl
  have hmodules : (modulesOf (stemsOf js)).map (·.fileName) =
      (if stemsOf js = [] then [] else ["mod"]).map (· ++ ".rs") := by
    rw [modulesOf]
    split <;> rfl
  rw [Report.of, List.map_append, unitsOf, hunits, hmodules, unitNames, List.map_append]
  rfl

theorem flatMap_placesOf (dir : Location) {us : List SourceUnit} {names : List String}
    (hus : us.map (·.fileName) = names.map (· ++ ".rs"))
    (hstem : ∀ n ∈ names, Location.IsStem n.toList) :
    us.flatMap (placesOf dir) = names.flatMap fun n =>
      [dir.inside ⟨n.toList ++ '.' :: temporaryExtension⟩,
        dir.inside ⟨n.toList ++ '.' :: ['r', 's']⟩] := by
  induction us generalizing names with
  | nil =>
    rw [List.map_nil, eq_comm, List.map_eq_nil_iff] at hus
    rw [hus]
    rfl
  | cons u us ih =>
    cases names with
    | nil => cases hus
    | cons n names =>
      rw [List.map_cons, List.map_cons, List.cons.injEq] at hus
      rw [List.forall_mem_cons] at hstem
      obtain ⟨fileName, contents⟩ := u
      obtain rfl : fileName = n ++ ".rs" := hus.1
      rw [List.flatMap_cons, List.flatMap_cons, ih hus.2 hstem.2, placesOf_named dir hstem.1]

/-- **Names that are distinct** without their extension have distinct files, the temporary ones
included. -/
theorem nodup_places (dir : Location) {us : List SourceUnit} {names : List String}
    (hus : us.map (·.fileName) = names.map (· ++ ".rs")) (hnames : names.Nodup)
    (hstem : ∀ n ∈ names, Location.IsStem n.toList) : (us.flatMap (placesOf dir)).Nodup := by
  have htmp : '.' ∉ temporaryExtension := by decide
  have hrs : '.' ∉ ['r', 's'] := by decide
  rw [flatMap_placesOf dir hus hstem, List.nodup_flatMap]
  constructor
  · intro n hn
    refine List.nodup_cons.mpr ⟨fun hmem => ?_, List.nodup_singleton _⟩
    obtain ⟨-, hext⟩ := Location.inside_stem_inj dir (hstem n hn) (hstem n hn) htmp hrs
      (List.mem_singleton.mp hmem)
    exact absurd hext (by decide)
  · refine (List.Pairwise.and_mem.mp hnames).imp ?_
    rintro n n' ⟨hn, hn', hne⟩ l hl hl'
    simp only [List.mem_cons, List.not_mem_nil, or_false] at hl hl'
    have hinj {ext ext' : List Char} (hext : '.' ∉ ext) (hext' : '.' ∉ ext')
        (h : l = dir.inside ⟨n.toList ++ '.' :: ext⟩)
        (h' : l = dir.inside ⟨n'.toList ++ '.' :: ext'⟩) : False :=
      hne (String.toList_inj.mp (Location.inside_stem_inj dir (hstem n hn) (hstem n' hn') hext hext'
        (h.symm.trans h')).1)
    obtain h | h := hl
    · obtain h' | h' := hl'
      · exact hinj htmp htmp h h'
      · exact hinj htmp hrs h h'
    · obtain h' | h' := hl'
      · exact hinj hrs htmp h h'
      · exact hinj hrs hrs h h'

/-! ## Names of units -/

/-- A name has no slash, no dot and no line end. -/
theorem not_mem_of_isName {cs : List Char} (h : Text.isName cs = true) {c : Char}
    (hc : isNameRest c = false) : c ∉ cs := fun hmem => by
  rw [isNameRest_of_mem h hmem] at hc
  cases hc

theorem isStem_of_isName {cs : List Char} (h : Text.isName cs = true) : Location.IsStem cs := by
  refine ⟨?_, not_mem_of_isName h (by decide), not_mem_of_isName h (by decide)⟩
  rintro rfl
  cases h

theorem isStem_unitNames {stems : List String} (h : ∀ s ∈ stems, isName s = true) {n : String}
    (hn : n ∈ unitNames stems) : Location.IsStem n.toList := by
  obtain hn | hn := List.mem_append.mp hn
  · obtain ⟨s, hs, hn⟩ := List.mem_flatMap.mp hn
    obtain ⟨hne, hslash, hdot⟩ := isStem_of_isName (h s hs)
    simp only [List.mem_cons, List.not_mem_nil, or_false] at hn
    obtain rfl | rfl := hn
    · exact ⟨hne, hslash, hdot⟩
    · rw [String.toList_append]
      exact ⟨List.append_ne_nil_of_left_ne_nil hne _,
        fun hmem => (List.mem_append.mp hmem).elim hslash (by decide),
        fun hmem => (List.mem_append.mp hmem).elim hdot (by decide)⟩
  · split at hn
    · cases hn
    · rw [List.mem_singleton.mp hn]
      exact ⟨by decide, by decide, by decide⟩

/-! ## Imports of registrations -/

/-- The import of a client and its service from the unit of that stem. -/
def importLine (stem client service : String) : String :=
  "use super::" ++ stem ++ "::\x7b" ++ client ++ ", " ++ service ++ "\x7d;"

/-- What a registration unit begins with: the notice, and the import. -/
def registrationHead (stem client service : String) : String :=
  "// " ++ notice ++ "\n\n" ++ importLine stem client service ++ "\n"

theorem not_mem_importLine {stem client service : String} (hstem : '\n' ∉ stem.toList)
    (hclient : '\n' ∉ client.toList) (hservice : '\n' ∉ service.toList) :
    '\n' ∉ (importLine stem client service).toList := by
  unfold importLine
  simp only [String.toList_append, List.mem_append, hstem, hclient, hservice, or_false]
  decide

theorem mem_importLine {stem client service : String} :
    'u' ∈ (importLine stem client service).toList := by
  unfold importLine
  simp

theorem toList_registrationText {stem : String} {s : Service} {client : Ident}
    (h : '\n' ∉ (importLine stem client.text s.name.text).toList) :
    (registrationHead stem client.text s.name.text).toList <+:
      (textOfLines (Piece.linesAllAt 0 (registrationPieces stem s client))).toList := by
  have hnotice : (Piece.linesAt 0 (.comment notice)).flatMap (fun l => l ++ ['\n']) =
      ("// " ++ notice ++ "\n").toList := rfl
  have hline : Piece.linesAt 0 (.line (importLine stem client.text s.name.text)) =
      [(importLine stem client.text s.name.text).toList] :=
    Piece.textLines_of_unbroken h mem_importLine (by decide) 0
  obtain ⟨rest, hrest⟩ : ∃ rest, registrationPieces stem s client = .comment notice :: .blank ::
      .line (importLine stem client.text s.name.text) :: rest := ⟨_, rfl⟩
  rw [hrest, textOfLines, String.toList_ofList, Piece.linesAllAt, Piece.linesAllAt,
    Piece.linesAllAt, hline, List.flatMap_append, List.flatMap_append, List.flatMap_append, hnotice,
    List.flatMap_singleton]
  refine ⟨(Piece.linesAllAt 0 rest).flatMap fun l => l ++ ['\n'], ?_⟩
  simp [registrationHead, Piece.linesAt]

/-- **A registration unit** begins with the import of its client and its service from their unit. -/
theorem registration_head {modules : List Ident} {s : Service} {client : Ident} {u : SourceUnit}
    (hu : registrationUnit modules s client = .ok u)
    (hclient : Service.clientName? s.name = some client)
    (hname : isName (Service.unitStem modules s.name) = true) :
    (registrationHead (Service.unitStem modules s.name) client.text s.name.text).toList <+:
      u.contents.toList := by
  obtain ⟨text, htext, hu⟩ := Outcome.bind_eq_ok.mp hu
  obtain rfl := Outcome.pure_eq_ok.mp hu
  rw [(buildText_eq_ok (checkedText_eq_ok.mp htext).1).1]
  have hstem : '\n' ∉ (Service.unitStem modules s.name).toList :=
    not_mem_of_isName hname (by decide)
  have hservice : '\n' ∉ s.name.text.toList := fun hmem =>
    hstem (mem_unitStem (List.mem_append_right _ (List.mem_singleton_self _)) hmem
      (by decide))
  refine toList_registrationText (not_mem_importLine hstem ?_ hservice)
  rw [Service.clientName?] at hclient
  split at hclient
  · cases hclient
  · rw [← Option.some.inj hclient]
    simpa [Service.clientText, Ident.plain, Ident.text, Service.clientSuffix] using hservice

/-! ## The report as a whole -/

/-- **Whether a report accounts for each marked trait of a file once**, and for each service by
files of its own. -/
structure Accounts (file : File) (js : List Judged) (r : Report) : Prop where
  /-- Each marked trait has one verdict, in the order of the text. -/
  traits : js.map (·.found) = markedAll [] file.items
  /-- The report is made of the verdicts. -/
  report : r = Report.of js
  /-- What is built is named after the service and the modules around it, and its registration
  imports from its client unit. -/
  built : ∀ j ∈ js, ∀ b, j.verdict = .ok b → ∃ s client, j.found.result = .ok s ∧
    Service.clientName? s.name = some client ∧
    b.stem = Service.unitStem j.found.modules s.name ∧
    (registrationHead b.stem client.text s.name.text).toList <+: b.registration.toList
  fileNames : (r.units.map (·.fileName)).Nodup
  /-- Wherever the units are written, no file takes the place of another, not even for a while. -/
  places : ∀ dir, (r.units.flatMap (placesOf dir)).Nodup

theorem registrationUnit_of_serviceUnits {f : Found} {s : Service} {client : Ident} {b : Built}
    (h : serviceUnits items o f s client = .ok b.units) :
    registrationUnit f.modules s client =
      .ok ⟨b.stem ++ "_registration.rs", b.registration⟩ := by
  obtain ⟨c, -, h⟩ := Outcome.bind_eq_ok.mp h
  obtain ⟨r, hr, h⟩ := Outcome.bind_eq_ok.mp h
  have hunits := Outcome.pure_eq_ok.mp h
  rw [Built.units, List.cons.injEq, List.singleton_inj] at hunits
  rw [hr, hunits.2]

theorem mem_stemsOf_of_built {j : Judged} (hj : j ∈ js) {b : Built} (hb : j.verdict = .ok b) :
    b.stem ∈ stemsOf js := by
  refine List.mem_map.mpr ⟨b, List.mem_filterMap.mpr ⟨j, hj, ?_⟩, rfl⟩
  rw [Judged.built?, hb]
  rfl

theorem Judging.accounts {file : File} (h : Judging file.items o [] (markedAll [] file.items) js)
    (hnames : ∀ s ∈ stemsOf js, isName s = true) : Accounts file js (Report.of js) where
  traits := h.map_found
  report := rfl
  built j hj b hb := by
    obtain ⟨stems, hjudges⟩ := h.exists_judges hj
    rw [hb] at hjudges
    cases hjudges with
    | @built s client _ hs hclient hfree hstem hunits =>
      have hname := hnames _ (mem_stemsOf_of_built hj hb)
      rw [hstem] at hname
      refine ⟨s, client, hs, hclient, hstem, ?_⟩
      rw [hstem]
      exact registration_head (registrationUnit_of_serviceUnits hunits) hclient hname
  fileNames := by
    rw [fileNames_report]
    refine (nodup_unitNames ?_ fun s hs => h.stemEnd_suffix hs).map fun a b hab => ?_
    · exact h.nodup List.nodup_nil
    · rw [← String.toList_inj, String.toList_append, String.toList_append] at hab
      exact String.toList_inj.mp (List.append_cancel_right hab)
  places dir :=
    nodup_places dir (fileNames_report js)
      (nodup_unitNames (h.nodup List.nodup_nil) fun s hs => h.stemEnd_suffix hs)
      fun n hn => isStem_unitNames hnames hn

/-- **Every report accounts for the marked traits of its source**: each is a service or a failure,
in order; the units are those of the services, in order, and the one that declares them; no two have
the same name, or are written to the same place. -/
theorem generate_accounts {text : String} {r : Report} (h : generate o text = .ok r) :
    ∃ file js, File.ofText text = .ok file ∧
      Judging file.items o [] (markedAll [] file.items) js ∧ Accounts file js r := by
  obtain ⟨file, js, hfile, hrun, hnames, rfl⟩ := exists_judging_of_generate h
  exact ⟨file, js, hfile, hrun, hrun.accounts hnames⟩

/-- A text with a failure and the service with the memo. -/
def memoSource : String :=
  "#[rest_client]\ntrait B<T> \x7b\x7d\n\n#[rest_client]\ntrait A \x7b\n    const NOTE: Text = " ++
    "\x22a\n \nb\x22;\n\x7d\n"

/-- Whether a file has a trait that fails, and then the one with the memo. -/
def isMemoFile (file : File) : Bool :=
  match markedAll [] file.items with
  | [⟨_, _, .error _⟩, ⟨[], decl, .ok ⟨name, .inherited, none, [], []⟩⟩] =>
    (Service.imports file.items).isEmpty && name = memoService.name &&
      (serviceTrait { decl with visibility := widened decl.visibility }).toNode.tokens =
        (serviceTrait { memoTrait with visibility := widened .inherited }).toNode.tokens
  | _ => false

/-- Whether a text reads as such a file. -/
def isMemoText (text : String) : Bool :=
  match File.ofText text with
  | .ok file => isMemoFile file
  | .error _ => false

theorem exists_judging_of_isMemoFile {file : File} (h : isMemoFile file = true) :
    ∃ f g e b, Judging file.items .default [] (markedAll [] file.items)
        [⟨f, .error e⟩, ⟨g, .ok b⟩] ∧
      (∀ s ∈ stemsOf [⟨f, .error e⟩, ⟨g, .ok b⟩], isName s = true) ∧ b.stem = memoStem := by
  rw [isMemoFile] at h
  split at h
  next modules t e decl name hall =>
    simp only [Bool.and_eq_true, decide_eq_true_eq, List.isEmpty_iff] at h
    obtain ⟨⟨himports, rfl⟩, htokens⟩ := h
    rw [hall]
    obtain ⟨js, b, rfl, hrun, hnames, hstem⟩ := exists_judging_memo file.items
      (f := ⟨modules, t, .error e⟩) (g := ⟨[], decl, .ok memoService⟩) rfl rfl rfl himports
      (clientPieces_congr htokens)
    exact ⟨_, _, _, b, hrun, hnames, hstem⟩
  next => cases h

/-- The report on the text: of a failure, and of a service with a known stem. -/
theorem exists_memoSource_report : ∃ f g e b, b.stem = memoStem ∧
    generate .default memoSource = .ok (Report.of [⟨f, .error e⟩, ⟨g, .ok b⟩]) := by
  have hfile : isMemoText memoSource = true := by decide +kernel
  unfold isMemoText at hfile
  cases htext : File.ofText memoSource with
  | error e =>
    rw [htext] at hfile
    cases hfile
  | ok file =>
    rw [htext] at hfile
    obtain ⟨f, g, e, b, hrun, hnames, hstem⟩ := exists_judging_of_isMemoFile hfile
    refine ⟨f, g, e, b, hstem, ?_⟩
    unfold generate
    rw [htext]
    exact generateFile_of_judging rfl hrun hnames

/-- **A failure and a service** are accounted for. -/
theorem exists_memoSource_accounts : ∃ r file js, generate .default memoSource = .ok r ∧
    File.ofText memoSource = .ok file ∧ Accounts file js r ∧ r.services.length = 1 ∧
    r.units.length = 3 ∧ r.failures.length = 1 := by
  obtain ⟨f, g, e, b, -, hreport⟩ := exists_memoSource_report
  obtain ⟨file, js, hfile, -, haccounts⟩ := generate_accounts hreport
  exact ⟨_, file, js, hreport, hfile, haccounts, rfl, rfl, rfl⟩

end RestLoom.Emit
