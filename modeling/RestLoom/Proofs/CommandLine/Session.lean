import RestLoom.CommandLine.Session
import RestLoom.Proofs.Emit.Halting
import RestLoom.Proofs.Emit.Writing

/-!
# Proofs/CommandLine/Session — what a session leaves behind

    -i defs.rs -o out  ──▸  out/a.rs · out/mod.rs, status 1 and one complaint

A session whose words are followed reads its input, generates, and delivers the report: it prints
the units, or writes them (`delivers`).  What it says, its status and the tree it leaves behind
agree with the report, however many services failed and wherever writing stopped (`session_agrees`).
There is one way to end without a report on a file that has been read: generation breaks down, and
then the units of all services are lost, of those that had been built too
(`exists_session_without_report`).
-/

namespace RestLoom.CommandLine

open RestLoom.FileTree
open RestLoom.Emit
open RestLoom.Source
open RestLoom.Service (Found markedAll)

variable {q : Request} {r : Report} {t : FileTree} {text : String}

/-! ## Delivery -/

/-- Whether a request to write units succeeds. -/
def Request.Writes (q : Request) (r : Report) (t : FileTree) : Prop :=
  ∃ ls, ((writeUnits r.units q.output).run t).2 = .ok ls

/-- **Whether the units of a report are delivered** as a request asks. -/
structure Delivers (q : Request) (r : Report) (t t' : FileTree) (e : Outcome) : Prop where
  /-- With a dry run nothing changes, and each unit is shown once, in order. -/
  shown : q.dryRun = true → t' = t ∧ e.output = String.join (r.units.map printed)
  /-- Without one, nothing changes but the directory and the places of the units, even if writing
  fails on the way. -/
  only : q.dryRun = false → WritesOnly q.output (r.units.flatMap (placesOf q.output)) t t'
  /-- If it does not fail, each unit is found at its place. -/
  written : q.dryRun = false → q.Writes r t →
    ∀ u ∈ r.units, t'.readFile (unitLocation q.output u) = .ok u.contents

theorem statusOf_eq_zero_iff : statusOf r = 0 ↔ r.failures = [] := by
  rw [statusOf, Report.isSuccess]
  split
  next h => exact iff_of_true rfl (List.isEmpty_iff.mp h)
  next h => exact iff_of_false (by rintro ⟨⟩) fun hnone => h (List.isEmpty_iff.mpr hnone)

theorem run_deliver_of_dryRun (h : q.dryRun = true) : (deliver q r).run t =
    (t, ⟨statusOf r, String.join (r.units.map printed),
      failureLines r ++ summaryLine q.input r⟩) := by
  rw [deliver, if_pos h]
  rfl

/-- How the writing of units ends a session. -/
def written (q : Request) (r : Report) : Except GenerateError (List Location) → Outcome
  | .error e => stopped (failureLines r) e
  | .ok ls => ⟨statusOf r, "", failureLines r ++
      String.join (ls.map fun l => asLine ("✓ " ++ l.toString)) ++ summaryLine q.input r⟩

theorem run_deliver_of_not_dryRun (h : q.dryRun = false) : (deliver q r).run t =
    (((writeUnits r.units q.output).run t).1,
      written q r ((writeUnits r.units q.output).run t).2) := by
  rw [deliver, if_neg (Bool.eq_false_iff.mp h), Script.run_bind]
  cases ((writeUnits r.units q.output).run t).2 <;> rfl

/-- **The status of a delivery** tells whether all services were generated and written. -/
theorem status_deliver_eq_zero_iff : ((deliver q r).run t).2.status = 0 ↔
    r.failures = [] ∧ (q.dryRun = false → q.Writes r t) := by
  cases hdry : q.dryRun with
  | true =>
    rw [run_deliver_of_dryRun hdry, and_iff_left fun h => Bool.noConfusion h]
    exact statusOf_eq_zero_iff
  | false =>
    rw [run_deliver_of_not_dryRun hdry, Request.Writes, imp_iff_right rfl]
    cases ((writeUnits r.units q.output).run t).2 with
    | error e => exact iff_of_false (by rintro ⟨⟩) (by rintro ⟨-, _, ⟨⟩⟩)
    | ok ls =>
      rw [and_iff_left ⟨ls, rfl⟩]
      exact statusOf_eq_zero_iff

/-- **A report is delivered** as the request asks. -/
theorem delivers {o : Options} {items : List Item} {fs : List Found} {js : List Judged}
    (hrun : Judging items o [] fs js) (hnames : ∀ s ∈ stemsOf js, isName s = true) (q : Request)
    (t : FileTree) : Delivers q (Report.of js) t ((deliver q (Report.of js)).run t).1
      ((deliver q (Report.of js)).run t).2 := by
  obtain ⟨honly, hread⟩ := hrun.writeUnits_spec hnames q.output t
  cases hdry : q.dryRun with
  | true =>
    rw [run_deliver_of_dryRun hdry]
    exact ⟨fun _ => ⟨rfl, rfl⟩, by simp [hdry], by simp [hdry]⟩
  | false =>
    rw [run_deliver_of_not_dryRun hdry]
    refine ⟨by simp [hdry], fun _ => honly, ?_⟩
    rintro - ⟨ls, hls⟩
    exact (hread ls hls).2

/-! ## Sessions -/

/-- The options that a request generates with. -/
def Request.options (q : Request) : Options := ⟨q.modules, .never⟩

theorem run_carryOut_of_unread {e : FileError} (h : t.readFile q.input = .error e) :
    q.carryOut.run t = (t, some (stopped "" (.read q.input.toString e))) := by
  rw [Request.carryOut, Script.run_bind, generateAt, Script.run, h]
  rfl

/-- What is done with the outcome of generation. -/
def Request.proceed (q : Request) (t : FileTree) : Except Halt Report → FileTree × Option Outcome
  | .error (.error e) => (t, some (stopped "" e))
  | .error _ => (t, none)
  | .ok r => (((deliver q r).run t).1, some ((deliver q r).run t).2)

theorem run_carryOut_of_read (h : t.readFile q.input = .ok text) :
    q.carryOut.run t = q.proceed t (generate q.options text) := by
  rw [Request.carryOut, Script.run_bind, generateAt, Script.run, h]
  change Script.run (match generate q.options text with
    | .error (.error e) => pure (some (stopped "" e))
    | .error _ => pure none
    | .ok r => some <$> deliver q r) t = _
  cases generate q.options text with
  | ok r => exact Script.run_bind _ _ t
  | error h => cases h <;> rfl

/-- **Whether a session agrees with its report**: what becomes of the tree, and how the session
ends, for a request that starts on the tree. -/
structure AgreesWithReport (q : Request) (t t' : FileTree) (result : Option Outcome) : Prop where
  /-- Without a file that reads nothing changes, and the session says so. -/
  unread : ∀ e, t.readFile q.input = .error e →
    t' = t ∧ result = some (stopped "" (.read q.input.toString e))
  /-- Nor does it without a text that parses. -/
  unparsed : ∀ text e, t.readFile q.input = .ok text → File.ofText text = .error e →
    t' = t ∧ result = some (stopped "" (.parse e))
  /-- The session breaks down where generation does, which also changes nothing; if names are plain,
  there is one reason for it. -/
  halted : ∀ text file, t.readFile q.input = .ok text → File.ofText text = .ok file →
    ∀ h, HaltsOn q.options file h →
      t' = t ∧ result = none ∧ (HasPlainNames file → h = .noLayout)
  /-- Everywhere else the report on the marked traits is delivered. -/
  reported : ∀ text file, t.readFile q.input = .ok text → File.ofText text = .ok file →
    (∀ h, ¬HaltsOn q.options file h) →
      ∃ js e, Judging file.items q.options [] (markedAll [] file.items) js ∧
        generate q.options text = .ok (Report.of js) ∧ result = some e ∧
        Delivers q (Report.of js) t t' e
  /-- The status tells whether the file was read and reported on, without a failure, and the units
  were written, if they were to be. -/
  status : (∃ e, result = some e ∧ e.status = 0) ↔
    ∃ text r, t.readFile q.input = .ok text ∧ generate q.options text = .ok r ∧ r.failures = [] ∧
      (q.dryRun = false → q.Writes r t)

theorem status_stopped (said : String) (e : GenerateError) : (stopped said e).status ≠ 0 :=
  Nat.one_ne_zero

/-- Without a report a session does not end well. -/
theorem status_proceed_iff {result : Except Halt Report} :
    (∃ e, (q.proceed t result).2 = some e ∧ e.status = 0) ↔
      ∃ r, result = .ok r ∧ r.failures = [] ∧ (q.dryRun = false → q.Writes r t) := by
  cases result with
  | ok r =>
    constructor
    · rintro ⟨_, ⟨⟩, hstatus⟩
      exact ⟨r, rfl, status_deliver_eq_zero_iff.mp hstatus⟩
    · rintro ⟨_, ⟨⟩, hgood⟩
      exact ⟨_, rfl, status_deliver_eq_zero_iff.mpr hgood⟩
  | error h =>
    refine iff_of_false ?_ (by rintro ⟨_, ⟨⟩, -⟩)
    cases h with
    | error e =>
      rintro ⟨_, ⟨⟩, hstatus⟩
      exact status_stopped "" e hstatus
    | notAName => rintro ⟨_, ⟨⟩, -⟩
    | noLayout => rintro ⟨_, ⟨⟩, -⟩

/-- Where the file does not read, there is nothing to agree with but the complaint. -/
theorem agreesWithReport_of_unread {e : FileError} (h : t.readFile q.input = .error e) :
    AgreesWithReport q t t (some (stopped "" (.read q.input.toString e))) where
  unread e' he' := by
    obtain rfl := Except.error.inj (h.symm.trans he')
    exact ⟨rfl, rfl⟩
  unparsed text e' htext := by cases h.symm.trans htext
  halted text file htext := by cases h.symm.trans htext
  reported text file htext := by cases h.symm.trans htext
  status := by
    refine iff_of_false ?_ ?_
    · rintro ⟨_, ⟨⟩, hstatus⟩
      exact status_stopped "" _ hstatus
    · rintro ⟨text, r, htext, -⟩
      cases h.symm.trans htext

/-- Where it does, the session agrees with what is generated. -/
theorem agreesWithReport_of_read (h : t.readFile q.input = .ok text) :
    AgreesWithReport q t (q.proceed t (generate q.options text)).1
      (q.proceed t (generate q.options text)).2 where
  unread e he := by cases h.symm.trans he
  unparsed text' e htext he := by
    obtain rfl := Except.ok.inj (h.symm.trans htext)
    have hgenerate : generate q.options text = .error (.error (.parse e)) := by
      unfold generate
      rw [he]
    rw [hgenerate]
    exact ⟨rfl, rfl⟩
  halted text' file htext hfile halt hhalts := by
    obtain rfl := Except.ok.inj (h.symm.trans htext)
    obtain ⟨hgenerate, hbreaks⟩ :=
      generate_eq_breakdown_iff.mpr ⟨file, hfile, hhalts⟩
    rw [hgenerate]
    cases halt with
    | error e => exact hbreaks.elim
    | notAName => exact ⟨rfl, rfl, hhalts.eq_noLayout hfile⟩
    | noLayout => exact ⟨rfl, rfl, hhalts.eq_noLayout hfile⟩
  reported text' file htext hfile hnever := by
    obtain rfl := Except.ok.inj (h.symm.trans htext)
    obtain ⟨r, hgenerate⟩ | ⟨halt, -, hhalts⟩ :=
      generate_eq_ok_or_haltsOn (o := q.options) rfl hfile
    · obtain ⟨file', js, hfile', hrun, hnames, rfl⟩ := exists_judging_of_generate hgenerate
      obtain rfl := Except.ok.inj (hfile.symm.trans hfile')
      rw [hgenerate]
      exact ⟨js, _, hrun, rfl, rfl, delivers hrun hnames q t⟩
    · exact (hnever halt hhalts).elim
  status := by
    rw [status_proceed_iff]
    constructor
    · rintro ⟨r, hr⟩
      exact ⟨text, r, h, hr⟩
    · rintro ⟨text', r, htext, hr⟩
      obtain rfl := Except.ok.inj (h.symm.trans htext)
      exact ⟨r, hr⟩

/-- **A session agrees with its report**, whichever words it follows and whatever stands in the
tree: its status, what it shows and what it leaves behind tell the same. -/
theorem session_agrees {words : List String} {m : Matches} (hread : generator.read words = .ok m)
    (t : FileTree) : AgreesWithReport (Request.ofMatches m) t ((session words).run t).1
      ((session words).run t).2 := by
  rw [session, hread]
  dsimp only
  cases htext : t.readFile (Request.ofMatches m).input with
  | error e =>
    rw [run_carryOut_of_unread htext]
    exact agreesWithReport_of_unread htext
  | ok text =>
    rw [run_carryOut_of_read htext]
    exact agreesWithReport_of_read htext

/-! ## Two sessions -/

/-- The words of a session with a file. -/
def fileWords : List String := ["-i", "a.rs"]

/-- What they ask for. -/
def fileRequest : Request where
  input := ⟨['a', '.', 'r', 's']⟩
  output := .ofString "src/generated"
  modules := []
  dryRun := false

/-- The tree with that file only. -/
def fileTree (text : String) : FileTree := ⟨[([['a', '.', 'r', 's']], .file text)]⟩

/-- Whether words ask for just that. -/
def asksFor (words : List String) (q : Request) : Bool :=
  match generator.read words with
  | .ok m =>
    let p := Request.ofMatches m
    p.input = q.input && p.output = q.output && p.modules = q.modules && p.dryRun = q.dryRun
  | .error _ => false

theorem exists_matches_of_asksFor {words : List String} (h : asksFor words q = true) :
    ∃ m, generator.read words = .ok m ∧ Request.ofMatches m = q := by
  rw [asksFor] at h
  split at h
  next m hread =>
    simp only [Bool.and_eq_true, decide_eq_true_eq] at h
    obtain ⟨⟨⟨hinput, houtput⟩, hmodules⟩, hdry⟩ := h
    refine ⟨m, hread, ?_⟩
    rw [Request.mk.injEq]
    exact ⟨hinput, houtput, hmodules, hdry⟩
  next => cases h

theorem exists_matches_fileWords :
    ∃ m, generator.read fileWords = .ok m ∧ Request.ofMatches m = fileRequest :=
  exists_matches_of_asksFor (by decide +kernel)

theorem readFile_fileTree (text : String) :
    (fileTree text).readFile fileRequest.input = .ok text :=
  rfl

/-- **A session on a failure and a service** agrees with its report. -/
theorem exists_memoSession_agrees : ∃ m r, generator.read fileWords = .ok m ∧
    (fileTree memoSource).readFile (Request.ofMatches m).input = .ok memoSource ∧
    generate (Request.ofMatches m).options memoSource = .ok r ∧
    r.units.length = 3 ∧ r.failures.length = 1 ∧
    AgreesWithReport (Request.ofMatches m) (fileTree memoSource)
      ((session fileWords).run (fileTree memoSource)).1
      ((session fileWords).run (fileTree memoSource)).2 := by
  obtain ⟨m, hread, hq⟩ := exists_matches_fileWords
  obtain ⟨f, g, e, b, -, hgenerate⟩ := exists_memoSource_report
  refine ⟨m, Report.of [⟨f, .error e⟩, ⟨g, .ok b⟩], hread, ?_, ?_, rfl, rfl,
    session_agrees hread (fileTree memoSource)⟩
  · rw [hq, readFile_fileTree]
  · rw [hq]
    exact hgenerate

/-- A text with the service with the memo, and one with a method that has a visibility. -/
def haltingSource : String :=
  "#[rest_client]\ntrait A \x7b\n    const NOTE: Text = \x22a\n \nb\x22;\n\x7d\n\n" ++
    "#[rest_client]\ntrait B \x7b\n    pub fn f(&self);\n\x7d\n"

/-- Whether tokens form a file with a phrase that cannot be laid out. -/
def lacksLayout (ts : List Token) : Bool :=
  match File.ofTokens ts with
  | .ok f => Node.anyVerbatim f.toNodes
  | .error _ => false

theorem lacksLayout_iff {ts : List Token} : lacksLayout ts = true ↔ LacksLayout ts := by
  rw [lacksLayout, LacksLayout]
  cases File.ofTokens ts with
  | ok f => simp
  | error e => simp

/-- Whether a file has the trait with the memo, and then one that cannot be laid out. -/
def isHaltingFile (file : File) : Bool :=
  match markedAll [] file.items with
  | [⟨[], decl, .ok ⟨name, .inherited, none, [], []⟩⟩, ⟨[], decl', .ok s⟩] =>
    (Service.imports file.items).isEmpty && name = memoService.name &&
      (serviceTrait { decl with visibility := widened decl.visibility }).toNode.tokens =
        (serviceTrait { memoTrait with visibility := widened .inherited }).toNode.tokens &&
      !decl.name.raw && !decl'.name.raw && !s.name.raw &&
      Service.unitStem [] s.name != memoStem &&
      lacksLayout
        (serviceTrait { decl' with visibility := widened decl'.visibility }).toNode.tokens
  | _ => false

theorem someLacksLayout_clientItems {decl : TraitDecl} {s : Service} {client : Token.Ident}
    {uses : List Node} (huses : uses = [])
    (h : LacksLayout
      (serviceTrait { decl with visibility := widened decl.visibility }).toNode.tokens) :
    SomeLacksLayout (clientItems decl s client uses) := by
  rw [huses]
  exact ⟨[], _, _, rfl, List.forall_mem_nil _, h⟩

theorem haltingSource_computed : (match File.ofText haltingSource with
    | .ok file => isHaltingFile file
    | .error _ => false) = true := by
  decide +kernel

/-- **In such a file** the first service is built, and the second one stops generation. -/
theorem exists_haltsOn_of_isHaltingFile {file : File} (h : isHaltingFile file = true) :
    HasPlainNames file ∧ HaltsOn .default file .noLayout ∧
      ∃ f g b, markedAll [] file.items = [f, g] ∧
        Judging file.items .default [] [f] [⟨f, .ok b⟩] := by
  rw [isHaltingFile] at h
  split at h
  next decl name decl' s hall =>
    simp only [Bool.and_eq_true, decide_eq_true_eq, List.isEmpty_iff, Bool.not_eq_true', bne_iff_ne,
      lacksLayout_iff] at h
    obtain ⟨⟨⟨⟨⟨⟨⟨himports, rfl⟩, htokens⟩, hplain⟩, hplain'⟩, hname⟩, hstem⟩, hlacks⟩ := h
    have huses : Service.importsInScope file.items [] = [] := himports
    obtain ⟨b, hb, hunits⟩ := exists_serviceUnits_memo (f := ⟨[], decl, .ok memoService⟩) rfl huses
      (clientPieces_congr htokens)
    have hrun : Judging file.items .default [] [⟨[], decl, .ok memoService⟩]
        [⟨⟨[], decl, .ok memoService⟩, .ok b⟩] :=
      .cons (.built rfl rfl List.not_mem_nil hb hunits) (.nil _)
    refine ⟨?_, ?_, _, _, b, hall, hrun⟩
    · intro f hf i hi
      rw [hall] at hf
      obtain rfl | hf := List.mem_cons.mp hf
      · rw [List.mem_singleton.mp hi, hplain]
      · obtain rfl := List.mem_singleton.mp hf
        rw [List.mem_singleton.mp hi, hplain']
    · have hsplit : markedAll [] file.items =
          [⟨[], decl, .ok memoService⟩] ++ ⟨[], decl', .ok s⟩ :: [] := hall
      have hclient : Service.clientName? s.name = some (.plain (Service.clientText s.name)) :=
        if_neg (Bool.eq_false_iff.mp hname)
      have hfree : Service.unitStem [] s.name ∉ stemsOf [⟨⟨[], decl, .ok memoService⟩, .ok b⟩] := by
        rw [stemsOf_singleton_ok, List.mem_singleton, hb]
        exact hstem
      refine .atTrait hsplit (Signal.never_isDown _ _) hrun (.noLayout rfl hclient hfree (.client ?_))
      exact someLacksLayout_clientItems himports hlacks
  next => cases h

/-- **A session that breaks down**: its file has been read, names are plain, and the first service
has been built; yet it says nothing, and there is not even a directory of units. -/
theorem exists_session_without_report : ∃ m t text file f g b,
    generator.read fileWords = .ok m ∧ t.readFile (Request.ofMatches m).input = .ok text ∧
    File.ofText text = .ok file ∧ HasPlainNames file ∧ markedAll [] file.items = [f, g] ∧
    Judging file.items (Request.ofMatches m).options [] [f] [⟨f, .ok b⟩] ∧
    t.isDirectory (Request.ofMatches m).output = false ∧
    (session fileWords).run t = (t, none) := by
  obtain ⟨m, hread, hq⟩ := exists_matches_fileWords
  have hcomputed := haltingSource_computed
  split at hcomputed
  next file hfile =>
    obtain ⟨hplain, hhalts, f, g, b, hall, hrun⟩ := exists_haltsOn_of_isHaltingFile hcomputed
    have hgenerate := (generate_eq_breakdown_iff.mpr ⟨file, hfile, hhalts⟩).1
    refine ⟨m, fileTree haltingSource, haltingSource, file, f, g, b, hread, ?_, hfile, hplain, hall,
      ?_, ?_, ?_⟩
    · rw [hq, readFile_fileTree]
    · rw [hq]
      exact hrun
    · rw [hq]
      rfl
    · rw [session, hread]
      dsimp only
      rw [hq, run_carryOut_of_read (readFile_fileTree haltingSource),
        show fileRequest.options = .default from rfl, hgenerate]
      rfl
  next => cases hcomputed

end RestLoom.CommandLine
