import RestLoom.CommandLine.Messages
import RestLoom.Emit.Writing

/-!
# CommandLine/Session — the generator as a command

    -i defs.rs -o generated  ──▸  a script, and what is said

A session reads its words, generates from the input file, and prints the units or writes them.  What
it says and the status it ends with are a value; what it does to files is a script.
-/

namespace RestLoom.CommandLine

open RestLoom.FileTree
open RestLoom.Emit

/-- The generator's command. -/
def generator : Command :=
  { name := "refit-gen"
    about := "refit code generator - turns annotated service traits into REST clients"
    version := "0.1.0"
    specs := [
      { long := "input", short := some 'i', action := .set, valueName := "INPUT"
        required := true, default := none, refusesEmpty := true
        about := "Rust source file containing \x60#[rest_client]\x60 traits" },
      { long := "output", short := some 'o', action := .set, valueName := "OUTPUT"
        required := false, default := some "src/generated", refusesEmpty := true
        about := "Output directory for generated units" },
      { long := "module", short := some 'm', action := .append, valueName := "MODULES"
        required := false, default := none, refusesEmpty := false
        about := "Module path glob-imported into each unit (repeatable)" },
      { long := "dry-run", short := none, action := .flag, valueName := ""
        required := false, default := none, refusesEmpty := false
        about := "Print generated code without writing files" },
      { long := "verbose", short := some 'v', action := .count, valueName := ""
        required := false, default := none, refusesEmpty := false
        about := "Increase verbosity (-v, -vv, -vvv)" },
      { long := "help", short := some 'h', action := .help, valueName := ""
        required := false, default := none, refusesEmpty := false
        about := "Print help" },
      { long := "version", short := some 'V', action := .version, valueName := ""
        required := false, default := none, refusesEmpty := false
        about := "Print version" }] }

/-- What a session is asked to do. -/
structure Request where
  input : Location
  output : Location
  modules : List String
  dryRun : Bool

/-- The request that the options make. -/
def Request.ofMatches (m : Matches) : Request :=
  let location (long : String) : Location := .ofString ((generator.value? m long).getD "")
  { input := location "input"
    output := location "output"
    modules := m.values "module"
    dryRun := m.has "dry-run" }

/-- What a session says, and how it ends. -/
structure Outcome where
  status : Nat
  output : String
  complaints : String

/-- The status of a session in which something failed. -/
def failed : Nat := 1

/-- The status of a session whose words could not be followed. -/
def misused : Nat := 2

/-- A text as a line. -/
def asLine (s : String) : String := s ++ "\n"

/-- A unit as it is printed. -/
def printed (u : SourceUnit) : String :=
  "=== " ++ u.fileName ++ " ===\n" ++ u.contents ++ "\n\n"

/-- The failures of a report. -/
def failureLines (r : Report) : String :=
  String.join (r.failures.map fun e => asLine ("✗ " ++ e.message))

/-- The last line of a session. -/
def summaryLine (input : Location) (r : Report) : String :=
  if r.services.isEmpty && r.failures.isEmpty then
    asLine ("No #[rest_client] traits found in " ++ input.toString)
  else
    asLine ("Generated " ++ toString r.services.length ++ " service(s), " ++
      toString r.failures.length ++ " failed")

/-- How a session ends that has a report. -/
def statusOf (r : Report) : Nat := if r.isSuccess then 0 else failed

/-- The end of a session by an error, after what was said before. -/
def stopped (said : String) (e : GenerateError) : Outcome :=
  ⟨failed, "", said ++ asLine ("error: " ++ e.message)⟩

/-- Prints or writes the units of a report. -/
def deliver (q : Request) (r : Report) : Script Outcome :=
  if q.dryRun then
    .done ⟨statusOf r, String.join (r.units.map printed), failureLines r ++ summaryLine q.input r⟩
  else do
    match ← writeUnits r.units q.output with
    | .error e => pure (stopped (failureLines r) e)
    | .ok written =>
      let lines := String.join (written.map fun l => asLine ("✓ " ++ l.toString))
      pure ⟨statusOf r, "", failureLines r ++ lines ++ summaryLine q.input r⟩

/-- Does what a request asks for; `none` if a name could not be made or a phrase has no layout. -/
def Request.carryOut (q : Request) : Script (Option Outcome) := do
  match ← generateAt ⟨q.modules, .never⟩ q.input with
  | .error (.error e) => pure (some (stopped "" e))
  | .error _ => pure none
  | .ok r => some <$> deliver q r

/-- **A session** with the given words. -/
def session (words : List String) : Script (Option Outcome) :=
  match generator.read words with
  | .error .help => .done (some ⟨0, generator.help, ""⟩)
  | .error .version => .done (some ⟨0, generator.versionText, ""⟩)
  | .error (.error e) => .done (some ⟨misused, "", generator.complaint e⟩)
  | .ok m => (Request.ofMatches m).carryOut

end RestLoom.CommandLine
