import RestLoom.CommandLine.Session

/-!
# Main — sessions on real files

A script is carried out step by step on the files of the system, whose errors become those of a file
tree.
-/

namespace RestLoom.Main

open RestLoom.FileTree

/-- The system's error as one of a file tree. -/
def fileErrorOf (e : IO.Error) : FileError :=
  let coded (code : UInt32) (details : String) : FileError :=
    .other (details ++ " (os error " ++ toString code ++ ")")
  match e with
  | .noFileOrDirectory .. => .notFound
  | .alreadyExists (some _) _ _ => .alreadyExists
  | .alreadyExists none _ _ => .alreadyExists
  | .userError _ => .notText
  | .inappropriateType _ code details => coded code details
  | .permissionDenied _ code details => coded code details
  | .resourceBusy code details => coded code details
  | .resourceExhausted _ code details => coded code details
  | .invalidArgument _ code details => coded code details
  | .unsatisfiedConstraints code details => coded code details
  | .otherError code details => coded code details
  | other => .other (toString other)

/-- Runs an action, keeping its error. -/
def attempting {α : Type} (action : IO α) : IO (Except FileError α) := do
  match ← action.toBaseIO with
  | .ok a => return .ok a
  | .error e => return .error (fileErrorOf e)

/-- Makes a change of real files. -/
def changeFiles : Change → IO Unit
  | .makeDirectories l => IO.FS.createDirAll l.toString
  | .writeFile l text => IO.FS.writeFile l.toString text
  | .rename source target => IO.FS.rename source.toString target.toString

/-- Whether a real directory is at a location. -/
def isRealDirectory (l : Location) : IO Bool := do
  match ← (IO.FS.realPath l.toString).toBaseIO with
  | .ok path => path.isDir
  | .error _ => return false

/-- Carries a script out on real files. -/
def perform {α : Type} : Script α → IO α
  | .done a => return a
  | .readFile l next => do perform (next (← attempting (IO.FS.readFile l.toString)))
  | .isDirectory l next => do perform (next (← isRealDirectory l))
  | .change c next => do
    match ← attempting (changeFiles c) with
    | .ok () => perform (next none)
    | .error e => perform (next (some e))

/-- The status of a session that ended early because a name could not be made. -/
def broken : UInt32 := 101

end RestLoom.Main

open RestLoom.Main

/-- The generator. -/
def main (words : List String) : IO UInt32 := do
  match ← perform (RestLoom.CommandLine.session words) with
  | none =>
    IO.eprintln "a name could not be made"
    return broken
  | some o =>
    IO.print o.output
    IO.eprint o.complaints
    return o.status.toUInt32
