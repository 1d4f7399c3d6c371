import RestLoom.Emit.Units
import RestLoom.FileTree.Script

/-!
# Emit/Writing — putting units on disk

    a.rs: make out/ · write out/a.tmp · rename it to out/a.rs

A file is written whole under another name and then renamed, so that nobody sees a part of it.
Units are written one after the other; the first failure ends the writing.
-/

namespace RestLoom.Emit

open RestLoom.FileTree

/-- The extension of the name under which a file is written before it gets its own. -/
def temporaryExtension : List Char := ['t', 'm', 'p']

/-- The changes that write a file as a whole. -/
def writeSteps (target : Location) (text : String) : List Change :=
  let around := match target.parent? with
    | some l => if l.text = [] then [] else [Change.makeDirectories l]
    | none => []
  let temporary := target.withExtension temporaryExtension
  around ++ [.writeFile temporary text, .rename temporary target]

/-- Makes changes in order, up to the first one that fails. -/
def makeChanges : List Change → Script (Except GenerateError Unit)
  | [] => .done (.ok ())
  | c :: cs => .change c fun
    | none => makeChanges cs
    | some e => .done (.error (.write c.location.toString e))

/-- Writes a file as a whole. -/
def writeAtomic (target : Location) (text : String) : Script (Except GenerateError Unit) :=
  makeChanges (writeSteps target text)

/-- The location of a unit's file. -/
def unitLocation (dir : Location) (u : SourceUnit) : Location :=
  dir.inside (.ofString u.fileName)

/-- Writes units into a directory in order; the result is where they are. -/
def writeEach (dir : Location) : List SourceUnit → Script (Except GenerateError (List Location))
  | [] => .done (.ok [])
  | u :: us => do
    match ← writeAtomic (unitLocation dir u) u.contents with
    | .error e => pure (.error e)
    | .ok () =>
      let rest ← writeEach dir us
      pure (rest.map fun ls => unitLocation dir u :: ls)

/-- Whether the directory around a location is there. -/
def parentIsThere (dir : Location) : Script Bool :=
  match dir.parent? with
  | none => .done true
  | some l => if l.text = [] then .done true else .isDirectory l .done

/-- Writes units into a directory, which is made if the one around it is there. -/
def writeUnits (units : List SourceUnit) (dir : Location) :
    Script (Except GenerateError (List Location)) := do
  if ← .isDirectory dir .done then writeEach dir units
  else if ← parentIsThere dir then writeEach dir units
  else pure (.error (.outputDirNotFound dir.toString))

/-- Generates from the text of a file. -/
def generateAt (o : Options) (l : Location) : Script (Except Halt Report) :=
  .readFile l fun
    | .error e => .done (.error (.error (.read l.toString e)))
    | .ok text => .done (generate o text)

end RestLoom.Emit
