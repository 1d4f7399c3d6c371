import RestLoom.FileTree.Basic

/-!
# FileTree/Script — programs that work on files

    script ──answers──▸ value

A script reads files, looks for directories and changes files, one step after the other, and may go
on differently for each answer.  It is data: `run` carries it out on a tree, and a program that has
real files carries it out on those.
-/

namespace RestLoom

namespace FileTree

/-- One change of files. -/
inductive Change where
  /-- Makes a directory and the ones around it. -/
  | makeDirectories (l : Location)
  /-- Writes a whole file. -/
  | writeFile (l : Location) (text : String)
  /-- Moves a file, in the stead of another one. -/
  | rename (source target : Location)

/-- What a change is called by when it fails. -/
def Change.location : Change → Location
  | makeDirectories l => l
  | writeFile l _ => l
  | rename _ target => target

/-- The outcome of a change that leaves the tree as it was if it fails. -/
def settle (t : FileTree) : Except FileError FileTree → FileTree × Option FileError
  | .ok t' => (t', none)
  | .error e => (t, some e)

/-- The tree after a change, and the error if it failed. -/
def apply (t : FileTree) : Change → FileTree × Option FileError
  | .makeDirectories l => t.makeDirectories l
  | .writeFile l text => settle t (t.writeFile l text)
  | .rename a b => settle t (t.rename a b)

/-- A program that works on files and gives a value. -/
inductive Script (α : Type) where
  | done (a : α)
  | readFile (l : Location) (next : Except FileError String → Script α)
  | isDirectory (l : Location) (next : Bool → Script α)
  | change (c : Change) (next : Option FileError → Script α)

namespace Script

/-- Goes on with a value. -/
def bind {α β : Type} : Script α → (α → Script β) → Script β
  | done a, f => f a
  | readFile l next, f => .readFile l fun r => (next r).bind f
  | isDirectory l next, f => .isDirectory l fun r => (next r).bind f
  | change c next, f => .change c fun r => (next r).bind f

instance : Monad Script where
  pure := done
  bind := bind

/-- Carries a script out on a tree. -/
def run {α : Type} : Script α → FileTree → FileTree × α
  | done a, t => (t, a)
  | readFile l next, t => (next (t.readFile l)).run t
  | isDirectory l next, t => (next (t.isDirectory l)).run t
  | change c next, t => (next (t.apply c).2).run (t.apply c).1

end Script

end FileTree

end RestLoom
