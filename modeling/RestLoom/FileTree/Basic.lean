import RestLoom.FileTree.Location
import RestLoom.Text.Utf8

/-!
# FileTree/Basic — a tree of files as a value

    makeDirectory · writeFile · rename · readFile

A tree maps the names that lead to a file or a directory to it; its top is a directory.  Every
operation names what it works on by a location, which it follows component by component, and
either fails with the system's error or gives the tree afterwards.
-/

namespace RestLoom

open RestLoom.Text

namespace FileTree

/-- What the system says when an operation on files fails. -/
inductive FileError where
  | notFound
  | busy
  | alreadyExists
  | notDirectory
  | isDirectory
  | nameTooLong
  | zeroCharacter
  /-- The bytes of a file are no text. -/
  | notText
  /-- Anything else that a system may say. -/
  | other (message : String)
  deriving DecidableEq

/-- The system's wording. -/
def FileError.message : FileError → String
  | notFound => "No such file or directory (os error 2)"
  | busy => "Device or resource busy (os error 16)"
  | alreadyExists => "File exists (os error 17)"
  | notDirectory => "Not a directory (os error 20)"
  | isDirectory => "Is a directory (os error 21)"
  | nameTooLong => "File name too long (os error 36)"
  | zeroCharacter => "file name contained an unexpected NUL byte"
  | notText => "stream did not contain valid UTF-8"
  | other message => message

/-- The names that lead from the top to a place. -/
abbrev Place := List (List Char)

/-- What stands at a place. -/
inductive Entry where
  | file (text : String)
  | directory
  deriving DecidableEq

end FileTree

/-- A tree of files: what stands at each place, the latest entry first.  The top is not listed. -/
structure FileTree where
  entries : List (FileTree.Place × FileTree.Entry)

namespace FileTree

/-- The tree without files. -/
def empty : FileTree := ⟨[]⟩

/-- What stands at a place. -/
def get? (t : FileTree) (p : Place) : Option Entry :=
  if p = [] then some .directory else t.entries.lookup p

/-- The tree with nothing at a place. -/
def erase (t : FileTree) (p : Place) : FileTree := ⟨t.entries.filter fun e => e.1 ≠ p⟩

/-- The tree with an entry at a place. -/
def insert (t : FileTree) (p : Place) (e : Entry) : FileTree := ⟨(p, e) :: (t.erase p).entries⟩

/-! ## Following a location -/

/-- The last component of a location, and whether a slash follows it. -/
inductive Last where
  | name (n : List Char) (slash : Bool)
  /-- Dots, or the root itself. -/
  | dots

/-- Follows components from a place; all of them have to be directories. -/
def walk (t : FileTree) (p : Place) : List (List Char) → Except FileError Place
  | [] => .ok p
  | c :: cs =>
    if c = [] ∨ c = ['.'] then walk t p cs
    else if c = ['.', '.'] then walk t p.dropLast cs
    else if 255 < (utf8 c).length then .error .nameTooLong
    else match t.get? (p ++ [c]) with
      | some .directory => walk t (p ++ [c]) cs
      | some (.file _) => .error .notDirectory
      | none => .error .notFound

/-- The components of a location before the last one, and the last one. -/
def components (l : Location) : List (List Char) × Last :=
  match l.partsReversed.dropWhile (· == []) with
  | [] => ([], .dots)
  | p :: ps =>
    if p = ['.'] ∨ p = ['.', '.'] then ((p :: ps).reverse, .dots)
    else (ps.reverse, .name p (l.partsReversed.head? == some []))

/-- The directory that holds what a location names, and the last component. -/
def locate (t : FileTree) (l : Location) : Except FileError (Place × Last) :=
  if l.text = [] then .error .notFound
  else if l.text.contains '\x00' then .error .zeroCharacter
  else do
    let (before, last) := components l
    let p ← t.walk [] before
    match last with
    | .name n _ =>
      if 255 < (utf8 n).length then .error .nameTooLong else .ok (p, last)
    | .dots => .ok (p, last)

/-- Whether a location names a directory. -/
def isDirectory (t : FileTree) (l : Location) : Bool :=
  match t.locate l with
  | .ok (p, .name n _) => t.get? (p ++ [n]) == some .directory
  | .ok (_, .dots) => true
  | .error _ => false

/-! ## Operations -/

/-- Reads a file. -/
def readFile (t : FileTree) (l : Location) : Except FileError String := do
  match ← t.locate l with
  | (p, .name n slash) =>
    match t.get? (p ++ [n]) with
    | some (.file text) => if slash then .error .notDirectory else .ok text
    | some .directory => .error .isDirectory
    | none => .error .notFound
  | (_, .dots) => .error .isDirectory

/-- Makes a directory inside one that is there. -/
def makeDirectory (t : FileTree) (l : Location) : Except FileError FileTree := do
  match ← t.locate l with
  | (p, .name n _) =>
    match t.get? (p ++ [n]) with
    | some _ => .error .alreadyExists
    | none => .ok (t.insert (p ++ [n]) .directory)
  | (_, .dots) => .error .alreadyExists

/-- Writes a whole file, which need not be there before. -/
def writeFile (t : FileTree) (l : Location) (text : String) : Except FileError FileTree := do
  match ← t.locate l with
  | (p, .name n slash) =>
    match t.get? (p ++ [n]) with
    | some .directory => .error .isDirectory
    | some (.file _) =>
      if slash then .error .notDirectory else .ok (t.insert (p ++ [n]) (.file text))
    | none => if slash then .error .isDirectory else .ok (t.insert (p ++ [n]) (.file text))
  | (_, .dots) => .error .isDirectory

/-- Moves a file to another place, in the stead of a file that may be there. -/
def rename (t : FileTree) (source target : Location) : Except FileError FileTree := do
  match ← t.locate source, ← t.locate target with
  | (p, .name n _), (q, .name m slash) =>
    match t.get? (p ++ [n]), t.get? (q ++ [m]) with
    | none, _ => .error .notFound
    | some .directory, _ => .error .isDirectory
    | some (.file text), there =>
      if slash then .error .notDirectory
      else if there = some .directory then .error .isDirectory
      else .ok ((t.erase (p ++ [n])).insert (q ++ [m]) (.file text))
  | _, _ => .error .busy

/-- Makes a directory together with the ones around it, with a bound on their number.  A directory
that is there already is as good as a new one; what was made stays if a later one cannot be. -/
def makeDirectoriesUpTo : Nat → FileTree → Location → FileTree × Option FileError
  | 0, t, _ => (t, some .notFound)
  | n + 1, t, l =>
    let attempt (t : FileTree) : FileTree × Option FileError :=
      match t.makeDirectory l with
      | .ok t' => (t', none)
      | .error e => (t, if t.isDirectory l then none else some e)
    if l.text = [] then (t, none)
    else match t.makeDirectory l, l.parent? with
      | .error .notFound, some around =>
        match makeDirectoriesUpTo n t around with
        | (t, none) => attempt t
        | failed => failed
      | _, _ => attempt t

/-- Makes a directory together with the ones around it. -/
def makeDirectories (t : FileTree) (l : Location) : FileTree × Option FileError :=
  makeDirectoriesUpTo (l.text.length + 1) t l

end FileTree

end RestLoom
