import RestLoom.Text.Lines

/-!
# Text/Run — tables that give texts to characters

    ⟨0xfb00, "ff fi fl"⟩  ──▸  U+FB00 ↦ ff, U+FB01 ↦ fi, U+FB02 ↦ fl

A table gives texts to some characters.  It is a list of runs in increasing order; a run gives one
text each to consecutive characters.
-/

namespace RestLoom.Text

/-- The texts of consecutive characters, with blanks between them. -/
structure Run where
  first : Nat
  texts : String

namespace Run

/-- The texts of a run in order. -/
def split (r : Run) : List (List Char) := splitAt (· == ' ') r.texts.toList

/-- The text that a table gives to a character. -/
def find? (runs : List Run) (c : Char) : Option (List Char) :=
  match (runs.takeWhile fun r => r.first ≤ c.toNat).getLast? with
  | some r => r.split[c.toNat - r.first]?
  | none => none

/-- The first character to which a table gives a text. -/
def search? (runs : List Run) (text : List Char) : Option Char :=
  runs.findSome? fun r => (r.split.idxOf? text).map fun i => Char.ofNat (r.first + i)

end Run

end RestLoom.Text
