/-!
# Text/Lines — blanks, trimming and lines

    "a\r\n \nb" ──lines──▸ ["a", " ", "b"]

A line ends at a line feed, together with a carriage return right before it; the last line needs no
end.  `lines_eq_nil_iff` says that only the empty text has no line at all.
-/

namespace RestLoom.Text

/-- The characters with the Unicode property White_Space. -/
def isBlank (c : Char) : Bool :=
  let n := c.toNat
  (0x9 ≤ n && n ≤ 0xd) || n == 0x20 || n == 0x85 || n == 0xa0 || n == 0x1680 ||
    (0x2000 ≤ n && n ≤ 0x200a) || n == 0x2028 || n == 0x2029 || n == 0x202f || n == 0x205f ||
    n == 0x3000

/-- Drops the characters at the end that satisfy `p`. -/
def dropEndWhile (p : Char → Bool) (cs : List Char) : List Char :=
  (cs.reverse.dropWhile p).reverse

/-- Drops the blanks at both ends. -/
def trim (cs : List Char) : List Char :=
  dropEndWhile isBlank (cs.dropWhile isBlank)

/-- The lines of a text, without their ends. -/
def lines : List Char → List (List Char)
  | [] => []
  | '\n' :: cs => [] :: lines cs
  | '\r' :: '\n' :: cs => [] :: lines cs
  | c :: cs =>
    match lines cs with
    | [] => [[c]]
    | l :: ls => (c :: l) :: ls

theorem lines_eq_nil_iff {cs : List Char} : lines cs = [] ↔ cs = [] := by
  constructor
  · intro h
    match cs, h with
    | [], _ => rfl
    | c :: cs, h =>
      exfalso
      unfold lines at h
      split at h <;> simp_all
      split at h <;> simp_all
  · rintro rfl
    rfl

/-- Whether nothing but blanks is in the text. -/
def allBlank (cs : List Char) : Bool := cs.all isBlank

/-- Whether a text starts with another one. -/
def startsWith (cs start : List Char) : Bool := start.isPrefixOf cs

/-- What follows `start` in a text that begins with it. -/
def dropStart? (start : List Char) (cs : List Char) : Option (List Char) :=
  match start, cs with
  | [], cs => some cs
  | _ :: _, [] => none
  | s :: start, c :: cs => if s = c then dropStart? start cs else none

/-- Splits a text at the first place where `p` holds; the character found stays with the rest. -/
def breakAt (p : Char → Bool) (cs : List Char) : List Char × List Char :=
  (cs.takeWhile (!p ·), cs.dropWhile (!p ·))

/-- The parts of a text between the characters that satisfy `p`. -/
def splitAt (p : Char → Bool) : List Char → List (List Char)
  | [] => [[]]
  | c :: cs =>
    if p c then [] :: splitAt p cs
    else match splitAt p cs with
      | [] => [[c]]
      | l :: ls => (c :: l) :: ls

/-- Joins texts with a separator between neighbours. -/
def join (sep : List Char) : List (List Char) → List Char
  | [] => []
  | [l] => l
  | l :: ls => l ++ sep ++ join sep ls

end RestLoom.Text
