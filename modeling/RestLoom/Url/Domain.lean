import RestLoom.Url.Basic
import RestLoom.Url.Punycode
import RestLoom.Url.Variant
import RestLoom.Text.Composition
import RestLoom.Text.Direction
import RestLoom.Text.Joining
import RestLoom.Text.Visible
import RestLoom.Text.Lines

/-!
# Url/Domain — names of hosts in ASCII

    BÜCHER.example  ──domainToAscii──▸  xn--bcher-kva.example

A name is folded, so that names that look alike are the same, and cut into labels at full stops.  A
label with characters beyond ASCII is written in Punycode after `xn--`; one that already begins so
has to be the code of such a label.  Characters that a URL gives a meaning to are refused, and so
are labels that would be shown as something else than what they are.
-/

namespace RestLoom.Url

open RestLoom.Text

/-! ## Characters -/

/-- The characters that have a meaning in a URL or do not show, and so cannot stand in a name. -/
def deniedInDomain (c : Char) : Bool :=
  c.toNat ≤ 0x20 || c.toNat = 0x7f || "%#/:<>?@[\\]^|".toList.contains c

/-- Whether a character is in ASCII. -/
def isAscii (c : Char) : Bool := c.toNat < 0x80

/-- Whether a character may stand in a folded name. -/
def allowedInDomain (c : Char) : Bool :=
  isAscii c || isNonJoiner c || isJoiner c ||
    (0xa0 ≤ c.toNat && foldForDomain c == [c] && !CodeRange.mem hiddenRanges c &&
      !CodeRange.mem refusedRanges c)

/-! ## Labels -/

/-- What a label begins with whose rest is a code. -/
def codeMark : List Char := "xn--".toList

/-- How long a label may be that is written as a code, and how long a code may be. -/
def labelLimit : Nat := 1000

/-- The label that a code stands for: a code of nothing beyond ASCII is none, and no label has two
codes. -/
def labelOfCode? (code : List Char) : Option (List Char) :=
  if !code.all isAscii || 2 * labelLimit < code.length then none
  else match Punycode.decode? code with
    | none => none
    | some label =>
      if label.all isAscii || Punycode.encode label != code then none else some label

/-- A label with the characters that it shows. -/
def shownLabel? (label : List Char) : Option (List Char) :=
  match dropStart? codeMark label with
  | some code => labelOfCode? code
  | none => some label

/-- Whether a label with characters beyond ASCII shows what it is. -/
def isFitLabel (label : List Char) : Bool :=
  label.all allowedInDomain && isNormal label && !label.head?.any isMark && joinersFit [] label &&
    label.length ≤ labelLimit

/-- A label in ASCII. -/
def labelToAscii (label : List Char) : List Char :=
  if label.all isAscii then label else codeMark ++ Punycode.encode label

/-! ## Names -/

/-- Whether the labels of a name run the same way: where one has characters from the right, each has
to be shown as it is written. -/
def labelsFit (labels : List (List Char)) : Bool :=
  !labels.any Direction.runsRight || labels.all Direction.fits

/-- The labels of a name with the characters that they show. -/
def labelsOf? (name : List Char) : Option (List (List Char)) :=
  (splitAt (· == '.') (normalForm (name.flatMap foldForDomain))).mapM shownLabel?

/-- **The name in ASCII.** -/
def domainToAscii (name : List Char) : Except ParseError (List Char) :=
  match labelsOf? name with
  | none => .error .invalidDomain
  | some labels =>
    if labels.any (·.any deniedInDomain) || labels.any (fun l => !l.all isAscii && !isFitLabel l) ||
      !labelsFit labels
    then .error .invalidDomain
    else .ok (join ['.'] (labels.map labelToAscii))

end RestLoom.Url
