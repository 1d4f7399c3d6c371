import RestLoom.Text.Mark

/-!
# Text/Joining — letters that are written together

A character may keep two letters from joining, or make them join.  It has a meaning only between
letters that would join, or after a mark that makes its letter join the next one.
-/

namespace RestLoom.Text

/-- Letters that join the next one. -/
def joinsNextRanges : List CodeRange := [
  ⟨0x620, 0x620, 1⟩, ⟨0x626, 0x626, 1⟩, ⟨0x628, 0x628, 1⟩, ⟨0x62a, 0x62e, 1⟩, ⟨0x633, 0x63f, 1⟩,
  ⟨0x641, 0x647, 1⟩, ⟨0x649, 0x64a, 1⟩, ⟨0x66e, 0x66f, 1⟩, ⟨0x679, 0x687, 1⟩, ⟨0x69a, 0x6bf, 1⟩,
  ⟨0x6c1, 0x6c2, 1⟩, ⟨0x6cc, 0x6cc, 1⟩, ⟨0x6ce, 0x6ce, 1⟩, ⟨0x6d0, 0x6d1, 1⟩, ⟨0x6fa, 0x6fc, 1⟩,
  ⟨0x6ff, 0x6ff, 1⟩, ⟨0x712, 0x714, 1⟩, ⟨0x71a, 0x71d, 1⟩, ⟨0x71f, 0x727, 1⟩, ⟨0x729, 0x729, 1⟩,
  ⟨0x72b, 0x72b, 1⟩, ⟨0x72d, 0x72e, 1⟩, ⟨0x74e, 0x758, 1⟩, ⟨0x75c, 0x76a, 1⟩, ⟨0x76d, 0x770, 1⟩,
  ⟨0x772, 0x772, 1⟩, ⟨0x775, 0x777, 1⟩, ⟨0x77a, 0x77f, 1⟩, ⟨0x7ca, 0x7ea, 1⟩, ⟨0x841, 0x845, 1⟩,
  ⟨0x848, 0x848, 1⟩, ⟨0x84a, 0x853, 1⟩, ⟨0x855, 0x855, 1⟩, ⟨0x860, 0x860, 1⟩, ⟨0x862, 0x865, 1⟩,
  ⟨0x868, 0x868, 1⟩, ⟨0x886, 0x886, 1⟩, ⟨0x889, 0x88d, 1⟩, ⟨0x8a0, 0x8a9, 1⟩, ⟨0x8af, 0x8b0, 1⟩,
  ⟨0x8b3, 0x8b8, 1⟩, ⟨0x8ba, 0x8c8, 1⟩, ⟨0x1807, 0x1807, 1⟩, ⟨0x1820, 0x1878, 1⟩,
  ⟨0x1887, 0x18aa, 1⟩, ⟨0xa840, 0xa872, 1⟩, ⟨0x10ac0, 0x10ac4, 1⟩, ⟨0x10acd, 0x10acd, 1⟩,
  ⟨0x10ad3, 0x10adc, 1⟩, ⟨0x10ade, 0x10ae0, 1⟩, ⟨0x10aeb, 0x10aee, 1⟩, ⟨0x10b80, 0x10b80, 1⟩,
  ⟨0x10b82, 0x10b82, 1⟩, ⟨0x10b86, 0x10b88, 1⟩, ⟨0x10b8a, 0x10b8b, 1⟩, ⟨0x10b8d, 0x10b8d, 1⟩,
  ⟨0x10b90, 0x10b90, 1⟩, ⟨0x10bad, 0x10bae, 1⟩, ⟨0x10d00, 0x10d21, 1⟩, ⟨0x10d23, 0x10d23, 1⟩,
  ⟨0x10f30, 0x10f32, 1⟩, ⟨0x10f34, 0x10f44, 1⟩, ⟨0x10f51, 0x10f53, 1⟩, ⟨0x10f70, 0x10f73, 1⟩,
  ⟨0x10f76, 0x10f81, 1⟩, ⟨0x10fb0, 0x10fb0, 1⟩, ⟨0x10fb2, 0x10fb3, 1⟩, ⟨0x10fb8, 0x10fb8, 1⟩,
  ⟨0x10fbb, 0x10fbc, 1⟩, ⟨0x10fbe, 0x10fbf, 1⟩, ⟨0x10fc1, 0x10fc1, 1⟩, ⟨0x10fc4, 0x10fc4, 1⟩,
  ⟨0x10fca, 0x10fcb, 1⟩, ⟨0x1e922, 0x1e943, 1⟩]

/-- Letters that join the one before. -/
def joinsBeforeRanges : List CodeRange := [
  ⟨0x620, 0x620, 1⟩, ⟨0x622, 0x63f, 1⟩, ⟨0x641, 0x64a, 1⟩, ⟨0x66e, 0x673, 1⟩, ⟨0x679, 0x6d3, 1⟩,
  ⟨0x6d5, 0x6d5, 1⟩, ⟨0x6ee, 0x6ef, 1⟩, ⟨0x6fa, 0x6fc, 1⟩, ⟨0x6ff, 0x6ff, 1⟩, ⟨0x710, 0x77f, 1⟩,
  ⟨0x7ca, 0x7ea, 1⟩, ⟨0x840, 0x858, 1⟩, ⟨0x860, 0x860, 1⟩, ⟨0x862, 0x865, 1⟩, ⟨0x867, 0x882, 1⟩,
  ⟨0x886, 0x886, 1⟩, ⟨0x889, 0x8ac, 1⟩, ⟨0x8ae, 0x8c8, 1⟩, ⟨0x1807, 0x1807, 1⟩, ⟨0x1820, 0x1878, 1⟩,
  ⟨0x1887, 0x18aa, 1⟩, ⟨0xa840, 0xa871, 1⟩, ⟨0x10ac0, 0x10ac5, 1⟩, ⟨0x10ac7, 0x10ac7, 1⟩,
  ⟨0x10ac9, 0x10aca, 1⟩, ⟨0x10ace, 0x10ad6, 1⟩, ⟨0x10ad8, 0x10ae1, 1⟩, ⟨0x10ae4, 0x10aef, 1⟩,
  ⟨0x10b80, 0x10b91, 1⟩, ⟨0x10ba9, 0x10bae, 1⟩, ⟨0x10d01, 0x10d23, 1⟩, ⟨0x10f30, 0x10f44, 1⟩,
  ⟨0x10f51, 0x10f54, 1⟩, ⟨0x10f70, 0x10f81, 1⟩, ⟨0x10fb0, 0x10fb0, 1⟩, ⟨0x10fb2, 0x10fb6, 1⟩,
  ⟨0x10fb8, 0x10fbf, 1⟩, ⟨0x10fc1, 0x10fc4, 1⟩, ⟨0x10fc9, 0x10fca, 1⟩, ⟨0x1e922, 0x1e943, 1⟩]

/-- The class of the marks that make a letter join the next one. -/
def joiningClass : Nat := 9

/-- The first letter that is not a mark. -/
def firstLetter? (cs : List Char) : Option Char := (cs.dropWhile isAttachedMark).head?

/-- Whether a character that acts on joining has a meaning between a text written backwards and
another one. -/
def joinsBetween (before : List Char) (c : Char) (after : List Char) : Bool :=
  before.head?.any (markClass · == joiningClass) ||
    (isNonJoiner c && (firstLetter? before).any (CodeRange.mem joinsNextRanges) &&
      (firstLetter? after).any (CodeRange.mem joinsBeforeRanges))

/-- Whether all characters that act on joining have a meaning, after a text written backwards. -/
def joinersFit (before : List Char) : List Char → Bool
  | [] => true
  | c :: cs =>
    (!(isNonJoiner c || isJoiner c) || joinsBetween before c cs) && joinersFit (c :: before) cs

end RestLoom.Text
