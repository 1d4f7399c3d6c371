import RestLoom.Text.Mark

/-!
# Text/Direction — words in which text runs from the right

    fits "אב1" · ¬ fits "1אב"

A character runs from the left, from the right, or with those around it.  A word whose characters
do not run the same way would be shown in an order of its own; `fits` holds of the words that are
shown as they are written, wherever they stand.
-/

namespace RestLoom.Text

/-- The way a character runs. -/
inductive Direction where
  | fromLeft
  | fromRight
  /-- A digit that runs from the left among characters from the right. -/
  | digit
  /-- A digit of a script from the right. -/
  | rightDigit
  /-- Whatever the characters around it do. -/
  | neutral
  /-- What the character that it is attached to does. -/
  | mark
  deriving DecidableEq

/-- Letters from the right. -/
def rightRanges : List CodeRange := [
  ⟨0x5be, 0x5be, 1⟩, ⟨0x5c0, 0x5c0, 1⟩, ⟨0x5c3, 0x5c3, 1⟩, ⟨0x5c6, 0x5c6, 1⟩, ⟨0x5d0, 0x5f4, 1⟩,
  ⟨0x608, 0x608, 1⟩, ⟨0x60b, 0x60b, 1⟩, ⟨0x60d, 0x60d, 1⟩, ⟨0x61b, 0x64a, 1⟩, ⟨0x66d, 0x66f, 1⟩,
  ⟨0x671, 0x6d5, 1⟩, ⟨0x6e5, 0x6e6, 1⟩, ⟨0x6ee, 0x6ef, 1⟩, ⟨0x6fa, 0x710, 1⟩, ⟨0x712, 0x72f, 1⟩,
  ⟨0x74d, 0x7a5, 1⟩, ⟨0x7b1, 0x7ea, 1⟩, ⟨0x7f4, 0x7f5, 1⟩, ⟨0x7fa, 0x7fa, 1⟩, ⟨0x7fe, 0x815, 1⟩,
  ⟨0x81a, 0x81a, 1⟩, ⟨0x824, 0x824, 1⟩, ⟨0x828, 0x828, 1⟩, ⟨0x830, 0x858, 1⟩, ⟨0x85e, 0x88e, 1⟩,
  ⟨0x8a0, 0x8c9, 1⟩, ⟨0xfbb2, 0xfbc2, 1⟩, ⟨0xfe73, 0xfe73, 1⟩, ⟨0x10800, 0x1091b, 1⟩,
  ⟨0x10920, 0x10a00, 1⟩, ⟨0x10a10, 0x10a35, 1⟩, ⟨0x10a40, 0x10ae4, 1⟩, ⟨0x10aeb, 0x10b35, 1⟩,
  ⟨0x10b40, 0x10d23, 1⟩, ⟨0x10e80, 0x10ea9, 1⟩, ⟨0x10ead, 0x10f45, 1⟩, ⟨0x10f51, 0x10f81, 1⟩,
  ⟨0x10f86, 0x10ff6, 1⟩, ⟨0x1e800, 0x1e8cf, 1⟩, ⟨0x1e922, 0x1e943, 1⟩, ⟨0x1e94b, 0x1ed3d, 1⟩]

/-- Digits of scripts from the right. -/
def rightDigitRanges : List CodeRange := [
  ⟨0x660, 0x669, 1⟩, ⟨0x66b, 0x66c, 1⟩, ⟨0x10d30, 0x10e7e, 1⟩]

/-- Digits beyond ASCII that run from the left among characters from the right. -/
def digitRanges : List CodeRange := [
  ⟨0x6f0, 0x6f9, 1⟩, ⟨0x102e1, 0x102fb, 1⟩]

/-- Signs beyond ASCII that run with the characters around them. -/
def neutralRanges : List CodeRange := [
  ⟨0xa1, 0xd7, 1⟩, ⟨0xf7, 0xf7, 1⟩, ⟨0x2b9, 0x2ba, 1⟩, ⟨0x2c2, 0x2cf, 1⟩, ⟨0x2d2, 0x2ed, 1⟩,
  ⟨0x2ef, 0x2ff, 1⟩, ⟨0x375, 0x375, 1⟩, ⟨0x3f6, 0x3f6, 1⟩, ⟨0x58a, 0x58f, 1⟩, ⟨0x606, 0x607, 1⟩,
  ⟨0x609, 0x60a, 1⟩, ⟨0x60c, 0x60c, 1⟩, ⟨0x60e, 0x60f, 1⟩, ⟨0x66a, 0x66a, 1⟩, ⟨0x6de, 0x6de, 1⟩,
  ⟨0x6e9, 0x6e9, 1⟩, ⟨0x7f6, 0x7f9, 1⟩, ⟨0x9f2, 0x9f3, 1⟩, ⟨0x9fb, 0x9fb, 1⟩, ⟨0xaf1, 0xaf1, 1⟩,
  ⟨0xbf3, 0xbfa, 1⟩, ⟨0xc78, 0xc7e, 1⟩, ⟨0xe3f, 0xe3f, 1⟩, ⟨0xf3a, 0xf3d, 1⟩, ⟨0x1390, 0x1399, 1⟩,
  ⟨0x1400, 0x1400, 1⟩, ⟨0x169b, 0x169c, 1⟩, ⟨0x17db, 0x17db, 1⟩, ⟨0x17f0, 0x180a, 1⟩,
  ⟨0x1940, 0x1945, 1⟩, ⟨0x19de, 0x19ff, 1⟩, ⟨0x200c, 0x20c0, 1⟩, ⟨0x2104, 0x214d, 1⟩,
  ⟨0x218a, 0x2335, 1⟩, ⟨0x237b, 0x2394, 1⟩, ⟨0x2396, 0x26ab, 1⟩, ⟨0x26ad, 0x27ff, 1⟩,
  ⟨0x2900, 0x2bff, 1⟩, ⟨0x2ce5, 0x2cea, 1⟩, ⟨0x2cf9, 0x2cff, 1⟩, ⟨0x2e00, 0x3004, 1⟩,
  ⟨0x3008, 0x3020, 1⟩, ⟨0x3030, 0x3030, 1⟩, ⟨0x3037, 0x3037, 1⟩, ⟨0x303d, 0x303f, 1⟩,
  ⟨0x30a0, 0x30a0, 1⟩, ⟨0x30fb, 0x30fb, 1⟩, ⟨0x31c0, 0x31e3, 1⟩, ⟨0x4dc0, 0x4dff, 1⟩,
  ⟨0xa490, 0xa4c6, 1⟩, ⟨0xa60d, 0xa60f, 1⟩, ⟨0xa673, 0xa673, 1⟩, ⟨0xa67e, 0xa67f, 1⟩,
  ⟨0xa700, 0xa721, 1⟩, ⟨0xa788, 0xa788, 1⟩, ⟨0xa828, 0xa82b, 1⟩, ⟨0xa838, 0xa839, 1⟩,
  ⟨0xa874, 0xa877, 1⟩, ⟨0xab6a, 0xab6b, 1⟩, ⟨0xfd3e, 0xfdff, 1⟩, ⟨0xfe45, 0xfe46, 1⟩,
  ⟨0x10101, 0x10101, 1⟩, ⟨0x10140, 0x1018c, 1⟩, ⟨0x10190, 0x101a0, 1⟩, ⟨0x1091f, 0x1091f, 1⟩,
  ⟨0x10b39, 0x10b3f, 1⟩, ⟨0x11052, 0x11065, 1⟩, ⟨0x11660, 0x1166c, 1⟩, ⟨0x11fd5, 0x11ff1, 1⟩,
  ⟨0x16fe2, 0x16fe2, 1⟩, ⟨0x1d1e9, 0x1d241, 1⟩, ⟨0x1d245, 0x1d245, 1⟩, ⟨0x1d300, 0x1d356, 1⟩,
  ⟨0x1e2ff, 0x1e2ff, 1⟩, ⟨0x1eef0, 0x1f12f, 1⟩, ⟨0x1f16d, 0x1f16f, 1⟩, ⟨0x1f1ad, 0x1f1ad, 1⟩,
  ⟨0x1f260, 0x1fbca, 1⟩]

namespace Direction

/-- The direction of a character in ASCII. -/
def ofAscii (c : Char) : Direction :=
  if c.isAlpha then fromLeft else if c.isDigit then digit else neutral

/-- The direction of a character. -/
def ofChar (c : Char) : Direction :=
  if c.toNat < 0x80 then ofAscii c
  else if CodeRange.mem rightRanges c then fromRight
  else if isAttachedMark c then mark
  else if CodeRange.mem rightDigitRanges c then rightDigit
  else if CodeRange.mem digitRanges c then digit
  else if CodeRange.mem neutralRanges c then neutral
  else fromLeft

/-- Whether a character makes its surroundings run from the right. -/
def isRight (d : Direction) : Bool := d = fromRight || d = rightDigit

/-- The last direction, marks aside. -/
def last? (ds : List Direction) : Option Direction := (ds.reverse.dropWhile (· = mark)).head?

/-- Whether directions make a word that runs from the left. -/
def fitsLeft (ds : List Direction) : Bool :=
  !ds.any isRight && (last? ds).any fun d => d = fromLeft || d = digit

/-- Whether directions make a word that runs from the right. -/
def fitsRight (ds : List Direction) : Bool :=
  !ds.contains fromLeft && !(ds.contains digit && ds.contains rightDigit) &&
    (last? ds).any fun d => isRight d || d = digit

/-- Whether a word is shown as it is written. -/
def fits (word : List Char) : Bool :=
  let ds := word.map ofChar
  match ds.head? with
  | none => true
  | some fromLeft => fitsLeft ds
  | some fromRight => fitsRight ds
  | some _ => false

/-- Whether a word has characters from the right. -/
def runsRight (word : List Char) : Bool := word.any fun c => isRight (ofChar c)

end Direction

end RestLoom.Text
