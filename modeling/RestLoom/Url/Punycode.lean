/-!
# Url/Punycode — any text in letters, digits and hyphens

    bücher  ──encode──▸  bcher-kva

The characters of ASCII come first, with a hyphen after them.  What follows are numbers: each tells
how far to go to the next character, counted over all places in the text and all code points from
small to large.  A number is written in digits whose base depends on the numbers before it.
`length_readNumber` says that reading one takes some digits away, so reading a text ends.
-/

namespace RestLoom.Url.Punycode

/-! ## Digits -/

/-- The digit of a number below thirty-six: the letters come first. -/
def digit (n : Nat) : Char := if n < 26 then Char.ofNat (97 + n) else Char.ofNat (22 + n)

/-- The value of a digit. -/
def value? (c : Char) : Option Nat :=
  if 'a' ≤ c ∧ c ≤ 'z' then some (c.toNat - 97)
  else if 'A' ≤ c ∧ c ≤ 'Z' then some (c.toNat - 65)
  else if '0' ≤ c ∧ c ≤ '9' then some (c.toNat - 22)
  else none

/-- Below this value a digit at weight `k` is the last one of its number. -/
def threshold (bias k : Nat) : Nat :=
  if k ≤ bias then 1 else if bias + 26 ≤ k then 26 else k - bias

theorem threshold_pos (bias k : Nat) : 0 < threshold bias k := by
  unfold threshold
  split
  · omega
  · split <;> omega

/-- Divides by the largest base until a number is small, counting thirty-six for each division. -/
def shrink (n : Nat) : Nat × Nat :=
  if 455 < n then
    let (k, m) := shrink (n / 35)
    (k + 36, m)
  else (0, n)
termination_by n

/-- The bias after a number that goes so far in a text of `count` characters. -/
def adapt (far count : Nat) (isFirst : Bool) : Nat :=
  let far := if isFirst then far / 700 else far / 2
  let (k, m) := shrink (far + far / count)
  k + 36 * m / (m + 38)

/-! ## Writing -/

/-- Writes a number, from the digit at weight `k` on. -/
def writeNumber (bias k n : Nat) : List Char :=
  let t := threshold bias k
  if n < t then [digit n]
  else digit (t + (n - t) % (36 - t)) :: writeNumber bias (k + 36) ((n - t) / (36 - t))
termination_by n
decreasing_by
  have := threshold_pos bias k
  exact Nat.lt_of_le_of_lt (Nat.div_le_self _ _) (by omega)

/-- What is carried from one character to the next one in writing. -/
structure Writer where
  /-- How far it is from the character written last. -/
  far : Nat
  bias : Nat
  /-- How many characters are written. -/
  done : Nat
  out : List Char

/-- Goes over one place of the text in writing the characters of one code point. -/
def writePlace (basic point : Nat) (w : Writer) (c : Nat) : Writer :=
  if c < point then { w with far := w.far + 1 }
  else if c = point then
    { far := 0
      bias := adapt w.far (w.done + 1) (w.done == basic)
      done := w.done + 1
      out := w.out ++ writeNumber w.bias 36 w.far }
  else w

/-- Writes the characters of some code points, given in increasing order. -/
def writePoints (text : List Nat) (basic : Nat) : List Nat → Nat → Writer → Writer
  | [], _, w => w
  | p :: ps, next, w =>
    let w := { w with far := w.far + (p - next) * (w.done + 1) }
    let w := text.foldl (writePlace basic p) w
    writePoints text basic ps (p + 1) { w with far := w.far + 1 }

/-- **The Punycode of a text.** -/
def encode (text : List Char) : List Char :=
  let basic := text.filter (·.toNat < 0x80)
  let points := (text.map (·.toNat)).filter (0x80 ≤ ·)
  let start := if basic = [] then [] else basic ++ ['-']
  start ++ (writePoints (text.map (·.toNat)) basic.length points.mergeSort.eraseDups 0x80
    ⟨0, 72, basic.length, []⟩).out

/-! ## Reading -/

/-- Reads a number, from the digit at weight `k` on; the result holds the number and what follows
it. -/
def readNumber (bias : Nat) : Nat → Nat → Nat → List Char → Option (Nat × List Char)
  | _, _, _, [] => none
  | k, weight, n, c :: cs =>
    match value? c with
    | none => none
    | some d =>
      let t := threshold bias k
      if d < t then some (n + d * weight, cs)
      else readNumber bias (k + 36) (weight * (36 - t)) (n + d * weight) cs

theorem length_readNumber {bias k weight n : Nat} {cs : List Char} {r : Nat × List Char}
    (h : readNumber bias k weight n cs = some r) : r.2.length < cs.length := by
  induction cs generalizing k weight n with
  | nil => simp [readNumber] at h
  | cons c cs ih =>
    simp only [readNumber] at h
    split at h
    · contradiction
    · split at h
      · cases h
        simp
      · exact Nat.lt_succ_of_lt (ih h)

/-- Whether a number is the code point of a character. -/
def isPoint (n : Nat) : Bool := n < 0xd800 || (0xe000 ≤ n && n < 0x110000)

/-- Reads the characters beyond ASCII into a text, from a place and a code point on. -/
def readPoints (point place bias : Nat) (out : List Char) (cs : List Char) :
    Option (List Char) :=
  if cs = [] then some out
  else match h : readNumber bias 36 1 0 cs with
    | none => none
    | some (far, rest) =>
      have : rest.length < cs.length := length_readNumber h
      let count := out.length + 1
      let next := point + (place + far) / count
      let i := (place + far) % count
      if isPoint next then
        readPoints next (i + 1) (adapt far count (place == 0 && point == 0x80))
          (out.take i ++ Char.ofNat next :: out.drop i) rest
      else none
termination_by cs.length

/-- The text that a Punycode stands for. -/
def decode? (cs : List Char) : Option (List Char) :=
  let digits := (cs.reverse.takeWhile (· != '-')).reverse
  readPoints 0x80 0 72 (cs.take (cs.length - digits.length - 1)) digits

end RestLoom.Url.Punycode
