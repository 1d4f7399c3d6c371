/-!
# Text/Similarity — how alike two words are

    "verbos" and "verbose" share six characters in the same order

Two characters match if they are equal and not far from each other, each one matching at most once.
The similarity of words is the mean of three shares: of either word, the part that matches, and of
the matches, the part that comes in the same order in both words.
-/

namespace RestLoom.Text

/-- Marks the first free position between two bounds that holds a character. -/
def claim (c : Char) (low high : Nat) : Nat → List (Char × Bool) → Option (List (Char × Bool))
  | _, [] => none
  | i, (d, taken) :: rest =>
    if low ≤ i ∧ i < high ∧ c = d ∧ taken = false then some ((d, true) :: rest)
    else (claim c low high (i + 1) rest).map ((d, taken) :: ·)

/-- The matching characters of the first word, and the second word with its matches marked. -/
def matchWords (reach : Nat) : Nat → List Char → List (Char × Bool) →
    List Char × List (Char × Bool)
  | _, [], b => ([], b)
  | i, c :: a, b =>
    match claim c (i - reach) (i + reach + 1) 0 b with
    | some b' =>
      let (found, marked) := matchWords reach (i + 1) a b'
      (c :: found, marked)
    | none => matchWords reach (i + 1) a b

/-- The similarity of two words as a fraction. -/
def similarity (a b : List Char) : Nat × Nat :=
  let reach := max a.length b.length / 2 - 1
  let (left, marked) := matchWords reach 0 a (b.map (·, false))
  let right := (marked.filter (·.2)).map (·.1)
  let m := left.length
  let moved := ((left.zip right).countP fun p => p.1 != p.2) / 2
  let l := a.length
  let k := b.length
  if m = 0 then (if l = 0 ∧ k = 0 then (1, 1) else (0, 1))
  else (m * k * m + m * l * m + (m - moved) * l * k, 3 * l * k * m)

end RestLoom.Text
