/-!
# Text/CodeRange — sets of characters given by stepped ranges

A property of characters that a standard lists is held as a `List CodeRange`.  A range has a step
because the cased alphabets alternate capital and small letters: every second code point belongs
to the set.  `mem_singleton_iff` is the reading of one range.
-/

namespace RestLoom.Text

/-- The code points `first`, `first + step`, `first + 2·step`, … up to `last`. -/
structure CodeRange where
  first : Nat
  last : Nat
  step : Nat

namespace CodeRange

/-- Whether one range holds a code point. -/
def holds (r : CodeRange) (n : Nat) : Bool :=
  r.first ≤ n && n ≤ r.last && (n - r.first) % r.step == 0

/-- Whether some range of the list holds the character. -/
def mem (rs : List CodeRange) (c : Char) : Bool :=
  rs.any (·.holds c.toNat)

@[simp] theorem mem_nil (c : Char) : mem [] c = false := rfl

@[simp] theorem mem_cons (r : CodeRange) (rs : List CodeRange) (c : Char) :
    mem (r :: rs) c = (r.holds c.toNat || mem rs c) := rfl

theorem mem_singleton_iff {r : CodeRange} {c : Char} :
    mem [r] c = true ↔
      r.first ≤ c.toNat ∧ c.toNat ≤ r.last ∧ (c.toNat - r.first) % r.step = 0 := by
  simp [mem, holds, and_assoc]

end CodeRange

end RestLoom.Text
