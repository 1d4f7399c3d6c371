/-!
# Signal — a wish to stop, looked at from time to time

A signal may be raised at any moment and then stays up.  Whoever works on a task looks at it before
each step; looks are counted from zero, and all that matters about the moment is the first look that
sees the signal up (`isUp_of_le`).
-/

namespace RestLoom

/-- A signal to stop. -/
structure Signal where
  /-- The first look that sees it up, if any does. -/
  raisedAt : Option Nat
  deriving DecidableEq

namespace Signal

/-- The signal that is never raised. -/
def never : Signal := ⟨none⟩

/-- The signal that is up from the start. -/
def raised : Signal := ⟨some 0⟩

/-- The signal that a look is the first to see up. -/
def raisedBefore (look : Nat) : Signal := ⟨some look⟩

/-- Whether a look sees the signal up. -/
def isUp (s : Signal) (look : Nat) : Bool := s.raisedAt.any (· ≤ look)

@[simp] theorem never_isUp (look : Nat) : never.isUp look = false := rfl

@[simp] theorem raised_isUp (look : Nat) : raised.isUp look = true := by
  simp [isUp, raised]

/-- A signal that is up stays up. -/
theorem isUp_of_le {s : Signal} {i j : Nat} (h : s.isUp i = true) (hij : i ≤ j) :
    s.isUp j = true := by
  unfold isUp at *
  cases hr : s.raisedAt with
  | none => simp [hr] at h
  | some k =>
    simp only [hr, Option.any_some, decide_eq_true_eq] at h ⊢
    omega

end Signal

end RestLoom
