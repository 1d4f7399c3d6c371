import Mathlib.Data.List.Basic

/-!
# Proofs/Latest — what a run of steps leaves behind

    write 1 · other · write 2 · other  ──▸  2

A run takes one step after the other.  A part of the state that each step either writes or leaves as
it is holds what was written last (`latest_foldl`), and one that steps only add to holds what they
added, in order (`added_foldl`).  A step that fails leaves the state as it is (`attempt`).
-/

namespace RestLoom.Run

variable {σ α β ε : Type} {step : σ → α → σ}

/-- The state after a step that may fail: one that fails has given none, and it is the old one. -/
def attempt (take : σ → Except ε σ) (s : σ) : σ := (take s).toOption.getD s

theorem attempt_of_ok {take : σ → Except ε σ} {s s' : σ} (h : take s = .ok s') :
    attempt take s = s' := by
  rw [attempt, h]
  rfl

theorem attempt_of_error {take : σ → Except ε σ} {s : σ} {e : ε} (h : take s = .error e) :
    attempt take s = s := by
  rw [attempt, h]
  rfl

/-- **What was written last stands**, and what was there before if nothing was written. -/
theorem latest_foldl (part : σ → Option β) {write : α → Option β}
    (hstep : ∀ s a, part (step s a) = (write a).or (part s)) (s : σ) (as : List α) :
    part (as.foldl step s) = (as.filterMap write).getLast?.or (part s) := by
  induction as generalizing s with
  | nil => rfl
  | cons a as ih =>
    rw [List.foldl_cons, ih, hstep, List.filterMap_cons]
    cases write a with
    | none => rfl
    | some b => cases h : (as.filterMap write).getLast? <;> simp [List.getLast?_cons, h]

/-- **What is added stays**, behind what was there before. -/
theorem added_foldl (part : σ → List β) {add : α → Option β}
    (hstep : ∀ s a, part (step s a) = part s ++ (add a).toList) (s : σ) (as : List α) :
    part (as.foldl step s) = part s ++ as.filterMap add := by
  induction as generalizing s with
  | nil => exact (List.append_nil _).symm
  | cons a as ih =>
    rw [List.foldl_cons, ih, hstep, List.filterMap_cons]
    cases add a with
    | none => rw [Option.toList_none, List.append_nil]
    | some b => rw [Option.toList_some, List.append_assoc, List.singleton_append]

/-- What no step touches stays as it is. -/
theorem kept_foldl (part : σ → β) (hstep : ∀ s a, part (step s a) = part s) (s : σ)
    (as : List α) : part (as.foldl step s) = part s := by
  induction as generalizing s with
  | nil => rfl
  | cons a as ih => rw [List.foldl_cons, ih, hstep]

end RestLoom.Run
