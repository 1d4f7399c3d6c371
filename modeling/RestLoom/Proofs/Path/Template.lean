import Mathlib.Data.List.Basic
import RestLoom.Path.Template

/-!
# Proofs/Path/Template — the pieces of a template are its text

    text ──ofText──▸ pieces ──render──▸ text

Scanning loses no character: a brace that opens no place stays literal (`render_scan`).  So a
template without places is filled to its own text, whatever the values are.
-/

namespace RestLoom.Path

/-! ## Pieces -/

namespace Segment

theorem render_ofLiteral (text : List Char) : (ofLiteral text).flatMap render = text := by
  cases text with
  | nil => rfl
  | cons c cs => exact List.append_nil _

/-- What a scan still holds back: the literal so far and, when a brace is open, the name so far. -/
def pending (before : List Char) : Option (List Char) → List Char
  | none => before
  | some name => before ++ '{' :: name

section

variable (before name cs : List Char) (c : Char)

theorem pending_nil (name : Option (List Char)) : pending before name ++ [] = pending before name :=
  List.append_nil _

theorem pending_literal :
    pending (before ++ [c]) none ++ cs = pending before none ++ c :: cs := by
  simp [pending]

theorem pending_opens : pending before (some []) ++ cs = pending before none ++ '{' :: cs := by
  simp [pending]

theorem pending_names :
    pending before (some (name ++ [c])) ++ cs = pending before (some name) ++ c :: cs := by
  simp [pending]

theorem pending_reopens :
    pending (before ++ '{' :: name) (some []) ++ cs = pending before (some name) ++ '{' :: cs := by
  simp [pending]

theorem pending_closes :
    pending (before ++ ['{', '}']) none ++ cs = pending before (some []) ++ '}' :: cs := by
  simp [pending]

/-- A brace closes a place. -/
theorem pending_place : pending before (some name) ++ '}' :: cs =
    before ++ (placeholder name).render ++ cs := by
  simp [pending, render]

end

/-- **A scan keeps every character**, those it holds back first. -/
theorem render_scan (before : List Char) (name : Option (List Char)) (text : List Char) :
    (scan before name text).flatMap render = pending before name ++ text := by
  fun_induction scan before name text with
  | case1 before => rw [render_ofLiteral, pending_nil, pending]
  | case2 before name => rw [render_ofLiteral, pending_nil, pending]
  | case3 before cs ih => rw [ih, pending_opens]
  | case4 before c cs hc ih => rw [ih, pending_literal]
  | case5 before cs ih => rw [ih, pending_closes]
  | case6 before name cs hname ih =>
    rw [List.flatMap_append, List.flatMap_cons, ih, render_ofLiteral, pending_place, pending,
      List.nil_append, List.append_assoc]
  | case7 before name cs hc ih => rw [ih, pending_reopens]
  | case8 before name c cs hc hc' ih => rw [ih, pending_names]

/-- **The pieces of a text** are written back as that text. -/
theorem render_ofText (text : List Char) : (ofText text).flatMap render = text :=
  render_scan [] none text

end Segment

/-! ## Templates -/

namespace Template

theorem mem_placeholders {t : Template} {name : List Char} :
    name ∈ t.placeholders ↔ .placeholder name ∈ t.segments := by
  rw [placeholders, List.mem_filterMap]
  constructor
  · rintro ⟨_ | place, hmem, hname⟩
    · cases hname
    · cases hname
      exact hmem
  · intro h
    exact ⟨_, h, rfl⟩

/-- Only the values at places of the template matter. -/
theorem fill_congr {t : Template} {f g : List Char → Option (List Char)}
    (h : ∀ place ∈ t.placeholders, f place = g place) : t.fill f = t.fill g := by
  refine List.flatMap_congr fun s hs => ?_
  cases s with
  | literal text => rfl
  | placeholder name =>
    exact congrArg (fun v => v.getD (Segment.placeholder name).render)
      (h name (mem_placeholders.mpr hs))

/-- **Without values** a template is its own text. -/
theorem fill_none (t : Template) : t.fill (fun _ => none) = t.text := by
  refine Eq.trans ?_ (Segment.render_ofText t.text)
  refine List.flatMap_congr fun s _ => ?_
  cases s with
  | literal text => rfl
  | placeholder name => rfl

theorem fill_of_placeholders_eq_nil {t : Template} (h : t.placeholders = [])
    (f : List Char → Option (List Char)) : t.fill f = t.text := by
  refine Eq.trans (fill_congr fun place hplace => ?_) t.fill_none
  rw [h] at hplace
  cases hplace

end Template

end RestLoom.Path
