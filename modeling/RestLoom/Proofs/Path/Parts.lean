import RestLoom.Proofs.Path.Template
import RestLoom.Proofs.Text.Lines

/-!
# Proofs/Path/Parts — templates of whole segments

    "/notes/{id}/tags"  =  "/" · notes / {id} / tags

In a plain template each part between slashes is a word or a place.  Filling it fills part by part
(`fill_of_isPlain`).
-/

namespace RestLoom.Path

open RestLoom.Text

/-! ## Pieces -/

namespace Segment

/-- A piece with the value of its place. -/
def filled (value : List Char → Option (List Char)) : Segment → List Char
  | literal text => text
  | placeholder name => (value name).getD (placeholder name).render

/-- A piece whose text is scanned as that piece. -/
def IsScanned : Segment → Prop
  | literal text => '{' ∉ text
  | placeholder name => name ≠ [] ∧ ∀ c ∈ name, c ≠ '{' ∧ c ≠ '}'

theorem filled_ofLiteral (value : List Char → Option (List Char)) (text : List Char) :
    (ofLiteral text).flatMap (filled value) = text := by
  cases text with
  | nil => rfl
  | cons c cs => exact List.append_nil _

/-- Text without an opening brace is added to the literal so far. -/
theorem scan_literal {text : List Char} (h : '{' ∉ text) (before rest : List Char) :
    scan before none (text ++ rest) = scan (before ++ text) none rest := by
  induction text generalizing before with
  | nil => rw [List.nil_append, List.append_nil]
  | cons c text ih =>
    rw [List.mem_cons, not_or] at h
    rw [List.cons_append, scan, if_neg (Ne.symm h.1), ih h.2, List.append_assoc]
    rfl

/-- The name of an open place goes on to the closing brace. -/
theorem scan_name {name : List Char} (h : ∀ c ∈ name, c ≠ '{' ∧ c ≠ '}')
    (before start rest : List Char) (hne : start ++ name ≠ []) :
    scan before (some start) (name ++ '}' :: rest) =
      ofLiteral before ++ placeholder (start ++ name) :: scan [] none rest := by
  induction name generalizing start with
  | nil =>
    rw [List.append_nil] at hne ⊢
    rw [List.nil_append, scan, if_pos rfl, if_neg hne]
  | cons c name ih =>
    rw [List.forall_mem_cons] at h
    have hassoc : start ++ c :: name = start ++ [c] ++ name := by rw [List.append_assoc]; rfl
    rw [List.cons_append, scan, if_neg h.1.2, if_neg h.1.1, hassoc]
    exact ih h.2 (start ++ [c]) (hassoc ▸ hne)

/-- **Pieces written one after the other** are filled one after the other. -/
theorem filled_scan (value : List Char → Option (List Char)) {ps : List Segment}
    (h : ∀ p ∈ ps, p.IsScanned) (before : List Char) :
    (scan before none (ps.flatMap render)).flatMap (filled value) =
      before ++ ps.flatMap (filled value) := by
  induction ps generalizing before with
  | nil => exact (filled_ofLiteral value before).trans (List.append_nil before).symm
  | cons p ps ih =>
    rw [List.forall_mem_cons] at h
    rw [List.flatMap_cons, List.flatMap_cons]
    cases p with
    | literal text =>
      rw [render, scan_literal h.1, ih h.2, List.append_assoc]
      rfl
    | placeholder name =>
      have hscan := scan_name h.1.2 before [] (ps.flatMap render) h.1.1
      rw [render, List.append_assoc, List.singleton_append, List.cons_append, scan, if_pos rfl, hscan,
        List.flatMap_append, List.flatMap_cons, filled_ofLiteral, ih h.2]
      rfl

/-- Parts of a plain template: a word of letters, digits, hyphens and underscores, or a place. -/
def IsPart : Segment → Prop
  | literal text => text ≠ [] ∧ ∀ c ∈ text, c.isAlphanum = true ∨ c = '-' ∨ c = '_'
  | placeholder name => name ≠ [] ∧ ∀ c ∈ name, c ≠ '{' ∧ c ≠ '}'

theorem IsPart.isScanned {p : Segment} (h : p.IsPart) : p.IsScanned := by
  cases p with
  | literal text =>
    intro hmem
    obtain hc | hc | hc := h.2 '{' hmem
    all_goals exact absurd hc (by decide)
  | placeholder name => exact h

end Segment

/-! ## Plain templates -/

namespace Template

/-- **A plain template**: parts with single slashes between them, and perhaps one in front. -/
structure IsPlain (t : Template) (parts : List Segment) : Prop where
  text : t.text = join ['/'] (parts.map Segment.render) ∨
    t.text = '/' :: join ['/'] (parts.map Segment.render)
  isPart : ∀ p ∈ parts, p.IsPart

/-- Joined texts are the texts of pieces with slashes between them. -/
theorem join_map (f : Segment → List Char) (hf : f (.literal ['/']) = ['/']) (parts : List Segment) :
    join ['/'] (parts.map f) = (parts.intersperse (.literal ['/'])).flatMap f := by
  induction parts with
  | nil => rfl
  | cons p parts ih =>
    cases parts with
    | nil => exact (List.append_nil _).symm
    | cons next parts =>
      have hne : (next :: parts).map f ≠ [] := List.cons_ne_nil _ _
      rw [List.map_cons, join_cons _ _ hne, ih, List.intersperse_cons_cons, List.flatMap_cons,
        List.flatMap_cons, hf, List.append_assoc]

theorem isScanned_slash : Segment.IsScanned (.literal ['/']) := by
  change '{' ∉ ['/']
  decide

theorem isScanned_of_mem_intersperse {parts : List Segment} (h : ∀ p ∈ parts, p.IsPart) :
    ∀ p ∈ parts.intersperse (.literal ['/']), p.IsScanned := by
  induction parts with
  | nil => exact nofun
  | cons p parts ih =>
    rw [List.forall_mem_cons] at h
    cases parts with
    | nil => exact List.forall_mem_singleton.mpr h.1.isScanned
    | cons next parts =>
      rw [List.intersperse_cons_cons, List.forall_mem_cons, List.forall_mem_cons]
      exact ⟨h.1.isScanned, isScanned_slash, ih h.2⟩

/-- **A plain template is filled** part by part. -/
theorem fill_of_isPlain {t : Template} {parts : List Segment} (h : t.IsPlain parts)
    (value : List Char → Option (List Char)) :
    t.fill value = join ['/'] (parts.map (Segment.filled value)) ∨
      t.fill value = '/' :: join ['/'] (parts.map (Segment.filled value)) := by
  have hscan := isScanned_of_mem_intersperse h.isPart
  have hfill : t.fill value = (Segment.ofText t.text).flatMap (Segment.filled value) := rfl
  rw [hfill, Segment.ofText, join_map _ rfl]
  refine h.text.imp (fun htext => ?_) (fun htext => ?_)
  · rw [htext, join_map _ rfl]
    exact Segment.filled_scan value hscan []
  · rw [htext, join_map _ rfl]
    exact Segment.filled_scan value (List.forall_mem_cons.mpr ⟨isScanned_slash, hscan⟩) []

end Template

end RestLoom.Path
