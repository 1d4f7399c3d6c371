import Mathlib.Data.List.Chain
import Mathlib.Data.List.Infix
import RestLoom.Proofs.Path.Parts

/-!
# Proofs/Path/Grammar — the one way to cut a template into pieces

    "/{{id}/{}"   =   "/{" · {id} · "/{}"

A text can be cut into literals and places in many ways, but in one way only if no literal holds a
place and no two literals are next to each other (`IsMaximal`).  A scan finds that way
(`isMaximal_scan`): what it has taken for literal holds no place, and no closing brace can make one
of it.  It finds no other (`scan_render`): going through a literal without places it holds
everything back, until the next place begins.
-/

namespace RestLoom.Path

namespace Segment

/-! ## Places in a text -/

/-- Whether a text is the name of a place. -/
def IsName (name : List Char) : Prop := name ≠ [] ∧ ∀ c ∈ name, c ≠ '{' ∧ c ≠ '}'

/-- Whether a place is written somewhere in a text. -/
def HoldsPlace (text : List Char) : Prop :=
  ∃ name, IsName name ∧ (placeholder name).render <:+: text

/-- Whether a text ends in an opening brace and no other brace after it. -/
def IsOpen (text : List Char) : Prop :=
  ∃ name : List Char, (∀ c ∈ name, c ≠ '{' ∧ c ≠ '}') ∧ '{' :: name <:+ text

variable {text before : List Char} {c : Char}

/-- A place that a further character completes was open. -/
theorem holdsPlace_concat (h : HoldsPlace (text ++ [c])) :
    HoldsPlace text ∨ c = '}' ∧ ∃ name, IsName name ∧ '{' :: name <:+ text := by
  obtain ⟨name, hname, hplace⟩ := h
  obtain hend | hplace := List.infix_concat_iff.mp hplace
  · obtain ⟨t, ht⟩ := hend
    rw [render, List.cons_append, ← List.cons_append, ← List.append_assoc] at ht
    obtain ⟨ht, hc⟩ := List.append_inj' ht rfl
    exact .inr ⟨(List.singleton_inj.mp hc).symm, name, hname, t, ht⟩
  · exact .inl ⟨name, hname, hplace⟩

/-- Only an opening brace opens. -/
theorem isOpen_concat (h : IsOpen (text ++ [c])) : c = '{' ∨ c ≠ '}' ∧ IsOpen text := by
  obtain ⟨name, hname, hend⟩ := h
  obtain hnil | ⟨t, ht, hopen⟩ := List.suffix_concat_iff.mp hend
  · cases hnil
  · obtain rfl | ⟨front, d, rfl⟩ := List.eq_nil_or_concat' name
    · have hc : ['{'] = [c] := (List.append_inj' (List.nil_append _ |>.trans ht) rfl).2
      exact .inl (List.singleton_inj.mp hc).symm
    · rw [← List.cons_append] at ht
      obtain ⟨rfl, hc⟩ := List.append_inj' ht rfl
      obtain rfl := List.singleton_inj.mp hc
      rw [List.forall_mem_append, List.forall_mem_singleton] at hname
      exact .inr ⟨hname.2.2, front, hname.1, hopen⟩

/-! ## Maximal pieces -/

/-- Whether a piece is a place. -/
def IsPlace : Segment → Prop
  | literal _ => False
  | placeholder _ => True

/-- **Pieces that are as long as they can be**: names are names, literals hold no place, and each
literal goes on to a place or to the end. -/
structure IsMaximal (ps : List Segment) : Prop where
  names : ∀ name, placeholder name ∈ ps → IsName name
  literals : ∀ text, literal text ∈ ps → text ≠ [] ∧ ¬HoldsPlace text
  apart : ps.IsChain fun p q => p.IsPlace ∨ q.IsPlace

variable {ps : List Segment} {name : List Char}

theorem isMaximal_nil : IsMaximal [] where
  names := nofun
  literals := nofun
  apart := .nil

theorem IsMaximal.placeholder_cons (hname : IsName name) (h : IsMaximal ps) :
    IsMaximal (placeholder name :: ps) where
  names other hother := by
    obtain hother | hother := List.mem_cons.mp hother
    · exact placeholder.inj hother ▸ hname
    · exact h.names other hother
  literals text htext := h.literals text ((List.mem_cons.mp htext).resolve_left nofun)
  apart := List.isChain_cons.mpr ⟨fun _ _ => .inl trivial, h.apart⟩

/-- A literal in front of a place or of the end; an empty one is none. -/
theorem IsMaximal.ofLiteral_append (htext : ¬HoldsPlace text) (h : IsMaximal ps)
    (hplace : ∀ p ∈ ps.head?, p.IsPlace) : IsMaximal (ofLiteral text ++ ps) := by
  cases text with
  | nil => exact h
  | cons c text =>
    refine ⟨fun name hname => ?_, fun other hother => ?_, ?_⟩
    · exact h.names name ((List.mem_cons.mp hname).resolve_left nofun)
    · obtain hother | hother := List.mem_cons.mp hother
      · exact literal.inj hother ▸ ⟨List.cons_ne_nil _ _, htext⟩
      · exact h.literals other hother
    · exact List.isChain_cons.mpr ⟨fun p hp => .inr (hplace p hp), h.apart⟩

/-! ## A scan -/

/-- **What holds while a text is scanned**: no place is held back as literal, and none can become
one, since a brace that is open in the literal is followed by another one. -/
structure Quiet (before : List Char) (name : Option (List Char)) : Prop where
  held : ¬HoldsPlace before
  named : ∀ cs, name = some cs → ∀ c ∈ cs, c ≠ '{' ∧ c ≠ '}'
  shut : name = none → ¬IsOpen before

theorem quiet_start : Quiet [] none where
  held := by
    rintro ⟨name, -, hplace⟩
    cases List.infix_nil.mp hplace
  named := nofun
  shut := by
    rintro - ⟨name, -, hopen⟩
    cases List.suffix_nil.mp hopen

/-- Text without a closing brace adds no place. -/
theorem not_holdsPlace_append (h : ¬HoldsPlace before) (htext : '}' ∉ text) :
    ¬HoldsPlace (before ++ text) := by
  induction text using List.reverseRecOn with
  | nil => rwa [List.append_nil]
  | append_singleton text c ih =>
    rw [List.mem_append, List.mem_singleton, not_or] at htext
    rw [← List.append_assoc]
    intro hplace
    obtain hplace | ⟨hc, -⟩ := holdsPlace_concat hplace
    · exact ih htext.1 hplace
    · exact htext.2 hc.symm

theorem Quiet.literal (h : Quiet before none) (hc : c ≠ '{') : Quiet (before ++ [c]) none where
  held hplace := by
    obtain hplace | ⟨-, name, hname, hopen⟩ := holdsPlace_concat hplace
    · exact h.held hplace
    · exact h.shut rfl ⟨name, hname.2, hopen⟩
  named := nofun
  shut _ hopen := by
    obtain hopens | ⟨-, hopen⟩ := isOpen_concat hopen
    · exact hc hopens
    · exact h.shut rfl hopen

theorem Quiet.opens (h : Quiet before none) : Quiet before (some []) where
  held := h.held
  named cs hcs := by
    obtain rfl := Option.some.inj hcs
    exact nofun
  shut := nofun

/-- The text that is held back while a brace is open has no closing brace. -/
theorem Quiet.not_holdsPlace (h : Quiet before (some name)) :
    ¬HoldsPlace (before ++ '{' :: name) := by
  refine not_holdsPlace_append h.held fun hmem => ?_
  obtain hc | hmem := List.mem_cons.mp hmem
  · exact absurd hc (by decide)
  · exact (h.named name rfl _ hmem).2 rfl

theorem Quiet.reopens (h : Quiet before (some name)) : Quiet (before ++ '{' :: name) (some []) where
  held := h.not_holdsPlace
  named cs hcs := by
    obtain rfl := Option.some.inj hcs
    exact nofun
  shut := nofun

theorem Quiet.names (h : Quiet before (some name)) (hopen : c ≠ '{') (hclose : c ≠ '}') :
    Quiet before (some (name ++ [c])) where
  held := h.held
  named cs hcs := by
    obtain rfl := Option.some.inj hcs
    rw [List.forall_mem_append, List.forall_mem_singleton]
    exact ⟨h.named name rfl, hopen, hclose⟩
  shut := nofun

/-- A brace that is closed at once stays literal. -/
theorem Quiet.closes (h : Quiet before (some [])) : Quiet (before ++ ['{', '}']) none where
  held hplace := by
    rw [List.append_cons] at hplace
    obtain hplace | ⟨-, name, hname, hopen⟩ := holdsPlace_concat hplace
    · exact h.not_holdsPlace hplace
    · -- the character right before the closing brace is the opening one, so there is no name
      obtain ⟨t, ht⟩ := hopen
      obtain ⟨front, d, rfl⟩ := (List.eq_nil_or_concat' name).resolve_left hname.1
      rw [← List.cons_append, ← List.append_assoc] at ht
      obtain ⟨-, hd⟩ := List.append_inj' ht rfl
      exact (hname.2 d (by simp)).1 (List.singleton_inj.mp hd)
  named := nofun
  shut _ hopen := by
    rw [List.append_cons] at hopen
    obtain hc | ⟨hc, -⟩ := isOpen_concat hopen
    · exact absurd hc (by decide)
    · exact hc rfl

/-- **A scan finds maximal pieces.** -/
theorem isMaximal_scan {name : Option (List Char)} (h : Quiet before name) (text : List Char) :
    IsMaximal (scan before name text) := by
  fun_induction scan before name text with
  | case1 before =>
    rw [← List.append_nil (ofLiteral before)]
    exact isMaximal_nil.ofLiteral_append h.held (by rintro _ ⟨⟩)
  | case2 before name =>
    rw [← List.append_nil (ofLiteral _)]
    exact isMaximal_nil.ofLiteral_append h.not_holdsPlace (by rintro _ ⟨⟩)
  | case3 before cs ih => exact ih h.opens
  | case4 before c cs hc ih => exact ih (h.literal hc)
  | case5 before cs ih => exact ih h.closes
  | case6 before name cs hname ih =>
    refine ((ih quiet_start).placeholder_cons ⟨hname, h.named name rfl⟩).ofLiteral_append h.held ?_
    rintro p ⟨⟩
    trivial
  | case7 before name cs hc ih => exact ih h.reopens
  | case8 before name c cs hclose hopen ih => exact ih (h.names hopen hclose)

/-! ## No other pieces -/

/-- **Text without places is held back**: if it ends there, it is a literal, and a brace that opens
after it does so after all of it. -/
theorem scan_of_not_holdsPlace {name : Option (List Char)}
    (hname : ∀ cs, name = some cs → ∀ c ∈ cs, c ≠ '{' ∧ c ≠ '}')
    (h : ¬HoldsPlace (pending before name ++ text)) :
    scan before name text = ofLiteral (pending before name ++ text) ∧
      ∀ rest, scan before name (text ++ '{' :: rest) =
        scan (pending before name ++ text) (some []) rest := by
  fun_induction scan before name text with
  | case1 before =>
    rw [pending_nil]
    exact ⟨rfl, fun rest => rfl⟩
  | case2 before name =>
    rw [pending_nil]
    exact ⟨rfl, fun rest => rfl⟩
  | case3 before cs ih =>
    rw [pending_opens] at ih
    exact ih (by rintro _ ⟨⟩; exact List.forall_mem_nil _) h
  | case4 before c cs hc ih =>
    rw [pending_literal] at ih
    refine (ih (by rintro _ ⟨⟩) h).imp_right fun hopen rest => ?_
    rw [List.cons_append, scan, if_neg hc]
    exact hopen rest
  | case5 before cs ih =>
    rw [pending_closes] at ih
    refine (ih (by rintro _ ⟨⟩) h).imp_right fun hopen rest => ?_
    rw [List.cons_append, scan, if_pos rfl, if_pos rfl]
    exact hopen rest
  | case6 before name cs hne ih =>
    exact absurd ⟨name, ⟨hne, hname name rfl⟩, before, cs, (pending_place before name cs).symm⟩ h
  | case7 before name cs hc ih =>
    rw [pending_reopens] at ih
    exact ih (by rintro _ ⟨⟩; exact List.forall_mem_nil _) h
  | case8 before name c cs hclose hopen ih =>
    rw [pending_names] at ih
    refine (ih ?_ h).imp_right fun hopens rest => ?_
    · rintro _ ⟨⟩
      rw [List.forall_mem_append, List.forall_mem_singleton]
      exact ⟨hname name rfl, hopen, hclose⟩
    · rw [List.cons_append, scan, if_neg hclose, if_neg hopen]
      exact hopens rest

theorem IsMaximal.of_cons {p : Segment} (h : IsMaximal (p :: ps)) : IsMaximal ps where
  names name hname := h.names name (List.mem_cons_of_mem p hname)
  literals text htext := h.literals text (List.mem_cons_of_mem p htext)
  apart := (List.isChain_cons.mp h.apart).2

theorem ofLiteral_of_ne_nil (h : text ≠ []) : ofLiteral text = [literal text] := by
  cases text with
  | nil => exact absurd rfl h
  | cons c text => rfl

/-- **Maximal pieces are scanned** as they are written. -/
theorem scan_render (h : IsMaximal ps) : scan [] none (ps.flatMap render) = ps := by
  induction ps with
  | nil => rfl
  | cons p ps ih =>
    have hrest := ih h.of_cons
    -- a place is scanned to its end, after whatever is held back when it begins
    have hplace (name : List Char) (hmem : placeholder name ∈ p :: ps) (before after : List Char) :
        scan before (some []) (name ++ '}' :: after) =
          ofLiteral before ++ placeholder name :: scan [] none after :=
      scan_name (h.names name hmem).2 before [] after (h.names name hmem).1
    cases p with
    | placeholder name =>
      rw [List.flatMap_cons, render, List.append_assoc, List.cons_append, scan, if_pos rfl,
        List.singleton_append, hplace name List.mem_cons_self, hrest]
      rfl
    | literal text =>
      obtain ⟨hne, hnot⟩ := h.literals text List.mem_cons_self
      have hheld : ¬HoldsPlace (pending [] none ++ text) := hnot
      obtain ⟨hend, hopen⟩ := scan_of_not_holdsPlace (by rintro _ ⟨⟩) hheld
      rw [List.flatMap_cons, render]
      cases ps with
      | nil =>
        rw [List.flatMap_nil, List.append_nil, hend]
        exact ofLiteral_of_ne_nil hne
      | cons next ps =>
        have hnext := (List.isChain_cons.mp h.apart).1 next rfl
        cases next with
        | literal other => exact (hnext.elim id id).elim
        | placeholder name =>
          rw [List.flatMap_cons, render, List.append_assoc, List.cons_append,
            List.singleton_append] at hrest ⊢
          rw [scan, if_pos rfl, hplace name (by simp)] at hrest
          rw [hopen, hplace name (by simp), pending, List.nil_append, ofLiteral_of_ne_nil hne]
          exact congrArg (literal text :: ·) hrest

/-- **The pieces of a text** are the one list of maximal pieces that is written as the text. -/
theorem ofText_eq_iff : ofText text = ps ↔ ps.flatMap render = text ∧ IsMaximal ps := by
  constructor
  · rintro rfl
    exact ⟨render_ofText text, isMaximal_scan quiet_start text⟩
  · rintro ⟨rfl, h⟩
    exact scan_render h

end Segment

/-! ## Templates -/

namespace Template

open Segment (IsMaximal)

/-- **Templates and their pieces are one and the same.**  The pieces of a text are the one list of
maximal pieces that is written as the text; nothing is lost, so a template without values is its
text, and the lists that are read back from what is written are those of maximal pieces. -/
theorem segments_exact :
    (∀ (raw : String) ps, (ofString raw).segments = ps ↔
      ps.flatMap Segment.render = raw.toList ∧ IsMaximal ps) ∧
    (∀ raw : String, (ofString raw).fill (fun _ => none) = raw.toList) ∧
    ∀ ps, (ofString (String.ofList (ps.flatMap Segment.render))).segments = ps ↔ IsMaximal ps := by
  refine ⟨fun raw ps => Segment.ofText_eq_iff, fun raw => fill_none (ofString raw), fun ps => ?_⟩
  rw [segments, ofString, String.toList_ofList, Segment.ofText_eq_iff, and_iff_right rfl]

/-- A brace that opens in front of a place is literal, and so is an empty pair. -/
example : (ofString "/\x7b\x7bid\x7d/\x7b\x7d").segments =
    [.literal ['/', '{'], .placeholder ['i', 'd'], .literal ['/', '{', '}']] := by
  decide

end Template

end RestLoom.Path
