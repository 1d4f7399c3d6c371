import RestLoom.Source.Decl
import RestLoom.Source.Grammar.Attribute

/-!
# Proofs/Source/Reach — from where a declaration may be used

    in a::b:   pub(self) ──▸ inside a::b    pub(super) ──▸ inside a    pub(crate) ──▸ inside the root

A visibility is relative to the module that a declaration stands in: it admits everyone, or those
inside one module, which is that module or one around it (`Visibility.scope?`).  A module may use
what stands in one of the modules inside it exactly if the scope does not end there
(`reaches_outside_iff`), and then so may all that it contains (`reaches_sibling_iff`).
-/

namespace RestLoom.Source

open RestLoom.Token (Ident)

/-! ## Modules and paths -/

/-- A module, by the names that lead to it from the root of its package. -/
abbrev Place := List Ident

namespace Place

/-- The module around a module; the root has none. -/
def around? (m : Place) : Option Place := if m = [] then none else some m.dropLast

/-- The module that the rest of a path leads to from a module: first outward, then inward. -/
def follow? (m : Place) : List Ident → Option Place
  | [] => some m
  | i :: is =>
    if i.is "super" then m.around?.bind fun outer => follow? outer is else some (m ++ i :: is)

/-- The module that a path leads to where it is written; it begins at the root or where it is. -/
def named? (here : Place) : List Ident → Option Place
  | [] => none
  | i :: is =>
    if i.is "crate" then some is
    else if i.is "self" then here.follow? is
    else if i.is "super" then here.follow? (i :: is)
    else none

end Place

/-- The names of a path; a path that begins outside the package has none. -/
def pathNames (n : Node) : List Ident :=
  if n.parts.head?.any (·.isOp "::") then []
  else n.parts.filterMap fun
    | .phrase .segment (.ident i :: _) => some i
    | _ => none

/-! ## Scopes -/

/-- From where a declaration may be used: from everywhere, or inside a module. -/
inductive Scope where
  | everywhere
  | inside (m : Place)

/-- Whether a scope admits those in a module. -/
def Scope.Admits : Scope → Place → Prop
  | everywhere, _ => True
  | inside m, there => m <+: there

namespace Visibility

/-- The scope of a declaration in a module; there is none for a path that leads elsewhere than to
that module or one around it. -/
def scope? (here : Place) : Visibility → Option Scope
  | inherited => some (.inside here)
  | everyone => some .everywhere
  | within _ path =>
    ((here.named? (pathNames path)).filter fun m => m.isPrefixOf here).map Scope.inside

/-- **Whether a declaration may be used**, which stands in one module, by those in another. -/
def Reaches (v : Visibility) (here there : Place) : Prop :=
  ∃ s, v.scope? here = some s ∧ s.Admits there

variable {here there place : Place} {hasIn : Bool} {path : Node} {x y : Ident}

theorem reaches_inherited : inherited.Reaches here there ↔ here <+: there := by
  constructor
  · rintro ⟨s, hs, h⟩
    obtain rfl := Option.some.inj hs
    exact h
  · exact fun h => ⟨_, rfl, h⟩

theorem reaches_everyone : everyone.Reaches here there := ⟨_, rfl, trivial⟩

/-- A path says inside which module a declaration may be used. -/
theorem reaches_within : (within hasIn path).Reaches here there ↔
    ∃ m, here.named? (pathNames path) = some m ∧ m <+: here ∧ m <+: there := by
  simp only [Reaches, scope?, Option.map_eq_some_iff, Option.filter_eq_some_iff,
    List.isPrefixOf_iff_prefix]
  constructor
  · rintro ⟨_, ⟨m, ⟨hm, hhere⟩, rfl⟩, hthere⟩
    exact ⟨m, hm, hhere, hthere⟩
  · rintro ⟨m, hm, hhere, hthere⟩
    exact ⟨_, ⟨m, ⟨hm, hhere⟩, rfl⟩, hthere⟩

/-! ## Neighbours -/

theorem not_prefix_outside : ¬place ++ [x] <+: place := fun h =>
  absurd h.length_le (by simp)

/-- Whether what stands in a module inside a place is open to the place, by what its visibility
says there. -/
def IsOpen (place : Place) (x : Ident) : Visibility → Prop
  | inherited => False
  | everyone => True
  | within _ path => ∃ m, Place.named? (place ++ [x]) (pathNames path) = some m ∧ m <+: place

/-- **A place uses what stands in a module inside it** if that is open to it. -/
theorem reaches_outside_iff (v : Visibility) :
    v.Reaches (place ++ [x]) place ↔ v.IsOpen place x := by
  cases v with
  | inherited =>
    rw [reaches_inherited]
    exact iff_of_false not_prefix_outside id
  | everyone => exact iff_of_true reaches_everyone trivial
  | within hasIn path =>
    rw [reaches_within, IsOpen]
    refine exists_congr fun m => and_congr_right fun _ => and_iff_right_of_imp fun h => ?_
    exact h.trans (List.prefix_append place [x])

/-- A module around both of two neighbours is around their place. -/
theorem prefix_of_neighbours {m : Place} (hxy : x ≠ y) (hx : m <+: place ++ [x])
    (hy : m <+: place ++ [y]) : m <+: place := by
  obtain rfl | h := List.prefix_concat_iff.mp hx
  · have heq := hy.eq_of_length (by rw [List.length_append, List.length_append]; rfl)
    exact absurd (List.singleton_inj.mp (List.append_cancel_left heq)) hxy
  · exact h

/-- **A module uses what stands in its neighbour** just as the place around both does. -/
theorem reaches_sibling_iff (v : Visibility) (hxy : x ≠ y) :
    v.Reaches (place ++ [x]) (place ++ [y]) ↔ v.Reaches (place ++ [x]) place := by
  cases v with
  | inherited =>
    rw [reaches_inherited, reaches_inherited]
    refine ⟨fun h => prefix_of_neighbours hxy (List.prefix_refl _) h, fun h => ?_⟩
    exact h.trans (List.prefix_append place [y])
  | everyone => exact iff_of_true reaches_everyone reaches_everyone
  | within hasIn path =>
    rw [reaches_within, reaches_within]
    refine exists_congr fun m => and_congr_right fun _ => and_congr_right fun hx => ?_
    exact ⟨prefix_of_neighbours hxy hx, fun h => h.trans (List.prefix_append place [y])⟩

/-! ## Single words -/

/-- The visibility whose path is a single word. -/
def restricted (hasIn : Bool) (text : String) : Visibility := within hasIn (identPath (.plain text))

/-- What is for the whole package is open. -/
theorem isOpen_crate : (restricted hasIn "crate").IsOpen place x := ⟨[], rfl, List.nil_prefix⟩

/-- What is for the module around is open. -/
theorem isOpen_super : (restricted hasIn "super").IsOpen place x := by
  refine ⟨place, ?_, List.prefix_refl place⟩
  have hne : place ++ [x] ≠ [] := List.append_ne_nil_of_right_ne_nil place (List.cons_ne_nil x [])
  change (Place.around? (place ++ [x])).bind _ = _
  rw [Place.around?, if_neg hne, List.dropLast_concat]
  rfl

/-- **What a module keeps to itself** is not open. -/
theorem not_isOpen_self : ¬(restricted hasIn "self").IsOpen place x := by
  rintro ⟨m, hm, h⟩
  obtain rfl := Option.some.inj hm
  exact not_prefix_outside h

end Visibility

end RestLoom.Source
