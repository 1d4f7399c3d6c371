import RestLoom.Proofs.FileTree.Disk

/-!
# Proofs/FileTree/Ways — where locations lead on a disk

    out/../gen/a.rs   ──▸   a.rs in the directory that out/../gen leads to

A location leads to one place at most (`Leads.unique`).  The files inside a location are in the
directory that it leads to (`Names.inside`), and if it leads anywhere, so do the ones around it
(`LeadsTo.parent?`).

Writing files, and moving them, makes no way: whatever leads somewhere afterwards led there before
(`KeepsWays.leads`), and nothing on a way that has been there can be made (`KeepsWays.eq_of_makes`).
-/

namespace RestLoom.FileTree.Disk

open Location (around partsInside trimmed ofPartsReversed IsFileName)

variable {d o s s' : Disk} {p q r base : Place} {c n : List Char} {cs ds : List (List Char)}
  {l a dir : Location} {name : List Char} {slash : Bool}

/-! ## Parts -/

/-- **Parts lead to one place** at most. -/
theorem Leads.unique (h : d.Leads p cs q) (h' : d.Leads p cs r) : q = r := by
  induction h generalizing r with
  | here =>
    cases h'
    rfl
  | skip hc _ ih =>
    cases h' with
    | skip _ h' => exact ih h'
    | up _ => obtain ⟨⟨⟩⟩ | ⟨⟨⟩⟩ := hc
    | down hpart => exact absurd hc (not_or.mpr ⟨hpart.ne_nil, hpart.ne_dot⟩)
    | link hpart => exact absurd hc (not_or.mpr ⟨hpart.ne_nil, hpart.ne_dot⟩)
  | up _ ih =>
    cases h' with
    | skip hc => obtain ⟨⟨⟩⟩ | ⟨⟨⟩⟩ := hc
    | up h' => exact ih h'
    | down hpart => exact absurd rfl hpart.ne_dots
    | link hpart => exact absurd rfl hpart.ne_dots
  | down hpart hnode _ ih =>
    cases h' with
    | skip hc => exact absurd hc (not_or.mpr ⟨hpart.ne_nil, hpart.ne_dot⟩)
    | up _ => exact absurd rfl hpart.ne_dots
    | down _ _ h' => exact ih h'
    | link _ hnode' =>
      rw [hnode] at hnode'
      cases hnode'
  | link hpart hnode _ _ ihlink ih =>
    cases h' with
    | skip hc => exact absurd hc (not_or.mpr ⟨hpart.ne_nil, hpart.ne_dot⟩)
    | up _ => exact absurd rfl hpart.ne_dots
    | down _ hnode' =>
      rw [hnode] at hnode'
      cases hnode'
    | link _ hnode' hlink' h' =>
      cases hnode.symm.trans hnode'
      obtain rfl := ihlink hlink'
      exact ih h'

theorem Leads.append (h : d.Leads p cs q) (h' : d.Leads q ds r) : d.Leads p (cs ++ ds) r := by
  induction h with
  | here => exact h'
  | skip hc _ ih => exact .skip hc (ih h')
  | up _ ih => exact .up (ih h')
  | down hc hnode _ ih => exact .down hc hnode (ih h')
  | link hc hnode hlink _ _ ih => exact .link hc hnode hlink (ih h')

/-- Parts lead somewhere through where the first ones lead. -/
theorem leads_append : d.Leads p (cs ++ ds) r ↔ ∃ q, d.Leads p cs q ∧ d.Leads q ds r := by
  refine ⟨fun h => ?_, fun ⟨q, h, h'⟩ => h.append h'⟩
  induction cs generalizing p with
  | nil => exact ⟨p, .here, h⟩
  | cons c cs ih =>
    cases h with
    | skip hc h =>
      obtain ⟨q, hq, hr⟩ := ih h
      exact ⟨q, .skip hc hq, hr⟩
    | up h =>
      obtain ⟨q, hq, hr⟩ := ih h
      exact ⟨q, .up hq, hr⟩
    | down hc hnode h =>
      obtain ⟨q, hq, hr⟩ := ih h
      exact ⟨q, .down hc hnode hq, hr⟩
    | link hc hnode hlink h =>
      obtain ⟨q, hq, hr⟩ := ih h
      exact ⟨q, .link hc hnode hlink hq, hr⟩

/-- A part that names nothing leads nowhere else. -/
theorem leads_concat_skip (hc : c = [] ∨ c = ['.']) :
    d.Leads p (cs ++ [c]) q ↔ d.Leads p cs q := by
  rw [leads_append]
  constructor
  · rintro ⟨r, h, hlast⟩
    obtain rfl := hlast.unique (.skip hc .here)
    exact h
  · exact fun h => ⟨q, h, .skip hc .here⟩

theorem leads_trimmed (absolute : Bool) (ps : List (List Char)) :
    d.Leads p (trimmed absolute ps).reverse q ↔ d.Leads p ps.reverse q := by
  induction ps with
  | nil => exact Iff.rfl
  | cons part ps ih =>
    rw [trimmed]
    split
    next hskip =>
      rw [ih, List.reverse_cons, leads_concat_skip (hskip.imp_right And.left)]
    next => exact Iff.rfl

theorem leads_dropWhile (ps : List (List Char)) :
    d.Leads p (ps.dropWhile (· == [])).reverse q ↔ d.Leads p ps.reverse q := by
  induction ps with
  | nil => exact Iff.rfl
  | cons part ps ih =>
    rw [List.dropWhile_cons]
    split
    next hnil =>
      rw [ih, List.reverse_cons, leads_concat_skip (.inl (by simpa using hnil))]
    next => exact Iff.rfl

/-- What a name leads to stands there, as a directory or as a link. -/
theorem Leads.node_ne_none (hc : IsPart c) (h : d.Leads p [c] q) :
    d.node (p ++ [c]) = some .directory ∨ ∃ l, d.node (p ++ [c]) = some (.link l) := by
  cases h with
  | skip hskip => exact absurd hskip (not_or.mpr ⟨hc.ne_nil, hc.ne_dot⟩)
  | up _ => exact absurd rfl hc.ne_dots
  | down _ hnode => exact .inl hnode
  | link _ hnode => exact .inr ⟨_, hnode⟩

section
variable (hdisk : d.IsDisk)
include hdisk

theorem IsDisk.node_start (hp : d.node p = some .directory) (l : Location) :
    d.node (l.start p) = some .directory := by
  rw [Location.start]
  split
  · exact hdisk.top
  · exact hp

/-- **Parts lead to a directory** from one. -/
theorem Leads.node_eq (h : d.Leads p cs q) (hp : d.node p = some .directory) :
    d.node q = some .directory := by
  induction h with
  | here => exact hp
  | skip _ _ ih => exact ih hp
  | @up p q cs _ ih =>
    refine ih ?_
    obtain rfl | ⟨r, n, rfl⟩ := p.eq_nil_or_concat'
    · exact hp
    · rw [List.dropLast_concat]
      exact hdisk.inside r n _ hp
  | down _ hnode _ ih => exact ih hnode
  | link _ _ _ _ ihlink ih => exact ih (ihlink (hdisk.node_start hp _))

theorem LeadsTo.node_eq (h : d.LeadsTo l p) : d.node p = some .directory :=
  Leads.node_eq hdisk h (hdisk.node_start hdisk.home l)

end

/-! ## Locations -/

/-- **The components of a location** lead where all its parts do. -/
theorem leads_components {before : List (List Char)} {name : List Char}
    (h : components l = (before, .name name slash)) :
    IsPart name ∧ (d.Leads p l.partsReversed.reverse q ↔ d.Leads p (before ++ [name]) q) := by
  obtain ⟨hne, hdot, hdots⟩ := name_of_components h
  refine ⟨⟨hne, hdot, hdots⟩, ?_⟩
  rw [← leads_dropWhile]
  rw [components] at h
  cases hparts : l.partsReversed.dropWhile (· == []) with
  | nil =>
    rw [hparts] at h
    cases h
  | cons part ps =>
    rw [hparts] at h
    dsimp only at h
    split at h
    · cases h
    · cases h
      rw [List.reverse_cons]

theorem leadsTo_iff (dir : Location) :
    d.LeadsTo dir p ↔ d.Leads (dir.start d.home) (partsInside dir).reverse p := by
  rw [LeadsTo, ← leads_trimmed dir.isAbsolute, Location.trimmed_partsReversed, leads_trimmed]

/-- **The directory around the files of a location** is where the location leads. -/
theorem leadsTo_around (dir : Location) : d.LeadsTo (around dir) p ↔ d.LeadsTo dir p := by
  obtain ⟨habsolute, hparts⟩ := Location.partsReversed_around dir
  have hstart : (around dir).start d.home = dir.start d.home := by
    rw [Location.start, Location.start, habsolute]
  rw [leadsTo_iff dir, LeadsTo, hstart, ← leads_trimmed dir.isAbsolute (partsInside dir)]
  obtain hparts | ⟨hnil, hparts⟩ := hparts
  · rw [hparts]
  · rw [hparts, hnil]
    exact @leads_concat_skip d _ _ _ [] (.inl rfl)

theorem components_inside (dir : Location) (hname : IsFileName name) :
    components (dir.inside ⟨name⟩) = ((partsInside dir).reverse, .name name false) := by
  have hhead : (some name == some []) = false :=
    beq_false_of_ne fun h => hname.ne_nil (Option.some.inj h)
  rw [components, (Location.partsReversed_inside dir hname).1, List.dropWhile_cons,
    if_neg (by simpa using hname.ne_nil)]
  dsimp only
  rw [if_neg (not_or.mpr ⟨hname.ne_dot, hname.ne_dots⟩), List.head?_cons, hhead]

/-- **The files inside a location** are in the directory that it leads to. -/
theorem Names.inside (hname : IsFileName name)
    (h : d.Names d.home (dir.inside ⟨name⟩) p n slash) : d.LeadsTo dir p ∧ n = name := by
  obtain ⟨before, heq, hleads⟩ := h.found
  rw [components_inside dir hname] at heq
  cases heq
  have hstart : (dir.inside ⟨n⟩).start d.home = dir.start d.home := by
    rw [Location.start, Location.start, (Location.partsReversed_inside dir hname).2]
  rw [hstart] at hleads
  exact ⟨(leadsTo_iff dir).mpr hleads, rfl⟩

/-- No text leads to the directory where one is. -/
theorem leadsTo_of_text (h : l.text = []) : d.LeadsTo l d.home := by
  obtain rfl : l = ⟨[]⟩ := congrArg Location.mk h
  exact .skip (.inl rfl) .here

/-- **What is around a directory** is a directory. -/
theorem LeadsTo.parent? (h : d.LeadsTo l p) (ha : l.parent? = some a) : ∃ q, d.LeadsTo a q := by
  rw [Location.parent?] at ha
  cases hparts : trimmed l.isAbsolute l.partsReversed with
  | nil =>
    rw [hparts] at ha
    cases ha
  | cons part ps =>
    rw [hparts] at ha
    obtain rfl := Option.some.inj ha
    by_cases hnil : trimmed l.isAbsolute ps = []
    · rw [hnil]
      cases l.isAbsolute with
      | false => exact ⟨_, leadsTo_of_text rfl⟩
      | true => exact ⟨[], .skip (.inl rfl) .here⟩
    · have htext : l.text ≠ [] := by
        rintro htext
        obtain rfl : l = ⟨[]⟩ := congrArg Location.mk htext
        cases hparts
      have hsuffix : trimmed l.isAbsolute ps <:+ l.partsReversed :=
        (Location.trimmed_suffix _ ps).trans ((List.suffix_cons part ps).trans
          (hparts ▸ Location.trimmed_suffix _ _))
      obtain ⟨habsolute, hfront⟩ := Location.partsReversed_of_suffix hnil htext hsuffix
      rw [LeadsTo, ← leads_trimmed l.isAbsolute, hparts, List.reverse_cons, leads_append] at h
      obtain ⟨q, hq, -⟩ := h
      refine ⟨q, ?_⟩
      rw [LeadsTo, hfront, leads_trimmed, Location.start, habsolute]
      exact hq

/-! ## Ways that stay -/

/-- **Whether a disk has the ways of an earlier one**: directories are kept, no directory and no
link has come, and where a link stood something stands.  One directory may be missing yet. -/
structure KeepsWays (D : Place) (o s : Disk) : Prop where
  home : s.home = o.home
  directories : ∀ p, s.node p = some .directory → o.node p = some .directory
  links : ∀ p l, s.node p = some (.link l) → o.node p = some (.link l)
  kept : ∀ p, p ≠ D → o.node p = some .directory → s.node p = some .directory
  standing : ∀ p l, o.node p = some (.link l) → s.node p ≠ none

namespace KeepsWays

variable {D : Place}

theorem refl (o : Disk) : KeepsWays D o o where
  home := rfl
  directories _ h := h
  links _ _ h := h
  kept _ _ h := h
  standing _ _ h := Option.ne_none_iff_exists'.mpr ⟨_, h⟩

variable (h : KeepsWays D o s)
include h

/-- **Whatever leads somewhere led there before.** -/
theorem leads (hs : s.Leads p cs q) : o.Leads p cs q := by
  induction hs with
  | here => exact .here
  | skip hc _ ih => exact .skip hc ih
  | up _ ih => exact .up ih
  | down hc hnode _ ih => exact .down hc (h.directories _ hnode) ih
  | link hc hnode _ _ ihlink ih => exact .link hc (h.links _ _ hnode) ihlink ih

theorem leadsTo (hs : s.LeadsTo l p) : o.LeadsTo l p := by
  rw [LeadsTo, h.home] at hs
  exact h.leads hs

/-- **Nothing on a way** that has been there can be made but the directory that is missing. -/
theorem eq_of_makes (ho : o.LeadsTo l q) (hmake : s.Makes l s') :
    s.node D = none ∧ s' = s.place D (some .directory) := by
  obtain ⟨p, n, slash, ⟨-, before, hcomponents, hbefore⟩, hnone, rfl⟩ := hmake
  obtain ⟨hpart, hiff⟩ := leads_components (d := o) (p := l.start o.home) (q := q) hcomponents
  obtain ⟨p', hp', hlast⟩ := leads_append.mp (hiff.mp ho)
  rw [h.home] at hbefore
  obtain rfl := (h.leads hbefore).unique hp'
  by_cases heq : p ++ [n] = D
  · rw [← heq]
    exact ⟨hnone, rfl⟩
  · obtain hdirectory | ⟨l', hlink⟩ := hlast.node_ne_none hpart
    · rw [h.kept _ heq hdirectory] at hnone
      cases hnone
    · exact absurd hnone (h.standing _ l' hlink)

omit h in
/-- A disk has the ways that it will have when a directory is made. -/
theorem of_place (hnone : d.node D = none) :
    KeepsWays D (d.place D (some .directory)) d where
  home := rfl
  directories p hp := by
    rw [node_place]
    split
    · rfl
    · exact hp
  links p l hp := by
    rw [node_place, if_neg]
    · exact hp
    · rintro rfl
      cases hnone.symm.trans hp
  kept p hne hp := by rwa [node_place, if_neg hne] at hp
  standing p l hp := by
    rw [node_place] at hp
    split at hp
    · cases hp
    · exact Option.ne_none_iff_exists'.mpr ⟨_, hp⟩

/-- The missing directory is made. -/
theorem place (hD : o.node D = some .directory) :
    KeepsWays D o (s.place D (some .directory)) where
  home := h.home
  directories p hp := by
    rw [node_place] at hp
    split at hp
    next heq => rw [heq, hD]
    next => exact h.directories p hp
  links p l hp := by
    rw [node_place] at hp
    split at hp
    · cases hp
    · exact h.links p l hp
  kept p hne hp := by
    rw [node_place, if_neg hne]
    exact h.kept p hne hp
  standing p l hp := by
    rw [node_place]
    split
    · rintro ⟨⟩
    · exact h.standing p l hp

/-- **Writing to an own name** makes no way. -/
theorem fills {text : String} (hown : s.IsOwn p) (hfill : s.Fills p text s') :
    KeepsWays D o s' := by
  obtain ⟨i, hfile, -, -, hnode, -, hhome, hbefore⟩ := hfill.exists_file hown
  have hother {q : Place} {x : Node} (hq : s'.node q = some x) (hx : ∀ j, x ≠ .file j) :
      s.node q = some x := by
    rw [← hnode q]
    · exact hq
    · rintro rfl
      exact hx i (Option.some.inj (hq.symm.trans hfile))
  refine ⟨hhome.trans h.home, fun q hq => h.directories q (hother hq (by rintro j ⟨⟩)),
    fun q l hq => h.links q l (hother hq (by rintro j ⟨⟩)), fun q hne hq => ?_, fun q l hq => ?_⟩
  · have hkept := h.kept q hne hq
    rw [hnode q]
    · exact hkept
    · rintro rfl
      exact hbefore hkept
  · by_cases heq : q = p
    · rw [heq, hfile]
      rintro ⟨⟩
    · rw [hnode q heq]
      exact h.standing q l hq

/-- **Moving an own name** makes no way, if it has been its own before. -/
theorem relinks (hown : s.IsOwn p) (hbefore : o.IsOwn p) (hne : q ≠ p)
    (hmove : s.Relinks p q s') : KeepsWays D o s' := by
  obtain ⟨i, hfile, hq, rfl⟩ := hmove.exists_file hown hne
  have hother {r : Place} {x : Node} (hx : ∀ j, x ≠ .file j)
      (hr : ((s.place p none).place q (some (.file i))).node r = some x) : s.node r = some x := by
    rw [node_moved] at hr
    split at hr
    · exact absurd (Option.some.inj hr).symm (hx i)
    · split at hr
      · cases hr
      · exact hr
  refine ⟨h.home, fun r hr => h.directories r (hother (by rintro j ⟨⟩) hr),
    fun r l hr => h.links r l (hother (by rintro j ⟨⟩) hr), fun r hrD hr => ?_, fun r l hr => ?_⟩
  · have hkept := h.kept r hrD hr
    rw [node_moved, if_neg, if_neg]
    · exact hkept
    · rintro rfl
      cases hkept.symm.trans hfile
    · rintro rfl
      exact hq hkept
  · rw [node_moved]
    split
    · rintro ⟨⟩
    · rw [if_neg]
      · exact h.standing r l hr
      · rintro rfl
        exact hbefore.not_link hr

end KeepsWays

/-! ## Making a directory -/

/-- What leads somewhere does so where something has been made. -/
theorem Leads.place (hnone : d.node r = none) (x : Option Node) (h : d.Leads p cs q) :
    (d.place r x).Leads p cs q := by
  have hkept {s : Place} {y : Node} (hs : d.node s = some y) : (d.place r x).node s = some y := by
    rw [node_place, if_neg]
    · exact hs
    · rintro rfl
      rw [hnone] at hs
      cases hs
  induction h with
  | here => exact .here
  | skip hc _ ih => exact .skip hc ih
  | up _ ih => exact .up ih
  | down hc hnode _ ih => exact .down hc (hkept hnode) ih
  | link hc hnode _ _ ihlink ih => exact .link hc (hkept hnode) ihlink ih

/-- **A directory that is made** is where its location leads. -/
theorem Makes.leadsTo (h : d.Makes l s) :
    ∃ D, d.node D = none ∧ s = d.place D (some .directory) ∧ s.LeadsTo l D := by
  obtain ⟨p, n, slash, ⟨-, before, hcomponents, hbefore⟩, hnone, rfl⟩ := h
  refine ⟨p ++ [n], hnone, rfl, ?_⟩
  obtain ⟨hpart, hiff⟩ := leads_components (d := d.place (p ++ [n]) (some .directory))
    (p := l.start d.home) (q := p ++ [n]) hcomponents
  refine hiff.mpr ((hbefore.place hnone _).append (.down hpart ?_ .here))
  rw [node_place, if_pos rfl]

theorem Makes.usable (h : d.Makes l s) : IsUsable l := by
  obtain ⟨p, n, slash, hnames, -⟩ := h
  exact hnames.usable

end RestLoom.FileTree.Disk
