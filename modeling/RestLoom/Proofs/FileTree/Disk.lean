import RestLoom.Proofs.FileTree.Changes

/-!
# Proofs/FileTree/Disk — files with several names, and links

    out/a.tmp ──link──▸ notes          write out/a.tmp  ──▸  notes : the text

In a tree of files (`FileTree`) every file has one name.  On a disk a file may stand at several
places, and a link stands for the place that it points to, so writing to one name may change what
another one holds.  What a disk does is given as relations: each says how an operation goes if it
succeeds, and nothing says that it does.

A name is its own (`IsOwn`) if it is no link and its file has no other one.  Writing to such a name
changes what it holds, and nothing else (`Fills.held_eq`); so does moving it (`Relinks.held_eq`).
-/

namespace RestLoom.FileTree

variable {p q r : Place} {c : List Char} {cs ds : List (List Char)} {l : Location}

/-- What stands at a place of a disk. -/
inductive Disk.Node where
  /-- A file, by its number: it may stand at other places as well. -/
  | file (number : Nat)
  | directory
  /-- A link to a location. -/
  | link (target : Location)
  /-- Something else that can be written to, such as a pipe. -/
  | device

/-- A disk: what stands at each place, what each file holds, and the directory from which relative
locations are followed. -/
structure Disk where
  node : Place → Option Disk.Node
  text : Nat → String
  home : Place

/-- What is found at a place of a disk. -/
inductive Held where
  | file (text : String)
  | directory
  | link (target : Location)
  | device
  deriving DecidableEq

/-- What is found where something stands, given the texts of files. -/
def Disk.Node.held (text : Nat → String) : Disk.Node → Held
  | .file i => .file (text i)
  | .directory => .directory
  | .link l => .link l
  | .device => .device

/-- Where the parts of a location are followed from. -/
def Location.start (l : Location) (base : Place) : Place := if l.isAbsolute then [] else base

/-- A part of a location that names something. -/
structure IsPart (c : List Char) : Prop where
  ne_nil : c ≠ []
  ne_dot : c ≠ ['.']
  ne_dots : c ≠ ['.', '.']

namespace Disk

variable {d d' : Disk}

/-- What is found at a place. -/
def held (d : Disk) (p : Place) : Option Held := (d.node p).map (Node.held d.text)

/-- Whatever stands on a disk stands in a directory. -/
structure IsDisk (d : Disk) : Prop where
  top : d.node [] = some .directory
  home : d.node d.home = some .directory
  inside : ∀ p n x, d.node (p ++ [n]) = some x → d.node p = some .directory

/-- The disk with something else at a place. -/
def place (d : Disk) (p : Place) (x : Option Node) : Disk :=
  { d with node := Function.update d.node p x }

/-- The disk with another text in a file. -/
def fill (d : Disk) (i : Nat) (text : String) : Disk :=
  { d with text := Function.update d.text i text }

/-! ## Following locations -/

/-- **Where parts lead** from a directory, links being followed. -/
inductive Leads (d : Disk) : Place → List (List Char) → Place → Prop
  | here {p : Place} : d.Leads p [] p
  | skip {p q : Place} {c : List Char} {cs : List (List Char)} (hc : c = [] ∨ c = ['.'])
    (h : d.Leads p cs q) : d.Leads p (c :: cs) q
  | up {p q : Place} {cs : List (List Char)} (h : d.Leads p.dropLast cs q) :
    d.Leads p (['.', '.'] :: cs) q
  | down {p q : Place} {c : List Char} {cs : List (List Char)} (hc : IsPart c)
    (hnode : d.node (p ++ [c]) = some .directory) (h : d.Leads (p ++ [c]) cs q) :
    d.Leads p (c :: cs) q
  | link {p q r : Place} {c : List Char} {cs : List (List Char)} {l : Location} (hc : IsPart c)
    (hnode : d.node (p ++ [c]) = some (.link l))
    (hlink : d.Leads (l.start p) l.partsReversed.reverse r) (h : d.Leads r cs q) :
    d.Leads p (c :: cs) q

/-- Where a location leads. -/
def LeadsTo (d : Disk) (l : Location) (p : Place) : Prop :=
  d.Leads (l.start d.home) l.partsReversed.reverse p

/-- Whether a location leads to a directory. -/
def IsDirectory (d : Disk) (l : Location) : Prop := IsUsable l ∧ ∃ p, d.LeadsTo l p

/-- **What a location names**, from a directory: a name in the directory that the parts before it
lead to. -/
structure Names (d : Disk) (base : Place) (l : Location) (p : Place) (n : List Char)
    (slash : Bool) : Prop where
  usable : IsUsable l
  found : ∃ before, components l = (before, .name n slash) ∧ d.Leads (l.start base) before p

/-- **The place that a location stands for** when it is opened: a link at the end is followed
too. -/
inductive Opens (d : Disk) : Place → Location → Place → Prop
  | name {base p : Place} {l : Location} {n : List Char} (hname : d.Names base l p n false)
    (hnode : ∀ l', d.node (p ++ [n]) ≠ some (.link l')) : d.Opens base l (p ++ [n])
  | link {base p q : Place} {l l' : Location} {n : List Char} (hname : d.Names base l p n false)
    (hnode : d.node (p ++ [n]) = some (.link l')) (hopen : d.Opens p l' q) : d.Opens base l q

/-! ## Operations -/

/-- Writing at a place: a file gets another text, and where nothing stands a new file is made. -/
inductive Fills (d : Disk) (p : Place) (text : String) : Disk → Prop
  | file {i : Nat} (hnode : d.node p = some (.file i)) : d.Fills p text (d.fill i text)
  | new {i : Nat} (hnode : d.node p = none) (hfree : ∀ q, d.node q ≠ some (.file i)) :
    d.Fills p text ((d.place p (some (.file i))).fill i text)
  | device (hnode : d.node p = some .device) : d.Fills p text d

/-- Moving what stands at a place to another one.  Nothing happens if both have the same file; a
directory is not moved. -/
inductive Relinks (d : Disk) (p q : Place) : Disk → Prop
  | same {i : Nat} (hp : d.node p = some (.file i)) (hq : d.node q = some (.file i)) :
    d.Relinks p q d
  | moved {x : Node} (hp : d.node p = some x) (hx : x ≠ .directory)
    (hq : d.node q ≠ some .directory) (hne : ∀ i, x = .file i → d.node q ≠ some (.file i)) :
    d.Relinks p q ((d.place p none).place q (some x))

/-- Reading a file. -/
def Reads (d : Disk) (l : Location) (text : String) : Prop :=
  ∃ p i, d.Opens d.home l p ∧ d.node p = some (.file i) ∧ text = d.text i

/-- Writing a file. -/
def Writes (d : Disk) (l : Location) (text : String) (d' : Disk) : Prop :=
  ∃ p, d.Opens d.home l p ∧ d.Fills p text d'

/-- Moving a file, or a link as it is. -/
def Renames (d : Disk) (source target : Location) (d' : Disk) : Prop :=
  ∃ p n slash q m, d.Names d.home source p n slash ∧ d.Names d.home target q m false ∧
    d.Relinks (p ++ [n]) (q ++ [m]) d'

/-- Making a directory inside one that is there. -/
def Makes (d : Disk) (l : Location) (d' : Disk) : Prop :=
  ∃ p n slash, d.Names d.home l p n slash ∧ d.node (p ++ [n]) = none ∧
    d' = d.place (p ++ [n]) (some .directory)

/-! ## What operations change -/

/-- A name that stands for nothing but itself: it is no link, and its file has no other one. -/
def IsOwn (d : Disk) (p : Place) : Prop :=
  ∀ x, d.node p = some x → x = .directory ∨
    ∃ i, x = .file i ∧ ∀ q, d.node q = some (.file i) → q = p

@[simp] theorem node_place (d : Disk) (p : Place) (x : Option Node) (q : Place) :
    (d.place p x).node q = if q = p then x else d.node q := Function.update_apply _ _ _ _

@[simp] theorem node_fill (d : Disk) (i : Nat) (text : String) (q : Place) :
    (d.fill i text).node q = d.node q := rfl

theorem text_fill (d : Disk) (i : Nat) (text : String) (j : Nat) :
    (d.fill i text).text j = if j = i then text else d.text j := Function.update_apply _ _ _ _

/-- What is found at a place depends on what stands there and on the text of its file. -/
theorem held_congr (hnode : d'.node p = d.node p)
    (htext : ∀ i, d.node p = some (.file i) → d'.text i = d.text i) : d'.held p = d.held p := by
  rw [held, held, hnode]
  refine Option.map_congr fun x hx => ?_
  cases x with
  | file i => rw [Node.held, Node.held, htext i hx]
  | directory => rfl
  | link l => rfl
  | device => rfl

theorem held_eq_some {x : Node} (h : d.node p = some x) : d.held p = some (x.held d.text) := by
  rw [held, h, Option.map_some]

theorem held_eq_none (h : d.node p = none) : d.held p = none := by
  rw [held, h, Option.map_none]

/-- The file of an own name. -/
theorem IsOwn.file {i : Nat} (h : d.IsOwn p) (hp : d.node p = some (.file i))
    (hq : d.node q = some (.file i)) : q = p := by
  obtain ⟨⟨⟩⟩ | ⟨j, heq, hall⟩ := h _ hp
  cases heq
  exact hall q hq

theorem IsOwn.not_link (h : d.IsOwn p) : d.node p ≠ some (.link l) := by
  intro hp
  obtain ⟨⟨⟩⟩ | ⟨j, ⟨⟩, -⟩ := h _ hp

theorem isOwn_of_node_eq_none (h : d.node p = none) : d.IsOwn p := by
  intro x hx
  rw [h] at hx
  cases hx

/-- A name stays its own if nothing new has come to stand there, nor its file anywhere else. -/
theorem IsOwn.mono (h : d.IsOwn p) (hnode : ∀ x, d'.node p = some x → d.node p = some x)
    (hfile : ∀ i q, q ≠ p → d.node p = some (.file i) → d'.node q = some (.file i) →
      d.node q = some (.file i)) : d'.IsOwn p := by
  intro x hx
  refine (h x (hnode x hx)).imp_right ?_
  rintro ⟨i, rfl, hall⟩
  refine ⟨i, rfl, fun q hq => ?_⟩
  by_contra hne
  exact hne (hall q (hfile i q hne (hnode _ hx) hq))

/-- Own names stay their own when a directory is made. -/
theorem IsOwn.place_directory (h : d.IsOwn p) (hne : q ≠ p) :
    (d.place q (some .directory)).IsOwn p := by
  refine h.mono (fun x hx => ?_) fun i r _ _ hr => ?_
  · rwa [node_place, if_neg hne.symm] at hx
  · rw [node_place] at hr
    split at hr
    · cases hr
    · exact hr

/-- **Writing to an own name** gives it a file of its own. -/
theorem Fills.exists_file {text : String} (hown : d.IsOwn p) (h : d.Fills p text d') :
    ∃ i, d'.node p = some (.file i) ∧ (∀ q, d'.node q = some (.file i) → q = p) ∧
      d'.text i = text ∧ (∀ q, q ≠ p → d'.node q = d.node q) ∧
      (∀ j, j ≠ i → d'.text j = d.text j) ∧ d'.home = d.home ∧ d.node p ≠ some .directory := by
  cases h with
  | @file i hnode =>
    refine ⟨i, hnode, fun q hq => hown.file hnode hq, ?_, fun _ _ => rfl, fun j hj => ?_, rfl, ?_⟩
    · rw [text_fill, if_pos rfl]
    · rw [text_fill, if_neg hj]
    · rw [hnode]
      rintro ⟨⟩
  | @new i hnode hfree =>
    refine ⟨i, ?_, fun q hq => ?_, ?_, fun q hq => ?_, fun j hj => ?_, rfl, ?_⟩
    · rw [node_fill, node_place, if_pos rfl]
    · rw [node_fill, node_place] at hq
      split at hq
      next heq => exact heq
      next => exact absurd hq (hfree q)
    · rw [text_fill, if_pos rfl]
    · rw [node_fill, node_place, if_neg hq]
    · rw [text_fill, if_neg hj]
      rfl
    · rw [hnode]
      rintro ⟨⟩
  | device hnode =>
    obtain ⟨⟨⟩⟩ | ⟨i, ⟨⟩, -⟩ := hown _ hnode

/-- **Writing to an own name** changes what it holds, and nothing else. -/
theorem Fills.held_eq {text : String} (hown : d.IsOwn p) (h : d.Fills p text d') (q : Place) :
    d'.held q = if q = p then some (.file text) else d.held q := by
  obtain ⟨i, hfile, halone, rfl, hnode, htext, -⟩ := h.exists_file hown
  split
  next heq =>
    rw [heq]
    exact held_eq_some hfile
  next hne =>
    refine held_congr (hnode q hne) fun j hj => htext j ?_
    rintro rfl
    exact hne (halone q ((hnode q hne).trans hj))

/-- Own names stay their own when one of them is written to. -/
theorem Fills.isOwn {text : String} (hown : d.IsOwn p) (h : d.Fills p text d')
    (hq : d.IsOwn q) : d'.IsOwn q := by
  obtain ⟨i, hfile, halone, -, hnode, -⟩ := h.exists_file hown
  by_cases heq : q = p
  · subst heq
    intro x hx
    obtain rfl := Option.some.inj (hx.symm.trans hfile)
    exact .inr ⟨i, rfl, halone⟩
  · refine hq.mono (fun x hx => (hnode q heq).symm.trans hx) fun j r _ hqj hr => ?_
    by_cases hrp : r = p
    · rw [hrp, hfile] at hr
      cases hr
      exact absurd (halone q ((hnode q heq).trans hqj)) heq
    · exact (hnode r hrp).symm.trans hr

/-- **Moving an own name** moves its file. -/
theorem Relinks.exists_file (hown : d.IsOwn p) (hne : q ≠ p) (h : d.Relinks p q d') :
    ∃ i, d.node p = some (.file i) ∧ d.node q ≠ some .directory ∧
      d' = (d.place p none).place q (some (.file i)) := by
  cases h with
  | same hp hq => exact absurd (hown.file hp hq) hne
  | moved hp hx hq _ =>
    obtain rfl | ⟨i, rfl, -⟩ := hown _ hp
    · exact absurd rfl hx
    · exact ⟨i, hp, hq, rfl⟩

theorem node_moved (d : Disk) (p q : Place) (x : Node) (r : Place) :
    ((d.place p none).place q (some x)).node r =
      if r = q then some x else if r = p then none else d.node r := by
  rw [node_place, node_place]

/-- **Moving an own name** moves what it holds, and changes nothing else. -/
theorem Relinks.held_eq (hown : d.IsOwn p) (hne : q ≠ p) (h : d.Relinks p q d') (r : Place) :
    d'.held r = if r = q then d.held p else if r = p then none else d.held r := by
  obtain ⟨i, hp, -, rfl⟩ := h.exists_file hown hne
  have hnode := node_moved d p q (.file i) r
  split at hnode
  next heq => rw [if_pos heq, held_eq_some hnode, held_eq_some hp, Node.held, Node.held]; rfl
  next hrq =>
    rw [if_neg hrq]
    split at hnode
    next heq => rw [if_pos heq, held_eq_none hnode]
    next hrp =>
      rw [if_neg hrp]
      exact held_congr hnode fun _ _ => rfl

/-- Own names stay their own when one of them is moved to a name of another kind. -/
theorem Relinks.isOwn (hown : d.IsOwn p) (hne : q ≠ p) (h : d.Relinks p q d') (hr : d.IsOwn r)
    (hrq : r ≠ q) : d'.IsOwn r := by
  obtain ⟨i, hp, -, rfl⟩ := h.exists_file hown hne
  have hnode (s : Place) {x : Node} (hs : s ≠ q)
      (hx : ((d.place p none).place q (some (.file i))).node s = some x) : d.node s = some x := by
    rw [node_moved, if_neg hs] at hx
    split at hx
    · cases hx
    · exact hx
  by_cases hrp : r = p
  · refine isOwn_of_node_eq_none ?_
    rw [node_moved, if_neg hrq, if_pos hrp]
  · refine hr.mono (fun x hx => hnode r hrq hx) fun j s _ hrj hs => ?_
    by_cases hsq : s = q
    · rw [hsq, node_moved, if_pos rfl] at hs
      cases hs
      exact absurd (hr.file hrj hp).symm hrp
    · exact hnode s hsq hs

/-- What an own name is moved to is its own. -/
theorem Relinks.isOwn_target (hown : d.IsOwn p) (hne : q ≠ p) (h : d.Relinks p q d') :
    d'.IsOwn q := by
  obtain ⟨i, hp, -, rfl⟩ := h.exists_file hown hne
  intro x hx
  rw [node_moved, if_pos rfl] at hx
  refine .inr ⟨i, (Option.some.inj hx).symm, fun r hr => ?_⟩
  rw [node_moved] at hr
  split at hr
  next heq => exact heq
  next =>
    split at hr
    · cases hr
    next hrp => exact absurd (hown.file hp hr) hrp

end Disk

end RestLoom.FileTree
