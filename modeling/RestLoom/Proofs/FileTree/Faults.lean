import RestLoom.Proofs.FileTree.Ways

/-!
# Proofs/FileTree/Faults — scripts on a disk, which may fail at any time

    d ──write out/a.tmp──▸  "" · "te" · "text"        or, cut off at any of them, an error

A disk may fail in any operation, with any error: reading is refused, a directory is not found,
making directories or writing a file stops half-way.  Whoever looks meanwhile sees the disks in
between (`Script.Runs`).  Only moving a file is all or nothing.

On a way that has been there, only the directory that is missing can be made
(`MakesAll.eq_of_leadsTo`).
-/

namespace RestLoom.FileTree

variable {d d₁ d' o s : Disk} {D q : Place} {l a : Location} {c : Change} {seen seen' : List Disk}
  {e : Option FileError}

/-! ## Changes -/

/-- **How making a directory and the ones around it may go**: the disks that are seen, the disk
at the end, and the error if it failed.  The directory may be made at once or after the one
around it. -/
inductive MakesAll : Disk → Location → List Disk → Disk → Option FileError → Prop
  | nothing {d : Disk} {l : Location} (h : l.text = []) : MakesAll d l [] d none
  | made {d d' : Disk} {l : Location} (h : d.Makes l d') : MakesAll d l [d'] d' none
  | there {d : Disk} {l : Location} (h : d.IsDirectory l) : MakesAll d l [] d none
  | failed {d : Disk} {l : Location} (e : FileError) : MakesAll d l [] d (some e)
  | around {d d₁ d' : Disk} {l a : Location} {seen seen' : List Disk} {e : Option FileError}
    (ha : l.parent? = some a) (haround : MakesAll d a seen d₁ none)
    (hrest : MakesAll d₁ l seen' d' e) : MakesAll d l (seen ++ seen') d' e
  | aroundFailed {d d₁ : Disk} {l a : Location} {seen : List Disk} {e : FileError}
    (ha : l.parent? = some a) (haround : MakesAll d a seen d₁ (some e)) :
    MakesAll d l seen d₁ (some e)

/-- **How a change may go.**  While a file is written it may hold anything, and it holds what it
holds when writing is cut off. -/
inductive Happens : Disk → Change → List Disk → Disk → Option FileError → Prop
  | refused {d : Disk} {c : Change} (e : FileError) : Happens d c [] d (some e)
  | directories {d d' : Disk} {l : Location} {seen : List Disk} {e : Option FileError}
    (h : MakesAll d l seen d' e) : Happens d (.makeDirectories l) seen d' e
  | written {d d' : Disk} {l : Location} {text : String} {seen : List Disk}
    (hparts : ∀ s ∈ seen, ∃ part, d.Writes l part s) (h : d.Writes l text d') :
    Happens d (.writeFile l text) (seen ++ [d']) d' none
  | cutOff {d d' : Disk} {l : Location} {text part : String} {seen : List Disk}
    (hparts : ∀ s ∈ seen, ∃ part, d.Writes l part s) (h : d.Writes l part d') (e : FileError) :
    Happens d (.writeFile l text) (seen ++ [d']) d' (some e)
  | moved {d d' : Disk} {source target : Location} (h : d.Renames source target d') :
    Happens d (.rename source target) [d'] d' none

/-! ## What is left -/

/-- The last of two lists after one another, with something before them. -/
theorem getLastD_append_eq (h : seen.getLastD d = d₁) (h' : seen'.getLastD d₁ = d') :
    (seen ++ seen').getLastD d = d' := by
  rw [← h', ← h]
  simp only [List.getLastD_eq_getLast?, List.getLast?_append, Option.getD_or]

theorem MakesAll.getLastD_eq (h : MakesAll d l seen d' e) : seen.getLastD d = d' := by
  induction h with
  | nothing _ => rfl
  | made _ => rfl
  | there _ => rfl
  | failed _ => rfl
  | around _ _ _ ih ih' => exact getLastD_append_eq ih ih'
  | aroundFailed _ _ ih => exact ih

theorem MakesAll.mem (h : MakesAll d l seen d' e) : d' ∈ d :: seen :=
  h.getLastD_eq ▸ List.getLastD_mem_cons

/-- What a change leaves is what is seen last. -/
theorem Happens.getLastD_eq (h : Happens d c seen d' e) : seen.getLastD d = d' := by
  cases h with
  | refused _ => rfl
  | directories h => exact h.getLastD_eq
  | written _ _ => exact getLastD_append_eq rfl rfl
  | cutOff _ _ _ => exact getLastD_append_eq rfl rfl
  | moved _ => rfl

theorem Happens.mem (h : Happens d c seen d' e) : d' ∈ d :: seen :=
  h.getLastD_eq ▸ List.getLastD_mem_cons

/-! ## Making directories -/

/-- **On a way that has been there**, the directory that is missing is made, or nothing. -/
theorem MakesAll.eq_of_leadsTo (h : MakesAll s l seen d' e) (hD : o.node D = some .directory)
    (hways : Disk.KeepsWays D o s) (ho : ∃ q, o.LeadsTo l q) :
    ∀ x ∈ s :: seen, x = s ∨ s.node D = none ∧ x = s.place D (some .directory) := by
  induction h with
  | nothing _ => exact List.forall_mem_singleton.mpr (.inl rfl)
  | made hmake =>
    obtain ⟨q, hq⟩ := ho
    exact List.forall_mem_cons.mpr ⟨.inl rfl, List.forall_mem_singleton.mpr
      (.inr (hways.eq_of_makes hq hmake))⟩
  | there _ => exact List.forall_mem_singleton.mpr (.inl rfl)
  | failed _ => exact List.forall_mem_singleton.mpr (.inl rfl)
  | around ha haround _ ih ih' =>
    obtain ⟨q, hq⟩ := ho
    have hfirst := ih hways (hq.parent? ha)
    intro x hx
    rw [← List.cons_append, List.mem_append] at hx
    obtain hx | hx := hx
    · exact hfirst x hx
    · obtain rfl | ⟨hnone, rfl⟩ := hfirst _ haround.mem
      · exact ih' hways ⟨q, hq⟩ x (List.mem_cons_of_mem _ hx)
      · -- it is there now, and cannot be made again
        refine .inr ⟨hnone, (ih' (hways.place hD) ⟨q, hq⟩ x
          (List.mem_cons_of_mem _ hx)).resolve_right ?_⟩
        rw [Disk.node_place, if_pos rfl]
        rintro ⟨⟨⟩, -⟩
  | aroundFailed ha _ ih =>
    obtain ⟨q, hq⟩ := ho
    exact ih hways (hq.parent? ha)

/-- **Where no directory is and none can be made**, nothing is made. -/
theorem MakesAll.eq_of_not_makes (h : MakesAll d l seen d' e) (hdisk : d.IsDisk)
    (hparent : ∀ a, l.parent? = some a → ∃ q, d.LeadsTo a q) (hnot : ∀ q, ¬d.LeadsTo l q)
    (hmake : ∀ s, ¬d.Makes l s) : e ≠ none ∧ ∀ x ∈ d :: seen, x = d := by
  have haround {d₁ : Disk} {a : Location} {seen : List Disk} {e : Option FileError}
      {d : Disk} (hdisk : d.IsDisk) (h : MakesAll d a seen d₁ e) (ha : ∃ q, d.LeadsTo a q) :
      ∀ x ∈ d :: seen, x = d := fun x hx =>
    (h.eq_of_leadsTo hdisk.top (.refl d) ha x hx).resolve_right fun ⟨hnone, _⟩ => by
      cases hnone.symm.trans hdisk.top
  induction h with
  | nothing h => exact absurd (Disk.leadsTo_of_text h) (hnot _)
  | made h => exact absurd h (hmake _)
  | there h =>
    obtain ⟨-, q, hq⟩ := h
    exact absurd hq (hnot q)
  | failed e => exact ⟨by rintro ⟨⟩, List.forall_mem_singleton.mpr rfl⟩
  | around ha hfirst _ _ ih =>
    have hsame := haround hdisk hfirst (hparent _ ha)
    obtain rfl := hsame _ hfirst.mem
    obtain ⟨he, hrest⟩ := ih hdisk hparent hnot hmake
    refine ⟨he, fun x hx => ?_⟩
    rw [← List.cons_append, List.mem_append] at hx
    exact hx.elim (hsame x) fun hx => hrest x (List.mem_cons_of_mem _ hx)
  | aroundFailed ha hfirst _ =>
    exact ⟨by rintro ⟨⟩, haround hdisk hfirst (hparent _ ha)⟩

/-! ## Scripts -/

namespace Script

variable {α β : Type}

/-- **How a script may go** on a system that may fail in any operation: the disks that are seen, the
disk at the end, and the value. -/
inductive Runs {α : Type} : Script α → Disk → List Disk → Disk → α → Prop
  | done (a : α) (d : Disk) : Runs (.done a) d [] d a
  | readFile {l : Location} {next : Except FileError String → Script α} {d d' : Disk}
    {seen : List Disk} {a : α} {r : Except FileError String}
    (hread : (∃ text, r = .ok text ∧ d.Reads l text) ∨ ∃ e, r = .error e)
    (hnext : Runs (next r) d seen d' a) : Runs (.readFile l next) d seen d' a
  | isDirectory {l : Location} {next : Bool → Script α} {d d' : Disk} {seen : List Disk}
    {a : α} {b : Bool} (hthere : b = true → d.IsDirectory l)
    (hnext : Runs (next b) d seen d' a) : Runs (.isDirectory l next) d seen d' a
  | change {c : Change} {next : Option FileError → Script α} {d d₁ d' : Disk}
    {seen seen' : List Disk} {a : α} {e : Option FileError} (hchange : Happens d c seen d₁ e)
    (hnext : Runs (next e) d₁ seen' d' a) : Runs (.change c next) d (seen ++ seen') d' a

/-- **A script after another one** runs after it. -/
theorem runs_bind {s : Script α} {f : α → Script β} {b : β} :
    (s >>= f).Runs d seen d' b ↔ ∃ seen₁ d₁ a seen₂, s.Runs d seen₁ d₁ a ∧
      (f a).Runs d₁ seen₂ d' b ∧ seen = seen₁ ++ seen₂ := by
  change (s.bind f).Runs d seen d' b ↔ _
  constructor
  · intro h
    induction s generalizing d seen with
    | done a => exact ⟨[], d, a, seen, .done a d, h, rfl⟩
    | readFile l next ih =>
      cases h with
      | readFile hread hnext =>
        obtain ⟨seen₁, d₁, a, seen₂, hs, hf, rfl⟩ := ih _ hnext
        exact ⟨seen₁, d₁, a, seen₂, .readFile hread hs, hf, rfl⟩
    | isDirectory l next ih =>
      cases h with
      | isDirectory hthere hnext =>
        obtain ⟨seen₁, d₁, a, seen₂, hs, hf, rfl⟩ := ih _ hnext
        exact ⟨seen₁, d₁, a, seen₂, .isDirectory hthere hs, hf, rfl⟩
    | change c next ih =>
      cases h with
      | change hchange hnext =>
        obtain ⟨seen₁, d₁, a, seen₂, hs, hf, rfl⟩ := ih _ hnext
        exact ⟨_, d₁, a, seen₂, .change hchange hs, hf, List.append_assoc .. ▸ rfl⟩
  · rintro ⟨seen₁, d₁, a, seen₂, hs, hf, rfl⟩
    induction hs with
    | done a d => exact hf
    | readFile hread _ ih => exact .readFile hread (ih hf)
    | isDirectory hthere _ ih => exact .isDirectory hthere (ih hf)
    | change hchange _ ih => exact List.append_assoc .. ▸ .change hchange (ih hf)

/-- **What a script leaves** is what is seen last. -/
theorem Runs.getLastD_eq {s : Script α} {a : α} (h : s.Runs d seen d' a) :
    seen.getLastD d = d' := by
  induction h with
  | done a d => rfl
  | readFile _ _ ih => exact ih
  | isDirectory _ _ ih => exact ih
  | change hchange _ ih => exact getLastD_append_eq hchange.getLastD_eq ih

theorem Runs.mem {s : Script α} {a : α} (h : s.Runs d seen d' a) : d' ∈ d :: seen :=
  h.getLastD_eq ▸ List.getLastD_mem_cons

end Script

end RestLoom.FileTree
