import RestLoom.Emit.Units
import RestLoom.Proofs.Emit.ModuleUnit
import Mathlib.Data.List.Nodup

/-!
# Proofs/Emit/Stem — the names of units

    a_generated_client.rs · a_generated_client_registration.rs · … · mod.rs

Every stem ends in one word, since every client's name does (`stemEnd_suffix`).  No keyword ends in
it, nor does the name of a registration or of the unit of modules, so that stems which differ give
files which differ (`nodup_unitNames`).
-/

namespace RestLoom.Emit

open RestLoom.Token (Ident)
open RestLoom.Text

/-- What every stem ends in. -/
def stemEnd : String := "generated_client"

theorem snakeFrom_clientSuffix (before : Option Char) :
    stemEnd.toList <:+ Naming.snakeFrom before Service.clientSuffix.toList := by
  have hrest : Naming.snakeFrom (some 'G') "eneratedClient".toList = "enerated_client".toList := by
    rfl
  have hupper : isUpper 'G' = true := by decide
  have hlower : toLower 'G' = ['g'] := by decide
  change stemEnd.toList <:+ Naming.snakeFrom before ('G' :: "eneratedClient".toList)
  rw [Naming.snakeFrom, hrest, hupper, if_pos rfl, hlower]
  split
  · exact List.suffix_cons _ _
  · exact List.suffix_rfl

theorem suffix_snakeFrom (before : Option Char) (cs : List Char) :
    stemEnd.toList <:+ Naming.snakeFrom before (cs ++ Service.clientSuffix.toList) := by
  induction cs generalizing before with
  | nil => exact snakeFrom_clientSuffix before
  | cons c cs ih =>
    rw [List.cons_append, Naming.snakeFrom]
    exact (ih _).trans (List.suffix_append _ _)

theorem suffix_intercalate (sep : List Char) (xs : List (List Char)) (x : List Char) :
    x <:+ List.intercalate sep (xs ++ [x]) := by
  induction xs with
  | nil =>
    rw [List.nil_append, List.intercalate_singleton]
  | cons a xs ih =>
    obtain ⟨b, bs, hbs⟩ := List.exists_cons_of_ne_nil (List.append_ne_nil_of_right_ne_nil xs
      (List.cons_ne_nil x []))
    rw [List.cons_append, hbs, List.intercalate_cons_cons, ← hbs]
    exact ih.trans (List.suffix_append _ _)

/-- **Every stem** ends in the same word. -/
theorem stemEnd_suffix (modules : List Ident) (name : Ident) :
    stemEnd.toList <:+ (Service.unitStem modules name).toList := by
  rw [Service.unitStem, String.toList_intercalate, List.map_append, List.map_append]
  refine .trans ?_ (suffix_intercalate _ _ _)
  rw [String.toList_ofList, Service.clientText, String.toList_append]
  exact suffix_snakeFrom none _

/-! ## Names of files -/

/-- What the name of a registration's file adds to the stem. -/
def registrationEnd : String := "_registration"

variable {s s' : String}

theorem not_suffix_keyword {k : String} (hk : k ∈ Source.keywords) :
    ¬stemEnd.toList <:+ k.toList ∧ ¬registrationEnd.toList <:+ k.toList := by
  revert k
  decide

theorem isName_of_not_keyword (h : s ∉ Source.keywords) : Source.isName (.plain s) = true := by
  rw [Source.isName, Ident.plain, Bool.false_or, Bool.not_eq_true', ← Bool.not_eq_true,
    List.contains_iff_mem]
  exact h

/-- **No stem is a keyword**, nor is the name of its registration. -/
theorem isModuleName_of_stemEnd (h : stemEnd.toList <:+ s.toList) : IsModuleName s := by
  refine ⟨isName_of_not_keyword fun hk => (not_suffix_keyword hk).1 h,
    isName_of_not_keyword fun hk => (not_suffix_keyword hk).2 ?_⟩
  rw [String.toList_append]
  exact List.suffix_append _ _

theorem ne_mod (h : stemEnd.toList <:+ s.toList) : s ≠ "mod" := by
  rintro rfl
  exact absurd h (by decide)

/-- **No stem is the name of a registration.** -/
theorem ne_registration (h : stemEnd.toList <:+ s.toList) : s ≠ s' ++ registrationEnd := by
  rintro rfl
  rw [String.toList_append] at h
  obtain hle | hle := List.suffix_or_suffix_of_suffix h (List.suffix_append _ _)
  · exact absurd hle (by decide)
  · exact absurd hle (by decide)

theorem registration_ne_mod : s ++ registrationEnd ≠ "mod" := by
  intro h
  have hsuffix := List.suffix_append s.toList registrationEnd.toList
  rw [← String.toList_append, h] at hsuffix
  exact absurd hsuffix (by decide)

/-- The names of the units of these stems, without the extension. -/
def unitNames (stems : List String) : List String :=
  stems.flatMap (fun s => [s, s ++ registrationEnd]) ++ if stems = [] then [] else ["mod"]

theorem append_registration_inj (h : s ++ registrationEnd = s' ++ registrationEnd) : s = s' := by
  rw [← String.toList_inj, String.toList_append, String.toList_append] at h
  exact String.toList_inj.mp (List.append_cancel_right h)

/-- **The names of all units are distinct** if the stems are. -/
theorem nodup_unitNames {stems : List String} (hnodup : stems.Nodup)
    (hend : ∀ s ∈ stems, stemEnd.toList <:+ s.toList) : (unitNames stems).Nodup := by
  rw [unitNames, List.nodup_append, List.nodup_flatMap]
  refine ⟨⟨fun s hs => ?_, ?_⟩, ?_, fun a ha b hb => ?_⟩
  · refine List.nodup_cons.mpr ⟨fun hmem => ?_, List.nodup_singleton _⟩
    exact ne_registration (hend s hs) (List.mem_singleton.mp hmem)
  · refine (List.Pairwise.and_mem.mp hnodup).imp ?_
    rintro s s' ⟨hs, hs', hne⟩ a ha ha'
    simp only [List.mem_cons, List.not_mem_nil, or_false] at ha ha'
    obtain rfl | rfl := ha
    · obtain rfl | h := ha'
      · exact hne rfl
      · exact ne_registration (hend _ hs) h
    · obtain h | h := ha'
      · exact ne_registration (hend _ hs') h.symm
      · exact hne (append_registration_inj h)
  · split
    · exact List.nodup_nil
    · exact List.nodup_singleton _
  · obtain ⟨s, hs, ha⟩ := List.mem_flatMap.mp ha
    have hmod : b = "mod" := by
      split at hb
      · cases hb
      · exact List.mem_singleton.mp hb
    rw [hmod]
    simp only [List.mem_cons, List.not_mem_nil, or_false] at ha
    obtain rfl | rfl := ha
    · exact ne_mod (hend _ hs)
    · exact registration_ne_mod

end RestLoom.Emit
