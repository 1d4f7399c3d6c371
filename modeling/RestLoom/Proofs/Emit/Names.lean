import Mathlib.Data.Bool.AllAny
import RestLoom.Proofs.Emit.Stem
import RestLoom.Proofs.Naming.Snake
import RestLoom.Proofs.Service.Accepted
import RestLoom.Proofs.Service.Find
import RestLoom.Proofs.Source.Declared

/-!
# Proofs/Emit/Names — the names that are made for a service

    Notes ──▸ NotesGeneratedClient · notes_generated_client · __refit_service_key_Notes
    r#type ──▸ r#typeGeneratedClient, which is no name

Names are made of other names by adding words to them.  What comes out is a name again as long as
the mark of a raw name is left out (`isName_keyName`) or the names are plain
(`isName_clientText_iff`, `isName_unitStem_iff`); the mark itself is no part of a name.
-/

namespace RestLoom.Emit

open RestLoom.Token (Ident)
open RestLoom.Text

variable {i : Ident} {modules : List Ident} {name : Ident}

/-! ## The names around a service -/

section Declared

open RestLoom.Source
open RestLoom.Service (Found markedAll)

variable {f : Found}

mutual

theorem mem_declaredIn_of_mem_marked {modules : List Ident} {item : Item}
    (h : f ∈ Service.marked modules item) :
    ∀ i ∈ f.modules ++ [f.decl.name], i ∈ modules ++ declaredIn item := by
  match item with
  | .trait t =>
    rw [Service.marked, Option.mem_toList] at h
    obtain ⟨hmodules, hdecl, -⟩ := Service.found?_eq_some h
    rw [hmodules, hdecl, declaredIn]
    exact fun _ hi => hi
  | .module _ _ _ name content =>
    rw [Service.marked] at h
    have hinside := mem_declared_of_mem_markedAll h
    rwa [List.append_assoc, List.singleton_append] at hinside
  | .use _ => rw [Service.marked] at h; cases h
  | .other _ => rw [Service.marked] at h; cases h

/-- The names of a marked trait and of the modules around it are declared in the file. -/
theorem mem_declared_of_mem_markedAll {modules : List Ident} {items : List Item}
    (h : f ∈ markedAll modules items) :
    ∀ i ∈ f.modules ++ [f.decl.name], i ∈ modules ++ declared items := by
  match items with
  | [] => rw [markedAll] at h; cases h
  | item :: items =>
    rw [markedAll, List.mem_append] at h
    intro i hi
    rw [declared]
    obtain h | h := h
    · obtain hi | hi := List.mem_append.mp (mem_declaredIn_of_mem_marked h i hi)
      · exact List.mem_append_left _ hi
      · exact List.mem_append_right _ (List.mem_append_left _ hi)
    · obtain hi | hi := List.mem_append.mp (mem_declared_of_mem_markedAll h i hi)
      · exact List.mem_append_left _ hi
      · exact List.mem_append_right _ (List.mem_append_right _ hi)

end

/-- **The names around a service** that a text declares are spelled as names. -/
theorem isSpelled_of_mem_markedAll {text : String} {file : File} {s : Service}
    (hfile : File.ofText text = .ok file) (hf : f ∈ markedAll [] file.items)
    (hs : f.result = .ok s) : ∀ i ∈ f.modules ++ [s.name], i.IsSpelled := by
  obtain ⟨baseUrl, hextract⟩ := Service.exists_extract_of_mem_markedAll hf hs
  obtain ⟨-, rfl⟩ := Service.extract_eq_ok.mp hextract
  exact fun i hi => isSpelled_of_ofText hfile (mem_declared_of_mem_markedAll hf i hi)

end Declared

/-! ## The mark of a raw name -/

/-- The mark of a raw name stands in no name. -/
theorem isNameRest_mark : isNameRest '#' = false := by decide

theorem isUpper_mark : isUpper '#' = false := by decide

theorem mark_mem_text (h : i.raw = true) : '#' ∈ i.text.toList := by
  rw [Ident.text, if_pos h, String.toList_append]
  exact List.mem_append_left _ (by decide)

theorem text_of_plain (h : i.raw = false) : i.text = i.name := by
  rw [Ident.text, h, if_neg Bool.false_ne_true]

theorem not_isName_of_mark {cs : List Char} (h : '#' ∈ cs) : ¬Text.isName cs = true := fun hname =>
  absurd (isNameRest_of_mem hname h) (by rw [isNameRest_mark]; exact Bool.false_ne_true)

/-! ## The client -/

theorem isNameRest_of_mem_clientSuffix {c : Char} (h : c ∈ Service.clientSuffix.toList) :
    isNameRest c = true := by
  have hall : ∀ c ∈ Service.clientSuffix.toList, isNameRest c = true :=
    List.all_iff_forall_prop.mp (by decide)
  exact hall c h

theorem isName_clientText (hspelled : i.IsSpelled) (h : i.raw = false) :
    Text.isName (Service.clientText i).toList = true := by
  rw [Service.clientText, text_of_plain h, String.toList_append]
  exact isName_append hspelled fun _ hc => isNameRest_of_mem_clientSuffix hc

/-- **The text of a client's name is a name** just when the service's name is not raw. -/
theorem isName_clientText_iff (hspelled : i.IsSpelled) :
    isName (Service.clientText i) = true ↔ i.raw = false := by
  refine ⟨fun h => ?_, isName_clientText hspelled⟩
  rw [← Bool.not_eq_true]
  refine fun hraw => not_isName_of_mark ?_ h
  rw [Service.clientText, String.toList_append]
  exact List.mem_append_left _ (mark_mem_text hraw)

/-! ## The stem -/

/-- The parts of a stem, before they are joined. -/
def stemParts (modules : List Ident) (name : Ident) : List (List Char) :=
  (modules.map Ident.text ++ [Service.clientText name]).map fun s => Naming.snakeCase s.toList

theorem toList_unitStem (modules : List Ident) (name : Ident) :
    (Service.unitStem modules name).toList = ['_'].intercalate (stemParts modules name) := by
  rw [Service.unitStem, String.toList_intercalate, List.map_map, stemParts]
  simp only [Function.comp_def, String.toList_ofList]
  rfl

/-- Names with underscores between them are a name. -/
theorem isName_intercalate {parts : List (List Char)} (hne : parts ≠ [])
    (h : ∀ p ∈ parts, Text.isName p = true) : Text.isName (['_'].intercalate parts) = true := by
  induction parts with
  | nil => exact absurd rfl hne
  | cons p parts ih =>
    rw [List.forall_mem_cons] at h
    cases parts with
    | nil =>
      rw [List.intercalate_singleton]
      exact h.1
    | cons q parts =>
      rw [List.intercalate_cons_cons, List.append_assoc]
      refine isName_append h.1 fun c hc => ?_
      obtain rfl | hc := List.mem_cons.mp hc
      · decide
      · exact isNameRest_of_mem (ih (List.cons_ne_nil _ _) h.2) hc

theorem mem_intercalate {sep : List Char} {parts : List (List Char)} {p : List Char} {c : Char}
    (hp : p ∈ parts) (hc : c ∈ p) : c ∈ sep.intercalate parts := by
  induction parts with
  | nil => cases hp
  | cons q parts ih =>
    cases parts with
    | nil =>
      rw [List.intercalate_singleton, ← List.mem_singleton.mp hp]
      exact hc
    | cons r parts =>
      rw [List.intercalate_cons_cons, List.mem_append, List.mem_append]
      obtain rfl | hp := List.mem_cons.mp hp
      · exact .inl (.inl hc)
      · exact .inr (ih hp)

theorem isName_of_mem_stemParts (hspelled : ∀ i ∈ modules ++ [name], i.IsSpelled)
    (h : ∀ i ∈ modules ++ [name], i.raw = false) {p : List Char} (hp : p ∈ stemParts modules name) :
    Text.isName p = true := by
  obtain ⟨s, hs, rfl⟩ := List.mem_map.mp hp
  refine Naming.isName_snakeCase ?_
  obtain hs | hs := List.mem_append.mp hs
  · obtain ⟨i, hi, rfl⟩ := List.mem_map.mp hs
    have hmem := List.mem_append_left [name] hi
    rw [text_of_plain (h i hmem)]
    exact hspelled i hmem
  · have hmem : name ∈ modules ++ [name] := List.mem_append_right _ (List.mem_singleton_self _)
    rw [List.mem_singleton.mp hs]
    exact isName_clientText (hspelled name hmem) (h name hmem)

/-- A character of one of the names that is no capital letter stands in the stem. -/
theorem mem_unitStem (hi : i ∈ modules ++ [name]) {c : Char} (hc : c ∈ i.text.toList)
    (hupper : isUpper c = false) : c ∈ (Service.unitStem modules name).toList := by
  obtain ⟨s, hs, hcs⟩ : ∃ s ∈ modules.map Ident.text ++ [Service.clientText name],
      c ∈ s.toList := by
    obtain hi | hi := List.mem_append.mp hi
    · exact ⟨i.text, List.mem_append_left _ (List.mem_map_of_mem hi), hc⟩
    · refine ⟨_, List.mem_append_right _ (List.mem_singleton_self _), ?_⟩
      rw [Service.clientText, String.toList_append, ← List.mem_singleton.mp hi]
      exact List.mem_append_left _ hc
  rw [toList_unitStem]
  exact mem_intercalate (List.mem_map_of_mem hs) (Naming.mem_snakeFrom hcs hupper)

/-- **A stem is a name** just when neither the service's name nor one of the modules' around it is
raw. -/
theorem isName_unitStem_iff (hspelled : ∀ i ∈ modules ++ [name], i.IsSpelled) :
    isName (Service.unitStem modules name) = true ↔ ∀ i ∈ modules ++ [name], i.raw = false := by
  constructor
  · intro h i hi
    rw [← Bool.not_eq_true]
    exact fun hraw => not_isName_of_mark (mem_unitStem hi (mark_mem_text hraw) isUpper_mark) h
  · intro h
    rw [isName, toList_unitStem]
    refine isName_intercalate ?_ fun p hp => isName_of_mem_stemParts hspelled h hp
    rw [stemParts, List.map_append]
    exact List.append_ne_nil_of_right_ne_nil _ (List.cons_ne_nil _ _)

/-! ## The registration -/

/-- A name behind a word that is one is a name. -/
theorem isName_append_name {word : String} (hword : Text.isName word.toList = true)
    (hspelled : i.IsSpelled) : isName (word ++ i.name) = true := by
  rw [isName, String.toList_append]
  exact isName_append hword fun _ hc => isNameRest_of_mem hspelled hc

/-- **The functions of a registration** have names, whether the service's name is raw or not. -/
theorem isName_keyName {s : Service} (h : s.name.IsSpelled) : isName (keyName s).text = true :=
  isName_append_name (by decide) h

theorem isName_factoryName {s : Service} (h : s.name.IsSpelled) :
    isName (factoryName s).text = true :=
  isName_append_name (by decide) h

/-! ## Places -/

/-- **The name for a place of a path** is never made of its text: some parameter has it. -/
theorem exists_pathParam {t : Source.TraitDecl} {baseUrl : Option String} {s : Service}
    {e : Service.Endpoint} (hs : Service.extract t baseUrl = .ok s) (he : e ∈ s.endpoints)
    {place : List Char} (hplace : place ∈ e.path.placeholders) :
    ∃ p ∈ e.params, e.pathParam? place = some p := by
  obtain ⟨q, hq, hrole, hname⟩ := Service.exists_param_of_mem_placeholders hs he hplace
  have hpath : q ∈ e.withRole .path := List.mem_filter.mpr ⟨hq, decide_eq_true hrole⟩
  have hfound : (e.pathParam? place).isSome := by
    rw [Service.Endpoint.pathParam?, List.find?_isSome]
    exact ⟨q, hpath, beq_iff_eq.mpr hname⟩
  obtain ⟨p, hp⟩ := Option.isSome_iff_exists.mp hfound
  exact ⟨p, List.mem_of_mem_filter (List.mem_of_find?_eq_some hp), hp⟩

end RestLoom.Emit
