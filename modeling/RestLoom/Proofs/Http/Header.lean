import RestLoom.Http.Header
import RestLoom.Proofs.Text.Ascii

/-!
# Proofs/Http/Header — which texts name a header, and which are the value of one

    "X-Trace"  ──headerName?──▸  x-trace        "x a", "", "x:a"  ──headerName?──▸  none

A name is a short text of the characters that tokens are made of (`IsFieldName`), and it is kept in
small letters, so that names which differ in case are one (`headerName?_eq_some`).  A value is a
text without control characters, but for tabulators (`IsFieldValue`); no value ends a line.
-/

namespace RestLoom.Http

open RestLoom.Text

variable {text name value : String}

/-! ## Names -/

/-- The marks that may stand in the name of a header. -/
def nameMarks : List Char :=
  ['!', '#', '$', '%', '&', '\x27', '*', '+', '-', '.', '^', '_', '\x60', '|', '~']

theorem toNat_lt_of_mem_nameMarks {c : Char} (h : c ∈ nameMarks) : c.toNat < 128 := by
  have hall : nameMarks.all (fun c => decide (c.toNat < 128)) = true := by decide
  exact of_decide_eq_true (List.all_eq_true.mp hall c h)

/-- **The name of a header**: letters, digits and marks of ASCII, at least one and not too many. -/
structure IsFieldName (text : String) : Prop where
  nonempty : text ≠ ""
  short : text.length ≤ 65535
  token : ∀ c ∈ text.toList, c.isAlphanum = true ∨ c ∈ nameMarks

/-- A name in small letters. -/
def lowered (name : String) : String := String.ofList (name.toList.map Char.toLower)

/-- **A name** is read in small letters. -/
theorem headerName?_eq_some :
    headerName? text = some name ↔ IsFieldName text ∧ name = lowered text := by
  have hread : (text.toList ≠ [] ∧ text.toList.all isNameChar ∧ text.toList.length ≤ longestName) ↔
      IsFieldName text := by
    have hnil : text.toList ≠ [] ↔ text ≠ "" := by simp
    have htoken : text.toList.all isNameChar ↔
        ∀ c ∈ text.toList, c.isAlphanum = true ∨ c ∈ nameMarks := by
      simp [isNameChar, nameMarks]
    rw [hnil, htoken, String.length_toList]
    exact ⟨fun h => ⟨h.1, h.2.2, h.2.1⟩, fun h => ⟨h.nonempty, h.token, h.short⟩⟩
  rw [headerName?]
  split
  next h => rw [Option.some.injEq, and_iff_right (hread.mp h), eq_comm, lowered]
  next h => exact iff_of_false nofun fun hname => h (hread.mpr hname.1)

theorem isSome_headerName? : (headerName? text).isSome = true ↔ IsFieldName text := by
  rw [Option.isSome_iff_exists]
  exact ⟨fun ⟨_, h⟩ => (headerName?_eq_some.mp h).1, fun h => ⟨_, headerName?_eq_some.mpr ⟨h, rfl⟩⟩⟩

instance (text : String) : Decidable (IsFieldName text) := decidable_of_iff _ isSome_headerName?

theorem IsFieldName.lowered_lowered (h : IsFieldName name) :
    lowered (lowered name) = lowered name := by
  rw [lowered, lowered, String.toList_ofList, List.map_map]
  refine congrArg String.ofList (List.map_congr_left fun c hc => ?_)
  have hascii : c.toNat < 128 := by
    obtain hc | hc := h.token c hc
    · exact toNat_lt_of_isAlphanum hc
    · exact toNat_lt_of_mem_nameMarks hc
  exact forall_ascii (P := fun c => c.toLower.toLower = c.toLower) (by decide) hascii

/-! ## Values -/

/-- **The value of a header**: no control character stands in it, but for tabulators. -/
def IsFieldValue (text : String) : Prop :=
  ∀ c ∈ text.toList, c = '\t' ∨ (0x20 ≤ c.toNat ∧ c.toNat ≠ 0x7f)

theorem isHeaderValue_iff : isHeaderValue text = true ↔ IsFieldValue text := by
  simp [isHeaderValue, isValueChar, IsFieldValue, or_comm]

instance (text : String) : Decidable (IsFieldValue text) := decidable_of_iff _ isHeaderValue_iff

/-- **No value breaks a line.** -/
theorem IsFieldValue.not_mem (h : IsFieldValue value) :
    '\n' ∉ value.toList ∧ '\r' ∉ value.toList := by
  constructor
  all_goals
    intro hc
    exact absurd (h _ hc) (by decide)

end RestLoom.Http
