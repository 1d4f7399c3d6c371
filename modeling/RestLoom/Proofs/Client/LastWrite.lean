import Mathlib.Data.List.Perm.Basic
import RestLoom.Proofs.Client.Settings
import RestLoom.Proofs.Http.Header

/-!
# Proofs/Client/LastWrite — a configuration is a record that settings write

    timeout 5 · header "X-A" "1" · header "x a" "2" · timeout 9 · header "x-a" "3"
        ──▸  timeout 9, x-a: 3

Whatever the steps are, each part of the configuration is what was written to it last, and a header
is the part that its name in small letters is for.  A step whose name or value is none fails and
writes nothing, so no value that breaks a line is ever kept.  Steps that write to different parts
may change places (`ofSettings_lastWriteWins`).
-/

namespace RestLoom.Http.Headers

variable {h h' : Headers}

/-- **A field** is there when its value is found under its name. -/
theorem mem_fields_iff (hnodup : h.names.Nodup) {f : String × String} :
    f ∈ h.fields ↔ h.get? f.1 = some f.2 := by
  have hvalue : f ∈ h.fields ↔ f.2 ∈ h.values f.1 := by
    simp [values, List.mem_map]
  rw [hvalue, values_eq_toList hnodup, Option.mem_toList]

/-- **Headers with the same values** for all names have the same fields. -/
theorem perm_of_get?_eq (hnodup : h.names.Nodup) (hnodup' : h'.names.Nodup)
    (heq : ∀ name, h.get? name = h'.get? name) : h.fields.Perm h'.fields := by
  rw [List.perm_ext_iff_of_nodup (.of_map Prod.fst hnodup) (.of_map Prod.fst hnodup')]
  intro f
  rw [mem_fields_iff hnodup, mem_fields_iff hnodup', heq]

end RestLoom.Http.Headers

namespace RestLoom.Client

open RestLoom.Http

/-! ## What a step writes -/

/-- The parts of a configuration. -/
inductive Part where
  | timeout
  | userAgent
  /-- The header with a name in small letters. -/
  | header (name : String)

namespace Setting

/-- The part of a configuration that a step is for. -/
def part : Setting → Part
  | timeout _ => .timeout
  | userAgent _ => .userAgent
  | header name _ => .header (lowered name)

/-- The time that a step sets. -/
def time? : Setting → Option Nat
  | timeout milliseconds => some milliseconds
  | _ => none

/-- The value that a step sets for a name, in which capital letters do not count. -/
def written? (name : String) : Setting → Option String
  | header n v =>
    if IsFieldName n ∧ IsFieldValue v ∧ lowered n = lowered name then some v else none
  | _ => none

theorem timeout_after (c : Config) (s : Setting) :
    (s.after c).timeout = s.time?.getD c.timeout := by
  cases s with
  | timeout milliseconds => rfl
  | userAgent agent => rfl
  | header name value =>
    rw [after, Run.attempt, take, Config.withHeader]
    split
    · rfl
    · split <;> rfl

theorem field?_eq_some {s : Setting} {n v : String} : s.field? = some (n, v) ↔
    ∃ name, s = header name v ∧ IsFieldName name ∧ IsFieldValue v ∧ n = lowered name := by
  cases s with
  | timeout milliseconds => exact iff_of_false nofun nofun
  | userAgent agent => exact iff_of_false nofun nofun
  | header name value =>
    rw [field?]
    constructor
    · intro h
      split at h
      next hvalue =>
        obtain ⟨m, hm, heq⟩ := Option.map_eq_some_iff.mp h
        obtain ⟨rfl, rfl⟩ := Prod.mk.inj heq
        obtain ⟨hname, rfl⟩ := headerName?_eq_some.mp hm
        exact ⟨name, rfl, hname, isHeaderValue_iff.mp hvalue, rfl⟩
      next => cases h
    · rintro ⟨name, ⟨⟩, hname, hvalue, rfl⟩
      rw [if_pos (isHeaderValue_iff.mpr hvalue), headerName?_eq_some.mpr ⟨hname, rfl⟩]
      rfl

theorem value?_eq_some {s : Setting} {n v : String} : s.value? n = some v ↔
    ∃ name, s = header name v ∧ IsFieldName name ∧ IsFieldValue v ∧ lowered name = n := by
  rw [value?, Option.bind_eq_some_iff]
  constructor
  · rintro ⟨⟨m, w⟩, hfield, h⟩
    obtain ⟨rfl, ⟨⟩⟩ := Option.ite_none_right_eq_some.mp h
    obtain ⟨name, rfl, hname, hvalue, hm⟩ := field?_eq_some.mp hfield
    exact ⟨name, rfl, hname, hvalue, hm.symm⟩
  · rintro ⟨name, rfl, hname, hvalue, hn⟩
    exact ⟨(n, v), field?_eq_some.mpr ⟨name, rfl, hname, hvalue, hn.symm⟩, if_pos rfl⟩

/-- A value is set for a name as it is for the name in small letters. -/
theorem written?_eq (name : String) : written? name = value? (lowered name) := by
  funext s
  ext v
  rw [value?_eq_some]
  cases s with
  | timeout milliseconds => exact iff_of_false nofun nofun
  | userAgent agent => exact iff_of_false nofun nofun
  | header n w =>
    rw [written?, Option.ite_none_right_eq_some]
    constructor
    · rintro ⟨⟨hname, hvalue, hn⟩, ⟨⟩⟩
      exact ⟨n, rfl, hname, hvalue, hn⟩
    · rintro ⟨_, ⟨⟩, hname, hvalue, hn⟩
      exact ⟨⟨hname, hvalue, hn⟩, rfl⟩

end Setting

namespace Config

/-! ## A header that is refused -/

theorem withHeader_of_fit (c : Config) {name value : String} (hname : IsFieldName name)
    (hvalue : IsFieldValue value) : c.withHeader name value =
      .ok { c with headers := c.headers.insert (lowered name) value } := by
  rw [withHeader, headerName?_eq_some.mpr ⟨hname, rfl⟩]
  exact if_pos (isHeaderValue_iff.mpr hvalue)

/-- An impossible name is what is told first. -/
theorem withHeader_of_not_name (c : Config) {name : String} (h : ¬IsFieldName name)
    (value : String) : c.withHeader name value =
      .error (.invalidHeader "invalid header name: invalid HTTP header name") := by
  rw [← isSome_headerName?, Option.not_isSome_iff_eq_none] at h
  rw [withHeader, h]

theorem withHeader_of_not_value (c : Config) {name value : String} (hname : IsFieldName name)
    (h : ¬IsFieldValue value) : c.withHeader name value =
      .error (.invalidHeader "invalid header value: failed to parse header value") := by
  rw [withHeader, headerName?_eq_some.mpr ⟨hname, rfl⟩]
  exact if_neg fun hvalue => h (isHeaderValue_iff.mp hvalue)

/-- **A header is refused** exactly when its name or its value is none. -/
theorem withHeader_eq_error_iff (c : Config) (name value : String) :
    (∃ e, c.withHeader name value = .error e) ↔ ¬IsFieldName name ∨ ¬IsFieldValue value := by
  by_cases hname : IsFieldName name
  · by_cases hvalue : IsFieldValue value
    · rw [withHeader_of_fit c hname hvalue]
      exact iff_of_false nofun fun h => h.elim (· hname) (· hvalue)
    · exact iff_of_true ⟨_, withHeader_of_not_value c hname hvalue⟩ (.inr hvalue)
  · exact iff_of_true ⟨_, withHeader_of_not_name c hname value⟩ (.inl hname)

/-! ## What is there after a run -/

variable {ss : List Setting}

/-- **The time for one request** is the one that was set last, or the one by default. -/
theorem timeout_ofSettings (ss : List Setting) :
    (ofSettings ss).timeout = (ss.filterMap Setting.time?).getLast?.getD 30000 := by
  have hstep (c : Config) (s : Setting) :
      some (s.after c).timeout = s.time?.or (some c.timeout) := by
    rw [s.timeout_after]
    cases s.time? <;> rfl
  have hlast := Run.latest_foldl (fun c : Config => some c.timeout) hstep default ss
  cases h : (ss.filterMap Setting.time?).getLast? with
  | none =>
    rw [h] at hlast
    exact Option.some.inj hlast
  | some time =>
    rw [h] at hlast
    exact Option.some.inj hlast

/-- **A field** is one that a step has set. -/
theorem exists_of_mem_fields {f : String × String} (h : f ∈ (ofSettings ss).headers.fields) :
    ∃ name, .header name f.2 ∈ ss ∧ IsFieldName name ∧ IsFieldValue f.2 ∧ f.1 = lowered name := by
  rw [Headers.mem_fields_iff (nodup_names_ofSettings ss), get?_ofSettings] at h
  obtain ⟨s, hs, hvalue⟩ := List.mem_filterMap.mp (List.mem_of_getLast? h)
  obtain ⟨name, rfl, hname, hfit, hn⟩ := Setting.value?_eq_some.mp hvalue
  exact ⟨name, hs, hname, hfit, hn.symm⟩

/-- Names are kept in small letters. -/
theorem lowered_of_mem_fields {f : String × String} (h : f ∈ (ofSettings ss).headers.fields) :
    lowered f.1 = f.1 := by
  obtain ⟨name, -, hname, -, hn⟩ := exists_of_mem_fields h
  rw [hn, hname.lowered_lowered]

/-- **No name stands twice**, not even in other letters. -/
theorem pairwise_lowered_ofSettings (ss : List Setting) :
    (ofSettings ss).headers.fields.Pairwise fun f g => lowered f.1 ≠ lowered g.1 := by
  have hnodup := nodup_names_ofSettings ss
  rw [Headers.names, List.Nodup, List.pairwise_map] at hnodup
  refine hnodup.imp_of_mem fun hf hg hne => ?_
  rwa [lowered_of_mem_fields hf, lowered_of_mem_fields hg]

/-- **The values under a name**, in which capital letters do not count: the one that was set
last. -/
theorem values_ofSettings (ss : List Setting) (name : String) :
    ((ofSettings ss).headers.fields.filter fun f => lowered f.1 = lowered name).map Prod.snd =
      (ss.filterMap (Setting.written? name)).getLast?.toList := by
  have hfilter : ((ofSettings ss).headers.fields.filter fun f => lowered f.1 = lowered name) =
      (ofSettings ss).headers.fields.filter fun f => f.1 == lowered name :=
    List.filter_congr fun f hf => by rw [lowered_of_mem_fields hf, beq_eq_decide]
  rw [hfilter, Setting.written?_eq, ← get?_ofSettings]
  exact Headers.values_eq_toList (nodup_names_ofSettings ss) (lowered name)

/-! ## Steps that change places -/

/-- Configurations with the same settings, whichever of them came first. -/
structure SameSettings (c d : Config) : Prop where
  timeout : c.timeout = d.timeout
  userAgent : c.userAgent = d.userAgent
  headers : c.headers.fields.Perm d.headers.fields

theorem filterMap_swap {β : Type} {write : Setting → Option β} {s t : Setting}
    (h : write s = none ∨ write t = none) (front back : List Setting) :
    (front ++ s :: t :: back).filterMap write = (front ++ t :: s :: back).filterMap write := by
  obtain h | h := h <;> simp [List.filterMap_cons, h]

/-- What is written to one part is not written by steps for two. -/
theorem filterMap_swap_of_part {β : Type} {write : Setting → Option β} {p : Part}
    (hpart : ∀ s v, write s = some v → s.part = p) {s t : Setting} (h : s.part ≠ t.part)
    (front back : List Setting) :
    (front ++ s :: t :: back).filterMap write = (front ++ t :: s :: back).filterMap write := by
  refine filterMap_swap ?_ front back
  cases hs : write s with
  | none => exact .inl rfl
  | some v =>
    refine .inr (Option.eq_none_iff_forall_ne_some.mpr fun w ht => h ?_)
    rw [hpart s v hs, hpart t w ht]

/-- **Steps that are for different parts** come to the same in either order. -/
theorem sameSettings_swap {s t : Setting} (h : s.part ≠ t.part) (front back : List Setting) :
    SameSettings (ofSettings (front ++ s :: t :: back)) (ofSettings (front ++ t :: s :: back)) := by
  have htime : ∀ (s : Setting) (v : Nat), s.time? = some v → s.part = .timeout := by
    rintro ⟨⟩ v ⟨⟩
    rfl
  have hagent : ∀ (s : Setting) (v : String), s.agent? = some v → s.part = .userAgent := by
    rintro ⟨⟩ v ⟨⟩
    rfl
  have hvalue (name : String) (s : Setting) (v : String) (hs : s.value? name = some v) :
      s.part = .header name := by
    obtain ⟨n, rfl, -, -, rfl⟩ := Setting.value?_eq_some.mp hs
    rfl
  refine ⟨?_, ?_, Headers.perm_of_get?_eq (nodup_names_ofSettings _) (nodup_names_ofSettings _)
    fun name => ?_⟩
  · rw [timeout_ofSettings, timeout_ofSettings, filterMap_swap_of_part htime h]
  · rw [userAgent_ofSettings, userAgent_ofSettings, filterMap_swap_of_part hagent h]
  · rw [get?_ofSettings, get?_ofSettings, filterMap_swap_of_part (hvalue name) h]

/-! ## The record -/

/-- How runs of steps write a configuration as a record. -/
structure LastWriteWins (run : List Setting → Config) : Prop where
  /-- A run begins with the settings by default. -/
  start : run [] = .default
  /-- A step that succeeds gives the next configuration. -/
  succeeding : ∀ ss s c, s.take (run ss) = .ok c → run (ss ++ [s]) = c
  /-- A step that fails leaves the configuration as it was before. -/
  failing : ∀ ss s e, s.take (run ss) = .error e → run (ss ++ [s]) = run ss
  timeout : ∀ ss, (run ss).timeout = (ss.filterMap Setting.time?).getLast?.getD 30000
  userAgent : ∀ ss, (run ss).userAgent = (ss.filterMap Setting.agent?).getLast?
  /-- No name stands twice among the headers, not even in other letters. -/
  distinct : ∀ ss, (run ss).headers.fields.Pairwise fun f g => lowered f.1 ≠ lowered g.1
  /-- Under each name is what was set last for it, and nothing else. -/
  values : ∀ ss name,
    ((run ss).headers.fields.filter fun f => lowered f.1 = lowered name).map Prod.snd =
      (ss.filterMap (Setting.written? name)).getLast?.toList
  /-- A header is refused for its name or its value only. -/
  refused : ∀ (c : Config) (name value : String),
    (∃ e, c.withHeader name value = .error e) ↔ ¬IsFieldName name ∨ ¬IsFieldValue value
  /-- The name is looked at first. -/
  misnamed : ∀ (c : Config) (name value : String), ¬IsFieldName name → c.withHeader name value =
    .error (.invalidHeader "invalid header name: invalid HTTP header name")
  misvalued : ∀ (c : Config) (name value : String), IsFieldName name → ¬IsFieldValue value →
    c.withHeader name value =
      .error (.invalidHeader "invalid header value: failed to parse header value")
  /-- No value that breaks a line is kept. -/
  unbroken : ∀ ss, ∀ f ∈ (run ss).headers.fields, '\n' ∉ f.2.toList ∧ '\r' ∉ f.2.toList
  /-- Steps for different parts may change places. -/
  commuting : ∀ front s t back, s.part ≠ t.part →
    SameSettings (run (front ++ s :: t :: back)) (run (front ++ t :: s :: back))

/-- **A configuration is a record in which the last write wins**, whatever the steps are and
whichever of them fail. -/
theorem ofSettings_lastWriteWins : LastWriteWins ofSettings where
  start := rfl
  succeeding ss s c h := by
    rw [ofSettings, List.foldl_concat]
    exact Run.attempt_of_ok h
  failing ss s e h := by
    rw [ofSettings, List.foldl_concat]
    exact Run.attempt_of_error h
  timeout := timeout_ofSettings
  userAgent := userAgent_ofSettings
  distinct := pairwise_lowered_ofSettings
  values := values_ofSettings
  refused := withHeader_eq_error_iff
  misnamed c name value h := withHeader_of_not_name c h value
  misvalued c name value hname h := withHeader_of_not_value c hname h
  unbroken ss f hf := by
    obtain ⟨-, -, -, hvalue, -⟩ := exists_of_mem_fields hf
    exact hvalue.not_mem
  commuting front s t back h := sameSettings_swap h front back

end Config

end RestLoom.Client
