import Mathlib.Data.List.Nodup
import RestLoom.Client.Config
import RestLoom.Proofs.Latest

/-!
# Proofs/Client/Settings — what a configuration holds after settings

    header "X-A" "1" · userAgent "me" · header "x-a" "2" · header "x a" "3"
        ──▸  x-a: 2, user agent me

A configuration is set up step by step, and a step that fails leaves it as it is.  Its headers hold
each name once, and the value that was set last for it (`get?_ofSettings`), where capital letters do
not count; its user agent is the one that was set last (`userAgent_ofSettings`).
-/

namespace RestLoom.Http.Headers

/-! ## Values of a name -/

/-- The names of headers, in order. -/
def names (h : Headers) : List String := h.fields.map Prod.fst

/-- The values that stand under a name. -/
def values (h : Headers) (name : String) : List String :=
  (h.fields.filter fun f => f.1 == name).map Prod.snd

variable {h : Headers} {n m v : String}

theorem fst_insertField (fs : List (String × String)) :
    (insertField n v fs).map Prod.fst =
      if n ∈ fs.map Prod.fst then fs.map Prod.fst else fs.map Prod.fst ++ [n] := by
  induction fs with
  | nil => rfl
  | cons f fs ih =>
    rw [insertField]
    split
    next heq => simp [heq]
    next hne =>
      rw [List.map_cons, ih, List.map_cons, apply_ite (List.cons f.1)]
      simp only [List.mem_cons, Ne.symm hne, false_or, List.cons_append]

/-- **Each name stands once**, also when a value is put in. -/
theorem nodup_names_insert (hnodup : h.names.Nodup) : (h.insert n v).names.Nodup := by
  rw [names, insert, fst_insertField]
  split
  next => exact hnodup
  next hnew => exact hnodup.append (List.nodup_singleton n) (List.disjoint_singleton.mpr hnew)

theorem lookup_insertField_of_ne (hne : m ≠ n) (fs : List (String × String)) :
    (insertField n v fs).lookup m = fs.lookup m := by
  have hself (w : String) (fs : List (String × String)) :
      ((n, w) :: fs).lookup m = fs.lookup m := by
    rw [List.lookup_cons, beq_false_of_ne hne]
  induction fs with
  | nil => exact hself v []
  | cons f fs ih =>
    rw [insertField]
    split
    next heq =>
      obtain ⟨k, w⟩ := f
      obtain rfl : k = n := heq
      rw [hself, hself]
    next => rw [List.lookup_cons, List.lookup_cons, ih]

/-- **A value that is put in** is found under its name, and the other names keep theirs. -/
theorem get?_insert : (h.insert n v).get? m = if n = m then some v else h.get? m := by
  split
  next heq => rw [← heq, get?_insert_self]
  next hne => exact lookup_insertField_of_ne (Ne.symm hne) h.fields

theorem map_snd_filter_eq (fs : List (String × String)) (hnodup : (fs.map Prod.fst).Nodup)
    (name : String) :
    (fs.filter fun f => f.1 == name).map Prod.snd = (fs.lookup name).toList := by
  induction fs with
  | nil => rfl
  | cons f fs ih =>
    rw [List.map_cons, List.nodup_cons] at hnodup
    rw [List.filter_cons, List.lookup_cons, Bool.beq_comm (a := name)]
    cases hname : f.1 == name with
    | false => exact ih hnodup.2
    | true =>
      have hrest : fs.filter (fun f => f.1 == name) = [] := by
        rw [List.filter_eq_nil_iff]
        intro g hg hg'
        rw [beq_iff_eq] at hname hg'
        exact hnodup.1 (hname.trans hg'.symm ▸ List.mem_map_of_mem hg)
      rw [hrest]
      rfl

/-- **A name that stands once** has one value at most, the one that is found. -/
theorem values_eq_toList (hnodup : h.names.Nodup) (name : String) :
    h.values name = (h.get? name).toList :=
  map_snd_filter_eq h.fields hnodup name

end RestLoom.Http.Headers

namespace RestLoom.Client

open RestLoom.Http

/-! ## Settings -/

/-- A step that sets up a configuration. -/
inductive Setting where
  | timeout (milliseconds : Nat)
  | header (name value : String)
  | userAgent (agent : String)

namespace Setting

/-- Takes a step. -/
def take (c : Config) : Setting → Except ClientError Config
  | timeout milliseconds => .ok (c.withTimeout milliseconds)
  | header name value => c.withHeader name value
  | userAgent agent => .ok (c.withUserAgent agent)

/-- The configuration after a step, which may fail. -/
def after (c : Config) (s : Setting) : Config := Run.attempt (take · s) c

/-- The header that a step sets, if it has a name and a value. -/
def field? : Setting → Option (String × String)
  | header name value =>
    if isHeaderValue value then (headerName? name).map fun n => (n, value) else none
  | _ => none

/-- The value that a step sets for a name. -/
def value? (name : String) (s : Setting) : Option String :=
  s.field?.bind fun f => if f.1 = name then some f.2 else none

/-- The user agent that a step sets. -/
def agent? : Setting → Option String
  | userAgent agent => some agent
  | _ => none

/-- A header that can be set takes the place of one of its name; another step leaves all of them. -/
theorem headers_after (c : Config) (s : Setting) :
    (s.after c).headers = (s.field?.map fun f => c.headers.insert f.1 f.2).getD c.headers := by
  cases s with
  | timeout milliseconds => rfl
  | userAgent agent => rfl
  | header name value =>
    rw [after, Run.attempt, take, Config.withHeader, field?]
    cases headerName? name with
    | none =>
      dsimp only
      split <;> rfl
    | some n =>
      dsimp only
      split <;> rfl

theorem userAgent_after (c : Config) (s : Setting) :
    (s.after c).userAgent = s.agent?.or c.userAgent := by
  cases s with
  | timeout milliseconds => rfl
  | userAgent agent => rfl
  | header name value =>
    rw [after, Run.attempt, take, Config.withHeader]
    split
    · rfl
    · split <;> rfl

end Setting

namespace Config

/-- **The configuration after settings**, from the one by default. -/
def ofSettings (ss : List Setting) : Config := ss.foldl Setting.after default

/-- The headers of a configuration hold each name once. -/
theorem nodup_names_ofSettings (ss : List Setting) : (ofSettings ss).headers.names.Nodup := by
  refine List.foldlRecOn ss Setting.after (motive := fun c => c.headers.names.Nodup)
    (show (default : Config).headers.names.Nodup from List.nodup_nil) fun c hc s _ => ?_
  rw [s.headers_after]
  cases s.field? with
  | none => exact hc
  | some f => exact Headers.nodup_names_insert hc

/-- **The user agent** is the one that was set last. -/
theorem userAgent_ofSettings (ss : List Setting) :
    (ofSettings ss).userAgent = (ss.filterMap Setting.agent?).getLast? :=
  (Run.latest_foldl Config.userAgent (fun c s => s.userAgent_after c) default ss).trans
    Option.or_none

/-- **The value of a header** is the one that was set last for its name. -/
theorem get?_ofSettings (ss : List Setting) (name : String) :
    (ofSettings ss).headers.get? name = (ss.filterMap (Setting.value? name)).getLast? := by
  have hstep (c : Config) (s : Setting) :
      (s.after c).headers.get? name = (s.value? name).or (c.headers.get? name) := by
    rw [s.headers_after, Setting.value?]
    cases s.field? with
    | none => rfl
    | some f =>
      change (c.headers.insert f.1 f.2).get? name =
        (if f.1 = name then some f.2 else none).or (c.headers.get? name)
      rw [Headers.get?_insert]
      split <;> rfl
  exact (Run.latest_foldl (fun c : Config => c.headers.get? name) hstep default ss).trans
    (Option.or_none)

end Config

end RestLoom.Client
