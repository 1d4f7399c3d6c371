import RestLoom.Source.Reader

/-!
# Proofs/Source/Advance — readers take tokens from the front

    tokens ahead:  a b c d e  ──reader──▸  c d e

What a reader leaves ahead is a rest of what it found there (`Advances`).  Readers are composed of
readers, and the property goes with them: it is an instance for each of the primitive readers and
for each way to compose them, so that for a production it is found from the production's text.
-/

namespace RestLoom.Source

open RestLoom.Token (Ident Delimiter)

variable {α β : Type}

/-- A reader that takes tokens from the front, if it comes to a result. -/
class Advances (r : Reader α) : Prop where
  suffix {s s' : ReadState} {a : α} : r.run s = .ok (a, s') → s'.ahead <:+ s.ahead

/-! ## Composing readers -/

theorem run_bind_eq_ok {r : Reader α} {f : α → Reader β} {s s' : ReadState} {b : β}
    (h : (r >>= f).run s = .ok (b, s')) :
    ∃ a t, r.run s = .ok (a, t) ∧ (f a).run t = .ok (b, s') := by
  rw [StateT.run_bind] at h
  cases hr : r.run s with
  | error e =>
    rw [hr] at h
    cases h
  | ok p =>
    rw [hr] at h
    exact ⟨p.1, p.2, rfl, h⟩

instance (a : α) : Advances (pure a) where
  suffix h := by
    cases h
    exact List.suffix_rfl

instance (e : ReadError) : Advances (throw e : Reader α) where
  suffix h := nomatch h

theorem advances_bind {r : Reader α} {f : α → Reader β} (hr : Advances r)
    (hf : ∀ a, Advances (f a)) : Advances (r >>= f) where
  suffix h := by
    obtain ⟨a, t, h, h'⟩ := run_bind_eq_ok h
    exact ((hf a).suffix h').trans (hr.suffix h)

instance {r : Reader α} {f : α → Reader β} [hr : Advances r] [hf : ∀ a, Advances (f a)] :
    Advances (r >>= f) :=
  advances_bind hr hf

instance {r : Reader α} {f : α → β} [Advances r] : Advances (f <$> r) := by
  rw [map_eq_pure_bind]
  infer_instance

theorem advances_ite {c : Prop} [Decidable c] {r q : Reader α} (hr : Advances r)
    (hq : Advances q) : Advances (if c then r else q) := by
  split
  · exact hr
  · exact hq

instance {c : Prop} [Decidable c] {r q : Reader α} [hr : Advances r] [hq : Advances q] :
    Advances (if c then r else q) :=
  advances_ite hr hq

/-! ## Looking -/

instance : Advances ahead where
  suffix h := by
    cases h
    exact List.suffix_rfl

instance : Advances atEnd := by
  unfold atEnd
  infer_instance

instance (a : Ahead) : Advances (peek a) := by
  unfold peek
  infer_instance

instance (a : Ahead) : Advances (peek2 a) := by
  unfold peek2
  infer_instance

instance (a : Ahead) : Advances (peek3 a) := by
  unfold peek3
  infer_instance

instance (as : List Ahead) : Advances (peekAny as) := by
  unfold peekAny
  infer_instance

instance (text : String) : Advances (peekWord text) := by
  unfold peekWord
  infer_instance

instance (text : String) : Advances (peekOp text) := by
  unfold peekOp
  infer_instance

instance (start : List Token) : Advances (keptSince start) := by
  unfold keptSince
  infer_instance

/-! ## Refusing -/

instance (choices : List String) : Advances (refuse choices : Reader α) := by
  unfold refuse
  infer_instance

instance (choices : List Ahead) : Advances (refuseAll choices : Reader α) := by
  unfold refuseAll
  infer_instance

instance (reason : String) : Advances (forbid reason : Reader α) := by
  unfold forbid
  infer_instance

instance (reason : String) : Advances (refuseFor reason : Reader α) := by
  unfold refuseFor
  infer_instance

/-! ## Taking -/

/-- Tokens that are a rest of others. -/
class IsRest (rest ts : List Token) : Prop where
  suffix : rest <:+ ts

instance (rest : List Token) : IsRest rest rest where
  suffix := List.suffix_rfl

instance (t : Token) (rest ts : List Token) [h : IsRest rest ts] : IsRest rest (t :: ts) where
  suffix := h.suffix.trans (List.suffix_cons t ts)

instance (n : Nat) (ts : List Token) : IsRest (ts.drop n) ts where
  suffix := List.drop_suffix n ts

/-- A reader that keeps to the rests of these tokens. -/
class KeepsTo (ts : List Token) (r : Reader α) : Prop where
  suffix {s s' : ReadState} {a : α} : s.ahead <:+ ts → r.run s = .ok (a, s') → s'.ahead <:+ ts

variable {ts : List Token}

instance {r : Reader α} [Advances r] : KeepsTo ts r where
  suffix hs h := (Advances.suffix h).trans hs

theorem keepsTo_bind {r : Reader α} {f : α → Reader β} (hr : KeepsTo ts r)
    (hf : ∀ a, KeepsTo ts (f a)) : KeepsTo ts (r >>= f) where
  suffix hs h := by
    obtain ⟨a, t, h, h'⟩ := run_bind_eq_ok h
    exact (hf a).suffix (hr.suffix hs h) h'

instance {r : Reader α} {f : α → Reader β} [hr : KeepsTo ts r] [hf : ∀ a, KeepsTo ts (f a)] :
    KeepsTo ts (r >>= f) :=
  keepsTo_bind hr hf

theorem keepsTo_ite {c : Prop} [Decidable c] {r q : Reader α} (hr : KeepsTo ts r)
    (hq : KeepsTo ts q) : KeepsTo ts (if c then r else q) := by
  split
  · exact hr
  · exact hq

instance {c : Prop} [Decidable c] {r q : Reader α} [hr : KeepsTo ts r] [hq : KeepsTo ts q] :
    KeepsTo ts (if c then r else q) :=
  keepsTo_ite hr hq

instance {rest : List Token} [hrest : IsRest rest ts] : KeepsTo ts (advanceTo rest) where
  suffix _ h := by
    cases h
    exact hrest.suffix

instance (s : ReadState) : KeepsTo s.ahead (set s : Reader PUnit) where
  suffix _ h := by
    cases h
    exact List.suffix_rfl

/-- A reader that looks at the tokens ahead and then takes some of them. -/
theorem advances_ahead_bind {f : List Token → Reader α} (h : ∀ ts, KeepsTo ts (f ts)) :
    Advances (ahead >>= f) where
  suffix {s _ _} hrun := by
    obtain ⟨_, _, ht, hf⟩ := run_bind_eq_ok hrun
    cases ht
    exact (h s.ahead).suffix List.suffix_rfl hf

/-- A reader that goes back to where it started from, at most. -/
theorem advances_get_bind {f : ReadState → Reader α} (h : ∀ s, KeepsTo s.ahead (f s)) :
    Advances (get >>= f) where
  suffix {s _ _} hrun := by
    obtain ⟨_, _, ht, hf⟩ := run_bind_eq_ok hrun
    cases ht
    exact (h s).suffix List.suffix_rfl hf

instance (text : String) : Advances (op text) := by
  refine advances_ahead_bind fun ts => ?_
  infer_instance

instance (text : String) : Advances (word text) := by
  refine advances_ahead_bind fun ts => ?_
  split <;> infer_instance

instance (text : String) : Advances (op? text) := by
  unfold op?
  infer_instance

instance (text : String) : Advances (word? text) := by
  unfold word?
  infer_instance

instance : Advances name := by
  refine advances_ahead_bind fun ts => ?_
  split <;> infer_instance

instance : Advances anyWord := by
  refine advances_ahead_bind fun ts => ?_
  split <;> infer_instance

instance : Advances lifetime := by
  refine advances_ahead_bind fun ts => ?_
  split <;> infer_instance

instance : Advances literal := by
  refine advances_ahead_bind fun ts => ?_
  split <;> infer_instance

instance : Advances string := by
  refine advances_ahead_bind fun ts => ?_
  split <;> infer_instance

/-- Whatever is read inside a group, the tokens after the group come next. -/
instance (d : Delimiter) (inner : Reader α) : Advances (inGroup d inner) := by
  refine advances_ahead_bind fun ts => ?_
  split
  next e content rest =>
    refine keepsTo_ite ⟨fun {s s' a} hs h => ?_⟩ inferInstance
    obtain ⟨outer, _, -, h⟩ := run_bind_eq_ok h
    obtain ⟨_, _, -, h⟩ := run_bind_eq_ok h
    obtain ⟨result, _, -, h⟩ := run_bind_eq_ok h
    obtain ⟨_, _, -, h⟩ := run_bind_eq_ok h
    obtain ⟨_, _, hset, h⟩ := run_bind_eq_ok h
    cases hset
    cases h
    exact List.suffix_cons _ rest
  next => infer_instance

/-! ## Trying -/

instance (r : Reader α) : Advances (lookAhead r) where
  suffix h := by
    obtain ⟨_, _, hget, h⟩ := run_bind_eq_ok h
    cases hget
    split at h <;> cases h <;> exact List.suffix_rfl

instance (r : Reader α) [Advances r] : Advances (attempt r) where
  suffix h := by
    obtain ⟨_, _, hget, h⟩ := run_bind_eq_ok h
    cases hget
    split at h
    next a t hr =>
      cases h
      exact Advances.suffix hr
    next =>
      cases h
      exact List.suffix_rfl

/-! ## Repeating -/

instance {step : List α → Reader (List α × Bool)} [∀ acc, Advances (step acc)] (fuel : Nat)
    (acc : List α) : Advances (repeatUpTo step fuel acc) := by
  induction fuel generalizing acc with
  | zero =>
    rw [repeatUpTo]
    infer_instance
  | succ fuel ih =>
    rw [repeatUpTo]
    infer_instance

theorem advances_repeatStep {step : List α → Reader (List α × Bool)}
    (hstep : ∀ acc, Advances (step acc)) : Advances (repeatStep step) := by
  unfold repeatStep
  infer_instance

instance {step : List α → Reader (List α × Bool)} [hstep : ∀ acc, Advances (step acc)] :
    Advances (repeatStep step) :=
  advances_repeatStep hstep

instance (r : Reader α) [Advances r] : Advances (untilEnd r) := by
  unfold untilEnd
  infer_instance

instance (f : α → Reader β) [∀ a, Advances (f a)] (as : List α) : Advances (as.mapM f) := by
  induction as with
  | nil =>
    rw [List.mapM_nil]
    infer_instance
  | cons a as ih =>
    rw [List.mapM_cons]
    infer_instance

variable (separator : String) (stop : Reader Bool) (element : Reader α) [Advances stop]
  [Advances element]

instance : Advances (separatedMarked separator stop element) := by
  unfold separatedMarked
  infer_instance

instance : Advances (separatedUntil separator stop element) := by
  unfold separatedUntil
  infer_instance

instance : Advances (separatedWhile separator stop element) := by
  unfold separatedWhile
  infer_instance

variable (element : Reader Node) [Advances element]

instance : Advances (nodesUntil separator stop element) := by
  unfold nodesUntil
  infer_instance

instance : Advances (nodesWhile separator stop element) := by
  unfold nodesWhile
  infer_instance

end RestLoom.Source
