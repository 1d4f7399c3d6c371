import RestLoom.Layout.Fill
import RestLoom.Proofs.Outcome
import Mathlib.Data.List.Infix
import Mathlib.Tactic.ByContra
import Mathlib.Tactic.SplitIfs

/-!
# Proofs/Layout/Fill — the commands that wait

    entries   printed │ waiting
    unknown           │ k … m      the places of unknown width, in order

A command waits until it is printed.  What waits is read off as a list, of which the state also
notes where the widths are unknown (`Tracks`).  Printing takes the front of that list away and
changes nothing else of it; settling widths keeps its commands and changes widths only
(`Settles`), and `settleCommands` says which ones are left unknown.
-/

namespace RestLoom.Layout.Filler

/-! ## What waits -/

/-- The entries that wait. -/
def waiting (f : Filler) : List Entry := f.entries.toList.drop f.start

/-- The commands that wait. -/
def commands (f : Filler) : List Command := f.waiting.map (·.command)

/-- The places of the entries of unknown width, the first place being `k`. -/
def unknownFrom (k : Nat) : List Entry → List Nat
  | [] => []
  | e :: es => if e.size < 0 then k :: unknownFrom (k + 1) es else unknownFrom (k + 1) es

attribute [local simp] unknownFrom

theorem unknownFrom_append (k : Nat) (a b : List Entry) :
    unknownFrom k (a ++ b) = unknownFrom k a ++ unknownFrom (k + a.length) b := by
  induction a generalizing k with
  | nil => rfl
  | cons e a ih =>
    rw [List.cons_append, unknownFrom, unknownFrom, ih, List.length_cons]
    split
    · rw [List.cons_append, Nat.add_assoc, Nat.add_comm 1]
    · rw [Nat.add_assoc, Nat.add_comm 1]

theorem unknownFrom_eq_nil {k : Nat} {es : List Entry} :
    unknownFrom k es = [] ↔ ∀ e ∈ es, 0 ≤ e.size := by
  induction es generalizing k with
  | nil => simp
  | cons e es ih =>
    rw [unknownFrom, List.forall_mem_cons]
    split
    next h => exact iff_of_false nofun fun hall => absurd hall.1 (by omega)
    next h => rw [ih, and_iff_right (by omega)]

theorem le_of_mem_unknownFrom {k i : Nat} {es : List Entry} (h : i ∈ unknownFrom k es) : k ≤ i := by
  induction es generalizing k with
  | nil => cases h
  | cons e es ih =>
    rw [unknownFrom] at h
    split at h
    · obtain rfl | h := List.mem_cons.mp h
      · exact Nat.le_refl _
      · exact Nat.le_of_succ_le (ih h)
    · exact Nat.le_of_succ_le (ih h)

/-- Whether the places of the waiting entries of unknown width are noted. -/
structure Tracks (f : Filler) : Prop where
  start_le : f.start ≤ f.entries.size
  unknownStart_le : f.unknownStart ≤ f.unknown.size
  unknown : f.unknown.toList.drop f.unknownStart = unknownFrom f.start f.waiting

variable {f g : Filler}

theorem length_waiting (f : Filler) : f.waiting.length = f.entries.size - f.start := by
  rw [waiting, List.length_drop, Array.length_toList]

theorem Tracks.allKnown_iff (h : Tracks f) : f.allKnown = true ↔ ∀ e ∈ f.waiting, 0 ≤ e.size := by
  rw [← unknownFrom_eq_nil, ← h.unknown, List.drop_eq_nil_iff, Array.length_toList, allKnown,
    decide_eq_true_iff]

theorem noneWaits_iff : f.noneWaits = true ↔ f.waiting = [] := by
  rw [waiting, List.drop_eq_nil_iff, Array.length_toList, noneWaits, decide_eq_true_iff]

/-- An entry among those that wait. -/
theorem getElem!_of_waiting {a b : List Entry} {e : Entry} (h : f.waiting = a ++ e :: b) :
    f.start + a.length < f.entries.size ∧ f.entries[f.start + a.length]! = e := by
  have hget : f.entries.toList[f.start + a.length]? = some e := by
    rw [← List.getElem?_drop, ← waiting, h, List.getElem?_append_right (Nat.le_refl _),
      Nat.sub_self, List.getElem?_cons_zero]
  obtain ⟨hlt, hget⟩ := List.getElem?_eq_some_iff.mp hget
  rw [Array.length_toList] at hlt
  exact ⟨hlt, (getElem!_pos f.entries _ hlt).trans hget⟩

theorem modify_append_cons {α : Type} (k : α → α) (a b : List α) (e : α) :
    (a ++ e :: b).modify a.length k = a ++ k e :: b := by
  induction a with
  | nil => rfl
  | cons x a ih => rw [List.cons_append, List.length_cons, List.modify_succ_cons, ih]; rfl

/-- What waits after one of the entries has changed. -/
theorem waiting_of_modify {a b : List Entry} {e : Entry} {k : Entry → Entry}
    (h : f.waiting = a ++ e :: b) (hentries : g.entries = f.entries.modify (f.start + a.length) k)
    (hstart : g.start = f.start) : g.waiting = a ++ k e :: b := by
  rw [waiting, hentries, hstart, Array.toList_modify,
    List.drop_modify_of_ge _ _ _ _ (Nat.le_add_right _ _), Nat.add_sub_cancel_left, ← waiting, h,
    modify_append_cons]

/-- The entries that wait, from the last one on. -/
theorem waiting?_eq (f : Filler) (k : Nat) :
    f.waiting? k = f.waiting.reverse[k]?.map (·.command) := by
  have hlength := length_waiting f
  rw [waiting?]
  by_cases hk : k < f.waiting.length
  · have hplace : f.start + (f.waiting.length - 1 - k) = f.entries.size - 1 - k := by omega
    have hlt : f.entries.size - 1 - k < f.entries.size := by omega
    rw [if_pos (by omega), List.getElem?_reverse hk]
    conv => rhs; rw [waiting, List.getElem?_drop, ← waiting, hplace, Array.getElem?_toList]
    rw [getElem!_pos f.entries _ hlt, Array.getElem?_eq_getElem hlt]
    rfl
  · rw [if_neg (by omega), List.getElem?_eq_none (by rw [List.length_reverse]; omega)]
    rfl

theorem exists_of_waiting? {k : Nat} {c : Command} (h : f.waiting? k = some c) :
    ∃ e es, f.waiting.reverse.drop k = e :: es ∧ e.command = c := by
  rw [waiting?_eq, ← List.head?_drop] at h
  obtain ⟨e, he, hc⟩ := Option.map_eq_some_iff.mp h
  obtain ⟨es, hes⟩ := List.head?_eq_some_iff.mp he
  exact ⟨e, es, hes, hc⟩

/-! ## Printing

Printing takes entries from the front and leaves the others as they are. -/

/-- Whether the same entries wait. -/
structure SameQueue (f g : Filler) : Prop where
  entries : g.entries = f.entries
  start : g.start = f.start
  unknown : g.unknown = f.unknown
  unknownStart : g.unknownStart = f.unknownStart
  rightTotal : g.rightTotal = f.rightTotal

theorem SameQueue.trans {h : Filler} (hfg : SameQueue f g) (hgh : SameQueue g h) : SameQueue f h :=
  ⟨hgh.entries.trans hfg.entries, hgh.start.trans hfg.start, hgh.unknown.trans hfg.unknown,
    hgh.unknownStart.trans hfg.unknownStart, hgh.rightTotal.trans hfg.rightTotal⟩

theorem SameQueue.waiting (h : SameQueue f g) : g.waiting = f.waiting := by
  rw [Filler.waiting, Filler.waiting, h.entries, h.start]

theorem SameQueue.tracks (h : SameQueue f g) (hf : Tracks f) : Tracks g := by
  refine ⟨?_, ?_, ?_⟩
  · rw [h.start, h.entries]
    exact hf.start_le
  · rw [h.unknownStart, h.unknown]
    exact hf.unknownStart_le
  · rw [h.waiting, h.start, h.unknown, h.unknownStart]
    exact hf.unknown

theorem sameQueue_printText (f : Filler) (s : String) : SameQueue f (f.printText s) :=
  ⟨rfl, rfl, rfl, rfl, rfl⟩

theorem sameQueue_printOpen (f : Filler) (offset : Int) (consistent : Bool) (size : Int) :
    SameQueue f (f.printOpen offset consistent size) := by
  rw [printOpen]
  split <;> exact ⟨rfl, rfl, rfl, rfl, rfl⟩

theorem sameQueue_printClose (f : Filler) : SameQueue f f.printClose := by
  rw [printClose]
  split <;> exact ⟨rfl, rfl, rfl, rfl, rfl⟩

theorem sameQueue_printBreak (f : Filler) (b : Break) (size : Int) :
    SameQueue f (f.printBreak b size) := by
  unfold printBreak
  dsimp only
  split_ifs
  · cases b.otherwise <;> exact ⟨rfl, rfl, rfl, rfl, rfl⟩
  · cases b.beforeEnd <;> exact ⟨rfl, rfl, rfl, rfl, rfl⟩
  · cases b.beforeEnd <;> exact ⟨rfl, rfl, rfl, rfl, rfl⟩

theorem sameQueue_printFront (f : Filler) :
    SameQueue { f with start := f.start + 1 } f.printFront := by
  rw [printFront]
  dsimp only
  split
  · refine .trans ?_ (sameQueue_printText _ _)
    exact ⟨rfl, rfl, rfl, rfl, rfl⟩
  · refine .trans ?_ (sameQueue_printBreak _ _ _)
    exact ⟨rfl, rfl, rfl, rfl, rfl⟩
  · exact sameQueue_printOpen _ _ _ _
  · exact sameQueue_printClose _

theorem waiting_printFront {e : Entry} {es : List Entry} (h : f.waiting = e :: es) :
    f.printFront.waiting = es := by
  rw [(sameQueue_printFront f).waiting, waiting]
  dsimp only
  rw [← List.drop_drop, ← waiting, h, List.drop_one, List.tail_cons]

theorem Tracks.printFront {e : Entry} {es : List Entry} (hf : Tracks f) (h : f.waiting = e :: es)
    (he : 0 ≤ e.size) : Tracks f.printFront := by
  have hlt := (getElem!_of_waiting (a := []) h).1
  refine (sameQueue_printFront f).tracks ⟨hlt, hf.unknownStart_le, ?_⟩
  have hwaiting := waiting_printFront h
  rw [(sameQueue_printFront f).waiting] at hwaiting
  rw [hwaiting]
  refine hf.unknown.trans ?_
  rw [h, unknownFrom, if_neg (by omega)]

/-! ## Making room -/

/-- The first of the noted places is the front if the width of the front is unknown. -/
theorem Tracks.isFront_iff (h : Tracks f) {e : Entry} {es : List Entry}
    (hwaiting : f.waiting = e :: es) :
    (!f.allKnown && f.unknown[f.unknownStart]! == f.start) = true ↔ e.size < 0 := by
  have hunknown := h.unknown
  rw [hwaiting, unknownFrom] at hunknown
  have hget {i : Nat} {is : List Nat} (hi : f.unknown.toList.drop f.unknownStart = i :: is) :
      f.allKnown = false ∧ f.unknown[f.unknownStart]! = i := by
    have hlt : f.unknownStart < f.unknown.size := by
      by_contra hge
      rw [List.drop_eq_nil_of_le (by simpa using hge)] at hi
      cases hi
    refine ⟨decide_eq_false (by omega), ?_⟩
    have hcons := List.drop_eq_getElem_cons (l := f.unknown.toList) (i := f.unknownStart)
      (by simpa using hlt)
    rw [hi] at hcons
    rw [getElem!_pos f.unknown _ hlt]
    simpa using (List.cons.inj hcons).1.symm
  split at hunknown
  next hsize =>
    obtain ⟨hall, hfirst⟩ := hget hunknown
    rw [hall, hfirst]
    exact iff_of_true (by simp) hsize
  next hsize =>
    refine iff_of_false ?_ hsize
    intro hfront
    cases hdrop : f.unknown.toList.drop f.unknownStart with
    | nil =>
      rw [show f.allKnown = true from decide_eq_true (by simpa using hdrop)] at hfront
      cases hfront
    | cons i is =>
      have hle := le_of_mem_unknownFrom (hunknown ▸ hdrop ▸ List.mem_cons_self)
      rw [(hget hdrop).2, Bool.and_eq_true, beq_iff_eq] at hfront
      omega

/-- The front with the width that fits nowhere. -/
def force (f : Filler) : Filler :=
  { f with
    unknownStart := f.unknownStart + 1
    entries := f.entries.modify f.start fun e => { e with size := tooWide } }

theorem waiting_force {e : Entry} {es : List Entry} (hwaiting : f.waiting = e :: es) :
    f.force.waiting = { e with size := tooWide } :: es :=
  waiting_of_modify (a := []) (k := fun e => { e with size := tooWide }) hwaiting rfl rfl

theorem Tracks.force (h : Tracks f) {e : Entry} {es : List Entry} (hwaiting : f.waiting = e :: es)
    (he : e.size < 0) : Tracks f.force := by
  have hunknown := h.unknown
  rw [hwaiting, unknownFrom, if_pos he] at hunknown
  refine ⟨?_, ?_, ?_⟩
  · rw [Filler.force, Array.size_modify]
    exact h.start_le
  · by_contra hge
    rw [Nat.not_le] at hge
    rw [List.drop_eq_nil_of_le (by rw [Array.length_toList]; exact Nat.le_of_lt_succ hge)]
      at hunknown
    cases hunknown
  · rw [waiting_force hwaiting, unknownFrom, if_neg (by change ¬(tooWide : Int) < 0; decide)]
    change f.unknown.toList.drop (f.unknownStart + 1) = _
    rw [← List.drop_drop, hunknown, List.drop_one, List.tail_cons]
    rfl

/-! ## Settling widths -/

/-- The commands of unknown width among entries. -/
def unknownCommands (es : List Entry) : List Command :=
  (es.filter (·.size < 0)).map (·.command)

theorem unknownCommands_append (a b : List Entry) :
    unknownCommands (a ++ b) = unknownCommands a ++ unknownCommands b := by
  rw [unknownCommands, List.filter_append, List.map_append]
  rfl

theorem unknownCommands_eq_nil {es : List Entry} :
    unknownCommands es = [] ↔ ∀ e ∈ es, 0 ≤ e.size := by
  simp [unknownCommands]

theorem unknownCommands_cons_of_neg {e : Entry} (h : e.size < 0) (es : List Entry) :
    unknownCommands (e :: es) = e.command :: unknownCommands es := by
  rw [unknownCommands, List.filter_cons_of_pos (by simpa using h), List.map_cons]
  rfl

theorem unknownCommands_cons_of_nonneg {e : Entry} (h : 0 ≤ e.size) (es : List Entry) :
    unknownCommands (e :: es) = unknownCommands es := by
  rw [unknownCommands, List.filter_cons_of_neg (by simpa using h)]
  rfl

theorem length_unknownFrom (k : Nat) (es : List Entry) :
    (unknownFrom k es).length = (unknownCommands es).length := by
  induction es generalizing k with
  | nil => rfl
  | cons e es ih =>
    rw [unknownFrom]
    split
    next h => rw [unknownCommands_cons_of_neg h, List.length_cons, List.length_cons, ih]
    next h => rw [unknownCommands_cons_of_nonneg (by omega), ih]

/-- Which commands stay of unknown width when widths are settled, from the last one on. -/
def settleCommands : Nat → List Command → List Command
  | _, [] => []
  | depth, .openBox o c :: cs =>
    if depth = 0 then .openBox o c :: cs else settleCommands (depth - 1) cs
  | depth, .line _ :: cs => if depth = 0 then cs else settleCommands depth cs
  | depth, _ :: cs => settleCommands (depth + 1) cs

/-- Whether an entry is one whose width may have been settled; a box then has the width up to its
end. -/
def Settled (right : Int) (e e' : Entry) : Prop :=
  e'.command = e.command ∧ (e'.size = e.size ∨ (e.size < 0 ∧ 0 ≤ e'.size ∧
    ∀ o c, e.command = .openBox o c → e'.size = e.size + right))

theorem Settled.trans {right : Int} {e e' e'' : Entry} (h : Settled right e e')
    (h' : Settled right e' e'') : Settled right e e'' := by
  obtain ⟨hc, hs⟩ := h
  obtain ⟨hc', hs'⟩ := h'
  refine ⟨hc'.trans hc, ?_⟩
  obtain hs | ⟨hneg, hpos, hbox⟩ := hs
  · rwa [hs, hc] at hs'
  · obtain hs' | ⟨hneg', -, -⟩ := hs'
    · rw [hs']
      exact .inr ⟨hneg, hpos, hbox⟩
    · omega

theorem settled_commands {right : Int} {es es' : List Entry}
    (h : List.Forall₂ (Settled right) es es') : es'.map (·.command) = es.map (·.command) := by
  induction h with
  | nil => rfl
  | cons he _ ih => rw [List.map_cons, List.map_cons, he.1, ih]

/-- The last entry of unknown width. -/
theorem exists_last_unknown {es : List Entry} (h : ¬∀ e ∈ es, 0 ≤ e.size) :
    ∃ a e b, es = a ++ e :: b ∧ e.size < 0 ∧ ∀ x ∈ b, 0 ≤ x.size := by
  induction es with
  | nil => exact absurd (fun _ h => nomatch h) h
  | cons x es ih =>
    by_cases hes : ∀ e ∈ es, 0 ≤ e.size
    · refine ⟨[], x, es, rfl, ?_, hes⟩
      by_contra hx
      exact h (List.forall_mem_cons.mpr ⟨by omega, hes⟩)
    · obtain ⟨a, e, b, rfl, he, hb⟩ := ih hes
      exact ⟨x :: a, e, b, rfl, he, hb⟩

theorem unknownFrom_last {k : Nat} {a b : List Entry} {e : Entry} (he : e.size < 0)
    (hb : ∀ x ∈ b, 0 ≤ x.size) :
    unknownFrom k (a ++ e :: b) = unknownFrom k a ++ [k + a.length] := by
  rw [unknownFrom_append, unknownFrom, if_pos he, unknownFrom_eq_nil.mpr hb]

/-- The last noted place is that of the last entry of unknown width. -/
theorem Tracks.back (h : Tracks f) {a b : List Entry} {e : Entry}
    (hwaiting : f.waiting = a ++ e :: b) (he : e.size < 0) (hb : ∀ x ∈ b, 0 ≤ x.size) :
    f.unknown.back! = f.start + a.length ∧
      f.unknown.pop.toList.drop f.unknownStart = unknownFrom f.start a ∧
      f.unknownStart ≤ f.unknown.pop.size := by
  have hunknown := h.unknown
  rw [hwaiting, unknownFrom_last he hb] at hunknown
  have hsplit := List.take_append_drop f.unknownStart f.unknown.toList
  rw [hunknown, ← List.append_assoc] at hsplit
  have hlength : (f.unknown.toList.take f.unknownStart).length = f.unknownStart :=
    List.length_take_of_le h.unknownStart_le
  refine ⟨?_, ?_, ?_⟩
  · rw [Array.back!_eq_back?, ← Array.getLast?_toList, ← hsplit, List.getLast?_concat]
    rfl
  · rw [Array.toList_pop, ← hsplit, List.dropLast_concat, List.drop_append_of_le_length (by omega),
      List.drop_eq_nil_of_le hlength.le, List.nil_append]
  · rw [Array.size_pop, ← Array.length_toList, ← hsplit, List.length_append, List.length_append,
      hlength, List.length_singleton]
    omega

/-- Takes the last of the noted places away and changes the entry there. -/
def settleAt (f : Filler) (i : Nat) (k : Entry → Entry) : Filler :=
  { f with unknown := f.unknown.pop, entries := f.entries.modify i k }

theorem Tracks.settleAt (h : Tracks f) {a b : List Entry} {e : Entry} {k : Entry → Entry}
    (hwaiting : f.waiting = a ++ e :: b) (he : e.size < 0) (hb : ∀ x ∈ b, 0 ≤ x.size)
    (hk : 0 ≤ (k e).size) : Tracks (f.settleAt (f.start + a.length) k) ∧
      (f.settleAt (f.start + a.length) k).waiting = a ++ k e :: b := by
  have hnew : (f.settleAt (f.start + a.length) k).waiting = a ++ k e :: b :=
    waiting_of_modify hwaiting rfl rfl
  obtain ⟨-, hdrop, hle⟩ := h.back hwaiting he hb
  refine ⟨⟨?_, hle, ?_⟩, hnew⟩
  · rw [Filler.settleAt, Array.size_modify]
    exact h.start_le
  · rw [hnew, unknownFrom_append, unknownFrom, if_neg (by omega), unknownFrom_eq_nil.mpr hb,
      List.append_nil]
    exact hdrop

theorem forall₂_settled_change {right : Int} {a b : List Entry} {e e' : Entry}
    (h : Settled right e e') : List.Forall₂ (Settled right) (a ++ e :: b) (a ++ e' :: b) := by
  have hrefl (es : List Entry) : List.Forall₂ (Settled right) es es :=
    List.forall₂_same.mpr fun _ _ => ⟨rfl, .inl rfl⟩
  exact List.rel_append (hrefl a) (.cons h (hrefl b))

theorem forall₂_settled_trans {right : Int} {es es' es'' : List Entry}
    (h : List.Forall₂ (Settled right) es es') (h' : List.Forall₂ (Settled right) es' es'') :
    List.Forall₂ (Settled right) es es'' := by
  induction h generalizing es'' with
  | nil => exact h'
  | cons he _ ih =>
    cases h' with
    | cons he' h' => exact .cons (he.trans he') (ih h')

/-- Whether widths have been settled, so that commands `cs` are left of unknown width. -/
structure Settles (right : Int) (cs : List Command) (f g : Filler) : Prop where
  tracks : Tracks g
  unknown : unknownCommands g.waiting = cs
  settled : List.Forall₂ (Settled right) f.waiting g.waiting
  same : g = { f with entries := g.entries, unknown := g.unknown }

theorem Tracks.settles_self (h : Tracks f) (right : Int) :
    Settles right (unknownCommands f.waiting) f f :=
  ⟨h, rfl, List.forall₂_same.mpr fun _ _ => ⟨rfl, .inl rfl⟩, rfl⟩

theorem Settles.trans {right : Int} {cs cs' : List Command} {h : Filler}
    (hfg : Settles right cs f g) (hgh : Settles right cs' g h) : Settles right cs' f h := by
  refine ⟨hgh.tracks, hgh.unknown, forall₂_settled_trans hfg.settled hgh.settled, ?_⟩
  rw [hgh.same, hfg.same]

theorem Tracks.settles_settleAt (h : Tracks f) {right : Int} {a b : List Entry} {e : Entry}
    {k : Entry → Entry} (hwaiting : f.waiting = a ++ e :: b) (he : e.size < 0)
    (hb : ∀ x ∈ b, 0 ≤ x.size) (hk : Settled right e (k e)) (hpos : 0 ≤ (k e).size) :
    Settles right (unknownCommands a) f (f.settleAt (f.start + a.length) k) := by
  obtain ⟨htracks, hnew⟩ := h.settleAt hwaiting he hb hpos
  refine ⟨htracks, ?_, ?_, rfl⟩
  · rw [hnew, unknownCommands_append, unknownCommands_cons_of_nonneg hpos,
      unknownCommands_eq_nil.mpr hb, List.append_nil]
  · rw [hwaiting, hnew]
    exact forall₂_settled_change hk

/-- Settled widths leave sizes in their bounds. -/
theorem Settles.sizes {right : Int} {cs : List Command} (h : Settles right cs f g)
    (hright : 0 ≤ right) (hsizes : ∀ e ∈ f.waiting, 0 ≤ e.size + right) :
    ∀ e ∈ g.waiting, 0 ≤ e.size + right := by
  intro e he
  obtain ⟨x, hx, -, hsize | ⟨-, hpos, -⟩⟩ :=
    Outcome.exists_of_mem_left (List.Forall₂.flip (R := flip (Settled right)) h.settled) he
  · rw [hsize]
    exact hsizes x hx
  · exact Int.add_nonneg hpos hright

theorem Tracks.settleUpTo (h : Tracks f) (hright : 0 ≤ f.rightTotal)
    (hsizes : ∀ e ∈ f.waiting, 0 ≤ e.size + f.rightTotal) {n depth : Nat}
    (hn : (unknownCommands f.waiting).length ≤ n) :
    Settles f.rightTotal (settleCommands depth (unknownCommands f.waiting).reverse).reverse f
      (settleUpTo n depth f) := by
  induction n generalizing f depth with
  | zero =>
    rw [Nat.le_zero, List.length_eq_zero_iff] at hn
    have hself := h.settles_self f.rightTotal
    rw [hn] at hself ⊢
    exact hself
  | succ n ih =>
    rw [Filler.settleUpTo]
    by_cases hall : ∀ e ∈ f.waiting, 0 ≤ e.size
    · rw [if_pos (h.allKnown_iff.mpr hall)]
      have hself := h.settles_self f.rightTotal
      rw [unknownCommands_eq_nil.mpr hall] at hself ⊢
      exact hself
    · obtain ⟨a, e, b, hwaiting, he, hb⟩ := exists_last_unknown hall
      have hunknown : unknownCommands f.waiting = unknownCommands a ++ [e.command] := by
        rw [hwaiting, unknownCommands_append, unknownCommands_cons_of_neg he,
          unknownCommands_eq_nil.mpr hb]
      have hgrown : 0 ≤ e.size + f.rightTotal :=
        hsizes e (hwaiting ▸ List.mem_append_right _ List.mem_cons_self)
      rw [if_neg fun hknown => hall (h.allKnown_iff.mp hknown), (h.back hwaiting he hb).1]
      dsimp only
      rw [(getElem!_of_waiting hwaiting).2, hunknown, List.reverse_concat]
      have hone {k : Entry → Entry} (hk : Settled f.rightTotal e (k e)) (hpos : 0 ≤ (k e).size) :
          Settles f.rightTotal (unknownCommands a) f (f.settleAt (f.start + a.length) k) :=
        h.settles_settleAt hwaiting he hb hk hpos
      have hgo {depth' : Nat} {k : Entry → Entry} (hk : Settled f.rightTotal e (k e))
          (hpos : 0 ≤ (k e).size) :
          Settles f.rightTotal (settleCommands depth' (unknownCommands a).reverse).reverse f
            (Filler.settleUpTo n depth' (f.settleAt (f.start + a.length) k)) := by
        have hstep := hone hk hpos
        have hfewer : (unknownCommands (f.settleAt (f.start + a.length) k).waiting).length ≤ n := by
          rw [hstep.unknown]
          rw [hunknown, List.length_append, List.length_singleton] at hn
          omega
        have hrest := @ih _ hstep.tracks hright (hstep.sizes hright hsizes) depth' hfewer
        rw [hstep.unknown] at hrest
        exact hstep.trans hrest
      have hgrow : Settled f.rightTotal e { e with size := e.size + f.rightTotal } :=
        ⟨rfl, .inr ⟨he, hgrown, fun _ _ _ => rfl⟩⟩
      cases hc : e.command with
      | openBox o c =>
        dsimp only
        rw [settleCommands]
        split
        · have hself := h.settles_self f.rightTotal
          rw [hunknown, hc] at hself
          rwa [List.reverse_cons, List.reverse_reverse]
        · exact hgo (k := fun e => { e with size := e.size + f.rightTotal }) hgrow hgrown
      | line b =>
        dsimp only
        rw [settleCommands]
        split
        · rw [List.reverse_reverse]
          exact hone (k := fun e => { e with size := e.size + f.rightTotal }) hgrow hgrown
        · exact hgo (k := fun e => { e with size := e.size + f.rightTotal }) hgrow hgrown
      | _ =>
        exact hgo (k := fun e => { e with size := 1 })
          ⟨rfl, .inr ⟨he, Int.zero_le_ofNat 1, fun o c h => nomatch hc.symm.trans h⟩⟩
          (Int.zero_le_ofNat 1)

theorem Tracks.settle (h : Tracks f) (hright : 0 ≤ f.rightTotal)
    (hsizes : ∀ e ∈ f.waiting, 0 ≤ e.size + f.rightTotal) :
    Settles f.rightTotal (settleCommands 0 (unknownCommands f.waiting).reverse).reverse f
      f.settle := by
  refine h.settleUpTo hright hsizes ?_
  rw [← length_unknownFrom f.start, ← h.unknown, List.length_drop, Array.length_toList]
  exact Nat.sub_le _ _

/-! ## Taking commands -/

theorem tracks_pushUnknown (h : Tracks f) (c : Command) {size : Int} (hsize : size < 0) :
    Tracks (f.pushUnknown c size) ∧
      (f.pushUnknown c size).waiting = f.waiting ++ [⟨c, size⟩] := by
  have hwaiting : (f.pushUnknown c size).waiting = f.waiting ++ [⟨c, size⟩] := by
    rw [waiting, pushUnknown, Array.toList_push,
      List.drop_append_of_le_length (by rw [Array.length_toList]; exact h.start_le)]
    rfl
  refine ⟨⟨?_, ?_, ?_⟩, hwaiting⟩
  · rw [pushUnknown, Array.size_push]
    exact Nat.le_succ_of_le h.start_le
  · rw [pushUnknown, Array.size_push]
    exact Nat.le_succ_of_le h.unknownStart_le
  · rw [hwaiting, unknownFrom_append, unknownFrom, if_pos hsize, length_waiting]
    change (f.unknown.push f.entries.size).toList.drop f.unknownStart =
      unknownFrom f.start f.waiting ++ [f.start + (f.entries.size - f.start)]
    rw [Array.toList_push, List.drop_append_of_le_length
      (by rw [Array.length_toList]; exact h.unknownStart_le), h.unknown,
      Nat.add_sub_cancel' h.start_le]

/-- A box's close waits unless there is a break before it that could vanish. -/
theorem scanClose_eq (hknown : f.allKnown ≠ true)
    (hline : ∀ b, f.waiting? 0 = some (.line b) →
      b.ifNonempty = false ∧ ∀ o c, f.waiting? 1 ≠ some (.openBox o c)) :
    f.scanClose = f.pushUnknown .closeBox (-1) := by
  rw [Filler.scanClose, if_neg hknown]
  split
  next b o c hzero hone => exact absurd hone ((hline b hzero).2 o c)
  next b hzero _ =>
    rw [(hline b hzero).1]
    rfl
  next => rfl

end RestLoom.Layout.Filler
