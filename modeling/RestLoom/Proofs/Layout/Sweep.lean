import RestLoom.Proofs.Layout.Fill
import RestLoom.Proofs.Text.Ascii
import RestLoom.Proofs.Text.Lines

/-!
# Proofs/Layout/Sweep — laying out without what has been printed

    entries   printed │ waiting      ──swept──▸      │ waiting

Entries that have been printed stay in the state, but nothing looks at them again: laying out goes
on in the same way on top of any others (`scan_atop`).  So a layout can be computed in a state that
is swept time and again, and compared with a text as it comes out (`toList_render_of_setsAs`).
-/

namespace RestLoom.Layout

namespace Filler

/-! ## On top of what has been printed -/

/-- A filler on top of a text that has been printed, its entries, and places of widths now known. -/
def atop (g : Filler) (out : String) (done : List Entry) (known : List Nat) : Filler :=
  { g with
    out := out ++ g.out
    entries := (done ++ g.entries.toList).toArray
    start := done.length + g.start
    unknown := (known ++ g.unknown.toList.map (done.length + ·)).toArray
    unknownStart := known.length + g.unknownStart }

section
variable (g : Filler) (out : String) (done : List Entry) (known : List Nat)

theorem size_atop : (g.atop out done known).entries.size = done.length + g.entries.size := by
  simp [atop]

theorem getElem!_atop (i : Nat) :
    (g.atop out done known).entries[done.length + i]! = g.entries[i]! := by
  simp [atop, getElem!_def, List.getElem?_append_right]

theorem modify_append_right {α : Type} (k : α → α) (a b : List α) (i : Nat) :
    (a ++ b).modify (a.length + i) k = a ++ b.modify i k := by
  induction a with
  | nil => rw [List.length_nil, Nat.zero_add, List.nil_append, List.nil_append]
  | cons x a ih =>
    rw [List.cons_append, List.length_cons, Nat.add_right_comm, List.modify_succ_cons, ih]
    rfl

theorem modify_atop (i : Nat) (k : Entry → Entry) :
    (g.atop out done known).entries.modify (done.length + i) k =
      (done ++ (g.entries.modify i k).toList).toArray := by
  refine Array.toList_inj.mp ?_
  rw [Array.toList_modify, Array.toList_modify]
  exact modify_append_right k done g.entries.toList i

theorem noneWaits_atop : (g.atop out done known).noneWaits = g.noneWaits := by
  simp [noneWaits, atop]

theorem allKnown_atop : (g.atop out done known).allKnown = g.allKnown := by
  simp [allKnown, atop]

/-! ## Printing -/

theorem append_push (a b : String) (c : Char) : (a ++ b).push c = a ++ b.push c := by
  refine String.toList_inj.mp ?_
  rw [String.toList_push, String.toList_append, String.toList_append, String.toList_push,
    List.append_assoc]

theorem append_pushn (a b : String) (c : Char) (n : Nat) :
    (a ++ b).pushn c n = a ++ b.pushn c n := by
  induction n with
  | zero => rfl
  | succ n ih =>
    change ((a ++ b).pushn c n).push c = a ++ (b.pushn c n).push c
    rw [ih, append_push]

theorem printIndent_atop :
    (g.atop out done known).printIndent = g.printIndent.atop out done known := by
  rw [printIndent, printIndent, atop, atop]
  dsimp only
  rw [append_pushn]

theorem printText_atop (s : String) :
    (g.atop out done known).printText s = (g.printText s).atop out done known := by
  rw [printText, printText, printIndent_atop, atop, atop]
  dsimp only
  rw [String.append_assoc]

theorem printOpen_atop (offset : Int) (consistent : Bool) (size : Int) :
    (g.atop out done known).printOpen offset consistent size =
      (g.printOpen offset consistent size).atop out done known := by
  rw [printOpen, printOpen, apply_ite (atop · out done known)]
  rfl

theorem printClose_atop :
    (g.atop out done known).printClose = g.printClose.atop out done known := by
  rw [printClose, printClose, show (g.atop out done known).frames = g.frames from rfl]
  split <;> rfl

theorem printBreak_atop (b : Break) (size : Int) :
    (g.atop out done known).printBreak b size = (g.printBreak b size).atop out done known := by
  rw [printBreak, printBreak, apply_ite (atop · out done known)]
  refine ite_congr rfl (fun _ => ?_) fun _ => ?_
  · cases b.otherwise with
    | none => rfl
    | some c =>
      simp only [atop, append_push]
  · cases b.beforeEnd with
    | none =>
      dsimp only
      rw [apply_ite (atop · out done known)]
      refine ite_congr rfl (fun _ => ?_) fun _ => ?_
      · simp only [atop, append_push]
      · simp only [atop, printIndent, append_push, append_pushn, String.append_assoc]
    | some c =>
      dsimp only
      rw [apply_ite (atop · out done known)]
      refine ite_congr rfl (fun _ => ?_) fun _ => ?_
      · simp only [atop, printIndent, append_push, append_pushn]
      · simp only [atop, printIndent, append_push, append_pushn, String.append_assoc]

theorem printFront_atop :
    (g.atop out done known).printFront = g.printFront.atop out done known := by
  have hfront : (g.atop out done known).entries[(g.atop out done known).start]! =
      g.entries[g.start]! := getElem!_atop g out done known g.start
  rw [printFront, printFront, hfront]
  cases g.entries[g.start]!.command with
  | text s => exact printText_atop { g with start := g.start + 1, leftTotal := _ } out done known s
  | line b => exact printBreak_atop { g with start := g.start + 1, leftTotal := _ } out done known b _
  | openBox offset consistent =>
    exact printOpen_atop { g with start := g.start + 1 } out done known offset consistent _
  | closeBox => exact printClose_atop { g with start := g.start + 1 } out done known
  | closeWithin max => exact printClose_atop { g with start := g.start + 1 } out done known
  | shift offset => exact printClose_atop { g with start := g.start + 1 } out done known

theorem advanceUpTo_atop (n : Nat) :
    (g.atop out done known).advanceUpTo n = (g.advanceUpTo n).atop out done known := by
  induction n generalizing g with
  | zero => rfl
  | succ n ih =>
    have hfront : (g.atop out done known).entries[(g.atop out done known).start]! =
        g.entries[g.start]! := getElem!_atop g out done known g.start
    rw [advanceUpTo, advanceUpTo, noneWaits_atop, hfront, printFront_atop, ih,
      apply_ite (atop · out done known)]

theorem size_sub_start_atop :
    (g.atop out done known).entries.size - (g.atop out done known).start =
      g.entries.size - g.start := by
  rw [size_atop]
  exact Nat.add_sub_add_left _ _ _

theorem advance_atop : (g.atop out done known).advance = g.advance.atop out done known := by
  rw [advance, advance, size_sub_start_atop, advanceUpTo_atop]

/-! ## Scanning -/

theorem force_atop : (g.atop out done known).force = g.force.atop out done known := by
  rw [force, show (g.atop out done known).start = done.length + g.start from rfl, modify_atop]
  rfl

variable {g}

theorem unknownStart_lt_size (h : ¬g.allKnown = true) : g.unknownStart < g.unknown.size := by
  rwa [allKnown, decide_eq_true_iff, Nat.not_le] at h

theorem firstUnknown_atop (h : ¬g.allKnown = true) :
    (g.atop out done known).unknown[(g.atop out done known).unknownStart]! =
      done.length + g.unknown[g.unknownStart]! := by
  have hlt := unknownStart_lt_size h
  simp [atop, hlt]

theorem back_atop (h : ¬g.allKnown = true) :
    (g.atop out done known).unknown.back! = done.length + g.unknown.back! := by
  have hlt := unknownStart_lt_size h
  have hlast : g.unknown.size - 1 < g.unknown.size := by omega
  have hplace : known.length + g.unknown.size - 1 = known.length + (g.unknown.size - 1) := by omega
  simp [atop, Array.back!, hplace, hlast]

theorem settleAt_atop (h : ¬g.allKnown = true) (i : Nat) (k : Entry → Entry) :
    (g.atop out done known).settleAt (done.length + i) k =
      (g.settleAt i k).atop out done known := by
  have hpop : (g.atop out done known).unknown.pop =
      (known ++ g.unknown.pop.toList.map (done.length + ·)).toArray := by
    refine Array.toList_inj.mp ?_
    have hne : g.unknown.toList.map (done.length + ·) ≠ [] := by
      have hlt := unknownStart_lt_size h
      intro hnil
      rw [List.map_eq_nil_iff, ← List.length_eq_zero_iff, Array.length_toList] at hnil
      omega
    rw [Array.toList_pop, Array.toList_pop, List.map_dropLast]
    exact List.dropLast_append_of_ne_nil hne
  rw [settleAt, modify_atop, hpop]
  rfl

theorem settleUpTo_atop (n depth : Nat) :
    (g.atop out done known).settleUpTo n depth = (g.settleUpTo n depth).atop out done known := by
  induction n generalizing g depth with
  | zero => rfl
  | succ n ih =>
    rw [settleUpTo, settleUpTo, allKnown_atop]
    split
    next => rfl
    next hknown =>
      have hgrown (k : Entry → Entry) := settleAt_atop out done known hknown g.unknown.back! k
      rw [back_atop out done known hknown]
      dsimp only
      rw [getElem!_atop]
      cases g.entries[g.unknown.back!]!.command with
      | openBox offset consistent =>
        dsimp only
        rw [apply_ite (atop · out done known), ← ih]
        exact ite_congr rfl (fun _ => rfl) fun _ => congrArg (settleUpTo n (depth - 1)) (hgrown _)
      | line b =>
        dsimp only
        rw [apply_ite (atop · out done known), ← ih]
        exact ite_congr rfl (fun _ => hgrown _) fun _ => congrArg (settleUpTo n depth) (hgrown _)
      | _ => exact (congrArg (settleUpTo n (depth + 1)) (hgrown _)).trans (ih (depth + 1))

variable (g)

theorem checkWidthUpTo_atop (n : Nat) :
    (g.atop out done known).checkWidthUpTo n = (g.checkWidthUpTo n).atop out done known := by
  induction n generalizing g with
  | zero => rfl
  | succ n ih =>
    have hforce : (if !(g.atop out done known).allKnown &&
        (g.atop out done known).unknown[(g.atop out done known).unknownStart]! ==
          (g.atop out done known).start then (g.atop out done known).force
        else g.atop out done known) =
        (if !g.allKnown && g.unknown[g.unknownStart]! == g.start then g.force else g).atop
          out done known := by
      rw [allKnown_atop, force_atop, apply_ite (atop · out done known)]
      cases hknown : g.allKnown with
      | true => rfl
      | false =>
        rw [firstUnknown_atop out done known (by rw [hknown]; exact Bool.false_ne_true),
          show (g.atop out done known).start = done.length + g.start from rfl]
        simp
    rw [checkWidthUpTo, checkWidthUpTo, noneWaits_atop, apply_ite (atop · out done known), ← ih,
      ← advance_atop]
    exact ite_congr rfl (fun _ => congrArg (fun f => f.advance.checkWidthUpTo n) hforce)
      fun _ => rfl

theorem checkWidth_atop :
    (g.atop out done known).checkWidth = g.checkWidth.atop out done known := by
  rw [checkWidth, checkWidth, size_sub_start_atop, checkWidthUpTo_atop]

/-- What is left to settle bounds the number of steps. -/
theorem settleUpTo_add {n : Nat} (hn : g.unknown.size ≤ n) (m depth : Nat) :
    g.settleUpTo (n + m) depth = g.settleUpTo n depth := by
  induction n generalizing g depth with
  | zero =>
    have hknown : g.allKnown = true :=
      decide_eq_true (Nat.le_trans (Nat.le_of_eq (Nat.le_zero.mp hn)) (Nat.zero_le _))
    cases m with
    | zero => rfl
    | succ m =>
      rw [Nat.zero_add]
      exact if_pos hknown
  | succ n ih =>
    have hpop (entries : Array Entry) :
        ({ g with unknown := g.unknown.pop, entries } : Filler).unknown.size ≤ n := by
      rw [Array.size_pop]
      omega
    rw [Nat.add_right_comm, settleUpTo, settleUpTo]
    split
    next => rfl
    next =>
      dsimp only
      split
      · exact ite_congr rfl (fun _ => rfl) fun _ => ih _ (hpop _) _
      · exact ite_congr rfl (fun _ => rfl) fun _ => ih _ (hpop _) _
      · exact ih _ (hpop _) _

theorem settle_atop : (g.atop out done known).settle = g.settle.atop out done known := by
  have hsize : (g.atop out done known).unknown.size = g.unknown.size + known.length := by
    simp [atop, Nat.add_comm]
  rw [settle, settle, settleUpTo_atop, hsize, settleUpTo_add g (Nat.le_refl _)]

theorem pushUnknown_atop (c : Command) (size : Int) :
    (g.atop out done known).pushUnknown c size =
      (g.pushUnknown c size).atop out done known := by
  simp [pushUnknown, atop]

theorem restart_atop : (g.atop out done known).restart = g.restart.atop out done known := by
  simp [restart, atop]

theorem scanOpen_atop (offset : Int) (consistent : Bool) :
    (g.atop out done known).scanOpen offset consistent =
      (g.scanOpen offset consistent).atop out done known := by
  rw [scanOpen, scanOpen, allKnown_atop, restart_atop]
  split
  · exact pushUnknown_atop g.restart out done known _ _
  · exact pushUnknown_atop g out done known _ _

theorem scanBreak_atop (b : Break) :
    (g.atop out done known).scanBreak b = (g.scanBreak b).atop out done known := by
  rw [scanBreak, scanBreak, allKnown_atop, restart_atop, settle_atop]
  split
  · rw [pushUnknown_atop]
    rfl
  · rw [pushUnknown_atop]
    rfl

theorem scanText_atop (s : String) :
    (g.atop out done known).scanText s = (g.scanText s).atop out done known := by
  rw [scanText, scanText, allKnown_atop, printText_atop, apply_ite (atop · out done known),
    ← checkWidth_atop]
  refine ite_congr rfl (fun _ => rfl) fun _ => congrArg checkWidth ?_
  simp [atop]

theorem waiting?_atop (back : Nat) :
    (g.atop out done known).waiting? back = g.waiting? back := by
  rw [waiting?, waiting?, size_atop,
    show (g.atop out done known).start = done.length + g.start from rfl]
  by_cases h : g.start + back < g.entries.size
  · have hplace : done.length + g.entries.size - 1 - back =
        done.length + (g.entries.size - 1 - back) := by omega
    rw [if_pos (by omega), if_pos h, hplace, getElem!_atop]
  · rw [if_neg (by omega), if_neg h]

theorem size_pos_of_waiting? {back : Nat} {c : Command} (h : g.waiting? back = some c) :
    back < g.entries.size := by
  rw [waiting?] at h
  split at h
  next hlt => omega
  next => cases h

theorem dropUnknown_atop (hentries : 0 < g.entries.size) (hunknown : 0 < g.unknown.size) :
    (g.atop out done known).dropUnknown = g.dropUnknown.atop out done known := by
  have hentries : g.entries.toList ≠ [] := by
    rw [Ne, ← List.length_eq_zero_iff, Array.length_toList]
    omega
  have hunknown : g.unknown.toList.map (done.length + ·) ≠ [] := by
    rw [Ne, List.map_eq_nil_iff, ← List.length_eq_zero_iff, Array.length_toList]
    omega
  simp [dropUnknown, atop, List.dropLast_append_of_ne_nil, hentries, hunknown]

/-- Whether the widths of a box and of the break in it are unknown, where both are about to
vanish. -/
def mayClose (g : Filler) : Bool :=
  g.allKnown || match g.waiting? 0, g.waiting? 1 with
    | some (.line _), some (.openBox ..) => 2 ≤ g.unknown.size
    | _, _ => true

theorem scanClose_atop (h : g.mayClose = true) :
    (g.atop out done known).scanClose = g.scanClose.atop out done known := by
  rw [scanClose, scanClose, allKnown_atop, waiting?_atop, waiting?_atop, printClose_atop]
  cases hknown : g.allKnown with
  | true => rfl
  | false =>
    have hlt := unknownStart_lt_size (g := g) (by rw [hknown]; exact Bool.false_ne_true)
    rw [if_neg Bool.false_ne_true, if_neg Bool.false_ne_true]
    rw [mayClose, hknown, Bool.false_or] at h
    split
    next b offset consistent hzero hone =>
      have hentries := size_pos_of_waiting? g hone
      rw [hzero, hone] at h
      have hunknown : 2 ≤ g.unknown.size := of_decide_eq_true h
      have hsecond : 0 < g.dropUnknown.entries.size := by
        rw [dropUnknown, Array.size_pop]
        omega
      have hsecond' : 0 < g.dropUnknown.unknown.size := by
        rw [dropUnknown, Array.size_pop]
        omega
      rw [dropUnknown_atop g out done known (by omega) (by omega),
        dropUnknown_atop g.dropUnknown out done known hsecond hsecond']
      rfl
    next b hzero _ =>
      have hentries := size_pos_of_waiting? g hzero
      rw [apply_ite (atop · out done known), ← pushUnknown_atop, ← pushUnknown_atop,
        dropUnknown_atop g out done known hentries (by omega)]
      rfl
    next => exact pushUnknown_atop g out done known _ _

theorem scanShift_atop (offset : Int) :
    (g.atop out done known).scanShift offset = (g.scanShift offset).atop out done known := by
  rw [scanShift, scanShift, waiting?_atop]
  split
  next b hzero =>
    have hplace : (g.atop out done known).entries.size - 1 =
        done.length + (g.entries.size - 1) := by
      have hpos := size_pos_of_waiting? g hzero
      rw [size_atop]
      omega
    rw [hplace, modify_atop]
    rfl
  next => rfl

theorem go_atop (depth : Nat) (places : List Nat) :
    innermost.go (g.atop out done known) depth (places.map (done.length + ·)) =
      (innermost.go g depth places).map (done.length + ·) := by
  induction places generalizing depth with
  | nil => rfl
  | cons i places ih =>
    rw [List.map_cons, innermost.go, innermost.go, getElem!_atop]
    cases g.entries[i]!.command with
    | openBox offset consistent =>
      dsimp only
      rw [apply_ite (Option.map (done.length + ·)), ← ih]
      rfl
    | closeBox => exact ih (depth + 1)
    | _ => exact ih depth

theorem innermost_atop :
    (g.atop out done known).innermost = g.innermost.map (done.length + ·) := by
  have hplaces : ((g.atop out done known).unknown.toList.drop
      (g.atop out done known).unknownStart).reverse =
      (g.unknown.toList.drop g.unknownStart).reverse.map (done.length + ·) := by
    rw [List.map_reverse, List.map_drop]
    exact congrArg List.reverse (List.drop_length_add_append _)
  rw [innermost, innermost, hplaces, go_atop]

/-- A filler whose innermost box is too wide if its text is longer than `max`. -/
def widened (g : Filler) (max : Nat) : Filler :=
  match g.innermost with
  | some i =>
    if g.entries[i]!.size < 0 && (max : Int) < g.entries[i]!.size + g.rightTotal then
      { g with
        entries := g.entries.push ⟨.text "", tooWide⟩
        rightTotal := g.rightTotal + tooWide }
    else g
  | none => g

theorem scanCloseWithin_eq (max : Nat) : g.scanCloseWithin max = (g.widened max).scanClose := rfl

theorem widened_atop (max : Nat) :
    (g.atop out done known).widened max = (g.widened max).atop out done known := by
  rw [widened, widened, innermost_atop]
  cases g.innermost with
  | none => rfl
  | some i =>
    rw [Option.map_some]
    dsimp only
    rw [getElem!_atop, apply_ite (atop · out done known)]
    refine ite_congr rfl (fun _ => ?_) fun _ => rfl
    simp [atop]

/-- Whether a command is taken on top of others as it is without them. -/
def mayScan (g : Filler) : Command → Bool
  | .closeBox => g.mayClose
  | .closeWithin max => (g.widened max).mayClose
  | _ => true

/-- **A command is taken** on top of what has been printed as it is without that. -/
theorem scan_atop {c : Command} (h : g.mayScan c = true) :
    (g.atop out done known).scan c = (g.scan c).atop out done known := by
  cases c with
  | text s => exact scanText_atop g out done known s
  | line b => exact scanBreak_atop g out done known b
  | openBox offset consistent => exact scanOpen_atop g out done known offset consistent
  | closeBox => exact scanClose_atop g out done known h
  | closeWithin max =>
    rw [scan, scan, scanCloseWithin_eq, widened_atop]
    exact scanClose_atop (g.widened max) out done known h
  | shift offset => exact scanShift_atop g out done known offset

theorem finish_atop : (g.atop out done known).finish = out ++ g.finish := by
  rw [finish, finish, allKnown_atop, settle_atop, advance_atop, apply_ite (out ++ ·)]
  rfl

/-! ## Sweeping -/

/-- Whether all that is still looked at stands behind what has been printed. -/
def isTidy (g : Filler) : Bool :=
  g.start ≤ g.entries.size && g.unknownStart ≤ g.unknown.size &&
    (g.unknown.toList.drop g.unknownStart).all (g.start ≤ ·)

/-- A filler without what has been printed. -/
def swept (g : Filler) : Filler :=
  { g with
    out := ""
    entries := (g.entries.toList.drop g.start).toArray
    start := 0
    unknown := ((g.unknown.toList.drop g.unknownStart).map (· - g.start)).toArray
    unknownStart := 0 }

theorem atop_swept (h : g.isTidy = true) :
    g.swept.atop g.out (g.entries.toList.take g.start) (g.unknown.toList.take g.unknownStart) =
      g := by
  simp only [isTidy, Bool.and_eq_true, decide_eq_true_iff, List.all_eq_true] at h
  obtain ⟨⟨hstart, hunknownStart⟩, hplaces⟩ := h
  have hdone : (g.entries.toList.take g.start).length = g.start := by
    rw [List.length_take, Array.length_toList, Nat.min_eq_left hstart]
  have hknown : (g.unknown.toList.take g.unknownStart).length = g.unknownStart := by
    rw [List.length_take, Array.length_toList, Nat.min_eq_left hunknownStart]
  have hback : (g.unknown.toList.drop g.unknownStart).map ((g.start + ·) ∘ (· - g.start)) =
      g.unknown.toList.drop g.unknownStart :=
    (List.map_congr_left fun i hi => Nat.add_sub_cancel' (hplaces i hi)).trans (List.map_id _)
  rw [atop, swept, hdone, hknown]
  simp only [List.map_map, hback, List.take_append_drop]
  simp

theorem atop_atop (out' : String) (done' : List Entry) (known' : List Nat) :
    (g.atop out done known).atop out' done' known' =
      g.atop (out' ++ out) (done' ++ done) (known' ++ known.map (done'.length + ·)) := by
  simp [atop, String.append_assoc, Nat.add_assoc]

/-! ## Computing a layout

Numbers are computed before the next command is taken, so that no state refers to the ones before
it. -/

section
variable {α : Type}

/-- Goes on with a number once it is computed. -/
def forceNat (n : Nat) (k : Nat → α) : α :=
  match n with
  | 0 => k 0
  | n + 1 => k (n + 1)

/-- Goes on with a whole number once it is computed. -/
def forceInt (i : Int) (k : Int → α) : α :=
  match i with
  | .ofNat n => forceNat n fun n => k (.ofNat n)
  | .negSucc n => forceNat n fun n => k (.negSucc n)

/-- Goes on with entries once their widths are computed. -/
def forceEntries : List Entry → (List Entry → α) → α
  | [], k => k []
  | e :: es, k => forceInt e.size fun size => forceEntries es fun es => k (⟨e.command, size⟩ :: es)

/-- Goes on with places once they are computed. -/
def forcePlaces : List Nat → (List Nat → α) → α
  | [], k => k []
  | i :: is, k => forceNat i fun i => forcePlaces is fun is => k (i :: is)

/-- Goes on with a filler once its numbers are computed. -/
def forced : Filler → (Filler → α) → α
  | ⟨out, space, ⟨entries⟩, start, leftTotal, rightTotal, ⟨unknown⟩, unknownStart, frames, indent,
      pending⟩, k =>
    forceInt space fun space => forceEntries entries fun entries => forceNat start fun start =>
    forceInt leftTotal fun leftTotal => forceInt rightTotal fun rightTotal =>
    forcePlaces unknown fun unknown => forceNat unknownStart fun unknownStart =>
    forceInt indent fun indent => forceInt pending fun pending =>
      k ⟨out, space, ⟨entries⟩, start, leftTotal, rightTotal, ⟨unknown⟩, unknownStart, frames,
        indent, pending⟩

theorem forceNat_eq (n : Nat) (k : Nat → α) : forceNat n k = k n := by
  cases n <;> rfl

theorem forceInt_eq (i : Int) (k : Int → α) : forceInt i k = k i := by
  cases i with
  | ofNat n => exact forceNat_eq n fun n => k (.ofNat n)
  | negSucc n => exact forceNat_eq n fun n => k (.negSucc n)

theorem forceEntries_eq (es : List Entry) (k : List Entry → α) : forceEntries es k = k es := by
  induction es generalizing k with
  | nil => rfl
  | cons e es ih => rw [forceEntries, forceInt_eq, ih]

theorem forcePlaces_eq (is : List Nat) (k : List Nat → α) : forcePlaces is k = k is := by
  induction is generalizing k with
  | nil => rfl
  | cons i is ih => rw [forcePlaces, forceNat_eq, ih]

theorem forced_eq (g : Filler) (k : Filler → α) : g.forced k = k g := by
  simp only [forced, forceInt_eq, forceEntries_eq, forceNat_eq, forcePlaces_eq]

end

end

end Filler

open RestLoom.Text

/-- What follows a text of ASCII, seen from its bytes. -/
def after? (text : String) (cs : List Char) : Option (List Char) :=
  if (bytesOf text).all (·.toNat < 128) then
    dropStart? ((bytesOf text).map fun b => Char.ofNat b.toNat) cs
  else none

theorem eq_append_of_after? {text : String} {cs rest : List Char}
    (h : after? text cs = some rest) : cs = text.toList ++ rest := by
  rw [after?] at h
  split at h
  next hascii =>
    simp only [List.all_eq_true, decide_eq_true_iff] at hascii
    rw [toList_eq_map_bytesOf hascii, dropStart?_eq_some.mp h]
  next => cases h

/-- Whether a filler goes on to print a text when it takes the commands of a document. -/
def setsAs (f : Filler) (cs : List Char) : Doc → Bool
  | [] => after? f.finish cs = some []
  | c :: d =>
    if f.isTidy && f.start ≠ 0 then
      match after? f.out cs with
      | some rest => f.swept.mayScan c && (f.swept.scan c).forced fun g => setsAs g rest d
      | none => false
    else f.mayScan c && (f.scan c).forced fun g => setsAs g cs d

open Filler in
theorem toList_finish_of_setsAs {g : Filler} {cs : List Char} {d : Doc} (h : setsAs g cs d = true)
    (out : String) (done : List Entry) (known : List Nat) :
    (d.foldl scan (g.atop out done known)).finish.toList = out.toList ++ cs := by
  induction d generalizing g cs out done known with
  | nil =>
    rw [setsAs, decide_eq_true_iff] at h
    rw [List.foldl_nil, finish_atop, String.toList_append, eq_append_of_after? h, List.append_nil]
  | cons c d ih =>
    rw [setsAs] at h
    rw [List.foldl_cons]
    split at h
    next htidy =>
      split at h
      next rest hrest =>
        rw [forced_eq, Bool.and_eq_true] at h
        rw [Bool.and_eq_true] at htidy
        conv => lhs; rw [← atop_swept g htidy.1]
        rw [atop_atop, scan_atop _ _ _ _ h.1, ih h.2, String.toList_append,
          eq_append_of_after? hrest, List.append_assoc]
      next => cases h
    next =>
      rw [forced_eq, Bool.and_eq_true] at h
      rw [scan_atop g out done known h.1, ih h.2]

/-- **The text of a document** as it is computed piece by piece. -/
theorem toList_render_of_setsAs {cs : List Char} {d : Doc} (h : setsAs .empty cs d = true) :
    (render d).toList = cs :=
  toList_finish_of_setsAs h "" [] []

end RestLoom.Layout
