import RestLoom.Proofs.Layout.Fill
import Mathlib.Data.List.TakeWhile

/-!
# Proofs/Layout/Rows — documents of rows

    ( row ⏎ (row) ⏎ row ⏎ )   ──▸   row ⏎ row ⏎ row ⏎

A row is text, possibly in a box of its own, that ends its line.  `Leads` says which command may
follow in a document of rows, `Lays` is the state of laying one out: `Lays.scan` keeps it from one
command to the next and `Lays.finish` reads the text off.  The outer box is never printed before it
is known to be too wide for a line, since a line end in it makes it so.
-/

namespace RestLoom.Layout

open Doc

/-! ## Rows -/

/-- A row: whether it has a box, and its text. -/
structure Row where
  isBoxed : Bool
  texts : List String

/-- The document of a row. -/
def Row.doc (r : Row) : Doc :=
  (if r.isBoxed then openAll indent ++ r.texts.map .text ++ close else r.texts.map .text) ++
    hardBreak

/-- The line of a row. -/
def Row.line (r : Row) : List Char := r.texts.flatMap String.toList ++ ['\n']

/-- Where a command of rows stands. -/
inductive Phase where
  | before
  /-- At the start of a row, the first one or a later one. -/
  | fresh (isLater : Bool)
  | inRow
  | inBox
  | boxed
  | after

/-- The command at which a line ends. -/
def lineEnd : Command := .line { blanks := tooWide }

/-- Which command leads from where to where. -/
inductive Leads : Phase → Command → Phase → Prop
  | enter : Leads .before (.openBox 0 true) (.fresh false)
  | begin (isLater : Bool) (s : String) : Leads (.fresh isLater) (.text s) .inRow
  | text (s : String) : Leads .inRow (.text s) .inRow
  | openBox (isLater : Bool) : Leads (.fresh isLater) (.openBox indent true) .inBox
  | boxText (s : String) : Leads .inBox (.text s) .inBox
  | closeBox : Leads .inBox .closeBox .boxed
  | lineEnd : Leads .inRow lineEnd (.fresh true)
  | boxEnd : Leads .boxed lineEnd (.fresh true)
  | leave : Leads (.fresh true) .closeBox .after

/-- No command leads back to where the document begins. -/
theorem Leads.ne_before {p r : Phase} {c : Command} (h : Leads p c r) : r ≠ .before := by
  cases h <;> exact nofun

/-- Which commands lead from where to where. -/
inductive Path : Phase → List Command → Phase → Prop
  | nil (p : Phase) : Path p [] p
  | cons {p q r : Phase} {c : Command} {cs : List Command} (h : Leads p c q) (hcs : Path q cs r) :
    Path p (c :: cs) r

theorem Path.nil_inv {p q : Phase} (h : Path p [] q) : p = q := by
  cases h
  rfl

theorem Path.concat_inv {p r : Phase} {c : Command} {cs : List Command} (h : Path p (cs ++ [c]) r) :
    ∃ q, Path p cs q ∧ Leads q c r := by
  induction cs generalizing p with
  | nil =>
    cases h with
    | cons hlead hnil => exact ⟨p, .nil p, hnil.nil_inv ▸ hlead⟩
  | cons c' cs ih =>
    cases h with
    | cons hlead hrest =>
      obtain ⟨q, hq, hc⟩ := ih hrest
      exact ⟨q, .cons hlead hq, hc⟩

theorem Path.concat {p q r : Phase} {c : Command} {cs : List Command} (h : Path p cs q)
    (hc : Leads q c r) : Path p (cs ++ [c]) r := by
  induction h with
  | nil p => exact .cons hc (.nil _)
  | cons h _ ih => exact .cons h (ih hc)

theorem Path.trans {p q r : Phase} {cs ds : List Command} (h : Path p cs q) (h' : Path q ds r) :
    Path p (cs ++ ds) r := by
  induction h with
  | nil => exact h'
  | cons hlead _ ih => exact .cons hlead (ih h')

/-- The outer box is opened only where the document begins. -/
theorem Path.outer_not_mem {p q : Phase} {cs : List Command} (h : Path p cs q)
    (hp : p ≠ .before) : .openBox 0 true ∉ cs := by
  induction h with
  | nil => exact List.not_mem_nil
  | cons hlead _ ih =>
    rw [List.mem_cons, not_or]
    refine ⟨?_, ih hlead.ne_before⟩
    rintro rfl
    cases hlead
    exact hp rfl

/-- Between the opening and the close of the outer box a line ends. -/
theorem Path.lineEnd_mem {cs : List Command} (h : Path (.fresh false) cs .after) :
    lineEnd ∈ cs := by
  obtain rfl | ⟨cs, c, rfl⟩ := List.eq_nil_or_concat' cs
  · cases h.nil_inv
  · obtain ⟨q, hcs, hlead⟩ := h.concat_inv
    cases hlead
    obtain rfl | ⟨cs, c, rfl⟩ := List.eq_nil_or_concat' cs
    · cases hcs.nil_inv
    · obtain ⟨q, -, hlead⟩ := hcs.concat_inv
      have hc : lineEnd = c := by
        cases hlead with
        | lineEnd => rfl
        | boxEnd => rfl
      simp [hc]

theorem path_texts {p : Phase} (hp : ∀ s, Leads p (.text s) p) (ss : List String) :
    Path p (ss.map .text) p := by
  induction ss with
  | nil => exact .nil p
  | cons s ss ih => exact .cons (hp s) ih

/-- The way through a row. -/
theorem Row.path_doc {r : Row} (hr : r.texts ≠ []) (isLater : Bool) :
    Path (.fresh isLater) r.doc (.fresh true) := by
  obtain ⟨isBoxed, texts⟩ := r
  cases isBoxed with
  | true =>
    have hbox := (path_texts .boxText texts).concat .closeBox
    exact (Path.cons (.openBox isLater) hbox).concat .boxEnd
  | false =>
    obtain ⟨s, ss, rfl⟩ := List.exists_cons_of_ne_nil hr
    exact (Path.cons (.begin isLater s) (path_texts .text ss)).concat .lineEnd

theorem path_rows {rows : List Row} (hrows : ∀ r ∈ rows, r.texts ≠ []) :
    Path (.fresh true) (rows.flatMap Row.doc) (.fresh true) := by
  induction rows with
  | nil => exact .nil _
  | cons r rows ih =>
    rw [List.forall_mem_cons] at hrows
    exact (Row.path_doc hrows.1 true).trans (ih hrows.2)

/-- The text of a command among rows. -/
def Command.plain : Command → List Char
  | .text s => s.toList
  | .line _ => ['\n']
  | _ => []

/-- The text of a row's commands is its line. -/
theorem Row.flatMap_plain (r : Row) : r.doc.flatMap Command.plain = r.line := by
  have htexts :
      (r.texts.map Command.text).flatMap Command.plain = r.texts.flatMap String.toList := by
    rw [List.flatMap_map]
    rfl
  rw [Row.doc, Row.line, List.flatMap_append]
  split
  · rw [List.flatMap_append, List.flatMap_append, htexts]
    exact congrArg (· ++ ['\n']) (List.append_nil _)
  · rw [htexts]
    rfl

/-- The boxes that are being printed, and the indentation. -/
def FramesAt : Phase → List Frame → Int → Prop
  | .before, frames, n => frames = [] ∧ n = 0
  | .inBox, frames, n =>
    (frames = [.fits, .broken 0 true] ∧ n = 0) ∨ ∃ c, frames = [.broken 0 c, .broken 0 true]
  | .after, frames, _ => frames = []
  | _, frames, n => frames = [.broken 0 true] ∧ n = 0

namespace Filler

/-! ## Printing rows -/

/-- Whether what is printed and what waits are the commands so far, which lead to a phase; the outer
box is too wide for its line if its width is known. -/
structure Prints (f : Filler) (done : List Command) (q : Phase) : Prop where
  tracks : Tracks f
  text : f.out.toList ++ f.commands.flatMap Command.plain = done.flatMap Command.plain
  path : ∃ p, FramesAt p f.frames f.indent ∧ Path p f.commands q ∧
    (p = .before → ∀ e ∈ f.waiting.head?, e.size < 0 ∨ margin < e.size)
  pending : f.pending = 0
  space : f.space ≤ margin

variable {f g : Filler} {done : List Command} {q : Phase}

/-- Whether a command has been printed after `out` and has led to a phase. -/
structure Shows (g : Filler) (out : String) (c : Command) (r : Phase) : Prop where
  text : g.out.toList = out.toList ++ c.plain
  frames : FramesAt r g.frames g.indent
  pending : g.pending = 0
  space : g.space ≤ margin

theorem shows_printText {r : Phase} {s : String} (hframes : FramesAt r f.frames f.indent)
    (hpending : f.pending = 0) (hspace : f.space ≤ margin) :
    Shows (f.printText s) f.out (.text s) r where
  text := by simp [printText, printIndent, hpending, String.pushn, Nat.repeat, Command.plain]
  frames := hframes
  pending := rfl
  space := by
    have : 0 ≤ width s := Int.natCast_nonneg _
    change f.space - width s ≤ margin
    omega

theorem shows_printBreak {size : Int} (hframes : FramesAt .inRow f.frames f.indent) :
    Shows (f.printBreak { blanks := tooWide } size) f.out lineEnd (.fresh true) := by
  obtain ⟨hframes, hindent⟩ := hframes
  have hprint : f.printBreak { blanks := tooWide } size =
      { f with out := f.out.push '\n', pending := 0, space := margin } := by
    simp only [printBreak, hframes, hindent]
    rfl
  rw [hprint]
  exact ⟨String.toList_push _, ⟨hframes, hindent⟩, rfl, Int.le_refl _⟩

theorem shows_enter {size : Int} (hframes : FramesAt .before f.frames f.indent)
    (hpending : f.pending = 0) (hspace : f.space ≤ margin) (hsize : margin < size) :
    Shows (f.printOpen 0 true size) f.out (.openBox 0 true) (.fresh false) := by
  obtain ⟨hframes, hindent⟩ := hframes
  rw [printOpen, if_pos (by omega), hframes, hindent]
  exact ⟨(List.append_nil _).symm, ⟨rfl, rfl⟩, hpending, hspace⟩

theorem shows_openBox (isLater : Bool) {size : Int}
    (hframes : FramesAt (.fresh isLater) f.frames f.indent) (hpending : f.pending = 0)
    (hspace : f.space ≤ margin) :
    Shows (f.printOpen Layout.indent true size) f.out (.openBox Layout.indent true) .inBox := by
  obtain ⟨hframes, hindent⟩ := hframes
  rw [printOpen, hframes, hindent]
  split
  · exact ⟨(List.append_nil _).symm, .inr ⟨true, rfl⟩, hpending, hspace⟩
  · exact ⟨(List.append_nil _).symm, .inl ⟨rfl, rfl⟩, hpending, hspace⟩

theorem shows_closeBox (hframes : FramesAt .inBox f.frames f.indent) (hpending : f.pending = 0)
    (hspace : f.space ≤ margin) : Shows f.printClose f.out .closeBox .boxed := by
  obtain ⟨hframes, hindent⟩ | ⟨c, hframes⟩ := hframes
  · rw [printClose, hframes]
    exact ⟨(List.append_nil _).symm, ⟨rfl, hindent⟩, hpending, hspace⟩
  · rw [printClose, hframes]
    exact ⟨(List.append_nil _).symm, ⟨rfl, rfl⟩, hpending, hspace⟩

theorem shows_leave (hframes : FramesAt (.fresh true) f.frames f.indent) (hpending : f.pending = 0)
    (hspace : f.space ≤ margin) : Shows f.printClose f.out .closeBox .after := by
  rw [printClose, hframes.1]
  exact ⟨(List.append_nil _).symm, rfl, hpending, hspace⟩

/-- What printing the front does to the text and to the boxes. -/
theorem shows_printFront {p r : Phase} {e : Entry} {es : List Entry}
    (hwaiting : f.waiting = e :: es) (hframes : FramesAt p f.frames f.indent)
    (hlead : Leads p e.command r) (hpending : f.pending = 0) (hspace : f.space ≤ margin)
    (houter : p = .before → margin < e.size) : Shows f.printFront f.out e.command r := by
  have hfront := (getElem!_of_waiting (a := []) hwaiting).2
  rw [List.length_nil, Nat.add_zero] at hfront
  rw [Filler.printFront, hfront]
  obtain ⟨c, size⟩ := e
  dsimp only at hlead houter ⊢
  cases hlead with
  | enter =>
    refine shows_enter ?_ ?_ ?_ (houter rfl) <;> assumption
  | openBox isLater => refine shows_openBox isLater ?_ ?_ ?_ <;> assumption
  | closeBox => refine shows_closeBox ?_ ?_ ?_ <;> assumption
  | lineEnd => exact shows_printBreak hframes
  | boxEnd => exact shows_printBreak hframes
  | leave => refine shows_leave ?_ ?_ ?_ <;> assumption
  | _ => refine shows_printText ?_ ?_ ?_ <;> assumption

/-- Printing keeps the text. -/
theorem Prints.printFront (h : Prints f done q) {e : Entry} {es : List Entry}
    (hwaiting : f.waiting = e :: es) (he : 0 ≤ e.size) : Prints f.printFront done q := by
  obtain ⟨p, hframes, hpath, houter⟩ := h.path
  have htext := h.text
  rw [commands, hwaiting, List.map_cons] at hpath
  rw [commands, hwaiting, List.map_cons, List.flatMap_cons, ← List.append_assoc] at htext
  have hcommands : f.printFront.commands = es.map (·.command) := by
    rw [commands, waiting_printFront hwaiting]
  cases hpath with
  | cons hlead hpath =>
    have hshows := shows_printFront hwaiting hframes hlead h.pending h.space fun hp =>
      (houter hp e (by rw [hwaiting]; rfl)).resolve_left (by omega)
    refine ⟨h.tracks.printFront hwaiting he, ?_, ⟨_, hshows.frames, ?_, ?_⟩, hshows.pending,
      hshows.space⟩
    · rw [hshows.text, hcommands]
      exact htext
    · rw [hcommands]
      exact hpath
    · exact fun hbefore => absurd hbefore hlead.ne_before

/-- Printing goes on as long as widths are known. -/
theorem Prints.advanceUpTo (h : Prints f done q) {n : Nat} (hn : f.waiting.length ≤ n) :
    Prints (f.advanceUpTo n) done q ∧
      (f.advanceUpTo n).waiting = f.waiting.dropWhile (0 ≤ ·.size) ∧
      (f.advanceUpTo n).rightTotal = f.rightTotal := by
  induction n generalizing f with
  | zero =>
    rw [Nat.le_zero, List.length_eq_zero_iff] at hn
    rw [Filler.advanceUpTo, hn]
    exact ⟨h, rfl, rfl⟩
  | succ n ih =>
    rw [Filler.advanceUpTo]
    cases hwaiting : f.waiting with
    | nil =>
      rw [if_pos (by rw [noneWaits_iff.mpr hwaiting]; rfl)]
      exact ⟨h, hwaiting, rfl⟩
    | cons e es =>
      have hnone : f.noneWaits = false := by
        rw [← Bool.not_eq_true, noneWaits_iff, hwaiting]
        exact List.cons_ne_nil _ _
      have hfront := (getElem!_of_waiting (a := []) hwaiting).2
      rw [List.length_nil, Nat.add_zero] at hfront
      rw [hnone, hfront, Bool.false_or]
      by_cases hsize : e.size < 0
      · rw [if_pos (decide_eq_true hsize), List.dropWhile_cons_of_neg (by simpa using hsize)]
        exact ⟨h, hwaiting, rfl⟩
      · rw [if_neg (by simpa using hsize), List.dropWhile_cons_of_pos (by simpa using hsize)]
        rw [hwaiting, List.length_cons] at hn
        have hnext := waiting_printFront hwaiting
        obtain ⟨hprints, hrest, hright⟩ := ih (h.printFront hwaiting (by omega))
          (by rw [hnext]; omega)
        rw [hnext] at hrest
        exact ⟨hprints, hrest, hright.trans (sameQueue_printFront f).rightTotal⟩

theorem Prints.advance (h : Prints f done q) : Prints f.advance done q ∧
    f.advance.waiting = f.waiting.dropWhile (0 ≤ ·.size) ∧ f.advance.rightTotal = f.rightTotal :=
  h.advanceUpTo (length_waiting f).le

/-! ## Making room -/

theorem Prints.force (h : Prints f done q) {e : Entry} {es : List Entry}
    (hwaiting : f.waiting = e :: es) (he : e.size < 0) : Prints f.force done q := by
  have hforce := waiting_force hwaiting
  have hcommands : f.force.commands = f.commands := by
    rw [commands, hforce, commands, hwaiting, List.map_cons, List.map_cons]
  obtain ⟨p, hframes, hpath, -⟩ := h.path
  refine ⟨h.tracks.force hwaiting he, ?_, ⟨p, hframes, ?_, fun _ x hx => ?_⟩, h.pending, h.space⟩
  · rw [hcommands]
    exact h.text
  · rw [hcommands]
    exact hpath
  · rw [hforce, List.head?_cons, Option.mem_some_iff] at hx
    subst hx
    exact .inr (by change margin < (tooWide : Int); decide)

/-- Printing from the front whatever its width is. -/
theorem Prints.advance_force (h : Prints f done q) {e : Entry} {es : List Entry}
    (hwaiting : f.waiting = e :: es) {g : Filler}
    (hg : g = if !f.allKnown && f.unknown[f.unknownStart]! == f.start then f.force else f) :
    Prints g.advance done q ∧ g.advance.waiting = es.dropWhile (0 ≤ ·.size) ∧
      g.advance.rightTotal = f.rightTotal := by
  by_cases he : e.size < 0
  · rw [if_pos ((h.tracks.isFront_iff hwaiting).mpr he)] at hg
    subst hg
    obtain ⟨hprints, hrest, hright⟩ := (h.force hwaiting he).advance
    rw [waiting_force hwaiting,
      List.dropWhile_cons_of_pos (by change decide (0 ≤ (tooWide : Int)) = true; decide)] at hrest
    exact ⟨hprints, hrest, hright⟩
  · rw [if_neg fun hfront => he ((h.tracks.isFront_iff hwaiting).mp hfront)] at hg
    subst hg
    obtain ⟨hprints, hrest, hright⟩ := h.advance
    rw [hwaiting, List.dropWhile_cons_of_pos (by simpa using he)] at hrest
    exact ⟨hprints, hrest, hright⟩

theorem unknown_of_dropWhile {e : Entry} {es : List Entry}
    (h : e ∈ (es.dropWhile (0 ≤ ·.size)).head?) : e.size < 0 := by
  have := List.head?_dropWhile_not (fun e : Entry => decide (0 ≤ e.size)) es
  rw [Option.mem_def.mp h] at this
  simpa using this

/-- Making room for the line prints from the front, up to where the width is unknown. -/
theorem Prints.checkWidthUpTo (h : Prints f done q) (n : Nat) :
    Prints (f.checkWidthUpTo n) done q ∧ (f.checkWidthUpTo n).waiting <:+ f.waiting ∧
      (f.checkWidthUpTo n).rightTotal = f.rightTotal ∧
      ((f.checkWidthUpTo n).waiting = f.waiting ∨
        ∀ e ∈ (f.checkWidthUpTo n).waiting.head?, e.size < 0) := by
  induction n generalizing f with
  | zero => exact ⟨h, List.suffix_rfl, rfl, .inl rfl⟩
  | succ n ih =>
    rw [Filler.checkWidthUpTo]
    split
    next hroom =>
      cases hwaiting : f.waiting with
      | nil =>
        rw [noneWaits_iff.mpr hwaiting] at hroom
        simp at hroom
      | cons e es =>
        obtain ⟨hprints, hrest, hright⟩ := h.advance_force hwaiting rfl
        obtain ⟨hprints', hsuffix, hright', hhead⟩ := ih hprints
        refine ⟨hprints', ?_, hright'.trans hright, .inr ?_⟩
        · exact hsuffix.trans (hrest ▸ (List.dropWhile_suffix _).trans (List.suffix_cons e es))
        · obtain hsame | hhead := hhead
          · intro x hx
            refine unknown_of_dropWhile (?_ : x ∈ (es.dropWhile (0 ≤ ·.size)).head?)
            rw [← hrest, ← hsame]
            exact hx
          · exact hhead
    next => exact ⟨h, List.suffix_rfl, rfl, .inl rfl⟩

theorem Prints.checkWidth (h : Prints f done q) : Prints f.checkWidth done q ∧
    f.checkWidth.waiting <:+ f.waiting ∧ f.checkWidth.rightTotal = f.rightTotal ∧
    (f.checkWidth.waiting = f.waiting ∨ ∀ e ∈ f.checkWidth.waiting.head?, e.size < 0) :=
  h.checkWidthUpTo _

/-! ## Scanning rows -/

/-- Whether the commands `u` end in `tail`, before which at most the outer box and the last line end
are left. -/
def EndsIn (tail u : List Command) : Prop :=
  u = [] ∨ ∃ v, v.Sublist [.openBox 0 true, lineEnd] ∧ u = v ++ tail

/-- The commands whose widths are unknown at a place among rows. -/
def Pattern : Phase → List Command → Prop
  | .inBox => EndsIn [.openBox Layout.indent true]
  | .boxed => EndsIn [.openBox Layout.indent true, .closeBox]
  | .after => EndsIn [.closeBox]
  | _ => (·.Sublist [.openBox 0 true, lineEnd])

theorem pattern_nil (q : Phase) : Pattern q [] := by
  cases q with
  | inBox => exact .inl rfl
  | boxed => exact .inl rfl
  | after => exact .inl rfl
  | _ => exact List.nil_sublist _

/-- Whether a box with a line end in it is known to be too wide. -/
def Wide (right : Int) (e l : Entry) : Prop :=
  (∃ o c, e.command = .openBox o c) → l.command = lineEnd → margin < e.size + right

/-- Whether what is printed and what waits are the commands so far, with widths that fit the
total. -/
structure Fills (f : Filler) (done : List Command) (q : Phase) : Prop where
  prints : Prints f done q
  right : 1 ≤ f.rightTotal
  sizes : ∀ e ∈ f.waiting, 0 ≤ e.size + f.rightTotal
  wide : f.waiting.Pairwise (Wide f.rightTotal)

/-- The state in which rows are laid out: an entry waits only as long as its width, or one before
it, is unknown. -/
structure Lays (f : Filler) (done : List Command) (q : Phase) : Prop extends Fills f done q where
  idle : (∀ e ∈ f.waiting, 0 ≤ e.size) → f.waiting = []
  pattern : Pattern q (unknownCommands f.waiting)

/-- Whether two states agree in what is printed. -/
structure SameText (f g : Filler) : Prop where
  out : g.out = f.out
  frames : g.frames = f.frames
  indent : g.indent = f.indent
  pending : g.pending = f.pending
  space : g.space = f.space

/-- When nothing waits, the boxes are those of the place reached. -/
theorem Prints.framesAt (h : Prints f done q) (hwaiting : f.waiting = []) :
    FramesAt q f.frames f.indent := by
  obtain ⟨p, hframes, hpath, -⟩ := h.path
  rw [commands, hwaiting] at hpath
  exact Path.nil_inv hpath ▸ hframes

theorem Prints.out_of_idle (h : Prints f done q) (hwaiting : f.waiting = []) :
    f.out.toList = done.flatMap Command.plain := by
  have htext := h.text
  rwa [commands, hwaiting, List.map_nil, List.flatMap_nil, List.append_nil] at htext

/-- A command that is printed at once. -/
theorem Lays.of_shows (h : Lays f done q) (hwaiting : f.waiting = []) {c : Command} {r : Phase}
    (hlead : Leads q c r) (hqueue : SameQueue f g) (hshows : Shows g f.out c r) :
    Lays g (done ++ [c]) r := by
  have hnone : g.waiting = [] := hqueue.waiting.trans hwaiting
  refine ⟨⟨⟨hqueue.tracks h.prints.tracks, ?_, ⟨r, hshows.frames, ?_, ?_⟩, hshows.pending,
    hshows.space⟩, ?_, ?_, ?_⟩, fun _ => hnone, ?_⟩
  · rw [commands, hnone, hshows.text, h.prints.out_of_idle hwaiting, List.map_nil,
      List.flatMap_nil, List.append_nil, List.flatMap_append, List.flatMap_singleton]
  · rw [commands, hnone]
    exact .nil _
  · exact fun hbefore => absurd hbefore hlead.ne_before
  · rw [hqueue.rightTotal]
    exact h.right
  · rw [hnone]
    exact nofun
  · rw [hnone]
    exact .nil
  · rw [hnone]
    exact pattern_nil r

/-- A command that waits. -/
theorem Prints.push (h : Prints f done q) (hq : q ≠ .before) {c : Command} {size : Int} {r : Phase}
    (hlead : Leads q c r) (htracks : Tracks g) (hwaiting : g.waiting = f.waiting ++ [⟨c, size⟩])
    (hsame : SameText f g) : Prints g (done ++ [c]) r := by
  obtain ⟨p, hframes, hpath, houter⟩ := h.path
  have hcommands : g.commands = f.commands ++ [c] := by
    rw [commands, hwaiting, List.map_append]
    rfl
  refine ⟨htracks, ?_, ⟨p, ?_, ?_, fun hp => ?_⟩, hsame.pending.trans h.pending, ?_⟩
  · rw [hcommands, hsame.out, List.flatMap_append, List.flatMap_append, ← List.append_assoc, h.text]
  · rw [hsame.frames, hsame.indent]
    exact hframes
  · rw [hcommands]
    exact hpath.concat hlead
  · have hne : f.waiting ≠ [] := by
      intro hnil
      rw [commands, hnil] at hpath
      exact hq (hpath.nil_inv ▸ hp)
    rw [hwaiting, List.head?_append_of_ne_nil _ hne]
    exact houter hp
  · rw [hsame.space]
    exact h.space

/-- Where nothing waits, counting starts afresh. -/
theorem Lays.restart (h : Lays f done q) (hwaiting : f.waiting = []) :
    Lays f.restart done q ∧ f.restart.waiting = [] := by
  have hnone : f.restart.waiting = [] :=
    List.drop_eq_nil_of_le (Nat.le_of_eq Array.length_toList)
  have hknown : f.allKnown = true := by
    rw [h.prints.tracks.allKnown_iff, hwaiting]
    exact nofun
  obtain ⟨p, hframes, hpath, houter⟩ := h.prints.path
  have hcommands : f.restart.commands = f.commands := by rw [commands, hnone, commands, hwaiting]
  refine ⟨⟨⟨⟨⟨Nat.le_refl _, h.prints.tracks.unknownStart_le, ?_⟩, ?_, ⟨p, hframes, ?_, ?_⟩,
    h.prints.pending, h.prints.space⟩, Int.le_refl 1, ?_, ?_⟩, fun _ => hnone, ?_⟩, hnone⟩
  · rw [hnone]
    exact List.drop_eq_nil_of_le (of_decide_eq_true hknown)
  · rw [hcommands]
    exact h.prints.text
  · rw [hcommands]
    exact hpath
  · rw [hnone]
    exact fun _ => nofun
  · rw [hnone]
    exact nofun
  · rw [hnone]
    exact .nil
  · rw [hnone]
    exact pattern_nil q

/-- A command that waits, after which the total is `g.rightTotal`. -/
theorem Fills.push (h : Fills f done q) (hq : q ≠ .before) {c : Command} {size : Int} {r : Phase}
    (hlead : Leads q c r) (htracks : Tracks g) (hwaiting : g.waiting = f.waiting ++ [⟨c, size⟩])
    (hsame : SameText f g) (hbound : 0 ≤ size + g.rightTotal)
    (hright : f.rightTotal ≤ g.rightTotal)
    (hwide : c = lineEnd → f.rightTotal + margin < g.rightTotal)
    (hidle : (∀ e ∈ g.waiting, 0 ≤ e.size) → g.waiting = [])
    (hpattern : Pattern r (unknownCommands g.waiting)) : Lays g (done ++ [c]) r := by
  have hone := h.right
  refine ⟨⟨h.prints.push hq hlead htracks hwaiting hsame, by omega, fun e he => ?_, ?_⟩, hidle,
    hpattern⟩
  · rw [hwaiting] at he
    obtain he | he := List.mem_append.mp he
    · have := h.sizes e he
      omega
    · obtain rfl := List.mem_singleton.mp he
      exact hbound
  · rw [hwaiting, List.pairwise_append]
    refine ⟨h.wide.imp fun hel hbox hline => ?_, List.pairwise_singleton _ _,
      fun e he l hl hbox hc => ?_⟩
    · have := hel hbox hline
      omega
    · obtain rfl := List.mem_singleton.mp hl
      have := h.sizes e he
      have := hwide hc
      omega

/-- A command of unknown width that waits, after which the total is `right`. -/
theorem Fills.pushUnknown (h : Fills f done q) (right : Int) (hq : q ≠ .before) {c : Command}
    {size : Int} {r : Phase} (hlead : Leads q c r) (hsize : size < 0) (hbound : 0 ≤ size + right)
    (hright : f.rightTotal ≤ right) (hwide : c = lineEnd → f.rightTotal + margin < right)
    (hpattern : Pattern r (unknownCommands f.waiting ++ [c])) :
    Lays { f.pushUnknown c size with rightTotal := right } (done ++ [c]) r := by
  obtain ⟨htracks, hwaiting⟩ := tracks_pushUnknown h.prints.tracks c hsize
  have hnew : Filler.waiting { f.pushUnknown c size with rightTotal := right } =
      f.waiting ++ [⟨c, size⟩] := hwaiting
  refine h.push hq hlead ⟨htracks.start_le, htracks.unknownStart_le, htracks.unknown⟩ hnew
    ⟨rfl, rfl, rfl, rfl, rfl⟩ hbound hright hwide (fun hall => ?_) ?_
  · have := hall ⟨c, size⟩ (hnew ▸ List.mem_append_right _ (List.mem_singleton_self _))
    exact absurd hsize (Int.not_lt.mpr this)
  · rw [hnew, unknownCommands_append, unknownCommands_cons_of_neg hsize]
    exact hpattern

theorem endsIn_of_suffix {c : Command} {u v : List Command} (h : EndsIn [c] v) (huv : u <:+ v) :
    EndsIn [c] u := by
  obtain rfl | ⟨w, hw, rfl⟩ := h
  · exact .inl (List.suffix_nil.mp huv)
  · obtain rfl | ⟨w', rfl, hw'⟩ := List.suffix_concat_iff.mp huv
    · exact .inl rfl
    · exact .inr ⟨w', hw'.sublist.trans hw, rfl⟩

theorem pattern_of_suffix {u v : List Command} (hq : q ≠ .boxed) (h : Pattern q v)
    (huv : u <:+ v) : Pattern q u := by
  cases q with
  | inBox => exact endsIn_of_suffix h huv
  | boxed => exact absurd rfl hq
  | after => exact endsIn_of_suffix h huv
  | _ => exact huv.sublist.trans h

theorem Lays.checkWidth (h : Lays f done q) (hq : q ≠ .boxed) : Lays f.checkWidth done q := by
  obtain ⟨hprints, hsuffix, hright, hhead⟩ := h.prints.checkWidth
  refine ⟨⟨hprints, hright ▸ h.right, fun e he => ?_, ?_⟩, fun hall => ?_, ?_⟩
  · rw [hright]
    exact h.sizes e (hsuffix.mem he)
  · rw [hright]
    exact h.wide.sublist hsuffix.sublist
  · obtain hsame | hhead := hhead
    · rw [hsame] at hall ⊢
      exact h.idle hall
    · rw [← List.head?_eq_none_iff, Option.eq_none_iff_forall_not_mem]
      intro e he
      exact absurd (hhead e he) (Int.not_lt.mpr (hall e (List.mem_of_mem_head? he)))
  · exact pattern_of_suffix hq h.pattern ((hsuffix.filter _).map _)

/-- Text is printed in the same boxes before and after, and its own width is known. -/
theorem of_leads_text {p r : Phase} {s : String} (h : Leads p (.text s) r) :
    p ≠ .before ∧ r ≠ .boxed ∧ (∀ frames n, FramesAt p frames n → FramesAt r frames n) ∧
      ∀ u, Pattern p u → Pattern r u := by
  cases h with
  | begin isLater s => exact ⟨nofun, nofun, fun _ _ => id, fun _ => id⟩
  | text s => exact ⟨nofun, nofun, fun _ _ => id, fun _ => id⟩
  | boxText s => exact ⟨nofun, nofun, fun _ _ => id, fun _ => id⟩

theorem Lays.scanText (h : Lays f done q) {s : String} {r : Phase} (hlead : Leads q (.text s) r) :
    Lays (f.scanText s) (done ++ [.text s]) r := by
  obtain ⟨hbefore, hboxed, hframes, hpattern⟩ := of_leads_text hlead
  have hwidth : 0 ≤ width s := Int.natCast_nonneg _
  rw [Filler.scanText]
  by_cases hall : ∀ e ∈ f.waiting, 0 ≤ e.size
  · rw [if_pos (h.prints.tracks.allKnown_iff.mpr hall)]
    have hnone := h.idle hall
    exact h.of_shows hnone hlead (sameQueue_printText f s)
      (shows_printText (hframes _ _ (h.prints.framesAt hnone)) h.prints.pending h.prints.space)
  · rw [if_neg fun hknown => hall (h.prints.tracks.allKnown_iff.mp hknown)]
    refine Lays.checkWidth ?_ hboxed
    have htracks := h.prints.tracks
    have hwaiting : Filler.waiting { f with
        entries := f.entries.push ⟨.text s, width s⟩, rightTotal := f.rightTotal + width s } =
          f.waiting ++ [⟨.text s, width s⟩] := by
      rw [waiting, Array.toList_push,
        List.drop_append_of_le_length (by rw [Array.length_toList]; exact htracks.start_le)]
      rfl
    refine h.toFills.push hbefore hlead ⟨?_, htracks.unknownStart_le, ?_⟩ hwaiting
      ⟨rfl, rfl, rfl, rfl, rfl⟩ ?_ ?_ (by rintro ⟨⟩) (fun hknown => ?_) ?_
    · rw [Array.size_push]
      exact Nat.le_succ_of_le htracks.start_le
    · rw [hwaiting, unknownFrom_append, unknownFrom, if_neg (Int.not_lt.mpr hwidth), unknownFrom,
        List.append_nil]
      exact htracks.unknown
    · have := h.right
      change 0 ≤ width s + (f.rightTotal + width s)
      omega
    · change f.rightTotal ≤ f.rightTotal + width s
      omega
    · rw [hwaiting] at hknown
      exact absurd (fun e he => hknown e (List.mem_append_left _ he)) hall
    · rw [hwaiting, unknownCommands_append, unknownCommands_cons_of_nonneg hwidth]
      rw [show unknownCommands [] = [] from rfl, List.append_nil]
      exact hpattern _ h.pattern

theorem Lays.scanOpen {isLater : Bool} (h : Lays f done (.fresh isLater)) :
    Lays (f.scanOpen Layout.indent true) (done ++ [.openBox Layout.indent true]) .inBox := by
  have hgo {g : Filler} (hg : Lays g done (.fresh isLater)) :
      Lays (g.pushUnknown (.openBox Layout.indent true) (-g.rightTotal))
        (done ++ [.openBox Layout.indent true]) .inBox := by
    have hright := hg.right
    exact hg.toFills.pushUnknown g.rightTotal nofun (.openBox isLater) (by omega)
      (by omega) (Int.le_refl _) nofun (.inr ⟨_, hg.pattern, rfl⟩)
  rw [Filler.scanOpen]
  split
  next hknown => exact hgo (h.restart (h.idle (h.prints.tracks.allKnown_iff.mp hknown))).1
  next => exact hgo h

/-- What leads to where the waiting entries end. -/
theorem Prints.exists_leads (h : Prints f done q) {e : Entry} {es : List Entry}
    (hwaiting : f.waiting.reverse = e :: es) :
    ∃ p q', Path p (es.reverse.map (·.command)) q' ∧ Leads q' e.command q := by
  rw [List.reverse_eq_cons_iff] at hwaiting
  obtain ⟨p, -, hpath, -⟩ := h.path
  rw [commands, hwaiting, List.map_append, List.map_singleton] at hpath
  obtain ⟨q', hq', hlead⟩ := hpath.concat_inv
  exact ⟨p, q', hq', hlead⟩

/-- The close of a row's box does not come right after a break, that of the outer box comes right
after the end of a row. -/
theorem Prints.scanClose_eq (h : Prints f done q) (hknown : f.allKnown ≠ true) {r : Phase}
    (hlead : Leads q .closeBox r) : f.scanClose = f.pushUnknown .closeBox (-1) := by
  refine Filler.scanClose_eq hknown fun b hb => ?_
  obtain ⟨e, es, hes, hc⟩ := exists_of_waiting? hb
  obtain ⟨p, q', hpath, hlast⟩ := h.exists_leads hes
  rw [hc] at hlast
  have hend : .line b = lineEnd ∧ (q' = .inRow ∨ q' = .boxed) := by
    generalize hline : Command.line b = c at hlast ⊢
    cases hlead with
    | closeBox => cases hlast <;> cases hline
    | leave =>
      cases hlast with
      | lineEnd => exact ⟨rfl, .inl rfl⟩
      | boxEnd => exact ⟨rfl, .inr rfl⟩
  refine ⟨by rw [Command.line.inj hend.1], fun o c hbox => ?_⟩
  obtain ⟨e', es', hes', hc'⟩ := exists_of_waiting? hbox
  rw [List.drop_zero] at hes
  rw [hes, List.drop_one, List.tail_cons] at hes'
  rw [hes', List.reverse_cons, List.map_append, List.map_singleton, hc'] at hpath
  obtain ⟨q'', -, hlast'⟩ := hpath.concat_inv
  cases hlast' <;> simp at hend

theorem Lays.scanClose (h : Lays f done q) {r : Phase} (hlead : Leads q .closeBox r) :
    Lays f.scanClose (done ++ [.closeBox]) r := by
  by_cases hall : ∀ e ∈ f.waiting, 0 ≤ e.size
  · have hnone := h.idle hall
    have hshows : Shows f.printClose f.out .closeBox r := by
      have hframes := h.prints.framesAt hnone
      cases hlead with
      | closeBox => exact shows_closeBox hframes h.prints.pending h.prints.space
      | leave => exact shows_leave hframes h.prints.pending h.prints.space
    rw [Filler.scanClose, if_pos (h.prints.tracks.allKnown_iff.mpr hall)]
    exact h.of_shows hnone hlead (sameQueue_printClose f) hshows
  · have hright := h.right
    rw [h.prints.scanClose_eq (fun hknown => hall (h.prints.tracks.allKnown_iff.mp hknown)) hlead]
    refine h.toFills.pushUnknown f.rightTotal ?_ hlead (by decide) (by omega)
        (Int.le_refl _) (by rintro ⟨⟩) ?_
    · rintro rfl
      cases hlead
    · have hpattern := h.pattern
      cases hlead with
      | closeBox =>
        obtain hnil | ⟨v, hv, heq⟩ := hpattern
        · exact absurd (unknownCommands_eq_nil.mp hnil) hall
        · rw [heq, List.append_assoc]
          exact .inr ⟨v, hv, rfl⟩
      | leave => exact .inr ⟨_, hpattern, rfl⟩

/-! ## Line ends -/

/-- Settling widths keeps the text; the outer box then stays unknown or is known to be too wide. -/
theorem Prints.settles {right : Int} {cs : List Command} (h : Prints f done q)
    (hg : Settles right cs f g)
    (houter : ∀ e ∈ f.waiting.head?, e.command = .openBox 0 true → e.size < 0 →
      .openBox 0 true ∈ cs ∨ margin < e.size + right) : Prints g done q := by
  have hcommands : g.commands = f.commands := settled_commands hg.settled
  obtain ⟨p, hframes, hpath, hfirst⟩ := h.path
  have hsame := hg.same
  refine ⟨hg.tracks, ?_, ⟨p, ?_, ?_, fun hp e' he' => ?_⟩, ?_, ?_⟩
  · rw [hcommands, hsame]
    exact h.text
  · rw [hsame]
    exact hframes
  · rw [hcommands]
    exact hpath
  · subst hp
    obtain ⟨es', hnew⟩ := List.head?_eq_some_iff.mp he'
    have hsettled := hg.settled
    rw [hnew, List.forall₂_cons_right_iff] at hsettled
    obtain ⟨e, es, ⟨-, hsize⟩, hes, hold⟩ := hsettled
    have he : e ∈ f.waiting.head? := hold ▸ rfl
    rw [commands, hold, List.map_cons] at hpath
    obtain hsize | ⟨hneg, hpos, hbox⟩ := hsize
    · rw [hsize]
      exact hfirst rfl e he
    · cases hpath with
      | cons hlead hpath =>
        generalize hc : e.command = c at hlead
        cases hlead
        obtain hmem | hwide := houter e he hc hneg
        · rw [← hg.unknown, hnew, unknownCommands_cons_of_nonneg hpos] at hmem
          have hmem' : .openBox 0 true ∈ es'.map (·.command) :=
            (List.filter_sublist.map _).subset hmem
          rw [settled_commands hes] at hmem'
          exact absurd hmem' (hpath.outer_not_mem nofun)
        · rw [hbox _ _ hc]
          exact .inr hwide
  · rw [hsame]
    exact h.pending
  · rw [hsame]
    exact h.space

theorem wide_of_settled {right : Int} (hright : 0 ≤ right) {es es' : List Entry}
    (h : List.Forall₂ (Settled right) es es') (hwide : es.Pairwise (Wide right)) :
    es'.Pairwise (Wide right) := by
  induction h with
  | nil => exact .nil
  | @cons e e' es es' he hes ih =>
    rw [List.pairwise_cons] at hwide ⊢
    refine ⟨fun l' hl' hbox hline => ?_, ih hwide.2⟩
    obtain ⟨l, hl, hll⟩ :=
      Outcome.exists_of_mem_left (List.Forall₂.flip (R := flip (Settled right)) hes) hl'
    obtain ⟨o, c, hc⟩ := hbox
    rw [he.1] at hc
    have hlarge := hwide.1 l hl ⟨o, c, hc⟩ (hll.1.symm.trans hline)
    obtain hsize | ⟨-, -, hgrown⟩ := he.2
    · rwa [hsize]
    · rw [hgrown o c hc]
      omega

theorem Fills.settles {cs : List Command} (h : Fills f done q) (hg : Settles f.rightTotal cs f g)
    (houter : ∀ e ∈ f.waiting.head?, e.command = .openBox 0 true → e.size < 0 →
      .openBox 0 true ∈ cs ∨ margin < e.size + f.rightTotal) : Fills g done q := by
  have hone := h.right
  have hright : g.rightTotal = f.rightTotal := by rw [hg.same]
  refine ⟨h.prints.settles hg houter, hright ▸ hone, ?_, ?_⟩
  · rw [hright]
    exact hg.sizes (by omega) h.sizes
  · rw [hright]
    exact wide_of_settled (by omega) hg.settled h.wide

theorem sublist_pair {α : Type} {a b : α} {v : List α} (h : v.Sublist [a, b]) :
    v = [] ∨ v = [a] ∨ v = [b] ∨ v = [a, b] := by
  rw [List.sublist_cons_iff, List.sublist_singleton] at h
  obtain (rfl | rfl) | ⟨w, rfl, hw⟩ := h
  · exact .inl rfl
  · exact .inr (.inr (.inl rfl))
  · obtain rfl | rfl := List.sublist_singleton.mp hw
    · exact .inr (.inl rfl)
    · exact .inr (.inr (.inr rfl))

/-- What is left of unknown width where a line ends: the outer box, if it was. -/
def Outer (u cs : List Command) : Prop :=
  cs = [] ∧ .openBox 0 true ∉ u ∨ cs = [.openBox 0 true]

theorem outer_of_sublist {v : List Command} (hv : v.Sublist [.openBox 0 true, lineEnd]) :
    Outer v (settleCommands 0 v.reverse) := by
  obtain rfl | rfl | rfl | rfl := sublist_pair hv
  · exact .inl ⟨rfl, List.not_mem_nil⟩
  · exact .inr rfl
  · exact .inl ⟨rfl, by simp [lineEnd]⟩
  · exact .inr rfl

/-- Where a line ends, nothing but the outer box is left of unknown width. -/
theorem outer_of_pattern {u : List Command} (hq : q = .inRow ∨ q = .boxed) (h : Pattern q u) :
    Outer u (settleCommands 0 u.reverse) := by
  obtain rfl | rfl := hq
  · exact outer_of_sublist h
  · obtain rfl | ⟨v, hv, rfl⟩ := h
    · exact .inl ⟨rfl, List.not_mem_nil⟩
    · rw [List.reverse_append]
      obtain ⟨hnil, hmem⟩ | hout := outer_of_sublist hv
      · refine .inl ⟨hnil, fun hbox => ?_⟩
        obtain hbox | hbox := List.mem_append.mp hbox
        · exact hmem hbox
        · simp [Layout.indent] at hbox
      · exact .inr hout

theorem Lays.scanBreak (h : Lays f done q) (hlead : Leads q lineEnd (.fresh true)) :
    Lays (f.scanBreak { blanks := tooWide }) (done ++ [lineEnd]) (.fresh true) := by
  have hq : q = .inRow ∨ q = .boxed := by
    generalize hc : lineEnd = c at hlead
    cases hlead with
    | lineEnd => exact .inl rfl
    | boxEnd => exact .inr rfl
  have hgo {g : Filler} (hg : Fills g done q)
      (hleft : (unknownCommands g.waiting).Sublist [.openBox 0 true]) :
      Lays { g.pushUnknown lineEnd (-g.rightTotal) with rightTotal := g.rightTotal + tooWide }
        (done ++ [lineEnd]) (.fresh true) := by
    have hright := hg.right
    have hwide : margin < (tooWide : Int) := by decide
    refine hg.pushUnknown _ (by rintro rfl; simp at hq) hlead (by omega) ?_ ?_ ?_ ?_
    · omega
    · omega
    · omega
    · exact hleft.append (List.Sublist.refl [lineEnd])
  rw [Filler.scanBreak]
  split
  next hknown =>
    obtain ⟨hrestart, hnone⟩ := h.restart (h.idle (h.prints.tracks.allKnown_iff.mp hknown))
    exact hgo hrestart.toFills (by rw [hnone]; exact List.nil_sublist _)
  next =>
    have hsettle := h.prints.tracks.settle (by have := h.right; omega) h.sizes
    have hleft := outer_of_pattern hq h.pattern
    refine hgo (h.toFills.settles hsettle fun e he hc hneg => .inl ?_) ?_
    · obtain ⟨-, hmem⟩ | hout := hleft
      · refine absurd ?_ hmem
        obtain ⟨es, hes⟩ := List.head?_eq_some_iff.mp he
        rw [hes, unknownCommands_cons_of_neg hneg, hc]
        exact List.mem_cons_self
      · rw [hout]
        exact List.mem_singleton_self _
    · rw [hsettle.unknown]
      obtain ⟨hnil, -⟩ | hout := hleft
      · rw [hnil]
        exact List.nil_sublist _
      · rw [hout]
        exact List.Sublist.refl _

/-! ## A whole document -/

/-- **One command of rows keeps the state in which rows are laid out.** -/
theorem Lays.scan (h : Lays f done q) (hq : q ≠ .before) {c : Command} {r : Phase}
    (hlead : Leads q c r) : Lays (f.scan c) (done ++ [c]) r := by
  cases hlead with
  | enter => exact absurd rfl hq
  | begin isLater s => exact h.scanText (.begin isLater s)
  | text s => exact h.scanText (.text s)
  | openBox isLater => exact h.scanOpen
  | boxText s => exact h.scanText (.boxText s)
  | closeBox => exact h.scanClose .closeBox
  | lineEnd => exact h.scanBreak .lineEnd
  | boxEnd => exact h.scanBreak .boxEnd
  | leave => exact h.scanClose .leave

/-- **So do all the commands that lead on.** -/
theorem Lays.foldl_scan (h : Lays f done q) (hq : q ≠ .before) {cs : List Command} {r : Phase}
    (hpath : Path q cs r) : Lays (cs.foldl Filler.scan f) (done ++ cs) r := by
  induction hpath generalizing f done with
  | nil => rwa [List.append_nil]
  | cons hlead _ ih =>
    have hrest := ih (h.scan hq hlead) hlead.ne_before
    rwa [List.append_assoc] at hrest

/-- The outer box waits where the document begins. -/
theorem lays_outer : Lays (empty.scan (.openBox 0 true)) [.openBox 0 true] (.fresh false) where
  prints := {
    tracks := ⟨Nat.zero_le _, Nat.zero_le _, rfl⟩
    text := rfl
    path := ⟨.before, ⟨rfl, rfl⟩, .cons .enter (.nil _), fun _ e he => by
      obtain rfl := Option.mem_some_iff.mp he
      exact .inl (by decide)⟩
    pending := rfl
    space := Int.le_refl _ }
  right := Int.le_refl 1
  sizes := by
    intro e he
    obtain rfl := List.mem_singleton.mp he
    decide
  wide := List.pairwise_singleton _ _
  idle := fun hall => absurd (hall ⟨.openBox 0 true, -1⟩ (List.mem_singleton_self _)) (by decide)
  pattern := List.Sublist.cons_cons _ (List.nil_sublist _)

/-- At the end nothing is left of unknown width. -/
theorem settleCommands_of_after {u : List Command} (h : Pattern .after u) :
    settleCommands 0 u.reverse = [] := by
  obtain rfl | ⟨v, hv, rfl⟩ := h
  · rfl
  · rw [List.reverse_append]
    obtain rfl | rfl | rfl | rfl := sublist_pair hv <;> rfl

/-- An outer box that still waits at the end holds a line end. -/
theorem Fills.wide_outer (h : Fills f done .after) {e : Entry} (he : e ∈ f.waiting.head?)
    (hc : e.command = .openBox 0 true) : margin < e.size + f.rightTotal := by
  obtain ⟨es, hes⟩ := List.head?_eq_some_iff.mp he
  obtain ⟨p, -, hpath, -⟩ := h.prints.path
  have hwide := h.wide
  rw [hes, List.pairwise_cons] at hwide
  rw [commands, hes, List.map_cons, hc] at hpath
  cases hpath with
  | cons hlead hpath =>
    cases hlead
    obtain ⟨l, hl, hline⟩ := List.mem_map.mp hpath.lineEnd_mem
    exact hwide.1 l hl ⟨0, true, hc⟩ hline

theorem Lays.finish (h : Lays f done .after) :
    f.finish = String.ofList (done.flatMap Command.plain) := by
  rw [Filler.finish]
  split
  next hknown =>
    rw [← h.prints.out_of_idle (h.idle (h.prints.tracks.allKnown_iff.mp hknown)),
      String.ofList_toList]
  next =>
    have hsettle := h.prints.tracks.settle (by have := h.right; omega) h.sizes
    rw [settleCommands_of_after h.pattern, List.reverse_nil] at hsettle
    have hprints := (h.toFills.settles hsettle fun e he hc _ => .inr (h.wide_outer he hc)).prints
    obtain ⟨hadvance, hwaiting, -⟩ := hprints.advance
    rw [List.dropWhile_eq_nil_iff.mpr
      fun e he => decide_eq_true (unknownCommands_eq_nil.mp hsettle.unknown e he)] at hwaiting
    rw [← hadvance.out_of_idle hwaiting, String.ofList_toList]

end Filler

/-- **The lines of rows**: a document of rows is laid out as its rows, one to a line, however long
they are. -/
theorem render_rows {rows : List Row} (hne : rows ≠ []) (hrows : ∀ r ∈ rows, r.texts ≠ []) :
    render (openAll 0 ++ rows.flatMap Row.doc ++ close) =
      String.ofList (rows.flatMap Row.line) := by
  have hpath : Path (.fresh false) (rows.flatMap Row.doc ++ close) .after := by
    obtain ⟨r, rows, rfl⟩ := List.exists_cons_of_ne_nil hne
    rw [List.forall_mem_cons] at hrows
    exact ((Row.path_doc hrows.1 false).trans (path_rows hrows.2)).concat .leave
  rw [render, List.append_assoc]
  refine (Filler.lays_outer.foldl_scan nofun hpath).finish.trans ?_
  rw [List.flatMap_append, List.flatMap_append, List.flatMap_assoc]
  simp only [Row.flatMap_plain]
  exact congrArg String.ofList (List.append_nil _)

end RestLoom.Layout
