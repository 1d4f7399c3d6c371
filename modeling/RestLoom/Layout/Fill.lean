import RestLoom.Layout.Doc

/-!
# Layout/Fill — laying a document out on lines

    commands ──scan──▸ buffer ──print──▸ text

Whether a box or the text up to the next break fits is known only later, so commands wait in a
buffer, each with the width that it will turn out to have: unknown ones are negative.  The buffer is
printed as soon as its front is known, or known to be wider than what is left of the line.
-/

namespace RestLoom.Layout

/-- The width of a line. -/
def margin : Int := 89

/-- The least width that deep indentation leaves. -/
def minSpace : Int := 60

/-- A command that waits, and the width up to its end: of text its own, of a box up to its close, of
a break up to the next one. -/
structure Entry where
  command : Command
  size : Int
  deriving Inhabited

/-- A box being printed. -/
inductive Frame where
  | fits
  /-- The indentation around it, and whether all its breaks end lines. -/
  | broken (indent : Int) (consistent : Bool)
  deriving Inhabited

/-- The state of laying out.  Entries before `start` have been printed; `open_` holds the places of
boxes and breaks whose widths are unknown, from `openStart` on. -/
structure Filler where
  out : String
  space : Int
  entries : Array Entry
  start : Nat
  leftTotal : Int
  rightTotal : Int
  unknown : Array Nat
  unknownStart : Nat
  frames : List Frame
  indent : Int
  pending : Int

namespace Filler

/-- Nothing laid out yet. -/
def empty : Filler :=
  { out := "", space := margin, entries := #[], start := 0, leftTotal := 0, rightTotal := 0,
    unknown := #[], unknownStart := 0, frames := [], indent := 0, pending := 0 }

/-- The number of bytes of a text, which is its width. -/
def width (s : String) : Int := s.utf8ByteSize

/-- Whether no command waits. -/
def noneWaits (f : Filler) : Bool := f.entries.size ≤ f.start

/-- Whether no width is unknown. -/
def allKnown (f : Filler) : Bool := f.unknown.size ≤ f.unknownStart

/-! ## Printing -/

/-- Writes the indentation that is due. -/
def printIndent (f : Filler) : Filler :=
  { f with out := f.out.pushn ' ' f.pending.toNat, pending := 0 }

/-- Writes text. -/
def printText (f : Filler) (s : String) : Filler :=
  let f := f.printIndent
  { f with out := f.out ++ s, space := f.space - width s }

/-- Enters a box of that width. -/
def printOpen (f : Filler) (offset : Int) (consistent : Bool) (size : Int) : Filler :=
  if f.space < size then
    { f with frames := .broken f.indent consistent :: f.frames, indent := f.indent + offset }
  else { f with frames := .fits :: f.frames }

/-- Leaves a box. -/
def printClose (f : Filler) : Filler :=
  match f.frames with
  | .broken indent _ :: frames => { f with frames, indent }
  | .fits :: frames => { f with frames }
  | [] => f

/-- Writes a break up to the next of which the text has that width. -/
def printBreak (f : Filler) (b : Break) (size : Int) : Filler :=
  let fits := b.never || match f.frames with
    | .fits :: _ => true
    | .broken _ true :: _ => false
    | .broken _ false :: _ => size ≤ f.space
    | [] => size ≤ f.space
  if fits then
    let f := { f with pending := f.pending + b.blanks, space := f.space - b.blanks }
    match b.otherwise with
    | some c => { f with out := f.out.push c, space := f.space - width (String.singleton c) }
    | none => f
  else
    let f := match b.beforeEnd with
      | some c =>
        let f := f.printIndent
        { f with out := f.out.push c }
      | none => f
    let indent := f.indent + b.offset
    let f := { f with
      out := f.out.push '\n', pending := indent, space := max (margin - indent) minSpace }
    if b.afterEnd.isEmpty then f
    else
      let f := f.printIndent
      { f with out := f.out ++ b.afterEnd, space := f.space - width b.afterEnd }

/-- Prints the entry at the front. -/
def printFront (f : Filler) : Filler :=
  let e := f.entries[f.start]!
  let f := { f with start := f.start + 1 }
  match e.command with
  | .text s => printText { f with leftTotal := f.leftTotal + e.size } s
  | .line b => printBreak { f with leftTotal := f.leftTotal + b.blanks } b e.size
  | .openBox offset consistent => f.printOpen offset consistent e.size
  | _ => f.printClose

/-- Prints the entries at the front whose widths are known. -/
def advanceUpTo : Nat → Filler → Filler
  | 0, f => f
  | n + 1, f =>
    if f.noneWaits || f.entries[f.start]!.size < 0 then f else advanceUpTo n f.printFront

/-- Prints the entries at the front whose widths are known. -/
def advance (f : Filler) : Filler := advanceUpTo (f.entries.size - f.start) f

/-! ## Scanning -/

/-- Prints from the front while what waits is wider than what is left of the line. -/
def checkWidthUpTo : Nat → Filler → Filler
  | 0, f => f
  | n + 1, f =>
    if f.space < f.rightTotal - f.leftTotal && !f.noneWaits then
      let f :=
        if !f.allKnown && f.unknown[f.unknownStart]! == f.start then
          { f with
            unknownStart := f.unknownStart + 1
            entries := f.entries.modify f.start fun e => { e with size := tooWide } }
        else f
      checkWidthUpTo n f.advance
    else f

/-- Prints from the front while what waits is wider than what is left of the line. -/
def checkWidth (f : Filler) : Filler := checkWidthUpTo (f.entries.size - f.start + 1) f

/-- Settles the widths that end here: those of the last break, and of boxes closed since. -/
def settleUpTo : Nat → Nat → Filler → Filler
  | 0, _, f => f
  | n + 1, depth, f =>
    if f.allKnown then f
    else
      let i := f.unknown.back!
      let popped := { f with unknown := f.unknown.pop }
      let grown := { popped with
        entries := popped.entries.modify i fun e => { e with size := e.size + f.rightTotal } }
      match f.entries[i]!.command with
      | .openBox .. => if depth = 0 then f else settleUpTo n (depth - 1) grown
      | .line _ => if depth = 0 then grown else settleUpTo n depth grown
      | _ =>
        settleUpTo n (depth + 1)
          { popped with entries := popped.entries.modify i fun e => { e with size := 1 } }

/-- Settles the widths that end here. -/
def settle (f : Filler) : Filler := settleUpTo f.unknown.size 0 f

/-- Starts counting afresh. -/
def restart (f : Filler) : Filler :=
  { f with leftTotal := 1, rightTotal := 1, start := f.entries.size }

/-- Lets a command wait that ends at an unknown width. -/
def pushUnknown (f : Filler) (c : Command) (size : Int) : Filler :=
  { f with
    unknown := f.unknown.push f.entries.size
    entries := f.entries.push ⟨c, size⟩ }

/-- Takes a box's opening. -/
def scanOpen (f : Filler) (offset : Int) (consistent : Bool) : Filler :=
  let f := if f.allKnown then f.restart else f
  f.pushUnknown (.openBox offset consistent) (-f.rightTotal)

/-- Takes a break. -/
def scanBreak (f : Filler) (b : Break) : Filler :=
  let f := if f.allKnown then f.restart else f.settle
  let f := f.pushUnknown (.line b) (-f.rightTotal)
  { f with rightTotal := f.rightTotal + b.blanks }

/-- Takes text. -/
def scanText (f : Filler) (s : String) : Filler :=
  if f.allKnown then f.printText s
  else
    checkWidth { f with
      entries := f.entries.push ⟨.text s, width s⟩, rightTotal := f.rightTotal + width s }

/-- Drops the last waiting entry, whose width is unknown. -/
def dropUnknown (f : Filler) : Filler :=
  { f with entries := f.entries.pop, unknown := f.unknown.pop }

/-- The waiting entry so many places before the last one. -/
def waiting? (f : Filler) (back : Nat) : Option Command :=
  let n := f.entries.size
  if f.start + back < n then some f.entries[n - 1 - back]!.command else none

/-- Takes a box's close.  A box of nothing but a break vanishes, and so does a break right before
the close that asks for something after it. -/
def scanClose (f : Filler) : Filler :=
  if f.allKnown then f.printClose
  else
    match f.waiting? 0, f.waiting? 1 with
    | some (.line b), some (.openBox ..) =>
      let f := f.dropUnknown.dropUnknown
      { f with rightTotal := f.rightTotal - b.blanks }
    | some (.line b), _ =>
      if b.ifNonempty then
        let f := f.dropUnknown
        { f with rightTotal := f.rightTotal - b.blanks }.pushUnknown .closeBox (-1)
      else f.pushUnknown .closeBox (-1)
    | _, _ => f.pushUnknown .closeBox (-1)

/-- The place of the box that would be closed next. -/
def innermost (f : Filler) : Option Nat :=
  let rec go (depth : Nat) : List Nat → Option Nat
    | [] => none
    | i :: is =>
      match f.entries[i]!.command with
      | .openBox .. => if depth ≤ 1 then some i else go (depth - 1) is
      | .closeBox => go (depth + 1) is
      | _ => go depth is
  go 1 (f.unknown.toList.drop f.unknownStart).reverse

/-- Takes a box's close, making the box too wide if its text is longer than `max`. -/
def scanCloseWithin (f : Filler) (max : Nat) : Filler :=
  let f := match f.innermost with
    | some i =>
      let size := f.entries[i]!.size
      if size < 0 && (max : Int) < size + f.rightTotal then
        { f with
          entries := f.entries.push ⟨.text "", tooWide⟩
          rightTotal := f.rightTotal + tooWide }
      else f
    | none => f
  f.scanClose

/-- Changes the offset of the break just taken. -/
def scanShift (f : Filler) (offset : Int) : Filler :=
  match f.waiting? 0 with
  | some (.line b) =>
    { f with
      entries := f.entries.modify (f.entries.size - 1) fun e =>
        { e with command := .line { b with offset := b.offset + offset } } }
  | _ => f

/-- Takes a command. -/
def scan (f : Filler) : Command → Filler
  | .text s => f.scanText s
  | .line b => f.scanBreak b
  | .openBox offset consistent => f.scanOpen offset consistent
  | .closeBox => f.scanClose
  | .closeWithin max => f.scanCloseWithin max
  | .shift offset => f.scanShift offset

/-- The text, everything that waits being printed. -/
def finish (f : Filler) : String :=
  if f.allKnown then f.out else f.settle.advance.out

end Filler

/-- The text of a document. -/
def render (d : Doc) : String := (d.foldl Filler.scan .empty).finish

end RestLoom.Layout
