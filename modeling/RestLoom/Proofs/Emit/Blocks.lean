import RestLoom.Proofs.Emit.ClientUnit

/-!
# Proofs/Emit/Blocks — pieces are written in blocks, at any depth alike

    depth 1:   block "impl A" [line "x();", line " ", line "y();"]

        ····impl A {
        ········x();

        ········y();
        ····}

Pieces are written into a buffer, call by call: a block goes one level deeper, writes what it holds
and comes back.  So the buffer has its depth again after any pieces, and holds the lines that they
have at this depth (`writeAllTo_eq`), which are those at no depth, moved to the right as a whole
(`linesAllAt_add`).  A block stands between the line that opens it and the one that closes it, so
that the braces of blocks are balanced (`writeAllTo_evenly`).
-/

namespace RestLoom.Emit

open RestLoom.Text
open RestLoom.Source

/-! ## The buffer -/

/-- A text while it is written: what is there, the depth of what comes next, and what was reported
on the way. -/
structure Buffer where
  text : List Char
  depth : Nat
  reports : List Piece.Report

namespace Buffer

/-- Nothing is written yet. -/
def new : Buffer := ⟨[], 0, []⟩

/-- Adds characters. -/
def put (b : Buffer) (cs : List Char) : Buffer := { b with text := b.text ++ cs }

/-- Adds a report. -/
def report (b : Buffer) (r : Piece.Report) : Buffer := { b with reports := b.reports ++ [r] }

/-- Goes one level deeper. -/
def enter (b : Buffer) : Buffer := { b with depth := b.depth + 1 }

/-- Comes back from a deeper level. -/
def leave (b : Buffer) : Buffer := { b with depth := b.depth - 1 }

/-- Writes an empty line. -/
def blank (b : Buffer) : Buffer := b.put ['\n']

/-- Writes a line behind the blanks of the depth; a blank one is written as an empty line. -/
def row (b : Buffer) (l : Line) : Buffer :=
  if allBlank l then b.blank
  else ((b.put (List.replicate b.depth Piece.level).flatten).put l).put ['\n']

/-- Writes a text line by line. -/
def line (b : Buffer) (text : List Char) : Buffer :=
  if text = [] then b.blank else (lines text).foldl row b

/-- Writes a comment line by line. -/
def comment (b : Buffer) (text : List Char) : Buffer :=
  (lines text).foldl (fun b l => b.line (if l = [] then ['/', '/'] else ['/', '/', ' '] ++ l)) b

/-- Writes a header with an opening brace, what stands in the block, and a closing brace. -/
def braces (b : Buffer) (header : String) (body : Buffer → Buffer) : Buffer :=
  (body (b.line (Piece.opener header)).enter).leave.line ['}']

/-- Writes items, laid out; or tells why there is no layout. -/
def items (b : Buffer) (tokens : Except ReadError (List Token)) :
    Except BuildFault Unit × Buffer :=
  match tokens.bind File.ofTokens with
  | .error e => (.error (.invalid e), b)
  | .ok f =>
    match Layout.ofFile f with
    | none => (.error .noLayout, b)
    | some text => (.ok (), b.line (dropEndWhile isBlank text.toList))

end Buffer

namespace Piece

mutual

/-- Writes a piece into a buffer. -/
def writeTo : Piece → Buffer → Buffer
  | line text, b => b.line text.toList
  | blank, b => b.blank
  | comment text, b => b.comment text.toList
  | block header body, b => b.braces header (writeAllTo body)
  | items tokens, b =>
    match b.items tokens with
    | (.ok (), b) => b
    | (.error e, b) => b.report (.failure e)
  | tellDepth, b => b.report (.depth b.depth)

/-- Writes pieces in order. -/
def writeAllTo : List Piece → Buffer → Buffer
  | [], b => b
  | p :: ps, b => writeAllTo ps (writeTo p b)

end

end Piece

/-! ## What is written -/

/-- Lines with their ends. -/
def ended (ls : List Line) : List Char := ls.flatMap fun l => l ++ ['\n']

@[simp] theorem ended_nil : ended [] = [] := rfl

@[simp] theorem ended_append (ls ls' : List Line) : ended (ls ++ ls') = ended ls ++ ended ls' :=
  List.flatMap_append

theorem ended_singleton (l : Line) : ended [l] = l ++ ['\n'] := List.flatMap_singleton _ _

namespace Buffer

variable (b : Buffer)

/-- The buffer with lines at the end of its text. -/
def putLines (ls : List Line) : Buffer := b.put (ended ls)

@[simp] theorem putLines_depth (ls : List Line) : (b.putLines ls).depth = b.depth := rfl

theorem putLines_nil : b.putLines [] = b := by
  rw [putLines, ended_nil, put, List.append_nil]

theorem putLines_eq (ls : List Line) :
    b.putLines ls = ⟨b.text ++ ended ls, b.depth, b.reports ++ []⟩ :=
  congrArg (Buffer.mk _ _) (List.append_nil _).symm

theorem putLines_putLines (ls ls' : List Line) :
    (b.putLines ls).putLines ls' = b.putLines (ls ++ ls') := by
  simp only [putLines, put, ended_append, List.append_assoc]

/-- Steps that each add lines at the depth add them one after the other. -/
theorem foldl_putLines {α : Type} {step : Buffer → α → Buffer} (f : Nat → α → List Line)
    (hstep : ∀ (b : Buffer) a, step b a = b.putLines (f b.depth a)) (as : List α) :
    as.foldl step b = b.putLines (as.flatMap (f b.depth)) := by
  induction as generalizing b with
  | nil => exact b.putLines_nil.symm
  | cons a as ih =>
    rw [List.foldl_cons, ih, hstep, putLines_depth, putLines_putLines, List.flatMap_cons]

theorem row_eq (l : Line) : b.row l = b.putLines [Piece.indented b.depth l] := by
  rw [row, Piece.indented, putLines, ended_singleton]
  split
  · rfl
  · simp only [put, List.append_assoc]

theorem line_eq (text : List Char) : b.line text = b.putLines (Piece.textLines b.depth text) := by
  rw [line, Piece.textLines]
  split
  · rfl
  · rw [b.foldl_putLines (fun depth l => [Piece.indented depth l]) row_eq, List.map_eq_flatMap]

theorem comment_eq (text : List Char) :
    b.comment text = b.putLines (Piece.commentLines b.depth text) :=
  b.foldl_putLines (fun depth l =>
    Piece.textLines depth (if l = [] then ['/', '/'] else ['/', '/', ' '] ++ l))
    (fun b _ => b.line_eq _) (lines text)

/-- Items are written when they are laid out, and change nothing when they are not. -/
theorem items_eq (tokens : Except ReadError (List Token)) :
    b.items tokens = match Piece.itemLines b.depth tokens with
      | .ok ls => (.ok (), b.putLines ls)
      | .error e => (.error e, b) := by
  rw [items, Piece.itemLines]
  cases tokens.bind File.ofTokens with
  | error e => rfl
  | ok f =>
    simp only [Except.mapError, bind, Except.bind]
    cases Layout.ofFile f with
    | none => rfl
    | some text => exact congrArg (Prod.mk _) (b.line_eq _)

end Buffer

namespace Piece

mutual

/-- **A piece adds the lines** that it has at the depth of the buffer, and its reports. -/
theorem writeTo_eq : ∀ (p : Piece) (b : Buffer), p.writeTo b =
    ⟨b.text ++ ended (p.linesAt b.depth), b.depth, b.reports ++ p.reportsAt b.depth⟩
  | line text, b => (b.line_eq text.toList).trans (b.putLines_eq _)
  | blank, b => b.putLines_eq [[]]
  | comment text, b => (b.comment_eq text.toList).trans (b.putLines_eq _)
  | block header body, b => by
    rw [writeTo, Buffer.braces, writeAllTo_eq, Buffer.line_eq, Buffer.line_eq, linesAt, reportsAt]
    simp only [Buffer.putLines, Buffer.put, Buffer.enter, Buffer.leave, Nat.add_sub_cancel,
      ended_append, List.append_assoc]
  | items tokens, b => by
    rw [writeTo, b.items_eq, linesAt, reportsAt]
    cases itemLines b.depth tokens with
    | ok ls => exact congrArg (Buffer.mk _ _) (List.append_nil _).symm
    | error e => exact congrArg (Buffer.mk · _ _) (List.append_nil _).symm
  | tellDepth, b => by
    rw [writeTo, linesAt, reportsAt]
    exact congrArg (Buffer.mk · _ _) (List.append_nil _).symm

theorem writeAllTo_eq : ∀ (ps : List Piece) (b : Buffer), writeAllTo ps b =
    ⟨b.text ++ ended (linesAllAt b.depth ps), b.depth, b.reports ++ reportsAllAt b.depth ps⟩
  | [], b => by
    rw [writeAllTo, linesAllAt, reportsAllAt, ended_nil, List.append_nil, List.append_nil]
  | p :: ps, b => by
    rw [writeAllTo, writeTo_eq, writeAllTo_eq, linesAllAt, reportsAllAt, ended_append,
      List.append_assoc, List.append_assoc]

end

end Piece

/-! ## Rows -/

/-- A line as it is written: no line ends within it, and if it is blank, it is empty. -/
structure IsRow (l : Line) : Prop where
  unbroken : '\n' ∉ l
  empty : allBlank l = true → l = []

/-- A row moved to the right; an empty one stays empty. -/
def moved (n : Nat) (l : Line) : Line := if l = [] then [] else List.replicate n ' ' ++ l

section
variable {k d : Nat} {l : Line}

theorem flatten_replicate_level (d : Nat) :
    (List.replicate d Piece.level).flatten = List.replicate (4 * d) ' ' := by
  induction d with
  | zero => rfl
  | succ d ih =>
    rw [List.replicate_succ, List.flatten_cons, ih, Nat.mul_succ, Nat.add_comm,
      ← List.replicate_append_replicate]
    rfl

theorem allBlank_append_replicate (n : Nat) (l : Line) :
    allBlank (List.replicate n ' ' ++ l) = allBlank l := by
  have hblank : (List.replicate n ' ').all isBlank = true := by
    rw [List.all_replicate]
    split <;> rfl
  rw [allBlank, List.all_append, hblank, Bool.true_and, allBlank]

theorem indented_eq (d : Nat) (l : Line) :
    Piece.indented d l = if allBlank l then [] else List.replicate (4 * d) ' ' ++ l := by
  rw [Piece.indented, flatten_replicate_level]

theorem isRow_indented (h : '\n' ∉ l) (d : Nat) : IsRow (Piece.indented d l) := by
  rw [indented_eq]
  split
  next => exact ⟨List.not_mem_nil, fun _ => rfl⟩
  next hink =>
    constructor
    · rw [List.mem_append, List.mem_replicate]
      rintro (⟨-, heq⟩ | hmem)
      · exact absurd heq (by decide)
      · exact h hmem
    · rw [allBlank_append_replicate]
      exact fun hblank => absurd hblank hink

/-- A row is empty or has ink. -/
theorem IsRow.indented_eq (h : IsRow l) (d : Nat) : Piece.indented d l = moved (4 * d) l := by
  rw [Emit.indented_eq, moved]
  by_cases hnil : l = []
  · rw [hnil]
    rfl
  · rw [if_neg fun hblank => hnil (h.empty hblank), if_neg hnil]

/-- Levels add up. -/
theorem indented_indented (k d : Nat) (l : Line) :
    Piece.indented k (Piece.indented d l) = Piece.indented (k + d) l := by
  rw [indented_eq d, indented_eq (k + d)]
  split
  next => rfl
  next hink =>
    rw [indented_eq, allBlank_append_replicate, if_neg hink, Nat.mul_add, ← List.append_assoc,
      List.replicate_append_replicate]

end

namespace Piece

variable {l : Line}

theorem textLines_add (k d : Nat) (text : List Char) :
    textLines (k + d) text = (textLines d text).map (indented k) := by
  rw [textLines, textLines]
  split
  · rfl
  · rw [List.map_map]
    exact List.map_congr_left fun l _ => (indented_indented k d l).symm

theorem itemLines_add (k d : Nat) (tokens : Except ReadError (List Token)) :
    itemLines (k + d) tokens = (itemLines d tokens).map (List.map (indented k)) := by
  rw [itemLines, itemLines]
  cases tokens.bind File.ofTokens with
  | error e => rfl
  | ok f =>
    simp only [Except.mapError, bind, Except.bind]
    cases Layout.ofFile f with
    | none => rfl
    | some text => exact congrArg Except.ok (textLines_add k d _)

mutual

/-- **Deeper by some levels**, a piece has the same lines, each of them indented. -/
theorem linesAt_add (k d : Nat) : ∀ p : Piece, p.linesAt (k + d) = (p.linesAt d).map (indented k)
  | line text => textLines_add k d text.toList
  | blank => rfl
  | comment text => by
    rw [linesAt, linesAt, commentLines, commentLines, List.map_flatMap]
    exact List.flatMap_congr fun l _ => textLines_add k d _
  | block header body => by
    rw [linesAt, linesAt, textLines_add, textLines_add, Nat.add_assoc, linesAllAt_add,
      List.map_append, List.map_append]
  | items tokens => by
    rw [linesAt, linesAt, itemLines_add]
    cases itemLines d tokens with
    | error e => rfl
    | ok ls => rfl
  | tellDepth => rfl

theorem linesAllAt_add (k d : Nat) :
    ∀ ps : List Piece, linesAllAt (k + d) ps = (linesAllAt d ps).map (indented k)
  | [] => rfl
  | p :: ps => by rw [linesAllAt, linesAllAt, linesAt_add, linesAllAt_add, List.map_append]

end

theorem isRow_of_mem_textLines {d : Nat} {text : List Char} (h : l ∈ textLines d text) :
    IsRow l := by
  rw [textLines] at h
  split at h
  · rw [List.mem_singleton.mp h]
    exact ⟨List.not_mem_nil, fun _ => rfl⟩
  · obtain ⟨l, hl, rfl⟩ := List.mem_map.mp h
    exact isRow_indented (unbroken_of_mem_lines hl) d

mutual

/-- What is written are rows. -/
theorem isRow_of_mem_linesAt (d : Nat) : ∀ (p : Piece), ∀ l ∈ p.linesAt d, IsRow l
  | line text, l, h => isRow_of_mem_textLines h
  | blank, l, h => by
    rw [List.mem_singleton.mp h]
    exact ⟨List.not_mem_nil, fun _ => rfl⟩
  | comment text, l, h => by
    obtain ⟨m, -, h⟩ := List.mem_flatMap.mp h
    exact isRow_of_mem_textLines h
  | block header body, l, h => by
    rw [linesAt, List.mem_append, List.mem_append] at h
    obtain (h | h) | h := h
    · exact isRow_of_mem_textLines h
    · exact isRow_of_mem_linesAllAt (d + 1) body l h
    · exact isRow_of_mem_textLines h
  | items tokens, l, h => by
    cases hlines : itemLines d tokens with
    | error e =>
      rw [linesAt, hlines] at h
      cases h
    | ok ls =>
      rw [linesAt_items hlines] at h
      exact isRow_of_mem_textLines h

theorem isRow_of_mem_linesAllAt (d : Nat) : ∀ (ps : List Piece), ∀ l ∈ linesAllAt d ps, IsRow l
  | p :: ps, l, h => by
    rw [linesAllAt, List.mem_append] at h
    obtain h | h := h
    · exact isRow_of_mem_linesAt d p l h
    · exact isRow_of_mem_linesAllAt d ps l h

end

end Piece

/-! ## Braces -/

/-- The braces of a text. -/
def bracesOf (cs : List Char) : List Char := cs.filter fun c => c == '{' || c == '}'

/-- **Balanced braces**: each one that opens is closed behind balanced ones. -/
inductive IsBalanced : List Char → Prop where
  | nil : IsBalanced []
  | block {inner rest : List Char} (h : IsBalanced inner) (h' : IsBalanced rest) :
    IsBalanced ('{' :: (inner ++ '}' :: rest))

theorem IsBalanced.append {cs ds : List Char} (h : IsBalanced cs) (h' : IsBalanced ds) :
    IsBalanced (cs ++ ds) := by
  induction h with
  | nil => exact h'
  | block hinner _ _ ih =>
    rw [List.cons_append, List.append_assoc, List.cons_append]
    exact .block hinner ih

section
variable {l : Line}

theorem bracesOf_append (cs ds : List Char) : bracesOf (cs ++ ds) = bracesOf cs ++ bracesOf ds :=
  List.filter_append cs ds

theorem bracesOf_of_blank (h : allBlank l = true) : bracesOf l = [] := by
  rw [bracesOf, List.filter_eq_nil_iff]
  intro c hc hbrace
  have hblank := List.all_eq_true.mp h c hc
  simp only [Bool.or_eq_true, beq_iff_eq] at hbrace
  obtain rfl | rfl := hbrace
  · exact absurd hblank (by decide)
  · exact absurd hblank (by decide)

theorem bracesOf_indented (d : Nat) (l : Line) : bracesOf (Piece.indented d l) = bracesOf l := by
  rw [indented_eq]
  split
  next h => exact (bracesOf_of_blank h).symm
  next =>
    rw [bracesOf_append, bracesOf_of_blank, List.nil_append]
    rw [← List.append_nil (List.replicate _ _), allBlank_append_replicate]
    rfl

theorem bracesOf_ended (ls : List Line) : bracesOf (ended ls) = ls.flatMap bracesOf := by
  rw [ended, bracesOf, List.filter_flatMap]
  refine List.flatMap_congr fun l _ => ?_
  rw [List.filter_append]
  exact List.append_nil _

/-- Nothing but line ends is lost where a text is cut into lines. -/
theorem flatMap_bracesOf_lines (text : List Char) :
    (lines text).flatMap bracesOf = bracesOf text := by
  induction text using line_induction with
  | nil => rfl
  | feed cs ih => exact ih
  | return_feed cs ih => exact ih
  | inside c cs hc ih =>
    rw [show bracesOf (c :: cs) = bracesOf [c] ++ bracesOf cs from bracesOf_append [c] cs, ← ih,
      lines_cons_of_inside hc]
    cases lines cs with
    | nil => rfl
    | cons l ls =>
      rw [List.flatMap_cons, List.flatMap_cons, ← List.append_assoc, ← bracesOf_append]
      rfl

end

namespace Piece

theorem bracesOf_textLines (d : Nat) (text : List Char) :
    bracesOf (ended (textLines d text)) = bracesOf text := by
  rw [bracesOf_ended, textLines]
  split
  next h => rw [h]; rfl
  next =>
    rw [List.flatMap_map, List.flatMap_congr fun l _ => bracesOf_indented d l,
      flatMap_bracesOf_lines]

theorem bracesOf_commentLines (d : Nat) (text : List Char) :
    bracesOf (ended (commentLines d text)) = bracesOf text := by
  have hline (l : Line) :
      (textLines d (if l = [] then ['/', '/'] else ['/', '/', ' '] ++ l)).flatMap bracesOf =
        bracesOf l := by
    rw [← bracesOf_ended, bracesOf_textLines]
    split
    next h => rw [h]; rfl
    next => exact bracesOf_append _ l
  rw [bracesOf_ended, commentLines, List.flatMap_assoc, List.flatMap_congr fun l _ => hline l,
    flatMap_bracesOf_lines]

mutual

/-- The texts that a piece is made of. -/
def texts : Piece → List (List Char)
  | line text => [text.toList]
  | comment text => [text.toList]
  | block header body => header.toList :: textsAll body
  | items tokens => [layoutOf tokens]
  | blank => []
  | tellDepth => []

/-- The texts that pieces are made of. -/
def textsAll : List Piece → List (List Char)
  | [] => []
  | p :: ps => texts p ++ textsAll ps

end

mutual

/-- **The braces of blocks nest**, with those of texts in which braces nest. -/
theorem isBalanced_linesAt (d : Nat) : ∀ p : Piece, (∀ t ∈ p.texts, IsBalanced (bracesOf t)) →
    IsBalanced (bracesOf (ended (p.linesAt d)))
  | line text, h => by
    rw [linesAt, bracesOf_textLines]
    exact h _ (List.mem_singleton_self _)
  | blank, _ => .nil
  | comment text, h => by
    rw [linesAt, bracesOf_commentLines]
    exact h _ (List.mem_singleton_self _)
  | block header body, h => by
    rw [texts, List.forall_mem_cons] at h
    have hopener : bracesOf (opener header) = bracesOf header.toList ++ ['{'] := by
      rw [opener]
      split
      next hnil => rw [hnil]; rfl
      next => exact bracesOf_append _ _
    rw [linesAt, ended_append, ended_append, bracesOf_append, bracesOf_append, bracesOf_textLines,
      bracesOf_textLines, hopener, List.append_assoc, List.append_assoc]
    exact h.1.append (.block (isBalanced_linesAllAt (d + 1) body h.2) .nil)
  | items tokens, h => by
    cases hlines : itemLines d tokens with
    | error e =>
      rw [linesAt, hlines]
      exact .nil
    | ok ls =>
      rw [linesAt_items hlines, bracesOf_textLines]
      exact h _ (List.mem_singleton_self _)
  | tellDepth, _ => .nil

theorem isBalanced_linesAllAt (d : Nat) : ∀ ps : List Piece,
    (∀ t ∈ textsAll ps, IsBalanced (bracesOf t)) → IsBalanced (bracesOf (ended (linesAllAt d ps)))
  | [], _ => .nil
  | p :: ps, h => by
    rw [textsAll, List.forall_mem_append] at h
    rw [linesAllAt, ended_append, bracesOf_append]
    exact (isBalanced_linesAt d p h.1).append (isBalanced_linesAllAt d ps h.2)

end

/-! ## Blocks -/

end Piece

/-- Whether a text is another one moved to the right: so many blanks come before each of its lines,
but for the blank ones, which are empty in both. -/
def IsMoved (n : Nat) (text text' : List Char) : Prop :=
  ∃ rows, (∀ l ∈ rows, IsRow l) ∧ text = ended rows ∧ text' = ended (rows.map (moved n))

/-- Whether a piece is written as a block around others: a line that opens it, the others one level
deeper, and a line that closes it, as far to the right as the first one. -/
def IsWrittenAround (p : Piece) (header : String) (ps : List Piece) (b : Buffer) : Prop :=
  ∃ opening inner, '\n' ∉ opening ∧ opening.getLast? = some '{' ∧
    opening = (if header = "" then ['{'] else header.toList ++ [' ', '{']) ∧
    IsMoved (4 * (b.depth + 1)) (Piece.writeAllTo ps .new).text inner ∧
    (p.writeTo b).text = b.text ++ (List.replicate (4 * b.depth) ' ' ++ opening ++ ['\n']) ++
      inner ++ (List.replicate (4 * b.depth) ' ' ++ ['}', '\n'])

namespace Piece

theorem isMoved_linesAllAt (d : Nat) (ps : List Piece) :
    IsMoved (4 * d) (writeAllTo ps .new).text (ended (linesAllAt d ps)) := by
  refine ⟨linesAllAt 0 ps, isRow_of_mem_linesAllAt 0 ps, ?_, ?_⟩
  · rw [writeAllTo_eq]
    rfl
  · refine congrArg ended ((linesAllAt_add d 0 ps).trans (List.map_congr_left fun l hl => ?_))
    exact (isRow_of_mem_linesAllAt 0 ps l hl).indented_eq d

/-- **A text of one line** is written as one row. -/
theorem textLines_of_unbroken {text : List Char} {c : Char} (h : '\n' ∉ text)
    (hmem : c ∈ text) (hc : isBlank c = false) (d : Nat) :
    textLines d text = [List.replicate (4 * d) ' ' ++ text] := by
  have hne : text ≠ [] := List.ne_nil_of_mem hmem
  have hink : ¬allBlank text = true := fun hall => by
    rw [List.all_eq_true.mp hall c hmem] at hc
    cases hc
  rw [textLines, if_neg hne, lines_singleton hne h, List.map_singleton, indented_eq, if_neg hink]

/-- **A block** is written around what stands in it. -/
theorem isWrittenAround_block {header : String} (h : '\n' ∉ header.toList) (ps : List Piece)
    (b : Buffer) : IsWrittenAround (.block header ps) header ps b := by
  have hunbroken : '\n' ∉ opener header := by
    rw [opener]
    split
    · decide
    · rw [List.mem_append]
      exact not_or.mpr ⟨h, by decide⟩
  have hlast : (opener header).getLast? = some '{' := by
    rw [opener]
    split
    · rfl
    · exact List.getLast?_append_of_ne_nil _ (List.cons_ne_nil _ _)
  have hopening := textLines_of_unbroken hunbroken (List.mem_of_getLast? hlast) rfl b.depth
  have hclosing : textLines b.depth ['}'] = [List.replicate (4 * b.depth) ' ' ++ ['}']] :=
    textLines_of_unbroken (by decide) (List.mem_singleton_self _) rfl b.depth
  refine ⟨opener header, ended (linesAllAt (b.depth + 1) ps), hunbroken, hlast, rfl,
    isMoved_linesAllAt (b.depth + 1) ps, ?_⟩
  rw [writeTo_eq, linesAt, hopening, hclosing, ended_append, ended_append, ended_singleton,
    ended_singleton]
  simp only [List.append_assoc, List.singleton_append]

theorem function_eq (head params : String) (returns : Option String) (ps : List Piece) :
    function head params returns ps =
      block (head ++ "(" ++ params ++ ")" ++ (returns.map (" -> " ++ ·)).getD "") ps := by
  cases returns with
  | none => exact congrArg (block · ps) String.append_empty.symm
  | some t =>
    have harrow : ") -> " = ")" ++ " -> " := rfl
    refine congrArg (block · ps) ?_
    simp only [Option.map_some, Option.getD_some, harrow, String.append_assoc]

theorem implementation_eq (type : String) (implemented : Option String) (ps : List Piece) :
    implementation type implemented ps =
      block ("impl " ++ (implemented.map (· ++ " for ")).getD "" ++ type) ps := by
  cases implemented with
  | none => rfl
  | some t =>
    refine congrArg (block · ps) ?_
    simp only [Option.map_some, Option.getD_some, String.append_assoc]

/-- How pieces are written into a buffer of any depth. -/
structure WritesEvenly (ps : List Piece) (b : Buffer) : Prop where
  /-- The depth is the same again afterwards. -/
  depth : (writeAllTo ps b).depth = b.depth
  /-- What is added are the lines of the pieces at this depth. -/
  added : (writeAllTo ps b).text = b.text ++ ended (linesAllAt b.depth ps)
  /-- They are what is written at no depth, moved to the right by four blanks a level. -/
  moved : IsMoved (4 * b.depth) (writeAllTo ps .new).text (ended (linesAllAt b.depth ps))
  /-- A block with a header of one line is written around what stands in it. -/
  block : ∀ header : String, '\n' ∉ header.toList →
    IsWrittenAround (.block header ps) header ps b
  /-- So is a function, -/
  function : ∀ (head params : String) (returns : Option String) (header : String),
    header = head ++ "(" ++ params ++ ")" ++ (returns.map (" -> " ++ ·)).getD "" →
    '\n' ∉ header.toList → IsWrittenAround (.function head params returns ps) header ps b
  /-- and so is an implementation. -/
  implementation : ∀ (type : String) (implemented : Option String) (header : String),
    header = "impl " ++ (implemented.map (· ++ " for ")).getD "" ++ type →
    '\n' ∉ header.toList → IsWrittenAround (.implementation type implemented ps) header ps b
  /-- Where the braces of all texts are balanced, so are those of what is added. -/
  nested : (∀ t ∈ textsAll ps, IsBalanced (bracesOf t)) →
    IsBalanced (bracesOf (ended (linesAllAt b.depth ps)))
  /-- Items that are not laid out leave the buffer as it was. -/
  refused : ∀ tokens e, itemLines b.depth tokens = .error e → b.items tokens = (.error e, b)
  /-- The reports are those that the pieces make at this depth. -/
  reports : (writeAllTo ps b).reports = b.reports ++ reportsAllAt b.depth ps
  /-- What a new buffer holds in the end is the text that is built from the pieces. -/
  built : ∀ text, buildText ps = .ok text → text.toList = (writeAllTo ps .new).text

/-- **Pieces are written evenly**: in blocks that are closed, and at any depth alike. -/
theorem writeAllTo_evenly (ps : List Piece) (b : Buffer) : WritesEvenly ps b where
  depth := by rw [writeAllTo_eq]
  added := by rw [writeAllTo_eq]
  moved := isMoved_linesAllAt b.depth ps
  block header h := isWrittenAround_block h ps b
  function head params returns header hheader h := by
    rw [function_eq, ← hheader]
    exact isWrittenAround_block h ps b
  implementation type implemented header hheader h := by
    rw [implementation_eq, ← hheader]
    exact isWrittenAround_block h ps b
  nested := isBalanced_linesAllAt b.depth ps
  refused tokens e h := by rw [b.items_eq, h]
  reports := by rw [writeAllTo_eq]
  built text h := by
    rw [(buildText_eq_ok h).1, textOfLines, String.toList_ofList, writeAllTo_eq]
    rfl

example : (writeAllTo [.block "impl A" [.line "x();\n \ny();"]] ⟨[], 1, []⟩).text =
    "    impl A \x7b\n        x();\n\n        y();\n    \x7d\n".toList := by decide

end Piece

end RestLoom.Emit
