import RestLoom.Proofs.Token.Literal
import RestLoom.Proofs.Token.Tree

/-!
# Proofs/Code/Syntax — the statements that tokens are

    let x = f(&y)?; …  ──readBlock──▸  bind x (propagate (call f [borrow y])) · …

The body of a method is a sequence of statements and the value it gives.  Reading it decides what
each token is there for; a body that is none in this part of the language has no reading.

An expression is read from left to right.  Its `Cursor` is what has been read of it: the operators
after a value belong to the value, references before it apply to the whole.
-/

namespace RestLoom.Code

open RestLoom.Token

/-! ## Trees -/

/-- An expression.  Paths are those that start at the root. -/
inductive Expr where
  | name (i : Ident)
  | text (value : String)
  | unit
  | path (names : List String)
  | call (function : List String) (arguments : List Expr)
  | expand (macroName : List String) (arguments : List Expr)
  | borrow (e : Expr)
  | field (e : Expr) (name : String)
  | method (e : Expr) (name : String) (arguments : List Expr)
  | await (e : Expr)
  /-- The value of a success; a failure ends the body. -/
  | propagate (e : Expr)

/-- A statement without a block. -/
inductive Simple where
  | bind (changes : Bool) (x : Ident) (e : Expr)
  | run (e : Expr)

/-- A statement. -/
inductive Statement where
  | simple (s : Simple)
  /-- Does the block with the value of an option, if it has one. -/
  | ifPresent (x : Ident) (e : Expr) (block : List Simple)

/-- A body: its statements, and the value it gives. -/
structure Block where
  statements : List Statement
  value : Expr

/-! ## Expressions -/

/-- What has been read of an expression. -/
inductive Cursor where
  | start
  /-- One colon of two. -/
  | colon (names : List String)
  /-- Two colons, which a name must follow. -/
  | colons (names : List String)
  | path (names : List String)
  | bang (names : List String)
  | value (e : Expr)
  | dot (e : Expr)
  | member (e : Expr) (name : String)

namespace Cursor

/-- The expression that has been read, if it may end here. -/
def close : Cursor → Option Expr
  | path names => some (.path names)
  | value e => some e
  | member e name => some (.field e name)
  | _ => none

/-- Reads one more token that is no group. -/
def step : Cursor → Token → Option Cursor
  | start, .ident i => some (value (.name i))
  | start, .literal l => (stringValue? l).map fun text => value (.text text)
  | start, .punct ':' .joint => some (colon [])
  | path names, .punct ':' .joint => some (colon names)
  | colon names, .punct ':' .alone => some (colons names)
  | colons names, .ident i => some (path (names ++ [i.name]))
  | path names, .punct '!' .alone => some (bang names)
  | dot e, .ident i =>
    some (if i = .plain "await" then value (.await e) else member e i.name)
  | c, .punct '.' .alone => c.close.map dot
  | c, .punct '?' .alone => c.close.map fun e => value (.propagate e)
  | _, _ => none

/-- Reads expressions between parentheses. -/
def apply : Cursor → List Expr → Option Cursor
  | start, [] => some (value .unit)
  | path names, arguments => some (value (.call names arguments))
  | bang names, arguments => some (value (.expand names arguments))
  | member e name, arguments => some (value (.method e name arguments))
  | _, _ => none

end Cursor

/-- References to a value, one around the other. -/
def borrows : Nat → Expr → Expr
  | 0, e => e
  | n + 1, e => .borrow (borrows n e)

mutual

/-- Reads one more token of an expression. -/
def readToken (c : Cursor) : Token → Option Cursor
  | .group .paren inner => do c.apply (← readList [] 0 .start inner)
  | t => c.step t

/-- Reads expressions with commas between them, when `done` has been read and the next one stands
behind `references` signs of a reference. -/
def readList (done : List Expr) (references : Nat) (c : Cursor) : List Token → Option (List Expr)
  | [] =>
    match references, c with
    | 0, .start => some done
    | n, c => c.close.map fun e => done ++ [borrows n e]
  | t :: ts =>
    match t, c with
    | .punct ',' _, c => do readList (done ++ [borrows references (← c.close)]) 0 .start ts
    | .punct '&' .alone, .start => readList done (references + 1) .start ts
    | t, c => do readList done references (← readToken c t) ts

end

/-- Whether a token is a comma. -/
def isComma : Token → Bool
  | .punct ',' _ => true
  | _ => false

/-- Reads tokens that are one expression. -/
def readExpr (ts : List Token) : Option Expr :=
  if ts.any isComma then none
  else
    match readList [] 0 .start ts with
    | some [e] => some e
    | _ => none

/-! ## Statements -/

/-- What follows the tokens of a fixed piece of code. -/
def after? (front ts : List Token) : Option (List Token) :=
  if ts.take front.length = front then some (ts.drop front.length) else none

/-- Tokens without the attributes they start with. -/
def withoutAttributes : List Token → List Token
  | .punct '#' _ :: .group .bracket _ :: ts => withoutAttributes ts
  | ts => ts

/-- Reads a name and what is assigned to it. -/
def readBinding (changes : Bool) : List Token → Option Simple
  | .ident x :: .punct '=' .alone :: ts => (readExpr ts).map (.bind changes x)
  | _ => none

/-- Reads a statement without a block. -/
def readSimple (ts : List Token) : Option Simple :=
  match after? (code "let mut") ts, after? (code "let") ts with
  | some rest, _ => readBinding true rest
  | none, some rest => readBinding false rest
  | none, none => (readExpr ts).map .run

/-- The pieces of a block, each up to a semicolon or a group in braces, and what is left. -/
def pieces (front : List Token) : List Token → List (List Token) × List Token
  | [] => ([], front)
  | .punct ';' _ :: ts => let rest := pieces [] ts; (front :: rest.1, rest.2)
  | .group .brace inner :: ts =>
    let rest := pieces [] ts
    ((front ++ [.group .brace inner]) :: rest.1, rest.2)
  | t :: ts => pieces (front ++ [t]) ts

/-- Reads statements each of which ends in a semicolon. -/
def readSimples (ts : List Token) : Option (List Simple) :=
  match pieces [] ts with
  | (ps, []) => ps.mapM fun p => readSimple (withoutAttributes p)
  | _ => none

/-- Reads what follows the name of an option's constructor in a condition. -/
def readPresence : List Token → Option Statement
  | .group .paren [.ident x] :: .punct '=' .alone :: ts =>
    match ts.getLast? with
    | some (.group .brace inner) => do
      return .ifPresent x (← readExpr ts.dropLast) (← readSimples inner)
    | _ => none
  | _ => none

/-- Reads a statement. -/
def readStatement (ts : List Token) : Option Statement :=
  match after? (code "if let ::std::option::Option::Some") ts with
  | some rest => readPresence rest
  | none => (readSimple ts).map .simple

/-- **Reads a body.** -/
def readBlock (ts : List Token) : Option Block := do
  let (ps, last) := pieces [] ts
  return ⟨← ps.mapM fun p => readStatement (withoutAttributes p), ← readExpr last⟩

/-! ## Reading pieces -/

/-- A plain name as a token. -/
def word (name : String) : Token := .ident (.plain name)

/-- A path from the root. -/
def rooted (names : List String) : List Token :=
  names.flatMap fun name => [.punct ':' .joint, .punct ':' .alone, word name]

theorem word_ne {a b : String} (h : a ≠ b) : word a ≠ word b := fun heq =>
  h (Ident.mk.inj (Token.ident.inj heq)).2

theorem code_let : code "let" = [word "let"] := by decide +kernel

theorem code_letMut : code "let mut" = [word "let", word "mut"] := by decide +kernel

theorem code_ifPresent : code "if let ::std::option::Option::Some" =
    word "if" :: word "let" :: rooted ["std", "option", "Option", "Some"] := by
  decide +kernel

section
variable {done arguments : List Expr} {references : Nat} {c c' : Cursor} {ts inner : List Token}

/-- **A path from the root** is read name by name. -/
theorem readList_path (before : List String) (name : String) (names : List String) :
    readList done references (.path before) (rooted (name :: names) ++ ts) =
      readList done references (.path (before ++ name :: names)) ts := by
  induction names generalizing before name with
  | nil => rfl
  | cons next names ih =>
    have hname : readList done references (.path before) (rooted (name :: next :: names) ++ ts) =
        readList done references (.path (before ++ [name])) (rooted (next :: names) ++ ts) := rfl
    rw [hname, ih, List.append_assoc, List.singleton_append]

theorem readList_rooted (name : String) (names : List String) :
    readList done references .start (rooted (name :: names) ++ ts) =
      readList done references (.path (name :: names)) ts := by
  cases names with
  | nil => rfl
  | cons next names => exact readList_path [name] next names

/-- **A text** is read from its literal. -/
theorem readList_quote (value : String) :
    readList done references .start (.literal (quote value) :: ts) =
      readList done references (.value (.text value)) ts := by
  change (stringValue? (quote value)).map (fun text => Cursor.value (.text text)) >>=
    (readList done references · ts) = _
  rw [stringValue?_quote]
  rfl

theorem readList_parens (hinner : readList [] 0 .start inner = some arguments)
    (happly : c.apply arguments = some c') :
    readList done references c (.group .paren inner :: ts) = readList done references c' ts := by
  change (readList [] 0 .start inner >>= c.apply) >>= (readList done references · ts) = _
  rw [hinner]
  change c.apply arguments >>= (readList done references · ts) = _
  rw [happly]
  rfl

theorem readExpr_of_readList {e : Expr} (hcomma : ts.any isComma = false)
    (h : readList [] 0 .start ts = some [e]) : readExpr ts = some e := by
  rw [readExpr, hcomma, h]
  rfl

theorem any_isComma_rooted (names : List String) : (rooted names).any isComma = false := by
  simp [rooted, isComma, word]

/-- **A call of a function** is read with its arguments. -/
theorem readExpr_call (name : String) (names : List String)
    (hinner : readList [] 0 .start inner = some arguments) :
    readExpr (rooted (name :: names) ++ [.group .paren inner]) =
      some (.call (name :: names) arguments) := by
  refine readExpr_of_readList ?_ ?_
  · rw [List.any_append, any_isComma_rooted]
    rfl
  · rw [readList_rooted, readList_parens hinner rfl]
    rfl

/-- **A use of a macro** is read with its arguments. -/
theorem readExpr_expand (name : String) (names : List String)
    (hinner : readList [] 0 .start inner = some arguments) :
    readExpr (rooted (name :: names) ++ [.punct '!' .alone, .group .paren inner]) =
      some (.expand (name :: names) arguments) := by
  refine readExpr_of_readList ?_ ?_
  · rw [List.any_append, any_isComma_rooted]
    rfl
  · rw [readList_rooted]
    change readList [] 0 (.bang (name :: names)) [.group .paren inner] = _
    rw [readList_parens hinner rfl]
    rfl

end

section
variable {a b : Token} {front piece rest ts : List Token} {s : Statement}

theorem after?_append (front ts : List Token) : after? front (front ++ ts) = some ts := by
  rw [after?, List.take_left, if_pos rfl, List.drop_left]

theorem after?_cons_of_ne (h : a ≠ b) : after? (a :: front) (b :: ts) = none := by
  rw [after?, List.length_cons, List.take_succ_cons]
  exact if_neg fun heq => h (List.cons.inj heq).1.symm

/-- What does not start like a declaration is an expression. -/
theorem readSimple_run (hlet : word "let" ≠ a) :
    readSimple (a :: ts) = (readExpr (a :: ts)).map .run := by
  rw [readSimple, code_letMut, code_let, after?_cons_of_ne hlet, after?_cons_of_ne hlet]

theorem readStatement_simple (hif : word "if" ≠ a) :
    readStatement (a :: ts) = (readSimple (a :: ts)).map .simple := by
  rw [readStatement, code_ifPresent, after?_cons_of_ne hif]

theorem readStatement_let (h : word "mut" ≠ a) :
    readStatement (word "let" :: a :: ts) = (readBinding false (a :: ts)).map .simple := by
  have hmut : after? [word "let", word "mut"] (word "let" :: a :: ts) = none :=
    if_neg fun heq => h (List.cons.inj (List.cons.inj heq).2).1.symm
  have hlet : after? [word "let"] (word "let" :: a :: ts) = some (a :: ts) := after?_append [_] _
  rw [readStatement_simple (word_ne (by decide)), readSimple, code_letMut, code_let, hmut, hlet]

theorem readStatement_letMut (ts : List Token) :
    readStatement (word "let" :: word "mut" :: ts) = (readBinding true ts).map .simple := by
  have hmut : after? [word "let", word "mut"] (word "let" :: word "mut" :: ts) = some ts :=
    after?_append [_, _] ts
  rw [readStatement_simple (word_ne (by decide)), readSimple, code_letMut, hmut]

theorem readStatement_ifPresent (ts : List Token) :
    readStatement (code "if let ::std::option::Option::Some" ++ ts) = readPresence ts := by
  rw [readStatement, after?_append]

/-- Whether a piece ends with a token. -/
def endsPiece : Token → Bool
  | .punct ';' _ => true
  | .group .brace _ => true
  | _ => false

theorem pieces_append (front : List Token) (h : piece.any endsPiece = false) (ts : List Token) :
    pieces front (piece ++ ts) = pieces (front ++ piece) ts := by
  induction piece generalizing front with
  | nil => rw [List.nil_append, List.append_nil]
  | cons t piece ih =>
    rw [List.any_cons, Bool.or_eq_false_iff] at h
    have hcons : pieces front (t :: (piece ++ ts)) = pieces (front ++ [t]) (piece ++ ts) := by
      rw [pieces]
      · rintro spacing rfl
        cases h.1
      · rintro inner rfl
        cases h.1
    rw [List.cons_append, hcons, ih _ h.2, List.append_assoc, List.singleton_append]

/-- The body with one more statement before the others. -/
def Block.cons (s : Statement) (b : Block) : Block := { b with statements := s :: b.statements }

/-- **A piece of a body** is its first statement. -/
theorem readBlock_of_pieces (hread : readStatement (withoutAttributes piece) = some s)
    (h : pieces [] ts = (piece :: (pieces [] rest).1, (pieces [] rest).2)) :
    readBlock ts = (readBlock rest).map (Block.cons s) := by
  rw [readBlock, h, readBlock]
  obtain ⟨ps, last⟩ := pieces [] rest
  dsimp only
  rw [List.mapM_cons, hread]
  cases ps.mapM fun p => readStatement (withoutAttributes p) with
  | none => rfl
  | some ss => cases readExpr last <;> rfl

theorem readBlock_semicolon (hpiece : piece.any endsPiece = false)
    (hread : readStatement (withoutAttributes piece) = some s) (rest : List Token) :
    readBlock (piece ++ .punct ';' .alone :: rest) = (readBlock rest).map (Block.cons s) :=
  readBlock_of_pieces hread (pieces_append [] hpiece _)

theorem readBlock_brace {inner : List Token} (hpiece : piece.any endsPiece = false)
    (hread : readStatement (withoutAttributes (piece ++ [.group .brace inner])) = some s)
    (rest : List Token) :
    readBlock (piece ++ .group .brace inner :: rest) = (readBlock rest).map (Block.cons s) :=
  readBlock_of_pieces hread (pieces_append [] hpiece _)

/-- **A value at the end of a body** is that of the body. -/
theorem readBlock_last (hpiece : piece.any endsPiece = false) {e : Expr}
    (hread : readExpr piece = some e) : readBlock piece = some ⟨[], e⟩ := by
  have hpieces : pieces [] piece = ([], piece) := by
    simpa [pieces] using pieces_append [] hpiece []
  rw [readBlock, hpieces]
  dsimp only
  rw [hread]
  rfl

end

end RestLoom.Code
