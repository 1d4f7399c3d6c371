import Mathlib.Data.Bool.AllAny
import RestLoom.Proofs.Token.Comment
import RestLoom.Proofs.Token.Literal
import RestLoom.Proofs.Token.Tree

/-!
# Proofs/Token/Lexeme — the stretches of text that tokens are read from

    fn f() { "a⏎b" }  ──lexemes?──▸  [fn, f, (, ), {, "a⏎b", }]

The reader of token trees reads lexemes one after the other and puts their atoms together
(`lexUpTo_eq`).  On lines that are written again each lexeme is *mended* (`lexeme?_relined`): all
that changes is the text of string literals and of documentation in blocks, and it changes exactly
where it is torn (`atoms_mend_iff`).
-/

namespace RestLoom.Token

open RestLoom.Text

variable {z cs r : List Char} {s : Option (List Char)} {c : Char}

/-- A stretch of text that tokens are read from. -/
inductive Lexeme where
  | opens (d : Delimiter)
  | closes (d : Delimiter)
  /-- A name or an operator character. -/
  | word (t : Token)
  | literal (text : List Char)
  /-- Documentation to the end of a line. -/
  | lineDoc (inner : Bool) (text : List Char)
  /-- Documentation in a block, with the end of the block. -/
  | blockDoc (inner : Bool) (text : List Char)

namespace Lexeme

/-- The atoms of a lexeme. -/
def atoms : Lexeme → List Atom
  | opens d => [.opens d]
  | closes d => [.closes d]
  | word t => t.atoms
  | literal text => [.literal (String.ofList text)]
  | lineDoc inner text => atomsAll (docTokens inner text)
  | blockDoc inner text => atomsAll (docTokens inner (text.take (text.length - 2)))

/-- A lexeme on lines that are written again. -/
def mend : Lexeme → Lexeme
  | literal text => literal (recut none text)
  | blockDoc inner text => blockDoc inner (recut none text)
  | l => l

/-- Whether a lexeme holds a line end or a blank line that changes when lines are written again. -/
def Torn : Lexeme → Prop
  | literal text => Text.Torn text
  | blockDoc _ text => Text.Torn text
  | _ => False

end Lexeme

/-! ## Reading -/

/-- The lexeme at the start, unless it is documentation. -/
def codeLexeme? : List Char → Option (Lexeme × List Char)
  | [] => none
  | c :: cs =>
    match Delimiter.ofOpening? c with
    | some d => some (.opens d, cs)
    | none =>
      match Delimiter.ofClosing? c with
      | some d => some (.closes d, cs)
      | none =>
        match afterLiteral? (c :: cs) with
        | some r => some (.literal ((c :: cs).take ((c :: cs).length - r.length)), r)
        | none =>
          match punct? (c :: cs) with
          | some (t, r) => some (.word t, r)
          | none => (ident? (c :: cs)).map fun (i, r) => (.word (.ident i), r)

/-- The lexeme at the start of a text that begins with no blank and no plain comment. -/
def lexeme? (cs : List Char) : Option (Lexeme × List Char) :=
  match commentStart? cs with
  | some (.docLine inner cs) =>
    if returnsEndLines (takeLine cs).1 then some (.lineDoc inner (takeLine cs).1, (takeLine cs).2)
    else none
  | some (.docBlock inner cs) => do
    let (body, r) ← takeBlock 0 cs
    if returnsEndLines (body.take (body.length - 2)) then some (.blockDoc inner body, r) else none
  | some _ => none
  | none => codeLexeme? cs

/-- The lexemes of a text, at most so many. -/
def lexemesUpTo : Nat → List Char → Option (List Lexeme)
  | 0, _ => none
  | fuel + 1, cs =>
    match skip cs with
    | [] => some []
    | c :: cs => do
      let (l, r) ← lexeme? (c :: cs)
      return l :: (← lexemesUpTo fuel r)

/-- The lexemes of a text. -/
def lexemes? (cs : List Char) : Option (List Lexeme) := lexemesUpTo (cs.length + 1) cs

/-- No leaf begins like a comment. -/
theorem leaf?_of_commentStart? {start : CommentStart} (h : commentStart? cs = some start) :
    leaf? cs = none := by
  have hslash (cs : List Char) : afterLiteral? ('/' :: cs) = none ∧ ident? ('/' :: cs) = none := by
    refine ⟨afterLiteral?_eq_none_iff.mpr ⟨rfl, rfl, rfl, ?_⟩, rfl⟩
    rw [afterInt?_eq]
    rfl
  have hshape : ∃ cs', punctChar? cs = none ∧ cs = '/' :: cs' := by
    rw [commentStart?.eq_def] at h
    split at h
    case h_10 => cases h
    all_goals exact ⟨_, rfl, rfl⟩
  obtain ⟨cs', hpunct, rfl⟩ := hshape
  rw [leaf?, (hslash cs').1, punct?, hpunct, (hslash cs').2]
  rfl

theorem doc?_eq (cs : List Char) : doc? cs =
    match commentStart? cs with
    | some (.docLine inner cs) =>
      if returnsEndLines (takeLine cs).1 then
        some (docTokens inner (takeLine cs).1, (takeLine cs).2) else none
    | some (.docBlock inner cs) => (takeBlock 0 cs).bind fun v =>
      if returnsEndLines (v.1.take (v.1.length - 2)) then
        some (docTokens inner (v.1.take (v.1.length - 2)), v.2) else none
    | _ => none := by
  rw [doc?]
  cases commentStart? cs with
  | none => rfl
  | some start => cases start <;> rfl

/-- A comment opens no group, and closes none. -/
theorem exists_cons_of_commentStart? {start : CommentStart} (h : commentStart? cs = some start) :
    ∃ cs', cs = '/' :: cs' := by
  cases cs with
  | nil => cases h
  | cons c cs =>
    by_cases hslash : c = '/'
    · exact ⟨cs, by rw [hslash]⟩
    · rw [commentStart?_of_ne hslash] at h
      cases h

/-- The open groups and the tokens after one more lexeme. -/
def advance (frames : List Frame) (done : List Token) : Lexeme → Option (List Frame × List Token)
  | .opens d => some ((d, done) :: frames, [])
  | .closes d =>
    match frames with
    | [] => none
    | (d', before) :: frames =>
      if d = d' then some (frames, .group d done.reverse :: before) else none
  | .word t => some (frames, t :: done)
  | .literal text => some (frames, .literal (String.ofList text) :: done)
  | .lineDoc inner text => some (frames, (docTokens inner text).reverse ++ done)
  | .blockDoc inner text =>
    some (frames, (docTokens inner (text.take (text.length - 2))).reverse ++ done)

variable {frames : List Frame} {done : List Token}

theorem build_append_atoms (frames : List Frame) (done : List Token) (l : Lexeme)
    (as : List Atom) : build frames done (l.atoms ++ as) =
      (advance frames done l).bind fun v => build v.1 v.2 as := by
  cases l with
  | opens d => rfl
  | closes d =>
    cases frames with
    | nil => rfl
    | cons frame frames =>
      rw [Lexeme.atoms, List.singleton_append, build, advance]
      split <;> rfl
  | word t => exact build_atoms t frames done as
  | literal text => rfl
  | lineDoc inner text => exact build_atomsAll _ frames done as
  | blockDoc inner text => exact build_atomsAll _ frames done as

/-- A lexeme of code adds its token to those read before. -/
theorem codeLexeme?_bind (c : Char) (cs : List Char) (n : Nat) :
    (codeLexeme? (c :: cs)).bind (fun v =>
      (advance frames done v.1).bind fun w => lexUpTo n w.1 w.2 v.2) =
    match Delimiter.ofOpening? c with
    | some d => lexUpTo n ((d, done) :: frames) [] cs
    | none =>
      match Delimiter.ofClosing? c, frames with
      | some d, (open_, before) :: frames =>
        if d = open_ then lexUpTo n frames (.group d done.reverse :: before) cs else none
      | some _, [] => none
      | none, _ =>
        match leaf? (c :: cs) with
        | some (t, rest) => lexUpTo n frames (t :: done) rest
        | none => none := by
  rw [codeLexeme?]
  cases Delimiter.ofOpening? c with
  | some d => rfl
  | none =>
    dsimp only
    cases Delimiter.ofClosing? c with
    | some d =>
      cases frames with
      | nil => rfl
      | cons frame frames =>
        dsimp only [Option.bind_some, advance]
        split <;> rfl
    | none =>
      dsimp only
      rw [leaf?]
      cases afterLiteral? (c :: cs) with
      | some r => rfl
      | none =>
        dsimp only
        cases punct? (c :: cs) with
        | some v => rfl
        | none => cases ident? (c :: cs) <;> rfl

/-- **One step** of the reader of token trees. -/
theorem lexUpTo_succ (n : Nat) (frames : List Frame) (done : List Token) (cs : List Char) :
    lexUpTo (n + 1) frames done cs =
      match skip cs with
      | [] => if frames = [] then some done.reverse else none
      | c :: cs => (lexeme? (c :: cs)).bind fun v =>
        (advance frames done v.1).bind fun w => lexUpTo n w.1 w.2 v.2 := by
  rw [lexUpTo, doc?_eq]
  cases skip cs with
  | nil => rfl
  | cons c cs =>
    dsimp only
    rw [lexeme?]
    cases hstart : commentStart? (c :: cs) with
    | none => exact (codeLexeme?_bind c cs n).symm
    | some start =>
      -- No comment is a leaf, so a comment that is no documentation is no token at all.
      have hnone : (match Delimiter.ofOpening? c with
          | some d => lexUpTo n ((d, done) :: frames) [] cs
          | none =>
            match Delimiter.ofClosing? c, frames with
            | some d, (open_, before) :: frames =>
              if d = open_ then lexUpTo n frames (.group d done.reverse :: before) cs else none
            | some _, [] => none
            | none, _ =>
              match leaf? (c :: cs) with
              | some (t, rest) => lexUpTo n frames (t :: done) rest
              | none => none) = none := by
        obtain ⟨cs', heq⟩ := exists_cons_of_commentStart? hstart
        obtain ⟨rfl, rfl⟩ := List.cons.inj heq
        rw [leaf?_of_commentStart? hstart]
        rfl
      cases start with
      | plainLine after => exact hnone
      | plainBlock after => exact hnone
      | docLine inner after =>
        dsimp only
        cases returnsEndLines (takeLine after).1 with
        | true => rfl
        | false => exact hnone
      | docBlock inner after =>
        dsimp only
        cases takeBlock 0 after with
        | none => exact hnone
        | some v =>
          simp only [Option.bind_some, Option.bind_eq_bind]
          cases returnsEndLines (v.1.take (v.1.length - 2)) with
          | true => rfl
          | false => exact hnone

/-- **The reader of token trees** reads lexemes and puts their atoms together. -/
theorem lexUpTo_eq (n : Nat) (frames : List Frame) (done : List Token) (cs : List Char) :
    lexUpTo n frames done cs =
      (lexemesUpTo n cs).bind fun ls => build frames done (ls.flatMap Lexeme.atoms) := by
  induction n generalizing frames done cs with
  | zero => rfl
  | succ n ih =>
    rw [lexUpTo_succ, lexemesUpTo]
    cases skip cs with
    | nil => rfl
    | cons c cs =>
      dsimp only
      cases lexeme? (c :: cs) with
      | none => rfl
      | some v =>
        simp only [Option.bind_some, ih, Option.bind_eq_bind, Option.pure_def]
        rw [Option.bind_comm, Option.bind_assoc]
        refine congrArg _ (funext fun ls => ?_)
        rw [Option.bind_some, List.flatMap_cons, build_append_atoms]

/-! ## Words are no literals -/

theorem exists_cons_of_name? {v : Ident × List Char} (h : name? cs = some v) :
    ∃ c cs', cs = c :: cs' ∧ isNameStart c = true := by
  cases cs with
  | nil => cases h
  | cons c cs =>
    refine ⟨c, cs, rfl, ?_⟩
    rw [name?] at h
    cases hdrop : dropStart? ['r', '#'] (c :: cs) with
    | some cs' =>
      rw [dropStart?] at hdrop
      split at hdrop
      next heq =>
        rw [← heq]
        decide
      next => cases hdrop
    | none =>
      rw [hdrop] at h
      obtain ⟨v', hname, -⟩ := Option.bind_eq_some_iff.mp h
      rw [bareName?] at hname
      split at hname
      next hstart => exact hstart
      next => cases hname

theorem head_of_opensString (h : opensString (c :: cs) = true) : c ∈ ['\x22', 'r', 'b', 'c'] := by
  have hheads : ∀ o ∈ literalOpeners,
      o.toList.head?.any (['\x22', 'r', 'b', 'c'].contains ·) = true := by
    decide
  rw [opensString, Bool.or_eq_true, List.any_eq_true] at h
  obtain h | ⟨o, ho, h⟩ := h
  · rw [startsWith, List.isPrefixOf_iff_prefix, List.cons_prefix_cons] at h
    rw [← h.1]
    exact List.mem_cons_self
  · obtain ⟨d, hhead, hd⟩ := (Option.any_eq_true _ _).mp (hheads o ho)
    obtain ⟨rest, hrest⟩ := List.head?_eq_some_iff.mp hhead
    rw [startsWith, List.isPrefixOf_iff_prefix, hrest, List.cons_prefix_cons] at h
    rw [← h.1]
    exact List.contains_iff_mem.mp hd

/-- No operator character opens a string, and ink follows a single quote that is one. -/
theorem opensString_of_punct? {t : Token} (h : punct? cs = some (t, r)) : opensString cs = false ∧
    ∀ cs', cs = '\x27' :: cs' → ∃ c cs'', cs' = c :: cs'' ∧ isBlank c = false := by
  obtain ⟨⟨c, after⟩, hpunct, h⟩ := Option.bind_eq_some_iff.mp h
  cases cs with
  | nil => cases hpunct
  | cons d cs =>
    rw [punctChar?_cons] at hpunct
    split_ifs at hpunct with _ hmem
    obtain ⟨rfl, rfl⟩ := Prod.mk.inj (Option.some.inj hpunct)
    constructor
    · rw [Bool.eq_false_iff]
      intro hopens
      have hnone : ∀ c ∈ ['\x22', 'r', 'b', 'c'], punctChars.contains c = false :=
        List.all_iff_forall_prop.mp (by decide)
      rw [hnone _ (head_of_opensString hopens)] at hmem
      cases hmem
    · rintro cs' heq
      obtain ⟨rfl, rfl⟩ := List.cons.inj heq
      dsimp only at h
      rw [if_pos rfl] at h
      obtain ⟨v, hname, -⟩ := Option.bind_eq_some_iff.mp h
      obtain ⟨c, cs', rfl, hc⟩ := exists_cons_of_name? hname
      refine ⟨c, cs', rfl, ?_⟩
      cases hblank : isBlank c with
      | false => rfl
      | true =>
        rw [not_isNameStart_of_isBlank hblank] at hc
        cases hc

/-- No name opens a string, and none begins with a single quote. -/
theorem opensString_of_ident? {v : Ident × List Char} (h : ident? cs = some v) :
    opensString cs = false ∧
      ∀ cs', cs = '\x27' :: cs' → ∃ c cs'', cs' = c :: cs'' ∧ isBlank c = false := by
  rw [ident?] at h
  split at h
  · cases h
  next hopeners =>
    obtain ⟨c, cs, rfl, hc⟩ := exists_cons_of_name? h
    constructor
    · have hquote : startsWith (c :: cs) ['\x22'] = false := by
        rw [Bool.eq_false_iff]
        intro hstart
        rw [startsWith, List.isPrefixOf_iff_prefix, List.cons_prefix_cons] at hstart
        rw [← hstart.1] at hc
        exact absurd hc (by decide)
      rw [opensString, hquote, Bool.false_or, Bool.eq_false_iff]
      exact hopeners
    · intro cs' heq
      rw [(List.cons.inj heq).1] at hc
      exact absurd hc (by decide)

/-! ## On lines that are written again -/

/-- **A lexeme of code** is mended on lines that are written again. -/
theorem codeLexeme?_relined {l : Lexeme} (h : codeLexeme? (c :: cs) = some (l, r))
    (hc : isBlank c = false) :
    codeLexeme? (relined z none (c :: cs)) = some (l.mend, relined z none r) := by
  have hcons := relined_none_cons (z := z) (show Inside c cs from .of_ink hc)
  rw [codeLexeme?] at h
  rw [hcons, codeLexeme?]
  cases hopening : Delimiter.ofOpening? c with
  | some d =>
    rw [hopening] at h
    obtain ⟨rfl, rfl⟩ := Prod.mk.inj (Option.some.inj h)
    rfl
  | none =>
    rw [hopening] at h
    dsimp only at h ⊢
    cases hclosing : Delimiter.ofClosing? c with
    | some d =>
      rw [hclosing] at h
      obtain ⟨rfl, rfl⟩ := Prod.mk.inj (Option.some.inj h)
      rfl
    | none =>
      rw [hclosing] at h
      dsimp only at h ⊢
      rw [← hcons]
      cases hliteral : afterLiteral? (c :: cs) with
      | some after =>
        rw [hliteral] at h
        obtain ⟨rfl, rfl⟩ := Prod.mk.inj (Option.some.inj h)
        rw [afterLiteral?_relined hliteral]
        obtain ⟨v, d, hd, heq⟩ := endsInk_of_afterLiteral? hliteral
        have hsplit : c :: cs = (v ++ [d]) ++ after := by
          rw [heq, List.append_assoc, List.singleton_append]
        have hsplit' : relined z none (c :: cs) = recut none (v ++ [d]) ++ relined z none after := by
          rw [heq, relined_append_ink v hd]
        dsimp only
        rw [hsplit', hsplit, List.length_append, List.length_append, Nat.add_sub_cancel,
          Nat.add_sub_cancel, List.take_left, List.take_left]
        rfl
      | none =>
        rw [hliteral] at h
        dsimp only at h
        cases hpunct : punct? (c :: cs) with
        | some v =>
          obtain ⟨hopens, hmark⟩ := opensString_of_punct? hpunct
          rw [hpunct] at h
          obtain ⟨rfl, rfl⟩ := Prod.mk.inj (Option.some.inj h)
          rw [afterLiteral?_relined_none hliteral hopens hmark, localTo_punct?.relined, hpunct]
          rfl
        | none =>
          rw [hpunct] at h
          obtain ⟨v, hident, h⟩ := Option.map_eq_some_iff.mp h
          obtain ⟨rfl, rfl⟩ := Prod.mk.inj h
          obtain ⟨hopens, hmark⟩ := opensString_of_ident? hident
          rw [afterLiteral?_relined_none hliteral hopens hmark, localTo_punct?.relined, hpunct,
            localTo_ident?.relined, hident]
          rfl

/-- A block keeps its end. -/
theorem exists_recut_block (v : List Char) : ∃ v', recut none (v ++ ['*']) = v' ++ ['*'] ∧
    recut none (v ++ ['*', '/']) = v' ++ ['*', '/'] := by
  have hstar : isBlank '*' = false := by decide
  obtain ⟨v', hv'⟩ := exists_recut_concat (s := none) v hstar
  refine ⟨v', hv', ?_⟩
  rw [recut_append_ink v hstar, hv', List.append_assoc]
  rfl

/-- The text of a documentation block stays the text of one. -/
theorem returnsEndLines_mend {v v' : List Char} (h : returnsEndLines v = true)
    (hv' : recut none (v ++ ['*']) = v' ++ ['*']) : returnsEndLines v' = true := by
  refine returnsEndLines_of_not_mem fun hmem => ?_
  refine return_not_mem_recut h (fun _ hheld => nomatch hheld) (by decide) (s := none) (c := '*') ?_
  rw [hv']
  exact List.mem_append_left _ hmem

/-- The text of a block is what stands before its end. -/
theorem take_block (v : List Char) :
    (v ++ ['*', '/']).take ((v ++ ['*', '/']).length - 2) = v := by
  rw [List.length_append, show ['*', '/'].length = 2 from rfl, Nat.add_sub_cancel, List.take_left]

/-- **A lexeme** is mended on lines that are written again. -/
theorem lexeme?_relined {l : Lexeme} (h : lexeme? (c :: cs) = some (l, r))
    (hstop : skipOnce? (c :: cs) = none) :
    lexeme? (relined z none (c :: cs)) = some (l.mend, relined z none r) ∧
      skipOnce? (relined z none (c :: cs)) = none := by
  have hstart := commentStart?_relined (z := z) (c :: cs)
  have hc := ink_of_skipOnce? hstop
  rw [lexeme?] at h ⊢
  unfold skipOnce?
  rw [hstart]
  cases hcomment : commentStart? (c :: cs) with
  | none =>
    rw [hcomment] at h
    refine ⟨codeLexeme?_relined h hc, ?_⟩
    rw [relined_none_cons (.of_ink hc)]
    dsimp only [Option.map_none]
    rw [if_neg]
    intro hseparates
    rw [skipOnce?_separator hseparates] at hstop
    cases hstop
  | some start =>
    rw [hcomment] at h
    cases start with
    | plainLine after => cases h
    | plainBlock after => cases h
    | docLine inner after =>
      refine ⟨?_, rfl⟩
      dsimp only [Option.map_some, CommentStart.onto] at h ⊢
      split at h
      next hreturns =>
        obtain ⟨rfl, rfl⟩ := Prod.mk.inj (Option.some.inj h)
        obtain hline | ⟨line, hline, -⟩ := takeLine_relined (z := z) after
        · rw [hline, if_pos hreturns]
          rfl
        · rw [hline, returnsEndLines_concat] at hreturns
          cases hreturns
      next => cases h
    | docBlock inner after =>
      refine ⟨?_, rfl⟩
      dsimp only [Option.map_some, CommentStart.onto] at h ⊢
      obtain ⟨⟨body, after'⟩, hblock, h⟩ := Option.bind_eq_some_iff.mp h
      dsimp only at h
      split at h
      next hreturns =>
        obtain ⟨rfl, rfl⟩ := Prod.mk.inj (Option.some.inj h)
        obtain ⟨-, v, rfl⟩ := append_of_takeBlock hblock
        rw [take_block] at hreturns
        obtain ⟨v', hstar, hend⟩ := exists_recut_block v
        rw [takeBlock_relined hblock heldBlank_none, Option.bind_eq_bind, Option.bind_some, hend]
        dsimp only
        rw [take_block, if_pos (returnsEndLines_mend hreturns hstar), ← hend]
        rfl
      next => cases h

/-! ## What mending changes -/

/-- Whether a lexeme has the end of one that was read. -/
def Lexeme.Whole : Lexeme → Prop
  | literal text => Solid text
  | blockDoc _ text => ∃ v, text = v ++ ['*', '/']
  | _ => True

theorem whole_of_codeLexeme? {l : Lexeme} (h : codeLexeme? cs = some (l, r)) : l.Whole := by
  rw [codeLexeme?.eq_def] at h
  split at h
  · cases h
  next c cs =>
    split at h
    · exact (Prod.mk.inj (Option.some.inj h)).1 ▸ trivial
    · split at h
      · exact (Prod.mk.inj (Option.some.inj h)).1 ▸ trivial
      · split at h
        next after hliteral =>
          obtain ⟨v, d, hd, heq⟩ := endsInk_of_afterLiteral? hliteral
          have hsplit : c :: cs = (v ++ [d]) ++ after := by
            rw [heq, List.append_assoc, List.singleton_append]
          rw [← (Prod.mk.inj (Option.some.inj h)).1, hsplit, List.length_append,
            Nat.add_sub_cancel, List.take_left]
          exact solid_concat.mpr hd
        next =>
          split at h
          · exact (Prod.mk.inj (Option.some.inj h)).1 ▸ trivial
          · obtain ⟨v, -, h⟩ := Option.map_eq_some_iff.mp h
            exact (Prod.mk.inj h).1 ▸ trivial

theorem whole_of_lexeme? {l : Lexeme} (h : lexeme? cs = some (l, r)) : l.Whole := by
  rw [lexeme?] at h
  split at h
  next =>
    split at h
    · exact (Prod.mk.inj (Option.some.inj h)).1 ▸ trivial
    · cases h
  next =>
    obtain ⟨⟨body, after⟩, hblock, h⟩ := Option.bind_eq_some_iff.mp h
    dsimp only at h
    split at h
    · exact (Prod.mk.inj (Option.some.inj h)).1 ▸ (append_of_takeBlock hblock).2
    · cases h
  next => cases h
  next => exact whole_of_codeLexeme? h

theorem atomsAll_docTokens_inj {inner : Bool} {v w : List Char}
    (h : atomsAll (docTokens inner v) = atomsAll (docTokens inner w)) : v = w := by
  have hquote : quote (String.ofList v) = quote (String.ofList w) := by
    have htokens := atomsAll_inj h
    cases inner <;> simpa [docTokens] using htokens
  exact String.ofList_injective (quote_inj hquote)

/-- **Mending** changes what a lexeme stands for exactly if the lexeme is torn. -/
theorem atoms_mend_iff {l : Lexeme} (h : l.Whole) : l.mend.atoms = l.atoms ↔ ¬l.Torn := by
  cases l with
  | opens | closes | word | lineDoc => exact ⟨fun _ => id, fun _ => rfl⟩
  | literal text =>
    rw [Lexeme.Torn, ← recut_eq_self_iff h]
    constructor
    · intro heq
      exact String.ofList_injective (by simpa [Lexeme.mend, Lexeme.atoms] using heq)
    · intro heq
      rw [Lexeme.mend, heq]
  | blockDoc inner text =>
    obtain ⟨v, rfl⟩ := h
    have hsolid : Solid (v ++ ['*', '/']) := by
      have hend := solid_concat (v := v ++ ['*']) (c := '/')
      rw [List.append_assoc] at hend
      exact hend.mpr (by decide)
    obtain ⟨v', -, hend⟩ := exists_recut_block v
    rw [Lexeme.Torn, ← recut_eq_self_iff hsolid, Lexeme.mend, Lexeme.atoms, Lexeme.atoms, hend,
      take_block, take_block]
    constructor
    · intro heq
      rw [atomsAll_docTokens_inj heq]
    · intro heq
      rw [List.append_cancel_right heq]

theorem length_atoms_mend (l : Lexeme) : l.mend.atoms.length = l.atoms.length := by
  cases l with
  | opens | closes | word | lineDoc | literal => rfl
  | blockDoc inner text => cases inner <;> simp [Lexeme.mend, Lexeme.atoms, docTokens, atomsAll, atoms]

/-- Lexemes that are mended stand for the same as before exactly if none of them is torn. -/
theorem flatMap_atoms_mend_iff {ls : List Lexeme} (h : ∀ l ∈ ls, l.Whole) :
    (ls.map Lexeme.mend).flatMap Lexeme.atoms = ls.flatMap Lexeme.atoms ↔
      ∀ l ∈ ls, ¬l.Torn := by
  induction ls with
  | nil => simp
  | cons l ls ih =>
    rw [List.forall_mem_cons] at h
    rw [List.map_cons, List.flatMap_cons, List.flatMap_cons, List.forall_mem_cons,
      ← atoms_mend_iff h.1, ← ih h.2]
    constructor
    · intro heq
      exact List.append_inj heq (length_atoms_mend l)
    · rintro ⟨hl, hls⟩
      rw [hl, hls]

/-! ## Whole texts -/

theorem lexemesUpTo_congr {cs' : List Char} (h : skip cs = skip cs') (n : Nat) :
    lexemesUpTo n cs = lexemesUpTo n cs' := by
  cases n with
  | zero => rfl
  | succ n => rw [lexemesUpTo, lexemesUpTo, h]

theorem lexemesUpTo_succ_of_skip {n : Nat} (h : skip cs = c :: r) :
    lexemesUpTo (n + 1) cs = (lexeme? (c :: r)).bind fun v =>
      (lexemesUpTo n v.2).map (v.1 :: ·) := by
  rw [lexemesUpTo, h]
  dsimp only
  cases lexeme? (c :: r) with
  | none => rfl
  | some v =>
    rw [Option.bind_eq_bind, Option.bind_some, Option.bind_some]
    cases lexemesUpTo n v.2 <;> rfl

/-- The lexemes of a text, one after the other. -/
theorem lexemesUpTo_cases {n : Nat} {ls : List Lexeme} (h : lexemesUpTo (n + 1) cs = some ls) :
    (skip cs = [] ∧ ls = []) ∨ ∃ c cs' l r ls', skip cs = c :: cs' ∧
      lexeme? (c :: cs') = some (l, r) ∧ lexemesUpTo n r = some ls' ∧ ls = l :: ls' := by
  cases hskip : skip cs with
  | nil =>
    rw [lexemesUpTo, hskip] at h
    exact .inl ⟨rfl, (Option.some.inj h).symm⟩
  | cons c cs' =>
    rw [lexemesUpTo_succ_of_skip hskip] at h
    obtain ⟨⟨l, r⟩, hl, h⟩ := Option.bind_eq_some_iff.mp h
    obtain ⟨ls', hls', rfl⟩ := Option.map_eq_some_iff.mp h
    exact .inr ⟨c, cs', l, r, ls', rfl, hl, hls', rfl⟩

theorem lexemesUpTo_mono {n m : Nat} {ls : List Lexeme} (h : lexemesUpTo n cs = some ls)
    (hle : n ≤ m) : lexemesUpTo m cs = some ls := by
  induction n generalizing m cs ls with
  | zero => cases h
  | succ n ih =>
    obtain ⟨m, rfl⟩ := Nat.exists_eq_succ_of_ne_zero (Nat.ne_zero_of_lt hle)
    obtain ⟨hskip, rfl⟩ | ⟨c, cs', l, r, ls', hskip, hl, hls', rfl⟩ := lexemesUpTo_cases h
    · rw [lexemesUpTo, hskip]
    · rw [lexemesUpTo_succ_of_skip hskip, hl, Option.bind_some,
        ih hls' (Nat.le_of_succ_le_succ hle), Option.map_some]

theorem whole_of_lexemesUpTo {n : Nat} {ls : List Lexeme} (h : lexemesUpTo n cs = some ls) :
    ∀ l ∈ ls, l.Whole := by
  induction n generalizing cs ls with
  | zero => cases h
  | succ n ih =>
    obtain ⟨-, rfl⟩ | ⟨c, cs', l, r, ls', -, hl, hls', rfl⟩ := lexemesUpTo_cases h
    · exact List.forall_mem_nil _
    · exact List.forall_mem_cons.mpr ⟨whole_of_lexeme? hl, ih hls'⟩

/-- **The lexemes of a text** whose lines are written again are mended, and the lexemes of what
follows it come after them. -/
theorem lexemesUpTo_relined {n m : Nat} {ls ls' : List Lexeme} (h : lexemesUpTo n cs = some ls)
    (hz : lexemesUpTo m z = some ls') (hs : HeldBlank s) :
    lexemesUpTo (n + m) (relined z s cs) = some (ls.map Lexeme.mend ++ ls') := by
  induction n generalizing cs s ls with
  | zero => cases h
  | succ n ih =>
    have hskip' : skip (relined z s cs) = _ := skip_relined hs
    obtain ⟨hskip, rfl⟩ | ⟨c, cs', l, r, ls'', hskip, hl, hls, rfl⟩ := lexemesUpTo_cases h
    · rw [hskip, relined_nil, skip_of_some (skipOnce?_separator (by decide) z)] at hskip'
      rw [lexemesUpTo_congr hskip', List.map_nil, List.nil_append]
      exact lexemesUpTo_mono hz (by omega)
    · have hstop := skipOnce?_skip cs
      rw [hskip] at hskip' hstop
      obtain ⟨hl', hstop'⟩ := lexeme?_relined (z := z) hl hstop
      rw [skip_of_none hstop', relined_none_cons (.of_ink (ink_of_skipOnce? hstop))] at hskip'
      rw [relined_none_cons (.of_ink (ink_of_skipOnce? hstop))] at hl'
      rw [Nat.add_right_comm, lexemesUpTo_succ_of_skip hskip', hl', Option.bind_some,
        ih hls heldBlank_none, Option.map_some, List.map_cons, List.cons_append]

end RestLoom.Token
