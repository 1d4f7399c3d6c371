import Mathlib.Data.Bool.AllAny
import RestLoom.Emit.Units
import RestLoom.Proofs.Layout.Sweep
import RestLoom.Proofs.Source.File
import RestLoom.Proofs.Text.Ascii

/-!
# Proofs/Emit/ClientUnit — what a client unit reads as

    imports, use items, trait, contract, client  ──clientUnit──▸ contents ──lex?──▸ their tokens?

The parts of a unit are laid out and then written line by line, with no regard to tokens that go on
over several lines.  So the unit reads as its parts, one after the other, exactly if no part holds a
literal or a documentation comment that is torn (`clientUnit_reads_iff`).
-/

namespace RestLoom.Emit

open RestLoom.Text
open RestLoom.Token (Ident)
open RestLoom.Source

/-! ## Lines of a text -/

/-- The text of lines that are written at no depth. -/
def writtenAt0 (ls : List Line) : List Char := ls.flatMap fun l => Piece.indented 0 l ++ ['\n']

theorem indented_zero_of_blank {l : Line} (h : ∀ c ∈ l, isBlank c = true) :
    Piece.indented 0 l = [] := if_pos (List.all_eq_true.mpr h)

theorem indented_zero_of_ink {l : Line} {c : Char} (hmem : c ∈ l) (hc : isBlank c = false) :
    Piece.indented 0 l = l := by
  rw [Piece.indented, if_neg]
  · rfl
  · intro hall
    rw [List.all_eq_true.mp hall c hmem] at hc
    cases hc

/-- What a text with a first line and others is, written again. -/
structure WritesLines (text : List Char) (first : Line) (others : List Line) : Prop where
  begun : recut none text ++ ['\n'] = first ++ '\n' :: writtenAt0 others
  held : ∀ held, (∀ c ∈ held, isBlank c = true) → recut (some held) text ++ ['\n'] =
    Piece.indented 0 (held ++ first) ++ '\n' :: writtenAt0 others

variable {text cs : List Char} {first : Line} {others : List Line} {c : Char}

theorem WritesLines.of_feed (h : WritesLines cs first others)
    (hfeed : ∀ s, recut s text = '\n' :: recut (some []) cs) :
    WritesLines text [] (first :: others) := by
  have hrest : recut (some []) cs ++ ['\n'] = writtenAt0 (first :: others) := by
    rw [h.held [] (List.forall_mem_nil _), List.nil_append]
    simp [writtenAt0]
  constructor
  · rw [hfeed, List.cons_append, hrest, List.nil_append]
  · intro held hheld
    rw [hfeed, List.cons_append, hrest, List.append_nil, indented_zero_of_blank hheld,
      List.nil_append]

theorem WritesLines.of_inside (h : WritesLines cs first others) (hc : Inside c cs) :
    WritesLines (c :: cs) (c :: first) others := by
  constructor
  · rw [recut_none_cons hc, List.cons_append, h.begun, List.cons_append]
  · intro held hheld
    rw [recut_some_cons hc]
    split
    next hblank =>
      rw [h.held (held ++ [c]) (List.forall_mem_append.mpr
        ⟨hheld, List.forall_mem_singleton.mpr hblank⟩), List.append_assoc, List.singleton_append]
    next hink =>
      rw [indented_zero_of_ink (List.mem_append_right held List.mem_cons_self)
        (Bool.eq_false_iff.mpr hink), List.append_assoc, List.cons_append, h.begun,
        List.append_assoc, List.cons_append]

theorem writesLines_ink (hc : isBlank c = false) : WritesLines [c] [c] [] := by
  constructor
  · rw [recut_none_cons (.of_ink hc), recut_nil]
    rfl
  · intro held _
    rw [recut_some_ink hc, recut_none_cons (.of_ink hc), recut_nil,
      indented_zero_of_ink (List.mem_append_right held List.mem_cons_self) hc, List.append_assoc,
      List.append_assoc]
    rfl

/-- **The lines of a text** that does not end in a blank. -/
theorem exists_writesLines (hsolid : Solid text) (hne : text ≠ []) :
    ∃ first others, lines text = first :: others ∧ WritesLines text first others := by
  induction text using line_induction with
  | nil => exact absurd rfl hne
  | feed cs ih =>
    have hne : cs ≠ [] := by
      rintro rfl
      exact absurd (hsolid '\n' rfl) (by decide)
    obtain ⟨first, others, hlines, hwrites⟩ := ih hsolid.of_cons hne
    exact ⟨[], first :: others, by rw [lines, hlines], hwrites.of_feed fun s => recut_feed⟩
  | return_feed cs ih =>
    have hne : cs ≠ [] := by
      rintro rfl
      exact absurd (hsolid '\n' rfl) (by decide)
    obtain ⟨first, others, hlines, hwrites⟩ := ih hsolid.of_cons.of_cons hne
    exact ⟨[], first :: others, by rw [lines, hlines], hwrites.of_feed fun s => recut_return_feed⟩
  | inside c cs hc ih =>
    rw [lines_cons_of_inside hc]
    by_cases hnil : cs = []
    · subst hnil
      exact ⟨[c], [], rfl, writesLines_ink (hsolid c rfl)⟩
    · obtain ⟨first, others, hlines, hwrites⟩ := ih hsolid.of_cons hnil
      rw [hlines]
      exact ⟨c :: first, others, rfl, hwrites.of_inside hc⟩

/-- **A text at no depth** has its blank lines emptied and its line ends made line feeds. -/
theorem flatMap_textLines (h : Solid text) :
    ((Piece.textLines 0 text).flatMap fun l => l ++ ['\n']) = recut (some []) text ++ ['\n'] := by
  rw [Piece.textLines]
  split
  next hnil =>
    subst hnil
    rfl
  next hne =>
    obtain ⟨first, others, hlines, hwrites⟩ := exists_writesLines h hne
    rw [hwrites.held [] (List.forall_mem_nil _), hlines, List.map_cons, List.flatMap_cons,
      List.flatMap_map, List.nil_append, writtenAt0, List.append_assoc, List.singleton_append]

/-! ## Items -/

/-- The items that tokens form, told by their tokens; each string literal is written in one way, so
that only its value counts. -/
def itemTokens? (ts : List Token) : Option (List Token) :=
  match File.ofTokens ts with
  | .ok f => some (Token.respellAll f.tokens)
  | .error _ => none

/-- Whether two sequences of tokens form the same items. -/
def SameItems (ts us : List Token) : Prop :=
  (itemTokens? ts).isSome ∧ itemTokens? ts = itemTokens? us

instance (ts us : List Token) : Decidable (SameItems ts us) :=
  inferInstanceAs (Decidable (_ ∧ _))

/-! ## Pieces of a unit -/

/-- The layout of items, without the blanks at its end. -/
def layoutOf (tokens : Except ReadError (List Token)) : List Char :=
  match tokens.bind File.ofTokens with
  | .ok f => ((Layout.ofFile f).map fun text => dropEndWhile isBlank text.toList).getD []
  | .error _ => []

/-- The line of a comment. -/
def commentLine (l : Line) : Line := if l = [] then ['/', '/'] else ['/', '/', ' '] ++ l

namespace Piece

/-- The text that a piece cuts into lines; a block has none of its own. -/
def sourceText : Piece → List Char
  | line text => text.toList
  | comment text => join ['\n'] ((lines text.toList).map commentLine)
  | items tokens => layoutOf tokens
  | blank | block _ _ | tellDepth => []

/-- The tokens that a piece is read as when it stands alone. -/
def readTokens (p : Piece) : List Token := Token.treesOf p.sourceText

/-- **Whether a piece reads back** when it stands alone: its text has tokens, and if it was laid out
for items, these tokens form the same items. -/
structure ReadsBack (p : Piece) : Prop where
  hasTokens : (Token.trees? p.sourceText).isSome
  sameItems : ∀ ts, p = itemsPiece ts → SameItems ts p.readTokens

/-- Whether a piece writes its text and a line end. -/
structure WritesText (p : Piece) : Prop where
  solid : Solid p.sourceText
  written : (p.linesAt 0).flatMap (fun l => l ++ ['\n']) = recut (some []) p.sourceText ++ ['\n']

theorem writesText_line {text : String} (h : Solid text.toList) : (line text).WritesText :=
  ⟨h, flatMap_textLines h⟩

theorem writesText_blank : blank.WritesText := ⟨fun _ hc => (nomatch hc), rfl⟩

theorem writesText_notice : (comment notice).WritesText := by
  have hsource : (comment notice).sourceText = ("// " ++ notice).toList := rfl
  have hlines : (comment notice).linesAt 0 = Piece.textLines 0 ("// " ++ notice).toList := rfl
  have hsolid : Solid ("// " ++ notice).toList := by decide
  exact ⟨hsource ▸ hsolid, by rw [hsource, hlines, flatMap_textLines hsolid]⟩

theorem solid_dropEndWhile (cs : List Char) : Solid (dropEndWhile isBlank cs) := by
  intro c hc
  rw [dropEndWhile, List.getLast?_reverse, Option.mem_def] at hc
  have hhead := List.head?_dropWhile_not isBlank cs.reverse
  rw [hc] at hhead
  simpa using hhead

/-- Items are laid out when they form a file that has a layout. -/
theorem itemLines_eq_ok {depth : Nat} {tokens : Except ReadError (List Token)} {ls : List Line}
    (h : itemLines depth tokens = .ok ls) :
    ls = textLines depth (layoutOf tokens) ∧ Solid (layoutOf tokens) := by
  obtain ⟨f, hf, h⟩ := Outcome.bind_eq_ok.mp h
  rw [layoutOf]
  cases htokens : tokens.bind File.ofTokens with
  | error e =>
    rw [htokens] at hf
    cases hf
  | ok f' =>
    rw [htokens] at hf
    obtain rfl := Except.ok.inj hf
    dsimp only at h ⊢
    cases hlayout : Layout.ofFile f' with
    | none =>
      rw [hlayout] at h
      cases h
    | some text =>
      rw [hlayout] at h
      exact ⟨(Except.ok.inj h).symm, solid_dropEndWhile text.toList⟩

theorem linesAt_items {depth : Nat} {tokens : Except ReadError (List Token)} {ls : List Line}
    (h : itemLines depth tokens = .ok ls) :
    linesAt depth (.items tokens) = textLines depth (layoutOf tokens) := by
  rw [linesAt, h]
  exact (itemLines_eq_ok h).1

theorem linesAllAt_append (depth : Nat) (ps qs : List Piece) :
    linesAllAt depth (ps ++ qs) = linesAllAt depth ps ++ linesAllAt depth qs := by
  induction ps with
  | nil => rfl
  | cons p ps ih => rw [List.cons_append, linesAllAt, linesAllAt, ih, List.append_assoc]

theorem writesText_items {tokens : Except ReadError (List Token)} {ls : List Line}
    (h : itemLines 0 tokens = .ok ls) : (items tokens).WritesText := by
  have hsolid := (itemLines_eq_ok h).2
  refine ⟨hsolid, ?_⟩
  rw [linesAt_items h]
  exact flatMap_textLines hsolid

end Piece

/-- **Pieces that are built** have all their items laid out. -/
theorem buildText_eq_ok {ps : List Piece} {text : String} (h : buildText ps = .ok text) :
    text = textOfLines (Piece.linesAllAt 0 ps) ∧
      ∀ tokens, .items tokens ∈ ps → ∃ ls, Piece.itemLines 0 tokens = .ok ls := by
  rw [buildText] at h
  split at h
  · cases h
  next hnone =>
    refine ⟨(Except.ok.inj h).symm, fun tokens hmem => ?_⟩
    rw [List.findSome?_eq_none_iff] at hnone
    have hreports : ∀ r ∈ Piece.reportsAt 0 (.items tokens), r ∈ Piece.reportsAllAt 0 ps := by
      clear hnone h
      induction ps with
      | nil => cases hmem
      | cons p ps ih =>
        intro r hr
        rw [Piece.reportsAllAt, List.mem_append]
        obtain rfl | hmem := List.mem_cons.mp hmem
        · exact .inl hr
        · exact .inr (ih hmem r hr)
    cases hlines : Piece.itemLines 0 tokens with
    | ok ls => exact ⟨ls, rfl⟩
    | error e =>
      have hreport := hnone (.failure e) (hreports _ (by rw [Piece.reportsAt, hlines]; simp))
      cases hreport

/-- **What is built** of pieces is their texts, written again line by line. -/
theorem toList_textOfLines {ps : List Piece} (h : ∀ p ∈ ps, p.WritesText) :
    (textOfLines (Piece.linesAllAt 0 ps)).toList =
      Token.relineAll (ps.map Piece.sourceText) := by
  rw [textOfLines, String.toList_ofList]
  induction ps with
  | nil => rfl
  | cons p ps ih =>
    rw [List.forall_mem_cons] at h
    rw [Piece.linesAllAt, List.flatMap_append, h.1.written, ih h.2, List.map_cons,
      Token.relineAll, relined, List.append_assoc, List.singleton_append]

/-! ## Client units -/

section
variable {decl : TraitDecl} {s : Service} {client : Ident} {uses : List Node}
  {imports : List String}

/-- Of a trait, the pieces of a client unit hold no more than what it is written as. -/
theorem clientPieces_congr {decl' : TraitDecl}
    (h : (serviceTrait { decl with visibility := widened decl.visibility }).toNode.tokens =
      (serviceTrait { decl' with visibility := widened decl'.visibility }).toNode.tokens) :
    clientPieces decl s client uses imports = clientPieces decl' s client uses imports := by
  rw [clientPieces, clientPieces, h]

/-- The pieces of a client unit are its notice, blank lines, imports, and items. -/
theorem mem_clientPieces {p : Piece} (h : p ∈ clientPieces decl s client uses imports) :
    p = .comment notice ∨ p = .blank ∨ (∃ text : String, Solid text.toList ∧ p = .line text) ∨
      ∃ ts, p = itemsPiece ts := by
  have hblank : p = .blank → p = .comment notice ∨ p = .blank ∨
      (∃ text : String, Solid text.toList ∧ p = .line text) ∨ ∃ ts, p = itemsPiece ts :=
    fun h => .inr (.inl h)
  have hitems {ts : List Token} (h : p = itemsPiece ts) : p = .comment notice ∨ p = .blank ∨
      (∃ text : String, Solid text.toList ∧ p = .line text) ∨ ∃ ts, p = itemsPiece ts :=
    .inr (.inr (.inr ⟨ts, h⟩))
  simp only [clientPieces, List.mem_append, List.mem_cons, List.mem_flatMap, List.not_mem_nil,
    or_false] at h
  obtain ((((h | h) | ⟨i, -, h | h⟩) | h) | h) | h | h | h | h | h := h
  · exact .inl h
  · exact hblank h
  · exact .inr (.inr (.inl ⟨_, by decide, h⟩))
  · refine .inr (.inr (.inl ⟨_, ?_, h⟩))
    have hend : ("use " ++ i ++ "::*;").toList = ("use " ++ i ++ "::*").toList ++ [';'] := by
      simp only [String.toList_append, List.append_assoc]
      rfl
    rw [hend, solid_concat]
    decide
  · split at h
    · cases h
    · exact hitems (List.mem_singleton.mp h)
  · split at h
    · cases h
    · exact hblank (List.mem_singleton.mp h)
  · exact hitems h
  · exact hblank h
  · exact hitems h
  · exact hblank h
  · exact hitems h

/-- Every piece of a client unit that is built writes its text. -/
theorem writesText_of_mem_clientPieces {text : String} {p : Piece}
    (h : buildText (clientPieces decl s client uses imports) = .ok text)
    (hp : p ∈ clientPieces decl s client uses imports) : p.WritesText := by
  obtain rfl | rfl | ⟨line, hsolid, rfl⟩ | ⟨ts, rfl⟩ := mem_clientPieces hp
  · exact Piece.writesText_notice
  · exact Piece.writesText_blank
  · exact Piece.writesText_line hsolid
  · obtain ⟨ls, hls⟩ := (buildText_eq_ok h).2 (.ok ts) hp
    exact Piece.writesText_items hls

/-- What a unit is checked for: its pieces are built, and their text reads as a file. -/
theorem checkedText_eq_ok {ps : List Piece} {text : String} :
    checkedText ps = .ok text ↔ buildText ps = .ok text ∧ ∃ f, File.ofText text = .ok f := by
  rw [checkedText]
  constructor
  · intro h
    obtain ⟨built, hbuilt, h⟩ := Outcome.bind_eq_ok.mp h
    obtain ⟨f, hf, h⟩ := Outcome.bind_eq_ok.mp h
    obtain rfl := Except.ok.inj h
    exact ⟨Outcome.mapError_eq_ok.mp hbuilt, f, Outcome.mapError_eq_ok.mp hf⟩
  · rintro ⟨hbuilt, f, hf⟩
    rw [hbuilt]
    change (do
      let _ ← (File.ofText text).mapError fun e => Halt.ofFault (.invalid e)
      return text) = _
    rw [hf]
    rfl

/-- A text that begins with a comment is checked character by character. -/
theorem exists_checkedText {ps : List Piece} {text : String} {cs : List Char}
    (hbuild : buildText ps = .ok text) (hcomment : text.toList = '/' :: cs)
    (hread : (match Token.trees? ('/' :: cs) with
      | some ts => (File.ofTokens ts).isOk
      | none => false) = true) :
    ∃ text, checkedText ps = .ok text ∧ text.toList = '/' :: cs := by
  refine ⟨text, checkedText_eq_ok.mpr ⟨hbuild, ?_⟩, hcomment⟩
  split at hread
  next ts hts =>
    rw [← hcomment, ← lex?_of_comment hcomment] at hts
    rw [ofText_of_tokens hcomment hts]
    cases hf : File.ofTokens ts with
    | error e =>
      rw [hf] at hread
      cases hread
    | ok f => exact ⟨f, rfl⟩
  next => cases hread

theorem clientUnit_eq_ok {modules : List Ident} {u : SourceUnit}
    (h : clientUnit modules decl s client uses imports = .ok u) :
    buildText (clientPieces decl s client uses imports) = .ok u.contents ∧
      ∃ f, File.ofText u.contents = .ok f := by
  obtain ⟨text, htext, h⟩ := Outcome.bind_eq_ok.mp h
  obtain rfl := Except.ok.inj h
  exact checkedText_eq_ok.mp htext

/-- The text of a client unit begins with a comment. -/
theorem exists_toList_of_clientPieces (texts : List (List Char)) :
    ∃ cs, Token.relineAll ((Piece.comment notice).sourceText :: texts) = '/' :: cs := by
  have hsource : ∃ cs, (Piece.comment notice).sourceText = '/' :: cs := by
    exact ⟨(Piece.comment notice).sourceText.tail, rfl⟩
  obtain ⟨cs, hcs⟩ := hsource
  rw [Token.relineAll, hcs, relined_some_ink (by decide), List.nil_append,
    relined_none_cons (.of_ink (by decide))]
  exact ⟨_, rfl⟩

/-- **Whether a text reads as pieces** that stand one after the other: its tokens are theirs, it is
the file that these tokens form, and what was laid out for items forms the same items. -/
structure ReadsAs (text : String) (ps : List Piece) : Prop where
  tokens : Token.lex? text = some (ps.flatMap Piece.readTokens)
  file : File.ofText text = File.ofTokens (ps.flatMap Piece.readTokens)
  sameItems : ∀ ts, itemsPiece ts ∈ ps → SameItems ts (itemsPiece ts).readTokens

/-- **What a client unit reads as.** If each of its pieces reads back when it stands alone, the unit
reads as its pieces in order, exactly if no piece holds a literal or a documentation comment with a
line of nothing but blanks or a carriage return at a line end. -/
theorem clientUnit_reads_iff {modules : List Ident} {u : SourceUnit}
    (hunit : clientUnit modules decl s client uses imports = .ok u)
    (hback : ∀ p ∈ clientPieces decl s client uses imports, p.ReadsBack) :
    ReadsAs u.contents (clientPieces decl s client uses imports) ↔
      ∀ p ∈ clientPieces decl s client uses imports,
        ∀ l ∈ Token.lexemesOf p.sourceText, ¬l.Torn := by
  obtain ⟨hbuilt, f, hfile⟩ := clientUnit_eq_ok hunit
  have hlist : u.contents.toList =
      Token.relineAll ((clientPieces decl s client uses imports).map Piece.sourceText) := by
    rw [(buildText_eq_ok hbuilt).1]
    exact toList_textOfLines fun p hp => writesText_of_mem_clientPieces hbuilt hp
  obtain ⟨cs, hcs⟩ := exists_toList_of_clientPieces
    (((clientPieces decl s client uses imports).tail).map Piece.sourceText)
  have hcomment : u.contents.toList = '/' :: cs := hlist.trans hcs
  obtain ⟨ts, hts⟩ := exists_tokens_of_ofText hcomment hfile
  rw [lex?_of_comment hcomment, hlist] at hts
  have hiff := Token.trees?_relineAll_iff
    (List.forall_mem_map.mpr fun p hp => (hback p hp).hasTokens)
    (Option.isSome_iff_exists.mpr ⟨ts, hts⟩)
  rw [List.forall_mem_map, ← hlist, ← lex?_of_comment hcomment, List.flatMap_map] at hiff
  rw [← hiff]
  exact ⟨fun h => h.tokens, fun h => ⟨h, ofText_of_tokens hcomment h,
    fun ts hts => (hback _ hts).sameItems ts rfl⟩⟩

end

/-! ## A unit that is torn -/

/-- Items that are laid out as a text, once its blank end is dropped. -/
def LaidOutAs (cs : List Char) (ts : List Token) : Prop :=
  ∃ f text, File.ofTokens ts = .ok f ∧ Layout.ofFile f = some text ∧
    dropEndWhile isBlank text.toList = cs

/-- Whether items are laid out as a text of ASCII, seen while it is printed. -/
def isSetAs (cs : List Char) (ts : List Token) : Bool :=
  match File.ofTokens ts with
  | .ok f => !Node.anyVerbatim f.toNodes && Layout.setsAs .empty (cs ++ ['\n']) (Layout.fileDoc f) &&
      dropEndWhile isBlank (cs ++ ['\n']) = cs
  | .error _ => false

theorem laidOutAs_of_isSetAs {cs : List Char} {ts : List Token} (h : isSetAs cs ts = true) :
    LaidOutAs cs ts := by
  rw [isSetAs] at h
  split at h
  next f hf =>
    rw [Bool.and_eq_true, Bool.and_eq_true, Bool.not_eq_true', decide_eq_true_iff] at h
    obtain ⟨⟨hplain, hset⟩, hend⟩ := h
    refine ⟨f, Layout.render (Layout.fileDoc f), hf, ?_, ?_⟩
    · rw [Layout.ofFile, hplain, if_neg Bool.false_ne_true]
    · rw [Layout.toList_render_of_setsAs hset, hend]
  next => cases h

/-- Whether the tokens of a text form the same items. -/
def readsAs (cs : List Char) (ts : List Token) : Bool :=
  (Token.trees? cs).isSome && decide (SameItems ts (Token.treesOf cs))

namespace LaidOutAs

variable {cs : List Char} {ts : List Token}

theorem itemLines_eq (h : LaidOutAs cs ts) (depth : Nat) :
    Piece.itemLines depth (.ok ts) = .ok (Piece.textLines depth cs) := by
  obtain ⟨f, text, hf, htext, rfl⟩ := h
  have hfile : Except.bind (.ok ts) File.ofTokens = .ok f := hf
  rw [Piece.itemLines, hfile]
  simp only [Except.mapError, bind, Except.bind, htext]
  rfl

theorem reportsAt_eq (h : LaidOutAs cs ts) : Piece.reportsAt 0 (itemsPiece ts) = [] := by
  rw [itemsPiece, Piece.reportsAt, h.itemLines_eq]

theorem linesAt_eq (h : LaidOutAs cs ts) :
    Piece.linesAt 0 (itemsPiece ts) = Piece.textLines 0 cs := by
  rw [itemsPiece, Piece.linesAt, h.itemLines_eq]
  rfl

theorem sourceText_eq (h : LaidOutAs cs ts) : (itemsPiece ts).sourceText = cs := by
  obtain ⟨f, text, hf, htext, rfl⟩ := h
  change layoutOf (.ok ts) = _
  rw [layoutOf]
  change (match File.ofTokens ts with
    | .ok f => ((Layout.ofFile f).map fun (text : String) =>
        dropEndWhile isBlank text.toList).getD []
    | .error _ => []) = _
  rw [hf]
  dsimp only
  rw [htext]
  rfl

theorem readsBack (h : LaidOutAs cs ts) (hreads : readsAs cs ts = true) :
    (itemsPiece ts).ReadsBack := by
  simp only [readsAs, Bool.and_eq_true, decide_eq_true_eq] at hreads
  refine ⟨by rw [h.sourceText_eq]; exact hreads.1, fun us hus => ?_⟩
  obtain rfl : ts = us := Except.ok.inj (Piece.items.inj hus)
  rw [Piece.readTokens, h.sourceText_eq]
  exact hreads.2

end LaidOutAs

theorem reportsAllAt_eq_nil {ps : List Piece} (h : ∀ p ∈ ps, Piece.reportsAt 0 p = []) :
    Piece.reportsAllAt 0 ps = [] := by
  induction ps with
  | nil => rfl
  | cons p ps ih =>
    rw [List.forall_mem_cons] at h
    rw [Piece.reportsAllAt, h.1, ih h.2, List.append_nil]

/-- Pieces without a report are built. -/
theorem buildText_of_reportsAllAt {ps : List Piece} (h : Piece.reportsAllAt 0 ps = []) :
    buildText ps = .ok (textOfLines (Piece.linesAllAt 0 ps)) := by
  rw [buildText, h]
  rfl

/-- The pieces of a unit of items, each of them with its text. -/
def unitPieces (parts : List (List Token × List Char)) : List Piece :=
  .comment notice :: parts.flatMap fun part => [.blank, itemsPiece part.1]

/-- The text of such a unit. -/
def unitText (parts : List (List Token × List Char)) : List Char :=
  Token.relineAll ((Piece.comment notice).sourceText :: parts.flatMap fun part => [[], part.2])

section
variable {parts : List (List Token × List Char)}

theorem mem_unitPieces {p : Piece} (h : p ∈ unitPieces parts) :
    p = .comment notice ∨ p = .blank ∨ ∃ part ∈ parts, p = itemsPiece part.1 := by
  rw [unitPieces, List.mem_cons, List.mem_flatMap] at h
  obtain h | ⟨part, hpart, h⟩ := h
  · exact .inl h
  · rw [List.mem_pair] at h
    exact .inr (h.imp_right fun h => ⟨part, hpart, h⟩)

theorem reportsAllAt_unitPieces (hlaid : ∀ part ∈ parts, LaidOutAs part.2 part.1) :
    Piece.reportsAllAt 0 (unitPieces parts) = [] := by
  refine reportsAllAt_eq_nil fun p hp => ?_
  obtain rfl | rfl | ⟨part, hpart, rfl⟩ := mem_unitPieces hp
  · rfl
  · rfl
  · exact (hlaid part hpart).reportsAt_eq

theorem writesText_of_mem_unitPieces (hlaid : ∀ part ∈ parts, LaidOutAs part.2 part.1) {p : Piece}
    (hp : p ∈ unitPieces parts) : p.WritesText := by
  obtain rfl | rfl | ⟨part, hpart, rfl⟩ := mem_unitPieces hp
  · exact Piece.writesText_notice
  · exact Piece.writesText_blank
  · exact Piece.writesText_items ((hlaid part hpart).itemLines_eq 0)

theorem map_sourceText_unitPieces (hlaid : ∀ part ∈ parts, LaidOutAs part.2 part.1) :
    (unitPieces parts).map Piece.sourceText =
      (Piece.comment notice).sourceText :: parts.flatMap fun part => [[], part.2] := by
  rw [unitPieces, List.map_cons, List.map_flatMap]
  refine congrArg _ (List.flatMap_congr fun part hpart => ?_)
  rw [List.map_cons, List.map_singleton, (hlaid part hpart).sourceText_eq]
  rfl

/-- **Items that are laid out** are built into the text of their unit, if that reads as a file. -/
theorem exists_checkedText_unitPieces (hlaid : ∀ part ∈ parts, LaidOutAs part.2 part.1)
    (hread : (match Token.trees? (unitText parts) with
      | some ts => (File.ofTokens ts).isOk
      | none => false) = true) :
    ∃ text, checkedText (unitPieces parts) = .ok text ∧ text.toList = unitText parts := by
  obtain ⟨cs, hcs⟩ := exists_toList_of_clientPieces (parts.flatMap fun part => [[], part.2])
  have htext : unitText parts = '/' :: cs := hcs
  rw [htext] at hread ⊢
  refine exists_checkedText (buildText_of_reportsAllAt (reportsAllAt_unitPieces hlaid)) ?_ hread
  rw [toList_textOfLines fun p hp => writesText_of_mem_unitPieces hlaid hp,
    map_sourceText_unitPieces hlaid, hcs]

end

/-- A trait with a constant that holds a line of one blank. -/
def memoTrait : TraitDecl where
  attributes := []
  visibility := .inherited
  isUnsafe := false
  isAuto := false
  name := .plain "A"
  generics := none
  supertraits := []
  trailingPlus := false
  whereClause := none
  items := [.other (.phrase .constItem
    [.word "const", .ident (.plain "NOTE"), .op ":", .phrase .pathType [identPath (.plain "Text")],
      .op "=", .literal "\x22a\n \nb\x22", .op ";"])]

/-- The service of the trait. -/
def memoService : Service := ⟨.plain "A", .inherited, none, [], []⟩

/-- The name of the service's client. -/
def memoClient : Ident := .plain "AGeneratedClient"

/-- The characters of a string, as data that is not computed from its bytes. -/
def charsOf (s : String) {cs : List Char} (_ : s.toList = cs) : List Char := cs

/-- The line that closes an item. -/
def closingLine : List Char := ['\x7d']

/-- The line of the transport that a client and its factory take. -/
def transportLine : List Char :=
  charsOf "    transport: ::refit::RestTransport," String.toList_ofList

/-- The text of the trait. -/
def memoTraitText : List Char :=
  join ['\n'] [
    charsOf "#[::refit::async_trait]" String.toList_ofList,
    charsOf "pub(crate) trait A: ::core::marker::Send + ::core::marker::Sync \x7b"
      String.toList_ofList,
    charsOf "    const NOTE: Text = \x22a" String.toList_ofList,
    charsOf " " String.toList_ofList,
    charsOf "b\x22;" String.toList_ofList,
    closingLine]

/-- The text of the contract. -/
def memoContractText : List Char :=
  join ['\n'] [
    charsOf "impl ::refit::ServiceContract for dyn A \x7b" String.toList_ofList,
    charsOf "    const NAME: &'static str = ::core::concat!(::core::module_path!(), \x22::\x22, \x22A\x22);"
      String.toList_ofList,
    charsOf "    const SHAPE: ::refit::ServiceShape = ::refit::ServiceShape \x7b"
      String.toList_ofList,
    charsOf "        interface: true," String.toList_ofList,
    charsOf "        public: false," String.toList_ofList,
    charsOf "        generic: false," String.toList_ofList,
    charsOf "    \x7d;" String.toList_ofList,
    charsOf "    const DEFAULT_BASE_URL: ::core::option::Option<&'static str> = ::core::option::Option::None;"
      String.toList_ofList,
    closingLine]

/-- The text of the client. -/
def memoClientText : List Char :=
  join ['\n'] [
    charsOf "/// Generated REST client for [\x60A\x60]." String.toList_ofList,
    charsOf "#[derive(Debug, Clone)]" String.toList_ofList,
    charsOf "pub(crate) struct AGeneratedClient \x7b" String.toList_ofList,
    transportLine,
    closingLine,
    charsOf "impl AGeneratedClient \x7b" String.toList_ofList,
    charsOf "    /// Creates a client dispatching through \x60transport\x60." String.toList_ofList,
    charsOf "    pub(crate) fn new(transport: ::refit::RestTransport) -> Self \x7b"
      String.toList_ofList,
    charsOf "        Self \x7b transport \x7d" String.toList_ofList,
    charsOf "    \x7d" String.toList_ofList,
    charsOf "    /// The transport this client dispatches through." String.toList_ofList,
    charsOf "    pub(crate) fn transport(&self) -> &::refit::RestTransport \x7b"
      String.toList_ofList,
    charsOf "        &self.transport" String.toList_ofList,
    charsOf "    \x7d" String.toList_ofList,
    closingLine,
    charsOf "#[::refit::async_trait]" String.toList_ofList,
    charsOf "impl A for AGeneratedClient \x7b\x7d" String.toList_ofList]

/-- The items of the service's client unit, each with its text. -/
def memoParts : List (List Token × List Char) :=
  [((serviceTrait { memoTrait with visibility := widened .inherited }).toNode.tokens,
      memoTraitText),
    (contractTokens { memoService with visibility := widened .inherited }, memoContractText),
    (clientTokens { memoService with visibility := widened .inherited } memoClient,
      memoClientText)]

/-- The text of the unit. -/
def memoText : List Char :=
  Token.relineAll ((Piece.comment notice).sourceText ::
    memoParts.flatMap fun part => [[], part.2])

theorem memoText_eq : memoText = unitText memoParts := rfl

theorem laidOutAs_of_mem_memoParts : ∀ part ∈ memoParts, LaidOutAs part.2 part.1 := by
  simp only [memoParts, List.forall_mem_cons]
  exact ⟨laidOutAs_of_isSetAs (by decide +kernel), laidOutAs_of_isSetAs (by decide +kernel),
    laidOutAs_of_isSetAs (by decide +kernel), fun _ h => nomatch h⟩

/-- What is seen by computation: the items are read back, the text of the unit reads as a file, the
literal of the constant is a lexeme of the trait, and the notice has tokens. -/
theorem memo_computed :
    (∀ part ∈ memoParts, readsAs part.2 part.1 = true) ∧
      (match Token.trees? memoText with
        | some ts => (File.ofTokens ts).isOk
        | none => false) = true ∧
      ((Token.lexemesOf memoTraitText).any fun
        | .literal text => text = "\x22a\n \nb\x22".toList
        | _ => false) = true ∧
      (Token.trees? (Piece.comment notice).sourceText).isSome := by
  refine ⟨?_, by decide +kernel, by decide +kernel, by decide +kernel⟩
  simp only [memoParts, List.forall_mem_cons]
  exact ⟨by decide +kernel, by decide +kernel, by decide +kernel, fun _ h => nomatch h⟩

theorem readsAs_of_mem_memoParts : ∀ part ∈ memoParts, readsAs part.2 part.1 = true :=
  memo_computed.1

/-- The text of the unit reads as a file. -/
theorem isFile_memoText : (match Token.trees? memoText with
    | some ts => (File.ofTokens ts).isOk
    | none => false) = true :=
  memo_computed.2.1

/-- The literal of the constant is a lexeme of the trait. -/
theorem literal_mem_lexemesOf_memoTraitText :
    .literal "\x22a\n \nb\x22".toList ∈ Token.lexemesOf memoTraitText := by
  obtain ⟨l, hl, h⟩ := List.any_eq_true.mp memo_computed.2.2.1
  split at h
  next text => exact of_decide_eq_true h ▸ hl
  next => cases h

theorem clientPieces_memo : clientPieces memoTrait memoService memoClient [] [] =
    unitPieces memoParts := rfl

theorem readsBack_of_mem_clientPieces_memo {p : Piece}
    (h : p ∈ clientPieces memoTrait memoService memoClient [] []) : p.ReadsBack := by
  rw [clientPieces_memo] at h
  obtain rfl | rfl | ⟨part, hpart, rfl⟩ := mem_unitPieces h
  · exact ⟨memo_computed.2.2.2, fun _ h => nomatch h⟩
  · exact ⟨rfl, fun _ h => nomatch h⟩
  · exact (laidOutAs_of_mem_memoParts part hpart).readsBack (readsAs_of_mem_memoParts part hpart)

/-- The text of the unit is built from its items, and it reads as a file. -/
theorem exists_memoText : ∃ text : String,
    checkedText (clientPieces memoTrait memoService memoClient [] []) = .ok text ∧
      text.toList = memoText := by
  have hread := isFile_memoText
  rw [memoText_eq] at hread ⊢
  rw [clientPieces_memo]
  exact exists_checkedText_unitPieces laidOutAs_of_mem_memoParts hread

/-- **A unit that is torn**: the service is accepted and its unit is built, and the unit does not
read as its pieces, since the blank line inside the constant is emptied. -/
theorem exists_memoUnit_torn : Service.extract memoTrait none = .ok memoService ∧
    ∃ u, clientUnit [] memoTrait memoService memoClient [] [] = .ok u ∧
      (∀ p ∈ clientPieces memoTrait memoService memoClient [] [], p.ReadsBack) ∧
      ¬ReadsAs u.contents (clientPieces memoTrait memoService memoClient [] []) := by
  obtain ⟨text, hchecked, -⟩ := exists_memoText
  have hunit : clientUnit [] memoTrait memoService memoClient [] [] =
      .ok ⟨Service.unitStem [] memoService.name ++ ".rs", text⟩ := by
    rw [clientUnit, hchecked]
    rfl
  have hback : ∀ p ∈ clientPieces memoTrait memoService memoClient [] [], p.ReadsBack :=
    fun _ => readsBack_of_mem_clientPieces_memo
  refine ⟨rfl, _, hunit, hback, fun h => ?_⟩
  obtain ⟨part, hpart, hliteral⟩ : ∃ part ∈ memoParts,
      .literal "\x22a\n \nb\x22".toList ∈ Token.lexemesOf part.2 :=
    ⟨_, List.mem_cons_self, literal_mem_lexemesOf_memoTraitText⟩
  have hmem : itemsPiece part.1 ∈ clientPieces memoTrait memoService memoClient [] [] := by
    rw [clientPieces_memo]
    exact List.mem_cons_of_mem _ (List.mem_flatMap.mpr
      ⟨part, hpart, List.mem_cons_of_mem _ List.mem_cons_self⟩)
  rw [← (laidOutAs_of_mem_memoParts part hpart).sourceText_eq] at hliteral
  -- the blank line inside the constant
  refine (clientUnit_reads_iff hunit hback).mp h _ hmem _ hliteral ?_
  exact .inr ⟨[' '], by decide, List.all_iff_forall_prop.mp (by decide), by decide⟩

end RestLoom.Emit
