import RestLoom.Proofs.Outcome
import RestLoom.Proofs.Token.Relined
import RestLoom.Source.Grammar

/-!
# Proofs/Source/File — a text and its tokens read as the same file

    // comment ⏎ tokens  ──ofText──▸  file  ◂──ofTokens──  tokens

A text may begin with a mark of its byte order or with a line that names an interpreter.  A text
that begins with a comment has neither, so all that counts are its tokens (`ofText_of_comment`).
-/

namespace RestLoom.Source

theorem exists_run_of_readAll {α : Type} {r : Reader α} {ts : List Token} {a : α}
    (h : readAll r ts = .ok a) : ∃ s, r.run ⟨ts, none, none⟩ = .ok (a, s) := by
  rw [readAll] at h
  split at h
  next => cases h
  next a' s hrun =>
    split at h
    next => cases h
    next =>
      split at h
      · cases h
        exact ⟨s, hrun⟩
      · cases h

/-- A file that is read from tokens names no interpreter. -/
theorem interpreter_of_ofTokens {ts : List Token} {f : File} (h : File.ofTokens ts = .ok f) :
    f.interpreter = none := by
  obtain ⟨s, hrun⟩ := exists_run_of_readAll h
  obtain ⟨attributes, -, hrun⟩ := Outcome.bind_eq_ok.mp hrun
  obtain ⟨items, -, hrun⟩ := Outcome.bind_eq_ok.mp hrun
  cases hrun
  rfl

variable {text : String} {cs : List Char}

theorem dropByteOrderMark_of_comment (h : text.toList = '/' :: cs) :
    Token.dropByteOrderMark text.toList = text.toList := by
  rw [h, Token.dropByteOrderMark, if_neg]
  decide

theorem lex?_of_comment (h : text.toList = '/' :: cs) :
    Token.lex? text = Token.trees? text.toList := by
  rw [Token.lex?, dropByteOrderMark_of_comment h, Token.trees?]

/-- **A text that begins with a comment** is the file that its tokens are. -/
theorem ofText_of_comment (h : text.toList = '/' :: cs) :
    File.ofText text = tokensOfText text >>= File.ofTokens := by
  have hline : interpreterLine text.toList = (none, text.toList) := by
    rw [h]
    rfl
  rw [File.ofText, dropByteOrderMark_of_comment h, hline]
  dsimp only
  rw [String.ofList_toList]
  refine bind_congr fun ts => ?_
  cases hfile : File.ofTokens ts with
  | error e => rfl
  | ok f =>
    have hnone := interpreter_of_ofTokens hfile
    obtain ⟨interpreter, attributes, items⟩ := f
    obtain rfl : interpreter = none := hnone
    rfl

/-- The tokens of a text that begins with a comment. -/
theorem ofText_of_tokens {ts : List Token} (h : text.toList = '/' :: cs)
    (hts : Token.lex? text = some ts) : File.ofText text = File.ofTokens ts := by
  rw [ofText_of_comment h, tokensOfText, hts]
  rfl

theorem exists_tokens_of_ofText {f : File} (h : text.toList = '/' :: cs)
    (hf : File.ofText text = .ok f) : ∃ ts, Token.lex? text = some ts := by
  rw [ofText_of_comment h, tokensOfText] at hf
  cases hts : Token.lex? text with
  | none =>
    rw [hts] at hf
    cases hf
  | some ts => exact ⟨ts, rfl⟩

end RestLoom.Source
