import RestLoom.Proofs.Token.Lexeme

/-!
# Proofs/Token/Spelled — names in tokens are spelled as names

    "r#type x1"  ──lex──▸  [r#type, x1], spelled `type` and `x1`

Whatever text tokens are read from, each name among them consists of characters of names, the mark
of a raw name apart (`isSpelled_of_lex?`).
-/

namespace RestLoom.Token

open RestLoom.Text

/-- Whether a name, without the mark of a raw one, is spelled as names are. -/
def Ident.IsSpelled (i : Ident) : Prop := Text.isName i.name.toList = true

variable {cs r : List Char} {i : Ident}

theorem isName_of_bareName? {name : List Char} (h : bareName? cs = some (name, r)) :
    Text.isName name = true := by
  cases cs with
  | nil => cases h
  | cons c cs =>
    rw [bareName?] at h
    split at h
    next hstart =>
      rw [← (Prod.mk.inj (Option.some.inj h)).1, Text.isName, hstart, Bool.true_and,
        List.all_eq_true]
      exact fun d hd => List.mem_takeWhile_imp hd
    next => cases h

theorem isSpelled_of_name? (h : name? cs = some (i, r)) : i.IsSpelled := by
  rw [name?] at h
  split at h
  · obtain ⟨⟨name, rest⟩, hname, h⟩ := Option.bind_eq_some_iff.mp h
    dsimp only at h
    split at h
    · cases h
    · rw [← (Prod.mk.inj (Option.some.inj h)).1, Ident.IsSpelled, String.toList_ofList]
      exact isName_of_bareName? hname
  · obtain ⟨⟨name, rest⟩, hname, h⟩ := Option.bind_eq_some_iff.mp h
    rw [← (Prod.mk.inj (Option.some.inj h)).1, Ident.IsSpelled, Ident.plain, String.toList_ofList]
    exact isName_of_bareName? hname

/-- An operator character is no name. -/
theorem not_mem_atoms_of_punct? {t : Token} (h : punct? cs = some (t, r)) :
    .ident i ∉ t.atoms := by
  obtain ⟨⟨c, rest⟩, -, h⟩ := Option.bind_eq_some_iff.mp h
  dsimp only at h
  split at h
  · obtain ⟨v, -, h⟩ := Option.bind_eq_some_iff.mp h
    split at h
    · cases h
    · rw [← (Prod.mk.inj (Option.some.inj h)).1, atoms]
      simp
  · rw [← (Prod.mk.inj (Option.some.inj h)).1, atoms]
    simp

/-- The only name in documentation is that of its attribute. -/
theorem isSpelled_of_mem_docTokens {inner : Bool} {text : List Char}
    (h : .ident i ∈ atomsAll (docTokens inner text)) : i.IsSpelled := by
  have hdoc : i = .plain "doc" := by
    cases inner <;> simpa [docTokens, atomsAll, atoms] using h
  rw [hdoc, Ident.IsSpelled]
  decide

theorem isSpelled_of_codeLexeme? {l : Lexeme} (h : codeLexeme? cs = some (l, r))
    (hi : .ident i ∈ l.atoms) : i.IsSpelled := by
  rw [codeLexeme?.eq_def] at h
  split at h
  · cases h
  next c cs =>
    split at h
    · rw [← (Prod.mk.inj (Option.some.inj h)).1, Lexeme.atoms] at hi
      simp at hi
    · split at h
      · rw [← (Prod.mk.inj (Option.some.inj h)).1, Lexeme.atoms] at hi
        simp at hi
      · split at h
        next after hliteral =>
          rw [← (Prod.mk.inj (Option.some.inj h)).1, Lexeme.atoms] at hi
          simp at hi
        next =>
          split at h
          next t rest hpunct =>
            rw [← (Prod.mk.inj (Option.some.inj h)).1, Lexeme.atoms] at hi
            exact absurd hi (not_mem_atoms_of_punct? hpunct)
          next =>
            obtain ⟨⟨j, rest⟩, hident, h⟩ := Option.map_eq_some_iff.mp h
            rw [← (Prod.mk.inj h).1, Lexeme.atoms, atoms, List.mem_singleton] at hi
            obtain rfl := Atom.ident.inj hi
            rw [ident?] at hident
            split at hident
            · cases hident
            · exact isSpelled_of_name? hident

theorem isSpelled_of_lexeme? {l : Lexeme} (h : lexeme? cs = some (l, r))
    (hi : .ident i ∈ l.atoms) : i.IsSpelled := by
  rw [lexeme?] at h
  split at h
  next =>
    split at h
    · rw [← (Prod.mk.inj (Option.some.inj h)).1, Lexeme.atoms] at hi
      exact isSpelled_of_mem_docTokens hi
    · cases h
  next =>
    obtain ⟨⟨body, rest⟩, -, h⟩ := Option.bind_eq_some_iff.mp h
    dsimp only at h
    split at h
    · rw [← (Prod.mk.inj (Option.some.inj h)).1, Lexeme.atoms] at hi
      exact isSpelled_of_mem_docTokens hi
    · cases h
  next => cases h
  next => exact isSpelled_of_codeLexeme? h hi

theorem isSpelled_of_lexemesUpTo {n : Nat} {ls : List Lexeme} (h : lexemesUpTo n cs = some ls)
    (hi : .ident i ∈ ls.flatMap Lexeme.atoms) : i.IsSpelled := by
  induction n generalizing cs ls with
  | zero => cases h
  | succ n ih =>
    obtain ⟨-, rfl⟩ | ⟨c, cs', l, r, ls', -, hl, hls', rfl⟩ := lexemesUpTo_cases h
    · cases hi
    · rw [List.flatMap_cons, List.mem_append] at hi
      exact hi.elim (isSpelled_of_lexeme? hl) (ih hls')

/-- **The names among the tokens of a text** are spelled as names are. -/
theorem isSpelled_of_lex? {text : String} {ts : List Token} (h : lex? text = some ts)
    (hi : .ident i ∈ atomsAll ts) : i.IsSpelled := by
  rw [lex?, lexUpTo_eq] at h
  obtain ⟨ls, hls, hbuild⟩ := Option.bind_eq_some_iff.mp h
  rw [← build_eq_some_iff.mp hbuild] at hi
  exact isSpelled_of_lexemesUpTo hls hi

end RestLoom.Token
