import RestLoom.Proofs.Token.Lexeme

/-!
# Proofs/Token/Relined — the tokens of texts that are written again line by line

    [text, text, …]  ──relineAll──▸  lines of them all  ──lex?──▸  tokens of text, tokens of text, …

When texts are cut into lines and written again one after the other, what is read from the result
are the tokens of the texts in order, exactly if no lexeme of a text is torn
(`trees?_relineAll_iff`).
-/

namespace RestLoom.Token

open RestLoom.Text

variable {cs : List Char} {ts : List Token} {texts : List (List Char)}

/-- The token trees of a text that is part of another one, where no mark tells a byte order. -/
def trees? (cs : List Char) : Option (List Token) := lexUpTo (cs.length + 1) [] [] cs

/-- The lexemes of a text, if it has any. -/
def lexemesOf (cs : List Char) : List Lexeme := (lexemes? cs).getD []

/-- The token trees of a text, if it has any. -/
def treesOf (cs : List Char) : List Token := (trees? cs).getD []

/-- Texts written again line by line, one after the other. -/
def relineAll : List (List Char) → List Char
  | [] => []
  | text :: texts => relined (relineAll texts) (some []) text

/-- **The token trees** of a text have the atoms of its lexemes. -/
theorem trees?_eq_some_iff :
    trees? cs = some ts ↔ ∃ ls, lexemes? cs = some ls ∧ ls.flatMap Lexeme.atoms = atomsAll ts := by
  rw [trees?, lexUpTo_eq, Option.bind_eq_some_iff]
  exact exists_congr fun ls => and_congr_right fun _ => build_eq_some_iff

theorem lexemes?_of_trees? (h : (trees? cs).isSome) :
    lexemes? cs = some (lexemesOf cs) ∧
      (lexemesOf cs).flatMap Lexeme.atoms = atomsAll (treesOf cs) := by
  obtain ⟨ts, hts⟩ := Option.isSome_iff_exists.mp h
  obtain ⟨ls, hls, hatoms⟩ := trees?_eq_some_iff.mp hts
  rw [lexemesOf, treesOf, hls, hts]
  exact ⟨rfl, hatoms⟩

/-- **The lexemes of texts** that are written again are those of the texts in order, mended. -/
theorem exists_lexemesUpTo_relineAll (h : ∀ text ∈ texts, (trees? text).isSome) :
    ∃ n, lexemesUpTo n (relineAll texts) =
      some (texts.flatMap fun text => (lexemesOf text).map Lexeme.mend) := by
  induction texts with
  | nil => exact ⟨1, rfl⟩
  | cons text texts ih =>
    rw [List.forall_mem_cons] at h
    obtain ⟨n, hn⟩ := ih h.2
    exact ⟨text.length + 1 + n,
      lexemesUpTo_relined (lexemes?_of_trees? h.1).1 hn heldBlank_nil⟩

theorem atomsAll_flatMap_treesOf (h : ∀ text ∈ texts, (trees? text).isSome) :
    atomsAll (texts.flatMap treesOf) = (texts.flatMap lexemesOf).flatMap Lexeme.atoms := by
  induction texts with
  | nil => rfl
  | cons text texts ih =>
    rw [List.forall_mem_cons] at h
    rw [List.flatMap_cons, List.flatMap_cons, atomsAll_append, List.flatMap_append, ih h.2,
      (lexemes?_of_trees? h.1).2]

theorem whole_of_mem_lexemesOf {l : Lexeme} (h : l ∈ lexemesOf cs) : l.Whole := by
  rw [lexemesOf] at h
  cases hls : lexemes? cs with
  | none =>
    rw [hls] at h
    cases h
  | some ls =>
    rw [hls] at h
    exact whole_of_lexemesUpTo hls l h

/-- **Texts that are written again** line by line are read as their tokens in order, exactly if none
of their lexemes is torn. -/
theorem trees?_relineAll_iff (h : ∀ text ∈ texts, (trees? text).isSome)
    (hread : (trees? (relineAll texts)).isSome) :
    trees? (relineAll texts) = some (texts.flatMap treesOf) ↔
      ∀ text ∈ texts, ∀ l ∈ lexemesOf text, ¬l.Torn := by
  obtain ⟨n, hn⟩ := exists_lexemesUpTo_relineAll h
  have hmend : lexemes? (relineAll texts) = some ((texts.flatMap lexemesOf).map Lexeme.mend) := by
    obtain ⟨hls, -⟩ := lexemes?_of_trees? hread
    have hmore := lexemesUpTo_mono hls (Nat.le_max_left _ n)
    rw [lexemesUpTo_mono hn (Nat.le_max_right _ n)] at hmore
    rw [hls, ← hmore, List.map_flatMap]
  have hwhole : ∀ l ∈ texts.flatMap lexemesOf, l.Whole := by
    intro l hl
    obtain ⟨text, -, hl⟩ := List.mem_flatMap.mp hl
    exact whole_of_mem_lexemesOf hl
  have hatoms : trees? (relineAll texts) = some (texts.flatMap treesOf) ↔
      ((texts.flatMap lexemesOf).map Lexeme.mend).flatMap Lexeme.atoms =
        (texts.flatMap lexemesOf).flatMap Lexeme.atoms := by
    rw [trees?_eq_some_iff, hmend, atomsAll_flatMap_treesOf h]
    simp
  rw [hatoms, flatMap_atoms_mend_iff hwhole]
  simp only [List.mem_flatMap]
  exact ⟨fun hnone text htext l hl => hnone l ⟨text, htext, hl⟩,
    fun hnone l ⟨text, htext, hl⟩ => hnone text htext l hl⟩

end RestLoom.Token
