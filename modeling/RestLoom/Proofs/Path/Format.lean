import RestLoom.Proofs.Path.Grammar

/-!
# Proofs/Path/Format — the format of a template, read strictly

    "/{{{}/{}"  ·  ["7", "{b}"]   ──readFormat──▸   "/{7/{b}"

A format is well formed if each brace is doubled or belongs to an empty pair, and it fits its values
if there is one for each pair and none is left.  The format of a template is well formed and fits
the values of its places, wherever braces of literals stand next to pairs (`readFormat_formatText`);
and what is read at a pair is not looked at again.
-/

namespace RestLoom.Path

/-- What a format stands for with a value for each empty pair of braces; there is nothing unless its
braces are doubled or in empty pairs, and the values are as many as the pairs. -/
def readFormat : List Char → List (List Char) → Option (List Char)
  | '{' :: '{' :: cs, vs => (readFormat cs vs).map ('{' :: ·)
  | '}' :: '}' :: cs, vs => (readFormat cs vs).map ('}' :: ·)
  | '{' :: '}' :: cs, v :: vs => (readFormat cs vs).map (v ++ ·)
  | '{' :: _, _ => none
  | '}' :: _, _ => none
  | c :: cs, vs => (readFormat cs vs).map (c :: ·)
  | [], [] => some []
  | [], _ :: _ => none

namespace Template

/-- Any other character stands for itself. -/
theorem readFormat_cons {c : Char} (hopen : c ≠ '{') (hclose : c ≠ '}') (cs : List Char)
    (vs : List (List Char)) : readFormat (c :: cs) vs = (readFormat cs vs).map (c :: ·) := by
  rw [readFormat]
  all_goals simp [hopen, hclose]

/-- Doubled braces stand for what they double, whatever comes next. -/
theorem readFormat_escapeBraces (text rest : List Char) (vs : List (List Char)) :
    readFormat (escapeBraces text ++ rest) vs = (readFormat rest vs).map (text ++ ·) := by
  induction text with
  | nil => exact Option.map_id_apply.symm
  | cons c text ih =>
    have hcons : (readFormat rest vs).map (c :: text ++ ·) =
        ((readFormat rest vs).map (text ++ ·)).map (c :: ·) := by
      rw [Option.map_map]
      rfl
    rw [escapeBraces, List.flatMap_cons, List.append_assoc, hcons, ← ih]
    by_cases hopen : c = '{'
    · subst hopen
      rfl
    · by_cases hclose : c = '}'
      · subst hclose
        rfl
      · rw [if_neg (not_or.mpr ⟨hopen, hclose⟩)]
        exact readFormat_cons hopen hclose _ vs

/-- **The format of pieces** takes the values of their places in turn. -/
theorem readFormat_pieces (ps : List Segment) (value : List Char → List Char) :
    readFormat
        (ps.flatMap fun
          | .literal text => escapeBraces text
          | .placeholder _ => ['{', '}'])
        ((ps.filterMap fun
          | .placeholder name => some name
          | .literal _ => none).map value) =
      some (ps.flatMap fun
        | .literal text => text
        | .placeholder name => value name) := by
  induction ps with
  | nil => rfl
  | cons p ps ih =>
    cases p with
    | literal text =>
      exact (readFormat_escapeBraces text _ _).trans (congrArg (Option.map (text ++ ·)) ih)
    | placeholder name => exact congrArg (Option.map (value name ++ ·)) ih

/-- **The format of a template fits its places**: it is well formed, takes the value of each place
in turn and no more, and stands for the filled template. -/
theorem readFormat_formatText (t : Template) (value : List Char → List Char) :
    readFormat t.formatText (t.placeholders.map value) =
      some (t.fill fun place => some (value place)) :=
  readFormat_pieces t.segments value

/-- A value that looks like a place stays as it is, between braces that are literal. -/
example : readFormat (ofString "\x7b\x7ba\x7d\x7d/\x7bb\x7d").formatText
      ((ofString "\x7b\x7ba\x7d\x7d/\x7bb\x7d").placeholders.map fun _ => "\x7bb\x7d".toList) =
    some "\x7b\x7bb\x7d\x7d/\x7bb\x7d".toList := by
  decide

end Template

end RestLoom.Path
