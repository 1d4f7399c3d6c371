import RestLoom.Text.Letter

/-!
# Naming/Snake — names in small letters with underscores

    HTTPClient ──snakeCase──▸ http_client

An underscore goes before a capital letter that follows a small letter or a digit, and before the
last capital of a run of capitals when a small letter comes next, so that an acronym stays one word.
-/

namespace RestLoom.Naming

open RestLoom.Text

/-- Whether a new word starts at a capital letter with these neighbours. -/
def startsWord (before : Option Char) (after : Option Char) : Bool :=
  match before with
  | none => false
  | some p =>
    if isLower p || p.isDigit then true
    else isUpper p && after.any isLower

/-- The snake-case form of the rest of a name, given the character before it. -/
def snakeFrom (before : Option Char) : List Char → List Char
  | [] => []
  | c :: cs =>
    let here :=
      if isUpper c then
        if startsWord before cs.head? then '_' :: toLower c else toLower c
      else [c]
    here ++ snakeFrom (some c) cs

/-- The snake-case form of a name. -/
def snakeCase (name : List Char) : List Char := snakeFrom none name

end RestLoom.Naming
