import RestLoom.Service.Extract
import RestLoom.Signal

/-!
# Service/Find — the services of a file

Every marked trait is found, at the top of the file or in the modules inside it, in the order of the
text.  The search looks at a signal before each item and stops without a result once it is up.
-/

namespace RestLoom.Service

open RestLoom.Token (Ident)
open RestLoom.Source

/-- A marked trait, the modules around it, and the service it declares. -/
structure Found where
  modules : List Ident
  decl : TraitDecl
  result : Except ExtractError Service

/-- A marked trait as it is found. -/
def found? (modules : List Ident) (t : TraitDecl) : Option Found :=
  (extractMarked t).map fun result => ⟨modules, t, result⟩

mutual

/-- The services in an item, and the number of looks so far; `none` if the signal was seen up. -/
def findIn (s : Signal) (modules : List Ident) (looks : Nat) :
    Item → Option (List Found × Nat)
  | .trait t => some ((found? modules t).toList, looks)
  | .module _ _ _ name content => findAll s (modules ++ [name]) looks content
  | .use _ => some ([], looks)
  | .other _ => some ([], looks)

/-- The services in items, looking at the signal before each one. -/
def findAll (s : Signal) (modules : List Ident) (looks : Nat) :
    List Item → Option (List Found × Nat)
  | [] => some ([], looks)
  | i :: is =>
    if s.isUp looks then none
    else do
      let (here, looks) ← findIn s modules (looks + 1) i
      let (rest, looks) ← findAll s modules looks is
      return (here ++ rest, looks)

end

/-- The services of a file with the number of looks taken; `none` if the signal was seen up. -/
def findServices (s : Signal) (f : File) : Option (List Found × Nat) :=
  findAll s [] 0 f.items

/-- The imports among items. -/
def imports (items : List Item) : List Node :=
  items.filterMap fun
    | .use n => some n
    | _ => none

/-- The items of the first module of a name among items. -/
def moduleItems? (name : Ident) (items : List Item) : Option (List Item) :=
  items.findSome? fun
    | .module _ _ _ i content => if i.text == name.text then some content else none
    | _ => none

/-- The imports at the top of a file and in the modules that lead inward. -/
def importsInScope (items : List Item) : List Ident → List Node
  | [] => imports items
  | m :: ms =>
    imports items ++ match moduleItems? m items with
      | some inner => importsInScope inner ms
      | none => []

end RestLoom.Service
