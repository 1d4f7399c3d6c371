import RestLoom.Text.Lines
import RestLoom.Text.Similarity

/-!
# CommandLine/Arguments — reading the words of a command

    -v -i defs.rs --module=a  ──▸  verbose 1, input defs.rs, module a

A command takes options only.  An option is known by a letter after one dash, by a word after two,
or by both; it takes a value, counts how often it stands there, or is a switch.  Letters without
values may share a dash, and a value may follow its option directly.
-/

namespace RestLoom.CommandLine

open RestLoom.Text

/-- What an option does. -/
inductive Action where
  /-- It takes one value, once. -/
  | set
  /-- It takes one value each time. -/
  | append
  /-- It may stand there once. -/
  | flag
  /-- It may stand there any number of times. -/
  | count
  /-- It shows the help. -/
  | help
  /-- It shows the version. -/
  | version
  deriving DecidableEq

/-- An option of a command. -/
structure Spec where
  long : String
  short : Option Char
  action : Action
  /-- What its value is called. -/
  valueName : String
  required : Bool
  /-- The value if none is given. -/
  default : Option String
  /-- Whether an empty value is none. -/
  refusesEmpty : Bool
  about : String

namespace Spec

/-- Whether an option shows something instead of being part of what is asked for. -/
def isInformative (s : Spec) : Bool := s.action = .help || s.action = .version

/-- Whether an option takes a value. -/
def takesValue (s : Spec) : Bool := s.action = .set || s.action = .append

/-- An option as it is written in messages. -/
def shown (s : Spec) : String :=
  "--" ++ s.long ++
    (if s.takesValue then " <" ++ s.valueName ++ ">"
     else if s.action = .count then "..." else "")

end Spec

/-- A command: its name, what it is about, its version and its options. -/
structure Command where
  name : String
  about : String
  version : String
  specs : List Spec

/-- Why the words of a command cannot be followed. -/
inductive UsageError where
  | unexpected (word : String) (similar : Option Spec) (used : List Spec)
  | missingValue (s : Spec)
  /-- A value for an option that takes none; others may have been read before it. -/
  | unexpectedValue (value : String) (s : Spec) (alone : Bool)
  | repeated (s : Spec)
  | missing (ss : List Spec) (used : List Spec)

/-- What stops the reading: an error, or the wish to see the help or the version. -/
inductive Stop where
  | error (e : UsageError)
  | help
  | version

/-- The option of a command with a word. -/
def Command.spec? (c : Command) (long : String) : Option Spec :=
  c.specs.find? fun s => s.long == long

/-- The options read so far, in the order of their first use, with their values. -/
structure Matches where
  found : List (Spec × List String)

namespace Matches

/-- The values given for an option. -/
def values (m : Matches) (long : String) : List String :=
  ((m.found.find? fun f => f.1.long == long).map (·.2)).getD []

/-- Whether an option was given. -/
def has (m : Matches) (long : String) : Bool := m.found.any fun f => f.1.long == long

/-- The options that were given. -/
def used (m : Matches) : List Spec := m.found.map (·.1)

/-- Adds values of an option. -/
def add (m : Matches) (s : Spec) (vs : List String) : Matches :=
  if m.has s.long then
    ⟨m.found.map fun f => if f.1.long == s.long then (f.1, f.2 ++ vs) else f⟩
  else ⟨m.found ++ [(s, vs)]⟩

end Matches

/-- The value of an option: the one that was given, or else the default. -/
def Command.value? (c : Command) (m : Matches) (long : String) : Option String :=
  match m.values long with
  | v :: _ => some v
  | [] => (c.spec? long).bind (·.default)

/-- Where reading stands: the options so far, an option that waits for its value or has just got it,
and whether only values may follow. -/
structure Reading where
  done : Matches
  /-- An option whose value came as a word of its own, or is still to come. -/
  pending : Option (Spec × Option String)
  onlyValues : Bool

/-- Takes an option with its value into account. -/
def settle (m : Matches) (s : Spec) (value : Option String) : Except Stop Matches :=
  match s.action with
  | .help => .error .help
  | .version => .error .version
  | .count => .ok (m.add s [""])
  | .flag => if m.has s.long then .error (.error (.repeated s)) else .ok (m.add s [])
  | .set | .append =>
    match value with
    | none => .error (.error (.missingValue s))
    | some v =>
      if s.action = .set ∧ m.has s.long then .error (.error (.repeated s))
      else if s.refusesEmpty ∧ v = "" then .error (.error (.missingValue s))
      else .ok (m.add s [v])

/-- Takes the pending option into account. -/
def Reading.settled (r : Reading) : Except Stop Reading :=
  match r.pending with
  | none => .ok r
  | some (s, v) => do
    let m ← settle r.done s v
    return { r with done := m, pending := none }

/-- The options given so far, as a complaint points them out.  The pending one is among them unless
its value is missing; one that may be given only once is not if it is given again. -/
def Reading.used (r : Reading) : List Spec :=
  match r.pending with
  | some (s, some v) =>
    if s.action = .set ∧ r.done.has s.long then r.done.used.filter fun u => u.long != s.long
    else (r.done.add s [v]).used
  | _ => r.done.used

/-- Takes an option with an attached value, or none, into account. -/
def Reading.take (r : Reading) (s : Spec) (attached : Option String) : Except Stop Reading := do
  let r ← r.settled
  if s.takesValue ∧ attached = none then return { r with pending := some (s, none) }
  else return { r with done := ← settle r.done s attached }

/-- The fraction `a` is smaller than `b`. -/
def lessSimilar (a b : Nat × Nat) : Bool := a.1 * b.2 < b.1 * a.2

/-- The option whose word is most like another one, if it is like enough; of several the last. -/
def similarSpec (c : Command) (word : List Char) : Option Spec :=
  (c.specs.foldl (fun (best : Option (Spec × (Nat × Nat))) s =>
    let k := similarity word s.long.toList
    if 10 * k.1 ≤ 7 * k.2 then best
    else match best with
      | some (_, b) => if lessSimilar k b then best else some (s, k)
      | none => some (s, k)) none).map (·.1)

/-- Reads a word after two dashes. -/
def readLong (c : Command) (r : Reading) (word : List Char) : Except Stop Reading :=
  let (name, rest) := breakAt (· == '=') word
  let attached := (rest.head?).map fun _ => String.ofList (rest.drop 1)
  match c.specs.find? fun s => s.long.toList == name with
  | none =>
    let similar := similarSpec c name
    let used := r.used
    let used := used ++ (similar.toList.filter fun s => !used.any fun u => u.long == s.long)
    .error (.error (.unexpected ("--" ++ String.ofList name) similar used))
  | some s =>
    match attached with
    | some v =>
      if s.takesValue then r.take s (some v)
      else .error (.error (.unexpectedValue v s r.done.used.isEmpty))
    | none => r.take s none

/-- Reads letters after one dash. -/
def readLetters (c : Command) (r : Reading) : List Char → Except Stop Reading
  | [] => .ok r
  | l :: ls =>
    match c.specs.find? fun s => s.short == some l with
    | none => .error (.error (.unexpected (String.ofList ['-', l]) none []))
    | some s =>
      if s.takesValue then
        match ls with
        | [] => r.take s none
        | '=' :: v => r.take s (some (String.ofList v))
        | v => r.take s (some (String.ofList v))
      else do readLetters c (← r.take s none) ls

/-- Reads a word that is no option: a value if an option waits for one. -/
def readValue (r : Reading) (word : String) : Except Stop Reading :=
  match r.onlyValues, r.pending with
  | false, some (s, none) => .ok { r with pending := some (s, some word) }
  | _, _ => .error (.error (.unexpected word none []))

/-- Reads one word. -/
def readWord (c : Command) (r : Reading) (word : String) : Except Stop Reading :=
  if r.onlyValues then readValue r word
  else match word.toList with
    | '-' :: '-' :: [] => .ok { r with onlyValues := true }
    | '-' :: '-' :: rest => readLong c r rest
    | '-' :: l :: ls => readLetters c r (l :: ls)
    | _ => readValue r word

/-- The options that have to be given and are not. -/
def missingSpecs (c : Command) (m : Matches) : List Spec :=
  c.specs.filter fun s => s.required && !m.has s.long

/-- **Reading** the words of a command. -/
def Command.read (c : Command) (words : List String) : Except Stop Matches := do
  let r ← words.foldlM (readWord c) ⟨⟨[]⟩, none, false⟩
  let r ← r.settled
  let lacking := missingSpecs c r.done
  if lacking = [] then return r.done
  else throw (.error (.missing lacking r.done.used))

end RestLoom.CommandLine
