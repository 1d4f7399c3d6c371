import RestLoom.CommandLine.Arguments

/-!
# CommandLine/Messages — usage, help and complaints

    error: unexpected argument 'x' found

    Usage: tool [OPTIONS] --input <INPUT>

    For more information, try '--help'.

A complaint shows how the command is used: in general, with the options that were given when those
are to be pointed out, or as a choice among all options.
-/

namespace RestLoom.CommandLine

/-- The usage of a command; options that are pointed out replace the general form. -/
def Command.usage (c : Command) (used : List Spec) : String :=
  let required := c.specs.filter (·.required)
  let shown (ss : List Spec) : String := String.join (ss.map fun s => " " ++ s.shown)
  if used.isEmpty then "Usage: " ++ c.name ++ " [OPTIONS]" ++ shown required
  else
    "Usage: " ++ c.name ++
      shown (required ++ used.filter fun s => !required.any fun r => r.long == s.long)

/-- The usage of a command as a choice among its options, with one more that shows something. -/
def Command.usageAsChoice (c : Command) (s : Spec) : String :=
  let options := c.specs.filter fun s => !s.isInformative
  "Usage: " ++ c.name ++ (if s.isInformative then " " ++ s.shown else "") ++
    " <" ++ "|".intercalate (options.map Spec.shown) ++ ">"

/-- What a complaint ends with. -/
def moreInformation : String := "For more information, try '--help'.\n"

/-- A value in quotes. -/
def quoted (s : String) : String := "'" ++ s ++ "'"

/-- The complaint about an error. -/
def Command.complaint (c : Command) (e : UsageError) : String :=
  match e with
  | .unexpected word similar used =>
    let tip := match similar with
      | some s => "\n  tip: a similar argument exists: " ++ quoted ("--" ++ s.long) ++ "\n"
      | none => ""
    "error: unexpected argument " ++ quoted word ++ " found\n" ++ tip ++ "\n" ++ c.usage used ++
      "\n\n" ++ moreInformation
  | .missingValue s =>
    "error: a value is required for " ++ quoted s.shown ++ " but none was supplied\n\n" ++
      moreInformation
  | .unexpectedValue value s alone =>
    let usage := if alone then c.usage [s] else c.usageAsChoice s
    "error: unexpected value " ++ quoted value ++ " for " ++ quoted s.shown ++
      " found; no more were expected\n\n" ++ usage ++ "\n\n" ++ moreInformation
  | .repeated s =>
    "error: the argument " ++ quoted s.shown ++ " cannot be used multiple times\n\n" ++
      c.usage [] ++ "\n\n" ++ moreInformation
  | .missing ss used =>
    "error: the following required arguments were not provided:\n" ++
      String.join (ss.map fun s => "  " ++ s.shown ++ "\n") ++ "\n" ++ c.usage (used ++ ss) ++
      "\n\n" ++ moreInformation

/-- An option as the help lists it. -/
def Spec.listed (s : Spec) : String :=
  (match s.short with
    | some l => "-" ++ l.toString ++ ", "
    | none => "    ") ++ s.shown

/-- The line of an option in the help, its text beginning in the column after `width`. -/
def Spec.helpLine (width : Nat) (s : Spec) : String :=
  let fill := String.ofList (List.replicate (width - s.listed.length) ' ')
  let default := match s.default with
    | some v => " [default: " ++ v ++ "]"
    | none => ""
  "  " ++ s.listed ++ fill ++ "  " ++ s.about ++ default ++ "\n"

/-- The help of a command. -/
def Command.help (c : Command) : String :=
  let width := (c.specs.map fun s => s.listed.length).foldl max 0
  c.about ++ "\n\n" ++ c.usage [] ++ "\n\nOptions:\n" ++
    String.join (c.specs.map (Spec.helpLine width))

/-- The version of a command. -/
def Command.versionText (c : Command) : String := c.name ++ " " ++ c.version ++ "\n"

end RestLoom.CommandLine
