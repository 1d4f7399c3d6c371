import RestLoom.Url.Address
import RestLoom.Url.Domain
import RestLoom.Text.Utf8

/-!
# Url/Parse — reading URLs

    text ──clean──▸ scheme ":" rest ──▸ authority, path, query, fragment

Blanks and controls at both ends, tabs and line ends anywhere do not count.  After the scheme, the
first number sign begins the fragment and the first question mark before it the query; what is left
is an authority and a path, or a path alone.  In a path, a segment of one dot disappears and one of
two dots removes the segment before it.
-/

namespace RestLoom.Url

open RestLoom.Text

/-! ## Scheme -/

/-- Whether a character has no weight at the ends of a URL. -/
def isEdge (c : Char) : Bool := c.toNat ≤ 0x20

/-- Whether a character is skipped inside a URL. -/
def isSkipped (c : Char) : Bool := c == '\t' || c == '\n' || c == '\r'

/-- The characters of a text that count. -/
def clean (text : List Char) : List Char :=
  (dropEndWhile isEdge (text.dropWhile isEdge)).filter fun c => !isSkipped c

/-- Whether a character can stand in a scheme after the first one. -/
def inScheme (c : Char) : Bool := c.isAlphanum || c == '+' || c == '-' || c == '.'

/-- The scheme in small letters, and what follows its colon. -/
def readScheme (cs : List Char) : Option (List Char × List Char) :=
  match cs with
  | c :: _ =>
    if c.isAlpha then
      match cs.dropWhile inScheme with
      | ':' :: rest => some ((cs.takeWhile inScheme).map (·.toLower), rest)
      | _ => none
    else none
  | [] => none

/-! ## Path -/

/-- Whether a character ends a segment. -/
def isSlash (special : Bool) (c : Char) : Bool := c == '/' || (special && c == '\\')

/-- Whether a text is a dot, possibly as an escape. -/
def isDot (s : List Char) : Bool := s == ['.'] || s.map (·.toLower) == ['%', '2', 'e']

/-- Whether a text is two dots, each possibly as an escape. -/
def isDoubleDot (s : List Char) : Bool :=
  (isDot (s.take 1) && isDot (s.drop 1)) || (isDot (s.take 3) && isDot (s.drop 3))

/-- Whether a segment is the letter of a drive. -/
def isDrive : List Char → Bool
  | [c, d] => c.isAlpha && (d == ':' || d == '|')
  | _ => false

/-- Removes the last of the segments, given last first; the letter of a drive stays. -/
def dropLastSegment : List (List Char) → List (List Char)
  | [] => []
  | s :: ss => if isDrive s then s :: ss else ss

/-- The segments of pieces between slashes, after segments given last first. -/
def collectSegments (done : List (List Char)) : List (List Char) → List (List Char)
  | [] => done.reverse
  | p :: ps =>
    let close (done : List (List Char)) := if ps = [] then [] :: done else done
    if isDoubleDot p then collectSegments (close (dropLastSegment done)) ps
    else if isDot p then collectSegments (close done) ps
    else collectSegments (p :: done) ps

/-- The pieces between the slashes of a text, encoded. -/
def pieces (special : Bool) (cs : List Char) : List (List Char) :=
  (splitAt (isSlash special) cs).map (Percent.encode Percent.path)

/-- The path of a text whose first slash has been taken off. -/
def readSegments (special : Bool) (cs : List Char) : List (List Char) :=
  collectSegments [] (pieces special cs)

/-- A text without one slash at its start. -/
def dropSlash (special : Bool) : List Char → List Char
  | c :: cs => if isSlash special c then cs else c :: cs
  | [] => []

/-! ## Host -/

/-- The host between brackets, if a text begins with one. -/
def readBrackets (cs : List Char) : Option (Except ParseError Host) :=
  match cs with
  | '[' :: inner =>
    some (if inner.getLast? = some ']' then (readIpv6 inner.dropLast).map .ipv6
      else .error .invalidIpv6)
  | _ => none

/-- The host of a URL whose scheme is special. -/
def readHost (cs : List Char) : Except ParseError Host :=
  match readBrackets cs with
  | some h => h
  | none =>
    match decode? (Percent.decode cs) with
    | none => .error .invalidDomain
    | some name => do
      let ascii ← domainToAscii name
      if ascii = [] then throw .emptyHost
      else if endsInNumber ascii then return .ipv4 (← readIpv4 ascii)
      else return .domain ascii

/-- Characters that no host has. -/
def deniedInHost (c : Char) : Bool :=
  "\x00\t\n\r #/:<>?@[\\]^|".toList.contains c

/-- The host of a URL whose scheme is not special. -/
def readPlainHost (cs : List Char) : Except ParseError Host :=
  match readBrackets cs with
  | some h => h
  | none =>
    if cs.any deniedInHost then .error .invalidHostCharacter
    else .ok (.domain (Percent.encode (fun c => Percent.notControl c) cs))

/-- The text of a host and what follows it; a colon between brackets does not end it. -/
def splitHost (inside : Bool) : List Char → List Char × List Char
  | [] => ([], [])
  | c :: cs =>
    if c = ':' ∧ inside = false then ([], c :: cs)
    else
      let inside := if c = '[' then true else if c = ']' then false else inside
      let (host, rest) := splitHost inside cs
      (c :: host, rest)

/-- The port at the start of a text, unless it is the scheme's own, and what follows its digits. -/
def readPort (scheme cs : List Char) : Except ParseError (Option Nat × List Char) :=
  let ds := cs.takeWhile (·.isDigit)
  let rest := cs.dropWhile (·.isDigit)
  let n := digitsValue 10 ds
  if 65535 < n then .error .invalidPort
  else if rest.head?.any (· != '\\') then .error .invalidPort
  else .ok (if ds = [] ∨ defaultPort scheme = some n then none else some n, rest)

/-! ## Authority -/

/-- The user and the password before the last at sign of an authority, and what follows it. -/
def splitLogin (cs : List Char) : Option (List Char) × List Char :=
  match cs.reverse.dropWhile (· != '@') with
  | [] => (none, cs)
  | _ :: before => (some before.reverse, (cs.reverse.takeWhile (· != '@')).reverse)

/-- The encoded user and password of a login; an empty password is none. -/
def readLogin (cs : List Char) : List Char × Option (List Char) :=
  let (user, rest) := breakAt (· == ':') cs
  let password := rest.drop 1
  (Percent.encode Percent.userinfo user,
    if password = [] then none else some (Percent.encode Percent.userinfo password))

/-- The authority that a text without slashes is, and what of the text belongs to the path;
`followed` says whether anything comes after the text. -/
def readAuthority (scheme cs : List Char) (followed : Bool) :
    Except ParseError (Authority × List Char) := do
  let special := isSpecial scheme
  let (login, place) := splitLogin cs
  if login = some [] ∧ place = [] ∧ followed then throw .emptyHost
  let (user, password) := readLogin (login.getD [])
  let (name, rest) := splitHost false place
  if special ∧ name = [] then throw .emptyHost
  let host ← if special then readHost name else readPlainHost name
  if host = .domain [] ∧ rest.head? = some ':' then throw .emptyHost
  let (port, rest) ← match rest with
    | ':' :: digits => readPort scheme digits
    | rest => .ok (none, rest)
  if host = .domain [] ∧ (user ≠ [] ∨ password.isSome) then throw .emptyHost
  return (⟨user, password, host, port⟩, rest)

/-- What stands between a scheme and the query. -/
abbrev Body := Option Authority × Path

/-- The authority and the path after two slashes. -/
def readAfterSlashes (scheme cs : List Char) (followed : Bool) : Except ParseError Body := do
  let special := isSpecial scheme
  let (front, path) := breakAt (isSlash special) cs
  let (authority, rest) ← readAuthority scheme front (followed || path ≠ [])
  let path := rest ++ path
  let segments :=
    if special ∨ path ≠ [] then readSegments special (dropSlash special path) else []
  return (some authority, .segments segments)

/-! ## Files -/

/-- The segments of a file's path, whether the letter of a drive among them makes the host
meaningless, after segments given last first. -/
def collectFileSegments (done : List (List Char)) (drive : Bool) :
    List (List Char) → List (List Char) × Bool
  | [] => (done.reverse, drive)
  | p :: ps =>
    let close (done : List (List Char)) := if ps = [] then [] :: done else done
    if isDoubleDot p then collectFileSegments (close (dropLastSegment done)) drive ps
    else if isDot p then collectFileSegments (close done) drive ps
    else if done = [] ∧ isDrive p then collectFileSegments [p.take 1 ++ [':']] true ps
    else collectFileSegments (p :: done) drive ps

/-- The path of a file, and whether its host is meaningless.  Empty segments at the start go. -/
def readFilePath (cs : List Char) : List (List Char) × Bool :=
  let (segments, drive) := collectFileSegments [] false (pieces true (dropSlash true cs))
  match segments.dropWhile (· == []) with
  | [] => ([[]], drive)
  | kept => (kept, drive)

/-- The authority of a file: only a host, which is empty for the machine itself. -/
def fileAuthority (host : Host) : Authority :=
  ⟨[], none, if host = .domain "localhost".toList then .domain [] else host, none⟩

/-- The authority and the path of a file. -/
def readFile (cs : List Char) : Except ParseError Body :=
  let here (cs : List Char) : Body :=
    (some (fileAuthority (.domain [])), .segments (readFilePath cs).1)
  match cs with
  | a :: b :: rest =>
    if isSlash true a ∧ isSlash true b then
      let (name, path) := breakAt (isSlash true) rest
      if isDrive name then .ok (here rest)
      else do
        let host ← if name = [] then pure (.domain []) else readHost name
        let (segments, drive) := readFilePath path
        return (some (fileAuthority (if drive then .domain [] else host)), .segments segments)
    else .ok (here cs)
  | cs => .ok (here cs)

/-! ## Whole URLs -/

/-- The authority and the path after a scheme. -/
def readBody (scheme cs : List Char) (followed : Bool) : Except ParseError Body :=
  if isFile scheme then readFile cs
  else if isSpecial scheme then readAfterSlashes scheme (cs.dropWhile (isSlash true)) followed
  else match cs with
    | '/' :: '/' :: rest => readAfterSlashes scheme rest followed
    | '/' :: rest => .ok (none, .segments (readSegments false rest))
    | cs => .ok (none, .opaquePath (Percent.encode Percent.notControl cs))

/-- **Reads** a URL that stands by itself. -/
def parse (text : List Char) : Except ParseError Url :=
  match readScheme (clean text) with
  | none => .error .relativeWithoutBase
  | some (scheme, rest) => do
    let (front, fragment) := breakAt (· == '#') rest
    let (body, query) := breakAt (· == '?') front
    let followed := query ≠ [] || fragment ≠ []
    let (authority, path) ← readBody scheme body followed
    let keep := if isSpecial scheme then Percent.specialQuery else Percent.query
    return {
      scheme := scheme
      authority := authority
      path := path
      query := if query = [] then none else some (Percent.encode keep (query.drop 1))
      fragment :=
        if fragment = [] then none else some (Percent.encode Percent.fragment (fragment.drop 1)) }

/-- Reads a URL. -/
def ofString (s : String) : Except ParseError Url := parse s.toList

end RestLoom.Url
