/-!
# Url/Basic — URLs as records, and their text

    scheme ":" ["//" [user [":" password] "@"] host [":" port]] path ["?" query] ["#" fragment]

A path is opaque text or a list of segments; only the latter can serve as a base.  `render` writes a
URL.  A URL without an authority whose path would begin with two slashes gets `/.` in front, so that
reading it back does not find an authority.
-/

namespace RestLoom

/-- The host of a URL. -/
inductive Url.Host where
  | domain (name : List Char)
  | ipv4 (address : Nat)
  | ipv6 (pieces : List Nat)
  deriving DecidableEq

/-- What stands between the two slashes and the path. -/
structure Url.Authority where
  user : List Char
  password : Option (List Char)
  host : Url.Host
  port : Option Nat
  deriving DecidableEq

/-- The path of a URL: opaque text, or segments each of which a slash precedes. -/
inductive Url.Path where
  | opaquePath (text : List Char)
  | segments (names : List (List Char))
  deriving DecidableEq

/-- A parsed URL. -/
structure Url where
  scheme : List Char
  authority : Option Url.Authority
  path : Url.Path
  query : Option (List Char)
  fragment : Option (List Char)
  deriving DecidableEq

namespace Url

/-- Why a text is no URL. -/
inductive ParseError where
  | emptyHost
  | invalidDomain
  | invalidPort
  | invalidIpv4
  | invalidIpv6
  | invalidHostCharacter
  | relativeWithoutBase
  deriving DecidableEq

/-- The wording of a parse error. -/
def ParseError.message : ParseError → String
  | emptyHost => "empty host"
  | invalidDomain => "invalid international domain name"
  | invalidPort => "invalid port number"
  | invalidIpv4 => "invalid IPv4 address"
  | invalidIpv6 => "invalid IPv6 address"
  | invalidHostCharacter => "invalid domain character"
  | relativeWithoutBase => "relative URL without a base"

/-! ## Schemes -/

/-- The default ports of the special schemes; the scheme of files has none. -/
def defaultPort (scheme : List Char) : Option Nat :=
  if scheme = "http".toList ∨ scheme = "ws".toList then some 80
  else if scheme = "https".toList ∨ scheme = "wss".toList then some 443
  else if scheme = "ftp".toList then some 21
  else none

/-- Whether a scheme is that of files. -/
def isFile (scheme : List Char) : Bool := scheme == "file".toList

/-- Whether a scheme is special: its URLs have a host and segments, and a backslash in them counts
as a slash. -/
def isSpecial (scheme : List Char) : Bool := isFile scheme || (defaultPort scheme).isSome

/-! ## Text -/

/-- The decimal digits of a number. -/
def decimal (n : Nat) : List Char := (toString n).toList

/-- The four parts of an address, most significant first. -/
def renderIpv4 (a : Nat) : List Char :=
  decimal (a / 16777216 % 256) ++ '.' :: decimal (a / 65536 % 256) ++
    '.' :: decimal (a / 256 % 256) ++ '.' :: decimal (a % 256)

/-- The number of zeros at the start of the pieces. -/
def zeroRun (ps : List Nat) : Nat := (ps.takeWhile (· == 0)).length

/-- The start and length of the first longest run of zeros, among runs of at least two. -/
def longestZeroRun (ps : List Nat) : Option (Nat × Nat) :=
  (List.range ps.length).foldl (fun best i =>
    let n := zeroRun (ps.drop i)
    match best with
    | none => if 2 ≤ n then some (i, n) else none
    | some (_, m) => if m < n then some (i, n) else best) none

/-- Pieces in small hexadecimal digits with colons between them. -/
def renderPieces (ps : List Nat) : List Char :=
  ((ps.map (Nat.toDigits 16)).intersperse [':']).flatten

/-- An address between brackets, its first longest run of zeros written as two colons. -/
def renderIpv6 (ps : List Nat) : List Char :=
  let inner := match longestZeroRun ps with
    | none => renderPieces ps
    | some (i, n) => renderPieces (ps.take i) ++ [':', ':'] ++ renderPieces (ps.drop (i + n))
  '[' :: inner ++ [']']

/-- The text of a host. -/
def Host.render : Host → List Char
  | domain name => name
  | ipv4 a => renderIpv4 a
  | ipv6 ps => renderIpv6 ps

/-- The text of an authority with its two slashes. -/
def Authority.render (a : Authority) : List Char :=
  let login :=
    if a.user = [] ∧ a.password = none then []
    else a.user ++ (match a.password with | none => [] | some p => ':' :: p) ++ ['@']
  let port := match a.port with | none => [] | some p => ':' :: decimal p
  ['/', '/'] ++ login ++ a.host.render ++ port

/-- The text of a path. -/
def Path.render : Path → List Char
  | opaquePath text => text
  | segments names => names.flatMap ('/' :: ·)

/-- The text of a URL. -/
def render (u : Url) : List Char :=
  let authority := match u.authority with
    | some a => a.render
    | none =>
      match u.path with
      | .segments ([] :: _ :: _) => ['/', '.']
      | _ => []
  let query := match u.query with | none => [] | some q => '?' :: q
  let fragment := match u.fragment with | none => [] | some f => '#' :: f
  u.scheme ++ ':' :: authority ++ u.path.render ++ query ++ fragment

/-- The text of a URL. -/
def toString (u : Url) : String := String.ofList u.render

/-- Whether a URL can serve as a base. -/
def canBeBase (u : Url) : Bool :=
  match u.path with
  | .opaquePath _ => false
  | .segments _ => true

end Url

end RestLoom
