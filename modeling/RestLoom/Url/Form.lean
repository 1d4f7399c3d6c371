import RestLoom.Url.Basic
import RestLoom.Percent.Basic
import RestLoom.Text.Lines

/-!
# Url/Form — pairs in a query

    [("a b", "1"), ("c", "é")]  ──▸  a+b=1&c=%C3%A9

A query holds pairs of a name and a value.  Letters, digits and four marks stand for themselves, a
plus sign for a blank, and escapes for the rest.  `decodePairs` reads the pairs of a query.
-/

namespace RestLoom.Url

open RestLoom.Text

/-- A pair of the query. -/
abbrev Pair := List Char × List Char

/-- A character of a name or a value in a query. -/
def formChar (c : Char) : List Char :=
  if c = ' ' then ['+'] else Percent.encodeChar Percent.form c

/-- A name or a value in a query. -/
def formText (cs : List Char) : List Char := cs.flatMap formChar

/-- A pair in a query. -/
def formPair (p : Pair) : List Char := formText p.1 ++ '=' :: formText p.2

/-- Adds a pair to a query. -/
def appendPair (query : List Char) (p : Pair) : List Char :=
  if query = [] then formPair p else query ++ '&' :: formPair p

/-- The URL with pairs added to its query; without pairs it stays as it is. -/
def withPairs (u : Url) (ps : List Pair) : Url :=
  if ps = [] then u else { u with query := some (ps.foldl appendPair (u.query.getD [])) }

/-- The bytes that a name or a value in a query stands for. -/
def formBytes (cs : List Char) : List UInt8 :=
  Percent.decode (cs.map fun c => if c = '+' then ' ' else c)

/-- The pairs of a query; empty parts are none, and a part without an equals sign has an empty
value. -/
def decodePairs (query : List Char) : List (List UInt8 × List UInt8) :=
  ((splitAt (· == '&') query).filter (· ≠ [])).map fun part =>
    let (name, rest) := breakAt (· == '=') part
    (formBytes name, formBytes (rest.drop 1))

end RestLoom.Url
