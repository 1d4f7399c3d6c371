import RestLoom.Proofs.Client.SameServer
import RestLoom.Proofs.Url.Body
import RestLoom.Proofs.Url.Form

/-!
# Proofs/Client/QueryPairs — the pairs of a request arrive as they are

    "/a?x=1#top"  ·  ("q", "a&b=c"), ("q", "")   ──url──▸   /a?x=1&q=a%26b%3Dc&q=#top   ──▸   same pairs

The text of a base address has no question mark and no number sign, so the query of a URL is that of
the path, and the pairs of the request come after it.  Reading the query gives the pairs that stood
in the path and then all of the others (`url_pairs`); nothing else of the URL depends on them.
-/

namespace RestLoom.Client

open RestLoom.Text
open RestLoom.Url (IsScheme IsBody writeBody)

/-! ## What is expected -/

/-- The pairs of a query as texts; bytes that are no text are replaced. -/
def textPairs (query : List Char) : List (String × String) :=
  (Url.decodePairs query).map fun p =>
    (String.ofList (decodeLossy p.1), String.ofList (decodeLossy p.2))

/-- The query of a path as it is written: what counts of it between the first question mark and the
first number sign. -/
def pathQuery (path : String) : List Char := (Url.queryOf (Url.cleanEnd path.toList)).drop 1

/-! ## The text of a base -/

variable {base u : Url} {r : Request}

/-- A base without query and fragment is a scheme, and an authority and segments. -/
theorem exists_isBody {text : List Char} (hparse : Url.parse text = .ok base)
    (hbase : base.canBeBase = true) (hquery : base.query = none) (hfragment : base.fragment = none) :
    ∃ scheme authority segs, IsScheme scheme ∧ IsBody scheme authority segs ∧
      base = ⟨scheme, authority, .segments segs, none, none⟩ := by
  obtain ⟨scheme, rest, hscheme, authority, path, hread, rfl⟩ := Url.parse_eq_ok.mp hparse
  cases path with
  | opaquePath text => cases hbase
  | segments segs =>
    have heta : Url.urlOf scheme authority (.segments segs) rest =
        ⟨scheme, authority, .segments segs, (Url.urlOf scheme authority (.segments segs) rest).query,
          (Url.urlOf scheme authority (.segments segs) rest).fragment⟩ := rfl
    rw [hquery, hfragment] at heta
    exact ⟨scheme, authority, segs, Url.isScheme_of_readScheme hscheme,
      (Url.isBody_of_readBody hread).1, heta⟩

/-- **A path is put behind a slash** of a text that no path begins or ends in. -/
theorem exists_joined {scheme : List Char} {authority : Option Url.Authority}
    {segs : List (List Char)} (hbody : IsBody scheme authority segs) :
    ∃ front, (∀ c ∈ front, Url.endsPath c = false) ∧ ∀ path,
      Request.joined ⟨scheme, authority, .segments segs, none, none⟩ path =
        scheme ++ ':' :: (front ++ '/' :: path.dropWhile (· == '/')) := by
  have hends : ∀ c ∈ writeBody authority segs, Url.endsPath c = false := fun c hc => hbody.endsPath hc
  have hjoined (path : List Char) :
      Request.joined ⟨scheme, authority, .segments segs, none, none⟩ path =
      (if (scheme ++ ':' :: writeBody authority segs).getLast? = some '/' then
          scheme ++ ':' :: writeBody authority segs
        else scheme ++ ':' :: writeBody authority segs ++ ['/']) ++ path.dropWhile (· == '/') := by
    rw [Request.joined, Url.render_eq]
  obtain hnil | ⟨front, c, heq⟩ := List.eq_nil_or_concat' (writeBody authority segs)
  · refine ⟨[], List.forall_mem_nil _, fun path => ?_⟩
    rw [hjoined, hnil, if_neg, List.append_assoc]
    · simp only [List.append_assoc, List.cons_append, List.nil_append]
    · rw [List.getLast?_concat]
      exact fun h => absurd (Option.some.inj h) (by decide)
  · have hlast : (scheme ++ ':' :: writeBody authority segs).getLast? = some c := by
      rw [heq, ← List.cons_append, ← List.append_assoc, List.getLast?_concat]
    rw [heq] at hends hjoined hlast
    by_cases hc : c = '/'
    · subst hc
      refine ⟨front, fun d hd => hends d (List.mem_append_left _ hd), fun path => ?_⟩
      rw [hjoined, if_pos hlast]
      simp only [List.append_assoc, List.cons_append, List.nil_append]
    · refine ⟨front ++ [c], hends, fun path => ?_⟩
      rw [hjoined, if_neg fun h => hc (Option.some.inj (hlast.symm.trans h))]
      simp only [List.append_assoc, List.cons_append, List.nil_append]

/-! ## The query -/

/-- The slashes in front of a path have no part in its query. -/
theorem queryOf_dropWhile (path : List Char) :
    Url.queryOf (Url.cleanEnd (path.dropWhile (· == '/'))) = Url.queryOf (Url.cleanEnd path) := by
  induction path with
  | nil => rfl
  | cons c path ih =>
    by_cases hc : c = '/'
    · subst hc
      have hclean : Url.cleanEnd ('/' :: path) = ['/'] ++ Url.cleanEnd path := by
        rw [Url.cleanEnd, ← List.nil_append ('/' :: path), dropEndWhile_append_cons (by decide)]
        rfl
      rw [List.dropWhile_cons_of_pos (by decide), ih, hclean,
        (Url.parts_append (List.forall_mem_singleton.mpr rfl) _).2.1]
    · rw [List.dropWhile_cons_of_neg (by simpa using hc)]

/-- **The escapes of a query** change nothing of its pairs. -/
theorem decodePairs_urlOf (scheme : List Char) (authority : Option Url.Authority) (p : Url.Path)
    (rest : List Char) : Url.decodePairs ((Url.urlOf scheme authority p rest).query.getD []) =
      Url.decodePairs ((Url.queryOf rest).drop 1) := by
  rw [Url.urlOf]
  dsimp only
  split
  next hnil => rw [hnil]; rfl
  next =>
    rw [Option.getD_some]
    split
    · exact Url.decodePairs_encode Url.keepsPairs_specialQuery _
    · exact Url.decodePairs_encode Url.keepsPairs_query _

/-- **The pairs that are added** come after those that are there. -/
theorem decodePairs_withPairs (u : Url) (ps : List Url.Pair) :
    Url.decodePairs ((u.withPairs ps).query.getD []) =
      Url.decodePairs (u.query.getD []) ++ ps.map fun p => (utf8 p.1, utf8 p.2) := by
  rw [Url.withPairs]
  split
  next hnil => rw [hnil, List.map_nil, List.append_nil]
  next => exact Url.decodePairs_foldl_appendPair _ _

theorem textPairs_utf8 (ps : List (String × String)) :
    ((ps.map fun p => (p.1.toList, p.2.toList)).map fun p => (utf8 p.1, utf8 p.2)).map
        (fun p => (String.ofList (decodeLossy p.1), String.ofList (decodeLossy p.2))) = ps := by
  rw [List.map_map, List.map_map]
  refine (List.map_congr_left fun p _ => ?_).trans (List.map_id ps)
  rw [Function.comp_apply, Function.comp_apply, decodeLossy_utf8, decodeLossy_utf8,
    String.ofList_toList, String.ofList_toList]
  rfl

/-- How a request comes to have a URL. -/
theorem url_eq_ok : r.url base = .ok u ↔ ∃ v, Url.parse (Request.joined base r.path.toList) = .ok v ∧
    u = v.withPairs (r.query.map fun p => (p.1.toList, p.2.toList)) := by
  rw [Request.url]
  cases Url.parse (Request.joined base r.path.toList) with
  | error e =>
    constructor
    · rintro ⟨⟩
    · rintro ⟨v, ⟨⟩, -⟩
  | ok v =>
    constructor
    · intro h
      exact ⟨v, rfl, (Except.ok.inj h).symm⟩
    · rintro ⟨_, ⟨⟩, rfl⟩
      rfl

/-- **Query pairs arrive as they are**: the query of a URL has the pairs of the path, and then all
pairs of the request with their names and values.  Without these pairs the request has the same
scheme, authority, path and fragment. -/
theorem url_pairs {text : List Char} (hparse : Url.parse text = .ok base)
    (hbase : base.canBeBase = true) (hquery : base.query = none) (hfragment : base.fragment = none)
    (h : r.url base = .ok u) :
    textPairs (u.query.getD []) = textPairs (pathQuery r.path) ++ r.query ∧
      ∃ v, ({ r with query := [] } : Request).url base = .ok v ∧
        textPairs (v.query.getD []) = textPairs (pathQuery r.path) ∧ u.scheme = v.scheme ∧
        u.authority = v.authority ∧ u.path = v.path ∧ u.fragment = v.fragment := by
  obtain ⟨scheme, authority, segs, hscheme, hbody, rfl⟩ :=
    exists_isBody hparse hbase hquery hfragment
  obtain ⟨front, hfront, hjoined⟩ := exists_joined hbody
  obtain ⟨v, hv, rfl⟩ := url_eq_ok.mp h
  have hpairs : Url.decodePairs (v.query.getD []) = Url.decodePairs (pathQuery r.path) := by
    rw [hjoined] at hv
    obtain ⟨a, p, -, rfl⟩ := (Url.parse_append_slash hscheme hfront).mp hv
    rw [decodePairs_urlOf, queryOf_dropWhile, pathQuery]
  have hrest (ps : List Url.Pair) : (v.withPairs ps).fragment = v.fragment := by
    rw [Url.withPairs]
    split <;> rfl
  obtain ⟨hsameScheme, hsameAuthority⟩ :=
    sameServer_withPairs v (r.query.map fun p => (p.1.toList, p.2.toList))
  refine ⟨?_, v, url_eq_ok.mpr ⟨v, hv, rfl⟩, ?_, hsameScheme, hsameAuthority, path_withPairs _ _,
    hrest _⟩
  · rw [textPairs, decodePairs_withPairs, hpairs, List.map_append, textPairs_utf8, textPairs]
  · rw [textPairs, hpairs, textPairs]

/-- A request whose path has a query and a fragment, with pairs full of separators. -/
def searchRequest : Request where
  verb := .get
  path := "/a?x=1&&y#top"
  query := [("a&b", "c=d#"), ("", ""), ("x", "é +")]
  body := none
  cancel := none

/-- The URL of the search. -/
def searchUrl : Url where
  scheme := "http".toList
  authority := some ⟨[], none, .domain "h".toList, none⟩
  path := .segments ["a".toList]
  query := some "x=1&&y&a%26b=c%3Dd%23&=&x=%C3%A9+%2B".toList
  fragment := some "top".toList

/-- The pairs of the search arrive after those of its path. -/
theorem searchUrl_pairs : searchRequest.url hostBase = .ok searchUrl ∧
    textPairs (searchUrl.query.getD []) =
      [("x", "1"), ("y", "")] ++ [("a&b", "c=d#"), ("", ""), ("x", "é +")] := by
  have hparse : Url.parse "http://h/".toList = .ok hostBase := by decide +kernel
  have hurl : searchRequest.url hostBase = .ok searchUrl := rfl
  obtain ⟨hpairs, -⟩ := url_pairs hparse rfl rfl rfl hurl
  have hown : textPairs (pathQuery searchRequest.path) = [("x", "1"), ("y", "")] := by
    decide +kernel
  rw [hown] at hpairs
  exact ⟨hurl, hpairs⟩

end RestLoom.Client
