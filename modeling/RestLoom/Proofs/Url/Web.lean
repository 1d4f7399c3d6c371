import Mathlib.Data.Bool.AllAny
import RestLoom.Proofs.Url.Authority
import RestLoom.Proofs.Url.Scheme
import RestLoom.Proofs.Url.Segments

/-!
# Proofs/Url/Web — URLs that name a host are read back from their text

    http://user@host:8080/a/b  ──parse──▸  authority, [a, b]  ──render──▸  http://user@host:8080/a/b

Such a URL is its scheme, an authority and a path.  No part of it holds a character that a later
part begins with, so its text is taken apart where it was put together (`parse_webText`).
-/

namespace RestLoom.Url

open RestLoom.Text

/-- The schemes of the web. -/
def IsWeb (scheme : List Char) : Prop := scheme = "http".toList ∨ scheme = "https".toList

/-- Whether a character ends a path or does not count in one. -/
def endsPath (c : Char) : Bool := c.toNat ≤ 0x20 || c == '#' || c == '?'

/-- The text of a scheme, an authority and a path without its first slash. -/
def webText (scheme : List Char) (a : Authority) (path : List Char) : List Char :=
  scheme ++ ':' :: '/' :: '/' :: (innerText a ++ '/' :: path)

/-! ## Parts of the text -/

/-- What the special schemes are but that of files: a URL of theirs names a host. -/
structure NamesHost (scheme : List Char) : Prop where
  isScheme : IsScheme scheme
  special : isSpecial scheme = true
  notFile : isFile scheme = false

theorem IsWeb.namesHost {scheme : List Char} (h : IsWeb scheme) : NamesHost scheme := by
  have hread : readScheme (scheme ++ [':']) = some (scheme, []) := by
    obtain rfl | rfl := h
    all_goals rfl
  refine ⟨isScheme_of_readScheme hread, ?_, ?_⟩
  all_goals obtain rfl | rfl := h
  all_goals rfl

/-! ## What counts of a text -/

/-- What counts of a text that stands after a slash. -/
def cleanEnd (text : List Char) : List Char :=
  (dropEndWhile isEdge text).filter fun c => !isSkipped c

theorem isEdge_eq_false {c : Char} (h : 0x20 < c.toNat) : isEdge c = false :=
  decide_eq_false (Nat.not_le.mpr h)

theorem isSkipped_eq_false {c : Char} (h : 0x20 < c.toNat) : isSkipped c = false := by
  rw [isSkipped, Bool.or_eq_false_iff, Bool.or_eq_false_iff]
  refine ⟨⟨?_, ?_⟩, ?_⟩
  all_goals
    rw [beq_eq_false_iff_ne]
    rintro rfl
    exact absurd h (by decide)

theorem filter_isSkipped {text : List Char} (h : ∀ c ∈ text, 0x20 < c.toNat) :
    text.filter (fun c => !isSkipped c) = text :=
  List.filter_eq_self.mpr fun c hc => by rw [isSkipped_eq_false (h c hc), Bool.not_false]

theorem dropWhile_isEdge {text : List Char} (h : ∀ c ∈ text, 0x20 < c.toNat) :
    text.dropWhile isEdge = text := by
  rw [List.dropWhile_eq_self_iff]
  intro hlength
  rw [isEdge_eq_false (h _ (List.getElem_mem hlength))]
  exact Bool.false_ne_true

/-- Text without blanks, tabs and line ends counts as it is. -/
theorem cleanEnd_eq_self {text : List Char} (h : ∀ c ∈ text, 0x20 < c.toNat) :
    cleanEnd text = text := by
  rw [cleanEnd, dropEndWhile, dropWhile_isEdge fun c hc => h c (List.mem_reverse.mp hc),
    List.reverse_reverse, filter_isSkipped h]

/-- **The text in front of a slash counts as it is**, whatever stands after the slash. -/
theorem clean_append_slash {front : List Char} (h : ∀ c ∈ front, 0x20 < c.toNat)
    (text : List Char) : clean (front ++ '/' :: text) = front ++ '/' :: cleanEnd text := by
  have hdrop : (front ++ '/' :: text).dropWhile isEdge = front ++ '/' :: text := by
    rw [List.dropWhile_append, dropWhile_isEdge h]
    split
    next hnil =>
      rw [List.isEmpty_iff.mp hnil]
      rfl
    next => rfl
  rw [clean, hdrop, dropEndWhile_append_cons (by decide), List.filter_append, filter_isSkipped h,
    List.filter_cons_of_pos (by decide), cleanEnd]

theorem endsPath_of_endsAuthority {c : Char} (h : endsAuthority c = false) : endsPath c = false := by
  rw [endsAuthority, Bool.or_eq_false_iff] at h
  rw [endsPath, h.1, Bool.false_or, Bool.or_eq_false_iff, beq_eq_false_iff_ne, beq_eq_false_iff_ne]
  refine ⟨?_, ?_⟩
  all_goals
    rintro rfl
    exact absurd h.2 (by decide)

theorem isSlash_of_endsAuthority {c : Char} (h : endsAuthority c = false) :
    isSlash true c = false := by
  rw [endsAuthority, Bool.or_eq_false_iff] at h
  rw [isSlash, Bool.true_and, Bool.or_eq_false_iff, beq_eq_false_iff_ne, beq_eq_false_iff_ne]
  refine ⟨?_, ?_⟩
  all_goals
    rintro rfl
    exact absurd h.2 (by decide)

theorem innerText_ne_nil {scheme : List Char} {a : Authority} (h : IsRead scheme a)
    (hspecial : isSpecial scheme = true) : innerText a ≠ [] := by
  rw [innerText]
  exact List.append_ne_nil_of_right_ne_nil _
    (List.append_ne_nil_of_left_ne_nil (h.render_ne_nil hspecial) _)

theorem endsPath_of_path {c : Char} (h : Percent.path c = true) : endsPath c = false := by
  have hfit := h
  rw [Percent.path, Percent.fragment, Bool.and_eq_true, Bool.and_eq_true] at hfit
  exact forall_ascii (P := fun c => Percent.path c = true → endsPath c = false) (by decide)
    (Percent.toNat_lt_of_notControl hfit.1.1) h

/-! ## Taking a URL apart -/

/-- What follows a scheme, without the fragment; then the query and the fragment with their
marks. -/
def bodyOf (rest : List Char) : List Char := (breakAt (· == '?') (breakAt (· == '#') rest).1).1

/-- The query of what follows a scheme, with its question mark. -/
def queryOf (rest : List Char) : List Char := (breakAt (· == '?') (breakAt (· == '#') rest).1).2

/-- The fragment of what follows a scheme, with its number sign. -/
def fragmentOf (rest : List Char) : List Char := (breakAt (· == '#') rest).2

/-- The URL of a scheme, an authority, a path, and the query and the fragment of what follows. -/
def urlOf (scheme : List Char) (authority : Option Authority) (path : Path) (rest : List Char) :
    Url where
  scheme := scheme
  authority := authority
  path := path
  query :=
    if queryOf rest = [] then none
    else some (Percent.encode (if isSpecial scheme then Percent.specialQuery else Percent.query)
      ((queryOf rest).drop 1))
  fragment :=
    if fragmentOf rest = [] then none
    else some (Percent.encode Percent.fragment ((fragmentOf rest).drop 1))

/-- **How a URL comes to be read.** -/
theorem parse_eq_ok {text : List Char} {u : Url} :
    parse text = .ok u ↔ ∃ scheme rest, readScheme (clean text) = some (scheme, rest) ∧
      ∃ authority path, readBody scheme (bodyOf rest)
        (queryOf rest ≠ [] || fragmentOf rest ≠ []) = .ok (authority, path) ∧
          u = urlOf scheme authority path rest := by
  unfold parse
  cases hscheme : readScheme (clean text) with
  | none => simp
  | some found =>
    obtain ⟨scheme, rest⟩ := found
    simp only [Outcome.bind_eq_ok, Outcome.pure_eq_ok, Prod.exists]
    constructor
    · rintro ⟨authority, path, hbody, rfl⟩
      exact ⟨scheme, rest, rfl, authority, path, hbody, rfl⟩
    · rintro ⟨_, _, ⟨⟩, authority, path, hbody, rfl⟩
      exact ⟨authority, path, hbody, rfl⟩

/-- **How an authority and a path come to be read.** -/
theorem readAfterSlashes_iff {scheme cs : List Char} {followed : Bool} {found : Body} :
    readAfterSlashes scheme cs followed = .ok found ↔ ∃ a rest,
      readAuthority scheme (breakAt (isSlash (isSpecial scheme)) cs).1
        (followed || (breakAt (isSlash (isSpecial scheme)) cs).2 ≠ []) = .ok (a, rest) ∧
      found = (some a, .segments
        (if isSpecial scheme = true ∨ rest ++ (breakAt (isSlash (isSpecial scheme)) cs).2 ≠ [] then
          readSegments (isSpecial scheme) (dropSlash (isSpecial scheme)
            (rest ++ (breakAt (isSlash (isSpecial scheme)) cs).2))
        else [])) := by
  rw [readAfterSlashes]
  simp only [Outcome.bind_eq_ok, Outcome.pure_eq_ok, Prod.exists]

theorem readAfterSlashes_eq_ok {scheme cs : List Char} {followed : Bool} {found : Body}
    (hspecial : isSpecial scheme = true) :
    readAfterSlashes scheme cs followed = .ok found ↔ ∃ a rest,
      readAuthority scheme (breakAt (isSlash true) cs).1
        (followed || (breakAt (isSlash true) cs).2 ≠ []) = .ok (a, rest) ∧
      found = (some a, .segments
        (readSegments true (dropSlash true (rest ++ (breakAt (isSlash true) cs).2)))) := by
  rw [readAfterSlashes_iff, hspecial]
  simp only [true_or, if_true]

/-- The two slashes after a scheme that names a host do not count, and neither do more of them. -/
theorem readBody_of_namesHost {scheme cs : List Char} (hspecial : isSpecial scheme = true)
    (hfile : isFile scheme = false) (followed : Bool) :
    readBody scheme cs followed = readAfterSlashes scheme (cs.dropWhile (isSlash true)) followed := by
  unfold readBody
  rw [hfile, hspecial, if_neg Bool.false_ne_true, if_pos rfl]

/-! ## Reading back -/

/-- The marks of a query and of a fragment are looked for after text that has none. -/
theorem parts_append {front : List Char} (h : ∀ c ∈ front, endsPath c = false) (rest : List Char) :
    bodyOf (front ++ rest) = front ++ bodyOf rest ∧ queryOf (front ++ rest) = queryOf rest ∧
      fragmentOf (front ++ rest) = fragmentOf rest := by
  have hfragment : ∀ c ∈ front, (c == '#') = false := fun c hc => by
    have hfit := h c hc
    rw [endsPath, Bool.or_eq_false_iff, Bool.or_eq_false_iff] at hfit
    exact hfit.1.2
  have hquery : ∀ c ∈ front, (c == '?') = false := fun c hc => by
    have hfit := h c hc
    rw [endsPath, Bool.or_eq_false_iff] at hfit
    exact hfit.2
  simp only [bodyOf, queryOf, fragmentOf, breakAt_append_of_forall hfragment,
    breakAt_append_of_forall hquery, and_self]

theorem lt_of_endsPath {c : Char} (h : endsPath c = false) : 0x20 < c.toNat := by
  rw [endsPath, Bool.or_eq_false_iff, Bool.or_eq_false_iff, decide_eq_false_iff_not] at h
  exact Nat.not_le.mp h.1.1

theorem cleanEnd_of_endsPath {text : List Char} (h : ∀ c ∈ text, endsPath c = false) :
    cleanEnd text = text :=
  cleanEnd_eq_self fun c hc => lt_of_endsPath (h c hc)

/-- Text without marks has neither query nor fragment. -/
theorem parts_of_forall {rest : List Char} (h : ∀ c ∈ rest, endsPath c = false) :
    bodyOf rest = rest ∧ queryOf rest = [] ∧ fragmentOf rest = [] := by
  have hparts := parts_append h []
  rwa [List.append_nil, show bodyOf [] = [] from rfl, List.append_nil] at hparts

theorem dropWhile_slashes {front : List Char} (hne : front ≠ [])
    (h : ∀ c ∈ front, isSlash true c = false) (path : List Char) :
    ('/' :: '/' :: (front ++ '/' :: path)).dropWhile (isSlash true) = front ++ '/' :: path := by
  obtain ⟨c, front, rfl⟩ := List.exists_cons_of_ne_nil hne
  have hc := h c List.mem_cons_self
  change (c :: (front ++ '/' :: path)).dropWhile (isSlash true) = _
  rw [List.dropWhile_cons_of_neg (by rw [hc]; exact Bool.false_ne_true)]
  rfl

/-- What is read after a scheme that names a host, two slashes and a text with a slash after it: the
text is the authority. -/
theorem readBody_front {scheme front path : List Char} {followed : Bool} {found : Body}
    (hspecial : isSpecial scheme = true) (hfile : isFile scheme = false) (hne : front ≠ [])
    (h : ∀ c ∈ front, isSlash true c = false) :
    readBody scheme ('/' :: '/' :: (front ++ '/' :: path)) followed = .ok found ↔
      ∃ a rest, readAuthority scheme front true = .ok (a, rest) ∧
        found = (some a, .segments (readSegments true (dropSlash true (rest ++ '/' :: path)))) := by
  rw [readBody_of_namesHost hspecial hfile, dropWhile_slashes hne h, readAfterSlashes_eq_ok hspecial,
    breakAt_append_cons h rfl, decide_eq_true (List.cons_ne_nil _ _), Bool.or_true]

/-- **The text of an authority is read as it**, whatever text follows the slash after it; and it is
read at all only if the host can be read back. -/
theorem readBody_innerText {scheme path : List Char} {a : Authority} {followed : Bool} {found : Body}
    (hspecial : isSpecial scheme = true) (hfile : isFile scheme = false) (h : IsRead scheme a) :
    readBody scheme ('/' :: '/' :: (innerText a ++ '/' :: path)) followed = .ok found ↔
      IsReadableHost a.host ∧ found = (some a, .segments (readSegments true path)) := by
  rw [readBody_front hspecial hfile (innerText_ne_nil h hspecial) fun c hc =>
    isSlash_of_endsAuthority (not_endsAuthority_of_mem h hc)]
  constructor
  · rintro ⟨again, rest, hread, rfl⟩
    have hhost := isReadableHost_of_readAuthority hspecial h hread
    rw [readAuthority_innerText h fun _ => hhost] at hread
    cases hread
    exact ⟨hhost, rfl⟩
  · rintro ⟨hhost, rfl⟩
    exact ⟨a, [], readAuthority_innerText h (fun _ => hhost) _, rfl⟩

/-- **What stands in front of a slash** is read as it is, and the query and the fragment are those
of the text after it. -/
theorem parse_append_slash {scheme front path : List Char} {u : Url} (hscheme : IsScheme scheme)
    (hfront : ∀ c ∈ front, endsPath c = false) :
    parse (scheme ++ ':' :: (front ++ '/' :: path)) = .ok u ↔ ∃ authority p,
      readBody scheme (front ++ '/' :: bodyOf (cleanEnd path))
          (queryOf (cleanEnd path) ≠ [] || fragmentOf (cleanEnd path) ≠ []) = .ok (authority, p) ∧
        u = urlOf scheme authority p (cleanEnd path) := by
  have hclean : clean (scheme ++ ':' :: (front ++ '/' :: path)) =
      scheme ++ ':' :: (front ++ '/' :: cleanEnd path) := by
    have hcut (text : List Char) : scheme ++ ':' :: (front ++ '/' :: text) =
        (scheme ++ ':' :: front) ++ '/' :: text := by
      simp only [List.append_assoc, List.cons_append]
    rw [hcut, hcut, clean_append_slash]
    simp only [List.forall_mem_append, List.forall_mem_cons]
    exact ⟨fun c hc => hscheme.lt_of_mem hc, by decide, fun c hc => lt_of_endsPath (hfront c hc)⟩
  have hfront' : ∀ c ∈ front ++ ['/'], endsPath c = false := by
    rw [List.forall_mem_append, List.forall_mem_singleton]
    exact ⟨hfront, rfl⟩
  have hcut (text : List Char) : front ++ '/' :: text = front ++ ['/'] ++ text :=
    (List.append_assoc front ['/'] text).symm
  obtain ⟨hbody, hquery, hfragment⟩ := parts_append hfront' (cleanEnd path)
  have hurl (authority : Option Authority) (p : Path) :
      urlOf scheme authority p (front ++ '/' :: cleanEnd path) =
        urlOf scheme authority p (cleanEnd path) := by
    rw [hcut]
    simp only [urlOf, hquery, hfragment]
  rw [parse_eq_ok, hclean, hscheme.readScheme]
  constructor
  · rintro ⟨_, _, ⟨⟩, authority, p, hread, rfl⟩
    rw [hcut, hbody, hquery, hfragment, ← hcut] at hread
    exact ⟨authority, p, hread, hurl _ _⟩
  · rintro ⟨authority, p, hread, rfl⟩
    refine ⟨scheme, _, rfl, authority, p, ?_, (hurl _ _).symm⟩
    rw [hcut, hbody, hquery, hfragment, ← hcut]
    exact hread

/-- **The text of a scheme and an authority is read as these**, whatever text follows the slash
after them; and it is read at all only if the host can be read back. -/
theorem parse_webText {scheme path : List Char} {a : Authority} {u : Url}
    (hscheme : NamesHost scheme) (h : IsRead scheme a) :
    parse (webText scheme a path) = .ok u ↔ IsReadableHost a.host ∧
      u = urlOf scheme (some a) (.segments (readSegments true (bodyOf (cleanEnd path))))
        (cleanEnd path) := by
  have hslashes : ∀ c ∈ '/' :: '/' :: innerText a, endsPath c = false := by
    rw [List.forall_mem_cons, List.forall_mem_cons]
    exact ⟨rfl, rfl, fun c hc => endsPath_of_endsAuthority (not_endsAuthority_of_mem h hc)⟩
  refine (parse_append_slash hscheme.isScheme hslashes).trans ?_
  constructor
  · rintro ⟨authority, p, hread, rfl⟩
    obtain ⟨hhost, ⟨⟩⟩ := (readBody_innerText hscheme.special hscheme.notFile h).mp hread
    exact ⟨hhost, rfl⟩
  · rintro ⟨hhost, rfl⟩
    exact ⟨some a, _, (readBody_innerText hscheme.special hscheme.notFile h).mpr ⟨hhost, rfl⟩, rfl⟩

/-! ## Base addresses -/

/-- A URL that names a host and whose path ends in a slash: its authority, and the segments before
the last slash. -/
structure IsBase (u : Url) (a : Authority) (front : List (List Char)) : Prop where
  scheme : NamesHost u.scheme
  read : IsRead u.scheme a
  segments : ∀ s ∈ front, IsSegment true s
  eq : u = ⟨u.scheme, some a, .segments (front ++ [[]]), none, none⟩

theorem exists_clean_concat (text : List Char) : ∃ t, clean (text ++ ['/']) = t ++ ['/'] := by
  have hdrop : ∃ t, (text ++ ['/']).dropWhile isEdge = t ++ ['/'] := by
    refine exists_concat_of_append (List.takeWhile_append_dropWhile (p := isEdge)) ?_
    rw [ne_eq, List.dropWhile_eq_nil_iff, not_forall]
    refine ⟨'/', fun h => ?_⟩
    exact absurd (h (List.mem_append_right _ List.mem_cons_self)) (by decide)
  obtain ⟨t, ht⟩ := hdrop
  rw [clean, ht, dropEndWhile_of_getLast (by decide), List.filter_append]
  exact ⟨_, rfl⟩

theorem exists_concat_of_readScheme {t scheme rest : List Char}
    (h : readScheme (t ++ ['/']) = some (scheme, rest)) : ∃ r, rest = r ++ ['/'] := by
  unfold readScheme at h
  split at h
  next heq =>
    split at h
    next =>
      split at h
      next found hdrop =>
        obtain rfl := (Prod.mk.inj (Option.some.inj h)).2
        have happend := List.takeWhile_append_dropWhile (p := inScheme) (l := t ++ ['/'])
        rw [hdrop] at happend
        obtain ⟨r, hr⟩ := exists_concat_of_append happend (List.cons_ne_nil _ _)
        cases r with
        | nil => exact absurd (List.cons.inj hr).1 (by decide)
        | cons c r => exact ⟨r, (List.cons.inj hr).2⟩
      next => cases h
    next => cases h
  next => cases h

theorem readAuthority_nil {scheme rest : List Char} {a : Authority} {followed : Bool}
    (hspecial : isSpecial scheme = true) : readAuthority scheme [] followed ≠ .ok (a, rest) :=
  fun h => ((readAuthority_eq_ok hspecial rfl rfl).mp h).2.1 rfl

/-- The path of a text that ends in a slash ends in an empty segment. -/
theorem exists_readSegments_dropSlash (special : Bool) (r : List Char) :
    ∃ front, readSegments special (dropSlash special (r ++ ['/'])) = front ++ [[]] := by
  cases r with
  | nil => exact ⟨[], rfl⟩
  | cons c r =>
    rw [List.cons_append, dropSlash]
    split
    · exact exists_readSegments_concat r
    · exact exists_readSegments_concat (c :: r)

/-- **What is read after two slashes**, and how the path ends if the text ends in a slash. -/
theorem exists_of_readAfterSlashes {scheme cs : List Char} {followed : Bool} {found : Body}
    (h : readAfterSlashes scheme cs followed = .ok found) :
    ∃ a segs, found = (some a, .segments segs) ∧ IsRead scheme a ∧
      (∀ s ∈ segs, IsSegment (isSpecial scheme) s) ∧
      ((∃ r, cs = r ++ ['/']) → ∃ front, segs = front ++ [[]]) := by
  obtain ⟨a, rest, hread, rfl⟩ := readAfterSlashes_iff.mp h
  refine ⟨a, _, rfl, isRead_of_readAuthority hread, fun s hs => ?_, ?_⟩
  · split at hs
    next => exact isSegment_of_mem_readSegments hs
    next => cases hs
  · rintro ⟨r, rfl⟩
    obtain ⟨path, hpath⟩ := exists_breakAt_concat (p := isSlash (isSpecial scheme)) (d := '/') rfl r
    have happend : rest ++ (path ++ ['/']) = (rest ++ path) ++ ['/'] := (List.append_assoc _ _ _).symm
    rw [hpath, happend, if_pos (.inr (List.append_ne_nil_of_right_ne_nil _ (List.cons_ne_nil _ _)))]
    exact exists_readSegments_dropSlash _ _

/-- What is read after a scheme that names a host, and how the path ends if the text ends in a
slash. -/
theorem exists_of_readBody {scheme cs : List Char} {followed : Bool} {found : Body}
    (hspecial : isSpecial scheme = true) (hfile : isFile scheme = false)
    (h : readBody scheme cs followed = .ok found) :
    ∃ a segs, found = (some a, .segments segs) ∧ IsRead scheme a ∧ (∀ s ∈ segs, IsSegment true s) ∧
      ((∃ r, cs = r ++ ['/']) → ∃ front, segs = front ++ [[]]) := by
  rw [readBody_of_namesHost hspecial hfile] at h
  obtain ⟨a, segs, hfound, hread, hsegments, hend⟩ := exists_of_readAfterSlashes h
  rw [hspecial] at hsegments
  refine ⟨a, segs, hfound, hread, hsegments, ?_⟩
  rintro ⟨r, rfl⟩
  refine hend (exists_concat_of_append List.takeWhile_append_dropWhile fun hnil => ?_)
  -- Without anything but slashes there is no authority.
  obtain ⟨a, rest, hread, -⟩ := (readAfterSlashes_eq_ok hspecial).mp h
  rw [hnil] at hread
  exact readAuthority_nil hspecial hread

/-- **A URL without query and fragment** that was read from a text with a slash at its end: what was
read after its scheme ends in the slash too. -/
theorem exists_readBody_of_parse {text : List Char} {u : Url} (h : parse (text ++ ['/']) = .ok u)
    (hquery : u.query = none) (hfragment : u.fragment = none) :
    IsScheme u.scheme ∧ u = ⟨u.scheme, u.authority, u.path, none, none⟩ ∧
      ∃ r, readBody u.scheme (r ++ ['/']) false = .ok (u.authority, u.path) := by
  obtain ⟨scheme, rest, hscheme, authority, path, hbody, rfl⟩ := parse_eq_ok.mp h
  obtain ⟨t, ht⟩ := exists_clean_concat text
  rw [ht] at hscheme
  obtain ⟨r, rfl⟩ := exists_concat_of_readScheme hscheme
  have hnoquery : queryOf (r ++ ['/']) = [] := by
    by_contra hne
    rw [urlOf, if_neg hne] at hquery
    cases hquery
  have hnofragment : fragmentOf (r ++ ['/']) = [] := by
    by_contra hne
    rw [urlOf, if_neg hne] at hfragment
    cases hfragment
  have hwhole : bodyOf (r ++ ['/']) = r ++ ['/'] := by
    have hfront := breakAt_append (p := (· == '#')) (r ++ ['/'])
    have hback := breakAt_append (p := (· == '?')) (breakAt (· == '#') (r ++ ['/'])).1
    rw [queryOf] at hnoquery
    rw [fragmentOf] at hnofragment
    rw [hnoquery, List.append_nil] at hback
    rw [hnofragment, List.append_nil] at hfront
    exact hback.trans hfront
  rw [hwhole, hnoquery, hnofragment] at hbody
  refine ⟨isScheme_of_readScheme hscheme, ?_, r, hbody⟩
  rw [urlOf, if_pos hnoquery, if_pos hnofragment]

/-- **A URL that names a host**, was read from a text with a slash at its end, and has neither query
nor fragment can have paths put under it. -/
theorem isBase_of_parse {text : List Char} {u : Url} (h : parse (text ++ ['/']) = .ok u)
    (hspecial : isSpecial u.scheme = true) (hfile : isFile u.scheme = false) (hquery : u.query = none)
    (hfragment : u.fragment = none) : ∃ a front, IsBase u a front := by
  obtain ⟨hscheme, heq, r, hbody⟩ := exists_readBody_of_parse h hquery hfragment
  obtain ⟨a, segs, hfound, hread, hsegments, hend⟩ := exists_of_readBody hspecial hfile hbody
  obtain ⟨front, rfl⟩ := hend ⟨r, rfl⟩
  obtain ⟨hauthority, hpath⟩ := Prod.mk.inj hfound
  rw [hauthority, hpath] at heq
  exact ⟨a, front, ⟨hscheme, hspecial, hfile⟩, hread,
    fun s hs => hsegments s (List.mem_append_left _ hs), heq⟩

/-- **The text of a base address** ends in a slash. -/
theorem IsBase.render {u : Url} {a : Authority} {front : List (List Char)} (h : IsBase u a front) :
    u.render = webText u.scheme a (join ['/'] (front ++ [[]])) ∧ u.render.getLast? = some '/' := by
  have hpath : (front ++ [[]]).flatMap ('/' :: ·) = '/' :: join ['/'] (front ++ [[]]) :=
    flatMap_cons_eq_join (List.append_ne_nil_of_right_ne_nil front (List.cons_ne_nil _ _))
  have hrender : u.render = u.scheme ++ ':' :: (Authority.render a ++
      (front ++ [[]]).flatMap ('/' :: ·)) := by
    rw [h.eq]
    change u.scheme ++ ':' :: a.render ++ (front ++ [[]]).flatMap ('/' :: ·) ++ [] ++ [] = _
    rw [List.append_nil, List.append_nil, List.append_assoc, List.cons_append]
  constructor
  · rw [hrender, hpath, Authority.render_eq]
    rfl
  · rw [hrender, List.flatMap_append, ← List.append_assoc, ← List.cons_append, ← List.append_assoc]
    exact List.getLast?_concat

end RestLoom.Url
