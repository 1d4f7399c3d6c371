import Mathlib.Data.Bool.AllAny
import RestLoom.Client.Request
import RestLoom.Proofs.Client.Address
import RestLoom.Proofs.Path.Parts
import RestLoom.Proofs.Url.Web

/-!
# Proofs/Client/PathValues — values in their own segments of the path

    base https://host/api/  ·  "/notes/{id}"  ·  id = "a/b"   ──url──▸   https://host/api/notes/a%2Fb

The text of a URL is the base address and the filled template, and it is read like any other URL.
Encoding keeps slashes out of a value, but not dots: a value of one dot or two goes as its path is
read, and an empty value in front goes with the slashes there.  `url_path_iff` says that nothing
else can happen.
-/

namespace RestLoom.Client

open RestLoom.Text
open RestLoom.Path (Template Segment)
open RestLoom.Url (IsWeb IsBase IsRead IsKept IsSegment IsReadableHost)

/-! ## What is expected -/

/-- The value of a place as it stands in a path. -/
def encodedValue (value : List Char → String) (name : List Char) : Option (List Char) :=
  some (Request.encodePathValue (value name)).toList

/-- The path that a template has when each place takes the encoding of its value. -/
def filledPath (t : Template) (value : List Char → String) : String :=
  String.ofList (t.fill (encodedValue value))

/-- A segment that a part of a template stands for: a word is the segment itself, and the segment of
a place decodes to the value of the place. -/
def StandsFor (value : List Char → String) : Segment → List Char → Prop
  | .literal text, s => s = text
  | .placeholder name, s => Percent.decode s = utf8 (value name).toList

/-- The path with segments put in place of the empty one that ends it. -/
def pathUnder : Url.Path → List (List Char) → Url.Path
  | .opaquePath text, _ => .opaquePath text
  | .segments names, segs => .segments (names.dropLast ++ if segs = [] then [[]] else segs)

/-- Whether the address of a URL can be read back from its text. -/
def IsReadableAddress (base : Url) : Prop := ∀ a, base.authority = some a → IsReadableHost a.host

/-! ## The parts of the path -/

variable {value : List Char → String}

theorem filled_placeholder (name : List Char) :
    (Segment.placeholder name).filled (encodedValue value) =
      Percent.encode Percent.unreserved (value name).toList := by
  change (Request.encodePathValue (value name)).toList = _
  rw [Request.encodePathValue, String.toList_ofList]

theorem standsFor_filled (p : Segment) : StandsFor value p (p.filled (encodedValue value)) := by
  cases p with
  | literal text => rfl
  | placeholder name =>
    rw [StandsFor, filled_placeholder]
    exact Percent.decode_encode rfl _

/-- The characters of words and of encoded values. -/
theorem of_mem_filled {p : Segment} (h : p.IsPart) {c : Char}
    (hc : c ∈ p.filled (encodedValue value)) : Percent.unreserved c = true ∨
      Percent.inEscape c = true := by
  cases p with
  | literal text =>
    left
    simp only [Percent.unreserved, Percent.isAlnum, Bool.or_eq_true, beq_iff_eq]
    obtain hc | hc | hc := h.2 c hc
    · simp [hc]
    · simp [hc]
    · simp [hc]
  | placeholder name =>
    rw [filled_placeholder] at hc
    exact (Percent.mem_encode hc).imp_left fun h => h.2

theorem path_of_mem_filled {p : Segment} (h : p.IsPart) {c : Char}
    (hc : c ∈ p.filled (encodedValue value)) :
    Percent.path c = true ∧ Url.isSlash true c = false := by
  obtain hc | hc := of_mem_filled h hc
  · exact ⟨Percent.path_of_unreserved hc, forall_ascii (P := fun c =>
      Percent.unreserved c = true → Url.isSlash true c = false) (by decide)
      (Percent.toNat_lt_of_unreserved hc) hc⟩
  · exact ⟨Percent.path_of_inEscape hc, Url.isSlash_of_inEscape hc⟩

/-- The values that a path keeps in their segments: none is one dot or two. -/
def NoDots (value : List Char → String) (parts : List Segment) : Prop :=
  ∀ name, .placeholder name ∈ parts → value name ≠ "." ∧ value name ≠ ".."

/-- **A part is a segment** unless its value is one dot or two. -/
theorem isSegment_filled {parts : List Segment} (hparts : ∀ p ∈ parts, p.IsPart)
    (hdots : NoDots value parts) {p : Segment} (hp : p ∈ parts) :
    IsSegment true (p.filled (encodedValue value)) := by
  refine ⟨?_, fun c hc => (path_of_mem_filled (hparts p hp) hc).1,
    fun c hc => (path_of_mem_filled (hparts p hp) hc).2⟩
  cases p with
  | literal text =>
    refine Url.isKept_of_forall fun c hc => ⟨?_, ?_⟩
    all_goals
      rintro rfl
      obtain hc | hc | hc := (hparts _ hp).2 _ hc
      all_goals exact absurd hc (by decide)
  | placeholder name =>
    rw [filled_placeholder, Url.isKept_encode_iff]
    obtain ⟨hone, htwo⟩ := hdots name hp
    exact ⟨fun h => hone (String.toList_inj.mp h), fun h => htwo (String.toList_inj.mp h)⟩

/-! ## The text of the URL -/

/-- **A base address of the web** can have paths put under it. -/
theorem exists_isBase {address : String} {base : Url}
    (h : normalizeBaseAddress address = .ok base) (hweb : IsWeb base.scheme) :
    ∃ a front, IsBase base a front := by
  obtain ⟨-, hparse, -, hquery, hfragment⟩ := normalizeBaseAddress_eq_ok.mp h
  exact Url.isBase_of_parse hparse hweb.namesHost.special hweb.namesHost.notFile hquery hfragment

variable {base : Url} {a : Url.Authority} {front : List (List Char)} {t : Template}
  {parts : List Segment} {r : Request}

/-- The text that is read as the path of a URL: the segments of the base and a path. -/
def pathText (front : List (List Char)) (path : List Char) : List Char :=
  join ['/'] (front ++ [[]]) ++ path.dropWhile (· == '/')

theorem joined_of_isBase (h : IsBase base a front) (path : List Char) :
    Request.joined base path = Url.webText base.scheme a (pathText front path) := by
  obtain ⟨hrender, hlast⟩ := h.render
  rw [Request.joined, if_pos hlast, hrender, Url.webText, Url.webText, pathText]
  simp only [List.append_assoc, List.cons_append]

/-- The URL that a text after the address of a base is read as. -/
def urlUnder (base : Url) (a : Url.Authority) (text : List Char) : Url :=
  Url.urlOf base.scheme (some a)
    (.segments (Url.readSegments true (Url.bodyOf (Url.cleanEnd text)))) (Url.cleanEnd text)

/-- **The URL of a request** under a base address of the web, whatever its path is. -/
theorem url_eq_ok_iff (h : IsBase base a front) {u : Url} :
    r.url base = .ok u ↔ IsReadableHost a.host ∧
      u = (urlUnder base a (pathText front r.path.toList)).withPairs
        (r.query.map fun p => (p.1.toList, p.2.toList)) := by
  rw [Request.url, joined_of_isBase h]
  constructor
  · intro hurl
    split at hurl
    next => cases hurl
    next v hparse =>
      obtain ⟨hhost, rfl⟩ := (Url.parse_webText h.scheme h.read).mp hparse
      cases hurl
      exact ⟨hhost, rfl⟩
  · rintro ⟨hhost, rfl⟩
    rw [(Url.parse_webText h.scheme h.read).mpr ⟨hhost, rfl⟩]
    rfl

/-- A text without blanks and marks is all path. -/
theorem urlUnder_of_endsPath {text : List Char} (htext : ∀ c ∈ text, Url.endsPath c = false) :
    urlUnder base a text =
      ⟨base.scheme, some a, .segments (Url.readSegments true text), none, none⟩ := by
  obtain ⟨hbody, hquery, hfragment⟩ := Url.parts_of_forall htext
  rw [urlUnder, Url.cleanEnd_of_endsPath htext, hbody, Url.urlOf, hquery, hfragment]
  rfl

theorem path_withPairs (u : Url) (ps : List Url.Pair) : (u.withPairs ps).path = u.path := by
  rw [Url.withPairs]
  split <;> rfl

/-- The text of a filled template: its filled parts with slashes between them. -/
abbrev partsText (value : List Char → String) (parts : List Segment) : List Char :=
  join ['/'] (parts.map (Segment.filled (encodedValue value)))

theorem isSlash_of_mem_partsText (value : List Char → String) (hparts : ∀ p ∈ parts, p.IsPart) :
    ∀ s ∈ parts.map (Segment.filled (encodedValue value)), ∀ c ∈ s, Url.isSlash true c = false := by
  intro s hs c hc
  obtain ⟨p, hp, rfl⟩ := List.mem_map.mp hs
  exact (path_of_mem_filled (hparts p hp) hc).2

theorem endsPath_of_mem_partsText (hparts : ∀ p ∈ parts, p.IsPart) {c : Char}
    (hc : c ∈ partsText value parts) : Url.endsPath c = false := by
  obtain rfl | ⟨s, hs, hc⟩ := mem_join hc
  · rfl
  · obtain ⟨p, hp, rfl⟩ := List.mem_map.mp hs
    exact Url.endsPath_of_path (path_of_mem_filled (hparts p hp) hc).1

/-- No character of the path ends it. -/
theorem endsPath_of_mem_pathText (hfront : ∀ s ∈ front, IsSegment true s) (ht : t.IsPlain parts)
    {c : Char} (hc : c ∈ pathText front (t.fill (encodedValue value))) : Url.endsPath c = false := by
  obtain hc | hc := List.mem_append.mp hc
  · obtain rfl | ⟨s, hs, hc⟩ := mem_join hc
    · rfl
    · obtain hs | hs := List.mem_append.mp hs
      · exact Url.endsPath_of_path ((hfront s hs).encoded c hc)
      · rw [List.mem_singleton.mp hs] at hc
        cases hc
  · have hc := (List.dropWhile_sublist _).mem hc
    obtain heq | heq := Path.Template.fill_of_isPlain ht (encodedValue value)
    · rw [heq] at hc
      exact endsPath_of_mem_partsText ht.isPart hc
    · rw [heq, List.mem_cons] at hc
      obtain rfl | hc := hc
      · rfl
      · exact endsPath_of_mem_partsText ht.isPart hc

/-! ## Slashes in front -/

/-- **An empty value in front** of other parts is the one case in which the slashes between parts
stand in front of the path. -/
def FirstNotEmpty (value : List Char → String) (parts : List Segment) : Prop :=
  ∀ name rest, parts = .placeholder name :: rest → rest ≠ [] → value name ≠ ""

theorem dropWhile_fill (ht : t.IsPlain parts) (value : List Char → String) :
    (t.fill (encodedValue value)).dropWhile (· == '/') =
      (partsText value parts).dropWhile (· == '/') := by
  obtain heq | heq := Path.Template.fill_of_isPlain ht (encodedValue value)
  · rw [heq]
  · rw [heq]
    rfl

theorem dropWhile_slash {text rest : List Char} (h : ∀ c ∈ text, Url.isSlash true c = false)
    (hne : text ≠ [] ∨ rest = []) : (text ++ rest).dropWhile (· == '/') = text ++ rest := by
  cases text with
  | nil =>
    obtain rfl := hne.resolve_left (fun hne => hne rfl)
    rfl
  | cons c text =>
    have hc := h c List.mem_cons_self
    rw [Url.isSlash, Bool.or_eq_false_iff] at hc
    rw [List.cons_append, List.dropWhile_cons_of_neg (by rw [hc.1]; exact Bool.false_ne_true)]

/-- The path of a filled template begins with its first part. -/
theorem dropWhile_partsText (hparts : ∀ p ∈ parts, p.IsPart) (hfirst : FirstNotEmpty value parts) :
    (partsText value parts).dropWhile (· == '/') = partsText value parts := by
  have hslash := isSlash_of_mem_partsText value hparts
  cases parts with
  | nil => rfl
  | cons p rest =>
    rw [List.map_cons, List.forall_mem_cons] at hslash
    cases rest with
    | nil =>
      have hdrop := dropWhile_slash hslash.1 (.inr rfl)
      rw [List.append_nil] at hdrop
      exact hdrop
    | cons next rest =>
      have hne : p.filled (encodedValue value) ≠ [] := by
        cases p with
        | literal text => exact (hparts _ List.mem_cons_self).1
        | placeholder name =>
          rw [filled_placeholder]
          intro hnil
          have hvalue := Percent.encode_eq_nil.mp hnil
          exact hfirst name _ rfl (List.cons_ne_nil _ _) (String.toList_eq_nil_iff.mp hvalue)
      have hmap : (next :: rest).map (Segment.filled (encodedValue value)) ≠ [] :=
        List.cons_ne_nil _ _
      rw [partsText, List.map_cons, join_cons _ _ hmap, List.append_assoc]
      exact dropWhile_slash hslash.1 (.inl hne)

/-- With an empty value in front the path has too few segments. -/
theorem length_readSegments_lt (hfront : ∀ s ∈ front, IsSegment true s) (ht : t.IsPlain parts)
    {name : List Char} {rest : List Segment} (hparts : parts = .placeholder name :: rest)
    (hne : rest ≠ []) (hempty : value name = "") :
    (Url.readSegments true (pathText front (t.fill (encodedValue value)))).length <
      front.length + parts.length := by
  subst hparts
  have hmap : rest.map (Segment.filled (encodedValue value)) ≠ [] := by simpa using hne
  have hslash := isSlash_of_mem_partsText value ht.isPart
  rw [List.map_cons, List.forall_mem_cons] at hslash
  have hdrop : (t.fill (encodedValue value)).dropWhile (· == '/') =
      (partsText value rest).dropWhile (· == '/') := by
    rw [dropWhile_fill ht, partsText, List.map_cons, join_cons _ _ hmap, filled_placeholder, hempty]
    rfl
  have hbase : ∀ s ∈ front ++ [[]], ∀ c ∈ s, Url.isSlash true c = false := by
    rw [List.forall_mem_append, List.forall_mem_singleton]
    exact ⟨fun s hs => (hfront s hs).slashless, nofun⟩
  have hbaseCount := countP_join (d := '/') rfl
    (List.append_ne_nil_of_right_ne_nil front (List.cons_ne_nil _ _)) hbase
  have hrestCount : (partsText value rest).countP (Url.isSlash true) + 1 = _ :=
    countP_join rfl hmap hslash.2
  have hdropCount := (List.dropWhile_sublist (· == '/') (l := partsText value rest)).countP_le
    (p := Url.isSlash true)
  have hle := Url.length_collectSegments_le []
    (Url.pieces true (pathText front (t.fill (encodedValue value))))
  rw [Url.pieces, List.length_map, length_splitAt, pathText, hdrop, List.countP_append] at hle
  rw [Url.readSegments, Url.pieces, pathText, hdrop]
  rw [List.length_append] at hbaseCount
  rw [List.length_map] at hrestCount
  simp only [List.length_cons, List.length_nil] at *
  omega

/-! ## The path -/

/-- **The path of a request** under a base address of the web, when no value is dots and no empty
one is in front. -/
theorem readSegments_pathText (hfront : ∀ s ∈ front, IsSegment true s) (ht : t.IsPlain parts)
    (hdots : NoDots value parts) (hfirst : FirstNotEmpty value parts) :
    Url.readSegments true (pathText front (t.fill (encodedValue value))) =
      front ++ if parts = [] then [[]] else parts.map (Segment.filled (encodedValue value)) := by
  rw [pathText, dropWhile_fill ht, dropWhile_partsText ht.isPart hfirst]
  by_cases hparts : parts = []
  · subst hparts
    rw [if_pos rfl]
    refine (congrArg (Url.readSegments true) (List.append_nil _)).trans ?_
    refine Url.readSegments_join (List.append_ne_nil_of_right_ne_nil front (List.cons_ne_nil _ _)) ?_
    rw [List.forall_mem_append, List.forall_mem_singleton]
    exact ⟨hfront, Url.isSegment_nil⟩
  · have hmap : parts.map (Segment.filled (encodedValue value)) ≠ [] := by simpa using hparts
    rw [if_neg hparts, partsText, join_concat_nil_append front hmap]
    refine Url.readSegments_join (List.append_ne_nil_of_right_ne_nil front hmap) ?_
    rw [List.forall_mem_append, List.forall_mem_map]
    exact ⟨hfront, fun p hp => isSegment_filled ht.isPart hdots hp⟩

/-- **Values stay in their own segments of the path**, and the request has a URL at all, exactly if
no value is one dot or two, an empty value does not stand in front of other parts, and the address
can be read back. -/
theorem url_path_iff {address : String} (hbase : normalizeBaseAddress address = .ok base)
    (hweb : IsWeb base.scheme) (ht : t.IsPlain parts) (hpath : r.path = filledPath t value) :
    (∃ u segs, r.url base = .ok u ∧ u.path = pathUnder base.path segs ∧
      List.Forall₂ (StandsFor value) parts segs) ↔
      NoDots value parts ∧ FirstNotEmpty value parts ∧ IsReadableAddress base := by
  obtain ⟨a, front, h⟩ := exists_isBase hbase hweb
  have htext : r.path.toList = t.fill (encodedValue value) := by
    rw [hpath, filledPath, String.toList_ofList]
  have hends : ∀ c ∈ pathText front r.path.toList, Url.endsPath c = false := by
    rw [htext]
    exact fun c hc => endsPath_of_mem_pathText h.segments ht hc
  have hauthority : base.authority = some a := by rw [h.eq]
  have hunder (segs : List (List Char)) :
      pathUnder base.path segs = .segments (front ++ if segs = [] then [[]] else segs) := by
    rw [h.eq, pathUnder, List.dropLast_concat]
  constructor
  · rintro ⟨u, segs, hurl, hsegments, hstands⟩
    obtain ⟨hhost, rfl⟩ := (url_eq_ok_iff h).mp hurl
    rw [path_withPairs, urlUnder_of_endsPath hends, hunder, htext] at hsegments
    have hread := Url.Path.segments.inj hsegments
    refine ⟨fun name hname => ?_, fun name rest hparts hne hempty => ?_, ?_⟩
    · obtain ⟨s, hs, hdecode⟩ := Outcome.exists_of_mem_left hstands hname
      have hmem : s ∈ Url.readSegments true (pathText front (t.fill (encodedValue value))) := by
        rw [hread, if_neg (List.ne_nil_of_mem hs)]
        exact List.mem_append_right _ hs
      have hkept := (Url.isSegment_of_mem_readSegments hmem).kept
      rw [StandsFor] at hdecode
      constructor
      · intro heq
        rw [heq] at hdecode
        exact absurd (Url.isDot_iff.mpr hdecode) (by rw [hkept.2]; exact Bool.false_ne_true)
      · intro heq
        rw [heq] at hdecode
        exact absurd (Url.isDoubleDot_iff.mpr hdecode) (by rw [hkept.1]; exact Bool.false_ne_true)
    · have hlt := length_readSegments_lt h.segments ht hparts hne hempty
      have hlength := hstands.length_eq
      rw [hread, if_neg, List.length_append, ← hlength] at hlt
      · exact Nat.lt_irrefl _ hlt
      · rintro rfl
        rw [hparts] at hlength
        cases hlength
    · intro b hb
      rw [hauthority] at hb
      cases hb
      exact hhost
  · rintro ⟨hdots, hfirst, hhost⟩
    refine ⟨_, parts.map (Segment.filled (encodedValue value)),
      (url_eq_ok_iff h).mpr ⟨hhost a hauthority, rfl⟩, ?_, ?_⟩
    · rw [path_withPairs, urlUnder_of_endsPath hends, hunder, htext,
        readSegments_pathText h.segments ht hdots hfirst]
      simp only [List.map_eq_nil_iff]
    · rw [List.forall₂_map_right_iff, List.forall₂_same]
      exact fun p _ => standsFor_filled p

/-! ## Notes of a host -/

/-- The base address of a host `h`. -/
def hostBase : Url where
  scheme := "http".toList
  authority := some ⟨[], none, .domain "h".toList, none⟩
  path := .segments [[]]
  query := none
  fragment := none

/-- The template of one note. -/
def noteTemplate : Template := Template.ofString "/notes/{id}"

/-- The parts of `noteTemplate`. -/
def noteParts : List Segment := [.literal "notes".toList, .placeholder "id".toList]

theorem normalizeBaseAddress_host : normalizeBaseAddress "http://h" = .ok hostBase := by
  decide +kernel

/-- The name of the host has no codes. -/
theorem isReadableAddress_host : IsReadableAddress hostBase := by
  rintro a ⟨⟩ name ⟨⟩ label hlabel code hcode
  have hplain : dropStart? Url.codeMark label = none := by
    rw [List.mem_singleton.mp hlabel]
    decide
  rw [hplain] at hcode
  cases hcode

theorem isPlain_noteTemplate : noteTemplate.IsPlain noteParts := by
  refine ⟨.inr (by decide), ?_⟩
  rw [noteParts, List.forall_mem_cons, List.forall_mem_singleton]
  exact ⟨⟨by decide, List.all_iff_forall_prop.mp (by decide)⟩,
    ⟨by decide, List.all_iff_forall_prop.mp (by decide)⟩⟩

/-- A slash in a value stays in the segment of the value. -/
theorem exists_noteUrl_of_slash : ∃ u segs,
    (Request.new .get (filledPath noteTemplate fun _ => "a/b")).url hostBase = .ok u ∧
      u.path = pathUnder hostBase.path segs ∧
        List.Forall₂ (StandsFor fun _ => "a/b") noteParts segs := by
  have hpath : (Request.new .get (filledPath noteTemplate fun _ => "a/b")).path =
      filledPath noteTemplate fun _ => "a/b" := rfl
  have hdots : "a/b" ≠ "." ∧ "a/b" ≠ ".." := by decide
  have hempty : "a/b" ≠ "" := by decide
  refine (url_path_iff normalizeBaseAddress_host (.inl rfl) isPlain_noteTemplate hpath).mpr
    ⟨fun _ _ => hdots, fun _ _ _ _ => hempty, isReadableAddress_host⟩

/-- **Two dots do not stay** in their segment: they take the word before them along. -/
theorem not_exists_noteUrl_of_dots :
    normalizeBaseAddress "http://h" = .ok hostBase ∧ IsWeb hostBase.scheme ∧
      noteTemplate.IsPlain noteParts ∧ ¬∃ u segs,
        (Request.new .get (filledPath noteTemplate fun _ => "..")).url hostBase = .ok u ∧
          u.path = pathUnder hostBase.path segs ∧
            List.Forall₂ (StandsFor fun _ => "..") noteParts segs := by
  refine ⟨normalizeBaseAddress_host, .inl rfl, isPlain_noteTemplate, ?_⟩
  rintro ⟨u, segs, hurl, hpath, hstands⟩
  have hroot : (Request.new .get (filledPath noteTemplate fun _ => "..")).url hostBase =
      .ok hostBase := rfl
  rw [hroot] at hurl
  cases hurl
  have hlength := hstands.length_eq
  have hsegments := congrArg List.length (Url.Path.segments.inj hpath)
  have hne : segs ≠ [] := by
    rintro rfl
    cases hlength
  rw [if_neg hne, List.dropLast_singleton, List.nil_append, ← hlength] at hsegments
  cases hsegments

end RestLoom.Client
