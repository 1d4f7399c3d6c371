import RestLoom.Proofs.Client.PathValues
import RestLoom.Proofs.Url.Body

/-!
# Proofs/Client/Normalized — what normalizing a base address again makes of it

    http://h/a//.  ──▸  http://h/a//  ──▸  http://h/a/  ──▸  http://h/a/

The slashes at the end of an address go before it is read, and reading can bring new ones there: a
dot after slashes goes and leaves them.  So the text of a base address need not be an address of it.
`normalizeBaseAddress_settles` says which ones are left as they are, and that the second time leaves
nothing to do.
-/

namespace RestLoom.Client

open RestLoom.Text
open RestLoom.Url (IsScheme IsBody IsReadableBody writeBody leadText hostOnly settledBody settleDrive
  beginsWithDrive isDrive isFile isSpecial innerText)

/-! ## What is expected -/

/-- A base address that is left as it is: its path ends in one slash, a host that is empty does
not stand in front of the root alone, and a drive in front of a file's path has its colon and no
host. -/
structure IsSettled (base : Url) : Prop where
  oneSlash : ∃ front, base.path = .segments (front ++ [[]]) ∧ front.getLast? ≠ some []
  rooted : base.path = .segments [[]] → base.authority = some (hostOnly (.domain [])) →
    isFile base.scheme = true
  drive : isFile base.scheme = true → ∀ s ss, base.path = .segments (s :: ss) → isDrive s = true →
    (∃ c, s = [c, ':']) ∧ base.authority = some (hostOnly (.domain []))

/-- Whether the path of a base address ends in a slash; without one there are only two slashes after
the scheme. -/
def EndsInSlash (base : Url) : Prop :=
  (∃ front, base.path = .segments (front ++ [[]])) ∨
    base.path = .segments [] ∧ base.authority = some (hostOnly (.domain []))

/-- Whether the address of a URL can be read back from its text: after a special scheme the codes of
its host have to be short. -/
def IsReadableBase (base : Url) : Prop := IsReadableBody base.scheme base.authority

/-! ## Base addresses -/

/-- The URL of a scheme and of what follows it up to the query. -/
def ofBody (scheme : List Char) (body : Url.Body) : Url := ⟨scheme, body.1, body.2, none, none⟩

/-- What a base address is: its scheme, and an authority and segments.  Two slashes alone are its
only text without a path. -/
structure IsAddress (base : Url) (segs : List (List Char)) : Prop where
  scheme : IsScheme base.scheme
  body : IsBody base.scheme base.authority segs
  eq : base = ofBody base.scheme (base.authority, .segments segs)
  ends : base.authority = some (hostOnly (.domain [])) ∧ segs = [] ∨ ∃ front, segs = front ++ [[]]

variable {base : Url} {segs kept : List (List Char)} {scheme : List Char}
  {authority : Option Url.Authority} {n : Nat}

/-- **Every base address** is one. -/
theorem exists_isAddress {address : String} (h : normalizeBaseAddress address = .ok base) :
    ∃ segs, IsAddress base segs := by
  obtain ⟨-, hparse, hbase, hquery, hfragment⟩ := normalizeBaseAddress_eq_ok.mp h
  obtain ⟨hscheme, heq, r, hread⟩ := Url.exists_readBody_of_parse hparse hquery hfragment
  cases hpath : base.path with
  | opaquePath text =>
    rw [Url.canBeBase, hpath] at hbase
    cases hbase
  | segments segs =>
    rw [hpath] at hread heq
    obtain ⟨hbody, hends⟩ := Url.isBody_of_readBody hread
    exact ⟨segs, hscheme, hbody, heq, hends ⟨r, rfl⟩⟩

theorem IsAddress.render (h : IsAddress base segs) :
    base.render = base.scheme ++ ':' :: writeBody base.authority segs := by
  rw [h.eq]
  exact Url.render_eq _ _ _

theorem IsAddress.endsInSlash (h : IsAddress base segs) : EndsInSlash base := by
  have hpath : base.path = .segments segs := by rw [h.eq]; rfl
  obtain ⟨hauthority, rfl⟩ | ⟨front, rfl⟩ := h.ends
  · exact .inr ⟨hpath, hauthority⟩
  · exact .inl ⟨front, hpath⟩

/-- **Nothing is trimmed** of the text of a base address: it begins with a letter and ends in a
slash. -/
theorem IsAddress.trim_render (h : IsAddress base segs) :
    base.render ≠ [] ∧ trim base.render = base.render := by
  obtain ⟨c, cs, hscheme, halpha⟩ := h.scheme.alpha
  have hblank : isBlank c = false := by
    refine forall_ascii (P := fun c => c.isAlpha = true → isBlank c = false) (by decide) ?_ halpha
    exact toNat_lt_of_isAlphanum (by rw [Char.isAlphanum, halpha]; rfl)
  have hslash : ∃ text, writeBody base.authority segs = text ++ ['/'] := by
    obtain ⟨hauthority, rfl⟩ | ⟨front, rfl⟩ := h.ends
    · rw [hauthority]
      exact ⟨['/'], rfl⟩
    · rw [writeBody, List.flatMap_append, ← List.append_assoc]
      exact ⟨_, rfl⟩
  obtain ⟨text, htext⟩ := hslash
  have hrender : base.render = c :: (cs ++ ':' :: text ++ ['/']) := by
    rw [h.render, htext, hscheme, List.append_assoc]
    rfl
  rw [hrender]
  exact ⟨List.cons_ne_nil _ _, trim_eq_self hblank (by decide)⟩

/-! ## The text of a base address -/

/-- Segments are some that end in no empty one, and empty ones. -/
theorem exists_kept (segs : List (List Char)) :
    ∃ kept n, segs = kept ++ List.replicate n [] ∧ kept.getLast? ≠ some [] := by
  induction segs using List.reverseRecOn with
  | nil => exact ⟨[], 0, rfl, nofun⟩
  | append_singleton front s ih =>
    by_cases hs : s = []
    · obtain ⟨kept, n, rfl, hlast⟩ := ih
      refine ⟨kept, n + 1, ?_, hlast⟩
      rw [hs, List.append_assoc, List.replicate_succ']
    · refine ⟨front ++ [s], 0, (List.append_nil _).symm, fun h => hs ?_⟩
      rw [List.getLast?_concat] at h
      exact Option.some.inj h

theorem flatMap_replicate (n : Nat) :
    (List.replicate n ([] : List Char)).flatMap ('/' :: ·) = List.replicate n '/' := by
  induction n with
  | zero => rfl
  | succ n ih =>
    rw [List.replicate_succ, List.replicate_succ, List.flatMap_cons, ih]
    rfl

theorem kept_isBody (h : IsBody scheme authority (kept ++ List.replicate n []))
    (hlast : kept.getLast? ≠ some []) : IsBody scheme authority (kept ++ [[]]) := by
  have hsegments {special : Bool}
      (h : ∀ s ∈ kept ++ List.replicate n [], Url.IsSegment special s) :
      ∀ s ∈ kept ++ [[]], Url.IsSegment special s := by
    rw [List.forall_mem_append, List.forall_mem_singleton]
    exact ⟨fun s hs => h s (List.mem_append_left _ hs), Url.isSegment_nil⟩
  cases h with
  | named hspecial hfile hread hsegs => exact .named hspecial hfile hread (hsegments hsegs)
  | file hfile hhost hpath =>
    refine .file hfile hhost ⟨hsegments hpath.segments, ?_⟩
    cases kept with
    | nil => exact .inl rfl
    | cons s kept =>
      obtain hroot | ⟨t, ts, heq, ht⟩ := hpath.front
      · obtain ⟨rfl, hnil⟩ := List.cons.inj hroot
        rw [(List.append_eq_nil_iff.mp hnil).1] at hlast
        exact absurd rfl hlast
      · rw [(List.cons.inj heq).1]
        exact .inr ⟨t, _, rfl, ht⟩
  | plain hplain hread hsegs => exact .plain hplain hread (hsegments hsegs)
  | bare hplain hsegs => exact .bare hplain (hsegments hsegs)

/-- What stands in front of the path depends on the segments that are kept. -/
theorem leadText_kept (hne : kept ≠ []) (hlast : kept.getLast? ≠ some []) :
    leadText authority (kept ++ List.replicate n []) = leadText authority (kept ++ [[]]) := by
  cases authority with
  | some a => rfl
  | none =>
    match kept with
    | [] => exact absurd rfl hne
    | [[]] => exact absurd rfl hlast
    | [] :: t :: kept => rfl
    | [c :: s] => cases n <;> rfl
    | (c :: s) :: t :: kept => rfl

/-- The authority in front of the root when it is read again: two slashes without a host go with the
slash of the path, unless the scheme is that of files. -/
def rootAuthority (scheme : List Char) (authority : Option Url.Authority) : Option Url.Authority :=
  if isFile scheme = false ∧ authority = some (hostOnly (.domain [])) then none else authority

/-- The authority in front of segments when it is read again. -/
def renewedAuthority (scheme : List Char) (authority : Option Url.Authority)
    (kept : List (List Char)) : Option Url.Authority :=
  if kept = [] then rootAuthority scheme authority else authority

/-- What is read when a text without its last slashes gets one: `kept` are the segments that do not
go with them. -/
def IsRenewed (scheme : List Char) (authority : Option Url.Authority) (kept : List (List Char))
    (front : List Char) : Prop :=
  ∀ found, Url.readBody scheme (front ++ ['/']) false = .ok found ↔ IsReadableBody scheme authority ∧
    found = settledBody scheme (renewedAuthority scheme authority kept) (kept ++ [[]])

/-- A path with segments that are kept is read again up to them. -/
theorem isRenewed_of_ne_nil (h : IsBody scheme authority (kept ++ List.replicate n []))
    (hne : kept ≠ []) (hlast : kept.getLast? ≠ some []) :
    IsRenewed scheme authority kept
      (leadText authority (kept ++ List.replicate n []) ++ kept.flatMap ('/' :: ·)) := by
  intro found
  have htext : leadText authority (kept ++ List.replicate n []) ++ kept.flatMap ('/' :: ·) ++ ['/'] =
      writeBody authority (kept ++ [[]]) := by
    rw [leadText_kept hne hlast, writeBody, List.flatMap_append, List.append_assoc]
    rfl
  rw [htext, Url.readBody_writeBody (kept_isBody h hlast)
    (List.append_ne_nil_of_right_ne_nil _ (List.cons_ne_nil _ _)), renewedAuthority, if_neg hne]

theorem settledBody_root (scheme : List Char) (authority : Option Url.Authority) :
    settledBody scheme authority [[]] = (authority, .segments [[]]) :=
  if_neg fun h => Bool.false_ne_true h.2

/-- A host in front of the root is read again. -/
theorem isRenewed_of_innerText {a : Url.Authority}
    (h : IsBody scheme (some a) (List.replicate n [])) (hne : innerText a ≠ []) :
    IsRenewed scheme (some a) [] a.render := by
  intro found
  have htext : a.render ++ ['/'] = writeBody (some a) [[]] := rfl
  have hroot : rootAuthority scheme (some a) = some a := by
    refine if_neg fun hbare => hne ?_
    rw [Option.some.inj hbare.2]
    rfl
  have hbody : IsBody scheme (some a) [[]] :=
    kept_isBody (show IsBody scheme (some a) ([] ++ List.replicate n []) from h) nofun
  rw [htext, Url.readBody_writeBody hbody (List.cons_ne_nil _ _), renewedAuthority, if_pos rfl, hroot,
    List.nil_append]

/-- An authority without text has no parts. -/
theorem eq_hostOnly_of_innerText {a : Url.Authority} (h : innerText a = []) :
    a = hostOnly (.domain []) := by
  obtain ⟨user, password, host, port⟩ := a
  obtain ⟨hlogin, hplace⟩ := List.append_eq_nil_iff.mp h
  obtain ⟨hhost, hport⟩ := List.append_eq_nil_iff.mp hplace
  have hparts : user = [] ∧ password = none := by
    by_contra hsome
    rw [Url.loginText, if_neg hsome] at hlogin
    exact List.cons_ne_nil _ _ (List.append_eq_nil_iff.mp hlogin).2
  have hname : host = .domain [] := by
    cases host with
    | domain name => exact congrArg _ hhost
    | ipv4 a => exact absurd hhost (Url.renderIpv4_ne_nil a)
    | ipv6 ps => exact absurd hhost (List.cons_ne_nil _ _)
  have hnone : port = none := by
    cases port with
    | none => rfl
    | some p => cases hport
  rw [hparts.1, hparts.2, hname, hnone]
  rfl

theorem readBody_slash (h : isSpecial scheme = false) :
    Url.readBody scheme ['/'] false = .ok (none, .segments [[]]) :=
  Url.readBody_of_bare h (show ([] : List Char).head? ≠ some '/' from nofun) false

/-- Slashes alone are read as the root, which has a host only after the scheme of files. -/
theorem isRenewed_of_hostless {a : Url.Authority} (h : IsBody scheme (some a) segs)
    (hnil : innerText a = []) : IsRenewed scheme (some a) [] [] := by
  intro found
  have hreadable : IsReadableBody scheme (some a) := fun _ b hb => by
    rw [← Option.some.inj hb, eq_hostOnly_of_innerText hnil]
    exact Url.isReadableHost_nil
  rw [List.nil_append, renewedAuthority, if_pos rfl, List.nil_append, settledBody_root, rootAuthority,
    and_iff_right hreadable]
  cases h with
  | named hspecial _ hread _ => exact absurd hnil (Url.innerText_ne_nil hread hspecial)
  | file hfile _ _ =>
    have hread : Url.readBody scheme ['/'] false =
        .ok (some (hostOnly (.domain [])), .segments [[]]) := if_pos hfile
    rw [hread, if_neg fun h => Bool.false_ne_true (h.1.symm.trans hfile),
      eq_hostOnly_of_innerText hnil]
    exact ⟨fun h => (Except.ok.inj h).symm, fun h => congrArg _ h.symm⟩
  | plain hplain _ _ =>
    rw [readBody_slash hplain, if_pos ⟨Url.isFile_of_plain hplain,
      congrArg some (eq_hostOnly_of_innerText hnil)⟩]
    exact ⟨fun h => (Except.ok.inj h).symm, fun h => congrArg _ h.symm⟩

/-- Without an authority empty segments are read as the root. -/
theorem isRenewed_none (hplain : isSpecial scheme = false) {front : List Char}
    (h : front = [] ∨ front = ['/', '.']) : IsRenewed scheme none [] front := by
  intro found
  have hreadable : IsReadableBody scheme none := fun _ _ ha => nomatch ha
  have hread : Url.readBody scheme (front ++ ['/']) false = .ok (none, .segments [[]]) := by
    obtain rfl | rfl := h
    · exact readBody_slash hplain
    · exact Url.readBody_of_bare hplain (show ['.', '/'].head? ≠ some '/' by decide) false
  rw [hread, renewedAuthority, if_pos rfl, List.nil_append, settledBody_root, rootAuthority,
    if_neg (fun h => nomatch h.2), and_iff_right hreadable]
  exact ⟨fun h => (Except.ok.inj h).symm, fun h => congrArg _ h.symm⟩

/-- Whether a text is read again with one slash in place of those at its end. -/
def Renews (scheme : List Char) (authority : Option Url.Authority) (kept : List (List Char))
    (text : List Char) : Prop :=
  ∃ front m, text = front ++ List.replicate m '/' ∧ front.getLast? ≠ some '/' ∧
    IsRenewed scheme authority kept front

/-- Only slashes follow the authority, or what stands for it. -/
theorem renews_root (h : IsBody scheme authority (List.replicate n [])) :
    Renews scheme authority [] (writeBody authority (List.replicate n [])) := by
  have hnothing : ([] : List Char).getLast? ≠ some '/' := by rintro ⟨⟩
  rw [writeBody, flatMap_replicate]
  cases authority with
  | some a =>
    by_cases hnil : innerText a = []
    · refine ⟨[], n + 2, ?_, hnothing, isRenewed_of_hostless h hnil⟩
      rw [leadText, Url.Authority.render_eq, hnil]
      rfl
    · refine ⟨a.render, n, rfl, fun hslash => ?_, isRenewed_of_innerText h hnil⟩
      have happend : a.render = ['/', '/'] ++ innerText a := Url.Authority.render_eq a
      rw [happend, List.getLast?_append_of_ne_nil _ hnil] at hslash
      exact absurd (h.not_endsAuthority rfl (List.mem_of_getLast? hslash)) (by decide)
  | none =>
    cases h with
    | bare hplain _ =>
      by_cases hn : n < 2
      · refine ⟨[], n, ?_, hnothing, isRenewed_none hplain (.inl rfl)⟩
        obtain rfl | rfl : n = 0 ∨ n = 1 := by omega
        all_goals rfl
      · obtain ⟨m, rfl⟩ := Nat.exists_eq_add_of_le' (Nat.le_of_not_lt hn)
        exact ⟨['/', '.'], m + 2, rfl, fun h => absurd (Option.some.inj h) (by decide),
          isRenewed_none hplain (.inr rfl)⟩

/-- The last segment that is kept holds no slash. -/
theorem renews_of_ne_nil (h : IsBody scheme authority (kept ++ List.replicate n []))
    (hne : kept ≠ []) (hlast : kept.getLast? ≠ some []) :
    Renews scheme authority kept (writeBody authority (kept ++ List.replicate n [])) := by
  refine ⟨leadText authority (kept ++ List.replicate n []) ++ kept.flatMap ('/' :: ·), n, ?_, ?_,
    isRenewed_of_ne_nil h hne hlast⟩
  · rw [writeBody, List.flatMap_append, flatMap_replicate, List.append_assoc]
  · obtain ⟨init, s, rfl⟩ := (List.eq_nil_or_concat' kept).resolve_left hne
    have hs : s ≠ [] := fun hnil => hlast (by rw [List.getLast?_concat, hnil])
    have hflat : (init ++ [s]).flatMap ('/' :: ·) = init.flatMap ('/' :: ·) ++ ['/'] ++ s := by
      rw [List.flatMap_append, List.flatMap_singleton, List.append_assoc]
      rfl
    rw [hflat, ← List.append_assoc, List.getLast?_append_of_ne_nil _ hs]
    intro hslash
    obtain ⟨special, hsegment⟩ := h.segments s
      (List.mem_append_left _ (List.mem_append_right _ (List.mem_singleton_self s)))
    exact Bool.noConfusion (hsegment.slashless '/' (List.mem_of_getLast? hslash))

/-- **The text of an authority and segments** is read again with one slash at its end. -/
theorem renews_writeBody (h : IsBody scheme authority (kept ++ List.replicate n []))
    (hlast : kept.getLast? ≠ some []) :
    Renews scheme authority kept (writeBody authority (kept ++ List.replicate n [])) := by
  by_cases hne : kept = []
  · subst hne
    exact renews_root h
  · exact renews_of_ne_nil h hne hlast

/-! ## Normalizing again -/

/-- A text with one slash at its end, after a scheme. -/
theorem parse_concat {front : List Char} {u : Url} (hscheme : IsScheme scheme)
    (hfront : ∀ c ∈ front, Url.endsPath c = false) :
    Url.parse (scheme ++ ':' :: (front ++ ['/'])) = .ok u ↔
      ∃ found, Url.readBody scheme (front ++ ['/']) false = .ok found ∧ u = ofBody scheme found := by
  refine (Url.parse_append_slash hscheme hfront).trans ?_
  constructor
  · rintro ⟨authority, p, hread, rfl⟩
    exact ⟨(authority, p), hread, rfl⟩
  · rintro ⟨⟨authority, p⟩, hread, rfl⟩
    exact ⟨authority, p, hread, rfl⟩

/-- The URL that is read again from a base address, given the segments that are kept. -/
def renewed (base : Url) (kept : List (List Char)) : Url :=
  ofBody base.scheme
    (settledBody base.scheme (renewedAuthority base.scheme base.authority kept) (kept ++ [[]]))

/-- **The text of a base address** is an address itself if its host can be read back, and what
becomes of it depends on the segments that are kept. -/
theorem normalizeBaseAddress_toString (h : IsAddress base (kept ++ List.replicate n []))
    (hlast : kept.getLast? ≠ some []) {again : Url} :
    normalizeBaseAddress base.toString = .ok again ↔
      IsReadableBase base ∧ again = renewed base kept := by
  obtain ⟨front, m, htext, hfront, hrenewed⟩ := renews_writeBody h.body hlast
  have hends : ∀ c ∈ front, Url.endsPath c = false := fun c hc =>
    h.body.endsPath (htext ▸ List.mem_append_left _ hc)
  have hstays : (base.scheme ++ ':' :: front).getLast? ≠ some '/' := by
    rw [List.getLast?_append_of_ne_nil _ (List.cons_ne_nil _ _), List.getLast?_cons]
    cases hfrontLast : front.getLast? with
    | none => exact fun h => absurd (Option.some.inj h) (by decide)
    | some c =>
      rw [hfrontLast] at hfront
      exact hfront
  have hdrop : dropSlashes (trim base.toString.toList) = base.scheme ++ ':' :: front := by
    rw [Url.toString, String.toList_ofList, h.trim_render.2, h.render, htext, ← List.cons_append,
      ← List.append_assoc, dropSlashes_append_slashes, dropSlashes_eq_self hstays]
  have htrim : trim base.toString.toList ≠ [] := by
    rw [Url.toString, String.toList_ofList, h.trim_render.2]
    exact h.trim_render.1
  rw [normalizeBaseAddress_eq_ok, hdrop, List.append_assoc, List.cons_append,
    parse_concat h.scheme hends, and_iff_right htrim]
  constructor
  · rintro ⟨⟨found, hread, rfl⟩, -⟩
    obtain ⟨hreadable, rfl⟩ := (hrenewed found).mp hread
    exact ⟨hreadable, rfl⟩
  · rintro ⟨hreadable, rfl⟩
    refine ⟨⟨_, (hrenewed _).mpr ⟨hreadable, rfl⟩, rfl⟩, ?_, rfl, rfl⟩
    rw [renewed, settledBody]
    split <;> rfl

/-! ## What is left as it is -/

/-- A path that ends in one slash has one empty segment at its end. -/
theorem eq_concat_of_oneSlash {front : List (List Char)} (hlast : kept.getLast? ≠ some [])
    (hone : front.getLast? ≠ some []) (heq : kept ++ List.replicate n [] = front ++ [[]]) :
    kept ++ List.replicate n [] = kept ++ [[]] := by
  match n with
  | 0 =>
    rw [List.replicate_zero, List.append_nil] at heq
    rw [heq, List.getLast?_concat] at hlast
    exact absurd rfl hlast
  | 1 => rfl
  | n + 2 =>
    rw [List.replicate_succ', ← List.append_assoc, List.replicate_succ', ← List.append_assoc] at heq
    rw [← (List.append_inj' heq rfl).1, List.getLast?_concat] at hone
    exact absurd rfl hone

theorem exists_drive {s : List Char} (h : isDrive s = true) : ∃ c, Url.driveSegment s = [c, ':'] := by
  obtain ⟨c, d, rfl, -⟩ := Url.isDrive_eq_true h
  exact ⟨c, rfl⟩

/-- Without a drive in front only the empty segments at the end go, and two slashes without a
host. -/
theorem renewed_of_not (h : ¬(isFile base.scheme = true ∧ beginsWithDrive (kept ++ [[]]) = true)) :
    renewed base kept = ofBody base.scheme
      (renewedAuthority base.scheme base.authority kept, .segments (kept ++ [[]])) :=
  congrArg _ (if_neg h)

/-- A drive in front takes its colon, and the host goes. -/
theorem renewed_of_drive {s : List Char} (hfile : isFile base.scheme = true)
    (hdrive : isDrive s = true) :
    renewed base (s :: kept) = ofBody base.scheme
      (some (hostOnly (.domain [])), .segments (Url.driveSegment s :: kept ++ [[]])) := by
  rw [renewed, settledBody, if_pos ⟨hfile, hdrive⟩, List.cons_append, settleDrive, if_pos hdrive]
  rfl

theorem exists_cons_of_beginsWithDrive (h : beginsWithDrive (kept ++ [[]]) = true) :
    ∃ s ss, kept = s :: ss ∧ isDrive s = true := by
  cases kept with
  | nil => cases h
  | cons s ss => exact ⟨s, ss, rfl, h⟩

theorem isFile_of_rootAuthority (h : rootAuthority scheme authority = some (hostOnly (.domain []))) :
    isFile scheme = true := by
  rw [rootAuthority] at h
  split at h
  next => cases h
  next hnot => exact Bool.eq_true_of_not_eq_false fun hfile => hnot ⟨hfile, h⟩

/-- **What was read again** is left as it is from then on. -/
theorem isSettled_renewed (hlast : kept.getLast? ≠ some []) : IsSettled (renewed base kept) := by
  by_cases h : isFile base.scheme = true ∧ beginsWithDrive (kept ++ [[]]) = true
  · obtain ⟨s, ss, rfl, hdrive⟩ := exists_cons_of_beginsWithDrive h.2
    rw [renewed_of_drive h.1 hdrive]
    refine ⟨⟨_, rfl, ?_⟩, fun _ _ => h.1, ?_⟩
    · cases ss with
      | nil =>
        obtain ⟨c, hc⟩ := exists_drive hdrive
        rw [hc]
        exact fun hnil => List.cons_ne_nil _ _ (Option.some.inj hnil)
      | cons t ts => exact hlast
    · rintro - _ _ ⟨⟩ -
      exact ⟨exists_drive hdrive, rfl⟩
  · rw [renewed_of_not h]
    refine ⟨⟨kept, rfl, hlast⟩, fun hpath hauthority => ?_, fun hfile s ss hpath hdrive => ?_⟩
    · have hnil : kept = [] := List.append_left_eq_self.mp (Url.Path.segments.inj hpath)
      rw [hnil] at hauthority
      exact isFile_of_rootAuthority hauthority
    · have hpath : kept ++ [[]] = s :: ss := Url.Path.segments.inj hpath
      refine absurd ⟨hfile, ?_⟩ h
      rw [hpath]
      exact hdrive

/-- **A base address is left as it is** if it is read again as itself. -/
theorem renewed_eq_iff (h : IsAddress base (kept ++ List.replicate n []))
    (hlast : kept.getLast? ≠ some []) : base = renewed base kept ↔ IsSettled base := by
  constructor
  · intro heq
    rw [heq]
    exact isSettled_renewed hlast
  · intro hsettled
    have hpath : base.path = .segments (kept ++ List.replicate n []) := by rw [h.eq]; rfl
    obtain ⟨front, hfront, hone⟩ := hsettled.oneSlash
    rw [hpath] at hfront
    have hsegs := eq_concat_of_oneSlash hlast hone (Url.Path.segments.inj hfront)
    rw [hsegs] at hpath
    by_cases hdrive : isFile base.scheme = true ∧ beginsWithDrive (kept ++ [[]]) = true
    · obtain ⟨s, ss, rfl, hs⟩ := exists_cons_of_beginsWithDrive hdrive.2
      obtain ⟨⟨c, rfl⟩, hauthority⟩ := hsettled.drive hdrive.1 s _ hpath hs
      rw [renewed_of_drive hdrive.1 hs, ← hauthority]
      exact h.eq.trans (congrArg (fun segs => ofBody _ (_, Url.Path.segments segs)) hsegs)
    · have hauthority : renewedAuthority base.scheme base.authority kept = base.authority := by
        rw [renewedAuthority]
        split
        next hnil =>
          subst hnil
          exact if_neg fun hbare => Bool.false_ne_true
            (hbare.1.symm.trans (hsettled.rooted hpath hbare.2))
        next => rfl
      rw [renewed_of_not hdrive, hauthority]
      exact h.eq.trans (congrArg (fun segs => ofBody _ (_, Url.Path.segments segs)) hsegs)

theorem isReadableBase_renewed (h : IsReadableBase base) : IsReadableBase (renewed base kept) := by
  intro hspecial a ha
  rw [renewed, settledBody] at ha
  split at ha
  next =>
    cases ha
    exact Url.isReadableHost_nil
  next =>
    refine h hspecial a ?_
    dsimp only [ofBody] at ha
    rw [renewedAuthority, rootAuthority] at ha
    split at ha
    next =>
      split at ha
      next => cases ha
      next => exact ha
    next => exact ha

/-- A base address is its own exactly if it can be read back and is settled. -/
theorem normalizeBaseAddress_self_iff {address : String}
    (h : normalizeBaseAddress address = .ok base) :
    normalizeBaseAddress base.toString = .ok base ↔ IsReadableBase base ∧ IsSettled base := by
  obtain ⟨segs, haddress⟩ := exists_isAddress h
  obtain ⟨kept, n, rfl, hlast⟩ := exists_kept segs
  exact (normalizeBaseAddress_toString haddress hlast).trans
    (and_congr_right fun _ => renewed_eq_iff haddress hlast)

/-- **Normalizing a base address again** succeeds if its host can be read back, changes nothing if
the address is settled too, and leaves nothing to do the next time.  Every base address ends in a
slash, can be a base and has neither query nor fragment. -/
theorem normalizeBaseAddress_settles {address : String}
    (h : normalizeBaseAddress address = .ok base) :
    (EndsInSlash base ∧ base.canBeBase = true ∧ base.query = none ∧ base.fragment = none) ∧
      ((∃ again, normalizeBaseAddress base.toString = .ok again) ↔ IsReadableBase base) ∧
      (normalizeBaseAddress base.toString = .ok base ↔ IsReadableBase base ∧ IsSettled base) ∧
      ∀ again, normalizeBaseAddress base.toString = .ok again →
        IsSettled again ∧ normalizeBaseAddress again.toString = .ok again := by
  obtain ⟨segs, haddress⟩ := exists_isAddress h
  obtain ⟨kept, n, rfl, hlast⟩ := exists_kept segs
  have hagain (again : Url) : normalizeBaseAddress base.toString = .ok again ↔
      IsReadableBase base ∧ again = renewed base kept :=
    normalizeBaseAddress_toString haddress hlast
  refine ⟨⟨haddress.endsInSlash, (normalizeBaseAddress_eq_ok.mp h).2.2⟩, ⟨?_, ?_⟩,
    normalizeBaseAddress_self_iff h, ?_⟩
  · rintro ⟨again, hok⟩
    exact ((hagain again).mp hok).1
  · exact fun hreadable => ⟨_, (hagain _).mpr ⟨hreadable, rfl⟩⟩
  · intro again hok
    obtain ⟨hreadable, rfl⟩ := (hagain again).mp hok
    have hsettled : IsSettled (renewed base kept) := isSettled_renewed hlast
    exact ⟨hsettled, (normalizeBaseAddress_self_iff hok).mpr
      ⟨isReadableBase_renewed hreadable, hsettled⟩⟩

/-- The base address of a host `h` with a path. -/
def pathBase (segs : List (List Char)) : Url := { hostBase with path := .segments segs }

theorem normalizeBaseAddress_dotted :
    normalizeBaseAddress "http://h/a//." = .ok (pathBase ["a".toList, [], []]) := by
  decide +kernel

theorem not_isSettled_dotted : ¬IsSettled (pathBase ["a".toList, [], []]) := by
  rintro ⟨⟨front, hpath, hlast⟩, -, -⟩
  have happend : ["a".toList, []] ++ [[]] = front ++ [[]] := Url.Path.segments.inj hpath
  rw [← (List.append_inj' happend rfl).1] at hlast
  exact hlast rfl

/-- A base address that ends in two slashes is another one when it is normalized again, and stays
that one. -/
theorem exists_dottedBase_settles :
    ∃ again, normalizeBaseAddress "http://h/a//." = .ok (pathBase ["a".toList, [], []]) ∧
      normalizeBaseAddress (pathBase ["a".toList, [], []]).toString = .ok again ∧
      again ≠ pathBase ["a".toList, [], []] ∧ IsSettled again ∧
      normalizeBaseAddress again.toString = .ok again := by
  obtain ⟨-, hreadable, hself, hsettles⟩ := normalizeBaseAddress_settles normalizeBaseAddress_dotted
  obtain ⟨again, hagain⟩ := hreadable.mpr fun _ => isReadableAddress_host
  refine ⟨again, normalizeBaseAddress_dotted, hagain, ?_, hsettles again hagain⟩
  rintro rfl
  exact not_isSettled_dotted (hself.mp hagain).2

/-- **Not every base address** ends in one slash and is its own: a dot at the end of an address
keeps the slashes before it. -/
theorem exists_base_ends_in_two_slashes :
    ∃ base, normalizeBaseAddress "http://h/a//." = .ok base ∧
      base.toString = "http://h/a//" ∧ normalizeBaseAddress base.toString ≠ .ok base := by
  refine ⟨_, normalizeBaseAddress_dotted, rfl, ?_⟩
  decide +kernel

end RestLoom.Client
