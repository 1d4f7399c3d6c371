import RestLoom.Proofs.Url.File

/-!
# Proofs/Url/Body — what follows a scheme is read back from its text

    foo://h/a  ──▸  h, [a]        foo:/.//a  ──▸  no authority, ["", a]        file://h/C:/  ──▸  C:

After every scheme an authority and segments are written so that reading them finds both where they
were written: names of hosts and segments hold no slash, and a dot without an authority keeps an
empty segment from looking like one.  Only the drive of a file in front of a path can change
(`readBody_writeBody`).
-/

namespace RestLoom.Url

open RestLoom.Text

attribute [local simp] readBody isSpecial readHostOf readSegments settleDrive beginsWithDrive

variable {scheme : List Char} {authority : Option Authority} {segs : List (List Char)}

/-! ## What was read -/

/-- What an authority and segments are that were read after a scheme. -/
inductive IsBody (scheme : List Char) : Option Authority → List (List Char) → Prop
  | named {a : Authority} {segs : List (List Char)} (special : isSpecial scheme = true)
      (notFile : isFile scheme = false) (read : IsRead scheme a)
      (segments : ∀ s ∈ segs, IsSegment true s) : IsBody scheme (some a) segs
  | file {host : Host} {segs : List (List Char)} (file : isFile scheme = true)
      (machine : IsFileHost host) (path : IsFilePath segs) : IsBody scheme (some (hostOnly host)) segs
  | plain {a : Authority} {segs : List (List Char)} (plain : isSpecial scheme = false)
      (read : IsRead scheme a) (segments : ∀ s ∈ segs, IsSegment false s) :
      IsBody scheme (some a) segs
  | bare {segs : List (List Char)} (plain : isSpecial scheme = false)
      (segments : ∀ s ∈ segs, IsSegment false s) : IsBody scheme none segs

theorem isFile_of_plain (h : isSpecial scheme = false) : isFile scheme = false := by
  rw [isSpecial, Bool.or_eq_false_iff] at h
  exact h.1

theorem isSpecial_of_isFile (h : isFile scheme = true) : isSpecial scheme = true := by
  rw [isSpecial, h, Bool.true_or]

/-- After a scheme that is not special two slashes begin an authority. -/
theorem readBody_of_plain (h : isSpecial scheme = false) (rest : List Char) (followed : Bool) :
    readBody scheme ('/' :: '/' :: rest) followed = readAfterSlashes scheme rest followed := by
  unfold readBody
  rw [isFile_of_plain h, h, if_neg Bool.false_ne_true, if_neg Bool.false_ne_true]
  rfl

/-- One slash begins the path. -/
theorem readBody_of_bare (h : isSpecial scheme = false) {rest : List Char}
    (hrest : rest.head? ≠ some '/') (followed : Bool) :
    readBody scheme ('/' :: rest) followed = .ok (none, .segments (readSegments false rest)) := by
  unfold readBody
  rw [isFile_of_plain h, h, if_neg Bool.false_ne_true, if_neg Bool.false_ne_true]
  split
  next heq =>
    rw [(List.cons.inj heq).2] at hrest
    exact absurd rfl hrest
  next heq => rw [(List.cons.inj heq).2]
  next hne => exact absurd rfl (hne rest)

/-- Two slashes alone have neither a host nor a path. -/
theorem eq_of_readAfterSlashes_nil (hplain : isSpecial scheme = false) {followed : Bool}
    {found : Body} (h : readAfterSlashes scheme [] followed = .ok found) :
    found = (some (hostOnly (.domain [])), .segments []) := by
  obtain ⟨a, rest, hread, rfl⟩ := readAfterSlashes_iff.mp h
  have hsplit : splitLogin [] = (none, []) := rfl
  obtain ⟨-, -, hlogin, hhost, hport, -⟩ := (readAuthority_iff hsplit rfl).mp hread
  obtain ⟨hport, rfl⟩ := Prod.mk.inj (Except.ok.inj hport)
  obtain ⟨huser, hpassword⟩ := Prod.mk.inj hlogin
  rw [readHostOf, hplain] at hhost
  have hnone := Except.ok.inj hhost
  rw [hplain]
  cases a
  cases huser
  cases hpassword
  cases hport
  cases hnone
  rfl

/-- **What is read after a scheme**, and how the path ends if the text ends in a slash: only two
slashes alone leave it empty. -/
theorem isBody_of_readBody {cs : List Char} {followed : Bool}
    (h : readBody scheme cs followed = .ok (authority, .segments segs)) :
    IsBody scheme authority segs ∧
      ((∃ r, cs = r ++ ['/']) → authority = some (hostOnly (.domain [])) ∧ segs = [] ∨
        ∃ front, segs = front ++ [[]]) := by
  cases hfile : isFile scheme with
  | true =>
    unfold readBody at h
    rw [if_pos hfile] at h
    obtain ⟨host, segs, ⟨⟩, hhost, hpath, hend⟩ := exists_of_readFile h
    exact ⟨.file hfile hhost hpath, fun hcs => .inr (hend hcs)⟩
  | false =>
    cases hspecial : isSpecial scheme with
    | true =>
      obtain ⟨a, segs, ⟨⟩, hread, hsegments, hend⟩ := exists_of_readBody hspecial hfile h
      exact ⟨.named hspecial hfile hread hsegments, fun hcs => .inr (hend hcs)⟩
    | false =>
      unfold readBody at h
      rw [hfile, hspecial, if_neg Bool.false_ne_true, if_neg Bool.false_ne_true] at h
      split at h
      next rest =>
        obtain ⟨a, segs, ⟨⟩, hread, hsegments, hend⟩ := exists_of_readAfterSlashes h
        rw [hspecial] at hsegments
        refine ⟨.plain hspecial hread hsegments, fun ⟨r, hr⟩ => ?_⟩
        by_cases hrest : rest = []
        · rw [hrest] at h
          obtain ⟨hauthority, hpath⟩ := Prod.mk.inj (eq_of_readAfterSlashes_nil hspecial h)
          exact .inl ⟨hauthority, Path.segments.inj hpath⟩
        · exact .inr (hend (exists_concat_of_append (a := ['/', '/']) hr hrest))
      next rest _ =>
        cases h
        refine ⟨.bare hspecial fun s hs => isSegment_of_mem_readSegments hs, fun ⟨r, hr⟩ => .inr ?_⟩
        by_cases hrest : rest = []
        · rw [hrest]
          exact ⟨[], rfl⟩
        · obtain ⟨r', rfl⟩ := exists_concat_of_append (a := ['/']) hr hrest
          exact exists_readSegments_concat r'
      next => cases h

/-! ## Its text -/

/-- What stands in front of the path: the authority, or what keeps an empty segment from looking
like one. -/
def leadText : Option Authority → List (List Char) → List Char
  | some a, _ => a.render
  | none, [] :: _ :: _ => ['/', '.']
  | none, _ => []

/-- The text between a scheme and the query. -/
def writeBody (authority : Option Authority) (segs : List (List Char)) : List Char :=
  leadText authority segs ++ segs.flatMap ('/' :: ·)

theorem render_eq (scheme : List Char) (authority : Option Authority) (segs : List (List Char)) :
    render ⟨scheme, authority, .segments segs, none, none⟩ =
      scheme ++ ':' :: writeBody authority segs := by
  have hparts : render ⟨scheme, authority, .segments segs, none, none⟩ =
      scheme ++ ':' :: leadText authority segs ++ segs.flatMap ('/' :: ·) ++ [] ++ [] := by
    cases authority with
    | some a => rfl
    | none =>
      match segs with
      | [] => rfl
      | [s] => cases s <;> rfl
      | s :: t :: rest => cases s <;> rfl
  rw [hparts, List.append_nil, List.append_nil, writeBody, List.append_assoc, List.cons_append]

theorem IsBody.segments (h : IsBody scheme authority segs) :
    ∀ s ∈ segs, ∃ special, IsSegment special s := by
  cases h with
  | named _ _ _ hsegments => exact fun s hs => ⟨true, hsegments s hs⟩
  | file _ _ hpath => exact fun s hs => ⟨true, hpath.segments s hs⟩
  | plain _ _ hsegments => exact fun s hs => ⟨false, hsegments s hs⟩
  | bare _ hsegments => exact fun s hs => ⟨false, hsegments s hs⟩

theorem innerText_hostOnly (host : Host) : innerText (hostOnly host) = host.render :=
  (List.append_nil _)

/-- No character of an authority ends it, or a path. -/
theorem IsBody.not_endsAuthority (h : IsBody scheme authority segs) {a : Authority}
    (ha : authority = some a) {c : Char} (hc : c ∈ innerText a) : endsAuthority c = false := by
  cases h with
  | named _ _ hread _ =>
    cases ha
    exact not_endsAuthority_of_mem hread hc
  | file _ hhost _ =>
    cases ha
    rw [innerText_hostOnly] at hc
    exact hhost.render.1 c hc
  | plain _ hread _ =>
    cases ha
    exact not_endsAuthority_of_mem hread hc
  | bare _ _ => cases ha

theorem mem_leadText_none {c : Char} (h : c ∈ leadText none segs) : c = '/' ∨ c = '.' := by
  match segs, h with
  | [] :: _ :: _, h => simpa [leadText] using h

/-- **No character of the text** ends a path. -/
theorem IsBody.endsPath (h : IsBody scheme authority segs) {c : Char}
    (hc : c ∈ writeBody authority segs) : endsPath c = false := by
  obtain hc | hc := List.mem_append.mp hc
  · match authority with
    | some a =>
      rw [leadText, Authority.render_eq, List.mem_cons, List.mem_cons] at hc
      obtain rfl | rfl | hc := hc
      · rfl
      · rfl
      · exact endsPath_of_endsAuthority (h.not_endsAuthority rfl hc)
    | none =>
      obtain rfl | rfl := mem_leadText_none hc
      all_goals rfl
  · obtain ⟨s, hs, hc⟩ := List.mem_flatMap.mp hc
    obtain rfl | hc := List.mem_cons.mp hc
    · rfl
    · obtain ⟨special, hsegment⟩ := h.segments s hs
      exact endsPath_of_path (hsegment.encoded c hc)

/-! ## Reading it again -/

/-- Whether the host can be read back: after a special scheme its codes have to be short. -/
def IsReadableBody (scheme : List Char) (authority : Option Authority) : Prop :=
  isSpecial scheme = true → ∀ a, authority = some a → IsReadableHost a.host

/-- An authority and segments as they are read again: the drive of a file in front takes its colon,
and the host goes. -/
def settledBody (scheme : List Char) (authority : Option Authority) (segs : List (List Char)) :
    Body :=
  if isFile scheme = true ∧ beginsWithDrive segs = true then
    (some (hostOnly (.domain [])), .segments (settleDrive segs))
  else (authority, .segments segs)

theorem writeBody_some (a : Authority) (hne : segs ≠ []) :
    writeBody (some a) segs = '/' :: '/' :: (innerText a ++ '/' :: join ['/'] segs) := by
  rw [writeBody, leadText, flatMap_cons_eq_join hne, Authority.render_eq]
  rfl

theorem settleDrive_of_not (h : beginsWithDrive segs = false) : settleDrive segs = segs := by
  cases segs with
  | nil => rfl
  | cons s ss =>
    rw [beginsWithDrive] at h
    rw [settleDrive, h, if_neg Bool.false_ne_true]

/-- After a scheme that is not special an authority and a path are read back. -/
theorem readBody_plain {a : Authority} (hplain : isSpecial scheme = false) (hread : IsRead scheme a)
    (hsegments : ∀ s ∈ segs, IsSegment false s) (hne : segs ≠ []) (followed : Bool) :
    readBody scheme ('/' :: '/' :: (innerText a ++ '/' :: join ['/'] segs)) followed =
      .ok (some a, .segments segs) := by
  have hslash : ∀ c ∈ innerText a, isSlash false c = false := fun c hc =>
    isSlash_eq_false (isSlash_of_endsAuthority (not_endsAuthority_of_mem hread hc))
  rw [readBody_of_plain hplain, readAfterSlashes_iff, hplain, breakAt_append_cons hslash rfl]
  refine ⟨a, [], readAuthority_innerText hread (fun h => ?_) _, ?_⟩
  · rw [hplain] at h
    cases h
  · rw [if_pos (.inr (List.cons_ne_nil _ _))]
    exact congrArg (fun segs => (some a, Path.segments segs)) (readSegments_join hne hsegments).symm

/-- A dot in front of a path goes. -/
theorem readSegments_dot (cs : List Char) :
    readSegments false ('.' :: '/' :: cs) = readSegments false cs := by
  have hpieces : pieces false ('.' :: '/' :: cs) = ['.'] :: pieces false cs :=
    congrArg (List.map _) (splitAt_append_cons (p := isSlash false) (a := ['.'])
      (List.forall_mem_singleton.mpr rfl) rfl)
  have hmore : (pieces false cs).isEmpty = false := by
    rw [List.isEmpty_eq_false_iff, pieces]
    exact fun h => splitAt_ne_nil cs (List.map_eq_nil_iff.mp h)
  rw [readSegments, hpieces, collectSegments_cons, hmore]
  rfl

/-- Without an authority the text never begins with two slashes. -/
theorem exists_writeBody_none (hne : segs ≠ []) (hslash : ∀ s ∈ segs, ∀ c ∈ s, c ≠ '/') :
    ∃ after, writeBody none segs = '/' :: after ∧ after.head? ≠ some '/' ∧
      readSegments false after = readSegments false (join ['/'] segs) := by
  rw [writeBody, flatMap_cons_eq_join hne]
  match segs with
  | [] => exact absurd rfl hne
  | [] :: t :: rest =>
    exact ⟨_, rfl, fun h => absurd (Option.some.inj h) (by decide), readSegments_dot _⟩
  | [[]] => exact ⟨_, rfl, nofun, rfl⟩
  | [c :: s] =>
    have hc := hslash _ List.mem_cons_self c List.mem_cons_self
    exact ⟨_, rfl, fun h => hc (Option.some.inj h), rfl⟩
  | (c :: s) :: t :: rest =>
    have hc := hslash _ List.mem_cons_self c List.mem_cons_self
    exact ⟨_, rfl, fun h => hc (Option.some.inj h), rfl⟩

/-- Without an authority a path is read back, also one whose first segment is empty. -/
theorem readBody_bare (hplain : isSpecial scheme = false) (hsegments : ∀ s ∈ segs, IsSegment false s)
    (hne : segs ≠ []) (followed : Bool) :
    readBody scheme (writeBody none segs) followed = .ok (none, .segments segs) := by
  have hslash : ∀ s ∈ segs, ∀ c ∈ s, c ≠ '/' := by
    rintro s hs c hc rfl
    exact absurd ((hsegments s hs).slashless _ hc) (by decide)
  obtain ⟨after, htext, hhead, hread⟩ := exists_writeBody_none hne hslash
  rw [htext, readBody_of_bare hplain hhead, hread, readSegments_join hne hsegments]

/-- **The text of an authority and segments** is read as these, but for the drive of a file in
front; and it is read at all only if the host can be read back. -/
theorem readBody_writeBody (h : IsBody scheme authority segs) (hne : segs ≠ []) (followed : Bool)
    {found : Body} :
    readBody scheme (writeBody authority segs) followed = .ok found ↔
      IsReadableBody scheme authority ∧ found = settledBody scheme authority segs := by
  cases h with
  | named hspecial hfile hread hsegments =>
    rw [writeBody_some _ hne, readBody_innerText hspecial hfile hread,
      readSegments_join hne hsegments, settledBody,
      if_neg fun h => Bool.false_ne_true (hfile.symm.trans h.1)]
    exact and_congr_left fun _ => ⟨fun h _ a ha => Option.some.inj ha ▸ h, fun h => h hspecial _ rfl⟩
  | file hfile hhost hpath =>
    rw [writeBody_some _ hne, innerText_hostOnly, readBody, if_pos hfile, readFile_text hhost hpath]
    refine and_congr ⟨fun h _ a ha => Option.some.inj ha ▸ h,
      fun h => h (isSpecial_of_isFile hfile) _ rfl⟩ ?_
    rw [settledBody]
    cases hdrive : beginsWithDrive segs with
    | true => rw [if_pos rfl, if_pos ⟨hfile, rfl⟩]
    | false =>
      rw [if_neg Bool.false_ne_true, if_neg fun h => Bool.false_ne_true h.2,
        settleDrive_of_not hdrive]
  | plain hplain hread hsegments =>
    rw [writeBody_some _ hne, readBody_plain hplain hread hsegments hne, settledBody,
      if_neg fun h => Bool.false_ne_true ((isFile_of_plain hplain).symm.trans h.1)]
    exact ⟨fun h => ⟨fun hspecial => absurd (hplain.symm.trans hspecial) Bool.false_ne_true,
      (Except.ok.inj h).symm⟩, fun h => congrArg _ h.2.symm⟩
  | bare hplain hsegments =>
    rw [readBody_bare hplain hsegments hne, settledBody,
      if_neg fun h => Bool.false_ne_true ((isFile_of_plain hplain).symm.trans h.1)]
    exact ⟨fun h => ⟨fun _ a ha => (nomatch ha), (Except.ok.inj h).symm⟩,
      fun h => congrArg _ h.2.symm⟩

end RestLoom.Url
