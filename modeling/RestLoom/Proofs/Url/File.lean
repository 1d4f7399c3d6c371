import RestLoom.Proofs.Url.Web

/-!
# Proofs/Url/File — files are read back from their text

    file://host/a/b  ──parse──▸  host, [a, b]            file://host//C|/b  ──parse──▸  host, [C|, b]

A file has at most a host, and the empty segments in front of its path go.  So the letter of a drive
can come to the front after it was looked for there, and when the text is read again it is found:
then it takes its colon, and the host goes (`readFile_text`).  Any other file is read back as it
was.
-/

namespace RestLoom.Url

open RestLoom.Text

/-! ## Drives -/

theorem isDrive_eq_true {s : List Char} (h : isDrive s = true) :
    ∃ c d, s = [c, d] ∧ c.isAlpha = true := by
  unfold isDrive at h
  split at h
  next c d =>
    rw [Bool.and_eq_true] at h
    exact ⟨c, d, rfl, h.1⟩
  next => cases h

/-- The letter of a drive with the colon that it takes. -/
def driveSegment (s : List Char) : List Char := s.take 1 ++ [':']

theorem path_of_isAlpha {c : Char} (h : c.isAlpha = true) :
    Percent.path c = true ∧ isSlash true c = false ∧ c ≠ '.' ∧ c ≠ '%' :=
  forall_ascii (P := fun c => c.isAlpha = true → Percent.path c = true ∧ isSlash true c = false ∧
    c ≠ '.' ∧ c ≠ '%') (by decide) (toNat_lt_of_isAlphanum (by rw [Char.isAlphanum, h]; rfl)) h

theorem isSegment_driveSegment {s : List Char} (h : isDrive s = true) :
    IsSegment true (driveSegment s) := by
  obtain ⟨c, d, rfl, halpha⟩ := isDrive_eq_true h
  obtain ⟨hpath, hslash, hdot, hpercent⟩ := path_of_isAlpha halpha
  have hall {P : Char → Prop} (hc : P c) (hcolon : P ':') : ∀ e ∈ driveSegment [c, d], P e :=
    List.forall_mem_cons.mpr ⟨hc, List.forall_mem_singleton.mpr hcolon⟩
  exact ⟨isKept_of_forall (hall ⟨hdot, hpercent⟩ (by decide)), hall hpath (by decide),
    hall hslash (by decide)⟩

/-- The letter of a drive does not stand for dots. -/
theorem isKept_of_isDrive {s : List Char} (h : isDrive s = true) : IsKept s := by
  obtain ⟨c, d, rfl, halpha⟩ := isDrive_eq_true h
  obtain ⟨-, -, hdot, -⟩ := path_of_isAlpha halpha
  have hone : isDot [c] = false := by
    rw [Bool.eq_false_iff]
    intro hc
    obtain hc | hc | hc := isDot_eq_true.mp hc
    · exact hdot (List.singleton_inj.mp hc)
    · cases hc
    · cases hc
  have htwo : isDot [c, d] = false := by
    rw [Bool.eq_false_iff]
    intro hc
    obtain hc | hc | hc := isDot_eq_true.mp hc
    all_goals cases hc
  refine ⟨?_, htwo⟩
  change (isDot [c] && isDot [d] || isDot [c, d] && isDot []) = false
  rw [hone, htwo]
  rfl

/-! ## Paths -/

theorem collectFileSegments_cons (done : List (List Char)) (drive : Bool) (p : List Char)
    (ps : List (List Char)) :
    collectFileSegments done drive (p :: ps) =
      if done = [] ∧ isDrive p = true then collectFileSegments [driveSegment p] true ps
      else collectFileSegments (pushPiece done p ps.isEmpty) drive ps := by
  rw [collectFileSegments, pushPiece]
  simp only [List.isEmpty_iff]
  by_cases hdrive : done = [] ∧ isDrive p = true
  · have hkept := isKept_of_isDrive hdrive.2
    rw [hkept.1, hkept.2, if_neg Bool.false_ne_true, if_neg Bool.false_ne_true, if_pos hdrive,
      if_pos hdrive]
    rfl
  · rw [if_neg hdrive, if_neg hdrive]
    split
    · rfl
    · split <;> rfl

/-- **Where the segments of a file come from.** -/
theorem isSegment_of_mem_collectFileSegments {done ps : List (List Char)} {drive : Bool}
    (hdone : ∀ s ∈ done, IsSegment true s) (hps : ∀ p ∈ ps, IsKept p → IsSegment true p) :
    ∀ s ∈ (collectFileSegments done drive ps).1, IsSegment true s := by
  induction ps generalizing done drive with
  | nil => exact fun s hs => hdone s (List.mem_reverse.mp hs)
  | cons p ps ih =>
    rw [List.forall_mem_cons] at hps
    rw [collectFileSegments_cons]
    split
    next hdrive =>
      exact ih (List.forall_mem_singleton.mpr (isSegment_driveSegment hdrive.2)) hps.2
    next =>
      refine ih (fun s hs => ?_) hps.2
      obtain hs | rfl | ⟨rfl, hkept⟩ := mem_pushPiece hs
      · exact hdone s hs
      · exact isSegment_nil
      · exact hps.1 hkept

/-- An empty piece at the end is the last segment. -/
theorem exists_collectFileSegments_concat (done ps : List (List Char)) (drive : Bool) :
    ∃ front, (collectFileSegments done drive (ps ++ [[]])).1 = front ++ [[]] := by
  induction ps generalizing done drive with
  | nil =>
    rw [List.nil_append, collectFileSegments_cons, if_neg fun h => Bool.false_ne_true h.2,
      pushPiece_of_isKept ⟨rfl, rfl⟩]
    exact ⟨done.reverse, List.reverse_cons⟩
  | cons p ps ih =>
    rw [List.cons_append, collectFileSegments_cons]
    split
    · exact ih _ _
    · exact ih _ _

/-- Whether the first segment is the letter of a drive. -/
def beginsWithDrive : List (List Char) → Bool
  | s :: _ => isDrive s
  | [] => false

/-- The segments with the first one as it is read again. -/
def settleDrive : List (List Char) → List (List Char)
  | s :: ss => (if isDrive s then driveSegment s else s) :: ss
  | [] => []

/-- **Kept pieces** are the segments, but for a drive in front. -/
theorem collectFileSegments_of_isKept {ps : List (List Char)} (h : ∀ p ∈ ps, IsKept p) :
    collectFileSegments [] false ps = (settleDrive ps, beginsWithDrive ps) := by
  have hrest {done ps : List (List Char)} {drive : Bool} (hne : done ≠ [])
      (h : ∀ p ∈ ps, IsKept p) :
      collectFileSegments done drive ps = (done.reverse ++ ps, drive) := by
    induction ps generalizing done with
    | nil => exact congrArg (·, drive) (List.append_nil _).symm
    | cons p ps ih =>
      rw [List.forall_mem_cons] at h
      rw [collectFileSegments_cons, if_neg fun hc => hne hc.1, pushPiece_of_isKept h.1,
        ih (List.cons_ne_nil _ _) h.2, List.reverse_cons, List.append_assoc]
      rfl
  cases ps with
  | nil => rfl
  | cons p ps =>
    rw [List.forall_mem_cons] at h
    rw [collectFileSegments_cons, settleDrive, beginsWithDrive]
    cases hdrive : isDrive p with
    | true =>
      rw [if_pos ⟨rfl, rfl⟩, hrest (List.cons_ne_nil _ _) h.2, if_pos rfl]
      rfl
    | false =>
      rw [if_neg fun hc => Bool.false_ne_true hc.2, pushPiece_of_isKept h.1,
        hrest (List.cons_ne_nil _ _) h.2, if_neg Bool.false_ne_true]
      rfl

/-- What the path of a file is that was read: no empty segment stands in front of others. -/
structure IsFilePath (segs : List (List Char)) : Prop where
  segments : ∀ s ∈ segs, IsSegment true s
  front : segs = [[]] ∨ ∃ s ss, segs = s :: ss ∧ s ≠ []

theorem IsFilePath.ne_nil {segs : List (List Char)} (h : IsFilePath segs) : segs ≠ [] := by
  obtain rfl | ⟨s, ss, rfl, -⟩ := h.front
  · exact List.cons_ne_nil _ _
  · exact List.cons_ne_nil _ _

theorem dropWhile_of_isFilePath {segs : List (List Char)}
    (h : segs = [[]] ∨ ∃ s ss, segs = s :: ss ∧ s ≠ []) (drive : Bool) :
    (match segs.dropWhile (· == []) with
      | [] => ([[]], drive)
      | kept => (kept, drive)) = (segs, drive) := by
  obtain rfl | ⟨s, ss, rfl, hne⟩ := h
  · rfl
  · rw [List.dropWhile_cons_of_neg (by simpa using hne)]

theorem front_settleDrive {segs : List (List Char)} (h : IsFilePath segs) :
    settleDrive segs = [[]] ∨ ∃ s ss, settleDrive segs = s :: ss ∧ s ≠ [] := by
  obtain rfl | ⟨s, ss, rfl, hne⟩ := h.front
  · exact .inl rfl
  · refine .inr ⟨_, ss, rfl, ?_⟩
    split
    · exact List.append_ne_nil_of_right_ne_nil _ (List.cons_ne_nil _ _)
    · exact hne

/-- **The path of a file** is read back, but for a drive in front. -/
theorem readFilePath_join {segs : List (List Char)} (h : IsFilePath segs) :
    readFilePath ('/' :: join ['/'] segs) = (settleDrive segs, beginsWithDrive segs) := by
  have hpieces : pieces true (dropSlash true ('/' :: join ['/'] segs)) = segs :=
    pieces_join h.ne_nil (fun s hs => (h.segments s hs).encoded)
      fun s hs => (h.segments s hs).slashless
  rw [readFilePath, hpieces, collectFileSegments_of_isKept fun s hs => (h.segments s hs).kept]
  exact dropWhile_of_isFilePath (front_settleDrive h) _

/-- **The path of a file that was read.** -/
theorem isFilePath_readFilePath (cs : List Char) : IsFilePath (readFilePath cs).1 := by
  have hall : ∀ s ∈ (collectFileSegments [] false (pieces true (dropSlash true cs))).1,
      IsSegment true s :=
    isSegment_of_mem_collectFileSegments (List.forall_mem_nil _) fun _ => isSegment_of_mem_pieces
  rw [readFilePath]
  generalize collectFileSegments [] false (pieces true (dropSlash true cs)) = found at hall
  dsimp only
  split
  next => exact ⟨List.forall_mem_singleton.mpr isSegment_nil, .inl rfl⟩
  next hne =>
    refine ⟨fun s hs => hall s ((List.dropWhile_sublist _).mem hs), .inr ?_⟩
    obtain ⟨s, ss, heq⟩ := List.exists_cons_of_ne_nil hne
    have hhead := List.head?_dropWhile_not (· == ([] : List Char)) found.1
    rw [heq] at hhead
    exact ⟨s, ss, heq, by simpa using hhead⟩

/-- A path that ends in a slash ends in an empty segment, and so does one without text. -/
theorem exists_readFilePath_concat {cs : List Char} (h : cs = [] ∨ ∃ r, cs = r ++ ['/']) :
    ∃ front, (readFilePath cs).1 = front ++ [[]] := by
  have hpieces : ∃ ps, pieces true (dropSlash true cs) = ps ++ [[]] := by
    have hconcat (r : List Char) : ∃ ps, pieces true (r ++ ['/']) = ps ++ [[]] := by
      rw [pieces, splitAt_concat rfl, List.map_append]
      exact ⟨_, rfl⟩
    obtain rfl | ⟨r, rfl⟩ := h
    · exact ⟨[], rfl⟩
    · cases r with
      | nil => exact ⟨[], rfl⟩
      | cons c r =>
        rw [List.cons_append, dropSlash]
        split
        · exact hconcat r
        · exact hconcat (c :: r)
  obtain ⟨ps, hps⟩ := hpieces
  obtain ⟨front, hfront⟩ := exists_collectFileSegments_concat [] ps false
  rw [readFilePath, hps]
  generalize collectFileSegments [] false (ps ++ [[]]) = found at hfront
  dsimp only
  split
  next => exact ⟨[], rfl⟩
  next hne =>
    have happend := List.takeWhile_append_dropWhile (p := (· == ([] : List Char))) (l := found.1)
    rw [hfront] at happend hne ⊢
    exact exists_concat_of_append happend hne

/-! ## Whole files -/

/-- The authority that only names a host. -/
def hostOnly (host : Host) : Authority := ⟨[], none, host, none⟩

/-- What the host of a file is that was read: none, or another machine. -/
def IsFileHost (host : Host) : Prop :=
  host = .domain [] ∨ (∃ name, readHost name = .ok host) ∧ host ≠ .domain "localhost".toList

theorem isFileHost_fileAuthority {host : Host}
    (h : host = .domain [] ∨ ∃ name, readHost name = .ok host) :
    ∃ host', fileAuthority host = hostOnly host' ∧ IsFileHost host' := by
  rw [fileAuthority]
  split
  next => exact ⟨_, rfl, .inl rfl⟩
  next hlocal => exact ⟨_, rfl, h.imp_right fun h => ⟨h, hlocal⟩⟩

theorem fileAuthority_of_isFileHost {host : Host} (h : IsFileHost host) :
    fileAuthority host = hostOnly host := by
  rw [fileAuthority, if_neg]
  · rfl
  · rintro rfl
    obtain h | ⟨-, h⟩ := h
    · cases h
    · exact h rfl

/-- The host that a name in front of a file's path stands for. -/
def readFileHost (name : List Char) : Except ParseError Host :=
  if name = [] then .ok (.domain []) else readHost name

theorem host_of_readFileHost {name : List Char} {host : Host} (h : readFileHost name = .ok host) :
    host = .domain [] ∨ ∃ name, readHost name = .ok host := by
  rw [readFileHost] at h
  split at h
  next => exact .inl (Except.ok.inj h).symm
  next => exact .inr ⟨_, h⟩

/-- The authority and the path of a file on a host. -/
def fileBody (host : Host) (path : List Char) : Body :=
  (some (fileAuthority (if (readFilePath path).2 then .domain [] else host)),
    .segments (readFilePath path).1)

/-- **How a file with two slashes in front is read.** -/
theorem readFile_cons {a b : Char} {rest : List Char}
    (h : isSlash true a = true ∧ isSlash true b = true) :
    readFile (a :: b :: rest) =
      if isDrive (breakAt (isSlash true) rest).1 then
        .ok (some (fileAuthority (.domain [])), .segments (readFilePath rest).1)
      else do
        let host ← readFileHost (breakAt (isSlash true) rest).1
        return fileBody host (breakAt (isSlash true) rest).2 := by
  rw [readFile, if_pos h]
  rcases breakAt (isSlash true) rest with ⟨name, path⟩
  refine if_congr Iff.rfl rfl ?_
  rw [readFileHost]
  by_cases hname : name = []
  · rw [if_pos hname, if_pos hname]
    rfl
  · rw [if_neg hname, if_neg hname]
    rfl

/-- **What is read of a file**, and how its path ends if its text ends in a slash. -/
theorem exists_of_readFile {cs : List Char} {found : Body} (h : readFile cs = .ok found) :
    ∃ host segs, found = (some (hostOnly host), .segments segs) ∧ IsFileHost host ∧
      IsFilePath segs ∧ ((∃ r, cs = r ++ ['/']) → ∃ front, segs = front ++ [[]]) := by
  have hread (host : Host) (hhost : host = .domain [] ∨ ∃ name, readHost name = .ok host)
      (path : List Char) (hend : (∃ r, cs = r ++ ['/']) → path = [] ∨ ∃ r, path = r ++ ['/'])
      (hfound : found = (some (fileAuthority host), .segments (readFilePath path).1)) :
      ∃ host segs, found = (some (hostOnly host), .segments segs) ∧ IsFileHost host ∧
        IsFilePath segs ∧ ((∃ r, cs = r ++ ['/']) → ∃ front, segs = front ++ [[]]) := by
    obtain ⟨host', heq, hhost'⟩ := isFileHost_fileAuthority hhost
    rw [heq] at hfound
    exact ⟨host', _, hfound, hhost', isFilePath_readFilePath path,
      fun hcs => exists_readFilePath_concat (hend hcs)⟩
  have hhere (h : Except.ok (some (fileAuthority (.domain [])), .segments (readFilePath cs).1) =
      (Except.ok found : Except ParseError Body)) :=
    hread _ (.inl rfl) cs .inr (Except.ok.inj h).symm
  match cs with
  | [] => exact hhere h
  | [a] => exact hhere h
  | a :: b :: rest =>
    have hrest : (∃ r, a :: b :: rest = r ++ ['/']) → rest = [] ∨ ∃ r, rest = r ++ ['/'] := by
      rintro ⟨r, hr⟩
      by_cases hnil : rest = []
      · exact .inl hnil
      · exact .inr (exists_concat_of_append (a := [a, b]) hr hnil)
    by_cases hslashes : isSlash true a = true ∧ isSlash true b = true
    · rw [readFile_cons hslashes] at h
      split at h
      next => exact hread _ (.inl rfl) rest hrest (Except.ok.inj h).symm
      next =>
        obtain ⟨host, hhost, hfound⟩ := Outcome.bind_eq_ok.mp h
        refine hread _ ?_ _ (fun hcs => ?_) (Outcome.pure_eq_ok.mp hfound)
        · split
          next => exact .inl rfl
          next => exact host_of_readFileHost hhost
        · obtain rfl | ⟨r, rfl⟩ := hrest hcs
          · exact .inl rfl
          · exact .inr (exists_breakAt_concat rfl r)
    · exact hhere ((if_neg hslashes).symm.trans h)

theorem isReadableHost_nil : IsReadableHost (.domain []) := by
  rintro _ ⟨⟩ label hlabel code hcode
  rw [List.mem_singleton.mp hlabel] at hcode
  cases hcode

/-- A host is not taken for the letter of a drive. -/
theorem isDrive_render {name : List Char} {host : Host} (h : readHost name = .ok host) :
    isDrive host.render = false := by
  have hplain {text : List Char} (htext : ∀ c ∈ text, IsPlain c) : isDrive text = false := by
    unfold isDrive
    split
    next c d =>
      have hd := (htext d (List.mem_cons_of_mem c List.mem_cons_self)).fit
      have hcolon : (d == ':') = false ∧ (d == '|') = false := by
        simp only [beq_eq_false_iff_ne]
        constructor
        all_goals
          rintro rfl
          exact absurd hd (by decide)
      rw [hcolon.1, hcolon.2, Bool.or_false, Bool.and_false]
    next => rfl
  cases host with
  | domain ascii => exact hplain (isPlain_of_mem_domain h).2
  | ipv4 a => exact hplain fun c hc => isPlain_of_mem_renderIpv4 hc
  | ipv6 ps =>
    rw [Host.render, renderIpv6_eq]
    unfold isDrive
    split
    next c d heq =>
      rw [← (List.cons.inj heq).1]
      rfl
    next => rfl

/-- **The host of a file** is read back from its text, if its codes can be read. -/
theorem readFileHost_render {host again : Host} (h : IsFileHost host) :
    readFileHost host.render = .ok again ↔ IsReadableHost host ∧ again = host := by
  obtain rfl | ⟨⟨name, hname⟩, -⟩ := h
  · exact ⟨fun h => ⟨isReadableHost_nil, (Except.ok.inj h).symm⟩, fun h => congrArg _ h.2.symm⟩
  · rw [readFileHost, if_neg (render_ne_nil hname)]
    constructor
    · intro hagain
      have hread := isReadableHost_of_readHost hname hagain
      rw [readHost_render hname hread] at hagain
      exact ⟨hread, (Except.ok.inj hagain).symm⟩
    · rintro ⟨hread, rfl⟩
      exact readHost_render hname hread

/-- No character of the host of a file ends it, and it is not taken for the letter of a drive. -/
theorem IsFileHost.render {host : Host} (h : IsFileHost host) :
    (∀ c ∈ host.render, endsAuthority c = false) ∧ isDrive host.render = false := by
  obtain rfl | ⟨⟨name, hname⟩, -⟩ := h
  · exact ⟨nofun, rfl⟩
  · have hspecial : readHostOf "file".toList name = .ok host := (if_pos (by decide)).trans hname
    exact ⟨fun c hc => (not_endsAuthority_of_mem_host hspecial hc).1, isDrive_render hname⟩

/-- **The text of a file** is read as its host and its path; a drive in front takes its colon, and
the host goes. -/
theorem readFile_text {host : Host} {segs : List (List Char)} (hhost : IsFileHost host)
    (hsegs : IsFilePath segs) {found : Body} :
    readFile ('/' :: '/' :: (host.render ++ '/' :: join ['/'] segs)) = .ok found ↔
      IsReadableHost host ∧ found =
        (some (hostOnly (if beginsWithDrive segs then .domain [] else host)),
          .segments (settleDrive segs)) := by
  have hfile : IsFileHost (if beginsWithDrive segs then .domain [] else host) := by
    split
    · exact .inl rfl
    · exact hhost
  have hbody : fileBody host ('/' :: join ['/'] segs) =
      (some (hostOnly (if beginsWithDrive segs then .domain [] else host)),
        .segments (settleDrive segs)) := by
    rw [fileBody, readFilePath_join hsegs, fileAuthority_of_isFileHost hfile]
  have hslash : ∀ c ∈ host.render, isSlash true c = false := fun c hc =>
    isSlash_of_endsAuthority (hhost.render.1 c hc)
  rw [readFile_cons ⟨rfl, rfl⟩, breakAt_append_cons hslash rfl, hhost.render.2,
    if_neg Bool.false_ne_true, Outcome.bind_eq_ok, ← hbody]
  simp only [readFileHost_render hhost, Outcome.pure_eq_ok]
  constructor
  · rintro ⟨again, ⟨hread, rfl⟩, rfl⟩
    exact ⟨hread, rfl⟩
  · rintro ⟨hread, rfl⟩
    exact ⟨host, ⟨hread, rfl⟩, rfl⟩

end RestLoom.Url
