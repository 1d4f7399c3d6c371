import RestLoom.Proofs.Url.Host

/-!
# Proofs/Url/Authority — an authority is read back from its text

    //  user:password@  host  :port      ──readAuthority──▸  the same parts

The text between the slashes and the path has a login, a place and perhaps a port.  None of them
holds a character that would end it early (`not_endsAuthority_of_mem`), so each is found again where
it was written.
-/

namespace RestLoom.Url

open RestLoom.Text

/-! ## Parts -/

/-- The login of an authority with its at sign. -/
def loginText (a : Authority) : List Char :=
  if a.user = [] ∧ a.password = none then []
  else a.user ++ (match a.password with | none => [] | some p => ':' :: p) ++ ['@']

/-- The port of an authority with its colon. -/
def portText (a : Authority) : List Char :=
  match a.port with | none => [] | some p => ':' :: decimal p

/-- The text of an authority after its two slashes. -/
def innerText (a : Authority) : List Char := loginText a ++ (a.host.render ++ portText a)

theorem Authority.render_eq (a : Authority) : a.render = '/' :: '/' :: innerText a := by
  rw [innerText, ← List.append_assoc]
  rfl

/-- What the user and the password of an authority are that was read. -/
structure IsLogin (a : Authority) : Prop where
  user : ∃ text, a.user = Percent.encode Percent.userinfo text
  password : ∀ p, a.password = some p → p ≠ [] ∧ ∃ text, p = Percent.encode Percent.userinfo text

/-- What the parts of an authority are that was read.  One without a host has no other part. -/
structure IsRead (scheme : List Char) (a : Authority) : Prop extends IsLogin a where
  host : ∃ name, readHostOf scheme name = .ok a.host
  port : ∀ n, a.port = some n → n ≤ 65535 ∧ defaultPort scheme ≠ some n
  bare : a.host = .domain [] → a.user = [] ∧ a.password = none ∧ a.port = none

/-! ## Characters -/

/-- Whether a character ends an authority or does not count in one. -/
def endsAuthority (c : Char) : Bool := c.toNat ≤ 0x20 || "#/?\\".toList.contains c

theorem not_endsAuthority_of_userinfo {c : Char} (h : Percent.userinfo c = true) :
    endsAuthority c = false ∧ c ≠ ':' ∧ c ≠ '@' := by
  have hlt : c.toNat < 128 := by
    have hpath := Percent.path_of_userinfo h
    simp only [Percent.path, Percent.fragment, Bool.and_eq_true] at hpath
    exact Percent.toNat_lt_of_notControl hpath.1.1
  exact forall_ascii (P := fun c => Percent.userinfo c = true →
    endsAuthority c = false ∧ c ≠ ':' ∧ c ≠ '@') (by decide) hlt h

theorem not_endsAuthority_of_mem_userinfo {text : List Char} {c : Char}
    (h : c ∈ Percent.encode Percent.userinfo text) :
    endsAuthority c = false ∧ c ≠ ':' ∧ c ≠ '@' := by
  obtain ⟨-, h⟩ | h := Percent.mem_encode h
  · exact not_endsAuthority_of_userinfo h
  · exact not_endsAuthority_of_userinfo (Percent.userinfo_of_inEscape h)

theorem not_endsAuthority_of_isPlain {c : Char} (h : IsPlain c) :
    endsAuthority c = false ∧ c ≠ '@' ∧ c ≠ ':' ∧ c ≠ '[' := by
  exact forall_ascii (P := fun c => deniedInDomain c = false →
    endsAuthority c = false ∧ c ≠ '@' ∧ c ≠ ':' ∧ c ≠ '[') (by decide)
    (of_decide_eq_true h.isAscii) h.fit

theorem not_endsAuthority_of_isDigit {c : Char} (h : c.isDigit = true) :
    endsAuthority c = false ∧ c ≠ '@' := by
  have hlt := toNat_lt_of_isAlphanum (c := c) (by rw [Char.isAlphanum, h, Bool.or_true])
  exact forall_ascii (P := fun c => c.isDigit = true → endsAuthority c = false ∧ c ≠ '@')
    (by decide) hlt h

theorem mem_renderPieces {ps : List Nat} {c : Char} (h : c ∈ renderPieces ps) :
    c = ':' ∨ ∃ d < 16, c = d.digitChar := by
  rw [renderPieces_eq] at h
  refine (mem_join h).imp_right fun ⟨part, hpart, hc⟩ => ?_
  obtain ⟨p, -, rfl⟩ := List.mem_map.mp hpart
  exact mem_toDigits (by decide) hc

theorem mem_innerIpv6 {ps : List Nat} {c : Char} (h : c ∈ innerIpv6 ps) :
    c = ':' ∨ ∃ d < 16, c = d.digitChar := by
  rw [innerIpv6] at h
  split at h
  next => exact mem_renderPieces h
  next =>
    rw [List.mem_append, List.mem_append] at h
    obtain (h | h) | h := h
    · exact mem_renderPieces h
    · simp only [List.mem_cons, List.not_mem_nil, or_false, or_self] at h
      exact .inl h
    · exact mem_renderPieces h

theorem not_endsAuthority_of_mem_innerIpv6 {ps : List Nat} {c : Char} (h : c ∈ innerIpv6 ps) :
    endsAuthority c = false ∧ c ≠ '@' ∧ c ≠ ']' := by
  have hall : ∀ d < 16, endsAuthority d.digitChar = false ∧ d.digitChar ≠ '@' ∧
      d.digitChar ≠ ']' := by decide
  obtain rfl | ⟨d, hd, rfl⟩ := mem_innerIpv6 h
  · decide
  · exact hall d hd

/-- A name of a host is never empty, and its characters are plain. -/
theorem isPlain_of_mem_domain {cs name : List Char} (h : readHost cs = .ok (.domain name)) :
    name ≠ [] ∧ ∀ c ∈ name, IsPlain c := by
  obtain ⟨ps, heq, -⟩ | ⟨a, heq, -⟩ | ⟨_, ascii, heq, hascii, hne, -⟩ := readHost_eq_ok h
  · cases heq
  · cases heq
  · cases heq
    exact ⟨hne, fun c hc => isPlain_of_mem_ascii hascii hc⟩

/-- No character of a name ends an authority, or a part of one. -/
theorem not_endsAuthority_of_mem_domain {scheme cs name : List Char}
    (h : readHostOf scheme cs = .ok (.domain name)) {c : Char} (hc : c ∈ name) :
    endsAuthority c = false ∧ c ≠ '@' ∧ c ≠ ':' ∧ c ≠ '[' := by
  rw [readHostOf] at h
  split at h
  next => exact not_endsAuthority_of_isPlain ((isPlain_of_mem_domain h).2 c hc)
  next =>
    obtain ⟨ps, heq, -⟩ | ⟨heq, hfit⟩ := readPlainHost_eq_ok h
    · cases heq
    · cases heq
      have hplain := plain_of_mem_encode hfit hc
      exact forall_ascii (P := fun c => Percent.notControl c = true ∧ deniedInHost c = false →
        endsAuthority c = false ∧ c ≠ '@' ∧ c ≠ ':' ∧ c ≠ '[') (by decide)
        (Percent.toNat_lt_of_notControl hplain.1) hplain

theorem not_endsAuthority_of_mem_host {scheme cs : List Char} {host : Host}
    (h : readHostOf scheme cs = .ok host) {c : Char} (hc : c ∈ host.render) :
    endsAuthority c = false ∧ c ≠ '@' := by
  cases host with
  | domain name =>
    have hfit := not_endsAuthority_of_mem_domain h hc
    exact ⟨hfit.1, hfit.2.1⟩
  | ipv4 a =>
    have hplain := not_endsAuthority_of_isPlain (isPlain_of_mem_renderIpv4 hc)
    exact ⟨hplain.1, hplain.2.1⟩
  | ipv6 ps =>
    rw [Host.render, renderIpv6_eq, List.cons_append, List.mem_cons, List.mem_append,
      List.mem_singleton] at hc
    obtain rfl | hc | rfl := hc
    · decide
    · have hinner := not_endsAuthority_of_mem_innerIpv6 hc
      exact ⟨hinner.1, hinner.2.1⟩
    · decide

/-- No character of a port ends an authority. -/
theorem not_endsAuthority_of_mem_portText {a : Authority} {c : Char} (hc : c ∈ portText a) :
    endsAuthority c = false ∧ c ≠ '@' := by
  rw [portText] at hc
  split at hc
  · cases hc
  · obtain rfl | hc := List.mem_cons.mp hc
    · decide
    · exact not_endsAuthority_of_isDigit (isDigit_of_mem_decimal hc)

/-- No character of a login ends an authority. -/
theorem not_endsAuthority_of_mem_loginText {a : Authority} (h : IsLogin a) {c : Char}
    (hc : c ∈ loginText a) : endsAuthority c = false := by
  rw [loginText] at hc
  split at hc
  · cases hc
  · rw [List.mem_append, List.mem_append] at hc
    obtain (hc | hc) | hc := hc
    · obtain ⟨text, htext⟩ := h.user
      rw [htext] at hc
      exact (not_endsAuthority_of_mem_userinfo hc).1
    · split at hc
      next => cases hc
      next p hp =>
        obtain ⟨-, text, rfl⟩ := h.password p hp
        obtain rfl | hc := List.mem_cons.mp hc
        · decide
        · exact (not_endsAuthority_of_mem_userinfo hc).1
    · rw [List.mem_singleton.mp hc]
      decide

/-- The login is told from the place by its at sign, which no other part has. -/
theorem ne_at_of_mem_place {scheme : List Char} {a : Authority} (h : IsRead scheme a) {c : Char}
    (hc : c ∈ a.host.render ++ portText a) : endsAuthority c = false ∧ c ≠ '@' := by
  obtain hc | hc := List.mem_append.mp hc
  · obtain ⟨name, hname⟩ := h.host
    exact not_endsAuthority_of_mem_host hname hc
  · exact not_endsAuthority_of_mem_portText hc

/-- **No character of an authority** ends it. -/
theorem not_endsAuthority_of_mem {scheme : List Char} {a : Authority} (h : IsRead scheme a)
    {c : Char} (hc : c ∈ innerText a) : endsAuthority c = false := by
  obtain hc | hc := List.mem_append.mp hc
  · exact not_endsAuthority_of_mem_loginText h.toIsLogin hc
  · exact (ne_at_of_mem_place h hc).1

/-! ## Reading the parts -/

theorem splitLogin_of_forall {place : List Char} (h : ∀ c ∈ place, c ≠ '@') :
    splitLogin place = (none, place) := by
  have hdrop : place.reverse.dropWhile (· != '@') = [] := by
    rw [List.dropWhile_eq_nil_iff]
    exact fun c hc => bne_iff_ne.mpr (h c (List.mem_reverse.mp hc))
  rw [splitLogin, hdrop]

/-- **The login** ends at the last at sign. -/
theorem splitLogin_append {login place : List Char} (h : ∀ c ∈ place, c ≠ '@') :
    splitLogin (login ++ '@' :: place) = (some login, place) := by
  have hnot : ∀ c ∈ place.reverse, (c != '@') = true := fun c hc =>
    bne_iff_ne.mpr (h c (List.mem_reverse.mp hc))
  have hreverse : (login ++ '@' :: place).reverse = place.reverse ++ '@' :: login.reverse := by
    rw [List.reverse_append, List.reverse_cons, List.append_assoc, List.singleton_append]
  rw [splitLogin, hreverse, List.dropWhile_append_of_pos hnot, List.takeWhile_append_of_pos hnot]
  change (some login.reverse.reverse, (place.reverse ++ []).reverse) = _
  rw [List.reverse_reverse, List.append_nil, List.reverse_reverse]

theorem encode_userinfo (text : List Char) :
    Percent.encode Percent.userinfo (Percent.encode Percent.userinfo text) =
      Percent.encode Percent.userinfo text :=
  Percent.encode_encode (fun _ h => h) (fun _ h => Percent.userinfo_of_inEscape h) text

/-- **The user and the password** are read back. -/
theorem readLogin_append {a : Authority} (h : IsLogin a) :
    readLogin (a.user ++ (match a.password with | none => [] | some p => ':' :: p)) =
      (a.user, a.password) := by
  obtain ⟨text, htext⟩ := h.user
  have hcolon : ∀ c ∈ a.user, (c == ':') = false := fun c hc => by
    rw [htext] at hc
    exact beq_eq_false_iff_ne.mpr (not_endsAuthority_of_mem_userinfo hc).2.1
  have huser : Percent.encode Percent.userinfo a.user = a.user := by rw [htext, encode_userinfo]
  rw [readLogin]
  cases hpassword : a.password with
  | none =>
    rw [List.append_nil, breakAt_of_forall hcolon]
    exact congrArg (·, none) huser
  | some p =>
    obtain ⟨hne, text, hp⟩ := h.password p hpassword
    rw [breakAt_append_cons hcolon rfl]
    change (_, if p = [] then none else _) = _
    rw [if_neg hne, huser, hp]
    exact congrArg (a.user, some ·) (encode_userinfo text)

/-- What may follow a name in a place: nothing, or a colon. -/
def FollowsHost (rest : List Char) : Prop := rest = [] ∨ ∃ digits, rest = ':' :: digits

theorem splitHost_cons {inside : Bool} {c : Char} (h : ¬(c = ':' ∧ inside = false))
    (cs : List Char) :
    splitHost inside (c :: cs) =
      (splitHost (if c = '[' then true else if c = ']' then false else inside) cs).map
        (c :: ·) id := by
  rw [splitHost, if_neg h]
  rfl

theorem splitHost_of_followsHost {rest : List Char} (h : FollowsHost rest) :
    splitHost false rest = ([], rest) := by
  obtain rfl | ⟨digits, rfl⟩ := h
  · rfl
  · exact if_pos ⟨rfl, rfl⟩

theorem splitHost_append {name rest : List Char} (h : ∀ c ∈ name, c ≠ ':' ∧ c ≠ '[')
    (hrest : FollowsHost rest) : splitHost false (name ++ rest) = (name, rest) := by
  induction name with
  | nil => exact splitHost_of_followsHost hrest
  | cons c name ih =>
    rw [List.forall_mem_cons] at h
    rw [List.cons_append, splitHost_cons fun hc => h.1.1 hc.1, if_neg h.1.2, ite_self, ih h.2]
    rfl

/-- Colons between brackets belong to the host. -/
theorem splitHost_inside {inner rest : List Char} (h : ∀ c ∈ inner, c ≠ ']')
    (hrest : FollowsHost rest) :
    splitHost true (inner ++ ']' :: rest) = (inner ++ [']'], rest) := by
  induction inner with
  | nil =>
    rw [List.nil_append, splitHost_cons fun hc => Bool.noConfusion hc.2, if_neg (by decide),
      if_pos rfl, splitHost_of_followsHost hrest]
    rfl
  | cons c inner ih =>
    rw [List.forall_mem_cons] at h
    rw [List.cons_append, splitHost_cons fun hc => Bool.noConfusion hc.2, if_neg h.1, ite_self,
      ih h.2]
    rfl

/-- **The host** ends where its text ends. -/
theorem splitHost_render {scheme cs rest : List Char} {host : Host}
    (h : readHostOf scheme cs = .ok host) (hrest : FollowsHost rest) :
    splitHost false (host.render ++ rest) = (host.render, rest) := by
  cases host with
  | domain name =>
    refine splitHost_append (fun c hc => ?_) hrest
    exact (not_endsAuthority_of_mem_domain h hc).2.2
  | ipv4 a =>
    refine splitHost_append (fun c hc => ?_) hrest
    exact (not_endsAuthority_of_isPlain (isPlain_of_mem_renderIpv4 hc)).2.2
  | ipv6 ps =>
    have hinner : ∀ c ∈ innerIpv6 ps, c ≠ ']' := fun c hc =>
      (not_endsAuthority_of_mem_innerIpv6 hc).2.2
    rw [Host.render, renderIpv6_eq, List.cons_append, List.cons_append, List.append_assoc,
      List.singleton_append, splitHost_cons fun hc => absurd hc.1 (by decide), if_pos rfl,
      splitHost_inside hinner hrest]
    rfl

/-- **A port** that is not the scheme's own is read back. -/
theorem readPort_decimal {scheme : List Char} {n : Nat} (hn : n ≤ 65535)
    (hscheme : defaultPort scheme ≠ some n) : readPort scheme (decimal n) = .ok (some n, []) := by
  have hdigits : ∀ c ∈ decimal n, c.isDigit = true := fun c hc => isDigit_of_mem_decimal hc
  rw [readPort, List.takeWhile_eq_self_iff.mpr hdigits, List.dropWhile_eq_nil_iff.mpr hdigits,
    digitsValue_decimal, if_neg (Nat.not_lt.mpr hn), if_neg (by decide),
    if_neg fun h => h.elim (decimal_ne_nil n) hscheme]

/-! ## Whole authorities -/

/-- The login and the place of an authority are told apart. -/
theorem splitLogin_innerText {a : Authority} (h : IsLogin a)
    (hplace : ∀ c ∈ a.host.render ++ portText a, c ≠ '@') :
    ∃ login, splitLogin (innerText a) = (login, a.host.render ++ portText a) ∧ login ≠ some [] ∧
      readLogin (login.getD []) = (a.user, a.password) := by
  rw [innerText, loginText]
  split
  next hnone =>
    refine ⟨none, splitLogin_of_forall hplace, nofun, ?_⟩
    rw [hnone.1, hnone.2]
    rfl
  next hsome =>
    refine ⟨some _, ?_, ?_, readLogin_append h⟩
    · rw [List.append_assoc]
      exact splitLogin_append hplace
    · intro hnil
      rw [Option.some.injEq, List.append_eq_nil_iff] at hnil
      refine hsome ⟨hnil.1, ?_⟩
      cases hpassword : a.password with
      | none => rfl
      | some p => rw [hpassword] at hnil; cases hnil.2

theorem followsHost_portText (a : Authority) : FollowsHost (portText a) := by
  rw [portText]
  split
  · exact .inl rfl
  · exact .inr ⟨_, rfl⟩

theorem host_ne_empty {cs : List Char} {host : Host} (h : readHost cs = .ok host) :
    host ≠ .domain [] := by
  rintro rfl
  exact (isPlain_of_mem_domain h).1 rfl

theorem render_ne_nil {cs : List Char} {host : Host} (h : readHost cs = .ok host) :
    host.render ≠ [] := by
  cases host with
  | domain name => exact (isPlain_of_mem_domain h).1
  | ipv4 a => exact renderIpv4_ne_nil a
  | ipv6 ps => exact List.cons_ne_nil _ _

/-- The port after a host, and what follows it. -/
def readPortText (scheme : List Char) : List Char → Except ParseError (Option Nat × List Char)
  | ':' :: digits => readPort scheme digits
  | rest => .ok (none, rest)

theorem followsHost_splitHost (inside : Bool) (cs : List Char) :
    FollowsHost (splitHost inside cs).2 := by
  induction cs generalizing inside with
  | nil => exact .inl rfl
  | cons c cs ih =>
    by_cases h : c = ':' ∧ inside = false
    · rw [splitHost, if_pos h, h.1]
      exact .inr ⟨cs, rfl⟩
    · rw [splitHost_cons h]
      exact ih _

/-- **How an authority comes to be read.**  One without a host has neither a port nor a login. -/
theorem readAuthority_iff {scheme cs rest : List Char} {followed : Bool} {a : Authority}
    {login : Option (List Char)} {place name tail : List Char}
    (hlogin : splitLogin cs = (login, place)) (hhost : splitHost false place = (name, tail)) :
    readAuthority scheme cs followed = .ok (a, rest) ↔
      ¬(login = some [] ∧ place = [] ∧ followed = true) ∧ ¬(isSpecial scheme = true ∧ name = []) ∧
        readLogin (login.getD []) = (a.user, a.password) ∧ readHostOf scheme name = .ok a.host ∧
        readPortText scheme tail = .ok (a.port, rest) ∧
        (a.host = .domain [] → tail = [] ∧ a.user = [] ∧ a.password = none) := by
  rcases hparts : readLogin (login.getD []) with ⟨user, password⟩
  have htail := followsHost_splitHost false place
  rw [hhost] at htail
  have hcolon : tail.head? = some ':' ↔ tail ≠ [] := by
    obtain rfl | ⟨digits, rfl⟩ := htail
    · exact ⟨nofun, fun h => absurd rfl h⟩
    · exact ⟨fun _ => List.cons_ne_nil _ _, fun _ => rfl⟩
  have hplace (found : Except ParseError Host) : (∃ host, found = .ok host ∧
      ¬(host = .domain [] ∧ tail.head? = some ':') ∧ ∃ x, readPortText scheme tail = .ok x ∧
        ¬(host = .domain [] ∧ (user ≠ [] ∨ password.isSome = true)) ∧
          (a, rest) = (⟨user, password, host, x.1⟩, x.2)) ↔
        (user, password) = (a.user, a.password) ∧ found = .ok a.host ∧
          readPortText scheme tail = .ok (a.port, rest) ∧
          (a.host = .domain [] → tail = [] ∧ a.user = [] ∧ a.password = none) := by
    rw [hcolon]
    constructor
    · rintro ⟨host, hread, hport, ⟨port, rest⟩, hdigits, hbare, ⟨⟩⟩
      refine ⟨rfl, hread, hdigits, fun hnil => ?_⟩
      rw [not_and, not_not] at hport
      rw [not_and, not_or, not_not, Bool.not_eq_true, Option.isSome_eq_false_iff,
        Option.isNone_iff_eq_none] at hbare
      exact ⟨hport hnil, hbare hnil⟩
    · rintro ⟨⟨⟩, hread, hdigits, hbare⟩
      refine ⟨a.host, hread, fun h => h.2 (hbare h.1).1, _, hdigits, fun h => ?_, rfl⟩
      obtain ⟨-, huser, hpassword⟩ := hbare h.1
      rw [huser, hpassword] at h
      exact h.2.elim (fun hne => hne rfl) (fun hsome => Bool.false_ne_true hsome)
  unfold readAuthority readHostOf
  rw [hlogin]
  dsimp -zeta only
  rw [hhost, hparts]
  simp only [↓Outcome.guard_eq_ok]
  refine and_congr_right fun _ => and_congr_right fun _ => Iff.trans ?_ (hplace _)
  cases isSpecial scheme
  all_goals
    obtain rfl | ⟨digits, rfl⟩ := htail
    all_goals
      simp only [Outcome.bind_eq_ok, Outcome.guard_eq_ok, Outcome.pure_eq_ok, Bool.false_eq_true,
        if_true, if_false]
      rfl

/-- **How an authority comes to be read** after a special scheme: its host is never empty. -/
theorem readAuthority_eq_ok {scheme cs rest : List Char} {followed : Bool} {a : Authority}
    {login : Option (List Char)} {place name tail : List Char}
    (hspecial : isSpecial scheme = true) (hlogin : splitLogin cs = (login, place))
    (hhost : splitHost false place = (name, tail)) :
    readAuthority scheme cs followed = .ok (a, rest) ↔
      ¬(login = some [] ∧ place = [] ∧ followed = true) ∧ name ≠ [] ∧
        readLogin (login.getD []) = (a.user, a.password) ∧ readHost name = .ok a.host ∧
        readPortText scheme tail = .ok (a.port, rest) := by
  rw [readAuthority_iff hlogin hhost, readHostOf, if_pos hspecial]
  constructor
  · rintro ⟨hempty, hname, hparts, hread, hport, -⟩
    exact ⟨hempty, fun hnil => hname ⟨hspecial, hnil⟩, hparts, hread, hport⟩
  · rintro ⟨hempty, hname, hparts, hread, hport⟩
    exact ⟨hempty, fun h => hname h.2, hparts, hread, hport, fun h => absurd h (host_ne_empty hread)⟩

theorem readPortText_portText {scheme : List Char} {a : Authority} (h : IsRead scheme a) :
    readPortText scheme (portText a) = .ok (a.port, []) := by
  rw [portText]
  cases hport : a.port with
  | none => rfl
  | some n =>
    obtain ⟨hn, hscheme⟩ := h.port n hport
    exact readPort_decimal hn hscheme

/-- A host after a special scheme has a text. -/
theorem IsRead.render_ne_nil {scheme : List Char} {a : Authority} (h : IsRead scheme a)
    (hspecial : isSpecial scheme = true) : a.host.render ≠ [] := by
  obtain ⟨name, hname⟩ := h.host
  rw [readHostOf, if_pos hspecial] at hname
  exact Url.render_ne_nil hname

/-- **An authority** is read back from its text, if its host is. -/
theorem readAuthority_innerText {scheme : List Char} {a : Authority} (h : IsRead scheme a)
    (hread : isSpecial scheme = true → IsReadableHost a.host) (followed : Bool) :
    readAuthority scheme (innerText a) followed = .ok (a, []) := by
  obtain ⟨name, hname⟩ := h.host
  obtain ⟨login, hlogin, hne, hparts⟩ :=
    splitLogin_innerText h.toIsLogin fun c hc => (ne_at_of_mem_place h hc).2
  have hhost := splitHost_render hname (followsHost_portText a)
  refine (readAuthority_iff hlogin hhost).mpr ⟨fun hc => hne hc.1, ?_, hparts,
    readHostOf_render hname hread, readPortText_portText h, fun hnil => ?_⟩
  · rintro ⟨hspecial, hnil⟩
    exact h.render_ne_nil hspecial hnil
  · obtain ⟨huser, hpassword, hport⟩ := h.bare hnil
    rw [portText, hport]
    exact ⟨rfl, huser, hpassword⟩

/-- An authority whose host cannot be read again cannot be read again. -/
theorem isReadableHost_of_readAuthority {scheme rest : List Char} {a again : Authority}
    {followed : Bool} (hspecial : isSpecial scheme = true) (h : IsRead scheme a)
    (hagain : readAuthority scheme (innerText a) followed = .ok (again, rest)) :
    IsReadableHost a.host := by
  obtain ⟨name, hname⟩ := h.host
  obtain ⟨login, hlogin, -, -⟩ :=
    splitLogin_innerText h.toIsLogin fun c hc => (ne_at_of_mem_place h hc).2
  have hhost := splitHost_render hname (followsHost_portText a)
  obtain ⟨-, -, -, hread, -⟩ := (readAuthority_eq_ok hspecial hlogin hhost).mp hagain
  rw [readHostOf, if_pos hspecial] at hname
  exact isReadableHost_of_readHost hname hread

/-! ## What was read -/

/-- A password is encoded, and there is one only if it is not empty. -/
theorem password_of_readLogin {cs user p : List Char} (h : readLogin cs = (user, some p)) :
    p ≠ [] ∧ ∃ text, p = Percent.encode Percent.userinfo text := by
  rw [readLogin] at h
  have hpassword := (Prod.mk.inj h).2
  split at hpassword
  next => cases hpassword
  next hne =>
    rw [← Option.some.inj hpassword]
    exact ⟨fun hnil => hne (Percent.encode_eq_nil.mp hnil), _, rfl⟩

/-- A port is in range and not the scheme's own. -/
theorem port_of_readPort {scheme digits rest : List Char} {n : Nat}
    (h : readPort scheme digits = .ok (some n, rest)) : n ≤ 65535 ∧ defaultPort scheme ≠ some n := by
  rw [readPort] at h
  split at h
  next => cases h
  next hle =>
    split at h
    next => cases h
    next =>
      have hport := (Prod.mk.inj (Except.ok.inj h)).1
      split at hport
      next => cases hport
      next hfit =>
        rw [← Option.some.inj hport]
        exact ⟨Nat.not_lt.mp hle, fun hdefault => hfit (.inr hdefault)⟩

theorem isLogin_of_readLogin {login : List Char} {a : Authority}
    (h : readLogin login = (a.user, a.password)) : IsLogin a := by
  refine ⟨⟨_, congrArg Prod.fst h.symm⟩, fun p hp => ?_⟩
  rw [hp] at h
  exact password_of_readLogin h

theorem port_of_readPortText {scheme tail rest : List Char} {n : Nat}
    (h : readPortText scheme tail = .ok (some n, rest)) :
    n ≤ 65535 ∧ defaultPort scheme ≠ some n := by
  unfold readPortText at h
  split at h
  next digits => exact port_of_readPort h
  next => cases h

/-- **An authority that was read** has such parts. -/
theorem isRead_of_readAuthority {scheme cs rest : List Char} {a : Authority} {followed : Bool}
    (h : readAuthority scheme cs followed = .ok (a, rest)) : IsRead scheme a := by
  rcases hlogin : splitLogin cs with ⟨login, place⟩
  rcases hhost : splitHost false place with ⟨name, tail⟩
  obtain ⟨-, -, hparts, hread, hport, hbare⟩ := (readAuthority_iff hlogin hhost).mp h
  refine ⟨isLogin_of_readLogin hparts, ⟨_, hread⟩, fun n hn => ?_, fun hnil => ?_⟩
  · rw [hn] at hport
    exact port_of_readPortText hport
  · obtain ⟨rfl, huser, hpassword⟩ := hbare hnil
    exact ⟨huser, hpassword, (Prod.mk.inj (Except.ok.inj hport)).1.symm⟩

end RestLoom.Url
