import RestLoom.Proofs.Percent.Basic
import RestLoom.Proofs.Text.Utf8
import RestLoom.Proofs.Url.Address
import RestLoom.Proofs.Url.Domain
import RestLoom.Url.Parse

/-!
# Proofs/Url/Host — a host is read back from its text

    text ──readHost──▸ host ──render──▸ text' ──readHost──▸ host

Names in ASCII and addresses of either kind stand for themselves.  The one exception is a name with
a code too long to be read, and that one cannot be read at all (`isReadableHost_of_readHost`).
-/

namespace RestLoom.Url

open RestLoom.Text

/-- A host whose text can be read: all of its codes are short enough. -/
def IsReadableHost (host : Host) : Prop := ∀ name, host = .domain name → IsReadableName name

/-! ## Plain text -/

/-- What is read from the name of a host in ASCII. -/
def hostOfAscii (ascii : List Char) : Except ParseError Host :=
  if ascii = [] then .error .emptyHost
  else if endsInNumber ascii then (readIpv4 ascii).map .ipv4
  else .ok (.domain ascii)

/-- **A text without escapes and brackets** is read as the name it is. -/
theorem readHost_of_not_mem {name : List Char} (hescape : '%' ∉ name) (hbracket : '[' ∉ name) :
    readHost name = domainToAscii name >>= hostOfAscii := by
  have hbrackets : readBrackets name = none := by
    unfold readBrackets
    split
    next inner => exact absurd List.mem_cons_self hbracket
    next => rfl
  rw [readHost, hbrackets, Percent.decode_eq_utf8 hescape, decode?_utf8]
  dsimp only
  cases domainToAscii name with
  | error e => rfl
  | ok ascii =>
    change (if ascii = [] then _ else _ : Except ParseError Host) = hostOfAscii ascii
    rw [hostOfAscii]
    split
    · rfl
    · split
      · cases readIpv4 ascii <;> rfl
      · rfl

theorem readHost_of_isPlain {name : List Char} (h : ∀ c ∈ name, IsPlain c) :
    readHost name = domainToAscii name >>= hostOfAscii :=
  readHost_of_not_mem (fun hmem => absurd (h '%' hmem).fit (by decide))
    fun hmem => absurd (h '[' hmem).fit (by decide)

/-- A host between brackets is an address of eight pieces. -/
theorem exists_of_readBrackets {cs : List Char} {host : Host}
    (h : readBrackets cs = some (.ok host)) :
    ∃ ps, host = .ipv6 ps ∧ ps.length = 8 ∧ ∀ p ∈ ps, p < 16 ^ 4 := by
  unfold readBrackets at h
  split at h
  next inner =>
    rw [Option.some.injEq] at h
    split at h
    next =>
      cases hread : readIpv6 inner.dropLast with
      | error e => rw [hread] at h; cases h
      | ok ps =>
        rw [hread] at h
        cases h
        exact ⟨ps, rfl, readIpv6_spec hread⟩
    next => cases h
  next => cases h

/-- **How a host came to be read.** -/
theorem readHost_eq_ok {cs : List Char} {host : Host} (h : readHost cs = .ok host) :
    (∃ ps, host = .ipv6 ps ∧ ps.length = 8 ∧ ∀ p ∈ ps, p < 16 ^ 4) ∨
      (∃ a, host = .ipv4 a ∧ a < 256 ^ 4) ∨
      ∃ name ascii, host = .domain ascii ∧ domainToAscii name = .ok ascii ∧ ascii ≠ [] ∧
        endsInNumber ascii = false := by
  unfold readHost at h
  split at h
  next found hfound =>
    rw [h] at hfound
    exact .inl (exists_of_readBrackets hfound)
  next =>
    right
    split at h
    next => cases h
    next name _ =>
      obtain ⟨ascii, hascii, h⟩ := Outcome.bind_eq_ok.mp h
      split at h
      next => cases h
      next hne =>
        split at h
        next hnumber =>
          obtain ⟨a, ha, h⟩ := Outcome.bind_eq_ok.mp h
          cases h
          exact .inl ⟨a, rfl, readIpv4_lt ha⟩
        next hnumber =>
          cases h
          exact .inr ⟨name, ascii, rfl, hascii, hne, Bool.eq_false_iff.mpr hnumber⟩

/-! ## Addresses -/

theorem isPlain_of_mem_renderIpv4 {a : Nat} {c : Char} (h : c ∈ renderIpv4 a) : IsPlain c := by
  rw [renderIpv4_eq] at h
  obtain rfl | ⟨part, hpart, hc⟩ := mem_join h
  · exact ⟨by decide, by decide, by decide⟩
  · obtain ⟨n, -, rfl⟩ := mem_partsOf hpart
    have hdigit := isDigit_of_mem_decimal hc
    have hlt := toNat_lt_of_isAlphanum (c := c) (by rw [Char.isAlphanum, hdigit, Bool.or_true])
    obtain ⟨hascii, hsmall, hfit⟩ := forall_ascii (P := fun c => c.isDigit = true →
      isAscii c = true ∧ isCapital c = false ∧ deniedInDomain c = false) (by decide) hlt hdigit
    exact ⟨hascii, hsmall, hfit⟩

/-- **An address of four parts** is read back as a host. -/
theorem readHost_renderIpv4 {a : Nat} (h : a < 256 ^ 4) :
    readHost (renderIpv4 a) = .ok (.ipv4 a) := by
  have hcodes : ∀ label ∈ labelsOf (renderIpv4 a), dropStart? codeMark label = none := by
    rw [labelsOf, splitAt_renderIpv4]
    intro label hlabel
    obtain ⟨n, -, rfl⟩ := mem_partsOf hlabel
    cases hdrop : dropStart? codeMark (decimal n) with
    | none => rfl
    | some code =>
      have hx : 'x' ∈ decimal n := by
        rw [dropStart?_eq_some.mp hdrop]
        exact List.mem_cons_self
      exact absurd (isDigit_of_mem_decimal hx) (by decide)
  have hplain : ∀ c ∈ renderIpv4 a, IsPlain c := fun c hc => isPlain_of_mem_renderIpv4 hc
  rw [readHost_of_isPlain hplain, domainToAscii_of_isPlain hplain hcodes]
  change hostOfAscii (renderIpv4 a) = _
  rw [hostOfAscii, if_neg (renderIpv4_ne_nil a), if_pos (endsInNumber_renderIpv4 a),
    readIpv4_renderIpv4 h]
  rfl

theorem readBrackets_renderIpv6 {ps : List Nat} (hlength : ps.length = 8)
    (h : ∀ p ∈ ps, p < 16 ^ 4) : readBrackets (renderIpv6 ps) = some (.ok (.ipv6 ps)) := by
  have hlast : (innerIpv6 ps ++ [']']).getLast? = some ']' := List.getLast?_concat
  rw [renderIpv6_eq, List.cons_append, readBrackets, if_pos hlast, List.dropLast_concat,
    readIpv6_innerIpv6 hlength h]
  rfl

/-- **An address of eight pieces** is read back as a host. -/
theorem readHost_renderIpv6 {ps : List Nat} (hlength : ps.length = 8)
    (h : ∀ p ∈ ps, p < 16 ^ 4) : readHost (renderIpv6 ps) = .ok (.ipv6 ps) := by
  rw [readHost, readBrackets_renderIpv6 hlength h]

/-! ## Whole hosts -/

/-- **A host that was read is read back** from its text, if its codes can be read. -/
theorem readHost_render {cs : List Char} {host : Host} (h : readHost cs = .ok host)
    (hread : IsReadableHost host) : readHost host.render = .ok host := by
  obtain ⟨ps, rfl, hlength, hps⟩ | ⟨a, rfl, ha⟩ | ⟨name, ascii, rfl, hascii, hne, hnumber⟩ :=
    readHost_eq_ok h
  · exact readHost_renderIpv6 hlength hps
  · exact readHost_renderIpv4 ha
  · rw [Host.render, readHost_of_isPlain fun c hc => isPlain_of_mem_ascii hascii hc,
      domainToAscii_of_domainToAscii hascii (hread ascii rfl)]
    change hostOfAscii ascii = _
    rw [hostOfAscii, if_neg hne, hnumber, if_neg Bool.false_ne_true]

/-- **Only such hosts** are read back. -/
theorem isReadableHost_of_readHost {cs : List Char} {host again : Host}
    (h : readHost cs = .ok host) (hagain : readHost host.render = .ok again) :
    IsReadableHost host := by
  rintro ascii rfl
  obtain ⟨ps, hps, -⟩ | ⟨a, ha, -⟩ | ⟨name, ascii, heq, hascii, -, -⟩ := readHost_eq_ok h
  · cases hps
  · cases ha
  · cases heq
    rw [Host.render, readHost_of_isPlain fun c hc => isPlain_of_mem_ascii hascii hc] at hagain
    obtain ⟨twice, htwice, -⟩ := Outcome.bind_eq_ok.mp hagain
    exact isReadableName_of_domainToAscii hascii htwice

/-! ## Hosts after other schemes -/

/-- **How a host came to be read** after a scheme that is not special: its name is only escaped. -/
theorem readPlainHost_eq_ok {cs : List Char} {host : Host} (h : readPlainHost cs = .ok host) :
    (∃ ps, host = .ipv6 ps ∧ ps.length = 8 ∧ ∀ p ∈ ps, p < 16 ^ 4) ∨
      host = .domain (Percent.encode Percent.notControl cs) ∧ ∀ c ∈ cs, deniedInHost c = false := by
  unfold readPlainHost at h
  split at h
  next found hfound =>
    rw [h] at hfound
    exact .inl (exists_of_readBrackets hfound)
  next =>
    split at h
    next => cases h
    next hfit =>
      rw [Bool.not_eq_true, List.any_eq_false] at hfit
      cases h
      exact .inr ⟨rfl, fun c hc => Bool.eq_false_iff.mpr (hfit c hc)⟩

/-- The characters of an escaped name. -/
theorem plain_of_mem_encode {cs : List Char} (h : ∀ c ∈ cs, deniedInHost c = false) {c : Char}
    (hc : c ∈ Percent.encode Percent.notControl cs) :
    Percent.notControl c = true ∧ deniedInHost c = false := by
  obtain ⟨hc, hkeep⟩ | hc := Percent.mem_encode hc
  · exact ⟨hkeep, h c hc⟩
  · exact forall_ascii (P := fun c => Percent.inEscape c = true →
      Percent.notControl c = true ∧ deniedInHost c = false) (by decide)
      (Percent.toNat_lt_of_inEscape hc) hc

/-- The host of a URL with a scheme. -/
def readHostOf (scheme cs : List Char) : Except ParseError Host :=
  if isSpecial scheme then readHost cs else readPlainHost cs

/-- **A host that was read is read back** from its text; only after a special scheme its codes have
to be readable. -/
theorem readHostOf_render {scheme cs : List Char} {host : Host} (h : readHostOf scheme cs = .ok host)
    (hread : isSpecial scheme = true → IsReadableHost host) :
    readHostOf scheme host.render = .ok host := by
  rw [readHostOf] at h ⊢
  split at h
  next hspecial =>
    rw [if_pos hspecial]
    exact readHost_render h (hread hspecial)
  next hspecial =>
    rw [if_neg hspecial]
    obtain ⟨ps, rfl, hlength, hps⟩ | ⟨rfl, hfit⟩ := readPlainHost_eq_ok h
    · rw [Host.render, readPlainHost, readBrackets_renderIpv6 hlength hps]
    · have hplain := fun c hc => plain_of_mem_encode (c := c) hfit hc
      rw [Host.render]
      generalize Percent.encode Percent.notControl cs = name at hplain
      have hbrackets : readBrackets name = none := by
        unfold readBrackets
        split
        next inner => exact absurd (hplain '[' List.mem_cons_self).2 (by decide)
        next => rfl
      have hany : name.any deniedInHost = false :=
        List.any_eq_false.mpr fun c hc => Bool.eq_false_iff.mp (hplain c hc).2
      rw [readPlainHost, hbrackets, hany, if_neg Bool.false_ne_true,
        Percent.encode_eq_self fun c hc => (hplain c hc).1]

end RestLoom.Url
