import RestLoom.Proofs.Client.PathValues
import RestLoom.Proofs.Url.Standard

/-!
# Proofs/Client/SameServer — requests stay on the server of their base address

    base https://user@host:8080/api/  ·  "\@other/../?x#"   ──url──▸   https://user@host:8080/…

The text of a base address of the web ends its authority with a slash, and what stands before the
slash is read before any character of a path (`Url.parse_webText`).  So no path and no query has a
part in the server of a request; whether there is a URL at all depends on the base alone
(`url_sameServer`).  Where the name of the base is read as the URL standard has it, there is one
(`exists_url_sameServer`).
-/

namespace RestLoom.Client

open RestLoom.Text
open RestLoom.Url (IsWeb IsBase IsReadableHost KeepsToStandard labelLimit labelsOf)

/-- Whether two URLs name the same server: their schemes agree, and their authorities, each of which
is a user, a password, a host and a port. -/
structure SameServer (u v : Url) : Prop where
  scheme : u.scheme = v.scheme
  authority : u.authority = v.authority

variable {base u : Url} {a : Url.Authority} {front : List (List Char)} {r : Request}

theorem sameServer_withPairs (u : Url) (ps : List Url.Pair) : SameServer (u.withPairs ps) u := by
  rw [Url.withPairs]
  split
  · exact ⟨rfl, rfl⟩
  · exact ⟨rfl, rfl⟩

/-- A request has a URL under a base just when the host of the base can be read back. -/
theorem exists_url_iff (h : IsBase base a front) :
    (∃ u, r.url base = .ok u) ↔ IsReadableHost a.host := by
  simp only [url_eq_ok_iff h, exists_and_left, exists_eq, and_true]

/-- The URL of a request is on the server of the base. -/
theorem sameServer_of_url (h : IsBase base a front) (hu : r.url base = .ok u) :
    SameServer u base := by
  obtain ⟨-, rfl⟩ := (url_eq_ok_iff h).mp hu
  obtain ⟨hscheme, hauthority⟩ := sameServer_withPairs
    (urlUnder base a (pathText front r.path.toList)) (r.query.map fun p => (p.1.toList, p.2.toList))
  have hbase : base.authority = some a := by rw [h.eq]
  exact ⟨hscheme, hauthority.trans hbase.symm⟩

theorem isReadableAddress_iff (h : IsBase base a front) :
    IsReadableAddress base ↔ IsReadableHost a.host := by
  have hbase : base.authority = some a := by rw [h.eq]
  rw [IsReadableAddress, hbase]
  exact ⟨fun h => h a rfl, fun h _ ha => Option.some.inj ha ▸ h⟩

/-- A base whose name is read as the standard has it can be read back. -/
theorem isReadableHost_of_isBase (h : IsBase base a front) (hstandard : KeepsToStandard a.host) :
    IsReadableHost a.host := by
  obtain ⟨name, hname⟩ := h.read.host
  rw [Url.readHostOf, if_pos h.scheme.special] at hname
  exact Url.isReadableHost_of_keepsToStandard hname hstandard

/-- Under a base address of the web every request has a URL if the address can be read back, none
has one if it cannot, and the URL is on the server of the base. -/
theorem url_sameServer {address : String} (hbase : normalizeBaseAddress address = .ok base)
    (hweb : IsWeb base.scheme) (r : Request) :
    ((∃ u, r.url base = .ok u) ↔ IsReadableAddress base) ∧
      ∀ u, r.url base = .ok u → SameServer u base := by
  obtain ⟨a, front, h⟩ := exists_isBase hbase hweb
  rw [exists_url_iff h, isReadableAddress_iff h]
  exact ⟨Iff.rfl, fun u hu => sameServer_of_url h hu⟩

/-- **No path and no query leads to another server**: under a base address of the web whose name is
read as the URL standard has it, every request has a URL, and the URL has the scheme, the user, the
password, the host and the port of the base. -/
theorem exists_url_sameServer {address : String} (hbase : normalizeBaseAddress address = .ok base)
    (hweb : IsWeb base.scheme)
    (hstandard : ∀ a, base.authority = some a → KeepsToStandard a.host) (r : Request) :
    ∃ u, r.url base = .ok u ∧ SameServer u base := by
  obtain ⟨a, front, h⟩ := exists_isBase hbase hweb
  have hauthority : base.authority = some a := by rw [h.eq]
  have hread := isReadableHost_of_isBase h (hstandard a hauthority)
  obtain ⟨hexists, hsame⟩ := url_sameServer hbase hweb r
  obtain ⟨u, hu⟩ := hexists.mpr ((isReadableAddress_iff h).mpr hread)
  exact ⟨u, hu, hsame u hu⟩

/-- A request whose path looks like the authority of another server. -/
def strayRequest : Request where
  verb := .get
  path := "\\@other:80//..\t/?x#y"
  query := [("a", "//other")]
  body := none
  cancel := none

/-- A name of one letter is read as the standard has it. -/
theorem keepsToStandard_host : ∀ a, hostBase.authority = some a → KeepsToStandard a.host := by
  rintro a ⟨⟩ name ⟨⟩
  refine (Url.Standard.domainToAscii_eq fun label hlabel => ?_).symm
  have hlabels : labelsOf (normalForm ("h".toList.flatMap Url.foldForDomain)) = ["h".toList] := by
    decide +kernel
  rw [hlabels, List.mem_singleton] at hlabel
  rw [hlabel, labelLimit]
  decide

/-- The stray request stays on its server. -/
theorem stray_sameServer : ∃ u, normalizeBaseAddress "http://h" = .ok hostBase ∧
    IsWeb hostBase.scheme ∧ (∀ a, hostBase.authority = some a → KeepsToStandard a.host) ∧
    strayRequest.url hostBase = .ok u ∧ SameServer u hostBase := by
  obtain ⟨u, hu, hsame⟩ := exists_url_sameServer normalizeBaseAddress_host (.inl rfl)
    keepsToStandard_host strayRequest
  exact ⟨u, normalizeBaseAddress_host, .inl rfl, keepsToStandard_host, hu, hsame⟩

end RestLoom.Client
