import RestLoom.Text.Utf8

/-!
# Http/Header — headers of a message

    insert "X-A" "1" · insert "x-a" "2"  ──▸  x-a: 2

A header has a name, in which capital letters do not count, and a value.  `Headers` holds at most
one value for each name, so a later one replaces an earlier one (`get?_insert_self`).
-/

namespace RestLoom.Http

open RestLoom.Text

/-! ## Names and values -/

/-- Whether a character can stand in the name of a header. -/
def isNameChar (c : Char) : Bool :=
  c.isAlphanum || "!#$%&\x27*+-.^_\x60|~".toList.contains c

/-- The most characters that a name has. -/
def longestName : Nat := 65535

/-- The name of a header in small letters, if a text is one. -/
def headerName? (text : String) : Option String :=
  let cs := text.toList
  if cs ≠ [] ∧ cs.all isNameChar ∧ cs.length ≤ longestName then
    some (String.ofList (cs.map (·.toLower)))
  else none

/-- Whether a character can stand in the value of a header. -/
def isValueChar (c : Char) : Bool := (0x20 ≤ c.toNat && c.toNat ≠ 0x7f) || c == '\t'

/-- Whether a text can be the value of a header. -/
def isHeaderValue (text : String) : Bool := text.toList.all isValueChar

/-! ## Headers -/

/-- Headers in the order in which their names first came; each name stands there once. -/
structure Headers where
  fields : List (String × String)
  deriving DecidableEq

namespace Headers

/-- No headers. -/
def empty : Headers := ⟨[]⟩

/-- The value of a name. -/
def get? (h : Headers) (name : String) : Option String := h.fields.lookup name

/-- Fields with a value for a name, in the stead of one that may be there. -/
def insertField (name value : String) : List (String × String) → List (String × String)
  | [] => [(name, value)]
  | (n, v) :: fs => if n = name then (n, value) :: fs else (n, v) :: insertField name value fs

/-- The headers with a value for a name. -/
def insert (h : Headers) (name value : String) : Headers := ⟨insertField name value h.fields⟩

theorem get?_insert_self (h : Headers) (name value : String) :
    (h.insert name value).get? name = some value := by
  unfold insert get?
  induction h.fields with
  | nil => simp [insertField]
  | cons f fs ih =>
    obtain ⟨n, v⟩ := f
    unfold insertField
    split
    · next hn => subst hn; simp
    · next hn =>
      have : (name == n) = false := by simpa using fun e => hn e.symm
      simpa [List.lookup_cons, this] using ih

/-- A byte of a value as debugging output shows it. -/
def showByte (b : UInt8) : List Char :=
  if b = 0x22 then ['\\', '\x22']
  else if (0x20 ≤ b ∧ b < 0x7f) ∨ b = 0x09 then [Char.ofNat b.toNat]
  else ['\\', 'x'] ++ Nat.toDigits 16 b.toNat

/-- A field as debugging output shows it. -/
def showField (f : String × String) : List Char :=
  '\x22' :: f.1.toList ++ ['\x22', ':', ' ', '\x22'] ++ (utf8 f.2.toList).flatMap showByte ++
    ['\x22']

/-- Headers as debugging output shows them. -/
def describe (h : Headers) : String :=
  String.ofList ('{' :: ((h.fields.map showField).intersperse [',', ' ']).flatten ++ ['}'])

end Headers

end RestLoom.Http
