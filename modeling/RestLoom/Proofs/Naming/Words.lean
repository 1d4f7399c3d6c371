import RestLoom.Proofs.Emit.Stem
import RestLoom.Proofs.Naming.Snake

/-!
# Proofs/Naming/Words — an underscore before each word

    H T T P C l i e n t  ──spacedChars──▸  h t t p _c l i e n t

In ASCII the snake-case form of a text is read off the text place by place (`snakeCase_eq_flatten`):
each character becomes its small letter, with an underscore in front where a word starts
(`StartsWordAt`).  So nothing is lost, added or moved but for these underscores, each of which
stands between two characters that are none, and a text without capital letters stays as it is
(`snakeCase_spacesOut`).
-/

namespace RestLoom.Naming

open RestLoom.Text

variable {s front back : List Char} {c : Char}

/-! ## Letters of ASCII -/

theorem isUpper_eq (hc : c.toNat < 128) : isUpper c = c.isUpper :=
  forall_ascii (P := fun c => isUpper c = c.isUpper) (by decide) hc

theorem isLower_eq (hc : c.toNat < 128) : isLower c = c.isLower :=
  forall_ascii (P := fun c => isLower c = c.isLower) (by decide) hc

/-- A capital letter is written small, and anything else as it is. -/
theorem lowered_eq (hc : c.toNat < 128) : (if isUpper c then toLower c else [c]) = [c.toLower] :=
  forall_ascii (P := fun c => (if isUpper c then toLower c else [c]) = [c.toLower])
    (by decide) hc

theorem isUpper_toLower (hc : c.toNat < 128) : isUpper c.toLower = false :=
  forall_ascii (P := fun c => isUpper c.toLower = false) (by decide) hc

theorem toLower_ne_underscore (hc : c.toNat < 128) (hne : c ≠ '_') : c.toLower ≠ '_' :=
  forall_ascii (P := fun c => c ≠ '_' → c.toLower ≠ '_') (by decide) hc hne

/-! ## Where words start -/

/-- **A word starts** at a capital letter that follows a small letter or a digit, or that follows a
capital letter and precedes a small one. -/
def StartsWordAt (s : List Char) (i : Nat) : Prop :=
  ∃ p ∈ (s.take i).getLast?, ∃ c ∈ s[i]?, c.isUpper = true ∧
    (p.isLower = true ∨ p.isDigit = true ∨
      (p.isUpper = true ∧ ∃ n ∈ s[i + 1]?, n.isLower = true))

instance (s : List Char) (i : Nat) : Decidable (StartsWordAt s i) :=
  inferInstanceAs (Decidable (∃ p ∈ (s.take i).getLast?, ∃ c ∈ s[i]?, c.isUpper = true ∧
    (p.isLower = true ∨ p.isDigit = true ∨
      (p.isUpper = true ∧ ∃ n ∈ s[i + 1]?, n.isLower = true))))

theorem startsWordAt_length (hs : ∀ d ∈ front ++ c :: back, d.toNat < 128) :
    StartsWordAt (front ++ c :: back) front.length ↔
      isUpper c = true ∧ startsWord front.getLast? back.head? = true := by
  have htake : (front ++ c :: back).take front.length = front := List.take_left
  have hhere : (front ++ c :: back)[front.length]? = some c := by simp
  have hnext : (front ++ c :: back)[front.length + 1]? = back.head? := by
    rw [List.getElem?_append_right (Nat.le_add_right _ 1), Nat.add_sub_cancel_left,
      List.getElem?_cons_succ, List.head?_eq_getElem?]
  have hc : c.toNat < 128 := hs c (List.mem_append_right _ List.mem_cons_self)
  have hback : ∀ n ∈ back.head?, isLower n = n.isLower := fun n hn =>
    isLower_eq (hs n (List.mem_append_right _ (List.mem_cons_of_mem _ (List.mem_of_mem_head? hn))))
  rw [StartsWordAt, htake, hhere, hnext, isUpper_eq hc]
  cases hlast : front.getLast? with
  | none => simp [startsWord]
  | some p =>
    have hp : p.toNat < 128 :=
      hs p (List.mem_append_left _ (List.mem_of_getLast? hlast))
    rw [startsWord, isLower_eq hp, isUpper_eq hp]
    cases hhead : back.head? with
    | none => simp
    | some n =>
      rw [hhead] at hback
      simp [hback n rfl, or_assoc]

/-! ## Place by place -/

/-- What the character at a place of a text becomes. -/
def spacedChar (s : List Char) (p : Char × Nat) : List Char :=
  if StartsWordAt s p.2 then ['_', p.1.toLower] else [p.1.toLower]

/-- What the characters of a text become. -/
def spacedChars (s : List Char) : List (List Char) := s.zipIdx.map (spacedChar s)

theorem spacedChar_length (hs : ∀ d ∈ front ++ c :: back, d.toNat < 128) :
    spacedChar (front ++ c :: back) (c, front.length) =
      if isUpper c then
        if startsWord front.getLast? back.head? then '_' :: toLower c else toLower c
      else [c] := by
  have hlower := lowered_eq (hs c (List.mem_append_right _ List.mem_cons_self))
  simp only [spacedChar, startsWordAt_length hs]
  cases hupper : isUpper c with
  | true =>
    rw [hupper, if_pos rfl] at hlower
    simp [hlower]
  | false =>
    rw [hupper, if_neg Bool.false_ne_true] at hlower
    simp [← hlower]

theorem snakeFrom_eq_flatten (front back : List Char) (hs : ∀ d ∈ front ++ back, d.toNat < 128) :
    snakeFrom front.getLast? back =
      ((back.zipIdx front.length).map (spacedChar (front ++ back))).flatten := by
  induction back generalizing front with
  | nil => rfl
  | cons c back ih =>
    have hrest := ih (front ++ [c]) (by rwa [List.append_assoc])
    rw [List.getLast?_concat, List.length_append, List.append_assoc] at hrest
    rw [snakeFrom, List.zipIdx_cons, List.map_cons, List.flatten_cons, spacedChar_length hs, hrest]
    rfl

/-- **The snake-case form** of a text is what its characters become, one after the other. -/
theorem snakeCase_eq_flatten (hs : ∀ c ∈ s, c.toNat < 128) :
    snakeCase s = (spacedChars s).flatten :=
  snakeFrom_eq_flatten [] s hs

/-- A text without capital letters stays as it is. -/
theorem snakeFrom_of_small {before : Option Char} (h : ∀ c ∈ s, isUpper c = false) :
    snakeFrom before s = s := by
  induction s generalizing before with
  | nil => rfl
  | cons c s ih =>
    rw [List.forall_mem_cons] at h
    rw [snakeFrom, h.1, if_neg Bool.false_ne_true, ih h.2]
    rfl

theorem mem_spacedChars {cs : List Char} (h : cs ∈ spacedChars s) :
    ∃ c ∈ s, cs = ['_', c.toLower] ∨ cs = [c.toLower] := by
  obtain ⟨⟨c, i⟩, hmem, rfl⟩ := List.mem_map.mp h
  refine ⟨c, (List.mem_zipIdx' hmem).2 ▸ List.getElem_mem _, ?_⟩
  unfold spacedChar
  split
  · exact .inl rfl
  · exact .inr rfl

/-- But for underscores, nothing is written except the small letters. -/
theorem filter_flatten_spacedChars (s : List Char) :
    (spacedChars s).flatten.filter (· ≠ '_') = (s.map Char.toLower).filter (· ≠ '_') := by
  have hchar (p : Char × Nat) :
      (spacedChar s p).filter (· ≠ '_') = [p.1.toLower].filter (· ≠ '_') := by
    unfold spacedChar
    split
    · exact List.filter_cons_of_neg (by simp)
    · rfl
  have hfst : s.zipIdx.map (fun p => p.1.toLower) = s.map Char.toLower := by
    conv => rhs; rw [← List.zipIdx_map_fst 0 s, List.map_map]
    rfl
  calc (spacedChars s).flatten.filter (· ≠ '_')
    _ = s.zipIdx.flatMap fun p => (spacedChar s p).filter (· ≠ '_') := by
        rw [spacedChars, ← List.flatMap_def, List.filter_flatMap]
    _ = s.zipIdx.flatMap fun p => [p.1.toLower].filter (· ≠ '_') :=
        List.flatMap_congr fun p _ => hchar p
    _ = (s.map Char.toLower).filter (· ≠ '_') := by
        rw [← hfst, List.map_eq_flatMap, List.filter_flatMap]

theorem exists_spacedChar (s : List Char) (p : Char × Nat) :
    ∃ l, spacedChar s p = l ++ [p.1.toLower] := by
  unfold spacedChar
  split
  · exact ⟨['_'], rfl⟩
  · exact ⟨[], rfl⟩

theorem spacedChars_append (front back : List Char) :
    spacedChars (front ++ back) = front.zipIdx.map (spacedChar (front ++ back)) ++
      (back.zipIdx front.length).map (spacedChar (front ++ back)) := by
  rw [spacedChars, List.zipIdx_append, List.map_append, Nat.zero_add]

/-- Where a word starts, the text is parted by the two characters that say so. -/
theorem StartsWordAt.exists_split {i : Nat} (h : StartsWordAt s i) :
    ∃ front p c back, s = front ++ [p] ++ c :: back ∧ i = (front ++ [p]).length ∧
      p ≠ '_' ∧ c ≠ '_' := by
  obtain ⟨p, hp, c, hc, hupper, hbefore⟩ := h
  obtain ⟨hlt, rfl⟩ := List.getElem?_eq_some_iff.mp hc
  obtain ⟨front, hfront⟩ := List.getLast?_eq_some_iff.mp hp
  refine ⟨front, p, s[i], s.drop (i + 1), ?_, ?_, ?_, ?_⟩
  · rw [← hfront, List.cons_getElem_drop_succ, List.take_append_drop]
  · rw [← hfront, List.length_take_of_le (Nat.le_of_lt hlt)]
  · rintro rfl
    obtain h | h | ⟨h, -⟩ := hbefore
    all_goals exact absurd h (by decide)
  · intro heq
    rw [heq] at hupper
    cases hupper

theorem spacedChars_apart (hs : ∀ c ∈ s, c.toNat < 128) {i : Nat} (h : StartsWordAt s i) :
    ∃ l p c r, p ≠ '_' ∧ c ≠ '_' ∧ ((spacedChars s).take i).flatten = l ++ [p] ∧
      ((spacedChars s).drop i).flatten = '_' :: c :: r := by
  obtain ⟨front, p, c, back, rfl, rfl, hp, hc⟩ := h.exists_split
  have hp' : p.toLower ≠ '_' := toLower_ne_underscore (hs p (by simp)) hp
  have hc' : c.toLower ≠ '_' := toLower_ne_underscore (hs c (by simp)) hc
  have hstart : spacedChar (front ++ [p] ++ c :: back) (c, (front ++ [p]).length) =
      ['_', c.toLower] := if_pos h
  obtain ⟨l, hl⟩ := exists_spacedChar (front ++ [p] ++ c :: back) (p, front.length)
  rw [spacedChars_append, List.take_left' (by simp), List.drop_left' (by simp)]
  generalize spacedChar (front ++ [p] ++ c :: back) = f at hl hstart ⊢
  have hleft : ((front ++ [p]).zipIdx.map f).flatten =
      ((front.zipIdx.map f).flatten ++ l) ++ [p.toLower] := by
    rw [List.append_assoc _ l, ← hl, List.zipIdx_append, List.map_append, List.flatten_append,
      Nat.zero_add]
    exact congrArg (_ ++ ·) (List.append_nil _)
  have hright : (((c :: back).zipIdx (front ++ [p]).length).map f).flatten =
      '_' :: c.toLower :: ((back.zipIdx ((front ++ [p]).length + 1)).map f).flatten := by
    rw [List.zipIdx_cons, List.map_cons, List.flatten_cons, hstart]
    rfl
  exact ⟨_, _, _, _, hp', hc', hleft, hright⟩

/-- No word starts at an underscore. -/
theorem spacedChars_underscore {i : Nat} (h : s[i]? = some '_') :
    (spacedChars s)[i]? = some ['_'] := by
  have hnot : ¬StartsWordAt s i := by
    rintro ⟨p, -, c, hc, hupper, -⟩
    obtain rfl := Option.some.inj (h.symm.trans hc)
    cases hupper
  rw [spacedChars, List.getElem?_map, List.getElem?_zipIdx, h, Option.map_some, Option.map_some,
    spacedChar, Nat.zero_add, if_neg hnot]
  rfl

/-! ## Names of units -/

/-- How a text of ASCII is written in small letters, its words apart. -/
structure SpacesOut (s out : List Char) : Prop where
  /-- No letter of it is capital. -/
  small : ∀ c ∈ out, isUpper c = false
  /-- But for underscores, it is the text in small letters. -/
  letters : out.filter (· ≠ '_') = (s.map Char.toLower).filter (· ≠ '_')
  /-- Every character is written in its place, after an underscore exactly where a word starts. -/
  placed : out = (spacedChars s).flatten
  /-- Such an underscore stands between two characters that are none. -/
  apart : ∀ i, StartsWordAt s i → ∃ l p c r, p ≠ '_' ∧ c ≠ '_' ∧
    ((spacedChars s).take i).flatten = l ++ [p] ∧ ((spacedChars s).drop i).flatten = '_' :: c :: r
  /-- The underscores of the text are kept as they are. -/
  kept : ∀ i : Nat, s[i]? = some '_' → (spacedChars s)[i]? = some ['_']
  /-- There is nothing left to write in small letters. -/
  settled : snakeCase out = out

/-- **Snake case spaces words out**, and does nothing else.  The names of units, which are written
with it, all end in the words of a client. -/
theorem snakeCase_spacesOut (hs : ∀ c ∈ s, c.toNat < 128) : SpacesOut s (snakeCase s) ∧
    ∀ (modules : List Token.Ident) (name : Token.Ident),
      "generated_client".toList <:+ (Service.unitStem modules name).toList := by
  have hsmall : ∀ c ∈ snakeCase s, isUpper c = false := by
    intro c hc
    rw [snakeCase_eq_flatten hs] at hc
    obtain ⟨cs, hcs, hc⟩ := List.mem_flatten.mp hc
    obtain ⟨d, hd, rfl | rfl⟩ := mem_spacedChars hcs
    · obtain rfl | hc := List.mem_cons.mp hc
      · decide
      · rw [List.mem_singleton.mp hc]
        exact isUpper_toLower (hs d hd)
    · rw [List.mem_singleton.mp hc]
      exact isUpper_toLower (hs d hd)
  refine ⟨⟨hsmall, ?_, snakeCase_eq_flatten hs, fun i => spacedChars_apart hs,
    fun i => spacedChars_underscore, snakeFrom_of_small hsmall⟩, Emit.stemEnd_suffix⟩
  rw [snakeCase_eq_flatten hs]
  exact filter_flatten_spacedChars s

/-- An acronym is one word. -/
theorem acronym_spacesOut : (∀ c ∈ "HTTPClient".toList, c.toNat < 128) ∧
    SpacesOut "HTTPClient".toList "http_client".toList ∧
    ∀ (modules : List Token.Ident) (name : Token.Ident),
      "generated_client".toList <:+ (Service.unitStem modules name).toList := by
  have hall : "HTTPClient".toList.all (fun c => decide (c.toNat < 128)) = true := by decide
  have hs : ∀ c ∈ "HTTPClient".toList, c.toNat < 128 := fun c hc =>
    of_decide_eq_true (List.all_eq_true.mp hall c hc)
  have hout : snakeCase "HTTPClient".toList = "http_client".toList := by decide
  exact ⟨hs, hout ▸ snakeCase_spacesOut hs⟩

end RestLoom.Naming
