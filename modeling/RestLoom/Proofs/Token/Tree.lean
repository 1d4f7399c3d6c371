import RestLoom.Token.Code

/-!
# Proofs/Token/Tree — token trees from their atoms

    f (1)  ──atoms──▸  [f, opens paren, 1, closes paren]  ──build──▸  f (1)

The reader of token trees puts delimiters together on a stack of open groups.  Apart from it, what
it reads is a plain sequence of atoms, and the trees and their atoms determine each other
(`build_eq_some_iff`).
-/

namespace RestLoom.Token

/-- A token that is no group, or a delimiter. -/
inductive Atom where
  | ident (name : Ident)
  | punct (c : Char) (spacing : Spacing)
  | literal (text : String)
  | opens (d : Delimiter)
  | closes (d : Delimiter)
  deriving DecidableEq

mutual

/-- The atoms of a token tree. -/
def atoms : Token → List Atom
  | ident name => [.ident name]
  | punct c spacing => [.punct c spacing]
  | literal text => [.literal text]
  | group d inner => .opens d :: (atomsAll inner ++ [.closes d])

/-- The atoms of a sequence. -/
def atomsAll : List Token → List Atom
  | [] => []
  | t :: ts => atoms t ++ atomsAll ts

end

theorem atomsAll_append (ts us : List Token) : atomsAll (ts ++ us) = atomsAll ts ++ atomsAll us := by
  induction ts with
  | nil => rfl
  | cons t ts ih => rw [List.cons_append, atomsAll, atomsAll, ih, List.append_assoc]

/-- The trees of atoms that follow `done`, which is in reverse, inside the open groups. -/
def build : List Frame → List Token → List Atom → Option (List Token)
  | frames, done, [] => if frames = [] then some done.reverse else none
  | frames, done, .ident name :: as => build frames (.ident name :: done) as
  | frames, done, .punct c spacing :: as => build frames (.punct c spacing :: done) as
  | frames, done, .literal text :: as => build frames (.literal text :: done) as
  | frames, done, .opens d :: as => build ((d, done) :: frames) [] as
  | [], _, .closes _ :: _ => none
  | (d', before) :: frames, done, .closes d :: as =>
    if d = d' then build frames (.group d done.reverse :: before) as else none

variable {frames : List Frame} {done ts us : List Token} {as : List Atom}

mutual

theorem build_atoms (t : Token) (frames : List Frame) (done : List Token) (as : List Atom) :
    build frames done (atoms t ++ as) = build frames (t :: done) as := by
  match t with
  | ident name => rfl
  | punct c spacing => rfl
  | literal text => rfl
  | group d inner =>
    rw [atoms, List.cons_append, build, List.append_assoc, build_atomsAll inner,
      List.singleton_append, build, if_pos rfl, List.append_nil, List.reverse_reverse]

/-- **Atoms of trees** are put together to the trees. -/
theorem build_atomsAll (ts : List Token) (frames : List Frame) (done : List Token)
    (as : List Atom) :
    build frames done (atomsAll ts ++ as) = build frames (ts.reverse ++ done) as := by
  match ts with
  | [] => rfl
  | t :: ts =>
    rw [atomsAll, List.append_assoc, build_atoms t, build_atomsAll ts, List.reverse_cons,
      List.append_assoc, List.singleton_append]

end

/-- The atoms that have been read when groups are open. -/
def written : List Frame → List Token → List Atom
  | [], done => atomsAll done.reverse
  | (d, before) :: frames, done => written frames before ++ .opens d :: atomsAll done.reverse

theorem written_cons (frames : List Frame) (t : Token) (done : List Token) :
    written frames (t :: done) = written frames done ++ atoms t := by
  cases frames with
  | nil =>
    rw [written, written, List.reverse_cons, atomsAll_append, atomsAll, atomsAll, List.append_nil]
  | cons frame frames =>
    rw [written, written, List.reverse_cons, atomsAll_append, atomsAll, atomsAll, List.append_nil,
      List.append_assoc, List.cons_append]

theorem atomsAll_of_build (h : build frames done as = some ts) :
    atomsAll ts = written frames done ++ as := by
  fun_induction build frames done as with
  | case1 done =>
    rw [← Option.some.inj h, written, List.append_nil]
  | case2 frames done hne => cases h
  | case3 frames done name as ih | case4 frames done c spacing as ih
  | case5 frames done text as ih =>
    rw [ih h, written_cons, List.append_assoc]
    rfl
  | case6 frames done d as ih =>
    rw [ih h, written, List.append_assoc]
    rfl
  | case7 => cases h
  | case8 before frames done d as ih =>
    rw [ih h, written_cons, written, atoms, List.append_assoc, List.append_assoc, List.cons_append,
      List.cons_append, List.append_assoc, List.singleton_append]
  | case9 => cases h

/-- **Trees and their atoms** determine each other. -/
theorem build_eq_some_iff : build [] [] as = some ts ↔ as = atomsAll ts := by
  constructor
  · intro h
    rw [atomsAll_of_build h]
    rfl
  · rintro rfl
    have h := build_atomsAll ts [] [] []
    rw [List.append_nil] at h
    rw [h, build, if_pos rfl, List.append_nil, List.reverse_reverse]

theorem atomsAll_inj (h : atomsAll ts = atomsAll us) : ts = us :=
  Option.some.inj ((build_eq_some_iff.mpr rfl).symm.trans (build_eq_some_iff.mpr h))

instance : DecidableEq (List Token) := fun ts us =>
  decidable_of_iff (atomsAll ts = atomsAll us) ⟨atomsAll_inj, congrArg atomsAll⟩

theorem code_sharp : code "#" = [.punct '#' .alone] := by decide +kernel

end RestLoom.Token
