import Mathlib.Data.List.Pairwise
import RestLoom.Source.Decl

/-!
# Proofs/Source/Standing — the items of a file, where they stand

    use · mod a { trait · mod b { use } } · trait  ──standings──▸  0 · 1 · 1,0 · 1,1 · 1,1,0 · 2

An item stands among its neighbours, and inside the modules that are written out around it.
`standings` lists all items with their surroundings and nothing else (`mem_standings_iff`), each of
them once and in the order of the text, which is the order of their places
(`pairwise_place_standings`).
-/

namespace RestLoom.Source

open RestLoom.Token (Ident)

/-- A module around an item: the items before it among its neighbours, its name, and its items. -/
structure Around where
  before : List Item
  name : Ident
  content : List Item

/-- An item with its surroundings: the modules around it, outermost first, and the items before it
among its neighbours. -/
structure Standing where
  around : List Around
  before : List Item
  item : Item

/-- **Whether an item stands in items** with these surroundings. -/
inductive Stands : List Item → Standing → Prop
  | here (before : List Item) (i : Item) (after : List Item) :
    Stands (before ++ i :: after) ⟨[], before, i⟩
  | inside {around : List Around} {inner : List Item} {i : Item} (before : List Item)
    (attributes : List Attribute) (v : Visibility) (isUnsafe : Bool) (name : Ident)
    (content after : List Item) (h : Stands content ⟨around, inner, i⟩) :
    Stands (before ++ .module attributes v isUnsafe name content :: after)
      ⟨⟨before, name, content⟩ :: around, inner, i⟩

namespace Standing

/-- The names of the modules around an item, outermost first. -/
def modules (v : Standing) : List Ident := v.around.map (·.name)

/-- The place of an item: how many items stand before each module around it, and before itself. -/
def place (v : Standing) : List Nat := v.around.map (·.before.length) ++ [v.before.length]

/-- The same item after one more item has been put before all. -/
def behind (i : Item) : Standing → Standing
  | ⟨[], before, item⟩ => ⟨[], i :: before, item⟩
  | ⟨a :: around, before, item⟩ => ⟨{ a with before := i :: a.before } :: around, before, item⟩

/-- The same item when the items are those of a module, before which nothing stands. -/
def within (name : Ident) (content : List Item) (v : Standing) : Standing :=
  ⟨⟨[], name, content⟩ :: v.around, v.before, v.item⟩

variable {v w : Standing}

@[simp] theorem item_behind (i : Item) (v : Standing) : (v.behind i).item = v.item := by
  obtain ⟨_ | ⟨a, around⟩, before, item⟩ := v <;> rfl

@[simp] theorem modules_behind (i : Item) (v : Standing) : (v.behind i).modules = v.modules := by
  obtain ⟨_ | ⟨a, around⟩, before, item⟩ := v <;> rfl

theorem place_ne_nil (v : Standing) : v.place ≠ [] := List.append_ne_nil_of_right_ne_nil _ nofun

theorem place_within (name : Ident) (content : List Item) (v : Standing) :
    (v.within name content).place = 0 :: v.place := rfl

/-- One more item before all moves the outermost place on. -/
theorem exists_place_behind (v : Standing) :
    ∃ n p, v.place = n :: p ∧ ∀ i, (v.behind i).place = (n + 1) :: p := by
  obtain ⟨_ | ⟨a, around⟩, before, item⟩ := v
  · exact ⟨_, _, rfl, fun _ => rfl⟩
  · exact ⟨_, _, rfl, fun _ => rfl⟩

theorem place_behind_lt (h : v.place < w.place) (i : Item) :
    (v.behind i).place < (w.behind i).place := by
  obtain ⟨n, p, hv, hbehind⟩ := v.exists_place_behind
  obtain ⟨m, q, hw, hbehind'⟩ := w.exists_place_behind
  rw [hv, hw, List.cons_lt_cons_iff] at h
  rw [hbehind, hbehind', List.cons_lt_cons_iff]
  exact h.imp Nat.succ_lt_succ fun h => ⟨congrArg Nat.succ h.1, h.2⟩

end Standing

/-! ## All items -/

mutual

/-- The items inside an item, with their surroundings when nothing stands before it. -/
def standingsIn : Item → List Standing
  | .module _ _ _ name content => (standings content).map (Standing.within name content)
  | .trait _ => []
  | .use _ => []
  | .other _ => []

/-- **The items at any depth** with their surroundings, in the order of the text. -/
def standings : List Item → List Standing
  | [] => []
  | i :: is => ⟨[], [], i⟩ :: (standingsIn i ++ (standings is).map (Standing.behind i))

end

theorem Stands.behind {is : List Item} {v : Standing} (h : Stands is v) (i : Item) :
    Stands (i :: is) (v.behind i) := by
  cases h with
  | here before j after => exact .here (i :: before) j after
  | inside before attributes v isUnsafe name content after h =>
    exact .inside (i :: before) attributes v isUnsafe name content after h

mutual

theorem stands_of_mem_standingsIn {i : Item} {v : Standing} (h : v ∈ standingsIn i)
    (is : List Item) : Stands (i :: is) v := by
  match i with
  | .module attributes visibility isUnsafe name content =>
    rw [standingsIn, List.mem_map] at h
    obtain ⟨w, hw, rfl⟩ := h
    exact .inside [] attributes visibility isUnsafe name content is (stands_of_mem_standings hw)
  | .trait _ | .use _ | .other _ =>
    rw [standingsIn] at h
    cases h

theorem stands_of_mem_standings {is : List Item} {v : Standing} (h : v ∈ standings is) :
    Stands is v := by
  match is with
  | [] =>
    rw [standings] at h
    cases h
  | i :: is =>
    rw [standings, List.mem_cons, List.mem_append, List.mem_map] at h
    obtain rfl | h | ⟨w, hw, rfl⟩ := h
    · exact .here [] i is
    · exact stands_of_mem_standingsIn h is
    · exact (stands_of_mem_standings hw).behind i

end

variable {i : Item} {is : List Item} {v : Standing}

theorem behind_mem_standings (h : v ∈ standings is) (i : Item) :
    v.behind i ∈ standings (i :: is) := by
  rw [standings]
  exact List.mem_cons_of_mem _ (List.mem_append_right _ (List.mem_map_of_mem h))

/-- **What is listed** are the items that stand in the items. -/
theorem mem_standings_iff : v ∈ standings is ↔ Stands is v := by
  refine ⟨stands_of_mem_standings, fun h => ?_⟩
  induction h with
  | here before i after =>
    induction before with
    | nil =>
      rw [List.nil_append, standings]
      exact List.mem_cons_self
    | cons j before ih => exact behind_mem_standings ih j
  | inside before attributes visibility isUnsafe name content after _ ih =>
    induction before with
    | nil =>
      rw [List.nil_append, standings, standingsIn]
      exact List.mem_cons_of_mem _ (List.mem_append_left _ (List.mem_map_of_mem ih))
    | cons j before ih' => exact behind_mem_standings ih' j

/-! ## Their order -/

/-- Inside an item all places begin where it stands. -/
theorem exists_place_of_mem_standingsIn (h : v ∈ standingsIn i) :
    ∃ p, v.place = 0 :: p ∧ p ≠ [] := by
  cases i with
  | module attributes visibility isUnsafe name content =>
    rw [standingsIn, List.mem_map] at h
    obtain ⟨w, -, rfl⟩ := h
    exact ⟨w.place, w.place_within name content, w.place_ne_nil⟩
  | trait | use | other =>
    rw [standingsIn] at h
    cases h

mutual

theorem pairwise_place_standingsIn (i : Item) :
    (standingsIn i).Pairwise fun v w => v.place < w.place := by
  match i with
  | .module _ _ _ name content =>
    rw [standingsIn, List.pairwise_map]
    refine (pairwise_place_standings content).imp fun h => ?_
    rw [Standing.place_within, Standing.place_within, List.cons_lt_cons_iff]
    exact .inr ⟨rfl, h⟩
  | .trait _ | .use _ | .other _ =>
    rw [standingsIn]
    exact List.Pairwise.nil

/-- **Each item is listed once**, in the order of the places. -/
theorem pairwise_place_standings (is : List Item) :
    (standings is).Pairwise fun v w => v.place < w.place := by
  match is with
  | [] =>
    rw [standings]
    exact List.Pairwise.nil
  | i :: is =>
    rw [standings, List.pairwise_cons, List.pairwise_append, List.pairwise_map]
    refine ⟨fun v hv => ?_, pairwise_place_standingsIn i,
      (pairwise_place_standings is).imp fun h => Standing.place_behind_lt h i, fun v hv w hw => ?_⟩
    · change [0] < v.place
      obtain hv | hv := List.mem_append.mp hv
      · obtain ⟨p, hp, hne⟩ := exists_place_of_mem_standingsIn hv
        obtain ⟨n, p, rfl⟩ := List.exists_cons_of_ne_nil hne
        rw [hp, List.cons_lt_cons_iff]
        exact .inr ⟨rfl, List.nil_lt_cons n p⟩
      · obtain ⟨w, -, rfl⟩ := List.mem_map.mp hv
        obtain ⟨n, p, -, hp⟩ := w.exists_place_behind
        rw [hp, List.cons_lt_cons_iff]
        exact .inl (Nat.succ_pos n)
    · obtain ⟨p, hp, -⟩ := exists_place_of_mem_standingsIn hv
      obtain ⟨w, -, rfl⟩ := List.mem_map.mp hw
      obtain ⟨n, q, -, hq⟩ := w.exists_place_behind
      rw [hp, hq, List.cons_lt_cons_iff]
      exact .inl (Nat.succ_pos n)

end

end RestLoom.Source
