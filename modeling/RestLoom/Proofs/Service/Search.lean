import RestLoom.Proofs.Service.Find
import RestLoom.Proofs.Source.Standing

/-!
# Proofs/Service/Search — a search visits the items where they stand

    standings  0 · 1 · 1,0 · 1,1 · 2  ──foundAt?──▸  the marked traits, under the modules around them

The walk through a file visits the items at any depth in the order of their places, with one look at
the signal before each.  What it has found at its end are the marked traits among them, so the whole
search is told by the list of items and the first look that sees the signal up
(`findServices_eq`).
-/

namespace RestLoom

namespace Signal

theorem not_isDown_iff {s : Signal} {n : Nat} :
    ¬s.IsDown 0 n ↔ ∃ look < n, s.isUp look = true := by
  simp only [IsDown, Nat.zero_le, true_implies, not_forall, Bool.not_eq_false, exists_prop]

end Signal

namespace Service

open RestLoom.Token (Ident)
open RestLoom.Source

/-- What is found at an item in modules: its service, if it is a marked trait. -/
def foundItem? (modules : List Ident) : Item → Option Found
  | .trait t => found? modules t
  | .module _ _ _ _ _ => none
  | .use _ => none
  | .other _ => none

/-- **What is found where an item stands**: its service under the names of the modules around it, if
it is a marked trait. -/
def foundAt? (v : Standing) : Option Found := foundItem? v.modules v.item

mutual

theorem marked_eq (modules : List Ident) (i : Item) : marked modules i =
    (foundItem? modules i).toList ++
      (standingsIn i).filterMap fun v => foundItem? (modules ++ v.modules) v.item := by
  match i with
  | .trait t =>
    rw [marked, standingsIn, List.filterMap_nil, List.append_nil]
    rfl
  | .module _ _ _ name content =>
    rw [marked, standingsIn, List.filterMap_map, markedAll_eq (modules ++ [name]) content]
    refine List.filterMap_congr fun v _ => ?_
    rw [List.append_assoc]
    rfl
  | .use _ | .other _ =>
    rw [marked, standingsIn]
    rfl

/-- **The marked traits** are what is found at the items in the order of their places. -/
theorem markedAll_eq (modules : List Ident) (is : List Item) : markedAll modules is =
    (standings is).filterMap fun v => foundItem? (modules ++ v.modules) v.item := by
  match is with
  | [] =>
    rw [markedAll, standings]
    rfl
  | i :: is =>
    have hrest : ((standings is).map (Standing.behind i)).filterMap
        (fun v => foundItem? (modules ++ v.modules) v.item) = markedAll modules is := by
      rw [List.filterMap_map, markedAll_eq modules is]
      refine List.filterMap_congr fun v _ => ?_
      rw [Function.comp_apply, Standing.modules_behind, Standing.item_behind]
    have hhere : foundItem? (modules ++ (⟨[], [], i⟩ : Standing).modules) i =
        foundItem? modules i := congrArg (foundItem? · i) (List.append_nil modules)
    rw [markedAll, standings, marked_eq modules i, List.filterMap_cons, List.filterMap_append, hrest,
      hhere, List.append_assoc]
    cases foundItem? modules i <;> rfl

end

theorem markedAll_nil_eq (is : List Item) : markedAll [] is = (standings is).filterMap foundAt? :=
  markedAll_eq [] is

mutual

theorem countIn_eq (i : Item) : countIn i = (standingsIn i).length := by
  match i with
  | .module _ _ _ name content =>
    rw [countIn, standingsIn, List.length_map, countAll_eq content]
  | .trait _ | .use _ | .other _ =>
    rw [countIn, standingsIn]
    rfl

/-- Each item takes one look. -/
theorem countAll_eq (is : List Item) : countAll is = (standings is).length := by
  match is with
  | [] =>
    rw [countAll, standings]
    rfl
  | i :: is =>
    rw [countAll, standings, countIn_eq i, countAll_eq is, List.length_cons, List.length_append,
      List.length_map]
    omega

end

/-- **A search** finds what is found at the items of the file, or nothing at all if a look before
one of them sees the signal up. -/
theorem findServices_eq (s : Signal) (f : File) : findServices s f =
    if ∃ look < (standings f.items).length, s.isUp look = true then none
    else some ((standings f.items).filterMap foundAt?, (standings f.items).length) := by
  rw [← markedAll_nil_eq, ← countAll_eq]
  split
  next hup =>
    refine Option.eq_none_iff_forall_ne_some.mpr fun r hr => ?_
    exact Signal.not_isDown_iff.mpr hup (findServices_eq_some_iff.mp hr).1
  next hdown =>
    exact findServices_eq_some_iff.mpr ⟨not_not.mp (mt Signal.not_isDown_iff.mp hdown), rfl⟩

/-- A trait that stands in items is found there if it is marked. -/
theorem mem_markedAll_of_stands {is : List Item} {v : Standing} {f : Found} (hv : Stands is v)
    (hf : foundAt? v = some f) : f ∈ markedAll [] is := by
  rw [markedAll_nil_eq]
  exact List.mem_filterMap.mpr ⟨v, mem_standings_iff.mpr hv, hf⟩

theorem exists_stands_of_mem_markedAll {is : List Item} {f : Found} (h : f ∈ markedAll [] is) :
    ∃ v, Stands is v ∧ foundAt? v = some f := by
  rw [markedAll_nil_eq] at h
  obtain ⟨v, hv, hf⟩ := List.mem_filterMap.mp h
  exact ⟨v, mem_standings_iff.mp hv, hf⟩

theorem modules_of_foundAt? {v : Standing} {f : Found} (h : foundAt? v = some f) :
    f.modules = v.modules := by
  unfold foundAt? foundItem? at h
  split at h
  · exact (found?_eq_some h).1
  all_goals cases h

end Service

end RestLoom
