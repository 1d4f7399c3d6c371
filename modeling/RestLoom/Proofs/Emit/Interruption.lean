import RestLoom.Proofs.Emit.Report
import RestLoom.Proofs.Service.Search

/-!
# Proofs/Emit/Interruption — all or nothing under a signal

    look 0 · look 1 · … │ signal up ──▸ cancelled        signal down ──▸ what there is without a signal

Whoever searches a file or generates from it may be stopped by a signal at any look.  Then there is
no result: what is found or reported is never a part of what it would be without the signal
(`interruption_exact`).
-/

namespace RestLoom.Emit

open RestLoom.Source
open RestLoom.Service (Found foundAt?)

/-- The options with a signal that is never raised. -/
def Options.undisturbed (o : Options) : Options := { o with signal := .never }

/-- **Adding services** comes to what it does without a signal, or it is cancelled since a look sees
the signal up. -/
theorem addServices_undisturbed (items : List Item) (o : Options) (looks looks' : Nat) (p : Progress)
    (fs : List Found) :
    addServices items o looks p fs = addServices items o.undisturbed looks' p fs ∨
      ¬o.signal.IsDown looks (looks + fs.length) ∧
        addServices items o looks p fs = .error (.error .cancelled) := by
  induction fs generalizing looks looks' p with
  | nil => exact .inl rfl
  | cons f fs ih =>
    rw [addServices, addServices, List.length_cons, Nat.add_comm fs.length, ← Nat.add_assoc,
      Signal.isDown_append (Nat.le_add_right looks 1) (Nat.le_add_right _ _),
      Signal.isDown_singleton]
    cases hup : o.signal.isUp looks with
    | true => exact .inr ⟨fun h => Bool.noConfusion h.1, rfl⟩
    | false =>
      rw [show o.undisturbed.signal.isUp looks' = false from Signal.never_isUp looks',
        if_neg Bool.false_ne_true, if_neg Bool.false_ne_true]
      -- a step does not look at the signal
      change (addService items o p f >>= fun q => addServices items o (looks + 1) q fs) =
          (addService items o p f >>= fun q =>
            addServices items o.undisturbed (looks' + 1) q fs) ∨ _
      cases addService items o p f with
      | error h => exact .inl rfl
      | ok q => exact (ih (looks + 1) (looks' + 1) q).imp_right fun h => ⟨fun hd => h.1 hd.2, h.2⟩

/-- **Generation from a file** comes to what it does without a signal, or it is cancelled since a
look sees the signal up. -/
theorem generateFile_undisturbed (o : Options) (file : File) :
    generateFile o file = generateFile o.undisturbed file ∨
      ¬o.signal.IsDown 0 (looksOf file) ∧ generateFile o file = .error (.error .cancelled) := by
  rw [generateFile_eq, generateFile_eq, looksOf,
    Signal.isDown_append (Nat.zero_le _) (Nat.le_add_right (Service.countAll file.items) _)]
  by_cases hdown : o.signal.IsDown 0 (Service.countAll file.items)
  · rw [Service.findServices_eq_some_iff.mpr ⟨hdown, rfl⟩,
      Service.findServices_eq_some_iff (s := o.undisturbed.signal).mpr
        ⟨Signal.never_isDown _ _, rfl⟩]
    dsimp only
    obtain h | ⟨hup, h⟩ := addServices_undisturbed file.items o
      (Service.countAll file.items) (Service.countAll file.items) (progressOf [])
      (Service.markedAll [] file.items)
    · exact .inl (by rw [h])
    · exact .inr ⟨fun hd => hup hd.2, by rw [h]; rfl⟩
  · cases hfind : Service.findServices o.signal file with
    | none => exact .inr ⟨fun hd => hdown hd.1, rfl⟩
    | some r => exact absurd (Service.findServices_eq_some_iff.mp hfind).1 hdown

/-- **A signal stops everything or nothing.**  The items of a file are visited in the order of their
places, each of them once, with a look before each.  If no such look sees the signal up the search
finds the marked traits among them, under the names of the modules around them and with what each
comes to by itself; otherwise there is no result.  Generation is cancelled as well then, and in any
case it is cancelled or comes to what it does without a signal, which it does if no look at all sees
the signal up. -/
theorem interruption_exact (o : Options) (file : File) :
    (∀ v, v ∈ standings file.items ↔ Stands file.items v) ∧
    (standings file.items).Pairwise (fun v w => v.place < w.place) ∧
    Service.findServices o.signal file =
      (if ∃ look < (standings file.items).length, o.signal.isUp look = true then none
        else some ((standings file.items).filterMap foundAt?, (standings file.items).length)) ∧
    ∀ text, File.ofText text = .ok file →
      ((∃ look < (standings file.items).length, o.signal.isUp look = true) →
        generate o text = .error (.error .cancelled)) ∧
      (generate o text = .error (.error .cancelled) ∨
        generate o text = generate o.undisturbed text) ∧
      ((∀ look < (standings file.items).length +
          ((standings file.items).filterMap foundAt?).length, o.signal.isUp look = false) →
        generate o text = generate o.undisturbed text) := by
  refine ⟨fun v => mem_standings_iff, pairwise_place_standings _, Service.findServices_eq _ _,
    fun text htext => ?_⟩
  have hgenerate (o : Options) : generate o text = generateFile o file := by
    unfold generate
    rw [htext]
  rw [hgenerate, hgenerate]
  refine ⟨fun hup => ?_, (generateFile_undisturbed o file).symm.imp_left And.right, fun hdown => ?_⟩
  · rw [generateFile_eq, Service.findServices_eq, if_pos hup]
  · refine (generateFile_undisturbed o file).resolve_right fun h => h.1 fun look _ hlook => ?_
    rw [looksOf, Service.countAll_eq, Service.markedAll_nil_eq] at hlook
    exact hdown look hlook

/-- A text with a marked trait, and a module with another one. -/
def nestedSource : String :=
  "#[rest_client]\ntrait A \x7b\x7d\nmod m \x7b\n    #[rest_client]\n    trait B \x7b\x7d\n\x7d\n"

/-- Whether a file is a marked trait and a module of another one. -/
def isNestedFile (file : File) : Bool :=
  match file.items with
  | [.trait t, .module _ _ _ _ [.trait t']] =>
    (Service.extractMarked t).isSome && (Service.extractMarked t').isSome
  | _ => false

theorem nestedSource_computed : (match File.ofText nestedSource with
    | .ok file => isNestedFile file
    | .error _ => false) = true := by
  decide +kernel

/-- **Five looks decide over the nested file**: up at the third one, the signal leaves nothing of
the search, up after that only nothing of the generation, and after all five it comes too late. -/
theorem exists_nestedFile_interrupted : ∃ file f f', File.ofText nestedSource = .ok file ∧
    f.modules.length = 0 ∧ f'.modules.length = 1 ∧
    Service.findServices (.raisedBefore 2) file = none ∧
    Service.findServices (.raisedBefore 3) file = some ([f, f'], 3) ∧
    ∀ o : Options, (o.signal = .raisedBefore 2 → generate o nestedSource = .error (.error .cancelled)) ∧
      (o.signal = .raisedBefore 5 → generate o nestedSource = generate o.undisturbed nestedSource) := by
  have hcomputed := nestedSource_computed
  split at hcomputed
  next file hfile =>
    rw [isNestedFile] at hcomputed
    split at hcomputed
    next t attributes v isUnsafe name t' hitems =>
      rw [Bool.and_eq_true] at hcomputed
      obtain ⟨r, hr⟩ := Option.isSome_iff_exists.mp hcomputed.1
      obtain ⟨r', hr'⟩ := Option.isSome_iff_exists.mp hcomputed.2
      have hlength : (standings file.items).length = 3 := by
        rw [hitems]
        simp [standings, standingsIn]
      have hfound : (standings file.items).filterMap foundAt? = [⟨[], t, r⟩, ⟨[name], t', r'⟩] := by
        rw [hitems]
        simp [standings, standingsIn, List.filterMap_cons, foundAt?, Service.foundItem?, Service.found?,
          Standing.modules, Standing.within, Standing.behind, hr, hr']
      have hexact (o : Options) := (interruption_exact o file).2.2
      simp only [hlength, hfound, List.length_cons, List.length_nil] at hexact
      refine ⟨file, ⟨[], t, r⟩, ⟨[name], t', r'⟩, hfile, rfl, rfl,
        (hexact ⟨[], .raisedBefore 2⟩).1.trans (if_pos (by decide)),
        (hexact ⟨[], .raisedBefore 3⟩).1.trans (if_neg (by decide)),
        fun o => ⟨fun hs => ?_, fun hs => ?_⟩⟩
      · exact ((hexact o).2 nestedSource hfile).1 (by rw [hs]; decide)
      · exact ((hexact o).2 nestedSource hfile).2.2 (by rw [hs]; decide)
    next => cases hcomputed
  next => cases hcomputed

end RestLoom.Emit
