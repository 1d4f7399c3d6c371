import RestLoom.Proofs.Client.Registry
import Mathlib.Logic.Function.Basic

/-!
# Proofs/Client/Sharing — one registry, many callers

    idle ─call─▸ toWrite ─▸ writing ──────────────────▸ done ─answer─▸ idle
              ╰▸ toRead  ─▸ reading ─▸ making (no lock) ─╯

Callers share a registry under a lock that one of them holds for writing or several for reading.
Each goes through the stages of its call, and the steps of all of them interleave in any order.
Resolving holds the lock only while it looks for the factory, and makes the client afterwards.

Whatever the order, the first registration of a service to get the lock wins and stays
(`registration_firstWins`).
-/

namespace RestLoom.Client.Sharing

/-! ## Calls and their stages -/

/-- What a caller asks of a registry. -/
inductive Call where
  | register (c : Contract) (make : Transport → Transport)
  | resolve (c : Contract) (address : String)
  | resolveWith (c : Contract) (address : String) (config : Config)
  | resolveDefault (c : Contract)
  | contains (i : Identity)
  | size
  | isEmpty

/-- What a caller is told. -/
inductive Answer where
  | registered (o : Except RegistryError Unit)
  | resolved (o : Except ResolveError ServiceClient)
  | truth (b : Bool)
  | number (n : Nat)

/-- What a caller looks for in a registry. -/
inductive Query where
  | factory (c : Contract) (base : Url) (config : Config)
  | contains (i : Identity)
  | size
  | isEmpty

/-- How far a caller is. -/
inductive Stage where
  | idle
  | toWrite (e : Registration)
  /-- It holds the lock for writing. -/
  | writing (e : Registration)
  | toRead (q : Query)
  /-- It holds the lock for reading. -/
  | reading (q : Query)
  /-- It has the factory and no lock. -/
  | making (c : Contract) (base : Url) (config : Config) (f : Factory)
  | done (a : Answer)

namespace Stage

/-- Whether a caller holds the lock. -/
def HoldsLock : Stage → Prop
  | writing _ => True
  | reading _ => True
  | _ => False

theorem holdsLock_of_writing {g : Stage} {e : Registration} (h : g = writing e) : g.HoldsLock :=
  h ▸ trivial

/-- Whether a caller has neither the lock nor a factory. -/
def IsOutside : Stage → Prop
  | writing _ => False
  | reading _ => False
  | making .. => False
  | _ => True

/-- How resolving begins: the shape and the address are checked without the lock. -/
def ofResolve (c : Contract) (address : String) (config : Config) : Stage :=
  match c.key.shape.validate c.key.name with
  | .error e => done (.resolved (.error (.registry e)))
  | .ok () =>
    match normalizeBaseAddress address with
    | .error e => done (.resolved (.error (.registry e)))
    | .ok base => toRead (.factory c base config)

/-- How a call begins on a registry with a configuration of its own. -/
def ofCall (own : Config) : Call → Stage
  | .register c make => toWrite ⟨c.key, fun t => c.client (make t)⟩
  | .resolve c address => ofResolve c address own
  | .resolveWith c address config => ofResolve c address config
  | .resolveDefault c =>
    match c.defaultBaseUrl with
    | some address => ofResolve c address own
    | none =>
      done (.resolved (.error (.registry
        (.invalidBaseAddress "" (c.key.name ++ " declares no base_url")))))
  | .contains i => toRead (.contains i)
  | .size => toRead .size
  | .isEmpty => toRead .isEmpty

theorem isOutside_ofResolve (c : Contract) (address : String) (config : Config) :
    (ofResolve c address config).IsOutside := by
  rw [ofResolve]
  cases c.key.shape.validate c.key.name with
  | error e => trivial
  | ok _ => cases normalizeBaseAddress address <;> trivial

theorem isOutside_ofCall (own : Config) (c : Call) : (ofCall own c).IsOutside := by
  cases c with
  | resolve c address => exact isOutside_ofResolve c address own
  | resolveWith c address config => exact isOutside_ofResolve c address config
  | resolveDefault c =>
    rw [ofCall]
    cases c.defaultBaseUrl with
    | none => trivial
    | some address => exact isOutside_ofResolve c address own
  | _ => trivial

/-- What follows from a look at the registry. -/
def ofQuery (r : Registry) : Query → Stage
  | .factory c base config =>
    match r.get? c.key.identity with
    | none => done (.resolved (.error (.registry (.unregisteredService c.key.name))))
    | some e => making c base config e.factory
  | .contains i => done (.truth (r.contains i))
  | .size => done (.number r.size)
  | .isEmpty => done (.truth r.isEmpty)

end Stage

/-- The client that a factory makes, if it is one of the service. -/
def makeClient (c : Contract) (base : Url) (config : Config) (f : Factory) :
    Except ResolveError ServiceClient :=
  match Transport.new base config with
  | .error e => .error (.client e)
  | .ok t =>
    if (f t).service = c.key.identity then .ok (f t)
    else
      .error (.registry (.invalidServiceShape c.key.name
        "registered factory produced a different client type"))

theorem resolveAt_eq (r : Registry) (c : Contract) (base : Url) (config : Config) :
    r.resolveAt c base config =
      match r.get? c.key.identity with
      | none => .error (.registry (.unregisteredService c.key.name))
      | some e => makeClient c base config e.factory := rfl

/-! ## Steps -/

/-- A registry and how far each caller is. -/
structure System where
  registry : Registry
  stage : Nat → Stage

namespace System

/-- The registry before anybody calls. -/
def start (r : Registry) : System := ⟨r, fun _ => .idle⟩

/-- Takes a caller to a stage. -/
def put (s : System) (n : Nat) (g : Stage) : System :=
  { s with stage := Function.update s.stage n g }

@[simp] theorem put_stage_self (s : System) (n : Nat) (g : Stage) : (s.put n g).stage n = g := by
  dsimp only [put]
  rw [Function.update_self]

theorem put_stage_of_ne (s : System) {n m : Nat} (g : Stage) (h : m ≠ n) :
    (s.put n g).stage m = s.stage m := by
  dsimp only [put]
  rw [Function.update_of_ne h]

/-- The lock is free if the caller that moves does not hold it, and no other one does. -/
theorem free_put {s : System} {n : Nat} {g : Stage} (hs : ∀ m, m ≠ n → ¬(s.stage m).HoldsLock)
    (hg : ¬g.HoldsLock) (m : Nat) : ¬((s.put n g).stage m).HoldsLock := by
  by_cases hm : m = n
  · subst hm
    rwa [put_stage_self]
  · rw [put_stage_of_ne s g hm]
    exact hs m hm

end System

/-- What happens, each time to one caller. -/
inductive Event where
  | called (n : Nat) (c : Call)
  | tookWrite (n : Nat) (e : Registration)
  | wrote (n : Nat) (e : Registration) (o : Except RegistryError Unit)
  | tookRead (n : Nat) (q : Query)
  | read (n : Nat) (q : Query) (g : Stage)
  | made (n : Nat) (c : Contract) (base : Url) (config : Config) (f : Factory)
    (o : Except ResolveError ServiceClient)
  | answered (n : Nat) (a : Answer)

/-- **One step of one caller.**  The lock is to be had for writing if nobody holds it, and for
reading if nobody writes; it is given back with the last look at the registry. -/
inductive Step (s : System) : Event → System → Prop
  | call {n : Nat} (c : Call) (h : s.stage n = .idle) :
    Step s (.called n c) (s.put n (.ofCall s.registry.config c))
  | takeWrite {n : Nat} {e : Registration} (h : s.stage n = .toWrite e)
    (hfree : ∀ m, ¬(s.stage m).HoldsLock) : Step s (.tookWrite n e) (s.put n (.writing e))
  | insert {n : Nat} {e : Registration} {r : Registry} (h : s.stage n = .writing e)
    (hr : s.registry.insert e = .ok r) :
    Step s (.wrote n e (.ok ())) (System.put ⟨r, s.stage⟩ n (.done (.registered (.ok ()))))
  | refuse {n : Nat} {e : Registration} {f : RegistryError} (h : s.stage n = .writing e)
    (hf : s.registry.insert e = .error f) :
    Step s (.wrote n e (.error f)) (s.put n (.done (.registered (.error f))))
  | takeRead {n : Nat} {q : Query} (h : s.stage n = .toRead q)
    (hfree : ∀ m e, s.stage m ≠ .writing e) : Step s (.tookRead n q) (s.put n (.reading q))
  | read {n : Nat} {q : Query} (h : s.stage n = .reading q) :
    Step s (.read n q (.ofQuery s.registry q)) (s.put n (.ofQuery s.registry q))
  | make {n : Nat} {c : Contract} {base : Url} {config : Config} {f : Factory}
    (h : s.stage n = .making c base config f) :
    Step s (.made n c base config f (makeClient c base config f))
      (s.put n (.done (.resolved (makeClient c base config f))))
  | answer {n : Nat} {a : Answer} (h : s.stage n = .done a) :
    Step s (.answered n a) (s.put n .idle)

/-- **Steps in any order**, with what has happened. -/
inductive Run (s : System) : List Event → System → Prop
  | start : Run s [] s
  | next {past : List Event} {t u : System} {e : Event} (h : Run s past t) (hstep : Step t e u) :
    Run s (past ++ [e]) u

/-! ## What has happened -/

/-- The registrations for which the lock was taken, in order. -/
def offered (past : List Event) : List Registration :=
  past.filterMap fun
    | .tookWrite _ e => some e
    | _ => none

/-- The registrations that were answered, in order. -/
def settled (past : List Event) : List Registration :=
  past.filterMap fun
    | .wrote _ e _ => some e
    | _ => none

/-- The registrations that succeeded, in order. -/
def accepted (past : List Event) : List Registration :=
  past.filterMap fun
    | .wrote _ e (.ok _) => some e
    | _ => none

@[simp] theorem offered_append (past next : List Event) :
    offered (past ++ next) = offered past ++ offered next := List.filterMap_append

@[simp] theorem settled_append (past next : List Event) :
    settled (past ++ next) = settled past ++ settled next := List.filterMap_append

@[simp] theorem accepted_append (past next : List Event) :
    accepted (past ++ next) = accepted past ++ accepted next := List.filterMap_append

/-! ## The invariant

The registry is what the successful registrations made of it, and finds what came first among all
that were settled.  The lock ties the two orders together: while somebody writes, exactly the last
registration that took the lock is open. -/

/-- What holds after every run that begins with the registrations `es`. -/
structure Sound (es : List Registration) (past : List Event) (s : System) : Prop where
  entries : s.registry.entries = es ++ accepted past
  distinct : (identities s.registry.entries).Nodup
  first : ∀ i, s.registry.get? i = firstOf (es ++ settled past) i
  alone : ∀ {n m e}, s.stage n = .writing e → (s.stage m).HoldsLock → m = n
  opened : ∀ {n e}, s.stage n = .writing e → offered past = settled past ++ [e]
  closed : (∀ n e, s.stage n ≠ .writing e) → offered past = settled past
  made : ∀ {n c base config f}, s.stage n = .making c base config f →
    ∃ e, s.registry.get? c.key.identity = some e ∧ f = e.factory

section

variable {es : List Registration} {past : List Event} {s t : System} {e : Event}

/-- A step that leaves the registry and the writers alone. -/
theorem Sound.quiet (h : Sound es past s) {n : Nat} {g : Stage}
    (hoffered : offered [e] = []) (hsettled : settled [e] = []) (haccepted : accepted [e] = [])
    (hold : ∀ x, s.stage n ≠ .writing x) (hnew : ∀ x, g ≠ .writing x)
    (hlock : g.HoldsLock → ∀ m x, s.stage m ≠ .writing x)
    (hmaking : ∀ c base config f, g = .making c base config f →
      ∃ x, s.registry.get? c.key.identity = some x ∧ f = x.factory) :
    Sound es (past ++ [e]) (s.put n g) := by
  have hwriting {m : Nat} {x : Registration} :
      (s.put n g).stage m = .writing x ↔ s.stage m = .writing x := by
    by_cases hm : m = n
    · subst hm
      rw [System.put_stage_self]
      exact iff_of_false (hnew x) (hold x)
    · rw [System.put_stage_of_ne s g hm]
  refine ⟨?_, h.distinct, fun i => ?_, fun {m k x} hm hk => ?_, fun hm => ?_, fun hnone => ?_,
    fun {m c base config f} hm => ?_⟩
  · rw [accepted_append, haccepted, List.append_nil]
    exact h.entries
  · rw [settled_append, hsettled, List.append_nil]
    exact h.first i
  · rw [hwriting] at hm
    by_cases hkn : k = n
    · subst hkn
      rw [System.put_stage_self] at hk
      exact absurd hm (hlock hk m x)
    · rw [System.put_stage_of_ne s g hkn] at hk
      exact h.alone hm hk
  · rw [offered_append, settled_append, hoffered, hsettled, List.append_nil, List.append_nil]
    exact h.opened (hwriting.mp hm)
  · rw [offered_append, settled_append, hoffered, hsettled, List.append_nil, List.append_nil]
    exact h.closed fun m x hm => hnone m x (hwriting.mpr hm)
  · by_cases hmn : m = n
    · subst hmn
      rw [System.put_stage_self] at hm
      exact hmaking c base config f hm
    · rw [System.put_stage_of_ne s g hmn] at hm
      exact h.made hm

/-- A step to a stage without lock and factory. -/
theorem Sound.outside (h : Sound es past s) {n : Nat} {g : Stage} (hg : g.IsOutside)
    (hoffered : offered [e] = []) (hsettled : settled [e] = []) (haccepted : accepted [e] = [])
    (hold : ∀ x, s.stage n ≠ .writing x) : Sound es (past ++ [e]) (s.put n g) := by
  refine h.quiet hoffered hsettled haccepted hold ?_ ?_ ?_
  · rintro x rfl
    exact hg
  · intro hlock
    cases g <;> first | exact hlock.elim | exact hg.elim
  · rintro c base config f rfl
    exact hg.elim

theorem Sound.takeWrite (h : Sound es past s) {n : Nat} {x : Registration}
    (hfree : ∀ m, ¬(s.stage m).HoldsLock) :
    Sound es (past ++ [.tookWrite n x]) (s.put n (.writing x)) := by
  have hnone : ∀ m y, s.stage m ≠ .writing y := fun m y hm => hfree m (Stage.holdsLock_of_writing hm)
  have honly {m : Nat} (hm : ((s.put n (.writing x)).stage m).HoldsLock) : m = n := by
    by_contra hmn
    rw [System.put_stage_of_ne s _ hmn] at hm
    exact hfree m hm
  refine ⟨?_, h.distinct, fun i => ?_, fun hm hk => ?_, fun {m y} hm => ?_, fun hn => ?_,
    fun {m c base config f} hm => ?_⟩
  · rw [accepted_append, show accepted [.tookWrite n x] = [] from rfl, List.append_nil]
    exact h.entries
  · rw [settled_append, show settled [.tookWrite n x] = [] from rfl, List.append_nil]
    exact h.first i
  · rw [honly hk, honly (Stage.holdsLock_of_writing hm)]
  · obtain rfl := honly (Stage.holdsLock_of_writing hm)
    rw [System.put_stage_self] at hm
    obtain rfl := Stage.writing.inj hm
    rw [offered_append, settled_append, h.closed hnone, show settled [.tookWrite m x] = [] from rfl,
      List.append_nil]
    rfl
  · exact absurd (System.put_stage_self s n _) (hn n x)
  · have hmn : m ≠ n := by
      rintro rfl
      rw [System.put_stage_self] at hm
      cases hm
    rw [System.put_stage_of_ne s _ hmn] at hm
    exact h.made hm

/-- While one caller writes, no other one does. -/
theorem Sound.closes (h : Sound es past s) {n : Nat} {x : Registration}
    (hn : s.stage n = .writing x) {r : Registry} {a : Answer} (m : Nat) (y : Registration) :
    (System.put ⟨r, s.stage⟩ n (.done a)).stage m ≠ .writing y := by
  by_cases hmn : m = n
  · subst hmn
    rw [System.put_stage_self]
    exact nofun
  · rw [System.put_stage_of_ne _ _ hmn]
    exact fun hm => hmn (h.alone hn (Stage.holdsLock_of_writing hm))

theorem Sound.wrote (h : Sound es past s) {n : Nat} {x : Registration}
    (hn : s.stage n = .writing x) {o : Except RegistryError Unit} {r : Registry} {a : Answer}
    (hentries : r.entries = es ++ accepted (past ++ [.wrote n x o]))
    (hdistinct : (identities r.entries).Nodup)
    (hfirst : ∀ i, r.get? i = firstOf (es ++ settled past ++ [x]) i)
    (hkept : ∀ i y, s.registry.get? i = some y → r.get? i = some y) :
    Sound es (past ++ [.wrote n x o]) (System.put ⟨r, s.stage⟩ n (.done a)) := by
  have hnone := h.closes hn (r := r) (a := a)
  refine ⟨hentries, hdistinct, fun i => ?_, fun hm => absurd hm (hnone _ _),
    fun hm => absurd hm (hnone _ _), fun _ => ?_, fun {m c base config f} hm => ?_⟩
  · rw [settled_append, ← List.append_assoc]
    exact hfirst i
  · rw [offered_append, settled_append, h.opened hn]
    exact List.append_nil _
  · have hmn : m ≠ n := by
      rintro rfl
      rw [System.put_stage_self] at hm
      cases hm
    rw [System.put_stage_of_ne _ _ hmn] at hm
    obtain ⟨y, hy, hf⟩ := h.made hm
    exact ⟨y, hkept _ y hy, hf⟩

/-- The services that are settled are those that are registered. -/
theorem Sound.mem_settled (h : Sound es past s) {i : Identity} :
    i ∈ identities (es ++ settled past) ↔ i ∈ identities s.registry.entries := by
  rw [← isSome_firstOf, ← h.first, ← isSome_firstOf, Registry.get?_eq_firstOf]

theorem Sound.insert (h : Sound es past s) {n : Nat} {x : Registration} {r : Registry}
    (hn : s.stage n = .writing x) (hr : s.registry.insert x = .ok r) :
    Sound es (past ++ [.wrote n x (.ok ())])
      (System.put ⟨r, s.stage⟩ n (.done (.registered (.ok ())))) := by
  obtain ⟨hfresh, rfl⟩ := Registry.insert_eq_ok.mp hr
  have happend (i : Identity) :
      firstOf (s.registry.entries ++ [x]) i = firstOf (es ++ settled past ++ [x]) i := by
    rw [firstOf_append, firstOf_append, ← h.first i]
    rfl
  refine h.wrote hn ?_ ?_ happend fun i y hy => ?_
  · rw [accepted_append, ← List.append_assoc, ← h.entries]
    rfl
  · rw [identities_append, identities_singleton]
    exact List.nodup_append_comm.mp (List.nodup_cons.mpr ⟨hfresh, h.distinct⟩)
  · change firstOf (s.registry.entries ++ [x]) i = some y
    rw [firstOf_append, show firstOf s.registry.entries i = some y from hy, Option.some_or]

theorem Sound.refuse (h : Sound es past s) {n : Nat} {x : Registration} {f : RegistryError}
    (hn : s.stage n = .writing x) (hf : s.registry.insert x = .error f) :
    Sound es (past ++ [.wrote n x (.error f)])
      (s.put n (.done (.registered (.error f)))) := by
  obtain ⟨hmem, -⟩ := Registry.insert_eq_error.mp hf
  refine h.wrote hn ?_ h.distinct (fun i => ?_) fun i y hy => hy
  · rw [accepted_append, show accepted [.wrote n x (.error f)] = [] from rfl, List.append_nil]
    exact h.entries
  · rw [firstOf_concat_of_mem (h.mem_settled.mpr hmem)]
    exact h.first i

theorem Sound.takeRead (h : Sound es past s) {n : Nat} {q : Query} (hn : s.stage n = .toRead q)
    (hfree : ∀ m x, s.stage m ≠ .writing x) :
    Sound es (past ++ [.tookRead n q]) (s.put n (.reading q)) :=
  h.quiet rfl rfl rfl (fun _ hx => nomatch hn.symm.trans hx) (fun _ => nofun) (fun _ => hfree)
    fun _ _ _ _ => nofun

theorem Sound.read (h : Sound es past s) {n : Nat} {q : Query} (hn : s.stage n = .reading q) :
    Sound es (past ++ [.read n q (.ofQuery s.registry q)]) (s.put n (.ofQuery s.registry q)) := by
  have hold : ∀ x, s.stage n ≠ .writing x := fun x hx => nomatch hn.symm.trans hx
  cases q with
  | factory c base config =>
    rw [Stage.ofQuery]
    cases hget : s.registry.get? c.key.identity with
    | none => exact h.outside trivial rfl rfl rfl hold
    | some y =>
      refine h.quiet rfl rfl rfl hold (fun _ => nofun) (fun hlock => hlock.elim) ?_
      intro c' base' config' f hg
      cases hg
      exact ⟨y, hget, rfl⟩
  | _ => exact h.outside trivial rfl rfl rfl hold

/-- **Every step keeps the invariant.** -/
theorem Sound.step (h : Sound es past s) (hstep : Step s e t) : Sound es (past ++ [e]) t := by
  cases hstep with
  | call c hn =>
    exact h.outside (Stage.isOutside_ofCall _ c) rfl rfl rfl fun x hx => nomatch hn.symm.trans hx
  | takeWrite hn hfree => exact h.takeWrite hfree
  | insert hn hr => exact h.insert hn hr
  | refuse hn hf => exact h.refuse hn hf
  | takeRead hn hfree => exact h.takeRead hn hfree
  | read hn => exact h.read hn
  | make hn => exact h.outside trivial rfl rfl rfl fun x hx => nomatch hn.symm.trans hx
  | answer hn => exact h.outside trivial rfl rfl rfl fun x hx => nomatch hn.symm.trans hx

theorem sound_start {r : Registry} (hr : r.entries = es) (hes : (identities es).Nodup) :
    Sound es [] (.start r) where
  entries := hr.trans (List.append_nil es).symm
  distinct := by rwa [System.start, hr]
  first i := by
    rw [System.start, Registry.get?_eq_firstOf, hr]
    exact congrArg (firstOf · i) (List.append_nil es).symm
  alone := nofun
  opened := nofun
  closed _ := rfl
  made := nofun

/-- **The invariant holds after every run.** -/
theorem Run.sound {r : Registry} (h : Run (.start r) past s) (hr : r.entries = es)
    (hes : (identities es).Nodup) : Sound es past s := by
  induction h with
  | start => exact sound_start hr hes
  | next _ hstep ih => exact ih.step hstep

/-! ## What callers can count on -/

/-- What the registry holds after `past`, if it began with the registrations `es`. -/
structure Stands (es : List Registration) (past : List Event) (s : System) : Prop where
  entries : s.registry.entries = es ++ accepted past
  /-- A service is registered once. -/
  once : (identities (es ++ accepted past)).Nodup
  /-- Registrations are settled in the order in which they take the lock. -/
  order : offered past = settled past ∨
    ∃ n e, s.stage n = .writing e ∧ offered past = settled past ++ [e]
  first : ∀ i, s.registry.get? i = firstOf (es ++ settled past) i
  contains : ∀ i, s.registry.contains i = true ↔ i ∈ identities (es ++ accepted past)
  size : s.registry.size = (identities (es ++ accepted past)).toFinset.card
  isEmpty : s.registry.isEmpty = true ↔ s.registry.size = 0

/-- What a step after `past` does. -/
structure Moves (es : List Registration) (past : List Event) (s : System) (e : Event) (t : System) :
    Prop where
  /-- A registration succeeds if no earlier one to take the lock is for its service. -/
  wrote : ∀ n x o, e = .wrote n x o → offered past = settled past ++ [x] ∧
    o = if x.key.identity ∈ identities (es ++ settled past) then
        .error (.duplicateRegistration x.key.name)
      else .ok ()
  grows : ∀ n x, e = .wrote n x (.ok ()) →
    t.registry = { s.registry with entries := s.registry.entries ++ [x] }
  stays : (∀ n x, e ≠ .wrote n x (.ok ())) → t.registry = s.registry
  permanent : ∀ i, s.registry.contains i = true → t.registry.contains i = true
  containsRead : ∀ n i g, e = .read n (.contains i) g →
    g = .done (.truth (decide (i ∈ identities (es ++ accepted past))))
  sizeRead : ∀ n g, e = .read n .size g →
    g = .done (.number (identities (es ++ accepted past)).toFinset.card)
  isEmptyRead : ∀ n g, e = .read n .isEmpty g →
    g = .done (.truth (decide ((identities (es ++ accepted past)).toFinset.card = 0)))
  factoryRead : ∀ n c base config g, e = .read n (.factory c base config) g →
    g = match firstOf (es ++ settled past) c.key.identity with
      | none => .done (.resolved (.error (.registry (.unregisteredService c.key.name))))
      | some x => .making c base config x.factory
  /-- The client is made by the factory that was first, whatever happened since the lookup. -/
  made : ∀ n c base config f o, e = .made n c base config f o →
    ∃ x, firstOf (es ++ settled past) c.key.identity = some x ∧ f = x.factory ∧
      o = s.registry.resolveAt c base config

theorem Sound.stands (h : Sound es past s) : Stands es past s where
  entries := h.entries
  once := h.entries ▸ h.distinct
  order := by
    by_cases hnone : ∀ n x, s.stage n ≠ .writing x
    · exact .inl (h.closed hnone)
    · push Not at hnone
      obtain ⟨n, x, hn⟩ := hnone
      exact .inr ⟨n, x, hn, h.opened hn⟩
  first := h.first
  contains i := by rw [Registry.contains_iff, h.entries]
  size := by rw [Registry.size_eq_card h.distinct, h.entries]
  isEmpty := Registry.isEmpty_iff_size

/-- What a step does to the registry. -/
theorem Step.registry (h : Step s e t) :
    (∃ n x, e = .wrote n x (.ok ()) ∧
      t.registry = { s.registry with entries := s.registry.entries ++ [x] }) ∨
    ((∀ n x, e ≠ .wrote n x (.ok ())) ∧ t.registry = s.registry) := by
  cases h with
  | insert hn hr => exact .inl ⟨_, _, rfl, (Registry.insert_eq_ok.mp hr).2⟩
  | _ => exact .inr ⟨nofun, rfl⟩

/-- What a look at the registry comes to, by what has happened. -/
theorem Step.ofQuery {n : Nat} {q : Query} {g : Stage} (h : Step s (.read n q g) t) :
    g = .ofQuery s.registry q := by
  cases h
  rfl

theorem Sound.moves (h : Sound es past s) (hstep : Step s e t) : Moves es past s e t where
  wrote n x o he := by
    subst he
    cases hstep with
    | insert hn hr =>
      rw [if_neg fun hmem => (Registry.insert_eq_ok.mp hr).1 (h.mem_settled.mp hmem)]
      exact ⟨h.opened hn, rfl⟩
    | refuse hn hf =>
      obtain ⟨hmem, rfl⟩ := Registry.insert_eq_error.mp hf
      rw [if_pos (h.mem_settled.mpr hmem)]
      exact ⟨h.opened hn, rfl⟩
  grows n x he := by
    subst he
    obtain ⟨_, _, he, ht⟩ | ⟨hne, -⟩ := hstep.registry
    · cases he
      exact ht
    · exact absurd rfl (hne n x)
  stays hne := by
    obtain ⟨n, x, he, -⟩ | ⟨-, ht⟩ := hstep.registry
    · exact absurd he (hne n x)
    · exact ht
  permanent i hi := by
    rw [Registry.contains_iff] at hi ⊢
    obtain ⟨n, x, -, ht⟩ | ⟨-, ht⟩ := hstep.registry
    · rw [ht, identities_append]
      exact List.mem_append_left _ hi
    · rwa [ht]
  containsRead n i g he := by
    subst he
    rw [hstep.ofQuery, Stage.ofQuery, ← h.entries, ← Bool.eq_iff_iff.mpr
      (Registry.contains_iff.trans (decide_eq_true_iff).symm)]
  sizeRead n g he := by
    subst he
    rw [hstep.ofQuery, Stage.ofQuery, h.stands.size]
  isEmptyRead n g he := by
    subst he
    rw [hstep.ofQuery, Stage.ofQuery, ← h.stands.size, Bool.eq_iff_iff.mpr
      (Registry.isEmpty_iff_size.trans (decide_eq_true_iff).symm)]
  factoryRead n c base config g he := by
    subst he
    rw [hstep.ofQuery, Stage.ofQuery, h.first]
  made n c base config f o he := by
    subst he
    cases hstep with
    | make hn =>
      obtain ⟨x, hx, rfl⟩ := h.made hn
      refine ⟨x, (h.first _).symm.trans hx, rfl, ?_⟩
      rw [resolveAt_eq, hx]

/-- Whether a registry is made of an inventory, or begins without services. -/
def Opened (es : List Registration) (r : Registry) : Prop :=
  Registry.ofInventory es = .ok r ∨ es = [] ∧ ∃ config, r = .withConfig config

theorem Opened.spec {r : Registry} (h : Opened es r) : r.entries = es ∧ (identities es).Nodup := by
  obtain h | ⟨rfl, config, rfl⟩ := h
  · obtain ⟨hes, rfl⟩ := Registry.ofInventory_eq_ok.mp h
    exact ⟨rfl, hes⟩
  · exact ⟨rfl, List.nodup_nil⟩

/-- **The first registration wins and stays**, whatever the callers do and in whatever order.  An
inventory becomes a registry exactly if its services are distinct.  From then on the registry holds
the first registration of each service to take the lock, every answer tells what it holds, and no
call but a first registration changes it. -/
theorem registration_firstWins :
    (∀ r, Registry.ofInventory es = .ok r ↔ (identities es).Nodup ∧ r = ⟨es, .default⟩) ∧
    ∀ r, Opened es r → ∀ past s, Run (.start r) past s →
      Stands es past s ∧ ∀ e t, Step s e t → Moves es past s e t := by
  refine ⟨fun r => Registry.ofInventory_eq_ok, fun r hr past s hrun => ?_⟩
  obtain ⟨hentries, hes⟩ := hr.spec
  have hsound := hrun.sound hentries hes
  exact ⟨hsound.stands, fun e t => hsound.moves⟩

/-- A service that can be registered. -/
def noteContract : Contract := ⟨⟨⟨"notes"⟩, "Notes", ⟨true, true, false⟩⟩, none⟩

/-- A registration of the service, whose clients wait for a given time. -/
def noteEntry (time : Nat) : Registration :=
  ⟨noteContract.key, fun t => noteContract.client ⟨t.base, t.config.withTimeout time⟩⟩

/-- Two callers register the service, and the second one to call is the first to take the lock. -/
theorem exists_noteRun_firstWins : ∃ past s, Run (.start .new) past s ∧
    offered past = [noteEntry 1, noteEntry 0] ∧ accepted past = [noteEntry 1] ∧
    s.stage 0 = .done (.registered (.error (.duplicateRegistration "Notes"))) ∧
    Stands [] past s ∧ ∀ e t, Step s e t → Moves [] past s e t := by
  have called₀ := Run.start.next <| Step.call (s := .start .new) (n := 0)
    (.register noteContract fun t => ⟨t.base, t.config.withTimeout 0⟩) rfl
  have called₁ := called₀.next <| Step.call (n := 1)
    (.register noteContract fun t => ⟨t.base, t.config.withTimeout 1⟩) rfl
  have took₁ := called₁.next <| Step.takeWrite (n := 1) (e := noteEntry 1) rfl <|
    System.free_put (fun m _ => System.free_put (fun _ _ => id) id m) id
  have wrote₁ := took₁.next <| Step.insert (n := 1) (e := noteEntry 1) rfl <|
    Registry.insert_eq_ok.mpr ⟨List.not_mem_nil, rfl⟩
  have took₀ := wrote₁.next <| Step.takeWrite (n := 0) (e := noteEntry 0) rfl <|
    System.free_put (fun m hm => by
      rw [System.put_stage_of_ne _ _ hm]
      exact System.free_put (fun m _ => System.free_put (fun _ _ => id) id m) id m) id
  have wrote₀ := took₀.next <| Step.refuse (n := 0) (e := noteEntry 0) rfl <|
    Registry.insert_eq_error.mpr ⟨List.mem_cons_self, rfl⟩
  exact ⟨_, _, wrote₀, rfl, rfl, rfl,
    registration_firstWins.2 .new (.inr ⟨rfl, .default, rfl⟩) _ _ wrote₀⟩

end

end RestLoom.Client.Sharing
