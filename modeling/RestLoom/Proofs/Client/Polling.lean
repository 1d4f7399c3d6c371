import RestLoom.Proofs.Client.Blocking

/-!
# Proofs/Client/Polling — a call that may be called off at any moment

    waiting ─look─▸ polling ─advance─▸ polling ─pause─▸ waiting
       ╰─cancel─▸ decided                 ╰─complete─▸ decided

Who waits without blocking polls.  Each poll looks at the token first, and only if it has not fired
goes on with the exchange, as many steps as it can.  The token fires between any two of these
events, or between two steps of one poll, which the poll does not see.

A look that sees the token decides the call, whatever is left of the exchange; otherwise the
exchange does (`Run.decisive`).  What comes of all these runs is what `send` comes to for all the
looks at which a signal may be seen (`exists_run_iff`).
-/

namespace RestLoom.Client.Polling

/-! ## Calls -/

/-- How far a call is. -/
inductive Stage where
  /-- Between two polls, with so much of the exchange left. -/
  | waiting (left : Exchange (Except ClientError Response))
  /-- In a poll that has seen that the token had not fired. -/
  | polling (left : Exchange (Except ClientError Response))
  | decided (outcome : Except ClientError Response)

/-- What is left of the exchange of a call that is open. -/
def Stage.left? : Stage → Option (Exchange (Except ClientError Response))
  | waiting left => some left
  | polling left => some left
  | decided _ => none

/-- A call, whether its token has fired, and what it has put on the wire. -/
structure State where
  fired : Bool
  sent : List Message
  stage : Stage

/-- A call that has not been polled yet. -/
def State.start (x : Exchange (Except ClientError Response)) : State := ⟨false, [], .waiting x⟩

/-- What happens to a call. -/
inductive Event where
  | fired
  /-- A poll begins, and the token has not fired. -/
  | looked
  | advanced (sent : Option Message)
  /-- A poll ends without a decision. -/
  | paused
  | completed
  /-- A poll begins, and the token has fired. -/
  | cancelled
  deriving DecidableEq

/-- Whether an event decides the call. -/
def Event.decides : Event → Bool
  | completed => true
  | cancelled => true
  | _ => false

/-- **One event.**  The token may fire at any time; everything else is up to the polls. -/
inductive Step (s : State) : Event → State → Prop
  | fire : Step s .fired { s with fired := true }
  | cancel {x : Exchange (Except ClientError Response)} (h : s.stage = .waiting x)
    (hfired : s.fired = true) : Step s .cancelled { s with stage := .decided (.error .cancelled) }
  | look {x : Exchange (Except ClientError Response)} (h : s.stage = .waiting x)
    (hfired : s.fired = false) : Step s .looked { s with stage := .polling x }
  | advance {m : Option Message} {x : Exchange (Except ClientError Response)}
    (h : s.stage = .polling (.step m x)) :
    Step s (.advanced m) { s with sent := s.sent ++ m.toList, stage := .polling x }
  | pause {x : Exchange (Except ClientError Response)} (h : s.stage = .polling x) :
    Step s .paused { s with stage := .waiting x }
  | complete {o : Except ClientError Response} (h : s.stage = .polling (.finished o)) :
    Step s .completed { s with stage := .decided o }

/-- **Events in any order**, with what has happened. -/
inductive Run (s : State) : List Event → State → Prop
  | start : Run s [] s
  | next {past : List Event} {t u : State} {e : Event} (h : Run s past t) (hstep : Step t e u) :
    Run s (past ++ [e]) u

theorem Run.trans {s t u : State} {past future : List Event} (h : Run s past t)
    (h' : Run t future u) : Run s (past ++ future) u := by
  induction h' with
  | start => rwa [List.append_nil]
  | next _ hstep ih =>
    rw [← List.append_assoc]
    exact ih.next hstep

/-- The events that decide a call. -/
def decisions (past : List Event) : List Event := past.filter Event.decides

@[simp] theorem decisions_append (past next : List Event) :
    decisions (past ++ next) = decisions past ++ decisions next := List.filter_append ..

theorem mem_decisions_iff {past : List Event} {e : Event} (he : e.decides = true) :
    e ∈ decisions past ↔ e ∈ past := by
  rw [decisions, List.mem_filter, and_iff_left he]

/-- Whether the token fired before the first poll. -/
def FiredFirst (past : List Event) : Prop :=
  ∃ before after, past = before ++ .fired :: after ∧ Event.looked ∉ before

/-- What fired before the first poll did so before the last event, or is the last event itself. -/
theorem firstFired_concat {past : List Event} {e : Event} (h : FiredFirst (past ++ [e])) :
    FiredFirst past ∨ e = .fired ∧ Event.looked ∉ past := by
  obtain ⟨before, after, heq, hlook⟩ := h
  obtain rfl | ⟨after, last, rfl⟩ := after.eq_nil_or_concat'
  · obtain ⟨rfl, he⟩ := List.append_inj' heq rfl
    exact .inr ⟨List.singleton_inj.mp he, hlook⟩
  · rw [← List.cons_append, ← List.append_assoc] at heq
    obtain ⟨rfl, -⟩ := List.append_inj' heq rfl
    exact .inl ⟨before, after, rfl, hlook⟩

/-! ## Exchanges that are not over -/

variable {x : Exchange (Except ClientError Response)}

/-- What is left of an exchange after some steps, and what they put on the wire. -/
inductive After (x : Exchange (Except ClientError Response)) :
    Nat → List Message → Exchange (Except ClientError Response) → Prop
  | none : After x 0 [] x
  | step {k : Nat} {sent : List Message} {m : Option Message}
    {y : Exchange (Except ClientError Response)} (h : After x k sent (.step m y)) :
    After x (k + 1) (sent ++ m.toList) y

/-- **A signal that has not been seen** in the steps made so far only counts from there on. -/
theorem After.completeUnless {k : Nat} {sent : List Message}
    {y : Exchange (Except ClientError Response)} (h : After x k sent y) {signal : Signal}
    (hdown : ∀ i < k, signal.isUp i = false) :
    x.completeUnless signal 0 =
      ⟨sent ++ (y.completeUnless signal k).sent, (y.completeUnless signal k).outcome⟩ := by
  induction h with
  | none => rfl
  | @step k sent m y _ ih =>
    rw [ih fun i hi => hdown i (Nat.lt_succ_of_lt hi), Exchange.completeUnless,
      hdown k (Nat.lt_succ_self k), if_neg Bool.false_ne_true, ← List.append_assoc]

/-- The steps made and the steps left are the whole exchange. -/
theorem After.complete {k : Nat} {sent : List Message}
    {y : Exchange (Except ClientError Response)} (h : After x k sent y) :
    x.complete = ⟨sent ++ y.complete.sent, y.complete.outcome⟩ := by
  rw [← Exchange.completeUnless_never 0 x, h.completeUnless fun _ _ => rfl,
    Exchange.completeUnless_never]

/-- A look that sees the signal ends the exchange, even if nothing is left of it. -/
theorem completeUnless_of_up {signal : Signal} {look : Nat} (h : signal.isUp look = true)
    (y : Exchange (Except ClientError Response)) :
    y.completeUnless signal look = ⟨[], .error .cancelled⟩ := by
  cases y with
  | finished a => exact if_pos h
  | step m y => exact if_pos h

/-- **Calling off after some steps** is sending with a signal that the next look is the first to
see. -/
theorem After.completeUnless_raisedBefore {k : Nat} {sent : List Message}
    {y : Exchange (Except ClientError Response)} (h : After x k sent y) :
    x.completeUnless (.raisedBefore k) 0 = ⟨sent, .error .cancelled⟩ := by
  have hup : (Signal.raisedBefore k).isUp k = true := by
    simp [Signal.isUp, Signal.raisedBefore]
  have hdown (i : Nat) (hi : i < k) : (Signal.raisedBefore k).isUp i = false := by
    simp [Signal.isUp, Signal.raisedBefore, hi]
  rw [h.completeUnless hdown, completeUnless_of_up hup, List.append_nil]

/-! ## The invariant

An open call has made some steps of the exchange and no decision.  A decided one has made one, and
its outcome tells which.  Before the first look nothing is sent, and a token that fired by then
leaves no look but one that sees it. -/

/-- What holds after every run that begins with the exchange `x`. -/
structure Sound (x : Exchange (Except ClientError Response)) (past : List Event) (s : State) :
    Prop where
  fired : s.fired = true ↔ .fired ∈ past
  reached : ∃ k y, After x k s.sent y
  opened : ∀ y, s.stage.left? = some y → decisions past = [] ∧ ∃ k, After x k s.sent y
  decided : ∀ o, s.stage = .decided o →
    (decisions past = [.cancelled] ∧ .fired ∈ past ∧ o = .error .cancelled) ∨
    (decisions past = [.completed] ∧ ∃ k, After x k s.sent (.finished o))
  unseen : Event.looked ∉ past →
    s.sent = [] ∧ (s.stage = .waiting x ∨ s.stage = .decided (.error .cancelled))
  first : FiredFirst past → Event.looked ∉ past

theorem sound_start : Sound x [] (.start x) where
  fired := iff_of_false Bool.false_ne_true List.not_mem_nil
  reached := ⟨0, x, .none⟩
  opened y h := by
    cases h
    exact ⟨rfl, 0, .none⟩
  decided := nofun
  unseen _ := ⟨rfl, .inl rfl⟩
  first _ := List.not_mem_nil

section
variable {past : List Event} {s t : State} {e : Event}
  {y : Exchange (Except ClientError Response)}

/-- A call in a poll has looked, and so its token did not fire before that. -/
theorem Sound.looked (h : Sound x past s) (hy : s.stage = .polling y) : Event.looked ∈ past := by
  by_contra hlook
  obtain hw | hd := (h.unseen hlook).2
  · exact nomatch hy.symm.trans hw
  · exact nomatch hy.symm.trans hd

/-- An event within a poll. -/
theorem Sound.polled (h : Sound x past s) (hy : s.stage = .polling y) (he : e ≠ .fired)
    (hfired : t.fired = s.fired) (hreached : ∃ k z, After x k t.sent z)
    (hopened : ∀ z, t.stage.left? = some z → decisions (past ++ [e]) = [] ∧ ∃ k, After x k t.sent z)
    (hdecided : ∀ o, t.stage = .decided o →
      decisions (past ++ [e]) = [.completed] ∧ ∃ k, After x k t.sent (.finished o)) :
    Sound x (past ++ [e]) t where
  fired := by rw [hfired, h.fired, List.mem_append, List.mem_singleton, or_iff_left he.symm]
  reached := hreached
  opened := hopened
  decided o ho := .inr (hdecided o ho)
  unseen hlook := absurd (List.mem_append_left _ (h.looked hy)) hlook
  first hfirst := by
    obtain hfirst | ⟨rfl, -⟩ := firstFired_concat hfirst
    · exact absurd (h.looked hy) (h.first hfirst)
    · exact absurd rfl he

theorem Sound.fire (h : Sound x past s) : Sound x (past ++ [.fired]) { s with fired := true } where
  fired := iff_of_true rfl (List.mem_append_right _ (List.mem_singleton_self _))
  reached := h.reached
  opened y hy := by
    rw [decisions_append, (h.opened y hy).1]
    exact ⟨rfl, (h.opened y hy).2⟩
  decided o ho := by
    obtain ⟨hdec, -, hcancel⟩ | ⟨hdec, hdone⟩ := h.decided o ho
    · rw [decisions_append, hdec]
      exact .inl ⟨rfl, List.mem_append_right _ (List.mem_singleton_self _), hcancel⟩
    · rw [decisions_append, hdec]
      exact .inr ⟨rfl, hdone⟩
  unseen hlook := h.unseen fun hmem => hlook (List.mem_append_left _ hmem)
  first hfirst := by
    have hlook : Event.looked ∉ past := by
      obtain hfirst | ⟨-, hlook⟩ := firstFired_concat hfirst
      · exact h.first hfirst
      · exact hlook
    simpa using hlook

/-- **A look that sees the token** decides the call. -/
theorem Sound.cancel (h : Sound x past s) (hy : s.stage = .waiting y) (hfired : s.fired = true) :
    Sound x (past ++ [.cancelled]) { s with stage := .decided (.error .cancelled) } where
  fired := by simpa using h.fired
  reached := h.reached
  opened := nofun
  decided o ho := by
    cases ho
    rw [decisions_append, (h.opened y (by rw [hy]; rfl)).1]
    exact .inl ⟨rfl, List.mem_append_left _ (h.fired.mp hfired), rfl⟩
  unseen hlook := ⟨(h.unseen fun hmem => hlook (List.mem_append_left _ hmem)).1, .inr rfl⟩
  first hfirst := by
    obtain hfirst | ⟨he, -⟩ := firstFired_concat hfirst
    · simpa using h.first hfirst
    · cases he

/-- A look that does not see the token leaves the call open. -/
theorem Sound.look (h : Sound x past s) (hy : s.stage = .waiting y) (hfired : s.fired = false) :
    Sound x (past ++ [.looked]) { s with stage := .polling y } where
  fired := by simpa using h.fired
  reached := h.reached
  opened z hz := by
    cases hz
    rw [decisions_append, (h.opened y (by rw [hy]; rfl)).1]
    exact ⟨rfl, (h.opened y (by rw [hy]; rfl)).2⟩
  decided := nofun
  unseen hlook := absurd (List.mem_append_right _ (List.mem_singleton_self _)) hlook
  first hfirst := by
    obtain ⟨before, after, rfl, hlook⟩ | ⟨he, -⟩ := firstFired_concat hfirst
    · have hmem := h.fired.mpr (List.mem_append_right _ List.mem_cons_self)
      exact absurd (hfired.symm.trans hmem) Bool.false_ne_true
    · cases he

/-- **Every event keeps the invariant.** -/
theorem Sound.step (h : Sound x past s) (hstep : Step s e t) : Sound x (past ++ [e]) t := by
  cases hstep with
  | fire => exact h.fire
  | cancel hy hfired => exact h.cancel hy hfired
  | look hy hfired => exact h.look hy hfired
  | advance hy =>
    obtain ⟨hdec, k, hafter⟩ := h.opened _ (by rw [hy]; rfl)
    refine h.polled hy nofun rfl ⟨k + 1, _, hafter.step⟩ (fun z hz => ?_) nofun
    cases hz
    rw [decisions_append, hdec]
    exact ⟨rfl, k + 1, hafter.step⟩
  | pause hy =>
    obtain ⟨hdec, hafter⟩ := h.opened _ (by rw [hy]; rfl)
    refine h.polled hy nofun rfl h.reached (fun z hz => ?_) nofun
    cases hz
    rw [decisions_append, hdec]
    exact ⟨rfl, hafter⟩
  | complete hy =>
    obtain ⟨hdec, hafter⟩ := h.opened _ (by rw [hy]; rfl)
    refine h.polled hy nofun rfl h.reached nofun fun o ho => ?_
    cases ho
    rw [decisions_append, hdec]
    exact ⟨rfl, hafter⟩

/-- **The invariant holds after every run.** -/
theorem Run.sound (h : Run (.start x) past s) : Sound x past s := by
  induction h with
  | start => exact sound_start
  | next _ hstep ih => exact ih.step hstep

/-! ## Runs and signals

A signal tells which look is the first to see the token, and a run tells it by when the token fires.
With a poll for each step of the exchange, a run does what the signal says; and any run that was
called off did so after some number of steps. -/

/-- The token fires right before the look that is to see it. -/
theorem exists_run_of_up {signal : Signal} {look : Nat} (hup : signal.isUp look = true)
    {y : Exchange (Except ClientError Response)} (hy : s.stage = .waiting y) :
    ∃ past t, Run s past t ∧ t.stage = .decided (y.completeUnless signal look).outcome ∧
      t.sent = s.sent ++ (y.completeUnless signal look).sent := by
  rw [completeUnless_of_up hup, List.append_nil]
  exact ⟨_, _, (Run.start.next .fire).next (.cancel hy rfl), rfl, rfl⟩

/-- **A call can do what a signal says**, and does not need the token if the signal is not seen. -/
theorem exists_run_of_signal (signal : Signal) (look : Nat)
    (y : Exchange (Except ClientError Response)) {s : State} (hy : s.stage = .waiting y)
    (hfired : s.fired = false) :
    ∃ past t, Run s past t ∧ t.stage = .decided (y.completeUnless signal look).outcome ∧
      t.sent = s.sent ++ (y.completeUnless signal look).sent ∧
      (Event.fired ∈ past → ∃ i, signal.isUp i = true) := by
  induction y generalizing s look with
  | finished o =>
    by_cases hup : signal.isUp look = true
    · obtain ⟨past, t, hrun, hstage, hsent⟩ := exists_run_of_up hup hy
      exact ⟨past, t, hrun, hstage, hsent, fun _ => ⟨look, hup⟩⟩
    · have run := (Run.start.next (.look hy hfired)).next (.complete rfl)
      rw [Exchange.completeUnless, if_neg hup, List.append_nil]
      exact ⟨_, _, run, rfl, rfl, by simp⟩
  | step m y ih =>
    by_cases hup : signal.isUp look = true
    · obtain ⟨past, t, hrun, hstage, hsent⟩ := exists_run_of_up hup hy
      exact ⟨past, t, hrun, hstage, hsent, fun _ => ⟨look, hup⟩⟩
    · have run := ((Run.start.next (.look hy hfired)).next (.advance rfl)).next (.pause rfl)
      obtain ⟨past, t, hrun, hstage, hsent, hseen⟩ :=
        ih (look + 1) (s := ⟨s.fired, _, _⟩) rfl hfired
      rw [Exchange.completeUnless, if_neg hup, ← List.append_assoc]
      exact ⟨_, t, run.trans hrun, hstage, hsent, fun hmem => hseen (by simpa using hmem)⟩

/-- **A call that is open comes to a decision** if it is polled, also when the token does not fire
any more. -/
theorem exists_run_of_left? (h : s.stage.left? = some y) :
    ∃ future t o, Run s future t ∧ t.stage = .decided o ∧ Event.fired ∉ future := by
  have hwaiting {z : Exchange (Except ClientError Response)} {s : State}
      (hz : s.stage = .waiting z) :
      ∃ future t o, Run s future t ∧ t.stage = .decided o ∧ Event.fired ∉ future := by
    cases hfired : s.fired with
    | true => exact ⟨_, _, _, Run.start.next (.cancel hz hfired), rfl, by simp⟩
    | false =>
      obtain ⟨future, t, hrun, hstage, -, hseen⟩ := exists_run_of_signal .never 0 z hz hfired
      exact ⟨future, t, _, hrun, hstage, fun hmem => nomatch hseen hmem⟩
  cases hs : s.stage with
  | waiting z => exact hwaiting hs
  | polling z =>
    obtain ⟨future, t, o, hrun, hstage, hnone⟩ := hwaiting (s := ⟨s.fired, s.sent, .waiting z⟩) rfl
    exact ⟨_, t, o, (Run.start.next (.pause hs)).trans hrun, hstage, by simpa using hnone⟩
  | decided o =>
    rw [hs] at h
    cases h

/-- **What runs come to** is what an exchange comes to for some signal. -/
theorem exists_run_iff {sending : Sending} :
    (∃ past s, Run (.start x) past s ∧ s.stage = .decided sending.outcome ∧
      s.sent = sending.sent) ↔ ∃ signal, x.completeUnless signal 0 = sending := by
  constructor
  · rintro ⟨past, s, hrun, hstage, hsent⟩
    obtain ⟨-, -, hcancel⟩ | ⟨-, k, hafter⟩ := hrun.sound.decided _ hstage
    · obtain ⟨k, y, hafter⟩ := hrun.sound.reached
      refine ⟨.raisedBefore k, ?_⟩
      rw [hafter.completeUnless_raisedBefore, hsent, ← hcancel]
    · refine ⟨.never, ?_⟩
      rw [Exchange.completeUnless_never, hafter.complete, Exchange.complete, List.append_nil, hsent]
  · rintro ⟨signal, rfl⟩
    obtain ⟨past, s, hrun, hstage, hsent, -⟩ :=
      exists_run_of_signal signal 0 x (s := .start x) rfl rfl
    exact ⟨past, s, hrun, hstage, hsent⟩

/-! ## What a caller can count on -/

/-- What holds of a call after `past`, if it began with the exchange `x`. -/
structure Decisive (x : Exchange (Except ClientError Response)) (past : List Event) (s : State) :
    Prop where
  /-- A token that fired before the first poll keeps everything off the wire. -/
  first : FiredFirst past → s.sent = [] ∧ ∀ o, s.stage = .decided o → o = .error .cancelled
  /-- A poll that finds the token fired calls off, even an exchange of which nothing is left. -/
  seen : ∀ y e t, s.stage = .waiting y → s.fired = true → Step s e t → e ≠ .fired →
    e = .cancelled ∧ t.stage = .decided (.error .cancelled) ∧ t.sent = s.sent
  /-- What was called off had its token fired, and is cancelled whatever the server answers. -/
  cancelled : .cancelled ∈ past → .fired ∈ past ∧ s.stage = .decided (.error .cancelled)
  /-- What is decided and was not called off has the outcome of the exchange. -/
  own : ∀ o, s.stage = .decided o → .cancelled ∉ past → .completed ∈ past ∧
    o = x.complete.outcome ∧ s.sent = x.complete.sent
  /-- A call is decided once, in one of the two ways. -/
  once : ∀ o, s.stage = .decided o → decisions past = [.cancelled] ∨ decisions past = [.completed]
  /-- A call that is open has not been decided, and will be if it is polled. -/
  opened : (∀ o, s.stage ≠ .decided o) → decisions past = [] ∧
    ∃ future t o, Run s future t ∧ t.stage = .decided o ∧ Event.fired ∉ future
  /-- Nothing more is done about a call that is decided. -/
  final : ∀ o e t, s.stage = .decided o → Step s e t →
    e = .fired ∧ t.stage = s.stage ∧ t.sent = s.sent

theorem Sound.decisive (h : Sound x past s) : Decisive x past s where
  first hfirst := by
    obtain ⟨hsent, hstage⟩ := h.unseen (h.first hfirst)
    refine ⟨hsent, fun o ho => ?_⟩
    obtain hw | hd := hstage
    · cases hw.symm.trans ho
    · exact (Stage.decided.inj (hd.symm.trans ho)).symm
  seen y e t hy hfired hstep he := by
    cases hstep with
    | fire => exact absurd rfl he
    | cancel => exact ⟨rfl, rfl, rfl⟩
    | look _ hdown => exact absurd (hdown.symm.trans hfired) Bool.false_ne_true
    | advance hz => cases hy.symm.trans hz
    | pause hz => cases hy.symm.trans hz
    | complete hz => cases hy.symm.trans hz
  cancelled hmem := by
    rw [← mem_decisions_iff rfl] at hmem
    cases hs : s.stage with
    | decided o =>
      obtain ⟨-, hfired, rfl⟩ | ⟨hdec, -⟩ := h.decided o hs
      · exact ⟨hfired, rfl⟩
      · rw [hdec] at hmem
        cases hmem with | tail _ hmem => cases hmem
    | waiting y =>
      rw [(h.opened y (by rw [hs]; rfl)).1] at hmem
      cases hmem
    | polling y =>
      rw [(h.opened y (by rw [hs]; rfl)).1] at hmem
      cases hmem
  own o ho hmem := by
    rw [← mem_decisions_iff rfl] at hmem
    obtain ⟨hdec, -⟩ | ⟨hdec, k, hafter⟩ := h.decided o ho
    · exact absurd (hdec ▸ List.mem_singleton_self _) hmem
    · rw [hafter.complete, Exchange.complete, List.append_nil, ← mem_decisions_iff rfl, hdec]
      exact ⟨List.mem_singleton_self _, rfl, rfl⟩
  once o ho := (h.decided o ho).imp And.left And.left
  opened hopen := by
    obtain ⟨y, hy⟩ : ∃ y, s.stage.left? = some y := by
      cases hs : s.stage with
      | waiting y => exact ⟨y, rfl⟩
      | polling y => exact ⟨y, rfl⟩
      | decided o => exact absurd hs (hopen o)
    exact ⟨(h.opened y hy).1, exists_run_of_left? hy⟩
  final o e t ho hstep := by
    cases hstep with
    | fire => exact ⟨rfl, rfl, rfl⟩
    | cancel hy => cases ho.symm.trans hy
    | look hy => cases ho.symm.trans hy
    | advance hy => cases ho.symm.trans hy
    | pause hy => cases ho.symm.trans hy
    | complete hy => cases ho.symm.trans hy

/-- **Calling off is decisive**, in whatever order the token and the steps of the exchange come and
wherever the exchange fails.  For a request with a token, sending comes to just what the runs of its
exchange come to; and an address that is no URL is the error, whatever the token does. -/
theorem cancellation_decisive (t : Transport) {r : Request} {token : CancelToken}
    (htoken : r.cancel = some token) (reaction : Reaction) :
    (∀ x past s, Run (.start x) past s → Decisive x past s) ∧
    (∀ e, r.url t.base = .error e → (∃ text, e = .invalidUrl text) ∧
      ∀ signals, t.send r signals reaction = ⟨[], .error e⟩) ∧
    ∀ u, r.url t.base = .ok u → ∀ sending,
      (∃ signals, t.send r signals reaction = sending) ↔
        ∃ past s, Run (.start (t.exchange r u reaction)) past s ∧
          s.stage = .decided sending.outcome ∧ s.sent = sending.sent := by
  refine ⟨fun x past s hrun => hrun.sound.decisive,
    fun e he => ⟨Transport.exists_invalidUrl he, fun signals => Transport.send_of_invalid he⟩,
    fun u hu sending => ?_⟩
  have hsend (signals : CancelToken → Signal) : t.send r signals reaction =
      (t.exchange r u reaction).completeUnless (signals token) 0 := by
    rw [Transport.send, hu]
    dsimp only
    rw [htoken]
  rw [exists_run_iff]
  constructor
  · rintro ⟨signals, rfl⟩
    exact ⟨signals token, (hsend signals).symm⟩
  · rintro ⟨signal, rfl⟩
    exact ⟨fun _ => signal, hsend fun _ => signal⟩

/-- The exchange of a request for notes, answered by one byte. -/
def noteExchange : Exchange (Except ClientError Response) :=
  Transport.exchange ⟨Transport.noteBase, .default⟩ (.new .get "/notes") Transport.noteBase
    (.response 200 [110] false)

/-- The token fires when the answer has been read, and the next poll still calls off. -/
theorem exists_noteRun_cancelled : ∃ past s, Run (.start noteExchange) past s ∧
    ((Request.new .get "/notes").cancelOn ⟨0⟩).cancel = some ⟨0⟩ ∧
    s.sent = noteExchange.complete.sent ∧ s.stage = .decided (.error .cancelled) ∧
    Decisive noteExchange past s := by
  have looked := (Run.start (s := .start noteExchange)).next (.look rfl rfl)
  have answered := (((looked.next (.advance rfl)).next (.advance rfl)).next (.advance rfl)).next
    (.advance rfl)
  have fired := (answered.next (.pause rfl)).next .fire
  have cancelled := fired.next (.cancel rfl rfl)
  exact ⟨_, _, cancelled, rfl, rfl, rfl, (cancellation_decisive ⟨Transport.noteBase, .default⟩
    (r := (Request.new .get "/notes").cancelOn ⟨0⟩) rfl .nobody).1 _ _ _ cancelled⟩

end

end RestLoom.Client.Polling
