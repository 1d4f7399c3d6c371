import RestLoom.Proofs.Client.Contract
import RestLoom.Proofs.Code.Run
import RestLoom.Proofs.Emit.Body
import RestLoom.Proofs.Emit.PathSource

/-!
# Proofs/Client/Body — running what a client method is written as

    program ──tokens──▸ code ──readBlock──▸ statements ──run──▸ call
       └──────────────────────buildRequest, send──────────────────▸ ┘

The statements of a program do to the state what its steps do to the request: `run_stepStatement`
is one step, `run_steps` all of them.
-/

namespace RestLoom.Client

open RestLoom.Token (Ident)
open RestLoom.Emit
open RestLoom.Code

/-! ## Names -/

/-- The names that a body binds. -/
def bodyNames : List String :=
  ["__refit_path", "__refit_request", "__refit_value", "__refit_response"]

/-- Whether a name stands for the argument of a parameter, and is none that a body binds. -/
structure IsBound (args : Arguments) (locals : Locals) (i : Ident) : Prop where
  lookup : locals.lookup i.name = some ⟨false, .argument (argumentOf args i)⟩
  free : i.name ∉ bodyNames

/-- The state of a body that has made its request. -/
def made (path : String) (locals : Locals) (r : Request) : State :=
  ⟨("__refit_request", ⟨true, .request r⟩) :: ("__refit_path", ⟨false, .text path⟩) :: locals, [],
    []⟩

variable {args : Arguments} {locals : Locals} {i : Ident} {path : String} {r : Request}
variable (runtime : Runtime)

/-- A name that a body does not bind is looked up behind the names that it binds. -/
theorem IsBound.cons (h : IsBound args locals i) {x : String} (hx : x ∈ bodyNames) (b : Binding) :
    IsBound args ((x, b) :: locals) i := by
  have hne : (i.name == x) = false := beq_false_of_ne fun heq => h.free (heq.symm ▸ hx)
  refine ⟨?_, h.free⟩
  rw [List.lookup_cons, hne]
  exact h.lookup

theorem IsBound.made (h : IsBound args locals i) (path : String) (r : Request) :
    IsBound args (made path locals r).locals i :=
  (h.cons (by decide) _).cons (by decide) _

/-! ## Steps -/

/-- The parameter of a step. -/
def paramOf : Step → Ident
  | .query _ i => i
  | .queryIfPresent _ i => i
  | .json i => i
  | .cancelOn i => i

/-- What a step makes of the state. -/
def stepped (path : String) (locals : Locals) (r : Request) :
    Except ClientError Request → Except ClientError Unit × State
  | .ok r' => (.ok (), made path locals r')
  | .error e => (.error e, made path locals r)

theorem eval_requestCall {name : String} {es : List Expr} {vs : List Value} {r' : Request}
    {v : Value} {s : State} (hs : s.locals.lookup "__refit_request" = some ⟨true, .request r⟩)
    (hes : (evalAll runtime es).on s = some (.ok vs, s))
    (h : changeRequest? r name vs = some (r', v)) :
    (eval runtime (Program.requestCall name es)).on s =
      some (.ok v, { s with locals := assign "__refit_request" (.request r') s.locals }) :=
  eval_change (x := Program.requestName) hs hes h

/-- A block that adds the value of an option to the query leaves nothing else behind. -/
theorem runScope_query (key text : String) (payload : Payload) :
    (runScope runtime Program.valueName (.argument (.value text payload))
        [.run (Program.requestCall "query" [.text key, .name Program.valueName])]).on
      (made path locals r) = some (.ok (), made path locals (r.addQuery key text)) := by
  let inside : State := { made path locals r with
    locals := ("__refit_value", ⟨false, .argument (.value text payload)⟩) ::
      (made path locals r).locals }
  have hvalue : (eval runtime (.name Program.valueName)).on inside =
      some (.ok (.argument (.value text payload)), inside) :=
    eval_name runtime (b := ⟨false, .argument (.value text payload)⟩) rfl
  have hes : (evalAll runtime [.text key, .name Program.valueName]).on inside =
      some (.ok [.text key, .argument (.value text payload)], inside) :=
    evalAll_cons rfl (evalAll_singleton hvalue)
  have hchange : changeRequest? r "query" [.text key, .argument (.value text payload)] =
      some (r.addQuery key text, .request (r.addQuery key text)) := rfl
  exact runScope_singleton (b := ⟨false, .argument (.value text payload)⟩)
    (t := made path locals (r.addQuery key text))
    (runSimple_run (eval_requestCall runtime rfl hes hchange)) rfl

/-- **The statement of a step** does to the request what the step does. -/
theorem run_stepStatement (path : String) (r : Request) (s : Step)
    (h : IsBound args locals (paramOf s)) :
    (runStatement runtime (Program.stepStatement s)).on (made path locals r) =
      some (stepped path locals r (runStep args r s)) := by
  have hlookup := (h.made path r).lookup
  have hargument := eval_borrow runtime hlookup
  cases s with
  | query key i =>
    exact runSimple_run (eval_requestCall runtime rfl
      (evalAll_cons rfl (evalAll_singleton hargument)) rfl)
  | queryIfPresent key i =>
    rw [Program.stepStatement, runStatement, runStep]
    refine (Run.on_bind hargument).trans ?_
    dsimp only [paramOf]
    cases argumentOf args i with
    | value text payload => exact runScope_query runtime key text payload
    | absent => rfl
    | token t => rfl
  | json i =>
    have hes := evalAll_singleton hargument
    rw [runStep, Request.json]
    cases hwrite : (argumentOf args i).payload.write with
    | error e =>
      have hchange : changeRequest? r "json" [.argument (argumentOf args i)] =
          some (r, .err (.serialize e)) := by
        rw [changeRequest?, Request.json, hwrite]
      exact runSimple_run_error (eval_propagate_err (eval_requestCall runtime rfl hes hchange))
    | ok text =>
      have hchange : changeRequest? r "json" [.argument (argumentOf args i)] =
          some ({ r with body := some text }, .ok (.request { r with body := some text })) := by
        rw [changeRequest?, Request.json, hwrite]
      exact runSimple_run (eval_propagate_ok (eval_requestCall runtime rfl hes hchange))
  | cancelOn i =>
    have hes := evalAll_singleton (eval_name runtime hlookup)
    dsimp only [paramOf] at hes
    rw [runStep]
    cases hvalue : argumentOf args i with
    | token t | value text payload | absent =>
      rw [hvalue] at hes
      exact runSimple_run (eval_requestCall runtime rfl hes rfl)

/-- **The statements of steps** build the request that the steps build.  A step that fails ends the
run, before anything is sent. -/
theorem run_steps (path : String) (r : Request) {steps : List Step}
    (h : ∀ s ∈ steps, IsBound args locals (paramOf s)) :
    ∃ r', ((steps.map Program.stepStatement).forM (runStatement runtime)).on (made path locals r) =
        some ((steps.foldlM (runStep args) r).map fun _ => (), made path locals r') ∧
      ∀ built, steps.foldlM (runStep args) r = .ok built → r' = built := by
  induction steps generalizing r with
  | nil => exact ⟨r, rfl, fun _ => Except.ok.inj⟩
  | cons s steps ih =>
    rw [List.forall_mem_cons] at h
    have hstep := run_stepStatement runtime path r s h.1
    rw [List.foldlM_cons]
    cases hs : runStep args r s with
    | error e =>
      rw [hs] at hstep
      exact ⟨r, Run.on_bind_error hstep, fun _ hbuilt => by cases hbuilt⟩
    | ok next =>
      rw [hs] at hstep
      obtain ⟨r', hrest, hbuilt⟩ := ih next h.2
      exact ⟨r', (Run.on_bind hstep).trans hrest, hbuilt⟩

/-! ## Bodies -/

/-- **What a call of a program comes to**: its request is dispatched, unless it cannot be built. -/
def programCall (p : Program) (args : Arguments) : Call :=
  match buildRequest p args with
  | .error e => ⟨[], [], .error e⟩
  | .ok r =>
    let sending := runtime.deliver ⟨p.isAsync, r⟩
    ⟨[⟨p.isAsync, r⟩], sending.sent, readAnswer p runtime.schema sending.outcome⟩

/-- The state of a body whose request has been dispatched. -/
def dispatched (path : String) (locals : Locals) (d : Dispatch) : State :=
  { made path locals d.request with
    dispatched := [d]
    sent := (runtime.deliver d).sent }

/-- What sending a request comes to is propagated. -/
theorem eval_propagate_dispatch {x : Expr} {d : Dispatch}
    (h : (eval runtime x).on (made path locals d.request) =
      (dispatchRequest runtime d).on (made path locals d.request)) :
    (eval runtime (.propagate x)).on (made path locals d.request) =
      match (runtime.deliver d).outcome with
      | .ok response => some (.ok (.response response), dispatched runtime path locals d)
      | .error e => some (.error e, dispatched runtime path locals d) := by
  rw [dispatchRequest_on] at h
  cases houtcome : (runtime.deliver d).outcome with
  | ok response =>
    rw [houtcome] at h
    exact eval_propagate_ok h
  | error e =>
    rw [houtcome] at h
    exact eval_propagate_err h

/-- **The expression that sends the request** dispatches it as its caller waits. -/
theorem eval_dispatchExpr (path : String) (locals : Locals) (r : Request) (isAsync : Bool) :
    (eval runtime (Program.dispatchExpr isAsync)).on (made path locals r) =
      match (runtime.deliver ⟨isAsync, r⟩).outcome with
      | .ok response => some (.ok (.response response), dispatched runtime path locals ⟨isAsync, r⟩)
      | .error e => some (.error e, dispatched runtime path locals ⟨isAsync, r⟩) := by
  have hself : (eval runtime Program.transportExpr).on (made path locals r) =
      some (.ok .transport, made path locals r) := rfl
  have hname : ∀ x, Program.transportExpr ≠ .name x := fun x heq => by cases heq
  have hes := evalAll_singleton (eval_name runtime (x := Program.requestName)
    (s := made path locals r) (b := ⟨true, .request r⟩) rfl)
  cases isAsync with
  | true =>
    have hsend : (eval runtime (.method Program.transportExpr "send"
        [.name Program.requestName])).on (made path locals r) =
          some (.ok (.pending r), made path locals r) :=
      eval_method hname hself hes
    exact eval_propagate_dispatch (d := ⟨true, r⟩) runtime (eval_await hsend)
  | false => exact eval_propagate_dispatch (d := ⟨false, r⟩) runtime (eval_method hname hself hes)

theorem run_pathStatement {p : Program} {s : State}
    (hpath : (eval runtime (Program.pathExpr p.path)).on s = some (.ok (.text path), s)) :
    (runStatement runtime p.pathStatement).on s =
      some (.ok (), { s with locals := ("__refit_path", ⟨false, .text path⟩) :: s.locals }) :=
  runSimple_bind hpath

theorem pathValue?_variant (v : Service.Verb) :
    pathValue? ["refit", "RestMethod", v.variant] = some (.verb v) := by
  cases v <;> rfl

theorem run_requestStatement (p : Program) :
    (runStatement runtime p.requestStatement).on
        ⟨("__refit_path", ⟨false, .text path⟩) :: locals, [], []⟩ =
      some (.ok (), made path locals (.new p.verb path)) := by
  have hverb : (eval runtime (.path ["refit", "RestMethod", p.verb.variant])).on
      ⟨("__refit_path", ⟨false, .text path⟩) :: locals, [], []⟩ =
        some (.ok (.verb p.verb), ⟨("__refit_path", ⟨false, .text path⟩) :: locals, [], []⟩) := by
    rw [eval]
    exact Run.on_orStuck (pathValue?_variant p.verb)
  have hname := eval_name runtime (x := Program.pathName)
    (s := ⟨("__refit_path", ⟨false, .text path⟩) :: locals, [], []⟩)
    (b := ⟨false, .text path⟩) rfl
  exact runSimple_bind (eval_call (evalAll_cons hverb (evalAll_singleton hname)) rfl)

/-- **A response that is read** is the value of the body, or the failure of reading it. -/
theorem call?_readAnswer {s : State} {response : Response}
    (h : s.locals.lookup "__refit_response" = some ⟨false, .response response⟩) :
    (eval runtime (Program.okExpr
        (.propagate (.method (.name Program.responseName) "json" [])))).call? s =
      some ⟨s.dispatched, s.sent, (response.json runtime.schema).map some⟩ := by
  have hmethod := eval_method_name (x := Program.responseName) "json" h
    (rfl : (evalAll runtime []).on s = some (.ok [], s))
  cases hjson : response.json runtime.schema with
  | ok j =>
    rw [callMethod, hjson] at hmethod
    exact Run.call?_of_on (eval_call (evalAll_singleton (eval_propagate_ok hmethod)) rfl) rfl
  | error e =>
    rw [callMethod, hjson] at hmethod
    exact Run.call?_of_error (eval_call_error (eval_propagate_err hmethod))

/-- **The end of a body** gives what the program reads of the answer. -/
theorem call?_finish (p : Program) :
    ((runStatement runtime p.finishStatement.1) >>= fun _ =>
        eval runtime p.finishStatement.2).call? (made path locals r) =
      some ⟨[⟨p.isAsync, r⟩], (runtime.deliver ⟨p.isAsync, r⟩).sent,
        readAnswer p runtime.schema (runtime.deliver ⟨p.isAsync, r⟩).outcome⟩ := by
  have hdispatch := eval_dispatchExpr runtime path locals r p.isAsync
  rw [Program.finishStatement]
  cases houtcome : (runtime.deliver ⟨p.isAsync, r⟩).outcome with
  | error e =>
    rw [houtcome] at hdispatch
    split
    next => exact Run.call?_bind_error (runSimple_bind_error hdispatch)
    next => exact Run.call?_bind_error (runSimple_run_error hdispatch)
  | ok response =>
    rw [houtcome] at hdispatch
    rw [readAnswer]
    split
    next => exact (Run.call?_bind (runSimple_bind hdispatch)).trans (call?_readAnswer runtime rfl)
    next => exact (Run.call?_bind (runSimple_run hdispatch)).trans rfl

/-- The statements of a body are run one after the other, then its value. -/
theorem runBlock_eq (p : Program) : runBlock runtime p.block =
    (runStatement runtime p.pathStatement >>= fun _ =>
      runStatement runtime p.requestStatement >>= fun _ =>
        (p.steps.map Program.stepStatement).forM (runStatement runtime) >>= fun _ =>
          runStatement runtime p.finishStatement.1 >>= fun _ =>
            eval runtime p.finishStatement.2) := by
  simp only [runBlock, Program.block, List.cons_append, List.forM_eq_forM, List.forM_cons,
    List.forM_append, List.forM_nil, bind_assoc, pure_bind]

/-- **The body of a program** does what the program says. -/
theorem call?_block {p : Program} (h : ∀ s ∈ p.steps, IsBound args locals (paramOf s))
    (hpath : (eval runtime (Program.pathExpr p.path)).on ⟨locals, [], []⟩ =
      some (.ok (.text (pathOf args p.path)), ⟨locals, [], []⟩)) :
    (runBlock runtime p.block).call? ⟨locals, [], []⟩ = some (programCall runtime p args) := by
  obtain ⟨r', hsteps, hbuilt⟩ :=
    run_steps runtime (pathOf args p.path) (.new p.verb (pathOf args p.path)) h
  change _ = some ((buildRequest p args).map _, _) at hsteps
  rw [runBlock_eq, Run.call?_bind (run_pathStatement runtime hpath),
    Run.call?_bind (run_requestStatement runtime p), programCall]
  cases hbuild : buildRequest p args with
  | error e =>
    rw [hbuild] at hsteps
    exact Run.call?_bind_error hsteps
  | ok r =>
    obtain rfl := hbuilt r hbuild
    rw [hbuild] at hsteps
    exact (Run.call?_bind hsteps).trans (call?_finish runtime p)

end RestLoom.Client
