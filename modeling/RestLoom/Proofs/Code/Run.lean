import RestLoom.Client.Call
import RestLoom.Proofs.Code.Syntax
import RestLoom.Proofs.Path.Format

/-!
# Proofs/Code/Run — running the statements of a method

    statements, arguments ──▸ what is dispatched, and the result

A body runs in the names that it binds, over the functions of the client library that it calls.  A
failure that it propagates is its result, and ends it.  A body that names what is not there, or
gives a function what this does not take, comes to nothing at all.

What becomes of a dispatched request is left to a `Runtime`.
-/

namespace RestLoom.Code

open RestLoom.Token (Ident)
open RestLoom.Service (Verb)
open RestLoom.Client

/-! ## Values -/

/-- A value; a reference is the value that it refers to. -/
inductive Value where
  | unit
  | text (t : String)
  | verb (v : Verb)
  | argument (a : Argument)
  | transport
  | request (r : Request)
  /-- A request that is sent when it is awaited. -/
  | pending (r : Request)
  | response (r : Response)
  | json (j : Json)
  | ok (v : Value)
  | err (e : ClientError)

namespace Value

/-- The text that a value is shown as. -/
def shown? : Value → Option String
  | text t => some t
  | argument a => some a.text
  | _ => none

/-- The result of a method that gives a value. -/
def result? : Value → Option (Except ClientError (Option Json))
  | ok unit => some (.ok none)
  | ok (json j) => some (.ok (some j))
  | err e => some (.error e)
  | _ => none

/-- The outcome of sending as a value. -/
def ofOutcome : Except ClientError Response → Value
  | .ok r => ok (response r)
  | .error e => err e

end Value

/-- A request on its way, and whether its caller waits without blocking. -/
structure Dispatch where
  isAsync : Bool
  request : Request
  deriving DecidableEq

/-- What a body runs on: what becomes of a dispatched request, and the type of the answer. -/
structure Runtime where
  deliver : Dispatch → Sending
  schema : Json.Schema

/-! ## States -/

/-- A name that is bound. -/
structure Binding where
  /-- Whether what it is bound to may change. -/
  changes : Bool
  value : Value

/-- Names that are bound, the last ones first. -/
abbrev Locals := List (String × Binding)

/-- Gives a name that is bound another value. -/
def assign (x : String) (v : Value) : Locals → Locals
  | [] => []
  | (y, b) :: rest =>
    if y = x then (y, { b with value := v }) :: rest else (y, b) :: assign x v rest

/-- The state of a run. -/
structure State where
  locals : Locals
  dispatched : List Dispatch
  sent : List Message

/-- What runs in a state, and may end with a failure; it need not come to anything. -/
abbrev Run := ExceptT ClientError (StateT State Option)

/-- What becomes of a run that starts in a state. -/
def Run.on {α : Type} (m : Run α) (s : State) : Option (Except ClientError α × State) := m.run s

/-- What has no meaning. -/
def stuck {α : Type} : Run α := ExceptT.mk fun _ => none

/-- What has a meaning if the value is there. -/
def orStuck {α : Type} : Option α → Run α
  | some a => pure a
  | none => stuck

/-- Binds a name. -/
def bind (x : Ident) (b : Binding) : Run Unit :=
  modify fun s => { s with locals := (x.name, b) :: s.locals }

/-! ## The library -/

/-- The value of a path. -/
def pathValue? : List String → Option Value
  | ["refit", "RestMethod", name] => (Verb.all.find? fun v => v.variant == name).map .verb
  | _ => none

/-- What a function gives. -/
def callFunction? : List String → List Value → Option Value
  | ["std", "string", "String", "from"], [.text t] => some (.text t)
  | ["std", "result", "Result", "Ok"], [v] => some (.ok v)
  | ["refit", "encode_path_value"], [v] => v.shown?.map fun t => .text (Request.encodePathValue t)
  | ["refit", "RestRequest", "new"], [.verb v, .text path] => some (.request (.new v path))
  | _, _ => none

/-- What a format with values at its places gives. -/
def format? (format : String) (vs : List Value) : Option Value := do
  let texts ← vs.mapM Value.shown?
  return .text (String.ofList (← Path.readFormat format.toList (texts.map String.toList)))

/-- What a method that changes a request makes of it, and what it gives. -/
def changeRequest? (r : Request) : String → List Value → Option (Request × Value)
  | "query", [.text key, v] => v.shown?.map fun t => (r.addQuery key t, .request (r.addQuery key t))
  | "json", [.argument a] =>
    match r.json a.payload with
    | .ok r => some (r, .ok (.request r))
    | .error e => some (r, .err e)
  | "cancel_on", [.argument (.token t)] => some (r.cancelOn t, .request (r.cancelOn t))
  | "cancel_on", [.argument _] => some (r, .request r)
  | _, _ => none

variable (runtime : Runtime)

/-- Dispatches a request. -/
def dispatchRequest (d : Dispatch) : Run Value := do
  let sending := runtime.deliver d
  modify fun s => { s with dispatched := s.dispatched ++ [d], sent := s.sent ++ sending.sent }
  return .ofOutcome sending.outcome

/-- Runs a method of a value that stays as it is. -/
def callMethod : Value → String → List Value → Run Value
  | .transport, "send", [.request r] => return .pending r
  | .transport, "send_blocking", [.request r] => dispatchRequest runtime ⟨false, r⟩
  | .response r, "json", [] =>
    match r.json runtime.schema with
    | .ok j => return .ok (.json j)
    | .error e => return .err e
  | _, _, _ => stuck

/-! ## Expressions and statements -/

mutual

/-- **Runs an expression.** -/
def eval : Expr → Run Value
  | .name x => do return (← orStuck ((← get).locals.lookup x.name)).value
  | .text t => return .text t
  | .unit => return .unit
  | .path names => orStuck (pathValue? names)
  | .call function arguments => do orStuck (callFunction? function (← evalAll arguments))
  | .expand ["std", "format"] (.text format :: arguments) => do
    orStuck (format? format (← evalAll arguments))
  | .expand _ _ => stuck
  | .borrow e => eval e
  | .field (.name x) "transport" => if x = .plain "self" then return .transport else stuck
  | .field _ _ => stuck
  | .method (.name x) name arguments => do
    let b ← orStuck ((← get).locals.lookup x.name)
    let vs ← evalAll arguments
    match b with
    | ⟨true, .request r⟩ =>
      let (r, v) ← orStuck (changeRequest? r name vs)
      modify fun s => { s with locals := assign x.name (.request r) s.locals }
      return v
    | b => callMethod runtime b.value name vs
  | .method e name arguments => do
    let v ← eval e
    callMethod runtime v name (← evalAll arguments)
  | .await e => do
    match ← eval e with
    | .pending r => dispatchRequest runtime ⟨true, r⟩
    | _ => stuck
  | .propagate e => do
    match ← eval e with
    | .ok v => return v
    | .err error => throw error
    | _ => stuck

/-- Runs expressions in turn. -/
def evalAll : List Expr → Run (List Value)
  | [] => return []
  | e :: es => do return (← eval e) :: (← evalAll es)

end

/-- Runs a statement without a block. -/
def runSimple : Simple → Run Unit
  | .bind changes x e => do bind x ⟨changes, ← eval runtime e⟩
  | .run e => discard (eval runtime e)

/-- Runs a block in which one more name is bound; what it binds ends with it. -/
def runScope (x : Ident) (v : Value) (block : List Simple) : Run Unit := do
  let outside := (← get).locals.length
  bind x ⟨false, v⟩
  block.forM (runSimple runtime)
  modify fun s => { s with locals := s.locals.drop (s.locals.length - outside) }

/-- Runs a statement. -/
def runStatement : Statement → Run Unit
  | .simple s => runSimple runtime s
  | .ifPresent x e block => do
    match ← eval runtime e with
    | .argument (.value text payload) =>
      runScope runtime x (.argument (.value text payload)) block
    | .argument _ => return
    | _ => stuck

/-- Runs a block to the value it gives. -/
def runBlock (b : Block) : Run Value := do
  b.statements.forM (runStatement runtime)
  eval runtime b.value

/-! ## Calls -/

/-- What a call comes to: what was dispatched, what was sent for it, and the result. -/
structure Call where
  dispatched : List Dispatch
  sent : List Message
  result : Except ClientError (Option Json)

/-- The state in which a body starts: its parameters are bound. -/
def State.entry (params : List (Ident × Argument)) : State :=
  ⟨params.map fun p => (p.1.name, ⟨false, .argument p.2⟩), [], []⟩

/-- What a run comes to at its end. -/
def callOf? : Except ClientError Value × State → Option Call
  | (.ok v, s) => v.result?.map fun result => ⟨s.dispatched, s.sent, result⟩
  | (.error e, s) => some ⟨s.dispatched, s.sent, .error e⟩

/-- What a run from a state comes to. -/
def Run.call? (m : Run Value) (s : State) : Option Call := (m.on s).bind callOf?

/-- **Runs the body of a method** with the arguments of its parameters. -/
def runBody (params : List (Ident × Argument)) (ts : List Token) : Option Call := do
  (runBlock runtime (← readBlock ts)).call? (State.entry params)

/-! ## Runs step by step -/

namespace Run

variable {α β : Type} {m : Run α} {f : α → Run β} {a : α} {e : ClientError} {s s' : State}

theorem on_bind (h : m.on s = some (.ok a, s')) : (m >>= f).on s = (f a).on s' := by
  change (m.on s >>= _) = _
  rw [h]
  rfl

theorem on_bind_error (h : m.on s = some (.error e, s')) :
    (m >>= f).on s = some (.error e, s') := by
  change (m.on s >>= _) = _
  rw [h]
  rfl

theorem call?_bind {f : α → Run Value} (h : m.on s = some (.ok a, s')) :
    (m >>= f).call? s = (f a).call? s' :=
  congrArg (Option.bind · callOf?) (on_bind h)

/-- A run that fails comes to the failure, and to what has been done before. -/
theorem call?_bind_error {f : α → Run Value} (h : m.on s = some (.error e, s')) :
    (m >>= f).call? s = some ⟨s'.dispatched, s'.sent, .error e⟩ :=
  congrArg (Option.bind · callOf?) (on_bind_error h)

theorem call?_of_error {m : Run Value} (h : m.on s = some (.error e, s')) :
    m.call? s = some ⟨s'.dispatched, s'.sent, .error e⟩ := by
  rw [call?, h]
  rfl

theorem call?_of_on {m : Run Value} {v : Value} {result : Except ClientError (Option Json)}
    (h : m.on s = some (.ok v, s')) (hresult : v.result? = some result) :
    m.call? s = some ⟨s'.dispatched, s'.sent, result⟩ := by
  rw [call?, h, Option.bind_some, callOf?, hresult]
  rfl

theorem on_orStuck {o : Option α} (h : o = some a) : (orStuck o).on s = some (.ok a, s) := by
  rw [h]
  rfl

end Run

section
variable {runtime : Runtime} {x : Ident} {b : Binding} {e : Expr} {es : List Expr} {v : Value}
  {vs : List Value} {s s' s'' : State}

/-- A name stands for what it is bound to. -/
theorem eval_name (runtime : Runtime) (h : s.locals.lookup x.name = some b) :
    (eval runtime (.name x)).on s = some (.ok b.value, s) := by
  change ((orStuck (s.locals.lookup x.name)) >>= fun b => pure b.value).on s = _
  rw [Run.on_bind (Run.on_orStuck h)]
  rfl

theorem eval_borrow (runtime : Runtime) (h : s.locals.lookup x.name = some b) :
    (eval runtime (.borrow (.name x))).on s = some (.ok b.value, s) :=
  eval_name runtime h

theorem evalAll_cons (h : (eval runtime e).on s = some (.ok v, s'))
    (hs : (evalAll runtime es).on s' = some (.ok vs, s'')) :
    (evalAll runtime (e :: es)).on s = some (.ok (v :: vs), s'') := by
  change (eval runtime e >>= fun v => evalAll runtime es >>= fun vs => pure (v :: vs)).on s = _
  rw [Run.on_bind h, Run.on_bind hs]
  rfl

theorem evalAll_singleton (h : (eval runtime e).on s = some (.ok v, s')) :
    (evalAll runtime [e]).on s = some (.ok [v], s') :=
  evalAll_cons h rfl

theorem eval_call {function : List String} (hs : (evalAll runtime es).on s = some (.ok vs, s'))
    (h : callFunction? function vs = some v) :
    (eval runtime (.call function es)).on s = some (.ok v, s') := by
  change (evalAll runtime es >>= fun vs => orStuck (callFunction? function vs)).on s = _
  rw [Run.on_bind hs]
  exact Run.on_orStuck h

theorem eval_call_error {function : List String} {error : ClientError}
    (h : (eval runtime e).on s = some (.error error, s')) :
    (eval runtime (.call function (e :: es))).on s = some (.error error, s') := by
  have hs : (evalAll runtime (e :: es)).on s = some (.error error, s') := Run.on_bind_error h
  exact Run.on_bind_error hs

theorem eval_format {format : String} (hs : (evalAll runtime es).on s = some (.ok vs, s'))
    (h : format? format vs = some v) :
    (eval runtime (.expand ["std", "format"] (.text format :: es))).on s = some (.ok v, s') := by
  change (evalAll runtime es >>= fun vs => orStuck (format? format vs)).on s = _
  rw [Run.on_bind hs]
  exact Run.on_orStuck h

/-- **A method that changes a request** leaves another one under its name. -/
theorem eval_change {name : String} {r r' : Request}
    (hx : s.locals.lookup x.name = some ⟨true, .request r⟩)
    (hs : (evalAll runtime es).on s = some (.ok vs, s))
    (h : changeRequest? r name vs = some (r', v)) :
    (eval runtime (.method (.name x) name es)).on s =
      some (.ok v, { s with locals := assign x.name (.request r') s.locals }) := by
  change ((orStuck (s.locals.lookup x.name)) >>= _).on s = _
  rw [Run.on_bind (Run.on_orStuck hx), Run.on_bind hs]
  dsimp only
  rw [Run.on_bind (Run.on_orStuck h)]
  rfl

/-- A method of a value that is no name. -/
theorem eval_method {name : String} (hname : ∀ x, e ≠ .name x)
    (h : (eval runtime e).on s = some (.ok v, s'))
    (hs : (evalAll runtime es).on s' = some (.ok vs, s'')) :
    (eval runtime (.method e name es)).on s = (callMethod runtime v name vs).on s'' := by
  rw [eval, Run.on_bind h, Run.on_bind hs]
  exact hname

/-- A method of a name that stands for something unchanging. -/
theorem eval_method_name (name : String) (h : s.locals.lookup x.name = some ⟨false, v⟩)
    (hs : (evalAll runtime es).on s = some (.ok vs, s')) :
    (eval runtime (.method (.name x) name es)).on s = (callMethod runtime v name vs).on s' := by
  change ((orStuck (s.locals.lookup x.name)) >>= _).on s = _
  rw [Run.on_bind (Run.on_orStuck h), Run.on_bind hs]

theorem eval_propagate_ok (h : (eval runtime e).on s = some (.ok (.ok v), s')) :
    (eval runtime (.propagate e)).on s = some (.ok v, s') :=
  (Run.on_bind h).trans rfl

/-- **A failure that is propagated** ends the run. -/
theorem eval_propagate_err {error : ClientError}
    (h : (eval runtime e).on s = some (.ok (.err error), s')) :
    (eval runtime (.propagate e)).on s = some (.error error, s') :=
  (Run.on_bind h).trans rfl

theorem eval_await {r : Request} (h : (eval runtime e).on s = some (.ok (.pending r), s')) :
    (eval runtime (.await e)).on s = (dispatchRequest runtime ⟨true, r⟩).on s' :=
  Run.on_bind h

theorem runSimple_run (h : (eval runtime e).on s = some (.ok v, s')) :
    (runSimple runtime (.run e)).on s = some (.ok (), s') :=
  Run.on_bind h

theorem runSimple_run_error {error : ClientError}
    (h : (eval runtime e).on s = some (.error error, s')) :
    (runSimple runtime (.run e)).on s = some (.error error, s') :=
  Run.on_bind_error h

theorem runSimple_bind {changes : Bool} (h : (eval runtime e).on s = some (.ok v, s')) :
    (runSimple runtime (.bind changes x e)).on s =
      some (.ok (), { s' with locals := (x.name, ⟨changes, v⟩) :: s'.locals }) :=
  Run.on_bind h

theorem runSimple_bind_error {changes : Bool} {error : ClientError}
    (h : (eval runtime e).on s = some (.error error, s')) :
    (runSimple runtime (.bind changes x e)).on s = some (.error error, s') :=
  Run.on_bind_error h

/-- **A block with one statement** leaves what the statement does to the names outside. -/
theorem runScope_singleton {simple : Simple} {t : State} (h : (runSimple runtime simple).on
      { s with locals := (x.name, ⟨false, v⟩) :: s.locals } =
        some (.ok (), { t with locals := (x.name, b) :: t.locals }))
    (hlength : t.locals.length = s.locals.length) :
    (runScope runtime x v [simple]).on s = some (.ok (), t) := by
  have hblock : ([simple].forM (runSimple runtime)).on
      { s with locals := (x.name, ⟨false, v⟩) :: s.locals } =
        some (.ok (), { t with locals := (x.name, b) :: t.locals }) :=
    Run.on_bind h
  have hone : (t.locals.length + 1) - s.locals.length = 1 := by omega
  change (([simple].forM (runSimple runtime)) >>= fun _ => modify fun s' =>
    { s' with locals := s'.locals.drop (s'.locals.length - s.locals.length) }).on
      { s with locals := (x.name, ⟨false, v⟩) :: s.locals } = _
  rw [Run.on_bind hblock]
  change some (Except.ok (), { t with
    locals := ((x.name, b) :: t.locals).drop ((t.locals.length + 1) - s.locals.length) }) = _
  rw [hone]
  rfl

/-- A request that is dispatched is one more, and so is what is sent for it. -/
theorem dispatchRequest_on (d : Dispatch) : (dispatchRequest runtime d).on s =
    some (.ok (.ofOutcome (runtime.deliver d).outcome),
      { s with
        dispatched := s.dispatched ++ [d]
        sent := s.sent ++ (runtime.deliver d).sent }) :=
  rfl

end

end RestLoom.Code
