import RestLoom.Client.Carrier
import RestLoom.Emit.Client
import RestLoom.Proofs.Client.Body

/-!
# Proofs/Client/Method — the code of a client method does what its endpoint declares

    endpoint ──methodTokens──▸ code ──runBody──▸ dispatched request · result

The code of a method is its signature and a body in braces, which is read and run as it stands.  The
parameters of an accepted endpoint keep their names apart from those that a body binds
(`isBound_entry`), so that what is run is the program of the endpoint (`runBody_tokens`), whatever
becomes of the request on its way.
-/

namespace RestLoom.Client

open RestLoom.Token
open RestLoom.Emit
open RestLoom.Code
open RestLoom.Service (Endpoint Parameter)
open RestLoom.Source (TraitDecl)

/-! ## Calls of methods -/

/-- The body of a method: the group in braces that its code ends with. -/
def bodyOf? (ts : List Token) : Option (List Token) :=
  match ts.getLast? with
  | some (.group .brace body) => some body
  | _ => none

/-- The arguments of a call for the parameters of an endpoint, in order. -/
def argumentsFor (e : Endpoint) (args : Arguments) : List (Ident × Argument) :=
  e.params.map fun p => (p.name, argumentOf args p.name)

/-- **What a call of an endpoint may come to**, when a runtime takes care of requests. -/
inductive IsDeclaredCall (e : Endpoint) (runtime : Runtime) (args : Arguments) : Call → Prop where
  /-- The body cannot be written: nothing is dispatched. -/
  | unwritten {p : Parameter} {error : JsonError} (mem : p ∈ e.params) (role : p.role = .body)
      (write : (argumentOf args p.name).payload.write = .error error) :
      IsDeclaredCall e runtime args ⟨[], [], .error (.serialize error)⟩
  /-- The declared request is dispatched once, in the way of the method, and its outcome is the
  result. -/
  | dispatched {r : Request} (request : IsDeclaredRequest e args r) :
      IsDeclaredCall e runtime args
        ⟨[⟨e.isAsync, r⟩], (runtime.deliver ⟨e.isAsync, r⟩).sent,
          declaredResult e runtime.schema (runtime.deliver ⟨e.isAsync, r⟩).outcome⟩

/-- The runtime of a client: its transport sends the requests, either way. -/
def runtimeOf (t : Transport) (s : Json.Schema) (signals : CancelToken → Signal)
    (reaction : Reaction) : Runtime where
  deliver d :=
    if d.isAsync then t.send d.request signals reaction
    else t.sendBlocking d.request signals reaction
  schema := s

/-- **What a client sends for a call**: the message of the declared request, and nothing else unless
an answer sends it elsewhere. -/
structure IsSentOnce (e : Endpoint) (t : Transport) (args : Arguments) (sent : List Message) :
    Prop where
  once : sent.length ≤ 1
  only : ∀ m ∈ sent, ∃ r u, IsDeclaredRequest e args r ∧ r.url t.base = .ok u ∧ m = t.wire r u
  read : ∀ manner reaction location elsewhere, reaction.redirects location = false →
    (sent.flatMap fun m => carry manner m reaction location elsewhere).length ≤ 1

/-! ## Names -/

/-- Parameters with distinct names are looked up by their names. -/
theorem lookup_entry {args : Arguments} {ps : List Parameter}
    (hnames : (ps.map fun p => p.name.name).Nodup) {p : Parameter} (hp : p ∈ ps) :
    (State.entry (ps.map fun p => (p.name, argumentOf args p.name))).locals.lookup p.name.name =
      some ⟨false, .argument (argumentOf args p.name)⟩ := by
  induction ps with
  | nil => cases hp
  | cons q ps ih =>
    obtain ⟨hq, hnames⟩ := List.nodup_cons.mp hnames
    change List.lookup p.name.name ((q.name.name, _) :: (State.entry (ps.map fun p =>
      (p.name, argumentOf args p.name))).locals) = _
    obtain rfl | hp := List.mem_cons.mp hp
    · rw [List.lookup_cons, beq_self_eq_true]
    · have hne : (p.name.name == q.name.name) = false :=
        beq_false_of_ne fun heq => hq (List.mem_map.mpr ⟨p, hp, heq⟩)
      rw [List.lookup_cons, hne]
      exact ih hnames hp

/-- Each step of an endpoint is about one of its parameters. -/
theorem exists_param_of_mem_steps {e : Endpoint} {s : Step}
    (h : s ∈ (Program.ofEndpoint e).steps) : ∃ p ∈ e.params, paramOf s = p.name := by
  change s ∈ Program.stepsOf e at h
  rw [Program.stepsOf, List.mem_append, List.mem_append] at h
  obtain (h | h) | h := h
  · obtain ⟨p, hp, rfl⟩ := List.mem_map.mp h
    refine ⟨p, (mem_withRole.mp hp).1, ?_⟩
    rw [Program.queryStep]
    split <;> rfl
  · obtain ⟨p, hp, rfl⟩ := List.mem_map.mp h
    have hbody := List.mem_of_mem_head? (Option.mem_toList.mp hp)
    exact ⟨p, (mem_withRole.mp hbody).1, rfl⟩
  · obtain ⟨p, hp, rfl⟩ := List.mem_map.mp h
    exact ⟨p, (mem_withRole.mp hp).1, rfl⟩

section
variable {t : TraitDecl} {baseUrl : Option String} {service : Service} {e : Endpoint}
  (hs : Service.extract t baseUrl = .ok service) (he : e ∈ service.endpoints)
  (hnames : (e.params.map fun p => p.name.text).Nodup)
  (hplain : ∀ p ∈ e.params, p.name.raw = false) {args : Arguments}
include hs he hnames hplain

/-- **Each parameter of an accepted endpoint** stands for its argument throughout a body. -/
theorem isBound_entry {p : Parameter} (hp : p ∈ e.params) :
    IsBound args (State.entry (argumentsFor e args)).locals p.name := by
  have htext : ∀ q ∈ e.params, q.name.text = q.name.name := fun q hq => by
    rw [Ident.text, hplain q hq, if_neg Bool.false_ne_true]
  have hstart : ∀ x ∈ bodyNames, "__refit".toList <+: x.toList := by decide
  refine ⟨lookup_entry ?_ hp, fun hmem => ?_⟩
  · rwa [List.map_congr_left htext] at hnames
  · refine Service.not_reserved_of_mem_params hs he hp ?_
    rw [htext p hp]
    exact hstart _ hmem

/-- **The expression of the path** gives the path of the program. -/
theorem eval_pathExpr_entry (runtime : Runtime) :
    (eval runtime (Program.pathExpr (Program.pathSource e))).on
        (State.entry (argumentsFor e args)) =
      some (.ok (.text (pathOf args (Program.pathSource e))),
        State.entry (argumentsFor e args)) := by
  let text (place : List Char) : String :=
    ((e.params.find? fun p => p.name.text.toList == place).map fun p =>
      (argumentOf args p.name).text).getD ""
  have htext : ∀ p ∈ e.params, p.role = .path →
      HasText (State.entry (argumentsFor e args)) p.name (text p.name.text.toList) := by
    refine fun p hp _ => ⟨_, (isBound_entry hs he hnames hplain hp).lookup, ?_⟩
    rw [Value.shown?]
    dsimp only [text]
    rw [find?_eq_some_of_nodup hnames (fun _ h => h) hp]
    rfl
  have hfill : (e.path.fill fun place => some (Request.encodePathValue (text place)).toList) =
      e.path.fill (placeValue? e args) := by
    refine Path.Template.fill_congr fun place hplace => ?_
    obtain ⟨heq, hsome⟩ := pathParam?_eq_find? hs he hnames hplace
    obtain ⟨p, hp⟩ := Option.isSome_iff_exists.mp (heq ▸ hsome)
    dsimp only [text]
    rw [placeValue?, hp]
    rfl
  rw [pathOf_pathSource hs he hnames, (spellsPath_pathExpr hs he).eval_eq htext, hfill]

/-- **The code of a method is run as the program of its endpoint.** -/
theorem runBody_tokens (runtime : Runtime) :
    runBody runtime (argumentsFor e args) (Program.ofEndpoint e).tokens =
      some (programCall runtime (Program.ofEndpoint e) args) := by
  have hsteps : ∀ s ∈ (Program.ofEndpoint e).steps,
      IsBound args (State.entry (argumentsFor e args)).locals (paramOf s) := by
    intro s hs'
    obtain ⟨p, hp, heq⟩ := exists_param_of_mem_steps hs'
    rw [heq]
    exact isBound_entry hs he hnames hplain hp
  rw [runBody, Program.readBlock_tokens, Option.bind_eq_bind, Option.bind_some]
  exact call?_block runtime hsteps (eval_pathExpr_entry hs he hnames hplain runtime)

end

/-! ## Messages -/

theorem length_carry_le_one {reaction : Reaction} {location : Option String}
    (h : reaction.redirects location = false) (manner : Manner) (m : Message)
    (elsewhere : List Receipt) : (carry manner m reaction location elsewhere).length ≤ 1 := by
  rw [carry]
  split
  next => exact Nat.zero_le 1
  next => rw [h]; exact Nat.le_refl 1

/-- **Messages of a declared request** are one at most. -/
theorem isSentOnce_dispatch {e : Endpoint} {args : Arguments} {r : Request}
    (hr : IsDeclaredRequest e args r) (t : Transport) (signals : CancelToken → Signal)
    (reaction : Reaction) : IsSentOnce e t args (dispatch e t r signals reaction).sent := by
  have honce := Transport.length_sent_le_one t r reaction e signals
  refine ⟨honce, fun m hm => ?_, fun manner other location elsewhere hother => ?_⟩
  · obtain ⟨u, hu, rfl⟩ := Transport.eq_wire_of_mem_sent t r reaction hm
    exact ⟨r, u, hr, hu, rfl⟩
  · match hsent : (dispatch e t r signals reaction).sent, honce with
    | [], _ => exact Nat.zero_le 1
    | [m], _ => simpa using length_carry_le_one hother manner m elsewhere

/-! ## Calls -/

/-- **The generated client keeps its contract.**  The code of a method of an accepted endpoint has a
body that is run to its end with any arguments, whatever becomes of the request that it dispatches:
the request is the declared one, it is dispatched once at most and in the way of the method, and its
outcome is the result.  With the transport of a client this is a call of the endpoint, and the
message of the request is all that is sent, unless an answer sends the client elsewhere. -/
theorem methodTokens_isDeclaredCall {t : TraitDecl} {baseUrl : Option String} {service : Service}
    {e : Endpoint} (hs : Service.extract t baseUrl = .ok service) (he : e ∈ service.endpoints)
    (hnames : (e.params.map fun p => p.name.text).Nodup)
    (hplain : ∀ p ∈ e.params, p.name.raw = false)
    (htokens : (e.withRole .token).length ≤ 1) (args : Arguments) :
    ∃ body, bodyOf? (methodTokens e) = some body ∧
      (∀ runtime : Runtime, ∃ call, runBody runtime (argumentsFor e args) body = some call ∧
        IsDeclaredCall e runtime args call) ∧
      ∀ (s : Json.Schema) (c : ServiceClient) (signals : CancelToken → Signal)
        (reaction : Reaction), ∃ call,
          runBody (runtimeOf c.transport s signals reaction) (argumentsFor e args) body =
            some call ∧
          callEndpoint e s c args signals reaction = ⟨call.sent, call.result⟩ ∧
          IsSentOnce e c.transport args call.sent := by
  have hbody : bodyOf? (methodTokens e) = some (Program.ofEndpoint e).tokens := by
    rw [bodyOf?, methodTokens, braces, List.getLast?_concat]
  have hrun (runtime : Runtime) : runBody runtime (argumentsFor e args)
      (Program.ofEndpoint e).tokens = some (programCall runtime (Program.ofEndpoint e) args) :=
    runBody_tokens hs he hnames hplain runtime
  refine ⟨_, hbody, fun runtime => ⟨_, hrun runtime, ?_⟩,
    fun s c signals reaction => ⟨_, hrun _, ?_⟩⟩
  · rw [programCall]
    cases hr : buildRequest (Program.ofEndpoint e) args with
    | error failure =>
      obtain ⟨error, rfl, p, hp, hrole, hwrite⟩ := exists_unwritten_of_buildRequest hs he hr
      exact .unwritten hp hrole hwrite
    | ok r =>
      dsimp only
      rw [readAnswer_ofEndpoint]
      exact .dispatched (isDeclaredRequest_of_buildRequest hs he hnames htokens hr)
  · rw [callEndpoint, runProgram, programCall]
    cases hr : buildRequest (Program.ofEndpoint e) args with
    | error failure =>
      refine ⟨rfl, Nat.zero_le 1, fun m hm => ?_, fun _ _ _ _ _ => Nat.zero_le 1⟩
      cases hm
    | ok r =>
      have hdeclared := isDeclaredRequest_of_buildRequest hs he hnames htokens hr
      exact ⟨rfl, isSentOnce_dispatch hdeclared c.transport signals reaction⟩

/-- The arguments of a call that has everything. -/
def noteArguments : Arguments :=
  [(.plain "text", .value "words" (.value (.string "words"))),
    (.plain "id", .value "a/b" (.value (.string "a/b"))),
    (.plain "lang", .value "en" (.value (.string "en"))),
    (.plain "token", .token ⟨0⟩)]

/-- What becomes of the requests of notes: nobody ends them, and `null` is the answer. -/
def noteRuntime : Runtime :=
  runtimeOf noteClient.transport .any (fun _ => .never) (.response 200 [110, 117, 108, 108] false)

/-- Reading a note is accepted, and running its method comes to what is declared. -/
theorem exists_noteEndpoint_isDeclaredCall :
    ∃ service e body call, Service.extract noteTrait none = .ok service ∧ e ∈ service.endpoints ∧
      (e.params.map fun p => p.name) =
        [.plain "text", .plain "id", .plain "lang", .plain "token"] ∧
      (e.params.map fun p => p.role) = [.body, .path, .query, .token] ∧
      bodyOf? (methodTokens e) = some body ∧
      runBody noteRuntime (argumentsFor e noteArguments) body = some call ∧
      IsDeclaredCall e noteRuntime noteArguments call := by
  obtain ⟨service, e, hextract, hmem, -, hpairs⟩ := exists_noteEndpoint
  have hparams : (e.params.map fun p => p.name) =
      [.plain "text", .plain "id", .plain "lang", .plain "token"] := by
    have hnames := congrArg (List.map Prod.snd) hpairs
    rwa [List.map_map] at hnames
  have hroles : (e.params.map fun p => p.role) = [.body, .path, .query, .token] := by
    have hroles := congrArg (List.map Prod.fst) hpairs
    rwa [List.map_map] at hroles
  have hnames : (e.params.map fun p => p.name.text).Nodup := by
    change (e.params.map (Ident.text ∘ fun p => p.name)).Nodup
    rw [← List.map_map, hparams]
    decide
  have hplain : ∀ p ∈ e.params, p.name.raw = false := by
    have hall : ∀ i ∈ e.params.map fun p => p.name, i.raw = false := by
      rw [hparams]
      decide
    exact fun p hp => hall _ (List.mem_map_of_mem hp)
  have htokens : (e.withRole .token).length ≤ 1 := by
    have hcount : (e.withRole .token).length =
        (e.params.map fun p => p.role).countP (· = .token) := by
      rw [List.countP_map, Endpoint.withRole, List.countP_eq_length_filter]
      rfl
    rw [hcount, hroles]
    decide
  obtain ⟨body, hbody, hrun, -⟩ :=
    methodTokens_isDeclaredCall hextract hmem hnames hplain htokens noteArguments
  obtain ⟨call, hcall, hdeclared⟩ := hrun noteRuntime
  exact ⟨service, e, body, call, hextract, hmem, hparams, hroles, hbody, hcall, hdeclared⟩

end RestLoom.Client
