import Mathlib.Data.List.Nodup
import RestLoom.Client.Call
import RestLoom.Proofs.Client.Blocking
import RestLoom.Proofs.Path.Format
import RestLoom.Proofs.Service.Accepted

/-!
# Proofs/Client/Contract — the request of a program is the one that its endpoint declares

    endpoint ──ofEndpoint──▸ program ──buildRequest──▸ request ──dispatch──▸ message

The contract is stated on the parameters of the endpoint: each one's role says where its argument
goes.  The program is a path and a list of steps; `foldlM_queryStep` runs those of the query, and
the steps of the body and of the token are one at most because the endpoint was accepted.
-/

namespace RestLoom.Client

open RestLoom.Emit
open RestLoom.Service (Endpoint Parameter Role)
open RestLoom.Source (TraitDecl)

/-! ## The contract -/

/-- The encoded value for a place: that of the parameter of its name. -/
def placeValue? (e : Endpoint) (args : Arguments) (place : List Char) : Option (List Char) :=
  (e.params.find? fun p => p.name.text.toList == place).map fun p =>
    (Request.encodePathValue (argumentOf args p.name).text).toList

/-- The pair that a parameter adds to the query; an optional one only adds a value. -/
def queryPair? (args : Arguments) (p : Parameter) : Option (String × String) :=
  if p.role = .query then
    match p.optional, argumentOf args p.name with
    | true, .value text _ => some (p.name.text, text)
    | true, _ => none
    | false, argument => some (p.name.text, argument.text)
  else none

/-- **The request that an endpoint declares** for the arguments of a call. -/
structure IsDeclaredRequest (e : Endpoint) (args : Arguments) (r : Request) : Prop where
  verb : r.verb = e.verb
  /-- Each place is filled with the value of the parameter of its name. -/
  path : r.path = String.ofList (e.path.fill (placeValue? e args))
  places : ∀ place ∈ e.path.placeholders, (placeValue? e args place).isSome
  query : r.query = e.params.filterMap (queryPair? args)
  body : ∀ text, r.body = some text ↔
    ∃ p ∈ e.params, p.role = .body ∧ (argumentOf args p.name).payload.write = .ok text
  cancel : ∀ token, r.cancel = some token ↔
    ∃ p ∈ e.params, p.role = .token ∧ argumentOf args p.name = .token token

/-- The convention by which an endpoint's requests are sent. -/
def dispatch (e : Endpoint) (t : Transport) (r : Request) (signals : CancelToken → Signal)
    (reaction : Reaction) : Sending :=
  if e.isAsync then t.send r signals reaction else t.sendBlocking r signals reaction

/-- What the outcome of sending means to the caller: a failure stays one, and a response is read
when the endpoint has a value. -/
def declaredResult (e : Endpoint) (s : Json.Schema) :
    Except ClientError Response → Except ClientError (Option Json)
  | .error error => .error error
  | .ok response => if e.value = none then .ok none else (response.json s).map some

/-! ## Sending -/

namespace Exchange

/-- The messages that an exchange may put on the wire. -/
def messages : Exchange (Except ClientError Response) → List Message
  | finished _ => []
  | step sent next => sent.toList ++ messages next

theorem sent_complete (x : Exchange (Except ClientError Response)) :
    x.complete.sent = x.messages := by
  induction x with
  | finished a => rfl
  | step sent next ih =>
    rw [complete, messages, ← ih]

/-- **Looking at a signal** only cuts an exchange short. -/
theorem sent_completeUnless_isPrefix (signal : Signal) (look : Nat)
    (x : Exchange (Except ClientError Response)) :
    (x.completeUnless signal look).sent <+: x.messages := by
  induction x generalizing look with
  | finished a =>
    rw [completeUnless]
    split <;> exact List.prefix_rfl
  | step sent next ih =>
    rw [completeUnless, messages]
    split
    · exact List.nil_prefix
    · exact List.prefix_append_right_inj sent.toList |>.mpr (ih (look + 1))

end Exchange

namespace Transport

variable (t : Transport) (r : Request) (reaction : Reaction)

theorem messages_exchange_isPrefix (u : Url) :
    (t.exchange r u reaction).messages <+: [t.wire r u] := by
  cases reaction with
  | nobody => exact List.nil_prefix
  | silence => exact List.prefix_rfl
  | garbage => exact List.prefix_rfl
  | response status body cut => exact List.prefix_rfl

theorem sent_sendBlocking_isPrefix (signals : CancelToken → Signal) {u : Url}
    (hu : r.url t.base = .ok u) :
    (t.sendBlocking r signals reaction).sent <+: [t.wire r u] := by
  cases hup : r.cancel.any fun token => (signals token).isUp 0 with
  | true =>
    rw [sendBlocking_of_up hu hup]
    exact List.nil_prefix
  | false =>
    cases hclient : HttpClient.build t.config with
    | error e =>
      rw [sendBlocking_of_not_built hu hup hclient]
      exact List.nil_prefix
    | ok client =>
      obtain ⟨-, rfl⟩ := HttpClient.build_eq_ok.mp hclient
      rw [sendBlocking_of_not_up hu hup hclient, Exchange.sent_complete]
      exact messages_exchange_isPrefix t r reaction u

/-- **What is sent is the message of the request**, or nothing. -/
theorem exists_sent_isPrefix (e : Endpoint) (signals : CancelToken → Signal) :
    (dispatch e t r signals reaction).sent = [] ∨ ∃ u, r.url t.base = .ok u ∧
      (dispatch e t r signals reaction).sent <+: [t.wire r u] := by
  rw [dispatch]
  cases hu : r.url t.base with
  | error error => exact .inl (by rw [send, sendBlocking, hu]; split <;> rfl)
  | ok u =>
    have hexchange := messages_exchange_isPrefix t r reaction u
    refine .inr ⟨u, rfl, ?_⟩
    split
    · rw [send, hu]
      dsimp only
      split
      next token _ =>
        exact (Exchange.sent_completeUnless_isPrefix (signals token) 0 _).trans hexchange
      next => rw [Exchange.sent_complete]; exact hexchange
    · exact sent_sendBlocking_isPrefix t r reaction signals hu

theorem length_sent_le_one (e : Endpoint) (signals : CancelToken → Signal) :
    (dispatch e t r signals reaction).sent.length ≤ 1 := by
  obtain hnil | ⟨u, -, hsent⟩ := exists_sent_isPrefix t r reaction e signals
  · rw [hnil]
    exact Nat.zero_le 1
  · exact hsent.length_le

theorem eq_wire_of_mem_sent {e : Endpoint} {signals : CancelToken → Signal} {m : Message}
    (hm : m ∈ (dispatch e t r signals reaction).sent) :
    ∃ u, r.url t.base = .ok u ∧ m = t.wire r u := by
  obtain hnil | ⟨u, hu, hsent⟩ := exists_sent_isPrefix t r reaction e signals
  · rw [hnil] at hm
    cases hm
  · exact ⟨u, hu, List.mem_singleton.mp (hsent.subset hm)⟩

end Transport

/-! ## The path -/

/-- Filling a format that is well formed and fits its values is reading it. -/
theorem fillFormat_of_readFormat {format out : List Char} {values : List (List Char)}
    (h : Path.readFormat format values = some out) : fillFormat format values = out := by
  fun_induction Path.readFormat format values generalizing out with
  | case1 cs vs ih =>
    obtain ⟨rest, hrest, rfl⟩ := Option.map_eq_some_iff.mp h
    rw [fillFormat, ih hrest]
  | case2 cs vs ih =>
    obtain ⟨rest, hrest, rfl⟩ := Option.map_eq_some_iff.mp h
    rw [fillFormat, ih hrest]
  | case3 cs v vs ih =>
    obtain ⟨rest, hrest, rfl⟩ := Option.map_eq_some_iff.mp h
    rw [fillFormat, ih hrest]
  | case4 => cases h
  | case5 => cases h
  | case6 c cs vs hopens hcloses hplace _ _ ih =>
    obtain ⟨rest, hrest, rfl⟩ := Option.map_eq_some_iff.mp h
    rw [fillFormat, ih hrest]
    · exact hopens
    · exact hcloses
    · exact hplace
  | case7 => exact Option.some.inj h
  | case8 => cases h

/-- **The format of a template**, given the value of each place in turn, fills the template. -/
theorem fillFormat_formatText (t : Path.Template) (value : List Char → List Char) :
    fillFormat t.formatText (t.placeholders.map value) = t.fill fun place => some (value place) :=
  fillFormat_of_readFormat (t.readFormat_formatText value)

section
variable {t : TraitDecl} {baseUrl : Option String} {s : Service} {e : Endpoint}

/-- **Parameters with distinct names** are found by their names. -/
theorem find?_eq_some_of_nodup {params ps : List Parameter}
    (hnames : (params.map fun p => p.name.text).Nodup) (hps : ∀ q ∈ ps, q ∈ params)
    {p : Parameter} (hp : p ∈ ps) :
    (ps.find? fun q => q.name.text.toList == p.name.text.toList) = some p := by
  cases hq : ps.find? fun q => q.name.text.toList == p.name.text.toList with
  | none => exact absurd (beq_iff_eq.mpr rfl) (List.find?_eq_none.mp hq p hp)
  | some q =>
    have hname := List.find?_some
      (p := fun q : Parameter => q.name.text.toList == p.name.text.toList) hq
    have hmem := hps q (List.mem_of_find?_eq_some hq)
    rw [List.inj_on_of_nodup_map hnames hmem (hps p hp)
      (String.toList_inj.mp (beq_iff_eq.mp hname))]

/-- When names are distinct, the parameter of a place is the one of its name. -/
theorem pathParam?_eq_find? (hs : Service.extract t baseUrl = .ok s) (he : e ∈ s.endpoints)
    (hnames : (e.params.map fun p => p.name.text).Nodup) {place : List Char}
    (hplace : place ∈ e.path.placeholders) :
    e.pathParam? place = (e.params.find? fun p => p.name.text.toList == place) ∧
      (e.pathParam? place).isSome := by
  obtain ⟨p, hp, hrole, rfl⟩ := Service.exists_param_of_mem_placeholders hs he hplace
  have hsub : ∀ q ∈ e.withRole .path, q ∈ e.params := fun _ h => List.mem_of_mem_filter h
  have hpath : p ∈ e.withRole .path := List.mem_filter.mpr ⟨hp, decide_eq_true hrole⟩
  rw [find?_eq_some_of_nodup hnames (fun _ h => h) hp, Endpoint.pathParam?,
    find?_eq_some_of_nodup hnames hsub hpath]
  exact ⟨rfl, rfl⟩

/-- **The path of a program** is the template with each place filled. -/
theorem pathOf_pathSource (hs : Service.extract t baseUrl = .ok s) (he : e ∈ s.endpoints)
    (hnames : (e.params.map fun p => p.name.text).Nodup) (args : Arguments) :
    pathOf args (Program.pathSource e) = String.ofList (e.path.fill (placeValue? e args)) := by
  unfold Program.pathSource
  split
  next hnil => rw [pathOf, Path.Template.fill_of_placeholders_eq_nil hnil, Path.Template.toString]
  next =>
    rw [pathOf, String.toList_ofList, List.map_map, fillFormat_formatText]
    refine congrArg String.ofList (Path.Template.fill_congr fun place hplace => ?_)
    obtain ⟨heq, hsome⟩ := pathParam?_eq_find? hs he hnames hplace
    obtain ⟨p, hp⟩ := Option.isSome_iff_exists.mp hsome
    rw [placeValue?, ← heq, hp, Function.comp_apply, hp]
    rfl

end

/-! ## The steps -/

/-- **The steps of the query** add the pair of each parameter in turn. -/
theorem foldlM_queryStep (args : Arguments) {ps : List Parameter} (h : ∀ p ∈ ps, p.role = .query)
    (r : Request) :
    (ps.map Program.queryStep).foldlM (runStep args) r =
      .ok { r with query := r.query ++ ps.filterMap (queryPair? args) } := by
  induction ps generalizing r with
  | nil => rw [List.filterMap_nil, List.append_nil]; rfl
  | cons p ps ih =>
    rw [List.forall_mem_cons] at h
    have hstep : runStep args r (Program.queryStep p) =
        .ok { r with query := r.query ++ (queryPair? args p).toList } := by
      rw [Program.queryStep, queryPair?, if_pos h.1]
      cases p.optional with
      | true =>
        rw [if_pos rfl, runStep]
        cases argumentOf args p.name <;> simp [Request.addQuery]
      | false =>
        rw [if_neg Bool.false_ne_true, runStep]
        cases argumentOf args p.name <;> simp [Request.addQuery]
    rw [List.map_cons, List.foldlM_cons, hstep]
    refine (ih h.2 _).trans ?_
    rw [List.append_assoc]
    cases hpair : queryPair? args p with
    | none => rw [List.filterMap_cons_none hpair]; rfl
    | some pair => rw [List.filterMap_cons_some hpair]; rfl

/-- The text of the body for the parameter that is the body, if there is one. -/
def bodyText (args : Arguments) : Option Parameter → Except JsonError (Option String)
  | none => .ok none
  | some p => (argumentOf args p.name).payload.write.map some

theorem foldlM_bodyStep (args : Arguments) (body : Option Parameter) {r : Request}
    (h : r.body = none) :
    (body.toList.map fun p => Step.json p.name).foldlM (runStep args) r =
      match bodyText args body with
      | .error error => .error (.serialize error)
      | .ok text => .ok { r with body := text } := by
  cases body with
  | none => rw [bodyText, ← h]; rfl
  | some p =>
    change (r.json (argumentOf args p.name).payload >>= fun r => .ok r) = _
    rw [bodyText, Request.json]
    cases (argumentOf args p.name).payload.write with
    | error error => rfl
    | ok text => rfl

/-- The token that an argument is. -/
def Argument.token? : Argument → Option CancelToken
  | .token t => some t
  | _ => none

/-- The tokens that parameters are given, in order. -/
def tokensFor (args : Arguments) (ps : List Parameter) : List CancelToken :=
  ps.filterMap fun p => (argumentOf args p.name).token?

/-- A token that comes first only counts if there is no other. -/
theorem getLast?_tokensFor_cons (args : Arguments) (p : Parameter) (ps : List Parameter)
    (before : Option CancelToken) : (tokensFor args (p :: ps)).getLast?.or before =
      (tokensFor args ps).getLast?.or ((argumentOf args p.name).token?.or before) := by
  rw [tokensFor, List.filterMap_cons, ← tokensFor]
  cases (argumentOf args p.name).token? with
  | none => rfl
  | some token =>
    rw [List.getLast?_cons]
    cases (tokensFor args ps).getLast? <;> rfl

/-- **The steps of the tokens** leave the last token there is. -/
theorem foldlM_tokenStep (args : Arguments) (ps : List Parameter) (r : Request) :
    (ps.map fun p => Step.cancelOn p.name).foldlM (runStep args) r =
      .ok { r with cancel := (tokensFor args ps).getLast?.or r.cancel } := by
  induction ps generalizing r with
  | nil => rfl
  | cons p ps ih =>
    have hstep : runStep args r (.cancelOn p.name) =
        .ok { r with cancel := (argumentOf args p.name).token?.or r.cancel } := by
      rw [runStep]
      cases argumentOf args p.name <;> rfl
    rw [List.map_cons, List.foldlM_cons, hstep, getLast?_tokensFor_cons]
    exact ih _

/-- **What a program builds**: the request in which each role has its part. -/
theorem buildRequest_ofEndpoint (e : Endpoint) (args : Arguments) :
    buildRequest (Program.ofEndpoint e) args =
      match bodyText args e.body? with
      | .error error => .error (.serialize error)
      | .ok body => .ok
        { verb := e.verb
          path := pathOf args (Program.pathSource e)
          query := e.params.filterMap (queryPair? args)
          body := body
          cancel := (tokensFor args (e.withRole .token)).getLast? } := by
  have hrole : ∀ p ∈ e.withRole .query, p.role = .query := fun p hp =>
    of_decide_eq_true (List.mem_filter.mp hp).2
  have hquery : (e.withRole .query).filterMap (queryPair? args) =
      e.params.filterMap (queryPair? args) := by
    rw [Endpoint.withRole, List.filterMap_filter]
    refine List.filterMap_congr fun p _ => ?_
    by_cases h : p.role = .query <;> simp [h, queryPair?]
  change (Program.stepsOf e).foldlM (runStep args)
    (Request.new e.verb (pathOf args (Program.pathSource e))) = _
  rw [Program.stepsOf, List.foldlM_append, List.foldlM_append, foldlM_queryStep args hrole, hquery]
  refine (congrArg (· >>= _) (foldlM_bodyStep args e.body? rfl)).trans ?_
  cases bodyText args e.body? with
  | error error => rfl
  | ok body =>
    refine (foldlM_tokenStep args (e.withRole .token) _).trans ?_
    exact congrArg (fun cancel => Except.ok (Request.mk _ _ _ _ cancel)) (Option.or_none ..)

/-! ## Roles that one parameter has at most -/

/-- The first of a list that has one element at most is any of its elements. -/
theorem head?_eq_some_iff_mem {α : Type} {as : List α} (h : as.length ≤ 1) {a : α} :
    as.head? = some a ↔ a ∈ as := by
  match as with
  | [] => simp
  | [b] => simp [eq_comm (a := b)]
  | _ :: _ :: as => exact absurd h (by simp)

theorem mem_withRole {e : Endpoint} {role : Role} {p : Parameter} :
    p ∈ e.withRole role ↔ p ∈ e.params ∧ p.role = role := by
  rw [Endpoint.withRole, List.mem_filter, decide_eq_true_iff]

section
variable {e : Endpoint} {args : Arguments}

theorem exists_param_iff {role : Role} (h : (e.withRole role).length ≤ 1)
    {P : Parameter → Prop} :
    (∃ p ∈ e.params, p.role = role ∧ P p) ↔ ∃ p, (e.withRole role).head? = some p ∧ P p := by
  simp only [head?_eq_some_iff_mem h, mem_withRole, and_assoc]

theorem bodyText_eq_error_iff (hbody : (e.withRole .body).length ≤ 1) {error : JsonError} :
    bodyText args e.body? = .error error ↔
      ∃ p ∈ e.params, p.role = .body ∧ (argumentOf args p.name).payload.write = .error error := by
  rw [exists_param_iff hbody, Endpoint.body?]
  cases (e.withRole .body).head? with
  | none => simp [bodyText]
  | some p =>
    cases hwrite : (argumentOf args p.name).payload.write with
    | error er => simp [bodyText, hwrite, Except.map]
    | ok text => simp [bodyText, hwrite, Except.map]

/-- **The body that is written** is that of the parameter in its role. -/
theorem bodyText_eq_ok_some_iff (hbody : (e.withRole .body).length ≤ 1) {body : Option String}
    (h : bodyText args e.body? = .ok body) {text : String} :
    body = some text ↔
      ∃ p ∈ e.params, p.role = .body ∧ (argumentOf args p.name).payload.write = .ok text := by
  rw [exists_param_iff hbody]
  rw [Endpoint.body?] at h
  cases hp : (e.withRole .body).head? with
  | none =>
    rw [hp] at h
    cases h
    simp
  | some p =>
    rw [hp, bodyText] at h
    cases hwrite : (argumentOf args p.name).payload.write with
    | error error =>
      rw [hwrite] at h
      cases h
    | ok written =>
      rw [hwrite] at h
      cases h
      simp [hwrite]

theorem Argument.token?_eq_some {a : Argument} {token : CancelToken} :
    a.token? = some token ↔ a = .token token := by
  cases a with
  | token t => simp [token?]
  | value text payload => simp [token?]
  | absent => simp [token?]

/-- **The token of a request** is that of the parameter in its role. -/
theorem token?_eq_some_iff (htokens : (e.withRole .token).length ≤ 1) {token : CancelToken} :
    (tokensFor args (e.withRole .token)).getLast? = some token ↔
      ∃ p ∈ e.params, p.role = .token ∧ argumentOf args p.name = .token token := by
  have hlength : (tokensFor args (e.withRole .token)).length ≤ 1 :=
    Nat.le_trans (List.length_filterMap_le _ _) htokens
  rw [List.getLast?_eq_head?_reverse, head?_eq_some_iff_mem (by rwa [List.length_reverse]),
    List.mem_reverse, tokensFor, List.mem_filterMap]
  simp only [mem_withRole, Argument.token?_eq_some, and_assoc]

end

/-! ## Calls -/

theorem readAnswer_ofEndpoint (e : Endpoint) (s : Json.Schema)
    (outcome : Except ClientError Response) :
    readAnswer (Program.ofEndpoint e) s outcome = declaredResult e s outcome := by
  cases outcome with
  | error error => rfl
  | ok response =>
    rw [readAnswer, declaredResult]
    change (if e.value.isSome = true then _ else _) = _
    cases e.value with
    | none => rfl
    | some value => rfl

section
variable {t : TraitDecl} {baseUrl : Option String} {service : Service} {e : Endpoint}
  {args : Arguments}

/-- **A request that is built** for an accepted endpoint is the one that it declares. -/
theorem isDeclaredRequest_of_buildRequest (hs : Service.extract t baseUrl = .ok service)
    (he : e ∈ service.endpoints) (hnames : (e.params.map fun p => p.name.text).Nodup)
    (htokens : (e.withRole .token).length ≤ 1) {r : Request}
    (hr : buildRequest (Program.ofEndpoint e) args = .ok r) : IsDeclaredRequest e args r := by
  rw [buildRequest_ofEndpoint] at hr
  cases hwritten : bodyText args e.body? with
  | error error =>
    rw [hwritten] at hr
    cases hr
  | ok body =>
    rw [hwritten] at hr
    cases hr
    exact {
      verb := rfl
      path := pathOf_pathSource hs he hnames args
      places := fun place hplace => by
        obtain ⟨heq, hsome⟩ := pathParam?_eq_find? hs he hnames hplace
        rw [placeValue?, ← heq, Option.isSome_map, hsome]
      query := rfl
      body := fun _ => bodyText_eq_ok_some_iff (Service.length_body_le_one hs he) hwritten
      cancel := fun _ => token?_eq_some_iff htokens }

/-- **A request that cannot be built** has a body that cannot be written. -/
theorem exists_unwritten_of_buildRequest (hs : Service.extract t baseUrl = .ok service)
    (he : e ∈ service.endpoints) {failure : ClientError}
    (hr : buildRequest (Program.ofEndpoint e) args = .error failure) :
    ∃ error, failure = .serialize error ∧
      ∃ p ∈ e.params, p.role = .body ∧ (argumentOf args p.name).payload.write = .error error := by
  rw [buildRequest_ofEndpoint] at hr
  cases hwritten : bodyText args e.body? with
  | error error =>
    rw [hwritten] at hr
    cases hr
    exact ⟨error, rfl, (bodyText_eq_error_iff (Service.length_body_le_one hs he)).mp hwritten⟩
  | ok body =>
    rw [hwritten] at hr
    cases hr

end

/-! ## A service of notes -/

/-- The path of one name, possibly with an argument between angle brackets. -/
def notePath (name : String) (argument : Option Source.Node) : Source.Node :=
  .phrase .path [.phrase .segment (.ident (.plain name) :: match argument with
    | none => []
    | some n => [.phrase .genericArgs [.op "<", n, .op ">"]])]

/-- A parameter of a method of notes. -/
def noteParam (markers : List String) (name : String) (type : Source.Node) : Source.Input :=
  .param
    { attributes := markers.map fun m => ⟨false, notePath m none, .absent⟩
      pattern := .phrase .identPat [.ident (.plain name)]
      type := .phrase .pathType [type] }

/-- The trait that reads one note, told by its number, in a language. -/
def noteTrait : TraitDecl :=
  { attributes := []
    visibility := .everyone
    isUnsafe := false
    isAuto := false
    name := .plain "Notes"
    generics := none
    supertraits := []
    trailingPlus := false
    whereClause := none
    items := [.method
      { attributes := [⟨false, notePath "put" none,
          .list .paren [.literal "\x22/notes/\x7bid\x7d/\x7bid\x7d\x22"]⟩]
        signature :=
          { isConst := false
            isAsync := true
            isUnsafe := false
            abi := none
            name := .plain "note"
            generics := none
            inputs := [.receiver ⟨[], some none, false, none⟩,
              noteParam [] "text" (notePath "String" none),
              noteParam [] "id" (notePath "u32" none),
              noteParam ["query"] "lang" (notePath "Option" (some (notePath "String" none))),
              noteParam [] "token" (notePath "CancellationToken" none)]
            trailingComma := false
            variadic := none
            output := some (.phrase .pathType
              [notePath "Result" (some (.phrase .pathType [notePath "String" none]))])
            whereClause := none }
        body := none }] }

/-- The one method of the trait, which is accepted with a parameter in each role. -/
theorem exists_noteEndpoint : ∃ service e, Service.extract noteTrait none = .ok service ∧
    e ∈ service.endpoints ∧ e.path = Path.Template.ofString "/notes/\x7bid\x7d/\x7bid\x7d" ∧
    e.params.map (fun p => (p.role, p.name)) =
      [(.body, .plain "text"), (.path, .plain "id"), (.query, .plain "lang"),
        (.token, .plain "token")] := by
  obtain ⟨e, he⟩ : ∃ e, (Service.documentedService noteTrait none).endpoints = [e] := ⟨_, rfl⟩
  refine ⟨Service.documentedService noteTrait none, e, rfl, by simp [he], ?_, ?_⟩
  · cases he
    rfl
  · cases he
    rfl

/-- A client of the trait of notes. -/
def noteClient : ServiceClient :=
  ⟨⟨"Notes"⟩, ⟨⟨"http".toList, some ⟨[], none, .domain "host".toList, none⟩, .segments [[]], none,
    none⟩, .default⟩⟩

end RestLoom.Client
