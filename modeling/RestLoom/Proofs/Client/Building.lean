import RestLoom.Client.Request
import RestLoom.Proofs.Latest

/-!
# Proofs/Client/Building — a request is the sum of its steps

    query "a" "1" · json x · fire t · cancelOn t · json ⊥ · query "b" "2"
        ──▸  pairs a=1, b=2 · body x · token t, which has fired

A request is built by steps, among which tokens may fire at any moment.  Each step adds to one part
of the request and leaves the others alone, so each part is what the steps for it say, whatever
happens between them (`history_isSum`); a body that cannot be written changes nothing.  The URL
takes the path and the pairs only, so the other steps may stand wherever they like
(`steps_independent`).
-/

namespace RestLoom.Client

open RestLoom.Service (Verb)

/-! ## Steps and events -/

/-- How a token is handed to a request: for good, or on loan. -/
inductive Handle where
  | owned (token : CancelToken)
  | borrowed (token : CancelToken)

/-- The token that is handed over. -/
def Handle.token : Handle → CancelToken
  | owned token => token
  | borrowed token => token

/-- A step that builds a request. -/
inductive Building where
  | query (name value : String)
  | json (payload : Payload)
  | cancelOn (handle : Handle)

namespace Building

/-- Takes a step. -/
def take (r : Request) : Building → Except ClientError Request
  | query name value => .ok (r.addQuery name value)
  | json payload => r.json payload
  | cancelOn handle => .ok (r.cancelOn handle.token)

/-- The request after a step, which may fail. -/
def after (r : Request) (s : Building) : Request := Run.attempt (take · s) r

end Building

/-- What may happen while a request is built: a step of it, or that a token fires. -/
inductive Event where
  | step (s : Building)
  | fire (token : CancelToken)

namespace Event

/-- The pair that an event adds to the query. -/
def pair? : Event → Option (String × String)
  | step (.query name value) => some (name, value)
  | _ => none

/-- The body that an event sets. -/
def body? : Event → Option String
  | step (.json payload) => payload.write.toOption
  | _ => none

/-- The token that an event attaches. -/
def attached? : Event → Option CancelToken
  | step (.cancelOn handle) => some handle.token
  | _ => none

/-- The token that fires. -/
def fired? : Event → Option CancelToken
  | fire token => some token
  | _ => none

end Event

/-- A request and the tokens around it. -/
structure Scene where
  request : Request
  tokens : Tokens

namespace Scene

/-- A new request, before any token has fired. -/
def start (verb : Verb) (path : String) : Scene := ⟨Request.new verb path, .none⟩

/-- What an event makes of a scene. -/
def next (c : Scene) : Event → Scene
  | .step s => { c with request := s.after c.request }
  | .fire token => { c with tokens := c.tokens.fire token }

/-- **What becomes of a new request** by events in order. -/
def history (verb : Verb) (path : String) (es : List Event) : Scene :=
  es.foldl next (start verb path)

/-- Whether the token of the request has fired, if it has one. -/
def isCancelled? (c : Scene) : Option Bool := c.request.cancel.map c.tokens.hasFired

/-! ## What an event changes -/

/-- A body that cannot be written leaves the request as it was. -/
theorem after_json_of_error (r : Request) {p : Payload} {e : JsonError} (h : p.write = .error e) :
    (Building.json p).take r = .error (.serialize e) ∧ (Building.json p).after r = r := by
  have htake : (Building.json p).take r = .error (.serialize e) := by
    rw [Building.take, Request.json, h]
  exact ⟨htake, Run.attempt_of_error htake⟩

theorem after_json_of_ok (r : Request) {p : Payload} {text : String} (h : p.write = .ok text) :
    (Building.json p).after r = { r with body := some text } :=
  Run.attempt_of_ok (by rw [Building.take, Request.json, h])

variable (c : Scene) (e : Event)

/-- **One event** adds to each part what it holds for it. -/
structure Adds (c : Scene) (e : Event) (c' : Scene) : Prop where
  verb : c'.request.verb = c.request.verb
  path : c'.request.path = c.request.path
  query : c'.request.query = c.request.query ++ e.pair?.toList
  body : c'.request.body = e.body?.or c.request.body
  cancel : c'.request.cancel = e.attached?.or c.request.cancel
  fired : c'.tokens.fired.reverse = c.tokens.fired.reverse ++ e.fired?.toList

theorem next_adds : c.Adds e (c.next e) := by
  have hnothing : c.request.query = c.request.query ++ [] := (List.append_nil _).symm
  have hsilent : c.tokens.fired.reverse = c.tokens.fired.reverse ++ [] := (List.append_nil _).symm
  cases e with
  | fire token => exact ⟨rfl, rfl, hnothing, rfl, rfl, List.reverse_cons⟩
  | step s =>
    cases s with
    | query name value => exact ⟨rfl, rfl, rfl, rfl, rfl, hsilent⟩
    | cancelOn handle => exact ⟨rfl, rfl, hnothing, rfl, rfl, hsilent⟩
    | json p =>
      cases hp : p.write with
      | error e =>
        have hbody : Event.body? (.step (.json p)) = none := by rw [Event.body?, hp]; rfl
        rw [next, (after_json_of_error c.request hp).2]
        exact ⟨rfl, rfl, hnothing, by rw [hbody]; rfl, rfl, hsilent⟩
      | ok text =>
        have hbody : Event.body? (.step (.json p)) = some text := by rw [Event.body?, hp]; rfl
        rw [next, after_json_of_ok c.request hp]
        exact ⟨rfl, rfl, hnothing, by rw [hbody]; rfl, rfl, hsilent⟩

end Scene

/-! ## The sum -/

/-- The pairs of the query that events add. -/
def pairsOf (es : List Event) : List (String × String) := es.filterMap Event.pair?

/-- **Whether a scene is the sum of events** that befell a new request. -/
structure IsSum (verb : Verb) (path : String) (es : List Event) (c : Scene) : Prop where
  verb_eq : c.request.verb = verb
  path_eq : c.request.path = path
  /-- The pairs are those of the query steps, in order. -/
  query : c.request.query = pairsOf es
  /-- The body is that of the last step whose body could be written. -/
  body : c.request.body = (es.filterMap Event.body?).getLast?
  /-- The token is that of the last step that attached one, in whichever way. -/
  cancel : c.request.cancel = (es.filterMap Event.attached?).getLast?
  /-- It reads as fired exactly if it fired, be it before or after it was attached. -/
  cancelled : c.isCancelled? = some true ↔
    ∃ token, (es.filterMap Event.attached?).getLast? = some token ∧ .fire token ∈ es
  /-- The URL is that of the path and the pairs alone. -/
  url : ∀ base, c.request.url base = ({ Request.new .get path with query := pairsOf es }).url base

section
variable {verb : Verb} {path : String} {es : List Event}

theorem mem_filterMap_fired? {token : CancelToken} :
    token ∈ es.filterMap Event.fired? ↔ .fire token ∈ es := by
  rw [List.mem_filterMap]
  constructor
  · rintro ⟨e, he, hfired⟩
    cases e with
    | fire t =>
      obtain rfl := Option.some.inj hfired
      exact he
    | step s => cases hfired
  · exact fun h => ⟨_, h, rfl⟩

/-- The URL of a request takes its path and its pairs. -/
theorem Request.url_congr {r r' : Request} (hpath : r.path = r'.path) (hquery : r.query = r'.query)
    (base : Url) : r.url base = r'.url base := by
  rw [Request.url, Request.url, hpath, hquery]

/-- A token has fired exactly if that is among the events. -/
theorem hasFired_history {token : CancelToken} :
    (Scene.history verb path es).tokens.hasFired token = true ↔ .fire token ∈ es := by
  have hfired : (Scene.history verb path es).tokens.fired.reverse = es.filterMap Event.fired? :=
    Run.added_foldl (fun c : Scene => c.tokens.fired.reverse)
      (fun c e => (c.next_adds e).fired) _ es
  rw [Tokens.hasFired, List.contains_iff_mem, ← List.mem_reverse, hfired, mem_filterMap_fired?]

/-- **A request is the sum of its steps**, in whichever order they come. -/
theorem history_isSum (verb : Verb) (path : String) (es : List Event) :
    IsSum verb path es (Scene.history verb path es) := by
  have hpath : (Scene.history verb path es).request.path = path :=
    Run.kept_foldl (fun c : Scene => c.request.path) (fun c e => (c.next_adds e).path) _ es
  have hquery : (Scene.history verb path es).request.query = pairsOf es :=
    Run.added_foldl (fun c : Scene => c.request.query)
      (fun c e => (c.next_adds e).query) _ es
  have hbody := Run.latest_foldl (fun c : Scene => c.request.body)
    (fun c e => (c.next_adds e).body) (Scene.start verb path) es
  have hcancel : (Scene.history verb path es).request.cancel =
      (es.filterMap Event.attached?).getLast? :=
    (Run.latest_foldl (fun c : Scene => c.request.cancel)
      (fun c e => (c.next_adds e).cancel) _ es).trans (Option.or_none)
  refine ⟨?_, hpath, hquery, hbody.trans (Option.or_none), hcancel, ?_, ?_⟩
  · exact Run.kept_foldl (fun c : Scene => c.request.verb)
      (fun c e => (c.next_adds e).verb) _ es
  · rw [Scene.isCancelled?, Option.map_eq_some_iff, hcancel]
    simp only [hasFired_history]
  · exact fun base => Request.url_congr hpath hquery base

end

/-- Whether the steps that build a request do not depend on each other. -/
structure StepsIndependent (verb : Verb) (path : String) (es : List Event) : Prop where
  /-- The request is the sum of its steps. -/
  sum : IsSum verb path es (Scene.history verb path es)
  /-- A body that cannot be written is reported and leaves the whole request as it was. -/
  unwritten : ∀ r p e, p.write = .error e →
    (Building.json p).take r = .error (.serialize e) ∧ (Building.json p).after r = r
  /-- A token on loan is as good as one that is given away. -/
  handle : ∀ r token, (Building.cancelOn (.borrowed token)).after r =
    (Building.cancelOn (.owned token)).after r
  /-- Steps that add no pair may stand anywhere: the URL is the same. -/
  moved : ∀ verb' es', pairsOf es' = pairsOf es → ∀ base,
    (Scene.history verb' path es').request.url base = (Scene.history verb path es).request.url base

/-- **The steps that build a request are independent**, for every verb and path and all steps,
including those that fail, whatever tokens fire among them. -/
theorem steps_independent (verb : Verb) (path : String) (es : List Event) :
    StepsIndependent verb path es where
  sum := history_isSum verb path es
  unwritten r _ _ h := Scene.after_json_of_error r h
  handle _ _ := rfl
  moved verb' es' hpairs base := by
    rw [(history_isSum verb path es).url, (history_isSum verb' path es').url, hpairs]

example : (Scene.history .get "/a" [.fire ⟨1⟩, .step (.cancelOn (.owned ⟨1⟩)),
    .step (.cancelOn (.borrowed ⟨2⟩))]).isCancelled? = some false := rfl

end RestLoom.Client
