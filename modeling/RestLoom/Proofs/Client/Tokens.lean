import RestLoom.Proofs.Client.Contract

/-!
# Proofs/Client/Tokens — which of several tokens calls a method off

    cancelOn a · cancelOn b · cancelOn c  ──▸  a request that c calls off

An endpoint may have any number of tokens, and its method attaches each of them to the request.  But
a request has one token: what is attached later takes the place of what was attached before.  So a
token that fired before the call calls it off exactly if it is the last one
(`callEndpoint_eq_cancelled_iff`), and any other one is lost (`pair_not_cancelled_by_first`).
-/

namespace RestLoom.Client

open RestLoom.Emit
open RestLoom.Service (Endpoint)

/-! ## Calling off -/

/-- An exchange does not call itself off. -/
theorem Transport.outcome_exchange_ne_cancelled (t : Transport) (r : Request) (u : Url)
    (reaction : Reaction) : (t.exchange r u reaction).complete.outcome ≠ .error .cancelled := by
  cases reaction with
  | nobody => rintro ⟨⟩
  | silence => rintro ⟨⟩
  | garbage => rintro ⟨⟩
  | response status body cut =>
    change receive u (.response status body cut) status ≠ _
    rw [receive]
    split
    · split <;> rintro ⟨⟩
    · split <;> rintro ⟨⟩

section
variable {e : Endpoint} {t : Transport} {r : Request} {signals : CancelToken → Signal}
  {reaction : Reaction} {u : Url}

/-- By whichever convention: a request whose token is up before the call is not sent. -/
theorem dispatch_of_up (hu : r.url t.base = .ok u) {token : CancelToken}
    (htoken : r.cancel = some token) (hup : (signals token).isUp 0 = true) :
    dispatch e t r signals reaction = ⟨[], .error .cancelled⟩ := by
  rw [dispatch]
  split
  · exact Transport.send_of_up hu htoken hup
  · exact Transport.sendBlocking_of_up hu (by rw [htoken]; exact hup)

/-- By whichever convention: a request whose token never fires is not called off. -/
theorem outcome_dispatch_ne_cancelled (hu : r.url t.base = .ok u)
    (hnever : ∀ token, r.cancel = some token → signals token = .never) :
    (dispatch e t r signals reaction).outcome ≠ .error .cancelled := by
  rw [dispatch]
  split
  · rw [Transport.send_of_never hu hnever]
    exact Transport.outcome_exchange_ne_cancelled t r u reaction
  · have hdown : (r.cancel.any fun token => (signals token).isUp 0) = false := by
      cases htoken : r.cancel with
      | none => rfl
      | some token => exact congrArg (Signal.isUp · 0) (hnever token htoken)
    cases hclient : HttpClient.build t.config with
    | error f =>
      obtain ⟨-, rfl⟩ := HttpClient.build_eq_error.mp hclient
      rw [Transport.sendBlocking_of_not_built hu hdown hclient]
      rintro ⟨⟩
    | ok client =>
      obtain ⟨-, rfl⟩ := HttpClient.build_eq_ok.mp hclient
      rw [Transport.sendBlocking_of_not_up hu hdown hclient]
      exact Transport.outcome_exchange_ne_cancelled t r u reaction

/-- Reading an answer does not call a call off. -/
theorem declaredResult_eq_cancelled_iff {s : Json.Schema} {o : Except ClientError Response} :
    declaredResult e s o = .error .cancelled ↔ o = .error .cancelled := by
  cases o with
  | error error => simp [declaredResult]
  | ok response =>
    refine iff_of_false ?_ (by rintro ⟨⟩)
    rw [declaredResult, Response.json]
    split
    · rintro ⟨⟩
    · cases Json.readAs s response.body <;> rintro ⟨⟩

end

/-! ## Calls -/

section
variable {e : Endpoint} {s : Json.Schema} {c : ServiceClient} {args : Arguments}
  {signals : CancelToken → Signal} {reaction : Reaction} {r : Request}

/-- **A request has the last token** that its endpoint was given. -/
theorem cancel_of_buildRequest (h : buildRequest (Program.ofEndpoint e) args = .ok r) :
    r.cancel = (tokensFor args (e.withRole .token)).getLast? := by
  rw [buildRequest_ofEndpoint] at h
  split at h
  next => cases h
  next =>
    cases h
    rfl

/-- A call whose request can be built sends it by the convention of its endpoint. -/
theorem callEndpoint_of_buildRequest (h : buildRequest (Program.ofEndpoint e) args = .ok r) :
    callEndpoint e s c args signals reaction =
      ⟨(dispatch e c.transport r signals reaction).sent,
        declaredResult e s (dispatch e c.transport r signals reaction).outcome⟩ := by
  rw [callEndpoint, runProgram, h]
  dsimp only
  rw [readAnswer_ofEndpoint]
  rfl

/-- **The last token calls off, and no other.**  Where the body can be written and the address is a
URL, and each token fired before the call or never does, a call of either convention is cancelled
and sends nothing if and only if the last token that it was given has fired. -/
theorem callEndpoint_eq_cancelled_iff {u : Url}
    (hbuild : buildRequest (Program.ofEndpoint e) args = .ok r)
    (hu : r.url c.transport.base = .ok u)
    (hsignals : ∀ token, signals token = .never ∨ signals token = .raised) :
    callEndpoint e s c args signals reaction = ⟨[], .error .cancelled⟩ ↔
      ∃ token, (tokensFor args (e.withRole .token)).getLast? = some token ∧
        signals token = .raised := by
  rw [callEndpoint_of_buildRequest hbuild, ← cancel_of_buildRequest hbuild]
  constructor
  · intro hcancelled
    by_contra hnone
    have hnever (token : CancelToken) (htoken : r.cancel = some token) :
        signals token = .never :=
      (hsignals token).resolve_right fun hraised => hnone ⟨token, htoken, hraised⟩
    have houtcome := declaredResult_eq_cancelled_iff.mp (congrArg Answer.result hcancelled)
    exact outcome_dispatch_ne_cancelled hu hnever houtcome
  · rintro ⟨token, htoken, hraised⟩
    rw [dispatch_of_up hu htoken (by rw [hraised, Signal.raised_isUp])]
    rfl

end

/-! ## A service with two tokens -/

/-- The trait that reads all notes, and is given two tokens. -/
def pairTrait : Source.TraitDecl :=
  { noteTrait with
    items := [.method
      { attributes := [⟨false, notePath "get" none, .list .paren [.literal "\x22/notes\x22"]⟩]
        signature :=
          { isConst := false
            isAsync := true
            isUnsafe := false
            abi := none
            name := .plain "notes"
            generics := none
            inputs := [.receiver ⟨[], some none, false, none⟩,
              noteParam [] "first" (notePath "CancellationToken" none),
              noteParam [] "second" (notePath "CancellationToken" none)]
            trailingComma := false
            variadic := none
            output := some (.phrase .pathType
              [notePath "Result" (some (.phrase .pathType [notePath "String" none]))])
            whereClause := none }
        body := none }] }

/-- The two tokens. -/
def pairArguments : Arguments :=
  [(.plain "first", .token ⟨0⟩), (.plain "second", .token ⟨1⟩)]

/-- The request of a call with both tokens. -/
def pairRequest : Request := (Request.new .get "/notes").cancelOn ⟨1⟩

/-- The signals of which one token's is up before the call. -/
def onlyFired (fired token : CancelToken) : Signal := if token = fired then .raised else .never

theorem onlyFired_cases (fired token : CancelToken) :
    onlyFired fired token = .never ∨ onlyFired fired token = .raised := by
  rw [onlyFired]
  split
  · exact .inr rfl
  · exact .inl rfl

theorem exists_pairUrl : ∃ u, pairRequest.url noteClient.transport.base = .ok u :=
  Outcome.exists_iff_isSome.mpr (by decide +kernel)

/-- The one method of the trait, which is accepted and given both tokens. -/
theorem exists_pairEndpoint : ∃ service e, Service.extract pairTrait none = .ok service ∧
    e ∈ service.endpoints ∧ tokensFor pairArguments (e.withRole .token) = [⟨0⟩, ⟨1⟩] ∧
    buildRequest (Program.ofEndpoint e) pairArguments = .ok pairRequest := by
  obtain ⟨e, he⟩ : ∃ e, (Service.documentedService pairTrait none).endpoints = [e] := ⟨_, rfl⟩
  refine ⟨Service.documentedService pairTrait none, e, rfl, by simp [he], ?_, ?_⟩
  · cases he
    rfl
  · cases he
    rfl

/-- The second token is the last, and calls off. -/
theorem pair_cancelled_by_second : ∃ service e u, Service.extract pairTrait none = .ok service ∧
    e ∈ service.endpoints ∧ buildRequest (Program.ofEndpoint e) pairArguments = .ok pairRequest ∧
    pairRequest.url noteClient.transport.base = .ok u ∧
    callEndpoint e .any noteClient pairArguments (onlyFired ⟨1⟩) .nobody =
      ⟨[], .error .cancelled⟩ := by
  obtain ⟨service, e, hextract, hmem, htokens, hbuild⟩ := exists_pairEndpoint
  obtain ⟨u, hu⟩ := exists_pairUrl
  refine ⟨service, e, u, hextract, hmem, hbuild, hu,
    (callEndpoint_eq_cancelled_iff hbuild hu (onlyFired_cases ⟨1⟩)).mpr ⟨⟨1⟩, ?_, rfl⟩⟩
  rw [htokens]
  rfl

/-- **The first token is lost**: it has fired before the call, and the request is sent all the
same. -/
theorem pair_not_cancelled_by_first :
    ∃ service e u, Service.extract pairTrait none = .ok service ∧ e ∈ service.endpoints ∧
      ⟨0⟩ ∈ tokensFor pairArguments (e.withRole .token) ∧ onlyFired ⟨0⟩ ⟨0⟩ = .raised ∧
      buildRequest (Program.ofEndpoint e) pairArguments = .ok pairRequest ∧
      pairRequest.url noteClient.transport.base = .ok u ∧
      (callEndpoint e .any noteClient pairArguments (onlyFired ⟨0⟩)
        (.response 200 [110, 117, 108, 108] false)).sent =
          [noteClient.transport.wire pairRequest u] := by
  obtain ⟨service, e, hextract, hmem, htokens, hbuild⟩ := exists_pairEndpoint
  obtain ⟨u, hu⟩ := exists_pairUrl
  refine ⟨service, e, u, hextract, hmem, by simp [htokens], rfl, hbuild, hu, ?_⟩
  have hnever (token : CancelToken) (htoken : pairRequest.cancel = some token) :
      onlyFired ⟨0⟩ token = .never := by
    cases htoken
    rfl
  rw [callEndpoint_of_buildRequest hbuild, dispatch]
  split
  · rw [Transport.send_of_never hu hnever]
    rfl
  · rw [Transport.sendBlocking_of_not_up hu rfl rfl]
    rfl

end RestLoom.Client
