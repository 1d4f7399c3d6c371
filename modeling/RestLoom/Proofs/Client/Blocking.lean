import RestLoom.Client.Transport
import RestLoom.Proofs.Outcome

/-!
# Proofs/Client/Blocking — who blocks is told the same as who waits

    send           URL · token, step, token, step, …
    sendBlocking   URL · token · HTTP client · everything in one go

The two ways of sending share the URL and nothing else: each reads the status and the body for
itself, and blocking sets up an HTTP client of its own.  A transport has a configuration with which
an HTTP client can be set up (`new_eq_ok`), and then one go comes to what the steps come to
(`sendBlocking_of_not_up`).  With a signal that is up from the start or never, nothing else is left
that could tell them apart (`sending_agrees`).
-/

namespace RestLoom.Client

/-! ## HTTP clients -/

/-- An HTTP client has the settings that it was set up with. -/
theorem HttpClient.build_eq_ok {config : Config} {client : HttpClient} :
    build config = .ok client ↔ config.isUsable = true ∧ client = ⟨config⟩ := by
  rw [build]
  split
  next h => simp [h, eq_comm]
  next h => simp [h]

/-- Why an HTTP client cannot be set up. -/
theorem HttpClient.build_eq_error {config : Config} {e : ClientError} :
    build config = .error e ↔ config.isUsable = false ∧ e = .request .notBuilt := by
  rw [build]
  split
  next h => simp [h]
  next h => simp [h, eq_comm]

namespace Transport

/-- **A transport** keeps its base address and a configuration that can be used. -/
theorem new_eq_ok {base : Url} {config : Config} {t : Transport} :
    Transport.new base config = .ok t ↔ config.isUsable = true ∧ t = ⟨base, config⟩ := by
  rw [Transport.new, Outcome.bind_eq_ok]
  constructor
  · rintro ⟨client, hclient, ht⟩
    obtain ⟨husable, rfl⟩ := HttpClient.build_eq_ok.mp hclient
    exact ⟨husable, Outcome.pure_eq_ok.mp ht⟩
  · rintro ⟨husable, rfl⟩
    exact ⟨⟨config⟩, HttpClient.build_eq_ok.mpr ⟨husable, rfl⟩, rfl⟩

theorem new_eq_error {base : Url} {config : Config} {e : ClientError} :
    Transport.new base config = .error e ↔ config.isUsable = false ∧ e = .request .notBuilt := by
  rw [← HttpClient.build_eq_error, Transport.new]
  cases HttpClient.build config with
  | error f => simp [bind, Except.bind]
  | ok client => exact iff_of_false nofun nofun

/-! ## The address -/

/-- **The only fault of an address** is that it is no URL. -/
theorem exists_invalidUrl {r : Request} {base : Url} {e : ClientError} (h : r.url base = .error e) :
    ∃ text, e = .invalidUrl text := by
  cases hparse : Url.parse (Request.joined base r.path.toList) with
  | error fault =>
    rw [Request.url, hparse] at h
    exact ⟨_, (Except.error.inj h).symm⟩
  | ok u =>
    rw [Request.url, hparse] at h
    cases h

section
variable {t : Transport} {r : Request} {signals : CancelToken → Signal} {reaction : Reaction}

theorem send_of_invalid {e : ClientError} (h : r.url t.base = .error e) :
    t.send r signals reaction = ⟨[], .error e⟩ := by
  rw [send, h]

theorem sendBlocking_of_invalid {e : ClientError} (h : r.url t.base = .error e) :
    t.sendBlocking r signals reaction = ⟨[], .error e⟩ := by
  rw [sendBlocking, h]

/-! ## One go and many steps -/

variable {u : Url} (hu : r.url t.base = .ok u)
include hu

/-- Who blocks and has no HTTP client sends nothing. -/
theorem sendBlocking_of_not_built (h : (r.cancel.any fun token => (signals token).isUp 0) = false)
    {e : ClientError} (hclient : HttpClient.build t.config = .error e) :
    t.sendBlocking r signals reaction = ⟨[], .error e⟩ := by
  rw [sendBlocking, hu]
  dsimp only
  rw [h, if_neg Bool.false_ne_true, hclient]

/-- Whose token is up before the call sends nothing. -/
theorem sendBlocking_of_up (h : (r.cancel.any fun token => (signals token).isUp 0) = true) :
    t.sendBlocking r signals reaction = ⟨[], .error .cancelled⟩ := by
  rw [sendBlocking, hu]
  exact if_pos h

/-- **One go comes to what the steps of an exchange come to**, by what the server does. -/
theorem sendBlocking_of_not_up (h : (r.cancel.any fun token => (signals token).isUp 0) = false)
    (hclient : HttpClient.build t.config = .ok t.client) :
    t.sendBlocking r signals reaction = (t.exchange r u reaction).complete := by
  rw [sendBlocking, hu]
  dsimp only
  rw [h, if_neg Bool.false_ne_true, hclient]
  cases reaction with
  | nobody => rfl
  | silence => rfl
  | garbage => rfl
  | response status body cut =>
    -- the two readings of an answer ask for the status in opposite order
    simp only [execute, exchange, Reaction.head, Exchange.complete, receive]
    cases Http.isSuccess status with
    | true => cases cut <;> rfl
    | false => cases cut <;> rfl

/-- **Waiting with a signal that is never raised**, or without one. -/
theorem send_of_never (h : ∀ token, r.cancel = some token → signals token = .never) :
    t.send r signals reaction = (t.exchange r u reaction).complete := by
  rw [send, hu]
  dsimp only
  split
  next token htoken => rw [h token htoken, Exchange.completeUnless_never]
  next => rfl

/-- Waiting with a signal that is up at the first look. -/
theorem send_of_up {token : CancelToken} (htoken : r.cancel = some token)
    (h : (signals token).isUp 0 = true) :
    t.send r signals reaction = ⟨[], .error .cancelled⟩ := by
  rw [send, hu]
  dsimp only
  rw [htoken]
  exact if_pos h

end

/-! ## Agreement -/

/-- How far the two ways of sending are in step. -/
structure InStep (t : Transport) (r : Request) (signals : CancelToken → Signal)
    (reaction : Reaction) : Prop where
  /-- The same is on the wire, and the outcome is the same. -/
  same : t.send r signals reaction = t.sendBlocking r signals reaction
  /-- An address that is no URL is the error, whatever the token says. -/
  invalid : ∀ e, r.url t.base = .error e → (∃ text, e = .invalidUrl text) ∧
    t.send r signals reaction = ⟨[], .error e⟩ ∧
    t.sendBlocking r signals reaction = ⟨[], .error e⟩
  /-- A token that fired before the call keeps everything off the wire. -/
  cancelled : ∀ u token, r.url t.base = .ok u → r.cancel = some token → signals token = .raised →
    t.send r signals reaction = ⟨[], .error .cancelled⟩ ∧
    t.sendBlocking r signals reaction = ⟨[], .error .cancelled⟩

/-- **Blocking agrees with waiting**, for every transport that can be set up, every request and
whatever the server does, as long as the token fired before the call or never does.  The headers of
an answer decide nothing, since the text of a body is read in the same way whatever they say. -/
theorem sending_agrees {base : Url} {config : Config} {t : Transport}
    (ht : Transport.new base config = .ok t) (r : Request) {signals : CancelToken → Signal}
    (hsignals : ∀ token, r.cancel = some token →
      signals token = .never ∨ signals token = .raised)
    (reaction : Reaction) : t.InStep r signals reaction := by
  have hclient : HttpClient.build t.config = .ok t.client := by
    obtain ⟨husable, rfl⟩ := new_eq_ok.mp ht
    exact HttpClient.build_eq_ok.mpr ⟨husable, rfl⟩
  have hup {token : CancelToken} (htoken : r.cancel = some token)
      (hraised : signals token = .raised) :
      (signals token).isUp 0 = true ∧
        (r.cancel.any fun token => (signals token).isUp 0) = true := by
    rw [htoken, Option.any_some, and_self, hraised, Signal.raised_isUp]
  have hcancelled {u : Url} {token : CancelToken} (hu : r.url t.base = .ok u)
      (htoken : r.cancel = some token) (hraised : signals token = .raised) :
      t.send r signals reaction = ⟨[], .error .cancelled⟩ ∧
        t.sendBlocking r signals reaction = ⟨[], .error .cancelled⟩ :=
    ⟨send_of_up hu htoken (hup htoken hraised).1, sendBlocking_of_up hu (hup htoken hraised).2⟩
  refine ⟨?_, fun e he => ⟨exists_invalidUrl he, send_of_invalid he, sendBlocking_of_invalid he⟩,
    fun u token => hcancelled⟩
  cases hu : r.url t.base with
  | error e => rw [send_of_invalid hu, sendBlocking_of_invalid hu]
  | ok u =>
    by_cases hfired : ∃ token, r.cancel = some token ∧ signals token = .raised
    · obtain ⟨token, htoken, hraised⟩ := hfired
      obtain ⟨hsend, hblocking⟩ := hcancelled hu htoken hraised
      rw [hsend, hblocking]
    · have hnever (token : CancelToken) (htoken : r.cancel = some token) :
          signals token = .never :=
        (hsignals token htoken).resolve_right fun hraised => hfired ⟨token, htoken, hraised⟩
      rw [send_of_never hu hnever, sendBlocking_of_not_up hu _ hclient]
      cases htoken : r.cancel with
      | none => rfl
      | some token => exact congrArg (Signal.isUp · 0) (hnever token htoken)

/-- The address of a service of notes. -/
def noteBase : Url :=
  ⟨"http".toList, some ⟨[], none, .domain "host".toList, none⟩, .segments [[]], none, none⟩

/-- A request with a token that never fires, and an answer whose body is cut short. -/
theorem notes_sending_agrees :
    Transport.new noteBase .default = .ok ⟨noteBase, .default⟩ ∧
      InStep ⟨noteBase, .default⟩ ((Request.new .get "/notes").cancelOn ⟨0⟩) (fun _ => .never)
        (.response 404 [110] true) :=
  have ht := new_eq_ok.mpr ⟨rfl, rfl⟩
  ⟨ht, sending_agrees ht _ (fun _ _ => .inl rfl) _⟩

end Transport

end RestLoom.Client
