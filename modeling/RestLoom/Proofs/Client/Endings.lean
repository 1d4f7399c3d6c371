import RestLoom.Proofs.Client.Blocking

/-!
# Proofs/Client/Endings — how a call that is not called off ends

    2xx, read to its end ─▸ response      any other status ─▸ failure of the remote call
    2xx, cut short · nobody · silence · garbage ─▸ failure of the request

What the server does decides how a call ends, whichever way it is sent (`ends_outcome`), and each
kind of outcome goes with reactions of its own, so that callers can tell from it what happened on
the wire (`Ends.isClassified`).

Worth trying again are breakdowns that may pass, a status of 429, and every status from 500 on.  So
the advice is the documented one, which means the statuses from 500 to 599, except for the statuses
after these (`outcome_classified`).
-/

namespace RestLoom.Client

open RestLoom.Http

/-! ## Statuses -/

/-- The statuses that say that a request succeeded. -/
def IsSuccessStatus (status : Nat) : Prop := 200 ≤ status ∧ status ≤ 299

theorem isSuccess_iff {status : Nat} : isSuccess status = true ↔ IsSuccessStatus status := by
  rw [isSuccess, Bool.and_eq_true, decide_eq_true_iff, decide_eq_true_iff, Nat.lt_succ_iff,
    IsSuccessStatus]

/-- What is told of an answer that is a failure: its text, or what its status is called if the body
cannot be read. -/
def failureText (status : Nat) (body : List UInt8) (cut : Bool) : String :=
  if cut then describeStatus status else String.ofList (Text.decodeLossy body)

/-! ## Endings -/

/-- **How a call ends** that asks for a URL, by what the server does. -/
inductive Ends (u : Url) : Reaction → Except ClientError Response → Prop
  | nobody : Ends u .nobody (.error (.request (.connection u.toString)))
  | silence : Ends u .silence (.error (.request (.timeout u.toString)))
  | garbage : Ends u .garbage (.error (.request (.protocol u.toString)))
  | success {status : Nat} {body : List UInt8} (h : IsSuccessStatus status) :
    Ends u (.response status body false) (.ok ⟨status, u.toString, body⟩)
  | cutShort {status : Nat} {body : List UInt8} (h : IsSuccessStatus status) :
    Ends u (.response status body true) (.error (.request .truncated))
  | failure {status : Nat} {body : List UInt8} {cut : Bool} (h : ¬IsSuccessStatus status) :
    Ends u (.response status body cut)
      (.error (.remoteCall status u.toString (failureText status body cut)))

/-- An answer is received as its status and its body say. -/
theorem ends_receive (u : Url) (status : Nat) (body : List UInt8) (cut : Bool) :
    Ends u (.response status body cut) (Transport.receive u (.response status body cut) status) := by
  rw [Transport.receive]
  split
  next hsuccess =>
    have hsuccess := isSuccess_iff.mp hsuccess
    cases cut with
    | true => exact .cutShort hsuccess
    | false => exact .success hsuccess
  next hfailure =>
    have hfailure := mt isSuccess_iff.mpr hfailure
    cases cut with
    | true => exact .failure hfailure
    | false => exact .failure hfailure

/-- **An exchange that is not called off** ends as the server's reaction has it. -/
theorem ends_exchange (t : Transport) (r : Request) (u : Url) (reaction : Reaction) :
    Ends u reaction (t.exchange r u reaction).complete.outcome := by
  cases reaction with
  | nobody => exact .nobody
  | silence => exact .silence
  | garbage => exact .garbage
  | response status body cut => exact ends_receive u status body cut

/-- **Both ways of sending** come to the same ending. -/
theorem ends_outcome {base : Url} {config : Config} {t : Transport}
    (ht : Transport.new base config = .ok t) {r : Request} {u : Url} (hu : r.url t.base = .ok u)
    {signals : CancelToken → Signal}
    (hsignals : ∀ token, r.cancel = some token → signals token = .never) (reaction : Reaction) :
    Ends u reaction (t.send r signals reaction).outcome ∧
      Ends u reaction (t.sendBlocking r signals reaction).outcome := by
  obtain ⟨husable, rfl⟩ := Transport.new_eq_ok.mp ht
  have hclient := HttpClient.build_eq_ok.mpr ⟨husable, rfl⟩
  have hdown : (r.cancel.any fun token => (signals token).isUp 0) = false := by
    cases htoken : r.cancel with
    | none => rfl
    | some token => exact congrArg (Signal.isUp · 0) (hsignals token htoken)
  rw [Transport.send_of_never hu hsignals, Transport.sendBlocking_of_not_up hu hdown hclient]
  exact ⟨ends_exchange _ r u reaction, ends_exchange _ r u reaction⟩

/-! ## What an error tells -/

/-- An error has a status exactly if it is the failure of a remote call. -/
theorem ClientError.statusCode?_eq_some {e : ClientError} {status : Nat} :
    e.statusCode? = some status ↔ ∃ url message, e = .remoteCall status url message := by
  cases e <;> simp [statusCode?]

/-- A breakdown that may pass is that there was no connection, or no answer in time. -/
theorem Breakdown.isTransient_iff {b : Breakdown} :
    b.isTransient = true ↔ (∃ url, b = .connection url) ∨ ∃ url, b = .timeout url := by
  cases b <;> simp [isTransient]

/-- **The errors that are worth trying again.** -/
theorem ClientError.isRetryable_iff {e : ClientError} : e.isRetryable = true ↔
    (∃ url, e = .request (.connection url)) ∨ (∃ url, e = .request (.timeout url)) ∨
      ∃ status url message, e = .remoteCall status url message ∧ (status = 429 ∨ 500 ≤ status) := by
  cases e with
  | request b => simp [isRetryable, Breakdown.isTransient_iff]
  | remoteCall status url message => simp [isRetryable]
  | _ => simp [isRetryable]

/-- Whether an error is worth trying again exactly if the documentation says so: if there was no
connection, no answer in time, or a status of 429 or of the five hundreds. -/
def RetryAsDocumented (e : ClientError) : Prop :=
  e.isRetryable = true ↔
    (∃ url, e = .request (.connection url)) ∨ (∃ url, e = .request (.timeout url)) ∨
      ∃ status url message, e = .remoteCall status url message ∧
        (status = 429 ∨ 500 ≤ status ∧ status ≤ 599)

/-- **The documentation only fails** for statuses after the five hundreds. -/
theorem retryAsDocumented_iff {e : ClientError} :
    RetryAsDocumented e ↔ ∀ status, e.statusCode? = some status → status ≤ 599 := by
  rw [RetryAsDocumented, ClientError.isRetryable_iff]
  cases e with
  | remoteCall status url message =>
    simp [ClientError.statusCode?]
    omega
  | _ => simp [ClientError.statusCode?]

/-! ## What an outcome tells -/

/-- **Whether an outcome tells what happened on the wire.** -/
structure IsClassified (u : Url) (reaction : Reaction) (o : Except ClientError Response) :
    Prop where
  /-- A response is the server's: a success, read to its end. -/
  response : ∀ answer, o = .ok answer ↔ ∃ status body, reaction = .response status body false ∧
    IsSuccessStatus status ∧ answer = ⟨status, u.toString, body⟩
  /-- The remote call failed exactly if another status arrived. -/
  remoteCall : ∀ status url message, o = .error (.remoteCall status url message) ↔
    ∃ body cut, reaction = .response status body cut ∧ ¬IsSuccessStatus status ∧
      url = u.toString ∧ message = failureText status body cut
  noConnection : ∀ url, o = .error (.request (.connection url)) ↔
    reaction = .nobody ∧ url = u.toString
  noAnswer : ∀ url, o = .error (.request (.timeout url)) ↔ reaction = .silence ∧ url = u.toString
  notUnderstood : ∀ url, o = .error (.request (.protocol url)) ↔
    reaction = .garbage ∧ url = u.toString
  cutShort : o = .error (.request .truncated) ↔
    ∃ status body, reaction = .response status body true ∧ IsSuccessStatus status
  /-- Every error is of the remote call or of the request. -/
  kinds : ∀ e, o = .error e →
    (∃ status url message, e = .remoteCall status url message) ∨ ∃ b, e = .request b

section
variable {u : Url} {reaction : Reaction} {o : Except ClientError Response}

/-- An outcome has one ending only, so each kind of it tells the reaction and the other way
round. -/
theorem Ends.isClassified (h : Ends u reaction o) : IsClassified u reaction o where
  response answer := by
    constructor
    · rintro rfl
      cases h with
      | success hstatus => exact ⟨_, _, rfl, hstatus, rfl⟩
    · rintro ⟨status, body, rfl, hstatus, rfl⟩
      cases h with
      | success => rfl
      | failure hother => exact absurd hstatus hother
  remoteCall status url message := by
    constructor
    · rintro rfl
      cases h with
      | failure hstatus => exact ⟨_, _, rfl, hstatus, rfl, rfl⟩
    · rintro ⟨body, cut, rfl, hstatus, rfl, rfl⟩
      cases h with
      | success hother => exact absurd hother hstatus
      | cutShort hother => exact absurd hother hstatus
      | failure => rfl
  noConnection url := by
    constructor
    · rintro rfl
      cases h with
      | nobody => exact ⟨rfl, rfl⟩
    · rintro ⟨rfl, rfl⟩
      cases h with
      | nobody => rfl
  noAnswer url := by
    constructor
    · rintro rfl
      cases h with
      | silence => exact ⟨rfl, rfl⟩
    · rintro ⟨rfl, rfl⟩
      cases h with
      | silence => rfl
  notUnderstood url := by
    constructor
    · rintro rfl
      cases h with
      | garbage => exact ⟨rfl, rfl⟩
    · rintro ⟨rfl, rfl⟩
      cases h with
      | garbage => rfl
  cutShort := by
    constructor
    · rintro rfl
      cases h with
      | cutShort hstatus => exact ⟨_, _, rfl, hstatus⟩
    · rintro ⟨status, body, rfl, hstatus⟩
      cases h with
      | cutShort => rfl
      | failure hother => exact absurd hstatus hother
  kinds e he := by
    subst he
    cases h with
    | nobody => exact .inr ⟨_, rfl⟩
    | silence => exact .inr ⟨_, rfl⟩
    | garbage => exact .inr ⟨_, rfl⟩
    | cutShort => exact .inr ⟨_, rfl⟩
    | failure => exact .inl ⟨_, _, _, rfl⟩

variable {e : ClientError} (h : IsClassified u reaction o) (he : o = .error e)
include h he

/-- **The status of an error** is that of the answer which is the failure. -/
theorem IsClassified.statusCode?_eq_some {status : Nat} : e.statusCode? = some status ↔
    ∃ body cut, reaction = .response status body cut ∧ ¬IsSuccessStatus status := by
  have hremote (url message : String) := h.remoteCall status url message
  simp only [he, Except.error.injEq] at hremote
  simp only [ClientError.statusCode?_eq_some, hremote]
  constructor
  · rintro ⟨url, message, body, cut, hresponse, hstatus, -⟩
    exact ⟨body, cut, hresponse, hstatus⟩
  · rintro ⟨body, cut, hresponse, hstatus⟩
    exact ⟨_, _, body, cut, hresponse, hstatus, rfl, rfl⟩

/-- **What is worth trying again**, by what the server did. -/
theorem IsClassified.isRetryable_iff : e.isRetryable = true ↔
    reaction = .nobody ∨ reaction = .silence ∨
      ∃ status body cut, reaction = .response status body cut ∧ (status = 429 ∨ 500 ≤ status) := by
  have hconnection (url : String) := h.noConnection url
  have htimeout (url : String) := h.noAnswer url
  have hremote (status : Nat) (url message : String) := h.remoteCall status url message
  simp only [he, Except.error.injEq] at hconnection htimeout hremote
  simp only [ClientError.isRetryable_iff, hconnection, htimeout, hremote, exists_and_left,
    exists_eq, and_true]
  refine or_congr_right (or_congr_right ⟨?_, ?_⟩)
  · rintro ⟨status, url, message, ⟨body, cut, hresponse, -⟩, hretry⟩
    exact ⟨status, body, cut, hresponse, hretry⟩
  · rintro ⟨status, body, cut, hresponse, hretry⟩
    refine ⟨status, _, _, ⟨body, cut, hresponse, fun hsuccess => ?_, rfl, rfl⟩, hretry⟩
    obtain ⟨-, hle⟩ := hsuccess
    omega

/-- **The documentation only fails** for an answer whose status comes after the five hundreds. -/
theorem IsClassified.retryAsDocumented_iff : RetryAsDocumented e ↔
    ∀ status body cut, reaction = .response status body cut → status ≤ 599 := by
  rw [Client.retryAsDocumented_iff]
  constructor
  · intro hle status body cut hresponse
    by_cases hsuccess : IsSuccessStatus status
    · obtain ⟨-, hstatus⟩ := hsuccess
      omega
    · exact hle status ((h.statusCode?_eq_some he).mpr ⟨body, cut, hresponse, hsuccess⟩)
  · intro hle status hstatus
    obtain ⟨body, cut, hresponse, -⟩ := (h.statusCode?_eq_some he).mp hstatus
    exact hle status body cut hresponse

end

/-- **Failures are classified by what happened on the wire**, for every transport that can be set
up, every request that has a URL, either way of sending it and whatever the server does, unless the
call is called off.  The advice to try again follows the documentation exactly if no status after
the five hundreds arrived. -/
theorem outcome_classified {base : Url} {config : Config} {t : Transport}
    (ht : Transport.new base config = .ok t) {r : Request} {u : Url} (hu : r.url t.base = .ok u)
    {signals : CancelToken → Signal}
    (hsignals : ∀ token, r.cancel = some token → signals token = .never) (reaction : Reaction)
    {o : Except ClientError Response}
    (ho : o = (t.send r signals reaction).outcome ∨
      o = (t.sendBlocking r signals reaction).outcome) :
    IsClassified u reaction o ∧ ∀ e, o = .error e →
      (∀ status, e.statusCode? = some status ↔
        ∃ body cut, reaction = .response status body cut ∧ ¬IsSuccessStatus status) ∧
      (e.isRetryable = true ↔ reaction = .nobody ∨ reaction = .silence ∨
        ∃ status body cut, reaction = .response status body cut ∧
          (status = 429 ∨ 500 ≤ status)) ∧
      (RetryAsDocumented e ↔
        ∀ status body cut, reaction = .response status body cut → status ≤ 599) := by
  obtain ⟨hsend, hblocking⟩ := ends_outcome ht hu hsignals reaction
  have hclassified : IsClassified u reaction o := by
    obtain rfl | rfl := ho
    · exact hsend.isClassified
    · exact hblocking.isClassified
  exact ⟨hclassified, fun e he => ⟨fun status => hclassified.statusCode?_eq_some he,
    hclassified.isRetryable_iff he, hclassified.retryAsDocumented_iff he⟩⟩

/-- The notes of a service have a URL. -/
theorem exists_noteUrl : ∃ u, (Request.new .get "/notes").url Transport.noteBase = .ok u :=
  Outcome.exists_iff_isSome.mpr (by decide +kernel)

/-- Nobody calls off a call for the notes. -/
theorem never_notes (token : CancelToken) (_ : (Request.new .get "/notes").cancel = some token) :
    (fun _ => .never : CancelToken → Signal) token = .never := rfl

/-- A call that blocks and is put off, by an answer whose body cannot be read. -/
theorem exists_notes_classified : ∃ u e,
    (Request.new .get "/notes").url Transport.noteBase = .ok u ∧
      (Transport.sendBlocking ⟨Transport.noteBase, .default⟩ (Request.new .get "/notes")
        (fun _ => .never) (.response 429 [110] true)).outcome = .error e ∧
      e = .remoteCall 429 u.toString "429 Too Many Requests" ∧ e.isRetryable = true ∧
      RetryAsDocumented e := by
  obtain ⟨u, hu⟩ := exists_noteUrl
  obtain ⟨hclassified, herror⟩ := outcome_classified
    (t := ⟨Transport.noteBase, .default⟩) (Transport.new_eq_ok.mpr ⟨rfl, rfl⟩) hu
    never_notes (.response 429 [110] true) (.inr rfl)
  have houtcome := (hclassified.remoteCall 429 u.toString "429 Too Many Requests").mpr
    ⟨[110], true, rfl, fun h => absurd h.2 (by decide), rfl, by decide +kernel⟩
  obtain ⟨-, hretry, hdocumented⟩ := herror _ houtcome
  refine ⟨u, _, hu, houtcome, rfl, hretry.mpr (.inr (.inr ⟨_, _, _, rfl, .inl rfl⟩)),
    hdocumented.mpr ?_⟩
  rintro status body cut h
  cases h
  decide

/-- **A status after the five hundreds** is taken for one that may pass. -/
theorem exists_notes_not_retryAsDocumented : ∃ e,
    (Transport.send ⟨Transport.noteBase, .default⟩ (Request.new .get "/notes")
      (fun _ => .never) (.response 600 [110] false)).outcome = .error e ∧
      e.statusCode? = some 600 ∧ e.isRetryable = true ∧ ¬RetryAsDocumented e := by
  obtain ⟨u, hu⟩ := exists_noteUrl
  obtain ⟨hends, -⟩ := ends_outcome (t := ⟨Transport.noteBase, .default⟩)
    (Transport.new_eq_ok.mpr ⟨rfl, rfl⟩) hu never_notes (.response 600 [110] false)
  have houtcome := (hends.isClassified.remoteCall 600 u.toString (failureText 600 [110] false)).mpr
    ⟨[110], false, rfl, fun h => absurd h.2 (by decide), rfl, rfl⟩
  refine ⟨_, houtcome, rfl, rfl, fun h => ?_⟩
  exact absurd (retryAsDocumented_iff.mp h 600 rfl) (by decide)

end RestLoom.Client
