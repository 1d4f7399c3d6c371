import RestLoom.Client.Carrier
import RestLoom.Proofs.Client.Endings
import RestLoom.Proofs.Client.Settings

/-!
# Proofs/Client/Wire — what is sent is the request and the configuration

    settings ──▸ configuration ──▸ transport ──┐
    verb · path · pairs · body ──▸ request ────┴──▸ one message ──receive?──▸ receipt

The headers of a message come from three places: the type of the body, the user agent, and the
headers of the configuration.  Where two of them give a value for one name, the type of the body
comes before everything else and the user agent before the headers (`get?_messageHeaders`).  Both
ways of sending hand this one message over once the server reads it (`sent_exact`), and the server
reads what the message says.  Two things are decided further down: an answer may send the client
elsewhere, and a length that the configuration announces cuts off the body of one who waits without
blocking (`exists_longNote_cutOff`).

A base address with a user name or a password is left aside: what becomes of these is not said here.
-/

namespace RestLoom.Client

open RestLoom.Http

/-! ## Headers of a message -/

section
variable (c : Config) (hasBody : Bool)

/-- The headers of every message that is sent with a configuration. -/
def standingHeaders (c : Config) : Headers :=
  match c.userAgent with
  | some agent => c.headers.insert "user-agent" agent
  | none => c.headers

theorem messageHeaders_eq : Transport.messageHeaders c hasBody =
    if hasBody then (standingHeaders c).insert "content-type" "application/json"
    else standingHeaders c := rfl

/-- The headers of a message hold each name once. -/
theorem nodup_names_messageHeaders (hnodup : c.headers.names.Nodup) :
    (Transport.messageHeaders c hasBody).names.Nodup := by
  have hstanding : (standingHeaders c).names.Nodup := by
    rw [standingHeaders]
    split
    · exact Headers.nodup_names_insert hnodup
    · exact hnodup
  rw [messageHeaders_eq]
  split
  · exact Headers.nodup_names_insert hstanding
  · exact hstanding

theorem get?_standingHeaders (name : String) : (standingHeaders c).get? name =
    (if name = "user-agent" then c.userAgent else none).or (c.headers.get? name) := by
  rw [standingHeaders]
  cases c.userAgent with
  | none => rw [ite_self, Option.none_or]
  | some agent =>
    dsimp only
    rw [Headers.get?_insert]
    by_cases hname : name = "user-agent"
    · rw [if_pos hname.symm, if_pos hname, Option.some_or]
    · rw [if_neg (Ne.symm hname), if_neg hname, Option.none_or]

/-- **Which value a message has for a name**: the type of its body comes first, then the user agent,
then the headers of the configuration. -/
theorem get?_messageHeaders (name : String) : (Transport.messageHeaders c hasBody).get? name =
    if hasBody = true ∧ name = "content-type" then some "application/json"
    else (if name = "user-agent" then c.userAgent else none).or (c.headers.get? name) := by
  rw [messageHeaders_eq, ← get?_standingHeaders]
  cases hasBody with
  | false => simp
  | true =>
    rw [if_pos rfl, Headers.get?_insert]
    simp only [true_and, eq_comm (a := name)]

end

/-! ## Messages -/

/-- The user agent that settings set last. -/
def lastAgent? (ss : List Setting) : Option String := (ss.filterMap Setting.agent?).getLast?

/-- The value that settings set last for the name of a header. -/
def lastValue? (ss : List Setting) (name : String) : Option String :=
  (ss.filterMap (Setting.value? name)).getLast?

/-- **Whether a message says** what a request with a URL and the settings ask for, and nothing else;
the headers that carry it are left aside. -/
structure Says (ss : List Setting) (r : Request) (u : Url) (m : Message) : Prop where
  verb : m.verb = r.verb
  /-- The server is asked for the path and the query of the URL. -/
  target : m.target = String.ofList (u.path.render ++ (u.query.map ('?' :: ·)).getD [])
  body : m.body = r.body
  /-- A body is JSON, whatever the settings say. -/
  contentType : r.body.isSome = true → m.headers.values "content-type" = ["application/json"]
  /-- The user agent is the one that is set as such, even if there is a header of that name. -/
  userAgent : ∀ agent, lastAgent? ss = some agent → m.headers.values "user-agent" = [agent]
  /-- Every other header is there exactly as it was set last, and if it was. -/
  others : ∀ name ∉ carryingNames, (name = "content-type" → r.body = none) →
    (name = "user-agent" → lastAgent? ss = none) →
    m.headers.values name = (lastValue? ss name).toList

/-- **The message of a request** says what the request and the settings ask for. -/
theorem says_wire (ss : List Setting) (base u : Url) (r : Request) :
    Says ss r u (Transport.wire ⟨base, Config.ofSettings ss⟩ r u) := by
  have hvalues (name : String) :
      (Transport.wire ⟨base, Config.ofSettings ss⟩ r u).headers.values name =
        ((Transport.messageHeaders (Config.ofSettings ss) r.body.isSome).get? name).toList :=
    Headers.values_eq_toList (nodup_names_messageHeaders _ _ (Config.nodup_names_ofSettings ss)) _
  refine ⟨rfl, rfl, rfl, fun hbody => ?_, fun agent hagent => ?_, fun name _ hbody hagent => ?_⟩
  · rw [hvalues, get?_messageHeaders, if_pos ⟨hbody, rfl⟩, Option.toList_some]
  · rw [hvalues, get?_messageHeaders, if_neg (fun h => absurd h.2 (by decide)), if_pos rfl,
      Config.userAgent_ofSettings, ← lastAgent?, hagent, Option.some_or, Option.toList_some]
  · have htype : ¬(r.body.isSome = true ∧ name = "content-type") := by
      rintro ⟨hsome, hname⟩
      rw [hbody hname] at hsome
      cases hsome
    have hnone :
        (if name = "user-agent" then (Config.ofSettings ss).userAgent else none) = none := by
      split
      next hname => rw [Config.userAgent_ofSettings, ← lastAgent?, hagent hname]
      next => rfl
    rw [hvalues, get?_messageHeaders, if_neg htype, hnone, Option.none_or, Config.get?_ofSettings,
      lastValue?]

/-! ## What is read of a message -/

/-- The length at which settings cut off the body of one who waits: the one that they announce last,
unless bodies go in chunks. -/
def cutOff? (ss : List Setting) : Option Nat :=
  if (lastValue? ss "transfer-encoding").isSome then none
  else (lastValue? ss "content-length").bind announced?

/-- The bytes of a body, if there is one. -/
def bodyBytes (body : Option String) : List UInt8 := Text.utf8 (body.getD "").toList

/-- What is left of a body that is cut off for those who wait. -/
def cutOff (manner : Manner) (length? : Option Nat) (bytes : List UInt8) : List UInt8 :=
  match manner, length? with
  | .waiting, some n => bytes.take n
  | _, _ => bytes

/-- **Whether a receipt is what a message says**, with the body of one who waits cut off where the
settings have it. -/
structure IsReadAs (ss : List Setting) (manner : Manner) (m : Message) (receipt : Receipt) :
    Prop where
  verb : receipt.verb = m.verb
  target : receipt.target = m.target
  headers : ∀ name ∉ carryingNames, Headers.values ⟨receipt.headers⟩ name = m.headers.values name
  /-- The headers that carry the message are left out. -/
  rest : ∀ name ∈ carryingNames, Headers.values ⟨receipt.headers⟩ name = []
  body : receipt.body = cutOff manner (cutOff? ss) (bodyBytes m.body)

section
variable {ss : List Setting} {base u : Url} {r : Request} {manner : Manner}

/-- A header that carries messages is the one that was set last. -/
theorem get?_wire_of_carrying {name : String} (h : name ∈ carryingNames) :
    (Transport.wire ⟨base, Config.ofSettings ss⟩ r u).headers.get? name = lastValue? ss name := by
  have htype : name ≠ "content-type" := by
    rintro rfl
    exact absurd h (by decide)
  have hagent : name ≠ "user-agent" := by
    rintro rfl
    exact absurd h (by decide)
  change (Transport.messageHeaders (Config.ofSettings ss) r.body.isSome).get? name = _
  rw [get?_messageHeaders, if_neg fun h => htype h.2, if_neg hagent, Option.none_or,
    Config.get?_ofSettings, lastValue?]

theorem cutOff_nil (manner : Manner) (length? : Option Nat) : cutOff manner length? [] = [] := by
  unfold cutOff
  split
  · exact List.take_nil
  · rfl

/-- What is left of headers without those that carry messages. -/
theorem values_filter_carrying (h : Headers) (name : String) :
    Headers.values ⟨h.fields.filter (·.1 ∉ carryingNames)⟩ name =
      if name ∈ carryingNames then [] else h.values name := by
  rw [Headers.values, Headers.values, List.filter_filter]
  split
  next hname =>
    refine List.map_eq_nil_iff.mpr (List.filter_eq_nil_iff.mpr fun f _ hf => ?_)
    obtain ⟨heq, hnot⟩ := Bool.and_eq_true_iff.mp hf
    exact of_decide_eq_true hnot (beq_iff_eq.mp heq ▸ hname)
  next hname =>
    refine congrArg _ (List.filter_congr fun f _ => ?_)
    by_cases heq : f.1 = name
    · simp [heq, hname]
    · simp [heq]

/-- **The body that is read** is the body of the message, cut off where the headers have it. -/
theorem eq_of_readBody? {h : Headers} {body : Option String} {bytes : List UInt8}
    (hread : readBody? manner h body = some bytes) :
    bytes = cutOff manner (if (h.get? "transfer-encoding").isSome then none
      else (h.get? "content-length").bind announced?) (bodyBytes body) := by
  cases body with
  | none =>
    have hnil : bytes = [] := by
      rw [readBody?] at hread
      split at hread
      · exact (Option.some.inj hread).symm
      · split at hread
        · exact (Option.some.inj hread).symm
        · cases hread
    rw [hnil]
    exact (cutOff_nil _ _).symm
  | some text =>
    rw [readBody?] at hread
    cases manner with
    | blocking =>
      rw [if_pos (.inl rfl)] at hread
      exact (Option.some.inj hread).symm
    | waiting =>
      cases hchunks : (h.get? "transfer-encoding").isSome with
      | true =>
        rw [if_pos (.inr hchunks)] at hread
        exact (Option.some.inj hread).symm
      | false =>
        rw [if_neg (by simp [hchunks])] at hread
        rw [if_neg Bool.false_ne_true]
        split at hread
        next hlength =>
          rw [hlength]
          exact (Option.some.inj hread).symm
        next n hlength =>
          rw [hlength]
          split at hread
          · exact (Option.some.inj hread).symm
          · cases hread

/-- **What is read of the message of a request** is what it says. -/
theorem isReadAs_of_receive? {receipt : Receipt}
    (h : receive? manner (Transport.wire ⟨base, Config.ofSettings ss⟩ r u) = some receipt) :
    IsReadAs ss manner (Transport.wire ⟨base, Config.ofSettings ss⟩ r u) receipt := by
  obtain ⟨bytes, hbytes, rfl⟩ := Option.map_eq_some_iff.mp h
  have hbody := eq_of_readBody? hbytes
  rw [get?_wire_of_carrying (by decide), get?_wire_of_carrying (by decide)] at hbody
  exact ⟨rfl, rfl, fun name hname => (values_filter_carrying _ name).trans (if_neg hname),
    fun name hname => (values_filter_carrying _ name).trans (if_pos hname), hbody⟩

theorem readBody?_of_no_length {h : Headers} (hlength : h.get? "content-length" = none)
    (body : Option String) : readBody? manner h body = some (bodyBytes body) := by
  cases body with
  | none => rw [readBody?, hlength]; rfl
  | some text =>
    rw [readBody?, hlength]
    split <;> rfl

/-- **A message is read** whole if the settings announce no length. -/
theorem exists_receive?_wire (h : lastValue? ss "content-length" = none) :
    ∃ receipt, receive? manner (Transport.wire ⟨base, Config.ofSettings ss⟩ r u) =
      some receipt := by
  have hlength : (Transport.wire ⟨base, Config.ofSettings ss⟩ r u).headers.get? "content-length" =
      none :=
    (get?_wire_of_carrying (by decide)).trans h
  rw [receive?, readBody?_of_no_length hlength]
  exact ⟨_, rfl⟩

end

/-! ## Sending -/

section
variable {t : Transport} {r : Request} {u : Url} {reaction : Reaction}

/-- Whether no step of an exchange puts anything on the wire. -/
def IsSilent : Exchange (Except ClientError Response) → Prop
  | .finished _ => True
  | .step sent next => sent = none ∧ IsSilent next

/-- A silent exchange sends nothing, however it ends. -/
theorem IsSilent.sent_completeUnless {x : Exchange (Except ClientError Response)} (h : IsSilent x)
    (signal : Signal) (look : Nat) : (x.completeUnless signal look).sent = [] := by
  induction x generalizing look with
  | finished a =>
    rw [Exchange.completeUnless]
    split <;> rfl
  | step sent next ih =>
    obtain ⟨rfl, hnext⟩ := h
    rw [Exchange.completeUnless]
    split
    · rfl
    · exact ih hnext (look + 1)

/-- **An exchange with a server that reads**: connecting, the message, and then no other. -/
theorem exchange_of_read (hread : reaction ≠ .nobody) : ∃ answer,
    t.exchange r u reaction = .step none (.step (some (t.wire r u)) answer) ∧ IsSilent answer := by
  cases reaction with
  | nobody => exact absurd rfl hread
  | silence => exact ⟨_, rfl, rfl, trivial⟩
  | garbage => exact ⟨_, rfl, rfl, trivial⟩
  | response status body cut => exact ⟨_, rfl, rfl, rfl, trivial⟩

/-- **Once the request is written**, it has been sent, and nothing else will be. -/
theorem sent_exchange (hread : reaction ≠ .nobody) {signal : Signal}
    (hdown : ∀ look < Transport.lookAfterWriting, signal.isUp look = false) :
    ((t.exchange r u reaction).completeUnless signal 0).sent = [t.wire r u] := by
  obtain ⟨answer, hexchange, hanswer⟩ := exchange_of_read (t := t) (r := r) (u := u) hread
  have hconnect : ¬signal.isUp 0 = true := ne_true_of_eq_false (hdown 0 (by decide))
  have hwrite : ¬signal.isUp (0 + 1) = true := ne_true_of_eq_false (hdown 1 (by decide))
  rw [hexchange, Exchange.completeUnless, if_neg hconnect, Exchange.completeUnless, if_neg hwrite]
  exact congrArg (t.wire r u :: ·) (hanswer.sent_completeUnless signal 2)

end

/-- Whether a URL has neither a user name nor a password. -/
def HasNoLogin (u : Url) : Prop :=
  ∀ a, u.authority = some a → a.user = [] ∧ a.password = none

/-- **What a server reads** of the one message that is handed over: what the message says, and what
the HTTP client asks for when an answer sends it elsewhere. -/
structure IsCarried (ss : List Setting) (m : Message) : Prop where
  /-- It is read whenever the settings announce no length. -/
  read : lastValue? ss "content-length" = none →
    ∀ manner, ∃ receipt, receive? manner m = some receipt
  kept : ∀ manner receipt, receive? manner m = some receipt → IsReadAs ss manner m receipt
  wire : ∀ manner receipt, receive? manner m = some receipt → ∀ reaction location elsewhere,
    carry manner m reaction location elsewhere =
      receipt :: if Reaction.redirects location reaction then elsewhere else []

theorem isCarried_wire (ss : List Setting) (base u : Url) (r : Request) :
    IsCarried ss (Transport.wire ⟨base, Config.ofSettings ss⟩ r u) := by
  refine ⟨fun h _ => exists_receive?_wire h, fun _ _ => isReadAs_of_receive?,
    fun manner receipt h reaction location elsewhere => ?_⟩
  rw [carry, h]

/-- **What is sent is the request and the configuration**, for all settings that make a transport,
every base address without a login and every request that has a URL.  Either way of sending hands
over one message that says what they ask for, if the server reads and nobody calls the call off
before the request is written.  That message is the one request on the wire, unless an answer sends
the client elsewhere; only a length in the settings cuts off the body of those who wait. -/
theorem sent_exact {ss : List Setting} {base : Url} {t : Transport}
    (ht : Transport.new base (Config.ofSettings ss) = .ok t) (_hbase : HasNoLogin base)
    {r : Request} {u : Url} (hu : r.url base = .ok u) {signals : CancelToken → Signal}
    (hdown : ∀ token, r.cancel = some token →
      ∀ look < Transport.lookAfterWriting, (signals token).isUp look = false)
    {reaction : Reaction} (hread : reaction ≠ .nobody) :
    ∃ m, Says ss r u m ∧ (t.send r signals reaction).sent = [m] ∧
      (t.sendBlocking r signals reaction).sent = [m] ∧ IsCarried ss m := by
  obtain ⟨husable, rfl⟩ := Transport.new_eq_ok.mp ht
  refine ⟨_, says_wire ss base u r, ?_, ?_, isCarried_wire ss base u r⟩
  · rw [Transport.send, hu]
    dsimp only
    split
    next token htoken => exact sent_exchange hread (hdown token htoken)
    next =>
      rw [← Exchange.completeUnless_never 0]
      exact sent_exchange hread fun look _ => Signal.never_isUp look
  · have hlook : (r.cancel.any fun token => (signals token).isUp 0) = false := by
      cases htoken : r.cancel with
      | none => rfl
      | some token => exact hdown token htoken 0 (by decide)
    have hclient : HttpClient.build (Config.ofSettings ss) = .ok ⟨Config.ofSettings ss⟩ :=
      HttpClient.build_eq_ok.mpr ⟨husable, rfl⟩
    rw [Transport.sendBlocking_of_not_up (t := ⟨base, Config.ofSettings ss⟩) hu hlook hclient,
      ← Exchange.completeUnless_never 0]
    exact sent_exchange hread fun look _ => Signal.never_isUp look

/-- Settings that take each other's place, one of which is no header. -/
def noteSettings : List Setting :=
  [.header "Content-Type" "text/plain", .header "User-Agent" "old", .timeout 5, .header "X-A" "1",
    .header "x a" "no name", .userAgent "me", .header "x-a" "2"]

/-- A note that is to be written down. -/
def newNote : Request := { Request.new .post "/notes" with body := some "1" }

/-- Notes are kept at an address without a login. -/
theorem hasNoLogin_noteBase : HasNoLogin Transport.noteBase := by
  rintro a ha
  cases ha
  exact ⟨rfl, rfl⟩

/-- A note has a URL. -/
theorem exists_newNoteUrl : ∃ u, newNote.url Transport.noteBase = .ok u :=
  Outcome.exists_iff_isSome.mpr (by decide +kernel)

/-- A note is sent as JSON by the agent of the settings, with the header that was set last, and read
whole. -/
theorem exists_newNote_sent : ∃ u m receipt, newNote.url Transport.noteBase = .ok u ∧
    (Transport.send ⟨Transport.noteBase, Config.ofSettings noteSettings⟩ newNote
      (fun _ => .never) .silence).sent = [m] ∧
    m.verb = .post ∧ m.body = some "1" ∧ m.headers.values "content-type" = ["application/json"] ∧
    m.headers.values "user-agent" = ["me"] ∧ m.headers.values "x-a" = ["2"] ∧
    carry .waiting m .silence none [] = [receipt] ∧ receipt.body = [0x31] := by
  have husable : (Config.ofSettings noteSettings).isUsable = true := by decide +kernel
  obtain ⟨u, hu⟩ := exists_newNoteUrl
  have hdown (token : CancelToken) (_ : newNote.cancel = some token) (look : Nat)
      (_ : look < Transport.lookAfterWriting) :
      ((fun _ => .never : CancelToken → Signal) token).isUp look = false := rfl
  have hread : Reaction.silence ≠ .nobody := by decide
  obtain ⟨m, hm, hsend, -, hcarried⟩ :=
    sent_exact (Transport.new_eq_ok.mpr ⟨husable, rfl⟩) hasNoLogin_noteBase hu hdown hread
  obtain ⟨receipt, hreceipt⟩ := hcarried.read (by decide +kernel) .waiting
  have hlast : lastAgent? noteSettings = some "me" := by decide +kernel
  have hcut : cutOff? noteSettings = none := by decide +kernel
  refine ⟨u, m, receipt, hu, hsend, hm.verb, hm.body, hm.contentType rfl,
    hm.userAgent "me" hlast, ?_, hcarried.wire _ _ hreceipt .silence none [], ?_⟩
  · rw [hm.others "x-a" (by decide) (fun h => absurd h (by decide))
      (fun h => absurd h (by decide))]
    decide +kernel
  · rw [(hcarried.kept _ _ hreceipt).body, hcut, hm.body]
    rfl

/-- Settings that announce a length. -/
def shortSettings : List Setting := [.header "content-length" "2"]

/-- A longer note. -/
def longNote : Request := { newNote with body := some "12345" }

/-- **A length in the settings cuts a body off**: who waits for a longer note to be written down has
its first two characters sent, and no more. -/
theorem exists_longNote_cutOff : ∃ t u m receipt,
    Transport.new Transport.noteBase (Config.ofSettings shortSettings) = .ok t ∧
    HasNoLogin Transport.noteBase ∧ longNote.url Transport.noteBase = .ok u ∧
    (t.send longNote (fun _ => .never) (.response 200 [] false)).sent = [m] ∧
    carry .waiting m (.response 200 [] false) none [] = [receipt] ∧
    receipt.body = [0x31, 0x32] ∧ receipt.body ≠ bodyBytes longNote.body := by
  obtain ⟨u, hu⟩ : ∃ u, longNote.url Transport.noteBase = .ok u := exists_newNoteUrl
  have hsent : (Transport.send ⟨Transport.noteBase, Config.ofSettings shortSettings⟩ longNote
      (fun _ => .never) (.response 200 [] false)).sent =
        [Transport.wire ⟨Transport.noteBase, Config.ofSettings shortSettings⟩ longNote u] := by
    rw [Transport.send, hu]
    rfl
  have hbody : readBody? .waiting
      (Transport.messageHeaders (Config.ofSettings shortSettings) true) (some "12345") =
        some [0x31, 0x32] := by
    decide +kernel
  obtain ⟨receipt, hreceipt, hcut⟩ : ∃ receipt, receive? .waiting
      (Transport.wire ⟨Transport.noteBase, Config.ofSettings shortSettings⟩ longNote u) =
        some receipt ∧ receipt.body = [0x31, 0x32] :=
    ⟨_, congrArg (Option.map _) hbody, rfl⟩
  have hwhole : bodyBytes longNote.body = [0x31, 0x32, 0x33, 0x34, 0x35] := by decide +kernel
  refine ⟨_, u, _, receipt, Transport.new_eq_ok.mpr ⟨by decide +kernel, rfl⟩, hasNoLogin_noteBase,
    hu, hsent, ?_, hcut, ?_⟩
  · rw [carry, hreceipt]
    rfl
  · rw [hcut, hwhole]
    decide

end RestLoom.Client
