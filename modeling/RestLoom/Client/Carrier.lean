import RestLoom.Client.Transport

/-!
# Client/Carrier — how messages reach the server

    message ──receive?──▸ receipt ──answer──▸ what is asked for elsewhere

A transport hands a message over; below it the message is written to a connection, from which the
server reads as much as the headers announce.  Who blocks announces the length of the body, but who
waits without blocking leaves a length of the configuration as it is.  The server may answer that
the client has to ask elsewhere, and the client does.
-/

namespace RestLoom.Client

open RestLoom.Http
open RestLoom.Service (Verb)

/-- How the caller of a transport waits. -/
inductive Manner where
  | waiting
  | blocking
  deriving DecidableEq

/-- The names of headers with which messages are carried; they belong to the connection. -/
def carryingNames : List String :=
  ["host", "accept", "accept-encoding", "connection", "content-length", "transfer-encoding"]

/-- A message as a server has read it. -/
structure Receipt where
  verb : Verb
  target : String
  /-- The headers, except those that carry messages. -/
  headers : List (String × String)
  body : List UInt8
  deriving DecidableEq

/-! ## Lengths -/

/-- The length that a text announces. -/
def lengthOf? (text : List Char) : Option Nat :=
  let n := Url.digitsValue 10 text
  if text ≠ [] ∧ text.all (·.isDigit) ∧ n < UInt64.size then some n else none

/-- The length that the value of a header announces: one length, possibly several times. -/
def announced? (value : String) : Option Nat :=
  if value.toList.all fun c => c.toNat < 0x80 then
    match (Text.splitAt (· == ',') value.toList).map fun text => lengthOf? (Text.trim text) with
    | some n :: rest => if rest.all (· == some n) then some n else none
    | _ => none
  else none

/-- **The body that the server reads**, if as much comes as is announced.  Without a body only
nothing can come.  The body of one who waits is cut off at the length that the configuration
announces, if it is one and the body does not go in chunks; what is no length is put right. -/
def readBody? (manner : Manner) (headers : Headers) : Option String → Option (List UInt8)
  | none =>
    match headers.get? "content-length" with
    | none => some []
    | some value => if announced? value = some 0 then some [] else none
  | some text =>
    let bytes := Text.utf8 text.toList
    if manner = .blocking ∨ (headers.get? "transfer-encoding").isSome then some bytes
    else
      match (headers.get? "content-length").bind announced? with
      | none => some bytes
      | some n => if n ≤ bytes.length then some (bytes.take n) else none

/-- **What the server reads** of a message. -/
def receive? (manner : Manner) (m : Message) : Option Receipt :=
  (readBody? manner m.headers m.body).map fun body =>
    ⟨m.verb, m.target, m.headers.fields.filter (·.1 ∉ carryingNames), body⟩

/-! ## Redirection -/

/-- The status codes of answers that send the client elsewhere. -/
def redirections : List Nat := [301, 302, 303, 307, 308]

/-- Whether a client asks again elsewhere: the answer has such a status and says where. -/
def Reaction.redirects (location : Option String) : Reaction → Bool
  | response status _ _ => location.isSome && redirections.contains status
  | _ => false

/-- **Everything that servers read for one message**: the message, and what the client asks for
elsewhere if it is sent there. -/
def carry (manner : Manner) (m : Message) (reaction : Reaction) (location : Option String)
    (elsewhere : List Receipt) : List Receipt :=
  match receive? manner m with
  | none => []
  | some receipt => receipt :: if reaction.redirects location then elsewhere else []

end RestLoom.Client
