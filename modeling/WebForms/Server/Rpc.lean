import WebForms.Json.Reader
import WebForms.Server.Session

/-!
# Remote calls

Messages travel as JSON objects. One with a method and an identifier is a request, one with a method
alone a notification; all others are answers to what the server has asked, of which it takes no
notice. What the server asks of its own accord is numbered.

## Main definitions

* `Incoming.parse` — the message in a text
* `Connection.receive` — the effect of a message, and the texts that are sent in turn
-/

namespace WebForms

/-- A message from the editor. -/
inductive Incoming where
  | request (id : Json) (method : String) (params : Option Json)
  | notification (method : String) (params : Option Json)
  /-- An answer, or something that is no message. -/
  | ignored
  /-- A text that is no JSON. -/
  | malformed

/-- The message in a text. -/
def Incoming.parse (text : String) : Incoming :=
  match Json.parse? text with
  | none => malformed
  | some v =>
    match (v.get? "method").bind Json.str?, v.get? "id" with
    | some method, some id => request id method (v.get? "params")
    | some method, none => notification method (v.get? "params")
    | none, _ => ignored

/-- A server and the number of requests that it has made. -/
structure Connection where
  server : Server
  requests : Nat := 0

/-- An object of the protocol with the given members. -/
def rpcObject (members : List (String × Json)) : Json :=
  .obj (("jsonrpc", .str "2.0") :: members)

/-- A refusal in its written form. -/
def ResponseError.toJson (e : ResponseError) : Json :=
  .obj [("code", .int e.code), ("message", .str e.message)]

/-- The answer to the request `id`. -/
def answerObject (id : Json) : Except ResponseError Json → Json
  | .ok v => rpcObject [("id", id), ("result", v)]
  | .error e => rpcObject [("id", id), ("error", e.toJson)]

/-- What is sent when a text is no JSON. -/
def parseFailure : Json :=
  rpcObject [("id", .null),
    ("error", .obj [("code", .int (-32700)), ("message", .str "Parse error")])]

/-- A message of the server's own with the number of the last request; edits are requests. -/
def outgoingObject (number : Nat) (o : Outgoing) : Json :=
  let members := [("method", .str o.method), ("params", o.params)]
  rpcObject (if o.method = editMethod then ("id", .nat number) :: members else members)

/-- The messages of the server's own in turn, the first request of which has the number after
`number`, and the number of the last. -/
def outgoingObjects (number : Nat) : List Outgoing → List Json × Nat
  | [] => ([], number)
  | o :: os =>
    let number := if o.method = editMethod then number + 1 else number
    let (rest, last) := outgoingObjects number os
    (outgoingObject number o :: rest, last)

namespace Connection

/-- The effect of a message, and what is sent in turn. -/
def receive {m : Type → Type} [Monad m] (disk : Disk m) (c : Connection) (text : String) :
    m (Connection × List Json) := do
  let reply (s : Server) (r : Reply) (answer : List Json) : Connection × List Json :=
    let (sent, requests) := outgoingObjects c.requests r.sent
    ({ server := s, requests }, sent ++ answer)
  match Incoming.parse text with
  | .ignored => return (c, [])
  | .malformed => return (c, [parseFailure])
  | .notification method params =>
    let (s, r) := c.server.notify method params
    return reply s r []
  | .request id method params =>
    let (s, r) ← c.server.request disk method params
    return reply s r ((r.answer.map (answerObject id)).toList)

end Connection

end WebForms
