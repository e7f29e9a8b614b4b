/-
# The requests that a server understands

A request is a method with parameters, together with the shape of its result. A result of another
shape is an error of this request alone.
-/

import HeaderFollower.Client.Error
import HeaderFollower.Protocol.Method
import HeaderFollower.Protocol.Reply

namespace HeaderFollower

/-- A request whose result is an `α`. -/
structure ServerCall (α : Type) where
  method : String
  params : Json
  decode : Json → Except ClientError α

namespace ServerCall

/-- A request whose result is read by `read`. -/
def reading {α : Type} (method : String) (params : List Json) (read : Json → Option α) :
    ServerCall α :=
  ⟨method, .array params, fun j =>
    match read j with
    | some a => .ok a
    | none => .error (.decode ("unexpected result of " ++ method))⟩

/-- The call with its result changed. -/
def map {α β : Type} (f : α → β) (c : ServerCall α) : ServerCall β :=
  ⟨c.method, c.params, fun j => (c.decode j).map f⟩

/-- Names the client and asks for a protocol; the result is the server's software and the protocol
that was agreed on. -/
def version (clientName protocol : String) : ServerCall (String × String) where
  method := Method.version
  params := .array [.string clientName, .string protocol]
  decode := fun j =>
    match Json.listOf? Json.string? j with
    | some [software, agreed] => .ok (software, agreed)
    | some other => .error (.invalidResponse (Method.version ++ " returned " ++
        toString other.length ++ " element(s)"))
    | none => .error (.decode ("unexpected result of " ++ Method.version))

def features : ServerCall ServerFeatures := reading Method.features [] ServerFeatures.ofJson?

/-- Any result will do. -/
def ping : ServerCall Unit := reading Method.ping [] fun _ => some ()

def peers : ServerCall (List Peer) := reading Method.peers [] (Json.listOf? Peer.ofJson?)

/-- The header at a height as hexadecimal text. -/
def blockHeader (height : Nat) : ServerCall String :=
  reading Method.blockHeader [.nat height] Json.string?

def blockHeaders (start count : Nat) : ServerCall HeaderBatch :=
  reading Method.blockHeaders [.nat start, .nat count] HeaderBatch.ofJson?

def headersSubscribe : ServerCall TipNotice := reading Method.headersSubscribe [] TipNotice.ofJson?

/-- The state of a script, none if it has no history. -/
def scripthashSubscribe (scripthash : String) : ServerCall (Option String) :=
  reading Method.scripthashSubscribe [.string scripthash] fun j => Json.optional Json.string? (some j)

def scripthashUnsubscribe (scripthash : String) : ServerCall Bool :=
  reading Method.scripthashUnsubscribe [.string scripthash] Json.bool?

def scripthashHistory (scripthash : String) : ServerCall (List HistoryItem) :=
  reading Method.scripthashHistory [.string scripthash] (Json.listOf? HistoryItem.ofJson?)

def scripthashUnspent (scripthash : String) : ServerCall (List UnspentItem) :=
  reading Method.scripthashUnspent [.string scripthash] (Json.listOf? UnspentItem.ofJson?)

/-- A transaction as hexadecimal text. -/
def transaction (txid : String) : ServerCall String :=
  reading Method.transaction [.string txid, .bool false] Json.string?

/-- Hands a transaction to the server; the result is its id. -/
def broadcast (raw : String) : ServerCall String :=
  reading Method.broadcast [.string raw] Json.string?

/-- The fee rate for a confirmation within a number of blocks. -/
def estimateFee (blocks : Nat) : ServerCall Float :=
  reading Method.estimateFee [.nat blocks] Json.float?

/-- A request of any method with a result of any shape. -/
def any (method : String) (params : Json) : ServerCall Json := ⟨method, params, .ok⟩

/-- The request of a method whose arguments are a text or one or two numbers, with its result written
as JSON again. Names are those of the caller; a method without a shape takes no arguments. -/
def ofMethod (clientName protocol method text : String) (first second : Nat) : ServerCall Json :=
  let list {α : Type} (write : α → Json) (all : List α) : Json := .array (all.map write)
  if method = Method.version then
    (version clientName protocol).map fun (a, b) => .array [.string a, .string b]
  else if method = Method.features then features.map (·.toJson)
  else if method = Method.ping then ping.map fun _ => .null
  else if method = Method.peers then peers.map (list (·.toJson))
  else if method = Method.blockHeader then (blockHeader first).map .string
  else if method = Method.blockHeaders then (blockHeaders first second).map (·.toJson)
  else if method = Method.headersSubscribe then headersSubscribe.map (·.toJson)
  else if method = Method.scripthashSubscribe then
    (scripthashSubscribe text).map fun state => (state.map Json.string).getD .null
  else if method = Method.scripthashUnsubscribe then (scripthashUnsubscribe text).map .bool
  else if method = Method.scripthashHistory then (scripthashHistory text).map (list (·.toJson))
  else if method = Method.scripthashUnspent then (scripthashUnspent text).map (list (·.toJson))
  else if method = Method.transaction then (transaction text).map .string
  else if method = Method.broadcast then (broadcast text).map .string
  else if method = Method.estimateFee then
    (estimateFee first).map fun rate => .number (.real rate.toBits)
  else any method (.array [])

end ServerCall
end HeaderFollower
