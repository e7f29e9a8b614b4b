/-
# The node

A node owns the stored headers and the event streams for as long as the program runs, and holds at
most one connection at a time. Connections come and go (`Node/Start`), a session follows the server
on one of them (`Node/Session`), and between the two a caller can ask the server for other things
(`Node/Request`).
-/

import HeaderFollower.Config.Basic
import HeaderFollower.Node.Error
import HeaderFollower.Sync.Follow
import HeaderFollower.Tls.Trust

namespace HeaderFollower

/-- How far a session has come. -/
inductive SessionStage where
  | catchingUp (call : CatchUp)
  | following (follow : Follow)
  | ended (result : Except SyncError Unit)

/-- One end of a connection. -/
structure Link where
  /-- It has not been torn down. -/
  alive : Bool := true
  deriving DecidableEq, Repr

/-- A node. -/
structure Node where
  network : Network
  address : ServerAddress
  /-- Which servers are trusted, on a TLS connection. -/
  trust : Option Trust
  clientSettings : ClientSettings
  checkCanary : Bool
  /-- The stored headers, the event streams, and how far the last session has come. -/
  sync : Synchronizer
  /-- There has been a session. -/
  synchronized : Bool := false
  connection : Option Link := none
  /-- The tips that the server pushes are still to be handed to a session. -/
  tipsWaiting : Bool := false
  /-- What is subscribed again on each connection, sorted. -/
  watched : List String := []
  session : Option SessionStage := none
  /-- The node has been stopped for good. -/
  stopped : Bool := false

namespace Node

/-- A node as the configuration says, with what its file of authorities and its file of headers hold,
or the reason why they cannot be read. The file of authorities may not be asked for. -/
def create (c : Config) (authorities headers : Except String (List UInt8)) :
    Except NodeError Node :=
  match c.address? with
  | none => .error (.client (.connect (.invalidAddress c.server.address)))
  | some address =>
    let trust : Except TlsError (Option Trust) :=
      if address.isTls then
        (Trust.ofSettings c.server.tlsVerify (c.server.caFile.map fun _ => authorities)).map some
      else .ok none
    match trust with
    | .error e => .error (.tls e)
    | .ok trust =>
      match headers.mapError ChainError.io with
      | .error e => .error (.chain e)
      | .ok bytes =>
        match Store.openOn c.startPoint c.network.headerSize (some bytes) with
        | .error e => .error (.chain e)
        | .ok store => .ok {
            network := c.network
            address
            trust
            clientSettings := c.clientSettings
            checkCanary := c.server.checkCanary
            sync := .start c.syncSettings store (.start 64) }

def store (n : Node) : Store := n.sync.store

def events (n : Node) : ChainEvents := n.sync.events

def withEvents (n : Node) (events : ChainEvents) : Node := { n with sync := { n.sync with events } }

/-- How far the last session has come. -/
def phase? (n : Node) : Option SyncPhase := if n.synchronized then some n.sync.phase else none

/-- The connection, unless it has been torn down. -/
def client? (n : Node) : Option Link := n.connection.filter (·.alive)

/-- Closes the connection. -/
def disconnect (n : Node) : Node := { n with connection := none, tipsWaiting := false }

/-- Stops the node for good. -/
def stop (n : Node) : Node := { n.disconnect with stopped := true }

/-- The connection breaks. -/
def lose (n : Node) : Node := { n with connection := n.connection.map fun _ => ⟨false⟩ }

/-- A snapshot for reports. -/
structure Status where
  connected : Bool
  tip : Option Nat
  synced : Bool
  phase : Option SyncPhase
  /-- The height that the tip is held at while headers are fetched again. -/
  pinned : Option Nat

def status (n : Node) : Status :=
  ⟨n.client?.isSome, n.store.tip, n.store.synced, n.phase?, n.store.pinned⟩

/-- A snapshot as a record. Of the server and of the session cost it only says whether there is one. -/
def Status.report (s : Status) : Json :=
  .mkObject [("connected", .bool s.connected), ("peer", .bool s.connected),
    ("tip", (s.tip.map Json.nat).getD .null), ("synced", .bool s.synced),
    ("state", (s.phase.map fun p => Json.string p.text).getD .null),
    ("recovery", .array [.bool s.pinned.isSome, .nat (s.pinned.getD 0)]),
    ("cost", .bool s.connected)]

theorem connected_disconnect (n : Node) : n.disconnect.status.connected = false := rfl

end Node
end HeaderFollower
