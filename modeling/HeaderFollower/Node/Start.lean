/-
# Starting a node

A start makes a connection and lets the server show that it speaks the protocol and follows the
node's network: by the genesis hash that it names, by the genesis header that it sends, and, where
there is one, by a well-known transaction. Only then does the node keep the connection and subscribe
again what is watched.
-/

import HeaderFollower.Node.Basic
import HeaderFollower.Node.Dialogue

namespace HeaderFollower

/-- The texts differ at most in the case of ASCII letters. -/
def sameUpToCase (a b : String) : Bool := a.toList.map Char.toLower == b.toList.map Char.toLower

namespace Node

/-- A check of the server on a connection. -/
abbrev ServerCheck := Link → Dialogue (Except NodeError Unit × Link)

/-- The server speaks a protocol version that it can name. -/
def checkVersion (n : Node) : ServerCheck := fun c => do
  let (r, c) ← c.ask (.version n.clientSettings.clientName n.clientSettings.protocolVersion)
  match r with
  | .error e => return (.error (.client e), c)
  | .ok _ => return (.ok (), c)

/-- The server names the network's genesis hash. -/
def checkFeatures (n : Node) : ServerCheck := fun c => do
  let (r, c) ← c.ask .features
  match r with
  | .error e => return (.error (.client e), c)
  | .ok features =>
    if sameUpToCase features.genesisHash n.network.genesisHash then return (.ok (), c)
    else return (.error (.genesisMismatch n.network.genesisHash features.genesisHash), c)

/-- What is wrong with a header that should be the network's genesis header. -/
def genesisFault? (n : Node) (text : String) : Option NodeError :=
  match BlockHeader.ofHex n.network.headerSize text with
  | .error e => some (.client (.invalidResponse ("genesis header: " ++ e.message)))
  | .ok header =>
    if header.hash = n.network.genesis.hash then none
    else some (.genesisMismatch n.network.genesisHash header.hash.display)

/-- The server sends the network's genesis header. -/
def checkGenesis (n : Node) : ServerCheck := fun c => do
  let (r, c) ← c.ask (.blockHeader 0)
  match r with
  | .error e => return (.error (.client e), c)
  | .ok text =>
    match n.genesisFault? text with
    | some e => return (.error e, c)
    | none => return (.ok (), c)

/-- What is wrong with a transaction that should have the id `txid`. -/
def canaryFault? (txid text : String) : Option String :=
  match Hex.decode (Text.trim text) with
  | .error e => some e.message
  | .ok raw =>
    let actual := (Hash256.ofMessage raw).display
    if sameUpToCase actual txid then none else some ("server returned transaction " ++ actual)

/-- The server sends the transaction with the id `txid`. -/
def checkTransaction (txid : String) : ServerCheck := fun c => do
  let (r, c) ← c.ask (.transaction txid)
  match r with
  | .error e =>
    if e.connectionFatal then return (.error (.client e), c)
    else return (.error (.canaryFailed txid e.message), c)
  | .ok text =>
    match canaryFault? txid text with
    | some reason => return (.error (.canaryFailed txid reason), c)
    | none => return (.ok (), c)

/-- All checks in their order. -/
def checks (n : Node) : List ServerCheck :=
  [n.checkVersion, n.checkFeatures, n.checkGenesis] ++
    match n.checkCanary, n.network.canary? with
    | true, some txid => [checkTransaction txid]
    | _, _ => []

/-- Makes checks one after the other until one fails. -/
def inTurn : List ServerCheck → ServerCheck
  | [], c => return (.ok (), c)
  | check :: rest, c => do
    let (r, c) ← check c
    match r with
    | .error e => return (.error e, c)
    | .ok () => inTurn rest c

/-- Subscribes scripthashes one after the other. Only an error that ends the connection ends this
too. -/
def resubscribe : List String → Link → Dialogue (Except NodeError Unit × Link)
  | [], c => return (.ok (), c)
  | scripthash :: rest, c => do
    let (r, c) ← c.ask (.scripthashSubscribe scripthash)
    match r with
    | .error e => if e.connectionFatal then return (.error (.client e), c) else resubscribe rest c
    | .ok _ => resubscribe rest c

/-- Makes a connection and checks the server. A connection that was there before is closed. -/
def start (n : Node) : Dialogue (Except NodeError Unit × Node) :=
  if n.stopped then return (.error (.client .cancelled), n)
  else
    let n := n.disconnect
    .dial n.address fun
      | .error e => return (.error (.client (.connect e)), n)
      | .ok () => do
        let (checked, c) ← inTurn n.checks {}
        match checked with
        | .error e => return (.error e, n)
        | .ok () =>
          let (r, c) ← resubscribe n.watched c
          return (r, { n with connection := some c, tipsWaiting := true })

end Node
end HeaderFollower
