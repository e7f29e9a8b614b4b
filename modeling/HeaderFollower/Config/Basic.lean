/-
# Configuration

One section for each concern, in the units of the configuration file. Everything that runs takes its
settings from here: `clientSettings`, `syncSettings`, `reconnectPolicy`, and where the headers are
kept.
-/

import HeaderFollower.Address
import HeaderFollower.Backoff
import HeaderFollower.Client.Basic
import HeaderFollower.Sync.Basic

namespace HeaderFollower

/-- The version that the program gives of itself. -/
def programVersion : String := "0.3.2"

/-- Who runs, and on which network. -/
structure NodeSection where
  name : String
  network : Network
  /-- Where files are kept; empty for the usual place. -/
  dataDirectory : String := ""

/-- The server and how to talk to it. -/
structure ServerSection where
  address : String
  /-- An address without a scheme means TLS. -/
  tls : Bool := true
  /-- The server has to show a certificate that can be verified. -/
  tlsVerify : Bool := true
  /-- A file with certificates to be trusted besides the usual ones. -/
  caFile : Option String := none
  protocolVersion : String := "1.4"
  dialSeconds : Nat := 5
  requestSeconds : Nat := 30
  keepAliveSeconds : Nat := 10
  readSeconds : Nat := 25
  /-- The server has to show a well-known transaction. -/
  checkCanary : Bool := true

/-- What headers are kept and how they are fetched. -/
structure HeaderSection where
  /-- The height below which no headers are kept, if not the network's. -/
  startPoint : Option Nat := none
  chunkSize : Nat := retargetSpan
  rewind : Nat := 8
  batchThreshold : Nat := 8
  queueDepth : Nat := 8
  stalePolicy : StalePolicy := .ignore

/-- What the server charges for. -/
structure SessionSection where
  costPerByte : Float := 1.0 / 5000.0
  errorPenalty : Float := 10.0
  decayAmount : Float := 10000.0 / 3600.0
  decayMillis : Nat := 1000
  softLimit : Float := 1000.0

/-- When to connect again. -/
structure ReconnectSection where
  initialSeconds : Nat := 2
  longestSeconds : Nat := 300
  multiplier : Float := 1.5
  jitter : Float := 0.2
  maxAttempts : Nat := 0

/-- What is written about the work. -/
structure LoggingSection where
  level : String
  /-- `pretty` or `json`. -/
  format : String
  /-- `stdout` or `file`. -/
  output : String
  filePath : String

/-- What is watched. -/
structure WalletSection where
  scripthashes : List String := []
  /-- Seconds between two status lines, 0 for none. -/
  statusSeconds : Nat := 60

/-- A configuration. -/
structure Config where
  node : NodeSection
  server : ServerSection
  headers : HeaderSection := {}
  session : SessionSection := {}
  reconnect : ReconnectSection := {}
  logging : LoggingSection
  wallet : WalletSection := {}

/-- The path of a file in a directory. -/
def joinPath (directory file : String) : String :=
  if directory = "" then file
  else if directory.endsWith "/" then directory ++ file
  else directory ++ "/" ++ file

/-- The directory of all networks' files, in the home directory of the user. -/
def baseDirectory (home : String) : String := joinPath home ".electrumx-sync"

namespace Config

/-- A server that is known to exist. -/
def usualServer : Network → String
  | .mainnet => "ssl://electrum.blockstream.info:50002"
  | .testnet => "ssl://electrum.blockstream.info:60002"
  | .regtest => "tcp://127.0.0.1:50001"

/-- The configuration that stands where none is written. -/
def usual (network : Network) : Config where
  node := { name := "exsyncd", network }
  server := { address := usualServer network, tls := network != .regtest }
  logging :=
    { level := "info", format := "pretty", output := "stdout", filePath := "./logs/exsyncd.log" }

def network (c : Config) : Network := c.node.network

/-- Where files are kept. -/
def dataDirectory (c : Config) (home : String) : String :=
  if c.node.dataDirectory = "" then joinPath (baseDirectory home) c.network.key
  else c.node.dataDirectory

/-- The file of headers. -/
def headerPath (c : Config) (home : String) : String :=
  joinPath (c.dataDirectory home) "headers.bin"

/-- The height below which no headers are kept. -/
def startPoint (c : Config) : Nat := c.headers.startPoint.getD c.network.startPoint

/-- The server's address. -/
def address? (c : Config) : Option ServerAddress :=
  ServerAddress.parse c.server.address c.network c.server.tls

def costSettings (c : Config) : CostSettings where
  perByte := c.session.costPerByte
  errorPenalty := c.session.errorPenalty
  decayAmount := c.session.decayAmount
  decayInterval := .ofMillis c.session.decayMillis
  softLimit := c.session.softLimit

def clientSettings (c : Config) : ClientSettings where
  clientName := c.node.name ++ "/" ++ programVersion
  protocolVersion := c.server.protocolVersion
  dialTimeout := .ofSeconds c.server.dialSeconds
  requestTimeout := .ofSeconds c.server.requestSeconds
  keepAlive := .ofSeconds c.server.keepAliveSeconds
  readTimeout := .ofSeconds c.server.readSeconds
  cost := c.costSettings

def syncSettings (c : Config) : SyncSettings where
  chunkSize := c.headers.chunkSize
  rewind := c.headers.rewind
  batchThreshold := c.headers.batchThreshold
  queueDepth := c.headers.queueDepth
  stalePolicy := c.headers.stalePolicy

def reconnectPolicy (c : Config) : ReconnectPolicy where
  initial := .ofSeconds c.reconnect.initialSeconds
  longest := .ofSeconds c.reconnect.longestSeconds
  multiplier := c.reconnect.multiplier
  jitter := c.reconnect.jitter
  maxAttempts := c.reconnect.maxAttempts

end Config
end HeaderFollower
