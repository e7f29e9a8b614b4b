/-
# What a configuration comes to

A report of the settings in force, with everything filled in that the file may leave out, and of what
goes with a network. Lengths of time are whole nanoseconds as text.
-/

import HeaderFollower.Config.Basic
import HeaderFollower.Json.Basic

namespace HeaderFollower

/-- A length of time as text. -/
def Duration.report (d : Duration) : Json := .string (toString d.nanos)

/-- Text that may be missing. -/
def textOrNull : Option String → Json
  | some s => .string s
  | none => .null

/-- What is known of a network, for a user with this home directory. -/
def Network.report (n : Network) (home : String) : Json :=
  .mkObject [("display", .string n.title), ("genesis", .string n.genesisHash),
    ("start_point", .nat n.startPoint), ("header_size", .nat n.headerSize),
    ("chunk_size", .nat n.chunkSize), ("tcp", .nat n.tcpPort), ("tls", .nat n.tlsPort),
    ("canary", textOrNull n.canary?), ("subdir", .string n.key),
    ("data_dir", .string (joinPath (baseDirectory home) n.key)),
    ("base_dir", .string (baseDirectory home)), ("json", .string n.key)]

namespace Config

def realReport (x : Float) : Json := .number (.real x.toBits)

def clientReport (s : ClientSettings) : Json :=
  .mkObject [("name", .string s.clientName), ("protocol", .string s.protocolVersion),
    ("dial", s.dialTimeout.report), ("request", s.requestTimeout.report),
    ("keepalive", s.keepAlive.report), ("read", s.readTimeout.report),
    ("buffer", .nat s.notificationBuffer)]

def costReport (s : CostSettings) : Json :=
  .mkObject [("per_byte", realReport s.perByte), ("penalty", realReport s.errorPenalty),
    ("decay", realReport s.decayAmount), ("interval", s.decayInterval.report),
    ("soft", realReport s.softLimit)]

def syncReport (s : SyncSettings) : Json :=
  .mkObject [("chunk", .nat s.chunkSize), ("rewind", .nat s.rewind),
    ("threshold", .nat s.batchThreshold), ("queue", .nat s.queueDepth),
    ("stale", .string (match s.stalePolicy with
      | .ignore => "Ignore"
      | .disconnect => "Disconnect")),
    ("waits", .nat s.maxThrottleWaits)]

def reconnectReport (p : ReconnectPolicy) : Json :=
  .mkObject [("initial", p.initial.report), ("max", p.longest.report),
    ("multiplier", realReport p.multiplier), ("jitter", realReport p.jitter),
    ("max_attempts", .nat p.maxAttempts)]

/-- The settings in force for a user with this home directory. -/
def report (c : Config) (home : String) : Json :=
  .mkObject [("name", .string c.node.name), ("network", .string c.network.title),
    ("data_dir", .string (c.dataDirectory home)), ("header_path", .string (c.headerPath home)),
    ("start_point", .nat c.startPoint),
    ("start_point_set", (c.headers.startPoint.map Json.nat).getD .null),
    ("address", textOrNull (c.address?.map (·.display))),
    ("server_address", .string c.server.address), ("tls", .bool c.server.tls),
    ("tls_verify", .bool c.server.tlsVerify), ("ca_file", textOrNull c.server.caFile),
    ("check_canary", .bool c.server.checkCanary), ("client", clientReport c.clientSettings),
    ("cost", costReport c.costSettings), ("sync", syncReport c.syncSettings),
    ("reconnect", reconnectReport c.reconnectPolicy),
    ("logging", .array [.string c.logging.level, .string c.logging.format,
      .string c.logging.output, .string c.logging.filePath]),
    ("watch", .array (c.wallet.scripthashes.map .string)),
    ("status_interval", .nat c.wallet.statusSeconds)]

end Config
end HeaderFollower
