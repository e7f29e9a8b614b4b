/-
# Configuration files

A configuration file is a TOML document with a table for each section. Sections and fields that have
a usual value may be left out, unknown ones are ignored, and of a section about costs or delays
either all or nothing has to be there. `load` reads a file and checks it, `save` writes one with
every field in it.
-/

import HeaderFollower.Config.Check
import HeaderFollower.Toml.Reader
import HeaderFollower.Toml.Writer

namespace HeaderFollower

/-- A file of the user's, as it is found. -/
inductive FoundFile where
  | missing
  /-- It cannot be read, for instance because it is a directory. -/
  | unreadable
  | content (bytes : ByteArray)

namespace Config

/-! ## Reading -/

/-- The fields of a table, each with its name in the document. -/
abbrev Lookup := String → Option Toml

/-- Reads a table whose fields have these names. -/
def record {α : Type} (names : List String) (read : Lookup → Option α) (t : Toml) : Option α :=
  if (t.field? names "").isSome then read fun name => (t.field? names name).join else none

/-- A field that has to be there. -/
def need {α : Type} (fields : Lookup) (name : String) (read : Toml → Option α) : Option α :=
  (fields name).bind read

/-- A field that may be left out. -/
def usually {α : Type} (fields : Lookup) (name : String) (usual : α) (read : Toml → Option α) :
    Option α :=
  match fields name with
  | none => some usual
  | some t => read t

/-- Names of the networks in a document. -/
def networkNames : List (String × Network) :=
  [("mainnet", .mainnet), ("testnet", .testnet), ("regtest", .regtest)]

def staleNames : List (String × StalePolicy) := [("ignore", .ignore), ("disconnect", .disconnect)]

def readNode : Toml → Option NodeSection :=
  record ["name", "network", "data_dir"] fun fields => do
    return {
      name := ← need fields "name" Toml.string?
      network := ← need fields "network" (Toml.choice? networkNames)
      dataDirectory := ← usually fields "data_dir" "" Toml.string? }

def readServer : Toml → Option ServerSection :=
  record ["address", "tls", "tls_verify", "ca_file", "protocol_version", "dial_timeout_secs",
      "request_timeout_secs", "keepalive_interval_secs", "read_timeout_secs", "check_canary"]
    fun fields => do
    return {
      address := ← need fields "address" Toml.string?
      tls := ← usually fields "tls" true Toml.boolean?
      tlsVerify := ← usually fields "tls_verify" true Toml.boolean?
      caFile := ← usually fields "ca_file" none fun t => t.string?.map some
      protocolVersion := ← usually fields "protocol_version" "1.4" Toml.string?
      dialSeconds := ← usually fields "dial_timeout_secs" 5 Toml.nat?
      requestSeconds := ← usually fields "request_timeout_secs" 30 Toml.nat?
      keepAliveSeconds := ← usually fields "keepalive_interval_secs" 10 Toml.nat?
      readSeconds := ← usually fields "read_timeout_secs" 25 Toml.nat?
      checkCanary := ← usually fields "check_canary" true Toml.boolean? }

def readHeaders : Toml → Option HeaderSection :=
  record ["start_point", "chunk_size", "rewind", "batch_threshold", "queue_depth",
      "stale_subscribe"] fun fields => do
    return {
      startPoint := ← usually fields "start_point" none fun t => t.nat?.map some
      chunkSize := ← usually fields "chunk_size" retargetSpan Toml.nat?
      rewind := ← usually fields "rewind" 8 Toml.nat?
      batchThreshold := ← usually fields "batch_threshold" 8 Toml.nat?
      queueDepth := ← usually fields "queue_depth" 8 Toml.nat?
      stalePolicy := ← usually fields "stale_subscribe" .ignore (Toml.choice? staleNames) }

def readSession : Toml → Option SessionSection :=
  record ["cost_per_byte", "error_penalty", "decay_amount", "decay_interval_ms", "soft_limit"]
    fun fields => do
    return {
      costPerByte := ← need fields "cost_per_byte" Toml.float?
      errorPenalty := ← need fields "error_penalty" Toml.float?
      decayAmount := ← need fields "decay_amount" Toml.float?
      decayMillis := ← need fields "decay_interval_ms" Toml.nat?
      softLimit := ← need fields "soft_limit" Toml.float? }

def readReconnect : Toml → Option ReconnectSection :=
  record ["initial_backoff_secs", "max_backoff_secs", "multiplier", "jitter", "max_attempts"]
    fun fields => do
    return {
      initialSeconds := ← need fields "initial_backoff_secs" Toml.nat?
      longestSeconds := ← need fields "max_backoff_secs" Toml.nat?
      multiplier := ← need fields "multiplier" Toml.float?
      jitter := ← need fields "jitter" Toml.float?
      maxAttempts := ← need fields "max_attempts" (Toml.natBelow? 0x100000000) }

def readLogging : Toml → Option LoggingSection :=
  record ["level", "format", "output", "file_path"] fun fields => do
    return {
      level := ← need fields "level" Toml.string?
      format := ← need fields "format" Toml.string?
      output := ← need fields "output" Toml.string?
      filePath := ← need fields "file_path" Toml.string? }

def readWallet : Toml → Option WalletSection :=
  record ["watch_scripthashes", "status_interval_secs"] fun fields => do
    return {
      scripthashes := ← usually fields "watch_scripthashes" [] (Toml.listOf? Toml.string?)
      statusSeconds := ← usually fields "status_interval_secs" 60 Toml.nat? }

/-- The configuration that a document spells. -/
def ofToml? : Toml → Option Config :=
  record [] fun fields => do
    return {
      node := ← need fields "node" readNode
      server := ← need fields "server" readServer
      headers := ← usually fields "headers" {} readHeaders
      session := ← usually fields "session" {} readSession
      reconnect := ← usually fields "reconnect" {} readReconnect
      logging := ← need fields "logging" readLogging
      wallet := ← usually fields "wallet" {} readWallet }

/-- Reads a file and checks what it says. -/
def load (file : FoundFile) : Except ConfigError Config :=
  match file with
  | .missing => .error (.io "no such file")
  | .unreadable => .error (.io "unreadable file")
  | .content bytes =>
    match String.fromUTF8? bytes with
    | none => .error (.io "not UTF-8")
    | some text =>
      match (Toml.parse text).bind ofToml? with
      | none => .error (.parse "not a configuration")
      | some c => c.checked

/-! ## Writing -/

def natural (n : Nat) : Toml := .integer n

def real (x : Float) : Toml := .real x.toBits

/-- The sections of a configuration with all their fields. -/
def sections (c : Config) : List (String × List (String × Toml)) :=
  let optional (name : String) : Option Toml → List (String × Toml)
    | some t => [(name, t)]
    | none => []
  [("node", [("name", .string c.node.name), ("network", .string c.network.key),
      ("data_dir", .string c.node.dataDirectory)]),
    ("server", [("address", .string c.server.address), ("tls", .boolean c.server.tls),
      ("tls_verify", .boolean c.server.tlsVerify)] ++
      optional "ca_file" (c.server.caFile.map .string) ++
      [("protocol_version", .string c.server.protocolVersion),
      ("dial_timeout_secs", natural c.server.dialSeconds),
      ("request_timeout_secs", natural c.server.requestSeconds),
      ("keepalive_interval_secs", natural c.server.keepAliveSeconds),
      ("read_timeout_secs", natural c.server.readSeconds),
      ("check_canary", .boolean c.server.checkCanary)]),
    ("headers", optional "start_point" (c.headers.startPoint.map natural) ++
      [("chunk_size", natural c.headers.chunkSize), ("rewind", natural c.headers.rewind),
      ("batch_threshold", natural c.headers.batchThreshold),
      ("queue_depth", natural c.headers.queueDepth),
      ("stale_subscribe", .string (match c.headers.stalePolicy with
        | .ignore => "ignore"
        | .disconnect => "disconnect"))]),
    ("session", [("cost_per_byte", real c.session.costPerByte),
      ("error_penalty", real c.session.errorPenalty),
      ("decay_amount", real c.session.decayAmount),
      ("decay_interval_ms", natural c.session.decayMillis),
      ("soft_limit", real c.session.softLimit)]),
    ("reconnect", [("initial_backoff_secs", natural c.reconnect.initialSeconds),
      ("max_backoff_secs", natural c.reconnect.longestSeconds),
      ("multiplier", real c.reconnect.multiplier), ("jitter", real c.reconnect.jitter),
      ("max_attempts", natural c.reconnect.maxAttempts)]),
    ("logging", [("level", .string c.logging.level), ("format", .string c.logging.format),
      ("output", .string c.logging.output), ("file_path", .string c.logging.filePath)]),
    ("wallet", [("watch_scripthashes", .array (c.wallet.scripthashes.map .string)),
      ("status_interval_secs", natural c.wallet.statusSeconds)])]

/-- The document has a number for the value: an integer is below `2 ^ 63`. -/
def fits : Toml → Bool
  | .integer n => n < 0x8000000000000000
  | _ => true

/-- Writes a file. -/
def save (c : Config) : Except ConfigError String :=
  if c.sections.all fun s => s.2.all fun m => fits m.2 then .ok (Toml.writeDocument c.sections)
  else .error (.serialize "number out of range")

/-- Reads a file that is there; otherwise the usual configuration of a network, and what is to be
written. -/
def loadOrCreate (file : FoundFile) (network : Network) :
    Except ConfigError (Config × Option String) :=
  match file with
  | .missing => (usual network).save.map fun text => (usual network, some text)
  | _ => (load file).map (·, none)

end Config
end HeaderFollower
