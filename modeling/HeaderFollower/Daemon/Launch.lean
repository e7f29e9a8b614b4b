/-
# From arguments to a daemon

What the program does before it connects anywhere: write a configuration file and end, refuse to
run, or go on with the configuration of a file, in which arguments replace what the file says. A
configuration that is not there yet is written.
-/

import HeaderFollower.Config.Document
import HeaderFollower.Daemon.Arguments
import HeaderFollower.Daemon.Supervisor

namespace HeaderFollower

/-- What the program begins with. -/
inductive Launch where
  /-- A configuration file is written, and that is all. -/
  | generated (text line : String)
  /-- The program ends with a failure, after a configuration file is written if there was none. -/
  | refused (line : String) (written : Option String)
  /-- The daemon runs, after a configuration file is written if there was none. -/
  | ready (config : Config) (written : Option String)

namespace Launch

/-- The network that the arguments or else the file name. -/
def network (args : Arguments) (file : FoundFile) : Network :=
  match args.network, Config.load file with
  | some n, _ => n
  | none, .ok c => c.network
  | none, .error _ => .mainnet

/-- What is said when no configuration file can be written. -/
def notGenerated (e : ConfigError) : String := "❌ Failed to generate config: " ++ e.message

/-- What is said when the configuration is of no use. -/
def notLoaded (e : ConfigError) : String :=
  "❌ Failed to load config: " ++ (DaemonError.config e).message

/-- Writes a configuration file. -/
def generate (args : Arguments) (file : FoundFile) : Launch :=
  match file, (Config.usual (network args file)).save with
  | .unreadable, _ => .refused (notGenerated (.io "unreadable file")) none
  | _, .error e => .refused (notGenerated e) none
  | _, .ok text => .generated text ("✅ Generated default config at: " ++ args.config)

/-- The configuration with what the arguments replace in it. -/
def replaced (args : Arguments) (c : Config) : Config :=
  { c with
    node := { c.node with network := args.network.getD c.network }
    server := { c.server with
      address := args.server.getD c.server.address
      tls := args.tls || c.server.tls } }

/-- Prepares the daemon. -/
def prepare (args : Arguments) (file : FoundFile) : Launch :=
  match Config.loadOrCreate file (network args file) with
  | .error e => .refused (notLoaded e) none
  | .ok (c, written) =>
    match (replaced args c).checked with
    | .error e => .refused (notLoaded e) written
    | .ok c => .ready c written

/-- What the program begins with. -/
def ofArguments (args : Arguments) (file : FoundFile) : Launch :=
  if args.generate then generate args file else prepare args file

end Launch

/-- The daemon of a configuration, with what the files of authorities and of headers hold, or the
reason why they cannot be read. -/
def Daemon.create (c : Config) (authorities headers : Except String (List UInt8)) :
    Except DaemonError Daemon :=
  match Node.create c authorities headers with
  | .error e => .error (.node e)
  | .ok node => .ok ⟨node, .start c.reconnectPolicy⟩

end HeaderFollower
