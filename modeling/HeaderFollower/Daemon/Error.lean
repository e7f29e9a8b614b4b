/-
# Daemon errors

Why the daemon ends with a failure.
-/

import HeaderFollower.Config.Error
import HeaderFollower.Node.Error

namespace HeaderFollower

inductive DaemonError where
  | config (cause : ConfigError)
  | node (cause : NodeError)
  | retriesExhausted (attempts : Nat)
  | logging (text : String)
  | io (text : String)
  deriving DecidableEq, Repr

def DaemonError.message : DaemonError → String
  | .config cause => "Configuration error: " ++ cause.message
  | .node cause => "Node error: " ++ cause.message
  | .retriesExhausted attempts =>
    "Reconnect attempts exhausted after " ++ toString attempts ++ " tries"
  | .logging text => "Logging setup failed: " ++ text
  | .io text => "IO error: " ++ text

end HeaderFollower
