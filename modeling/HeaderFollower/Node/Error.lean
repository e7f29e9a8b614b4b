/-
# Node errors

Why a session with a server could not be started or ended. Each error belongs to one of three
classes, which say what the supervisor does next: reconnect, give up on the server, or leave the
stored chain to an operator.
-/

import HeaderFollower.Sync.Error

namespace HeaderFollower

/-- Whom a failure is put down to. -/
inductive FailureClass where
  /-- The connection went away; another one may work. -/
  | connection
  /-- The server cannot be trusted. -/
  | protocol
  /-- The stored chain needs an operator. -/
  | chain
  deriving DecidableEq, Repr

def FailureClass.name : FailureClass → String
  | .connection => "Connection"
  | .protocol => "Protocol"
  | .chain => "Chain"

inductive NodeError where
  | client (cause : ClientError)
  | sync (cause : SyncError)
  | chain (cause : ChainError)
  | tls (cause : TlsError)
  | genesisMismatch (expected actual : String)
  | canaryFailed (txid reason : String)
  | notConnected
  | alreadyRunning
  deriving DecidableEq, Repr

namespace NodeError

def message : NodeError → String
  | .client cause => "client error: " ++ cause.message
  | .sync cause => "sync error: " ++ cause.message
  | .chain cause => "header store error: " ++ cause.message
  | .tls cause => "TLS setup failed: " ++ cause.message
  | .genesisMismatch expected actual =>
    "genesis mismatch: expected " ++ expected ++ ", server reports " ++ actual
  | .canaryFailed txid reason => "canary transaction " ++ txid ++ " check failed: " ++ reason
  | .notConnected => "node is not connected"
  | .alreadyRunning => "node is already running"

/-- A short name for the error, with that of its cause behind a slash. -/
def kind : NodeError → String
  | .client cause => "Client/" ++ cause.kind
  | .sync cause => "Sync/" ++ cause.kind
  | .chain cause => "Chain/" ++ cause.kind
  | .tls cause => "Tls/" ++ cause.kind
  | .genesisMismatch _ _ => "GenesisMismatch"
  | .canaryFailed _ _ => "CanaryFailed"
  | .notConnected => "NotConnected"
  | .alreadyRunning => "AlreadyRunning"

/-- The class of an error that stopped the synchronizer. -/
def syncClass (e : SyncError) : FailureClass :=
  if e.chainFatal then .chain
  else
    match e with
    | .chain _ => .chain
    | .client _ => .connection
    | .staleSubscribe _ _ => .connection
    | _ => if e.fatal then .protocol else .connection

/-- What the supervisor should make of the error. -/
def failureClass : NodeError → FailureClass
  | .client cause => if cause.connectionFatal then .connection else .protocol
  | .sync cause => syncClass cause
  | .chain _ => .chain
  | .tls _ => .protocol
  | .genesisMismatch _ _ => .protocol
  | .canaryFailed _ _ => .protocol
  | .notConnected => .connection
  | .alreadyRunning => .protocol

/-- The supervisor may try again. -/
def retryable (e : NodeError) : Bool := e.failureClass == .connection

end NodeError
end HeaderFollower
