/-
# Synchronizer errors

What can go wrong while the stored headers follow a server. A fatal error ends the session; the
others are waited out until the next tip. A chain-fatal error needs an operator.
-/

import HeaderFollower.Client.Error
import HeaderFollower.Store.Error

namespace HeaderFollower

inductive SyncError where
  | client (cause : ClientError)
  | chain (cause : ChainError)
  /-- Going back reached the start point without finding a common header. -/
  | exhausted (tip : Option Nat) (startPoint : Nat)
  /-- A tip below the start point was notified. -/
  | misbehaving (height startPoint : Nat)
  /-- A batch does not hold what was asked for. -/
  | batchMismatch (start requested count bytes : Nat)
  | malformedHeaders (start : Nat) (reason : String)
  /-- The server's tip is behind the local one, and that is not tolerated. -/
  | staleSubscribe (server localTip : Nat)
  | badNotification (reason : String)
  deriving DecidableEq, Repr

namespace SyncError

def message : SyncError → String
  | .client cause => "client error: " ++ cause.message
  | .chain cause => "chain error: " ++ cause.message
  | .exhausted tip startPoint =>
    "reorg recovery exhausted: tip " ++ heightText tip ++
      " is within rewind distance of start point " ++ toString startPoint
  | .misbehaving height startPoint =>
    "server misbehaving: notified height " ++ toString height ++ " is below start point " ++
      toString startPoint
  | .batchMismatch start requested count bytes =>
    "header batch mismatch at " ++ toString start ++ ": requested " ++ toString requested ++
      ", server reported count " ++ toString count ++ " with " ++ toString bytes ++ " bytes"
  | .malformedHeaders start reason =>
    "malformed header data at " ++ toString start ++ ": " ++ reason
  | .staleSubscribe server localTip =>
    "stale subscribe response: server tip " ++ toString server ++ " behind local tip " ++
      toString localTip
  | .badNotification reason => "notification header is malformed: " ++ reason

/-- A short name for the error, with that of its cause behind a slash. -/
def kind : SyncError → String
  | .client cause => "Client/" ++ cause.kind
  | .chain cause => "Chain/" ++ cause.kind
  | .exhausted _ _ => "Exhausted"
  | .misbehaving _ _ => "Misbehaving"
  | .batchMismatch _ _ _ _ => "BatchMismatch"
  | .malformedHeaders _ _ => "MalformedHeaders"
  | .staleSubscribe _ _ => "StaleSubscribe"
  | .badNotification _ => "BadNotification"

/-- The error ends the session. -/
def fatal : SyncError → Bool
  | .client cause => cause.connectionFatal
  | .chain _ => true
  | .exhausted _ _ => true
  | .misbehaving _ _ => true
  | .batchMismatch _ _ _ _ => false
  | .malformedHeaders _ _ => false
  | .staleSubscribe _ _ => true
  | .badNotification _ => false

/-- The error needs an operator. -/
def chainFatal : SyncError → Bool
  | .exhausted _ _ => true
  | .chain cause => cause.corruption
  | _ => false

end SyncError
end HeaderFollower
