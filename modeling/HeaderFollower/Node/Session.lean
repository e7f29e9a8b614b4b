/-
# Sessions

A session follows the server on the node's connection: it catches up, subscribes to the tip, and
handles one tip after the other. Whatever can happen to it is an input, and inputs come in any order.

A session ends well only when the node is stopped. However it ends, the connection is closed.
-/

import HeaderFollower.Node.Basic

namespace HeaderFollower

/-- What can happen to a session. -/
inductive SessionInput where
  /-- An answer to the query that the session waits for; an answer to another query is of no use. -/
  | answer (query : Query) (answer : query.Answer)
  /-- The answer to the subscription. -/
  | subscribed (reply : Except ClientError TipNotice)
  /-- The forwarder takes a pushed tip. -/
  | pushed (notice : TipNotice)
  /-- The forwarder puts a tip into the room set aside for it. -/
  | deliver
  /-- The forwarder finds that the connection has no more tips. -/
  | noMoreTips
  /-- The worker looks for something to do. -/
  | wake

/-- The stage that a catch-up leads to: after it the tip is followed. -/
def SessionStage.afterCatchUp : Progress CatchUp Nat → Nat → SessionStage
  | .waiting call, _ => .catchingUp call
  | .done (.error e), _ => .ended (.error e)
  | .done (.ok _), queueDepth => .following (.start queueDepth)

/-- The stage of a session that follows. -/
def SessionStage.ofFollow (f : Follow) : SessionStage :=
  match f.worker with
  | .ended result => .ended result
  | _ => .following f

/-- The query that a session waits for. -/
def SessionStage.query? : SessionStage → Option Query
  | .catchingUp call => some call.query
  | .following f =>
    match f.worker with
    | .handling call => some call.query
    | _ => none
  | .ended _ => none

namespace Node

/-- A step of a session. -/
def advance (n : Node) (stage : SessionStage) (input : SessionInput) : SessionStage × Synchronizer :=
  match stage, input with
  | .catchingUp call, .answer query answer =>
    if h : query = call.query then
      let (p, sync) := n.sync.resumeCatchUp call (h ▸ answer)
      (.afterCatchUp p sync.settings.queueDepth, sync)
    else (stage, n.sync)
  | .catchingUp _, .wake => (if n.stopped then .ended (.ok ()) else stage, n.sync)
  | .following f, .answer query answer =>
    match f.worker with
    | .handling call =>
      if h : query = call.query then
        let (f, sync) := f.answered n.sync call (h ▸ answer)
        (.ofFollow f, sync)
      else (stage, n.sync)
    | _ => (stage, n.sync)
  | .following f, .subscribed reply => (.ofFollow (f.subscribed reply), n.sync)
  | .following f, .pushed notice => (.ofFollow (f.accept notice), n.sync)
  | .following f, .deliver => (.ofFollow f.deliver, n.sync)
  | .following f, .noMoreTips => (.ofFollow f.sinkClosed, n.sync)
  | .following f, .wake =>
    let (f, sync) := f.wake n.sync n.stopped
    (.ofFollow f, sync)
  | _, _ => (stage, n.sync)

/-- What a session that has ended comes to. A failure does not count once the node is stopped. -/
def sessionResult (n : Node) : Except SyncError Unit → Except NodeError Unit
  | .ok () => .ok ()
  | .error e => if n.stopped then .ok () else .error (.sync e)

/-- The end of a session. -/
def conclude (n : Node) : Option (Except NodeError Unit) × Node :=
  match n.session with
  | some (.ended result) => (some (n.sessionResult result), { n.disconnect with session := none })
  | _ => (none, n)

/-- Begins a session on the node's connection; the result is there if it ends at once. -/
def run (n : Node) : Option (Except NodeError Unit) × Node :=
  if n.session.isSome then (some (.error .alreadyRunning), n)
  else if n.client?.isNone ∨ ¬ n.tipsWaiting then (some (.error .notConnected), n.disconnect)
  else
    let (p, sync) := { n.sync with phase := .bulkSync }.beginCatchUp
    { n with
      sync
      synchronized := true
      tipsWaiting := false
      session := some (.afterCatchUp p sync.settings.queueDepth) }.conclude

/-- Something happens to the session; the result is there once the session has ended. -/
def step (n : Node) (input : SessionInput) : Option (Except NodeError Unit) × Node :=
  match n.session with
  | none => (none, n)
  | some stage =>
    let (stage, sync) := n.advance stage input
    { n with sync, session := some stage }.conclude

/-- Things happen to the session until it ends. -/
def stepAll (n : Node) : List SessionInput → Option (Except NodeError Unit) × Node
  | [] => (none, n)
  | input :: rest =>
    match n.step input with
    | (some r, n) => (some r, n)
    | (none, n) => n.stepAll rest

theorem conclude_of_ended {n m : Node} {r : Except NodeError Unit}
    (h : n.conclude = (some r, m)) : m.session = none ∧ m.status.connected = false := by
  unfold conclude at h
  split at h
  · obtain ⟨-, rfl⟩ := Prod.mk.inj h
    exact ⟨rfl, rfl⟩
  · simp at h

end Node
end HeaderFollower
