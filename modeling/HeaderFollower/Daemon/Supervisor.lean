/-
# The supervisor

The supervisor keeps a node connected. It starts the node, lets a session run, and looks at how it
ended: after a lost connection it waits and tries again, after anything else it gives up. Delays
start again after a session that got beyond catching up.
-/

import HeaderFollower.Daemon.Log
import HeaderFollower.Node.Request
import HeaderFollower.Node.Session
import HeaderFollower.Node.Start

namespace HeaderFollower

/-- A node that is kept connected. -/
structure Daemon where
  node : Node
  backoff : Backoff

/-- What the supervisor does next. -/
inductive Verdict where
  | finished (result : Except DaemonError Unit)
  /-- It tries again. -/
  | again (delay : Duration) (cause : NodeError) (attempt : Nat)

/-- Seconds with one place behind the point. -/
def Duration.tenths (d : Duration) : String :=
  let n := Binary64.divideNearest d.nanos 100000000
  toString (n / 10) ++ "." ++ toString (n % 10)

/-- What is said about a verdict. -/
def Verdict.lines : Verdict → List LogLine
  | .finished (.ok ()) => []
  | .finished (.error e) =>
    let cause := match e with
      | .node c =>
        match c.failureClass with
        | .protocol => [⟨.error, "🚫 Server rejected: " ++ c.message⟩]
        | .chain => [⟨.error, "🛑 Header chain needs attention: " ++ c.message⟩]
        | .connection => []
      | _ => []
    cause ++ [e.line]
  | .again delay cause attempt =>
    [⟨.warn, "🔌 Connection lost (" ++ cause.message ++ "); reconnecting in " ++ delay.tenths ++
      "s (attempt " ++ toString attempt ++ ")"⟩]

namespace Daemon

/-- After a session: delays start again if it got beyond catching up. -/
def noteSession (d : Daemon) : Daemon :=
  match d.node.phase? with
  | none => d
  | some .bulkSync => d
  | some _ => { d with backoff := d.backoff.reset }

/-- What to do after a start that failed or a session that ended. The delay is spread by the fraction
`spread` of itself. -/
def judge (d : Daemon) (outcome : Except NodeError Unit) (spread : Float) : Verdict × Daemon :=
  match outcome with
  | .ok () => (.finished (.ok ()), d)
  | .error e =>
    if d.node.stopped then (.finished (.ok ()), d)
    else
      match e.failureClass with
      | .connection =>
        match d.backoff.next? spread with
        | (.after delay, backoff) => (.again delay e backoff.attempts, { d with backoff })
        | (.exhausted, backoff) =>
          (.finished (.error (.retriesExhausted backoff.attempts)), { d with backoff })
        | (.undefined, backoff) =>
          (.finished (.error (.io "the delay has no length")), { d with backoff })
      | _ => (.finished (.error (.node e)), d)

/-- One attempt: a start, and if it works, a session to which these things happen. None if the
session has not ended then. -/
def attempt {ω : Type} (remote : Remote ω) (inputs : List SessionInput) (spread : Float) (d : Daemon)
    (w : ω) : Option Verdict × Daemon × ω :=
  if d.node.stopped then (some (.finished (.ok ())), d, w)
  else
    match d.node.start.run remote w with
    | ((.error e, node), w) =>
      let (v, d) := { d with node }.judge (.error e) spread
      (some v, d, w)
    | ((.ok (), node), w) =>
      let (ended, node) := match node.run with
        | (some r, node) => (some r, node)
        | (none, node) => node.stepAll inputs
      match ended with
      | none => (none, { d with node }, w)
      | some r =>
        let (v, d) := ({ d with node }.noteSession).judge r spread
        (some v, d, w)

/-- At most `fuel` attempts without anything happening in their sessions, until one is the last. -/
def runAlone {ω : Type} (remote : Remote ω) : Nat → Daemon → ω → List Verdict × Daemon
  | 0, d, _ => ([], d)
  | fuel + 1, d, w =>
    match d.attempt remote [] 0.0 w with
    | (none, d, _) => ([], d)
    | (some (.finished r), d, _) => ([.finished r], d)
    | (some v, d, w) =>
      let (later, d) := d.runAlone remote fuel w
      (v :: later, d)

theorem retriesExhausted_of_judge {d e : Daemon} {outcome : Except NodeError Unit} {spread : Float}
    {n : Nat} (h : d.judge outcome spread = (.finished (.error (.retriesExhausted n)), e)) :
    d.backoff.policy.maxAttempts ≠ 0 ∧ d.backoff.policy.maxAttempts ≤ n := by
  unfold judge at h
  repeat' split at h
  all_goals simp only [Prod.mk.injEq, Verdict.finished.injEq, Except.error.injEq, reduceCtorEq,
    DaemonError.retriesExhausted.injEq, false_and] at h
  rename_i hb
  obtain ⟨rfl, hmax⟩ := Backoff.attempts_of_exhausted hb
  exact h.1 ▸ hmax

end Daemon
end HeaderFollower
