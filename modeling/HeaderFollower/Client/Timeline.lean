/-
# A connection in time

A timeline lets the tasks of a connection take their turns in a fixed order, each as soon as it can,
and lets time pass only when none can. The transport may be one that takes a limited number of bytes
and then stalls.

Every turn is a step of `Client.step`, so what holds of all runs holds of a timeline.
-/

import HeaderFollower.Client.Step

namespace HeaderFollower
namespace Client

/-- What a call does next, if it can do anything; `stalled` says that the transport takes nothing. -/
def nextOfCall? (s : Client) (stalled : Bool) (c : Nat) (call : ClientCall) : Option ClientAction :=
  match call.stage with
  | .entered | .admitted | .numbered _ _ | .registered _ _ | .released _ _ => some (.proceed c)
  | .queued _ _ deadline =>
    if s.shutdown then some (.noticeShutdown c)
    else if call.cancelled then some (.giveUp c)
    else if deadline ≤ s.now then some (.timeOut c)
    else if s.writer.owner.isNone ∧ s.writer.waiting.head? = some (.call c) then some (.proceed c)
    else none
  | .writing _ _ deadline =>
    if s.writer.out.isEmpty then some (.proceed c)
    else if ¬ stalled then some (.write c s.writer.out.offered.length)
    else if s.shutdown then some (.noticeShutdown c)
    else if call.cancelled then some (.giveUp c)
    else if deadline ≤ s.now then some (.timeOut c)
    else none
  | .waiting _ deadline =>
    if call.inbox.isSome then some (.proceed c)
    else if call.cancelled then some (.giveUp c)
    else if deadline ≤ s.now then some (.timeOut c)
    else none
  | .parked _ => if call.inbox.isSome then some (.proceed c) else none
  | .finished _ => none

/-- What the reader does next. -/
def nextOfReader? (s : Client) : Option ClientAction :=
  if ¬ s.source.running then none
  else if ¬ s.source.arrived.isEmpty ∨ s.source.ended then some .readLine
  else if s.shutdown then some .stopReading
  else if s.readDeadline ≤ s.now then some .readTimeOut
  else none

/-- What the one who closes the connection does next. -/
def nextOfCloser? (s : Client) (stalled : Bool) : Option ClientAction :=
  match s.writer.owner with
  | none => if s.writer.waiting.head? = some .closer then some .closerTakes else none
  | some .closer =>
    if s.writer.out.buffer.isEmpty then some .closerEnds
    else if stalled then none
    else some (.closerWrites s.writer.out.buffer.length)
  | some (.call _) => none

/-- What the keep-alive does next. -/
def nextOfKeepAlive? (s : Client) : Option ClientAction :=
  match s.keepAlive with
  | .resting next =>
    if s.shutdown then some .pinged else if next ≤ s.now then some .ping else none
  | .pinging c _ =>
    match s.stage? c with
    | some (.finished _) => some .pinged
    | _ => none
  | .stopped => none

/-- The next turn of all. -/
def nextAction? (s : Client) (stalled : Bool) : Option ClientAction :=
  match s.closing with
  | .marked _ | .signalled _ | .draining _ _ => some .tearDown
  | .notYet | .done =>
    s.nextOfReader?
      <|> s.calls.zipIdx.findSome? (fun (call, c) => s.nextOfCall? stalled c call)
      <|> s.nextOfCloser? stalled
      <|> s.nextOfKeepAlive?

/-- The times at which something is due. -/
def dueTimes (s : Client) : List Nat :=
  let reading := if s.source.running then [s.readDeadline] else []
  let resting := match s.keepAlive with
    | .resting next => [next]
    | _ => []
  let deadlines := s.calls.filterMap fun call =>
    match call.stage with
    | .queued _ _ deadline => some deadline
    | .writing _ _ deadline => some deadline
    | .waiting _ deadline => some deadline
    | _ => none
  reading ++ resting ++ deadlines

end Client

/-- A connection, its transport, and what was done so far. -/
structure Timeline where
  client : Client
  /-- How many bytes the transport still takes; none if it takes any number. -/
  room : Option Nat
  /-- When the session cost goes down next; none if it never does. -/
  nextDecay : Option Nat
  /-- The effects, the latest first. -/
  effects : List Effect

namespace Timeline

/-- A fresh connection over a transport. -/
def start (settings : ClientSettings) (room : Option Nat) : Timeline :=
  let decay := settings.cost.decayInterval.nanos
  ⟨.start settings, room, if decay = 0 then none else some decay, []⟩

/-- Carries out an action. The transport takes no more than it has room for. -/
def act (t : Timeline) (a : ClientAction) : Timeline :=
  let limit (count : Nat) : Nat := match t.room with
    | some room => min room count
    | none => count
  let a := match a with
    | .write c count => .write c (limit count)
    | .closerWrites count => .closerWrites (limit count)
    | other => other
  let (client, effects) := t.client.step a
  let taken := effects.foldl (fun n e => n + e.written) 0
  { t with client, room := t.room.map (· - taken), effects := effects.reverse ++ t.effects }

/-- Lets the tasks run until none can go on, with at most `fuel` turns. -/
def settle : Nat → Timeline → Timeline
  | 0, t => t
  | fuel + 1, t =>
    match t.client.nextAction? (t.room == some 0) with
    | some a => settle fuel (t.act a)
    | none => t

/-- The next time at which something is due. -/
def nextDue? (t : Timeline) : Option Nat :=
  let decay := match t.nextDecay with
    | some time => if t.client.shutdown then [] else [time]
    | none => []
  (decay ++ t.client.dueTimes).min?

/-- The session cost goes down if it is time for it. -/
def decayIfDue (t : Timeline) : Timeline :=
  match t.nextDecay with
  | some time =>
    if time ≤ t.client.now then
      { t.act .decay with nextDecay := some (time + t.client.settings.cost.decayInterval.nanos) }
    else t
  | none => t

/-- Lets time pass up to `target`, with at most `fuel` stops. -/
def advance (turns target : Nat) : Nat → Timeline → Timeline
  | 0, t => t.act (.wait target)
  | fuel + 1, t =>
    match t.nextDue? with
    | some time =>
      if time ≤ target then
        advance turns target fuel (settle turns (t.act (.wait time)).decayIfDue)
      else t.act (.wait target)
    | none => t.act (.wait target)

end Timeline
end HeaderFollower
