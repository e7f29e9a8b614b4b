/-
# The steps of a connection

`Client.step` carries out one `ClientAction`. An action that does not fit the state changes nothing,
so every list of actions is a run, in whatever order the tasks, the server and the callers take their
turns.
-/

import HeaderFollower.Client.Basic
import HeaderFollower.Protocol.Method
import HeaderFollower.Text.Blank

namespace HeaderFollower

/-- One turn of a task, of the server or of a caller. -/
inductive ClientAction where
  /-- A caller starts a request. -/
  | call (method : String) (params : Json)
  /-- A caller gives its request up. -/
  | cancel (call : Nat)
  /-- A call does what it can do next. -/
  | proceed (call : Nat)
  /-- The transport takes bytes of the frame that the call writes. -/
  | write (call : Nat) (count : Nat)
  | writeFails (call : Nat) (text : String)
  /-- A call sees that its time is over. -/
  | timeOut (call : Nat)
  /-- A call sees that it has been given up. -/
  | giveUp (call : Nat)
  /-- A call sees that all tasks have to stop. -/
  | noticeShutdown (call : Nat)
  /-- Bytes arrive. -/
  | arrive (piece : ByteArray)
  /-- The server will send no more. -/
  | endOfStream
  /-- The reader takes the next line, or finds the end. -/
  | readLine
  | readFails
  /-- The reader sees that all tasks have to stop. -/
  | stopReading
  /-- The reader sees that the server has been silent for too long. -/
  | readTimeOut
  /-- The next step of tearing the connection down. -/
  | tearDown
  /-- The connection is closed in an orderly way. -/
  | close
  /-- The closer gets the writer. -/
  | closerTakes
  /-- The transport takes bytes that were left in the buffer. -/
  | closerWrites (count : Nat)
  /-- The closer tells the server that no more will come. -/
  | closerEnds
  /-- The owner of the connection stops everything. -/
  | cancelParent
  /-- A ping is due. -/
  | ping
  /-- The keep-alive sees the end of its ping, or that all tasks have to stop. -/
  | pinged
  | decay
  /-- Time goes on. -/
  | wait (time : Nat)

namespace Client

/-! ## Calls -/

/-- A caller starts a request. -/
def enter (s : Client) (method : String) (params : Json) : Client :=
  { s with calls := s.calls ++ [{ method, params }] }

/-- A call takes the next id and writes its frame down. -/
def number (s : Client) (c : Nat) (call : ClientCall) : Client :=
  let id := s.nextId
  let s := { s with nextId := id + 1 }
  match Request.frame id call.method call.params with
  | .error text => s.finish c (.error (.encode text))
  | .ok frame => s.goto c (.numbered id frame.toList)

/-- A call puts its id into the table. -/
def register (s : Client) (c id : Nat) (frame : List UInt8) : Client :=
  { s.goto c (.registered id frame) with pending := s.pending ++ [(id, c)] }

/-- A call looks again whether the connection is open, and gets in line for the writer. -/
def enqueue (s : Client) (c id : Nat) (frame : List UInt8) : Client :=
  if s.isClosed then (s.unregister id).finish c (.error .closed)
  else
    let s := s.goto c (.queued id frame (s.now + s.settings.requestTimeout.nanos))
    { s with writer := { s.writer with waiting := s.writer.waiting ++ [.call c] } }

/-- A call takes the writer if it is its turn. -/
def beginWrite (s : Client) (c id : Nat) (frame : List UInt8) (deadline : Nat) : Client :=
  match s.takeWriter? (.call c) with
  | some s =>
    let s := s.goto c (.writing id frame deadline)
    { s with writer := { s.writer with out := s.writer.out.begin frame } }
  | none => s

/-- A call whose frame is out lets the writer go and waits for the reply. -/
def endWrite (s : Client) (c id : Nat) (frame : List UInt8) (deadline : Nat) :
    Client × List Effect :=
  if s.writer.out.isEmpty then
    (s.releaseWriter.goto c (.waiting id deadline)).charge (some c) (.bytes frame.length)
  else (s, [])

/-- The error of a request whose time is over. -/
def timeoutError (s : Client) (c : Nat) : ClientError :=
  .timeout (((s.calls[c]?).map (·.method)).getD "") s.settings.requestTimeout

/-- A call that let the writer go early tears the connection down. -/
def afterRelease (s : Client) (c id : Nat) : WriteEnd → Client × List Effect
  | .timedOut =>
    let (s, effects) := (s.unregister id).charge (some c) .error
    ((s.beginClosing false).finish c (.error (s.timeoutError c)), effects)
  | .cancelled => (((s.unregister id).beginClosing false).finish c (.error .cancelled), [])
  | .failed text => (((s.unregister id).beginClosing false).finish c (.error (.io text)), [])
  | .shutdown => ((s.beginClosing true).goto c (.parked id), [])

/-- A call returns what was delivered to it. -/
def takeInbox (s : Client) (c : Nat) (call : ClientCall) : Client :=
  match call.inbox with
  | some result => s.finish c result
  | none => s

/-- A call does what it can do next. -/
def proceed (s : Client) (c : Nat) : Client × List Effect :=
  match s.calls[c]? with
  | none => (s, [])
  | some call =>
    match call.stage with
    | .entered => (if s.isClosed then s.finish c (.error .closed) else s.goto c .admitted, [])
    | .admitted => (s.number c call, [])
    | .numbered id frame => (s.register c id frame, [])
    | .registered id frame => (s.enqueue c id frame, [])
    | .queued id frame deadline => (s.beginWrite c id frame deadline, [])
    | .writing id frame deadline => s.endWrite c id frame deadline
    | .released id why => s.afterRelease c id why
    | .waiting _ _ => (s.takeInbox c call, [])
    | .parked _ => (s.takeInbox c call, [])
    | .finished _ => (s, [])

/-- The transport takes bytes. -/
def transmit (s : Client) (count : Nat) : Client × List Effect :=
  let bytes := s.writer.out.offered.take count
  ({ s with writer := { s.writer with out := s.writer.out.take bytes.length } }, [.write bytes])

/-- A call that holds the writer lets it go early. -/
def release (s : Client) (c id : Nat) (why : WriteEnd) : Client :=
  s.releaseWriter.goto c (.released id why)

/-- A call sees that its time is over. -/
def timeOut (s : Client) (c : Nat) : Client × List Effect :=
  let expire (s : Client) (id : Nat) : Client × List Effect :=
    let (t, effects) := (s.unregister id).charge (some c) .error
    (t.finish c (.error (s.timeoutError c)), effects)
  match s.stage? c with
  | some (.queued id _ deadline) =>
    if deadline ≤ s.now then expire (s.leaveWriter (.call c)) id else (s, [])
  | some (.writing id _ deadline) => (if deadline ≤ s.now then s.release c id .timedOut else s, [])
  | some (.waiting id deadline) => if deadline ≤ s.now then expire s id else (s, [])
  | _ => (s, [])

/-- A call sees that its caller has given it up. -/
def giveUp (s : Client) (c : Nat) : Client × List Effect :=
  if ((s.calls[c]?).map (·.cancelled)).getD false then
    match s.stage? c with
    | some (.queued id _ _) =>
      (((s.leaveWriter (.call c)).unregister id).finish c (.error .cancelled), [])
    | some (.writing id _ _) => (s.release c id .cancelled, [])
    | some (.waiting id _) =>
      let (s, effects) := (s.unregister id).charge (some c) .error
      (s.finish c (.error .cancelled), effects)
    | _ => (s, [])
  else (s, [])

/-- A call sees that all tasks have to stop. -/
def noticeShutdown (s : Client) (c : Nat) : Client :=
  if s.shutdown then
    match s.stage? c with
    | some (.queued id _ _) => (s.leaveWriter (.call c)).goto c (.parked id)
    | some (.writing id _ _) => s.release c id .shutdown
    | _ => s
  else s

/-! ## The reader -/

/-- Passes a message on: a reply to the call that waits for it, a push to its sink. -/
def dispatch (s : Client) (line : List UInt8) : Client × List Effect :=
  match Incoming.parse line with
  | .ok (.response id (.ok result)) => (s.deliver id (.ok result), [])
  | .ok (.response id (.error e)) =>
    match s.pending.lookup id with
    | some c => (s.deliver id (.error (.rpc e.code e.message))).charge (some c) .error
    | none => (s, [])
  | .ok (.push (.tip notice)) => ({ s with tips := s.tips.push notice }, [])
  | .ok (.push (.scripthash notice)) => ({ s with scripthashes := s.scripthashes.push notice }, [])
  | .ok (.unknownMethod _) => (s, [])
  | .error _ => s.charge none .error

/-- The read deadline starts anew. -/
def extendDeadline (s : Client) : Client :=
  { s with readDeadline := s.now + s.settings.readTimeout.nanos }

/-- A line of the server. Its bytes cost even if it says nothing. -/
def takeLine (s : Client) (line : List UInt8) : Client × List Effect :=
  let (s, effects) := s.extendDeadline.charge none (.bytes (line.length + 1))
  if line.all Text.isAsciiBlank then (s, effects)
  else
    let (s, more) := s.dispatch line
    (s, effects ++ more)

/-- The reader stops, and the connection with it. -/
def endReading (s : Client) (cancelled : Bool) : Client :=
  { s with source := { s.source with running := false } }.beginClosing cancelled

/-- The reader takes the next line, or finds the end. -/
def readLine (s : Client) : Client × List Effect :=
  if s.source.running then
    match s.source.arrived with
    | .line bytes :: rest => { s with source := { s.source with arrived := rest } }.takeLine bytes.toList
    | .oversized :: rest => { s with source := { s.source with arrived := rest } }.charge none .error
    | [] => (if s.source.ended then s.endReading false else s, [])
  else (s, [])

/-- Bytes arrive. -/
def arrive (s : Client) (piece : ByteArray) : Client :=
  if s.source.ended then s
  else
    let (lines, events) := s.source.lines.read piece
    { s with source := { s.source with lines, arrived := s.source.arrived ++ events } }

/-- The server will send no more. -/
def endOfStream (s : Client) : Client :=
  if s.source.ended then s
  else
    { s with source := { s.source with
        arrived := s.source.arrived ++ s.source.lines.finish
        ended := true } }

/-! ## Tearing down -/

/-- The next step of tearing the connection down. -/
def tearDown (s : Client) : Client :=
  match s.closing with
  | .notYet => s
  | .marked cancelled => { s with shutdown := true, closing := .signalled cancelled }
  | .signalled cancelled => { s with closing := .draining cancelled (s.pending.map (·.1)) }
  | .draining cancelled (id :: ids) =>
    { s.deliver id (.error (if cancelled then .cancelled else .closed)) with
      closing := .draining cancelled ids }
  | .draining _ [] => { s with tips := s.tips.close, scripthashes := s.scripthashes.close, closing := .done }
  | .done => s

/-- The connection is closed in an orderly way; only the first to do so ends the stream. -/
def close (s : Client) : Client :=
  if s.isClosed then s
  else
    let s := s.beginClosing false
    { s with writer := { s.writer with waiting := s.writer.waiting ++ [.closer] } }

/-! ## Keeping alive -/

/-- A ping is due: the read deadline starts anew, and a request goes out. -/
def ping (s : Client) : Client :=
  match s.keepAlive with
  | .resting next =>
    if next ≤ s.now then
      { s.extendDeadline.enter Method.ping (.array []) with
        keepAlive := .pinging s.calls.length (next + s.settings.keepAlive.nanos) }
    else s
  | _ => s

/-- The keep-alive sees the end of its ping, or that all tasks have to stop. -/
def pinged (s : Client) : Client :=
  match s.keepAlive with
  | .resting _ => if s.shutdown then { s with keepAlive := .stopped } else s
  | .pinging c next =>
    match s.stage? c with
    | some (.finished (.ok _)) => { s with keepAlive := .resting next }
    | some (.finished (.error _)) => { s with keepAlive := .stopped }.beginClosing false
    | _ => s
  | .stopped => s

/-! ## All steps -/

/-- Carries out an action. -/
def step (s : Client) : ClientAction → Client × List Effect
  | .call method params => (s.enter method params, [])
  | .cancel c => (s.updateCall c fun call => { call with cancelled := true }, [])
  | .proceed c => s.proceed c
  | .write c count =>
    match s.stage? c with
    | some (.writing _ _ _) => s.transmit count
    | _ => (s, [])
  | .writeFails c text =>
    match s.stage? c with
    | some (.writing id _ _) => (s.release c id (.failed text), [])
    | _ => (s, [])
  | .timeOut c => s.timeOut c
  | .giveUp c => s.giveUp c
  | .noticeShutdown c => (s.noticeShutdown c, [])
  | .arrive piece => (s.arrive piece, [])
  | .endOfStream => (s.endOfStream, [])
  | .readLine => s.readLine
  | .readFails => (if s.source.running then s.endReading false else s, [])
  | .stopReading =>
    (if s.source.running ∧ s.shutdown then s.endReading (!s.isClosed) else s, [])
  | .readTimeOut =>
    (if s.source.running ∧ s.readDeadline ≤ s.now then s.endReading false else s, [])
  | .tearDown => (s.tearDown, [])
  | .close => (s.close, [])
  | .closerTakes => ((s.takeWriter? .closer).getD s, [])
  | .closerWrites count => if s.writer.owner = some .closer then s.transmit count else (s, [])
  | .closerEnds =>
    if s.writer.owner = some .closer ∧ s.writer.out.buffer.isEmpty then
      ({ s.releaseWriter with writer := { s.releaseWriter.writer with ended := true } }, [.endOfStream])
    else (s, [])
  | .cancelParent => ({ s with shutdown := true }, [])
  | .ping => (s.ping, [])
  | .pinged => (s.pinged, [])
  | .decay => if s.shutdown then (s, []) else s.charge none .decay
  | .wait time => ({ s with now := max s.now time }, [])

/-- Carries out actions one after the other. -/
def run (s : Client) : List ClientAction → Client × List Effect
  | [] => (s, [])
  | a :: rest =>
    let (s, effects) := s.step a
    let (s, more) := s.run rest
    (s, effects ++ more)

theorem run_append (s : Client) (xs ys : List ClientAction) :
    s.run (xs ++ ys) = (((s.run xs).1.run ys).1, (s.run xs).2 ++ ((s.run xs).1.run ys).2) := by
  induction xs generalizing s with
  | nil => rfl
  | cons a rest ih => simp [run, ih]

end Client
end HeaderFollower
