/-
# Following the tip

After a subscription two tasks share a queue of limited size. The forwarder moves pushed tips from
the connection into the queue, and waits while it is full. The worker takes one tip after the other
out of the queue; a tip that has to be tried again goes back into it if there is room.

When the worker takes a tip while the forwarder waits, the room is set aside for the forwarder at
once. When the connection has no more tips, the session is lost, whatever the queue still holds.

Each function below is one step of one task; `Follow.settle` lets both run until none can go on.
-/

import HeaderFollower.Sync.TipUpdate

namespace HeaderFollower

/-- What moves pushed tips into the queue. -/
inductive Forwarder where
  /-- Not yet or no longer there. -/
  | absent
  /-- Waits for a push. -/
  | ready
  /-- Waits for room. -/
  | holding (work : TipWork)
  /-- Has room set aside. -/
  | granted (work : TipWork)
  deriving DecidableEq, Repr

/-- What handles the tips. -/
inductive Worker where
  /-- Waits for the answer to the subscription. -/
  | subscribing
  /-- Waits for a tip. -/
  | idle
  | handling (call : TipUpdate)
  | ended (result : Except SyncError Unit)

/-- A session that follows the tip. -/
structure Follow where
  queue : BoundedQueue TipWork
  forwarder : Forwarder
  worker : Worker
  /-- The connection has no more tips. -/
  lost : Bool

namespace Follow

/-- A session that has asked for its subscription. -/
def start (queueDepth : Nat) : Follow := ⟨.empty queueDepth, .absent, .subscribing, false⟩

/-- The room in the queue that is not set aside. -/
def room (f : Follow) : Nat :=
  f.queue.capacity - f.queue.items.length -
    match f.forwarder with
    | .granted _ => 1
    | _ => 0

/-- The queue with a tip, if there is room for it. -/
def offer (f : Follow) (work : TipWork) : Follow :=
  if 0 < f.room then { f with queue := (f.queue.push? work).getD f.queue } else f

/-- The session is over, and its forwarder with it. -/
def conclude (f : Follow) (result : Except SyncError Unit) : Follow :=
  { f with forwarder := .absent, worker := .ended result }

def hasEnded (f : Follow) : Bool :=
  match f.worker with
  | .ended _ => true
  | _ => false

/-! ## The forwarder -/

/-- Takes a pushed tip. -/
def accept (f : Follow) (notice : TipNotice) : Follow :=
  let work := TipWork.ofNotice notice .notification
  match f.forwarder with
  | .ready => if 0 < f.room then f.offer work else { f with forwarder := .holding work }
  | _ => f

/-- Puts a tip into the room that was set aside for it. -/
def deliver (f : Follow) : Follow :=
  match f.forwarder with
  | .granted work => { f with forwarder := .ready }.offer work
  | _ => f

/-- Finds that there are no more pushes. -/
def sinkClosed (f : Follow) : Follow :=
  match f.forwarder with
  | .ready => { f with forwarder := .absent, lost := true }
  | _ => f

/-! ## The worker -/

/-- Takes the answer to the subscription. -/
def subscribed (f : Follow) (reply : Except ClientError TipNotice) : Follow :=
  match f.worker, reply with
  | .subscribing, .error e => f.conclude (.error (.client e))
  | .subscribing, .ok tip =>
    { f with worker := .idle, forwarder := .ready }.offer (.ofNotice tip .subscribe)
  | _, _ => f

/-- Goes on as the handling of a tip says. An error ends the session only if it is fatal. -/
def advance (f : Follow) : Progress TipUpdate TipOutcome → Follow
  | .waiting call => { f with worker := .handling call }
  | .done (.ok (.rewound again)) => { f with worker := .idle }.offer again
  | .done (.ok _) => { f with worker := .idle }
  | .done (.error e) => if e.fatal then f.conclude (.error e) else { f with worker := .idle }

/-- The queue without its first tip, whose room goes to a forwarder that waits. -/
def release (f : Follow) (queue : BoundedQueue TipWork) : Follow :=
  match f.forwarder with
  | .holding work => { f with queue, forwarder := .granted work }
  | _ => { f with queue }

/-- Looks for something to do: an order to stop comes first, then a lost connection, then a tip. -/
def wake (f : Follow) (s : Synchronizer) (cancelled : Bool) : Follow × Synchronizer :=
  match f.worker with
  | .subscribing => (if cancelled then f.conclude (.ok ()) else f, s)
  | .idle =>
    if cancelled then (f.conclude (.ok ()), s)
    else if f.lost then (f.conclude (.error (.client .closed)), s)
    else
      match f.queue.pop? with
      | none => (f, s)
      | some (work, queue) =>
        let (p, s) := s.beginTip work
        ((f.release queue).advance p, s)
  | _ => (f, s)

/-- Takes the answer to the query that the handling of a tip waits for. -/
def answered (f : Follow) (s : Synchronizer) (call : TipUpdate) (answer : call.query.Answer) :
    Follow × Synchronizer :=
  let (p, s) := s.resumeTip call answer
  (f.advance p, s)

/-! ## Running both tasks -/

/-- The forwarder runs until it waits; what it leaves of the pushes is the rest. -/
def forwardAll (f : Follow) : List TipNotice → Follow × List TipNotice
  | [] => (f.deliver, [])
  | notice :: rest =>
    let f := f.deliver
    match f.forwarder with
    | .ready => (f.accept notice).forwardAll rest
    | _ => (f, notice :: rest)

/-- The worker runs until it waits for a tip or has ended, with at most `fuel` steps. -/
def workAll {ω : Type} (source : Machine.Source ω) (cancelled : Bool) :
    Nat → Follow → Synchronizer → ω → Follow × Synchronizer × ω
  | 0, f, s, w => (f, s, w)
  | fuel + 1, f, s, w =>
    match f.worker with
    | .subscribing | .ended _ => (f, s, w)
    | .idle =>
      if cancelled ∨ f.lost ∨ ¬ f.queue.items.isEmpty then
        let (f, s) := f.wake s cancelled
        workAll source cancelled fuel f s w
      else (f, s, w)
    | .handling call =>
      let (answer, w) := source w call.query
      let (f, s) := f.answered s call answer
      workAll source cancelled fuel f s w

/-- Both tasks run in turn until neither can go on, with at most `fuel` turns of `fuel` steps. -/
def settle {ω : Type} (source : Machine.Source ω) (fuel : Nat) :
    Nat → Follow → Synchronizer → List TipNotice → ω → Follow × Synchronizer × List TipNotice × ω
  | 0, f, s, pushes, w => (f, s, pushes, w)
  | turns + 1, f, s, pushes, w =>
    let (f, rest) := f.forwardAll pushes
    let (f, s, w) := f.workAll source false fuel s w
    match f.forwarder with
    | .granted _ => settle source fuel turns f s rest w
    | _ => (f, s, rest, w)

end Follow
end HeaderFollower
