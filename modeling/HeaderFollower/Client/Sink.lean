/-
# Sinks for pushes

Each kind of push has a sink of limited size. A push never waits: it is lost if the sink is full, if
the connection has closed it, or if nobody listens. What was in a sink when it closed can still be
taken out.
-/

import HeaderFollower.Queue

namespace HeaderFollower

/-- A queue between a connection and the one who listens to it. -/
structure Sink (α : Type) where
  queue : BoundedQueue α
  /-- The connection may still put something in. -/
  isOpen : Bool
  /-- Somebody may still take something out. -/
  listening : Bool

/-- What a listener gets. -/
inductive Received (α : Type) where
  | item (a : α)
  /-- Nothing yet. -/
  | empty
  /-- Nothing any more. -/
  | closed

namespace Sink

variable {α : Type}

def start (capacity : Nat) : Sink α := ⟨.empty capacity, true, true⟩

/-- A push, which may be lost. -/
def push (s : Sink α) (a : α) : Sink α :=
  if s.isOpen ∧ s.listening then { s with queue := (s.queue.push? a).getD s.queue } else s

def close (s : Sink α) : Sink α := { s with isOpen := false }

/-- The listener goes away. -/
def leave (s : Sink α) : Sink α := { s with listening := false }

def receive (s : Sink α) : Received α × Sink α :=
  match s.queue.pop? with
  | some (a, rest) => (.item a, { s with queue := rest })
  | none => (if s.isOpen then .empty else .closed, s)

end Sink
end HeaderFollower
