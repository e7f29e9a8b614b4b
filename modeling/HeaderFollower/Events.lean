/-
# Event streams

What the follower tells its host: new tips and changes of watched scripthashes. A stream has at most
one subscriber. An event is lost while nobody has subscribed, when the subscriber's buffer is full,
and when the subscriber is gone; it never holds up the one who emits it.
-/

import HeaderFollower.Protocol.Reply
import HeaderFollower.Queue

namespace HeaderFollower

/-- Who listens to a stream. -/
inductive Subscription where
  | untaken
  | taken
  /-- The subscriber went away; a stream is handed out once. -/
  | gone
  deriving DecidableEq, Repr

/-- A stream of events for one subscriber. -/
structure EventStream (α : Type) where
  subscription : Subscription
  buffer : BoundedQueue α

namespace EventStream

variable {α : Type}

def start (capacity : Nat) : EventStream α := ⟨.untaken, .empty capacity⟩

/-- Hands the stream out, and tells whether it was still there to be handed out. -/
def take (s : EventStream α) : Bool × EventStream α :=
  match s.subscription with
  | .untaken => (true, ⟨.taken, s.buffer⟩)
  | _ => (false, s)

/-- An event for the subscriber. -/
def emit (s : EventStream α) (a : α) : EventStream α :=
  match s.subscription with
  | .taken => ⟨.taken, (s.buffer.push? a).getD s.buffer⟩
  | _ => s

/-- The next event, if one waits. -/
def receive? (s : EventStream α) : Option (α × EventStream α) :=
  match s.subscription with
  | .taken => s.buffer.pop?.map fun (a, rest) => (a, ⟨.taken, rest⟩)
  | _ => none

/-- The subscriber goes away. -/
def leave (s : EventStream α) : EventStream α :=
  match s.subscription with
  | .taken => ⟨.gone, s.buffer⟩
  | _ => s

/-- All events that wait. -/
def drain (s : EventStream α) : List α × EventStream α :=
  match s.subscription with
  | .taken => (s.buffer.items, ⟨.taken, .empty s.buffer.capacity⟩)
  | _ => ([], s)

end EventStream

/-- The streams that a follower offers. -/
structure ChainEvents where
  tips : EventStream Nat
  scripthashes : EventStream ScripthashNotice

namespace ChainEvents

def start (capacity : Nat) : ChainEvents := ⟨.start capacity, .start capacity⟩

def emitTip (e : ChainEvents) (height : Nat) : ChainEvents := { e with tips := e.tips.emit height }

def emitScripthash (e : ChainEvents) (notice : ScripthashNotice) : ChainEvents :=
  { e with scripthashes := e.scripthashes.emit notice }

end ChainEvents
end HeaderFollower
