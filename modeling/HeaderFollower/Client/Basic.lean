/-
# A connection to a server

Any number of requests share a connection. Each is a call with a stage: it takes an id, registers it
in the table of pending requests, waits for the writer, writes its frame, and waits for the reply
that carries its id. One reader takes the lines of the server apart, a keep-alive sends a ping now
and then, and whoever finds the connection unusable tears it down, once.

This module holds the state, `Client/Step` the steps, each as small as what one of the tasks does
without the others being able to see it half done.
-/

import HeaderFollower.Client.Error
import HeaderFollower.Client.Outgoing
import HeaderFollower.Client.Sink
import HeaderFollower.Cost
import HeaderFollower.Protocol.Message
import HeaderFollower.Protocol.Request
import HeaderFollower.Wire.Lines

namespace HeaderFollower

structure ClientSettings where
  clientName : String := "exsyncd/0.3.2"
  protocolVersion : String := "1.4"
  dialTimeout : Duration := .ofSeconds 5
  requestTimeout : Duration := .ofSeconds 30
  keepAlive : Duration := .ofSeconds 10
  /-- How long the server may be silent. -/
  readTimeout : Duration := .ofSeconds 25
  /-- The size of each sink. -/
  notificationBuffer : Nat := 64
  cost : CostSettings := {}

/-- Why a call let the writer go before its frame was out. -/
inductive WriteEnd where
  | timedOut
  | cancelled
  | shutdown
  | failed (text : String)
  deriving DecidableEq, Repr

/-- How far a call has come. Times are in nanoseconds since the connection was made. -/
inductive CallStage where
  | entered
  /-- It has seen the connection open. -/
  | admitted
  | numbered (id : Nat) (frame : List UInt8)
  /-- Its id is in the table of pending requests. -/
  | registered (id : Nat) (frame : List UInt8)
  /-- It waits for the writer. -/
  | queued (id : Nat) (frame : List UInt8) (deadline : Nat)
  /-- It holds the writer. -/
  | writing (id : Nat) (frame : List UInt8) (deadline : Nat)
  /-- It has let the writer go early and has not yet said so. -/
  | released (id : Nat) (why : WriteEnd)
  /-- It waits for the reply. -/
  | waiting (id : Nat) (deadline : Nat)
  /-- It waits for the end of the connection to reach it. -/
  | parked (id : Nat)
  | finished (result : Except ClientError Json)

/-- One request. -/
structure ClientCall where
  method : String
  params : Json
  stage : CallStage := .entered
  /-- The caller has given it up. -/
  cancelled : Bool := false
  /-- What was delivered to it. -/
  inbox : Option (Except ClientError Json) := none

/-- Who holds the writer or waits for it. -/
inductive Holder where
  | call (index : Nat)
  /-- The one who closes the connection in an orderly way. -/
  | closer
  deriving DecidableEq, Repr

/-- The writing side. -/
structure Writer where
  owner : Option Holder := none
  /-- Who waits, first come first. -/
  waiting : List Holder := []
  out : Outgoing := {}
  /-- The server has been told that no more will come. -/
  ended : Bool := false

/-- The reading side. -/
structure LineSource where
  lines : LineReader := .start maxFrame
  /-- What has arrived and has not been looked at, the first first. -/
  arrived : List LineEvent := []
  /-- The server will send no more. -/
  ended : Bool := false
  /-- The reader is at work. -/
  running : Bool := true

/-- How far the connection is torn down. -/
inductive Closing where
  | notYet
  /-- Marked closed; parked requests are told that they were cancelled if `cancelled` holds. -/
  | marked (cancelled : Bool)
  /-- All tasks have been told to stop. -/
  | signalled (cancelled : Bool)
  /-- The requests of these ids are still to be told. -/
  | draining (cancelled : Bool) (ids : List Nat)
  | done
  deriving DecidableEq, Repr

/-- The task that keeps the connection alive. -/
inductive KeepAlive where
  /-- The next ping is due at `next`. -/
  | resting (next : Nat)
  /-- It waits for the end of a ping. -/
  | pinging (call : Nat) (next : Nat)
  | stopped
  deriving DecidableEq, Repr

/-- A connection. -/
structure Client where
  settings : ClientSettings
  now : Nat
  calls : List ClientCall
  nextId : Nat
  /-- Ids of pending requests and the calls that they belong to. -/
  pending : List (Nat × Nat)
  writer : Writer
  source : LineSource
  cost : SessionCost
  /-- All tasks have to stop. -/
  shutdown : Bool
  closing : Closing
  /-- When the server will have been silent for too long. -/
  readDeadline : Nat
  keepAlive : KeepAlive
  tips : Sink TipNotice
  scripthashes : Sink ScripthashNotice

/-- What a step does to the world outside. -/
inductive Effect where
  /-- Bytes handed to the transport. -/
  | write (bytes : List UInt8)
  /-- The transport is told that no more will come. -/
  | endOfStream
  /-- The account of the session is charged, on behalf of a call if one is named. -/
  | charge (call : Option Nat) (charge : Charge)

/-- How many bytes an effect hands to the transport. -/
def Effect.written : Effect → Nat
  | .write bytes => bytes.length
  | _ => 0

namespace Client

/-- A fresh connection. -/
def start (settings : ClientSettings) : Client where
  settings := settings
  now := 0
  calls := []
  nextId := 0
  pending := []
  writer := {}
  source := {}
  cost := .start settings.cost
  shutdown := false
  closing := .notYet
  readDeadline := settings.readTimeout.nanos
  keepAlive := if settings.keepAlive.nanos = 0 then .stopped else .resting settings.keepAlive.nanos
  tips := .start settings.notificationBuffer
  scripthashes := .start settings.notificationBuffer

/-- The connection is closed, or about to be. -/
def isClosed (s : Client) : Bool := s.closing != .notYet

/-- The connection is torn down. -/
def isDone (s : Client) : Bool := s.closing == .done

def stage? (s : Client) (c : Nat) : Option CallStage := (s.calls[c]?).map (·.stage)

/-- The client with one call changed. -/
def updateCall (s : Client) (c : Nat) (f : ClientCall → ClientCall) : Client :=
  { s with calls := s.calls.modify c f }

/-- A call goes on to a stage. -/
def goto (s : Client) (c : Nat) (stage : CallStage) : Client :=
  s.updateCall c fun call => { call with stage }

/-- A call returns. -/
def finish (s : Client) (c : Nat) (result : Except ClientError Json) : Client :=
  s.goto c (.finished result)

/-- Takes an id out of the table of pending requests. -/
def unregister (s : Client) (id : Nat) : Client :=
  { s with pending := s.pending.filter fun entry => entry.1 ≠ id }

/-- Gives a call its result, if its id is pending. -/
def deliver (s : Client) (id : Nat) (result : Except ClientError Json) : Client :=
  match s.pending.lookup id with
  | some c => (s.unregister id).updateCall c fun call => { call with inbox := some result }
  | none => s

/-- Charges the session. -/
def charge (s : Client) (payer : Option Nat) (charge : Charge) : Client × List Effect :=
  ({ s with cost := s.cost.apply charge }, [.charge payer charge])

/-- Begins to tear the connection down. Only the first to do so counts. -/
def beginClosing (s : Client) (cancelled : Bool) : Client :=
  match s.closing with
  | .notYet => { s with closing := .marked cancelled }
  | _ => s

/-- Someone waits for the writer no longer. -/
def leaveWriter (s : Client) (holder : Holder) : Client :=
  { s with writer := { s.writer with waiting := s.writer.waiting.filter (· ≠ holder) } }

/-- The writer is free again. -/
def releaseWriter (s : Client) : Client :=
  { s with writer := { s.writer with owner := none, out := s.writer.out.abandon } }

/-- The writer goes to the first who waits for it. -/
def takeWriter? (s : Client) (holder : Holder) : Option Client :=
  match s.writer.owner, s.writer.waiting with
  | none, first :: rest =>
    if first = holder then
      some { s with writer := { s.writer with owner := some holder, waiting := rest } }
    else none
  | _, _ => none

@[simp] theorem pending_goto (s : Client) (c : Nat) (stage : CallStage) :
    (s.goto c stage).pending = s.pending := rfl

@[simp] theorem length_calls_goto (s : Client) (c : Nat) (stage : CallStage) :
    (s.goto c stage).calls.length = s.calls.length := by simp [goto, updateCall]

end Client
end HeaderFollower
