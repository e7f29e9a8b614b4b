/-
# The synchronizer

The synchronizer makes the store follow a server: it catches up in batches, and then takes one tip
after the other. What it knows is a value; it never talks to a server itself. A call of it runs up to
a `Query`, and goes on with the answer, so everything between two queries is one step.

`Machine.run` lets a source of answers drive a call to its end.
-/

import HeaderFollower.Events
import HeaderFollower.Store.Op
import HeaderFollower.Sync.Error

namespace HeaderFollower

/-- How far the synchronizer has come. -/
inductive SyncPhase where
  | bulkSync
  | tipFollow
  | reorgRecovering
  /-- Going back has reached the start point. -/
  | exhausted
  deriving DecidableEq, Repr

def SyncPhase.text : SyncPhase → String
  | .bulkSync => "bulk-sync"
  | .tipFollow => "tip-follow"
  | .reorgRecovering => "reorg-recovering"
  | .exhausted => "exhausted"

/-- What to do when the server's tip is behind the local one. -/
inductive StalePolicy where
  | ignore
  /-- Leave the server. -/
  | disconnect
  deriving DecidableEq, Repr

structure SyncSettings where
  /-- The number of headers asked for at once. -/
  chunkSize : Nat := 2016
  /-- The number of headers taken away when a header does not connect. -/
  rewind : Nat := 8
  /-- A gap of more headers than this is fetched in batches. -/
  batchThreshold : Nat := 8
  /-- The number of tips that can wait. -/
  queueDepth : Nat := 8
  stalePolicy : StalePolicy := .ignore
  /-- How often at most a request is put off because of the session cost. -/
  maxThrottleWaits : Nat := 30

/-- Where a tip comes from. -/
inductive TipOrigin where
  /-- The answer to the subscription. -/
  | subscribe
  /-- A push of the server. -/
  | notification
  /-- A tip that is tried again after headers were taken away. -/
  | retry
  deriving DecidableEq, Repr

/-- A tip that is to be handled. -/
structure TipWork where
  height : Nat
  hex : String
  origin : TipOrigin
  deriving DecidableEq, Repr

def TipWork.ofNotice (notice : TipNotice) (origin : TipOrigin) : TipWork :=
  ⟨notice.height, notice.hex, origin⟩

/-- The synchronizer between two calls. -/
structure Synchronizer where
  settings : SyncSettings
  store : Store
  events : ChainEvents
  phase : SyncPhase

/-- A synchronizer that has not caught up yet. -/
def Synchronizer.start (settings : SyncSettings) (store : Store) (events : ChainEvents) :
    Synchronizer := ⟨settings, store, events, .bulkSync⟩

/-- What a call waits for. -/
inductive Query where
  /-- Is the session cost above its limit? -/
  | overLimit
  /-- The session cost goes down a little. -/
  | pause
  | headers (start count : Nat)
  | header (height : Nat)
  deriving DecidableEq, Repr

/-- What an answer to a query is. -/
def Query.Answer : Query → Type
  | .overLimit => Bool
  | .pause => Unit
  | .headers _ _ => Except ClientError HeaderBatch
  | .header _ => Except ClientError String

/-- How far a call has come. -/
inductive Progress (κ α : Type) where
  | waiting (call : κ)
  | done (result : Except SyncError α)

/-- A kind of call that works on a state `σ`, waits in states `κ` and results in an `α`. -/
structure Machine (σ κ α : Type) where
  query : κ → Query
  resume : (call : κ) → σ → (query call).Answer → Progress κ α × σ

namespace Machine

variable {σ κ α ω : Type}

/-- Something that answers queries and changes with it. -/
abbrev Source (ω : Type) := ω → (q : Query) → q.Answer × ω

/-- Drives a call with at most `fuel` answers. None if it has not ended by then. -/
def run (m : Machine σ κ α) (source : Source ω) : Nat → Progress κ α × σ → ω →
    Option (Except SyncError α) × σ × ω
  | _, (.done r, s), w => (some r, s, w)
  | 0, (.waiting _, s), w => (none, s, w)
  | fuel + 1, (.waiting call, s), w =>
    let (answer, w) := source w (m.query call)
    m.run source fuel (m.resume call s answer) w

/-- More answers do not change how a call ends. -/
theorem run_mono (m : Machine σ κ α) (source : Source ω) {fuel more : Nat} (h : fuel ≤ more)
    {p : Progress κ α × σ} {w v : ω} {r : Except SyncError α} {s : σ}
    (hr : m.run source fuel p w = (some r, s, v)) : m.run source more p w = (some r, s, v) := by
  induction fuel generalizing more p w with
  | zero =>
    rcases p with ⟨call | result, t⟩
    · simp [run] at hr
    · cases more <;> simpa [run] using hr
  | succ n ih =>
    rcases p with ⟨call | result, t⟩
    · obtain ⟨k, rfl⟩ : ∃ k, more = k + 1 := ⟨more - 1, by omega⟩
      simp only [run] at hr ⊢
      exact ih (by omega) hr
    · cases more <;> simpa [run] using hr

end Machine
end HeaderFollower
