/-
# Catching up

A catch-up asks for one batch after the other from the next height on, stores the part of each that
continues the chain, and ends with the first batch that is shorter than asked for. Before each
request it waits while the session cost is too high. At a break it goes back and asks again. In the
end the index is loaded from the file and every link is checked.
-/

import HeaderFollower.Sync.Batch
import HeaderFollower.Sync.Rewind

namespace HeaderFollower

/-- What a catch-up has done so far. -/
structure CatchUpCount where
  /-- The number of headers to ask for. -/
  chunk : Nat
  fetched : Nat
  /-- Fetched since headers were last taken away. -/
  sinceRewind : Nat
  deriving DecidableEq, Repr

/-- Where a catch-up waits. -/
inductive CatchUp where
  /-- It wants to know whether it may go on, after `waits` pauses. -/
  | asking (count : CatchUpCount) (waits : Nat)
  | pausing (count : CatchUpCount) (waits : Nat)
  | fetching (count : CatchUpCount) (start : Nat)
  deriving DecidableEq, Repr

def CatchUp.query : CatchUp → Query
  | .asking _ _ => .overLimit
  | .pausing _ _ => .pause
  | .fetching count start => .headers start count.chunk

/-- Loads the index from the file and checks every link. -/
def Store.loadAndVerify (s : Store) : Except ChainError Unit × Store :=
  match s.rebuild with
  | (.error e, t) => (.error e, t)
  | (.ok (), t) => (t.verify 0 true, t)

namespace Synchronizer

/-- A catch-up that goes on with the next request. -/
def nextRequest (s : Synchronizer) (count : CatchUpCount) : Progress CatchUp Nat × Synchronizer :=
  (.waiting (.asking count 0), s)

def failed (s : Synchronizer) {κ α : Type} (e : SyncError) : Progress κ α × Synchronizer :=
  (.done (.error e), s)

/-- Begins a catch-up. The stored headers have to be in the index. -/
def beginCatchUp (s : Synchronizer) : Progress CatchUp Nat × Synchronizer :=
  let s := { s with phase := .bulkSync }
  let count : CatchUpCount := ⟨max s.settings.chunkSize 1, 0, 0⟩
  match s.store.file.count with
  | .error e => s.failed (.chain e)
  | .ok onDisk =>
    if s.store.synced ∧ s.store.headerCount = onDisk then s.nextRequest count
    else
      match s.store.loadAndVerify with
      | (.error e, store) => { s with store }.failed (.chain e)
      | (.ok (), store) => { s with store }.nextRequest count

/-- Ends a catch-up: the server has no more headers. -/
def finishCatchUp (s : Synchronizer) (count : CatchUpCount) :
    Progress CatchUp Nat × Synchronizer :=
  match s.store.loadAndVerify with
  | (.error e, store) => { s with store }.failed (.chain e)
  | (.ok (), store) =>
    let store := store.setSynced true
    let store := if 0 < count.sinceRewind then store.clearRecovery else store
    let events := match store.tip with
      | some tip => s.events.emitTip tip
      | none => s.events
    (.done (.ok count.fetched), { s with store, events, phase := .tipFollow })

/-- Goes back after a break. Headers may be taken away only once those that are stored have been
verified. -/
def goBack (s : Synchronizer) (count : CatchUpCount) : Progress CatchUp Nat × Synchronizer :=
  let (verified, store) : Except ChainError Unit × Store :=
    if s.store.synced then (.ok (), s.store)
    else
      match s.store.loadAndVerify with
      | (.error e, store) => (.error e, store)
      | (.ok (), store) => (.ok (), store.setSynced true)
  let s := { s with store }
  match verified with
  | .error e => s.failed (.chain e)
  | .ok () =>
    match s.rewind with
    | (.error e, s) => s.failed e
    | (.ok (), s) => s.nextRequest { count with sinceRewind := 0 }

/-- Writes headers to the file and puts them into the index. -/
def storeLinked (s : Synchronizer) (raw : List UInt8) (start : Nat) :
    Except ChainError Unit × Synchronizer :=
  if raw.isEmpty then (.ok (), s)
  else
    match s.store.append raw with
    | .error e => (.error e, s)
    | .ok store =>
      match store.storeRange raw start with
      | (r, store) => (r, { s with store })

/-- Whether a batch shows that the server sends less at once than was asked for. -/
def cap? (batch : HeaderBatch) (chunk : Nat) : Option Nat :=
  match batch.max with
  | some most => if 0 < most ∧ most < chunk ∧ batch.count = most then some most else none
  | none => none

/-- Goes on after `linked` headers of a batch have been stored. -/
def afterBatch (s : Synchronizer) (count : CatchUpCount) (batch : HeaderBatch) (linked : Nat) :
    Progress CatchUp Nat × Synchronizer :=
  let count : CatchUpCount :=
    ⟨count.chunk, count.fetched + linked, count.sinceRewind + linked⟩
  if linked < batch.count then s.goBack count
  else
    match cap? batch count.chunk with
    | some most => s.nextRequest { count with chunk := most }
    | none =>
      if batch.count < count.chunk then s.finishCatchUp count else s.nextRequest count

/-- Takes a batch that starts at height `start`. -/
def takeBatch (s : Synchronizer) (count : CatchUpCount) (start : Nat) (batch : HeaderBatch) :
    Progress CatchUp Nat × Synchronizer :=
  if count.chunk < batch.count then s.failed (batch.mismatch start count.chunk)
  else
    match batch.raw s.store.headerSize start count.chunk with
    | .error e => s.failed e
    | .ok raw =>
      match s.store.linkedPrefix raw with
      | .error e => s.failed (.malformedHeaders start e.message)
      | .ok linked =>
        match s.storeLinked (raw.take (linked * s.store.headerSize)) start with
        | (.error e, s) => s.failed (.chain e)
        | (.ok (), s) => s.afterBatch count batch linked

/-- Goes on with an answer. -/
def resumeCatchUp : (call : CatchUp) → (s : Synchronizer) → call.query.Answer →
    Progress CatchUp Nat × Synchronizer
  | .asking count waits, s, (high : Bool) =>
    if high ∧ waits < s.settings.maxThrottleWaits then (.waiting (.pausing count waits), s)
    else (.waiting (.fetching count s.store.nextHeight), s)
  | .pausing count waits, s, () => (.waiting (.asking count (waits + 1)), s)
  | .fetching _ _, s, .error e => s.failed (.client e)
  | .fetching count start, s, .ok batch => s.takeBatch count start batch

end Synchronizer

/-- Catching up as a machine; the result is the number of headers fetched. -/
def CatchUp.machine : Machine Synchronizer CatchUp Nat := ⟨CatchUp.query, Synchronizer.resumeCatchUp⟩

end HeaderFollower
