/-
# Handling a tip

A notified header is stored on top of the headers below it, which are fetched first if they are
missing: a wide gap in batches, a narrow one header by header. If some header does not connect, the
topmost headers are taken away and the tip is to be tried again.
-/

import HeaderFollower.Sync.CatchUp

namespace HeaderFollower

/-- Where the handling of a tip waits; `notified` is the header of the tip. -/
inductive TipUpdate where
  /-- For `count` headers from `start` on. -/
  | batch (work : TipWork) (notified : BlockHeader) (start count : Nat)
  /-- For the header at `height`. -/
  | single (work : TipWork) (notified : BlockHeader) (height : Nat)
  deriving DecidableEq, Repr

def TipUpdate.query : TipUpdate → Query
  | .batch _ _ start count => .headers start count
  | .single _ _ height => .header height

/-- What became of a tip. -/
inductive TipOutcome where
  /-- Nothing new. -/
  | stale
  /-- The tip is stored. -/
  | advanced
  /-- Headers were taken away, and the tip is to be tried again. -/
  | rewound (again : TipWork)
  deriving DecidableEq, Repr

namespace Synchronizer

/-- A tip at a stored height. -/
def onStale (s : Synchronizer) (work : TipWork) : Except SyncError TipOutcome :=
  let localTip := s.store.localTip.getD s.store.startPoint
  if work.origin ≠ .subscribe ∨ localTip ≤ work.height then .ok .stale
  else
    match s.settings.stalePolicy with
    | .ignore => .ok .stale
    | .disconnect => .error (.staleSubscribe work.height localTip)

/-- Ends the handling of a tip once it is known whether its headers connect. -/
def settle (s : Synchronizer) (work : TipWork) : Connection →
    Progress TipUpdate TipOutcome × Synchronizer
  | .advanced =>
    let store := s.store.clearRecovery
    let events := s.events.emitTip (store.localTip.getD work.height)
    (.done (.ok .advanced), { s with store, events, phase := .tipFollow })
  | .broken _ =>
    match s.rewind with
    | (.error e, s) => s.failed e
    | (.ok (), s) => (.done (.ok (.rewound { work with origin := .retry })), s)

/-- Connects the notified header itself. -/
def connectNotified (s : Synchronizer) (work : TipWork) (notified : BlockHeader) :
    Progress TipUpdate TipOutcome × Synchronizer :=
  match s.store.connect notified with
  | (.error e, store) => { s with store }.failed (.chain e)
  | (.ok connection, store) => { s with store }.settle work connection

/-- Asks for the next batch below the tip, or connects the tip if none is missing. -/
def nextBatch (s : Synchronizer) (work : TipWork) (notified : BlockHeader) (start : Nat) :
    Progress TipUpdate TipOutcome × Synchronizer :=
  if start < work.height then
    (.waiting (.batch work notified start
      (min (work.height - start) (max s.settings.chunkSize 1))), s)
  else s.connectNotified work notified

/-- Asks for the next header below the tip, or connects the tip if none is missing. -/
def nextSingle (s : Synchronizer) (work : TipWork) (notified : BlockHeader) (height : Nat) :
    Progress TipUpdate TipOutcome × Synchronizer :=
  if height < work.height then (.waiting (.single work notified height), s)
  else s.connectNotified work notified

/-- Begins to handle a tip. -/
def beginTip (s : Synchronizer) (work : TipWork) : Progress TipUpdate TipOutcome × Synchronizer :=
  let next := s.store.nextHeight
  if work.height < s.store.startPoint then
    s.failed (.misbehaving work.height s.store.startPoint)
  else if work.height < next then (.done (s.onStale work), s)
  else
    match BlockHeader.ofHex s.store.headerSize work.hex with
    | .error e => s.failed (.badNotification e.message)
    | .ok notified =>
      if s.settings.batchThreshold < work.height - next then s.nextBatch work notified next
      else s.nextSingle work notified next

/-- Connects fetched records; `next` goes on if all of them connect. -/
def connectFetched (s : Synchronizer) (work : TipWork) (start : Nat)
    (records : List (Except HeaderError BlockHeader))
    (next : Synchronizer → Progress TipUpdate TipOutcome × Synchronizer) :
    Progress TipUpdate TipOutcome × Synchronizer :=
  match s.store.connectAll start records with
  | (.error e, store) => { s with store }.failed e
  | (.ok .advanced, store) => next { s with store }
  | (.ok (.broken height), store) => { s with store }.settle work (.broken height)

/-- Goes on with an answer. -/
def resumeTip : (call : TipUpdate) → (s : Synchronizer) → call.query.Answer →
    Progress TipUpdate TipOutcome × Synchronizer
  | .batch _ _ _ _, s, .error e => s.failed (.client e)
  | .batch work notified start count, s, .ok batch =>
    if batch.count ≠ count then s.failed (batch.mismatch start count)
    else
      match batch.raw s.store.headerSize start count with
      | .error e => s.failed e
      | .ok raw =>
        s.connectFetched work start (BlockHeader.split s.store.headerSize raw) fun s =>
          s.nextBatch work notified (start + count)
  | .single _ _ _, s, .error e => s.failed (.client e)
  | .single work notified height, s, .ok text =>
    s.connectFetched work height [BlockHeader.ofHex s.store.headerSize text] fun s =>
      s.nextSingle work notified (height + 1)

end Synchronizer

/-- The handling of a tip as a machine. -/
def TipUpdate.machine : Machine Synchronizer TipUpdate TipOutcome :=
  ⟨TipUpdate.query, Synchronizer.resumeTip⟩

end HeaderFollower
