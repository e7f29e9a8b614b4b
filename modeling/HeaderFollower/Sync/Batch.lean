/-
# Headers in a batch

A batch has to hold as many headers as it says. Of the headers in it, those are stored that form a
chain on top of the local tip. `linkedCount` counts them, `Store.connectAll` connects them one after
the other.
-/

import HeaderFollower.Sync.Basic

namespace HeaderFollower

/-- The error of a batch that does not hold what was asked for. -/
def HeaderBatch.mismatch (batch : HeaderBatch) (start requested : Nat) : SyncError :=
  .batchMismatch start requested batch.count (batch.hex.utf8ByteSize / 2)

/-- The bytes of a batch of headers of one size. What the batch should hold is a product of numbers:
one of 64-bit words is the same while it stays below 2^64, and beyond that a batch could pass whose
text is too short for its count (`HeaderBatch.rawInWords_eq`). -/
def HeaderBatch.raw (batch : HeaderBatch) (headerSize start requested : Nat) :
    Except SyncError (List UInt8) :=
  if batch.hex.utf8ByteSize ≠ batch.count * headerSize * 2 then
    .error (batch.mismatch start requested)
  else
    match Hex.decode batch.hex with
    | .error fault => .error (.malformedHeaders start fault.message)
    | .ok raw => .ok raw

/-- How many records at the front are headers of which each links to the one before it, and the
first as `links` says. -/
def linkedCount (links : BlockHeader → Bool) : List (Except HeaderError BlockHeader) →
    Except HeaderError Nat
  | [] => .ok 0
  | .error e :: _ => .error e
  | .ok h :: rest =>
    if links h then
      match linkedCount (fun next => next.linksTo h) rest with
      | .error e => .error e
      | .ok n => .ok (n + 1)
    else .ok 0

/-- The number of records at the front of `raw` that continue the stored chain. -/
def Store.linkedPrefix (s : Store) (raw : List UInt8) : Except HeaderError Nat :=
  linkedCount s.connects (BlockHeader.split s.headerSize raw)

/-- What became of headers that were to be connected. -/
inductive Connection where
  | advanced
  /-- The header for this height does not continue the chain. -/
  | broken (height : Nat)
  deriving DecidableEq, Repr

/-- Stores a header if it continues the chain. -/
def Store.connect (s : Store) (h : BlockHeader) : Except ChainError Connection × Store :=
  if s.connects h then
    match s.extend h with
    | .error e => (.error e, s)
    | .ok t => (.ok .advanced, t)
  else (.ok (.broken s.nextHeight), s)

/-- Stores the records of a batch one after the other, up to the first that does not continue the
chain. -/
def Store.connectAll (start : Nat) : Store → List (Except HeaderError BlockHeader) →
    Except SyncError Connection × Store
  | s, [] => (.ok .advanced, s)
  | s, .error e :: _ => (.error (.malformedHeaders start e.message), s)
  | s, .ok h :: rest =>
    match s.connect h with
    | (.error e, t) => (.error (.chain e), t)
    | (.ok (.broken height), t) => (.ok (.broken height), t)
    | (.ok .advanced, t) => t.connectAll start rest

end HeaderFollower
