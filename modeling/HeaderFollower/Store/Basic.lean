/-
# The header store

The store holds the headers from its start point upwards: in a file, and in an index that is loaded
from the file. The local tip is the greatest height in the index; after headers were taken away the
visible tip stays pinned at the height it had, until the store has grown again.

An operation that fails in the middle of a list of headers keeps those before the failure.
-/

import HeaderFollower.Store.File
import HeaderFollower.Store.Index

namespace HeaderFollower

/-- The height that no header can have. -/
def heightLimit : Nat := 0xffffffffffffffff

/-- The headers that are known. -/
structure Store where
  startPoint : Nat
  file : HeaderFile
  index : Index
  /-- The greatest height in the index. -/
  localTip : Option Nat
  /-- A catch-up has been completed, so the file may be cut. -/
  synced : Bool
  /-- The height at which the visible tip is held while headers are fetched anew. -/
  pinned : Option Nat

namespace Store

/-- A store over a file; nothing is loaded yet. -/
def ofFile (startPoint : Nat) (file : HeaderFile) : Store :=
  { startPoint, file, index := .empty, localTip := none, synced := false, pinned := none }

/-- Opens a store over the content of a file. -/
def openOn (startPoint headerSize : Nat) (content : Option (List UInt8)) :
    Except ChainError Store :=
  match HeaderFile.openOn headerSize content with
  | .error e => .error e
  | .ok file => .ok (ofFile startPoint file)

/-- The size of a header. -/
def headerSize (s : Store) : Nat := s.file.headerSize

/-! ## Reading -/

/-- The tip that readers see. -/
def tip (s : Store) : Option Nat :=
  match s.pinned, s.localTip with
  | some pin, some t => some (max t pin)
  | some pin, none => some pin
  | none, t => t

/-- The height of the next header to be connected. -/
def nextHeight (s : Store) : Nat :=
  match s.localTip with
  | some t => t + 1
  | none => s.startPoint

/-- The number of headers up to the local tip. -/
def headerCount (s : Store) : Nat :=
  match s.localTip with
  | some t => t - s.startPoint + 1
  | none => 0

/-- The header at a height. -/
def header (s : Store) (height : Nat) : Except ChainError BlockHeader :=
  match s.index.header? height with
  | some h => .ok h
  | none => .error (.notFound height)

/-- The height of the header with a hash. -/
def heightOf? (s : Store) (hash : Hash256) : Option Nat := s.index.height? hash

/-- The headers at the heights of a list, up to the first that is missing. -/
def collect (s : Store) : List Nat → Except ChainError (List BlockHeader)
  | [] => .ok []
  | height :: rest =>
    match s.header height with
    | .error e => .error e
    | .ok h =>
      match s.collect rest with
      | .error e => .error e
      | .ok hs => .ok (h :: hs)

/-- The `count` headers from `start` on, which all have to lie between start point and tip. The height
of the last one is a 64-bit sum, which stops at the greatest word there is. -/
def range (s : Store) (start count : Nat) : Except ChainError (List BlockHeader) :=
  let outside : Except ChainError (List BlockHeader) :=
    .error (.range start count s.startPoint s.localTip)
  match s.localTip with
  | none => outside
  | some tip =>
    if start < s.startPoint ∨ tip < start then outside
    else if 0 < count ∧ tip < min (start + (count - 1)) heightLimit then outside
    else s.collect (List.range' start count)

/-! ## Links -/

/-- A header continues the chain: it names the header at the local tip as the one below it. The
first header of all is trusted. -/
def connects (s : Store) (h : BlockHeader) : Bool :=
  match s.localTip with
  | none => true
  | some tip =>
    match s.index.header? tip with
    | some below => h.linksTo below
    | none => false

/-- Walks down from `child` at height `height`, over `n` links. -/
def verifyDown (s : Store) (child : BlockHeader) (height : Nat) : Nat → Except ChainError Unit
  | 0 => .ok ()
  | n + 1 =>
    match s.index.header? (height - 1) with
    | none => .error (.verifyFailed height)
    | some parent =>
      if child.linksTo parent then s.verifyDown parent (height - 1) n
      else .error (.verifyFailed height)

/-- The lowest height whose link is looked at: `depth` links below the tip, or all. -/
def lowestVerified (s : Store) (tip depth : Nat) (all : Bool) : Nat :=
  if all then s.startPoint + 1 else max (tip - depth + 1) (s.startPoint + 1)

/-- Checks the links from the tip downwards and reports the first that is broken. -/
def verify (s : Store) (depth : Nat) (all : Bool) : Except ChainError Unit :=
  match s.localTip with
  | none => .ok ()
  | some tip =>
    let lowest := s.lowestVerified tip depth all
    if tip < lowest then .ok ()
    else
      match s.index.header? tip with
      | none => .error (.verifyFailed tip)
      | some child => s.verifyDown child tip (tip + 1 - lowest)

/-! ## Changing -/

/-- The local tip once a header is at `height`. -/
def tipAt (height : Nat) : Option Nat := if height = heightLimit then none else some height

/-- A header in the index. The local tip moves up to it, never down. -/
def put (s : Store) (height : Nat) (h : BlockHeader) : Store :=
  let above : Bool := match s.localTip with
    | some t => t < height
    | none => true
  { s with
    index := s.index.insert height h
    localTip := if above then tipAt height else s.localTip }

/-- Records in the index, one height after the other, up to the first that is no header. Heights are
numbers here. A 64-bit sum of `height` and the place of a record is the same up to `heightLimit`;
behind it, it would begin again at 0, or fail where overflow is looked for. -/
def putAll (s : Store) (height : Nat) : List (Except HeaderError BlockHeader) →
    Except ChainError Unit × Store
  | [] => (.ok (), s)
  | .error e :: _ => (.error (.deserialize height e.message), s)
  | .ok h :: rest => (s.put height h).putAll (height + 1) rest

/-- The headers of a byte string in the index, from a height on. -/
def storeRange (s : Store) (raw : List UInt8) (start : Nat) : Except ChainError Unit × Store :=
  s.putAll start (BlockHeader.split s.headerSize raw)

/-- A header in the index, above all others. -/
def storeOne (s : Store) (h : BlockHeader) : Store :=
  let height := s.nextHeight
  { s with index := s.index.insert height h, localTip := tipAt height }

/-- Headers at the end of the file. -/
def append (s : Store) (raw : List UInt8) : Except ChainError Store :=
  match s.file.append raw with
  | .error e => .error e
  | .ok file => .ok { s with file }

/-- A header at the end of the file and above all others in the index. -/
def extend (s : Store) (h : BlockHeader) : Except ChainError Store :=
  match s.append h.raw with
  | .error e => .error e
  | .ok s => .ok (s.storeOne h)

/-- Takes the header at the local tip out of the index. A tip at height 0 below the start point stays
where it is, while the 64-bit difference `tip - 1` would become the greatest word, or fail where
overflow is looked for. Headers stored from the start point upwards have no such tip. -/
def removeTip (s : Store) : Except ChainError Store :=
  match s.localTip with
  | none => .error (.notFound s.startPoint)
  | some tip =>
    match s.index.erase? tip with
    | none => .error (.notFound tip)
    | some index =>
      .ok { s with index, localTip := if tip = s.startPoint then none else some (tip - 1) }

/-- Takes `n` headers away at the end of the file, once a catch-up has been completed. -/
def truncateFile (s : Store) (n : Nat) : Except ChainError Store :=
  if s.synced then
    match s.file.dropLast n with
    | .error e => .error e
    | .ok file => .ok { s with file }
  else .error .truncateBeforeSync

/-- Empties the index. -/
def reset (s : Store) : Store := { s with index := .empty, localTip := none }

/-- Loads the index from the file anew. -/
def rebuild (s : Store) : Except ChainError Unit × Store :=
  match s.file.readAll with
  | .error e => (.error e, s)
  | .ok raw => s.reset.storeRange raw s.startPoint

def setSynced (s : Store) (synced : Bool) : Store := { s with synced }

/-- Pins the visible tip. Of two pins the higher holds. -/
def beginRecovery (s : Store) (height : Nat) : Store :=
  { s with pinned := some (match s.pinned with
      | some pin => max pin height
      | none => height) }

/-- Takes the pin away. -/
def clearRecovery (s : Store) : Store := { s with pinned := none }

/-- The store when somebody else wrote or removed the file. -/
def withFileContent (s : Store) (content : Option (List UInt8)) : Store :=
  { s with file := s.file.replaced content }

@[simp] theorem headerSize_put (s : Store) (height : Nat) (h : BlockHeader) :
    (s.put height h).headerSize = s.headerSize := rfl

@[simp] theorem tip_of_pinned_eq_none {s : Store} (h : s.pinned = none) : s.tip = s.localTip := by
  simp [tip, h]

end Store
end HeaderFollower
