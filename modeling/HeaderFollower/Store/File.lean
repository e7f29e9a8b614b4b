/-
# The header file

The file holds headers of one size back to back, from the start point to the tip, with nothing in
between. It grows and shrinks at its end only.

`HeaderFile.changes` records what was done to the file since it was opened, the latest change last,
for the outer layer to carry out on disk. A change that fails is not made at all, whether the file
does not allow it or the system refuses the access.
-/

import HeaderFollower.Store.Error

namespace HeaderFollower

/-- One change of the file's content. -/
inductive FileChange where
  /-- Bytes at the end. -/
  | append (bytes : List UInt8)
  /-- All but the first `length` bytes go. -/
  | shorten (length : Nat)
  deriving DecidableEq, Repr

/-- The content after a change. -/
def FileChange.apply : FileChange → List UInt8 → List UInt8
  | .append bytes, content => content ++ bytes
  | .shorten length, content => content.take length

/-- The ways to access a file. -/
inductive FileAccess where
  | count
  | read
  | append
  | shorten
  deriving DecidableEq, Repr

/-- A file of headers. -/
structure HeaderFile where
  headerSize : Nat
  /-- The bytes in the file; none if there is no such file. -/
  content : Option (List UInt8)
  changes : List FileChange := []
  /-- Why the system refuses an access after so many changes, if it does. -/
  refusal? : FileAccess → Nat → Option String := fun _ _ => none

namespace HeaderFile

/-- What is reported when somebody took the file away. -/
def missing : ChainError := .io "No such file or directory (os error 2)"

/-- Bytes that are a whole number of headers, or the reason why they are not. -/
def checkLength (headerSize length : Nat) : Except ChainError Unit :=
  if length % headerSize = 0 then .ok () else .error (.corruptLength length headerSize)

/-- Opens a file, which is made if there is none. -/
def openOn (headerSize : Nat) (content : Option (List UInt8)) : Except ChainError HeaderFile :=
  let bytes := content.getD []
  match checkLength headerSize bytes.length with
  | .error e => .error e
  | .ok () => .ok { headerSize, content := some bytes }

/-- The bytes that an access finds. -/
def bytes (f : HeaderFile) (access : FileAccess) : Except ChainError (List UInt8) :=
  match f.refusal? access f.changes.length, f.content with
  | some text, _ => .error (.io text)
  | none, none => .error missing
  | none, some bytes => .ok bytes

/-- The bytes that an access finds, which have to be a whole number of headers. -/
def wholeBytes (f : HeaderFile) (access : FileAccess) : Except ChainError (List UInt8) :=
  match f.bytes access with
  | .error e => .error e
  | .ok bytes =>
    match checkLength f.headerSize bytes.length with
    | .error e => .error e
    | .ok () => .ok bytes

/-- The length of the file in bytes. -/
def length (f : HeaderFile) : Except ChainError Nat :=
  match f.bytes .count with
  | .error e => .error e
  | .ok bytes => .ok bytes.length

/-- The bytes of a whole number of headers. -/
def readAll (f : HeaderFile) : Except ChainError (List UInt8) := f.wholeBytes .read

/-- The number of headers in the file. -/
def count (f : HeaderFile) : Except ChainError Nat :=
  match f.wholeBytes .count with
  | .error e => .error e
  | .ok bytes => .ok (bytes.length / f.headerSize)

/-- The file after a change that was made on `bytes`. -/
def change (f : HeaderFile) (bytes : List UInt8) (c : FileChange) : HeaderFile :=
  { f with content := some (c.apply bytes), changes := f.changes ++ [c] }

/-- Headers at the end. Nothing to append is no change. -/
def append (f : HeaderFile) (raw : List UInt8) : Except ChainError HeaderFile :=
  match checkLength f.headerSize raw.length with
  | .error e => .error e
  | .ok () =>
    if raw.isEmpty then .ok f
    else
      match f.bytes .append with
      | .error e => .error e
      | .ok bytes => .ok (f.change bytes (.append raw))

/-- Takes `n` headers away at the end, at least one and at most all. -/
def dropLast (f : HeaderFile) (n : Nat) : Except ChainError HeaderFile :=
  if n = 0 then .error (.invalidTruncate "truncate count must be positive")
  else
    match f.wholeBytes .shorten with
    | .error e => .error e
    | .ok bytes =>
      if bytes.length < n * f.headerSize then
        .error (.invalidTruncate ("cannot remove " ++ toString n ++
          " headers from a file holding " ++ toString (bytes.length / f.headerSize)))
      else .ok (f.change bytes (.shorten (bytes.length - n * f.headerSize)))

/-- The content when somebody else wrote or removed the file. -/
def replaced (f : HeaderFile) (content : Option (List UInt8)) : HeaderFile := { f with content }

end HeaderFile
end HeaderFollower
