/-
# Block headers

A header is a record of bytes whose first 80 are, in this order: version (4), hash of the previous
header (32), Merkle root (32), time (4), difficulty bits (4) and nonce (4), numbers little-endian.
A network may use longer records; the hash is taken over the whole record.

The fields are read off the bytes on demand, so the file, the wire and the hash all see the same
byte string.
-/

import HeaderFollower.Bytes.Words
import HeaderFollower.Header.Hash
import HeaderFollower.Text.Blank

namespace HeaderFollower

/-- Size of the fixed part of a header. -/
def baseHeaderSize : Nat := 80

/-- A record of at least 80 bytes. -/
structure BlockHeader where
  raw : List UInt8
  base_le : baseHeaderSize ≤ raw.length
  deriving DecidableEq, Repr

namespace BlockHeader

theorem ext {a b : BlockHeader} (h : a.raw = b.raw) : a = b := by
  cases a; cases b; simp_all

/-- The 80 bytes of given fields. -/
def fieldBytes (version : Int32) (prev merkle : Hash256) (time bits nonce : UInt32) :
    List UInt8 :=
  Bytes.wordBytes version.toUInt32 ++ (prev.bytes ++ (merkle.bytes ++
    (Bytes.wordBytes time ++ (Bytes.wordBytes bits ++ Bytes.wordBytes nonce))))

theorem length_fieldBytes (version : Int32) (prev merkle : Hash256) (time bits nonce : UInt32) :
    (fieldBytes version prev merkle time bits nonce).length = 80 := by
  simp only [fieldBytes, List.length_append, Bytes.length_wordBytes, prev.length_bytes,
    merkle.length_bytes]

/-- The header of 80 bytes with given fields. -/
def ofFields (version : Int32) (prev merkle : Hash256) (time bits nonce : UInt32) : BlockHeader :=
  ⟨fieldBytes version prev merkle time bits nonce,
    by rw [length_fieldBytes]; exact Nat.le_refl 80⟩

/-- A header from a record of exactly `size` bytes. -/
def ofBytes (size : Nat) (bytes : List UInt8) : Except HeaderError BlockHeader :=
  if hs : size < baseHeaderSize then .error (.sizeTooSmall size)
  else if hb : bytes.length = size then .ok ⟨bytes, by omega⟩
  else .error (.wrongLength size bytes.length)

/-- A header from hexadecimal text, white space around it aside. -/
def ofHex (size : Nat) (text : String) : Except HeaderError BlockHeader :=
  match Hex.decode (Text.trim text) with
  | .error fault => .error (.hex fault)
  | .ok bytes => ofBytes size bytes

/-- The record as hexadecimal text. -/
def toHex (h : BlockHeader) : String := Hex.encode h.raw

/-- The hash of the whole record. -/
def hash (h : BlockHeader) : Hash256 := Hash256.ofMessage h.raw

def version (h : BlockHeader) : Int32 := (Bytes.word h.raw 0).toInt32

theorem length_part (h : BlockHeader) (start : Nat) (hs : start + 32 ≤ 80) :
    ((h.raw.drop start).take 32).length = 32 := by
  have := h.base_le
  simp only [baseHeaderSize] at this
  rw [List.length_take, List.length_drop]
  omega

/-- The hash of the header below. -/
def prev (h : BlockHeader) : Hash256 := ⟨(h.raw.drop 4).take 32, h.length_part 4 (by decide)⟩

def merkle (h : BlockHeader) : Hash256 :=
  ⟨(h.raw.drop 36).take 32, h.length_part 36 (by decide)⟩

def time (h : BlockHeader) : UInt32 := Bytes.word h.raw 68

def bits (h : BlockHeader) : UInt32 := Bytes.word h.raw 72

def nonce (h : BlockHeader) : UInt32 := Bytes.word h.raw 76

/-- A header names another one as the one below it. -/
def linksTo (child parent : BlockHeader) : Bool := child.prev == parent.hash

/-- The records of a concatenation, each a header or the reason why it is none. -/
def split (size : Nat) (bytes : List UInt8) : List (Except HeaderError BlockHeader) :=
  (Bytes.pieces size bytes).map (ofBytes size)

/-- One line that identifies a header. -/
def summary (h : BlockHeader) : String :=
  "BlockHeader \x7b hash: BlockHash(" ++ h.hash.display ++ "), prev: BlockHash(" ++
    h.prev.display ++ "), time: " ++ toString h.time.toNat ++ " \x7d"

end BlockHeader
end HeaderFollower
