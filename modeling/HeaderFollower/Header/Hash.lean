/-
# Hashes of 32 bytes

A hash is kept in the byte order in which it is computed and compared; people and servers write it
backwards. `Hash256.display` is that written form, `Hash256.ofDisplay` reads it.
-/

import HeaderFollower.Bytes.Hex
import HeaderFollower.Bytes.Sha256
import HeaderFollower.Text.Quoted

namespace HeaderFollower

/-- What a hexadecimal text is blamed for. -/
def Hex.Fault.message : Hex.Fault → String
  | .oddLength => "Odd number of digits"
  | .badDigit byte position =>
    "Invalid character " ++ Text.quotedChar (Char.ofNat byte.toNat) ++ " at position " ++
      toString position

/-- Why bytes or text are no hash or no header. -/
inductive HeaderError where
  | wrongLength (expected actual : Nat)
  /-- The record size leaves no room for the fixed part of a header. -/
  | sizeTooSmall (size : Nat)
  | hex (fault : Hex.Fault)
  deriving DecidableEq, Repr

def HeaderError.message : HeaderError → String
  | .wrongLength expected actual =>
    "header is " ++ toString actual ++ " bytes, expected " ++ toString expected
  | .sizeTooSmall size =>
    "header size " ++ toString size ++ " is smaller than the 80-byte base header"
  | .hex fault => "invalid hex: " ++ fault.message

/-- A short name for the error. -/
def HeaderError.kind : HeaderError → String
  | .wrongLength _ _ => "WrongLength"
  | .sizeTooSmall _ => "SizeTooSmall"
  | .hex _ => "Hex"

/-- 32 bytes in the order in which they are computed. -/
structure Hash256 where
  bytes : List UInt8
  length_bytes : bytes.length = 32
  deriving DecidableEq, Repr

namespace Hash256

theorem ext {a b : Hash256} (h : a.bytes = b.bytes) : a = b := by
  cases a; cases b; simp_all

instance : Hashable Hash256 where
  hash h := hash h.bytes

/-- 32 zero bytes. -/
def zero : Hash256 := ⟨List.replicate 32 0, by simp⟩

instance : Inhabited Hash256 := ⟨zero⟩

/-- The hash of a message: SHA-256 twice. -/
def ofMessage (message : List UInt8) : Hash256 :=
  ⟨Sha256.hashTwice message.toByteArray, Sha256.length_hashTwice _⟩

/-- The bytes in reverse. -/
def reverse (h : Hash256) : Hash256 := ⟨h.bytes.reverse, by simp [h.length_bytes]⟩

/-- Hexadecimal text in computing order. -/
def toHex (h : Hash256) : String := Hex.encode h.bytes

/-- Hexadecimal text in written order. -/
def display (h : Hash256) : String := Hex.encode h.bytes.reverse

/-- A hash from bytes in computing order. -/
def ofBytes (bytes : List UInt8) : Except HeaderError Hash256 :=
  if h : bytes.length = 32 then .ok ⟨bytes, h⟩ else .error (.wrongLength 32 bytes.length)

/-- A hash from its written form. -/
def ofDisplay (text : String) : Except HeaderError Hash256 :=
  match Hex.decode text with
  | .error fault => .error (.hex fault)
  | .ok bytes =>
    match ofBytes bytes with
    | .error e => .error e
    | .ok h => .ok h.reverse

end Hash256
end HeaderFollower
