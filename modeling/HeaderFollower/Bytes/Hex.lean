/-
# Hexadecimal text

A byte is written with two digits, its high half first, in lower case. Reading takes digits of
either case and works on the bytes of the text: a text of odd length is refused before its digits
are looked at, and the first byte that is no digit is reported with its position.

`length_encode` says that a byte takes two digits.
-/

namespace HeaderFollower
namespace Hex

/-- Why a text is not hexadecimal. -/
inductive Fault where
  /-- The number of bytes is odd. -/
  | oddLength
  /-- The first byte that is no digit, and where it stands. -/
  | badDigit (byte : UInt8) (position : Nat)
  deriving DecidableEq, Repr

/-- The digit of a value below 16. -/
def digit (n : UInt8) : Char :=
  if n < 10 then Char.ofNat (48 + n.toNat) else Char.ofNat (87 + n.toNat)

/-- The value of an ASCII digit of either case. -/
def value? (b : UInt8) : Option UInt8 :=
  if 48 ≤ b ∧ b ≤ 57 then some (b - 48)
  else if 97 ≤ b ∧ b ≤ 102 then some (b - 87)
  else if 65 ≤ b ∧ b ≤ 70 then some (b - 55)
  else none

/-- The two digits of a byte. -/
def digits (b : UInt8) : List Char :=
  [digit (b >>> 4), digit (b &&& 15)]

/-- Bytes as hexadecimal text. -/
def encode (bytes : List UInt8) : String :=
  String.ofList (bytes.flatMap digits)

/-- Pairs of digit bytes as bytes, counting from `position`. -/
def decodePairs (position : Nat) : List UInt8 → Except Fault (List UInt8)
  | [] => .ok []
  | [_] => .error .oddLength
  | a :: b :: rest =>
    match value? a, value? b with
    | none, _ => .error (.badDigit a position)
    | some _, none => .error (.badDigit b (position + 1))
    | some high, some low =>
      match decodePairs (position + 2) rest with
      | .error e => .error e
      | .ok bytes => .ok ((high * 16 + low) :: bytes)

/-- The bytes that a hexadecimal text spells. -/
def decode (text : String) : Except Fault (List UInt8) :=
  if text.utf8ByteSize % 2 = 1 then .error .oddLength
  else decodePairs 0 text.toUTF8.toList

/-- Whether a text is hexadecimal. -/
def isHex (text : String) : Bool :=
  match decode text with
  | .ok _ => true
  | .error _ => false

theorem length_encode (bytes : List UInt8) : (encode bytes).length = 2 * bytes.length := by
  induction bytes with
  | nil => rfl
  | cons b rest ih => simp_all [encode, digits]; omega

end Hex
end HeaderFollower
