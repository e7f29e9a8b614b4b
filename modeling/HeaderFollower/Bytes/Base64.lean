/-
# Base64 text

Four symbols stand for three bytes, the first symbol for the highest six bits. White space between
symbols does not matter. Up to two equals signs may fill the last group up to four, and nothing may
stand behind them; a group may also be left unfilled. Bits that do not fill a byte are left out.
-/

namespace HeaderFollower
namespace Base64

/-- The six bits that a symbol stands for. -/
def value? (b : UInt8) : Option Nat :=
  if 65 ≤ b ∧ b ≤ 90 then some (b.toNat - 65)
  else if 97 ≤ b ∧ b ≤ 122 then some (b.toNat - 71)
  else if 48 ≤ b ∧ b ≤ 57 then some (b.toNat + 4)
  else if b = 43 then some 62
  else if b = 47 then some 63
  else none

/-- Space, or one of the controls from tab to carriage return. -/
def isSpace (b : UInt8) : Bool := b == 32 || 9 ≤ b && b ≤ 13

/-- The bytes that groups of four six-bit values spell; none if a single value is left over. -/
def join? : List Nat → Option (List UInt8)
  | a :: b :: c :: d :: rest =>
    let n := ((a * 64 + b) * 64 + c) * 64 + d
    (join? rest).map ([UInt8.ofNat (n / 65536), UInt8.ofNat (n / 256), UInt8.ofNat n] ++ ·)
  | [a, b, c] =>
    let n := (a * 64 + b) * 64 + c
    some [UInt8.ofNat (n / 1024), UInt8.ofNat (n / 4)]
  | [a, b] => some [UInt8.ofNat ((a * 64 + b) / 16)]
  | [_] => none
  | [] => some []

/-- The equals signs behind `count` symbols: none, or up to two that fill the last group. -/
def isPadding (count : Nat) (signs : List UInt8) : Bool :=
  signs.isEmpty ||
    signs.all (· == 61) && signs.length ≤ 2 && (count + signs.length) % 4 == 0

/-- The bytes that a text spells. -/
def decode? (text : List UInt8) : Option (List UInt8) :=
  let text := text.filter (!isSpace ·)
  let symbols := text.takeWhile (· != 61)
  if isPadding symbols.length (text.dropWhile (· != 61)) then (symbols.mapM value?).bind join?
  else none

end Base64
end HeaderFollower
