/-
# Binary64 numbers as bit patterns

A finite magnitude is a ratio of two naturals, and a ratio is rounded to the nearest binary64
number, ties to the even significand, beyond the largest one to infinity. Everything is done on
naturals, so a number read from text is known bit by bit.

The sign bit is kept apart: `ofRatio` and `ratio` speak of magnitudes.
-/

namespace HeaderFollower
namespace Binary64

/-- The bits of positive infinity. -/
def infinity : UInt64 := 0x7ff0000000000000

/-- The sign bit. -/
def signBit : UInt64 := 0x8000000000000000

/-- A number with its sign bit set. -/
def negate (magnitude : UInt64) : UInt64 := magnitude ||| signBit

/-- A number without its sign bit. -/
def magnitude (bits : UInt64) : UInt64 := bits &&& 0x7fffffffffffffff

def isNegative (bits : UInt64) : Bool := bits &&& signBit != 0

def isNaN (bits : UInt64) : Bool := magnitude bits > infinity

def isInfinite (bits : UInt64) : Bool := magnitude bits == infinity

def isZero (bits : UInt64) : Bool := magnitude bits == 0

/-- The bit above the fraction of a normal number, `2 ^ 52`. -/
def hiddenBit : Nat := 0x10000000000000

/-- Significand `m` and exponent `q - 1074` of a finite magnitude: its value is
`m * 2 ^ (q - 1074)`. -/
def parts (bits : UInt64) : Nat × Nat :=
  let n := (magnitude bits).toNat
  let field := n / hiddenBit
  let fraction := n % hiddenBit
  if field = 0 then (fraction, 0) else (hiddenBit + fraction, field - 1)

/-- A finite magnitude as numerator and denominator. -/
def ratio (bits : UInt64) : Nat × Nat :=
  let (m, q) := parts bits
  if q ≥ 1074 then (m * Nat.pow 2 (q - 1074), 1) else (m, Nat.pow 2 (1074 - q))

/-- A quotient rounded to the nearest natural, ties to even. -/
def divideNearest (num den : Nat) : Nat :=
  let quotient := num / den
  let rest := num % den
  if 2 * rest < den then quotient
  else if den < 2 * rest then quotient + 1
  else quotient + quotient % 2

/-- The binary64 number nearest to `num / den`. -/
def ofRatio (num den : Nat) : UInt64 :=
  if num = 0 then 0
  else
    -- The exponent that leaves a significand of 53 bits, less the one of the subnormals.
    let guess : Int := (num.log2 : Int) - (den.log2 : Int)
    let exact := if guess ≥ 0 then den * Nat.pow 2 guess.toNat ≤ num
      else den ≤ num * Nat.pow 2 (-guess).toNat
    let top : Int := if exact then guess else guess - 1
    let q : Nat := (top - 52 + 1074).toNat
    let m := if q ≥ 1074 then divideNearest num (den * Nat.pow 2 (q - 1074))
      else divideNearest (num * Nat.pow 2 (1074 - q)) den
    -- A significand rounded up to `2 ^ 53` carries into the exponent field by itself.
    let bits := if m < hiddenBit then m else (q + 1) * hiddenBit + (m - hiddenBit)
    if bits ≥ infinity.toNat then infinity else UInt64.ofNat bits

/-- A natural as a binary64 number. -/
def ofNat (n : Nat) : UInt64 := ofRatio n 1

/-- The number nearest to `10 ^ k`. -/
def tenTo (k : Nat) : UInt64 := ofNat (Nat.pow 10 k)

/-- Product of two finite magnitudes, rounded. -/
def times (x y : UInt64) : UInt64 :=
  let (a, b) := ratio x
  let (c, d) := ratio y
  ofRatio (a * c) (b * d)

/-- Quotient of two finite magnitudes, the second not zero, rounded. -/
def dividedBy (x y : UInt64) : UInt64 :=
  let (a, b) := ratio x
  let (c, d) := ratio y
  ofRatio (a * d) (b * c)

end Binary64
end HeaderFollower
