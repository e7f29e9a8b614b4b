/-
# Shortest decimal text of a binary64 number

A decimal reads back as a given number when it lies in the interval of reals that round to it; the
ends belong to the interval iff the significand is even. `shortest` takes the smallest count of
digits with which a decimal in the interval can be written, and of two such decimals the one nearer
to the number.

Two layouts are laid on those digits: `positional` never uses an exponent, `scientific` uses one
outside `1e-5 ≤ x < 1e16`.
-/

import HeaderFollower.Number.Binary64

namespace HeaderFollower
namespace Binary64

/-- A decimal `digits * 10 ^ exponent`. -/
structure Decimal where
  digits : Nat
  exponent : Int
  deriving DecidableEq, Repr

/-- The decimal without trailing zeros among its digits. -/
def Decimal.strip (fuel : Nat) (d : Decimal) : Decimal :=
  match fuel with
  | 0 => d
  | fuel + 1 =>
    if d.digits ≠ 0 ∧ d.digits % 10 = 0 then strip fuel ⟨d.digits / 10, d.exponent + 1⟩ else d

/-- Number of decimal places before the point of `num / den ≥ 1`, or one less than the zeros behind
it, negated: the least `p` with `num / den < 10 ^ p`. -/
def magnitudeTen (num den : Nat) : Int :=
  if den ≤ num then ((Nat.toDigits 10 (num / den)).length : Int)
  else
    -- `den / num` has as many places as `num / den` has zeros behind the point, or one more.
    let k := (Nat.toDigits 10 (den / num)).length
    if num * Nat.pow 10 (k - 1) < den then 1 - (k : Int) else 2 - (k : Int)

/-- The decimals with `n` digits beside the number, if they lie in its interval. Everything is
scaled so that the number is `value / scale`. -/
def candidate? (low value high scale : Nat) (closed : Bool) (place : Int) : Option Decimal :=
  let unitNum := if place ≥ 0 then Nat.pow 10 place.toNat else 1
  let unitDen := if place ≥ 0 then 1 else Nat.pow 10 (-place).toNat
  -- `x` units are `x * unitNum / unitDen`; compared with `y / scale` by cross multiplication.
  let below := value * unitDen / (scale * unitNum)
  let inside (x : Nat) : Bool :=
    let side := x * unitNum * scale
    if closed then low * unitDen ≤ side && side ≤ high * unitDen
    else low * unitDen < side && side < high * unitDen
  let down := value * unitDen - below * unitNum * scale
  let up := (below + 1) * unitNum * scale - value * unitDen
  match inside below, inside (below + 1) with
  | true, true =>
    some ⟨if down < up ∨ (down = up ∧ below % 2 = 0) then below else below + 1, place⟩
  | true, false => some ⟨below, place⟩
  | false, true => some ⟨below + 1, place⟩
  | false, false => none

/-- The first grid, from coarse to fine, with a decimal in the interval. -/
def searchGrids (low value high scale : Nat) (closed : Bool) (top : Int) : Nat → Nat → Decimal
  | _, 0 => ⟨value / scale, 0⟩
  | n, fuel + 1 =>
    match candidate? low value high scale closed (top - n) with
    | some d => d
    | none => searchGrids low value high scale closed top (n + 1) fuel

/-- The shortest decimal that reads back as the finite magnitude. -/
def shortest (bits : UInt64) : Decimal :=
  let (m, q) := parts bits
  if m = 0 then ⟨0, 0⟩
  else
    -- Quarters of a unit in the last place make both half-way points whole.
    let up := if q ≥ 1076 then Nat.pow 2 (q - 1076) else 1
    let scale := if q ≥ 1076 then 1 else Nat.pow 2 (1076 - q)
    let value := 4 * m * up
    let high := (4 * m + 2) * up
    let low := if m = hiddenBit ∧ q > 0 then (4 * m - 1) * up else (4 * m - 2) * up
    let top := magnitudeTen value scale
    (searchGrids low value high scale (m % 2 = 0) top 1 17).strip 17

/-- Digits with a point in front of the last `places` of them, at least one digit before it and
one behind it. -/
def pointed (digits : List Char) (places : Nat) : String :=
  let padded := List.replicate (places + 1 - digits.length) '0' ++ digits
  let cut := padded.length - places
  let behind := padded.drop cut
  String.ofList (padded.take cut) ++ "." ++ (if behind.isEmpty then "0" else String.ofList behind)

/-- A decimal without an exponent, with at least one digit behind the point. -/
def Decimal.positional (d : Decimal) : String :=
  let digits := Nat.toDigits 10 d.digits
  if d.exponent ≥ 0 then pointed (digits ++ List.replicate d.exponent.toNat '0') 0
  else pointed digits (-d.exponent).toNat

/-- A decimal as one digit, the further digits behind a point, and an exponent with its sign. -/
def Decimal.scientific (d : Decimal) : String :=
  let digits := Nat.toDigits 10 d.digits
  let power := d.exponent + (digits.length : Int) - 1
  let mantissa :=
    match digits with
    | [] => "0"
    | [c] => c.toString
    | c :: rest => c.toString ++ "." ++ String.ofList rest
  mantissa ++ (if power < 0 then "e" else "e+") ++ toString power

/-- The sign in front of a magnitude's text. -/
def signed (bits : UInt64) (text : String) : String :=
  if isNegative bits then "-" ++ text else text

/-- The number without an exponent, whatever its size. -/
def positionalText (bits : UInt64) : String :=
  signed bits (shortest bits).positional

/-- The number with an exponent below `1e-5` and from `1e16` on. -/
def scientificText (bits : UInt64) : String :=
  let d := shortest bits
  let power := d.exponent + ((Nat.toDigits 10 d.digits).length : Int)
  signed bits (if -5 < power ∧ power ≤ 16 then d.positional else d.scientific)

end Binary64
end HeaderFollower
