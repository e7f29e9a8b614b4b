/-
# Durations

Lengths of time in whole nanoseconds, and the short text in which messages show them: the largest
unit that leaves a whole part, with the digits of the fraction that are needed.
-/

import HeaderFollower.Number.Binary64

namespace HeaderFollower

/-- A length of time. -/
structure Duration where
  nanos : Nat
  deriving DecidableEq, Repr, Inhabited

namespace Duration

def ofMillis (ms : Nat) : Duration := ⟨ms * 1000000⟩

def ofSeconds (s : Nat) : Duration := ⟨s * 1000000000⟩

/-- A fraction of `places` digits without the zeros at its end. -/
def fractionText (fraction places : Nat) : String :=
  let digits := Nat.toDigits 10 fraction
  let padded := List.replicate (places - digits.length) '0' ++ digits
  match (padded.reverse.dropWhile (· == '0')).reverse with
  | [] => ""
  | kept => "." ++ String.ofList kept

/-- The duration as messages show it. -/
def text (d : Duration) : String :=
  let n := d.nanos
  if 1000000000 ≤ n then
    toString (n / 1000000000) ++ fractionText (n % 1000000000) 9 ++ "s"
  else if 1000000 ≤ n then toString (n / 1000000) ++ fractionText (n % 1000000) 6 ++ "ms"
  else if 1000 ≤ n then toString (n / 1000) ++ fractionText (n % 1000) 3 ++ "µs"
  else toString n ++ "ns"

/-- The duration in seconds. -/
def seconds (d : Duration) : Float :=
  (d.nanos / 1000000000).toFloat + (d.nanos % 1000000000).toFloat / 1000000000.0

/-- The duration nearest to a number of seconds, ties to even; none for a negative number, a NaN,
or one that does not fit 64 bits of seconds. -/
def ofSecondsFloat? (x : Float) : Option Duration :=
  let bits := x.toBits
  if Binary64.isNaN bits ∨ Binary64.isInfinite bits then none
  else if Binary64.isNegative bits ∧ ¬ Binary64.isZero bits then none
  else
    let (num, den) := Binary64.ratio bits
    if 0x10000000000000000 * den ≤ num then none
    else some ⟨Binary64.divideNearest (num * 1000000000) den⟩

end Duration
end HeaderFollower
