/-
# Delays between connection attempts

The delay grows by a factor with each attempt up to a maximum, is spread by a random fraction, and
starts again after a success. `Backoff.next?` takes the random fraction as an argument.
-/

import HeaderFollower.Duration

namespace HeaderFollower

structure ReconnectPolicy where
  initial : Duration := .ofSeconds 2
  longest : Duration := .ofSeconds 300
  multiplier : Float := 1.5
  /-- The largest fraction of a delay that is added to it or taken from it. -/
  jitter : Float := 0.2
  /-- The number of attempts, 0 for any number. -/
  maxAttempts : Nat := 0

/-- The delays of one supervisor. -/
structure Backoff where
  policy : ReconnectPolicy
  attempts : Nat

/-- What comes before the next attempt. -/
inductive NextAttempt where
  | after (delay : Duration)
  /-- All attempts are used up. -/
  | exhausted
  /-- The policy gives no length of time. -/
  | undefined
  deriving DecidableEq

namespace Backoff

def start (policy : ReconnectPolicy) : Backoff := ⟨policy, 0⟩

/-- A success: the delays start again. -/
def reset (b : Backoff) : Backoff := ⟨b.policy, 0⟩

/-- The power of a number, by squaring. -/
def power (base : Float) (exponent : Nat) : Float := go base exponent 1.0
where
  go (square : Float) (exponent : Nat) (product : Float) : Float :=
    let product := if exponent % 2 = 1 then product * square else product
    if h : exponent / 2 = 0 then product else go (square * square) (exponent / 2) product
  termination_by exponent
  decreasing_by omega

/-- A number of seconds, cut at the policy's longest delay. -/
def cut (b : Backoff) (seconds : Float) : Float :=
  let longest := b.policy.longest.seconds
  if seconds < longest then seconds else longest

/-- The delay before it is spread; none if the policy makes it negative. -/
def base? (b : Backoff) : Option Duration :=
  Duration.ofSecondsFloat? (b.cut (b.policy.initial.seconds * power b.policy.multiplier (min b.attempts 64)))

/-- The largest random number below one, on the grid of random numbers in `[0, 1)`. -/
def largestRandom : Float := 1.0 - 1.0 / 4503599627370496.0

/-- Fractions can be drawn from `-jitter` to `jitter`: the width of that range is a number, also when
it is stretched so that the largest random number leads to its end. -/
def spreads (b : Backoff) : Bool :=
  ((b.policy.jitter - -b.policy.jitter) / largestRandom).isFinite

/-- The next delay, spread by the fraction `spread` of itself. -/
def next? (b : Backoff) (spread : Float) : NextAttempt × Backoff :=
  if b.policy.maxAttempts ≠ 0 ∧ b.policy.maxAttempts ≤ b.attempts then (.exhausted, b)
  else
    match b.base? with
    | none => (.undefined, b)
    | some base =>
      let later : Backoff := ⟨b.policy, b.attempts + 1⟩
      if b.policy.jitter ≤ 0.0 then (.after base, later)
      else if !b.spreads then (.undefined, later)
      else
        let seconds := base.seconds * (1.0 + spread)
        match Duration.ofSecondsFloat? (b.cut (if seconds < 0.0 then 0.0 else seconds)) with
        | some delay => (.after delay, later)
        | none => (.undefined, later)

theorem attempts_of_exhausted {b c : Backoff} {spread : Float}
    (h : b.next? spread = (.exhausted, c)) :
    c = b ∧ b.policy.maxAttempts ≠ 0 ∧ b.policy.maxAttempts ≤ b.attempts := by
  unfold next? at h
  split at h
  · rename_i hmax
    exact ⟨(Prod.mk.inj h).2.symm, hmax⟩
  · split at h
    · simp at h
    · dsimp only at h
      repeat' split at h
      all_goals simp at h

end Backoff
end HeaderFollower
