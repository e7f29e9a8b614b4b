/-
# Session cost

A server charges each session for traffic and errors and forgives a fixed amount at fixed intervals.
`SessionCost` keeps the same account locally, as a sum of `Charge`s in the order in which they
arise, so that a caller can slow down before the server cuts the session off.
-/

import HeaderFollower.Duration

namespace HeaderFollower

structure CostSettings where
  /-- What a byte costs, sent or received. -/
  perByte : Float := 1.0 / 5000.0
  /-- What an error costs. -/
  errorPenalty : Float := 10.0
  /-- What is forgiven at each decay. -/
  decayAmount : Float := 10000.0 / 3600.0
  decayInterval : Duration := .ofSeconds 1
  /-- Above this a caller should slow down. -/
  softLimit : Float := 1000.0

/-- A change of the account. -/
inductive Charge where
  | amount (x : Float)
  | bytes (n : Nat)
  | error
  | decay

/-- The account of a session. -/
structure SessionCost where
  settings : CostSettings
  cost : Float

namespace SessionCost

/-- An account without charges. -/
def start (settings : CostSettings) : SessionCost := ⟨settings, 0.0⟩

/-- The cost after a charge. A decay may leave it below zero. -/
def apply (c : SessionCost) : Charge → SessionCost
  | .amount x => ⟨c.settings, c.cost + x⟩
  | .bytes n => ⟨c.settings, c.cost + n.toFloat * c.settings.perByte⟩
  | .error => ⟨c.settings, c.cost + c.settings.errorPenalty⟩
  | .decay => ⟨c.settings, c.cost - c.settings.decayAmount⟩

def applyAll (c : SessionCost) (charges : List Charge) : SessionCost := charges.foldl apply c

@[simp] theorem applyAll_append (c : SessionCost) (xs ys : List Charge) :
    c.applyAll (xs ++ ys) = (c.applyAll xs).applyAll ys := List.foldl_append

def overSoftLimit (c : SessionCost) : Bool := c.settings.softLimit < c.cost

end SessionCost

/-- How many multiples `k * interval`, `k ≥ 1`, counted from `start`, lie after `now` and not after
`later`. There are none without an interval. -/
def ticksBetween (start interval now later : Nat) : Nat :=
  (later - start) / interval - (now - start) / interval

theorem ticksBetween_add (start interval : Nat) {a b c : Nat} (hab : a ≤ b) (hbc : b ≤ c) :
    ticksBetween start interval a b + ticksBetween start interval b c =
      ticksBetween start interval a c := by
  have h₁ : (a - start) / interval ≤ (b - start) / interval := Nat.div_le_div_right (by omega)
  have h₂ : (b - start) / interval ≤ (c - start) / interval := Nat.div_le_div_right (by omega)
  unfold ticksBetween
  omega

end HeaderFollower
