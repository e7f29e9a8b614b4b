/-
# Numbers in JSON text

A numeral is split into its digits before the point, behind it, and its exponent; `scan?` accepts
what the grammar allows: no leading zero, at least one digit on either side of a point and in an
exponent.

An integer that fits 64 bits is kept as it is. Any other numeral gives a binary64 number in two
steps (`Numeral.real?`): a significand below `2 ^ 64` from its leading digits, scaled by a power of
ten that is itself rounded. A number beyond the largest binary64 number is refused.
-/

import HeaderFollower.Json.Basic
import HeaderFollower.Number.Binary64

namespace HeaderFollower
namespace Json

/-- The byte is an ASCII digit. -/
def isDigit (b : UInt8) : Bool := 48 ≤ b && b ≤ 57

/-- The value of a digit. -/
def digitValue (b : UInt8) : Nat := b.toNat - 48

/-- A numeral's parts, digits as bytes. -/
structure Numeral where
  negative : Bool
  whole : List UInt8
  /-- Digits behind the point, if there is one. -/
  fraction : Option (List UInt8)
  /-- Sign and digits of the exponent, if there is one. -/
  exponent : Option (Bool × List UInt8)
  deriving DecidableEq, Repr

/-- The digits at the front and what follows them, if there is at least one. -/
def digits? (s : List UInt8) : Option (List UInt8 × List UInt8) :=
  match s.takeWhile isDigit with
  | [] => none
  | ds => some (ds, s.dropWhile isDigit)

theorem length_of_digits? {s ds r : List UInt8} (h : digits? s = some (ds, r)) :
    r.length < s.length := by
  unfold digits? at h
  split at h
  · simp at h
  · rename_i hne
    simp only [Option.some.injEq, Prod.mk.injEq] at h
    obtain ⟨h1, rfl⟩ := h
    have hlen := congrArg List.length (List.takeWhile_append_dropWhile (p := isDigit) (l := s))
    rw [List.length_append] at hlen
    have : 0 < (s.takeWhile isDigit).length := by
      cases hs : s.takeWhile isDigit with
      | nil => exact absurd hs hne
      | cons => simp
    omega

/-- The point and the digits behind it. -/
def fraction? (s : List UInt8) : Option (Option (List UInt8) × List UInt8) :=
  match s with
  | 0x2e :: r =>
    match digits? r with
    | some (ds, r') => some (some ds, r')
    | none => none
  | _ => some (none, s)

/-- Whether a minus stands in front, and what follows it. -/
def takeMinus (s : List UInt8) : Bool × List UInt8 :=
  match s with
  | 0x2d :: r => (true, r)
  | _ => (false, s)

/-- Whether a minus stands in front, and what follows it or a plus. -/
def takeSign (s : List UInt8) : Bool × List UInt8 :=
  match s with
  | 0x2b :: r => (false, r)
  | _ => takeMinus s

theorem length_takeMinus (s : List UInt8) : (takeMinus s).2.length ≤ s.length := by
  unfold takeMinus
  split <;> simp

theorem length_takeSign (s : List UInt8) : (takeSign s).2.length ≤ s.length := by
  unfold takeSign
  split
  · simp
  · exact length_takeMinus s

/-- The exponent mark, a sign and the digits. -/
def exponent? (s : List UInt8) : Option (Option (Bool × List UInt8) × List UInt8) :=
  match s with
  | b :: r =>
    if b = 0x65 ∨ b = 0x45 then
      match digits? (takeSign r).2 with
      | some (ds, rest) => some (some ((takeSign r).1, ds), rest)
      | none => none
    else some (none, s)
  | [] => some (none, s)

/-- The digits before the point: a single zero, or digits that start with none. -/
def whole? (s : List UInt8) : Option (List UInt8 × List UInt8) :=
  match digits? s with
  | some (48 :: _ :: _, _) => none
  | other => other

/-- The numeral at the front of a text, and what follows it. -/
def scan? (s : List UInt8) : Option (Numeral × List UInt8) :=
  match whole? (takeMinus s).2 with
  | none => none
  | some (whole, s2) =>
    match fraction? s2 with
    | none => none
    | some (fraction, s3) =>
      match exponent? s3 with
      | none => none
      | some (exponent, rest) => some (⟨(takeMinus s).1, whole, fraction, exponent⟩, rest)

/-- Takes digits into a significand while it stays below `2 ^ 64`; answers it with the number of
digits taken and left. -/
def takeDigits (significand taken : Nat) : List UInt8 → Nat × Nat × Nat
  | [] => (significand, taken, 0)
  | d :: ds =>
    let next := significand * 10 + digitValue d
    if next < 0x10000000000000000 then takeDigits next (taken + 1) ds
    else (significand, taken, (d :: ds).length)

/-- `significand * 10 ^ exponent` for a power of ten that a binary64 number holds, or repeatedly
less; `none` past the largest number. -/
def scale? (magnitude : UInt64) (exponent : Int) : Option UInt64 :=
  if 0 ≤ exponent then
    if exponent ≤ 308 then
      let x := Binary64.times magnitude (Binary64.tenTo exponent.toNat)
      if x = Binary64.infinity then none else some x
    else if magnitude = 0 then some 0 else none
  else if -308 ≤ exponent then
    some (Binary64.dividedBy magnitude (Binary64.tenTo (-exponent).toNat))
  else if magnitude = 0 then some 0
  else scale? (Binary64.dividedBy magnitude (Binary64.tenTo 308)) (exponent + 308)
termination_by (-exponent).toNat
decreasing_by omega

/-- The largest exponent that is looked at digit by digit. -/
def exponentLimit : Nat := 0x7fffffff

/-- The magnitude of a numeral as a binary64 number. -/
def Numeral.real? (n : Numeral) : Option UInt64 :=
  let (whole, _, dropped) := takeDigits 0 0 n.whole
  let (significand, behind, _) := takeDigits whole 0 (n.fraction.getD [])
  let shift : Int := (dropped : Int) - (behind : Int)
  let base := Binary64.ofNat significand
  match n.exponent with
  | none => scale? base shift
  | some (negative, ds) =>
    let e := ds.foldl (fun e d => if e ≤ exponentLimit then e * 10 + digitValue d else e) 0
    if e ≤ exponentLimit then scale? base (if negative then shift - e else shift + e)
    else if significand ≠ 0 ∧ !negative then none
    else some 0

/-- The value of a numeral. -/
def Numeral.value? (n : Numeral) : Option JsonNumber :=
  let real : Option JsonNumber :=
    n.real?.map fun x => .real (if n.negative then Binary64.negate x else x)
  match n.fraction, n.exponent, takeDigits 0 0 n.whole with
  | none, none, (significand, _, 0) =>
    if !n.negative then some (.natural (UInt64.ofNat significand))
    else if 0 < significand ∧ significand ≤ 0x8000000000000000 then
      some (.negative (UInt64.ofNat significand))
    else real
  | _, _, _ => real

theorem length_of_whole? {s ds r : List UInt8} (h : whole? s = some (ds, r)) :
    r.length < s.length := by
  unfold whole? at h
  split at h
  · simp at h
  · exact length_of_digits? h

theorem length_of_fraction? {s r : List UInt8} {o : Option (List UInt8)}
    (h : fraction? s = some (o, r)) : r.length ≤ s.length := by
  unfold fraction? at h
  split at h
  · split at h
    · rename_i hd
      simp only [Option.some.injEq, Prod.mk.injEq] at h
      obtain ⟨-, rfl⟩ := h
      have := length_of_digits? hd
      simp only [List.length_cons]
      omega
    · simp at h
  · simp only [Option.some.injEq, Prod.mk.injEq] at h
    obtain ⟨-, rfl⟩ := h
    exact Nat.le_refl _

theorem length_of_exponent? {s r : List UInt8} {o : Option (Bool × List UInt8)}
    (h : exponent? s = some (o, r)) : r.length ≤ s.length := by
  unfold exponent? at h
  split at h
  · rename_i t
    split at h
    · split at h
      · rename_i hd
        simp only [Option.some.injEq, Prod.mk.injEq] at h
        obtain ⟨-, rfl⟩ := h
        have := length_of_digits? hd
        have := length_takeSign t
        simp only [List.length_cons]
        omega
      · simp at h
    · simp only [Option.some.injEq, Prod.mk.injEq] at h
      obtain ⟨-, rfl⟩ := h
      exact Nat.le_refl _
  · simp only [Option.some.injEq, Prod.mk.injEq] at h
    obtain ⟨-, rfl⟩ := h
    exact Nat.le_refl _

theorem length_of_scan? {s r : List UInt8} {n : Numeral} (h : scan? s = some (n, r)) :
    r.length < s.length := by
  unfold scan? at h
  split at h
  · simp at h
  · rename_i hw
    split at h
    · simp at h
    · rename_i hf
      split at h
      · simp at h
      · rename_i he
        simp only [Option.some.injEq, Prod.mk.injEq] at h
        obtain ⟨-, rfl⟩ := h
        have := length_of_whole? hw
        have := length_of_fraction? hf
        have := length_of_exponent? he
        have := length_takeMinus s
        omega

end Json
end HeaderFollower
