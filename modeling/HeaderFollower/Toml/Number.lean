/-
# Numbers and moments in TOML text

A value that is neither a string nor an array nor a table is one unbroken word, and `word?` says
what it means: a truth value, an integer in one of four bases, a binary64 number, or a date, a time
or both. Single underscores may stand between digits. A decimal numeral has no leading zeros.

A decimal numeral means the nearest binary64 number; one beyond the largest such number is refused
unless it is negative.
-/

import HeaderFollower.Toml.Text
import HeaderFollower.Number.Binary64

namespace HeaderFollower
namespace Toml

/-- At least one character that is `ok`, without the single underscores between them. -/
def digitRun? (ok : Char → Bool) : List Char → Option (List Char)
  | [] => none
  | [c] => if ok c then some [c] else none
  | c :: '_' :: rest => if ok c then (digitRun? ok rest).map (c :: ·) else none
  | c :: rest => if ok c then (digitRun? ok rest).map (c :: ·) else none

/-- The value of hexadecimal or smaller digits. -/
def numeral (base : Nat) (digits : List Char) : Nat :=
  digits.foldl (fun n c => n * base + (hexDigit? c).getD 0) 0

/-- A decimal digit run without leading zeros. -/
def wholeRun? (s : List Char) : Option (List Char) :=
  match digitRun? Char.isDigit s with
  | some ('0' :: _ :: _) => none
  | other => other

/-- Whether a minus stands in front, and what follows it or a plus. -/
def takeSign : List Char → Bool × List Char
  | '-' :: rest => (true, rest)
  | '+' :: rest => (false, rest)
  | s => (false, s)

/-- An integer that fits 64 bits with sign. -/
def inRange? (n : Int) : Option Toml :=
  if -0x8000000000000000 ≤ n ∧ n < 0x8000000000000000 then some (.integer n) else none

/-- The digits of an integer in a base other than ten. -/
def based? (base : Nat) (s : List Char) : Option Toml :=
  match digitRun? (fun c => (hexDigit? c).any (· < base)) s with
  | some digits => inRange? (numeral base digits)
  | none => none

def integer? : List Char → Option Toml
  | '0' :: 'x' :: rest => based? 16 rest
  | '0' :: 'o' :: rest => based? 8 rest
  | '0' :: 'b' :: rest => based? 2 rest
  | s =>
    match wholeRun? (takeSign s).2 with
    | some digits =>
      let n := numeral 10 digits
      inRange? (if (takeSign s).1 then -n else n)
    | none => none

/-- The binary64 number nearest to `significand * 10 ^ exponent`. -/
def nearest (significand : Nat) (exponent : Int) : UInt64 :=
  let top := exponent + (Nat.toDigits 10 significand).length
  if significand = 0 ∨ top < -400 then 0
  else if 400 < top then Binary64.infinity
  else if 0 ≤ exponent then Binary64.ofRatio (significand * Nat.pow 10 exponent.toNat) 1
  else Binary64.ofRatio significand (Nat.pow 10 (-exponent).toNat)

/-- What stands before the first character that `at` holds of, and behind it. -/
def splitAt? (stop : Char → Bool) (s : List Char) : List Char × Option (List Char) :=
  match s.dropWhile (!stop ·) with
  | [] => (s, none)
  | _ :: rest => (s.takeWhile (!stop ·), some rest)

/-- The exponent behind its mark. -/
def exponent? (s : List Char) : Option Int :=
  (digitRun? Char.isDigit (takeSign s).2).map fun digits =>
    let n : Int := numeral 10 digits
    if (takeSign s).1 then -n else n

/-- The magnitude of a numeral with a point, an exponent or both. -/
def magnitude? (s : List Char) : Option UInt64 :=
  let (mantissa, power) := splitAt? (fun c => c == 'e' || c == 'E') s
  let (whole, fraction) := splitAt? (· == '.') mantissa
  if power.isNone ∧ fraction.isNone then none
  else
    match wholeRun? whole, fraction.elim (some []) (digitRun? Char.isDigit),
      power.elim (some 0) exponent? with
    | some whole, some fraction, some power =>
      some (nearest (numeral 10 (whole ++ fraction)) (power - fraction.length))
    | _, _, _ => none

/-- The bits of a number that is not a number. -/
def notANumber : UInt64 := 0x7ff8000000000000

def real? (s : List Char) : Option Toml :=
  let (negative, body) := takeSign s
  let signed (bits : UInt64) : Toml := .real (if negative then Binary64.negate bits else bits)
  if body = "inf".toList then some (signed Binary64.infinity)
  else if body = "nan".toList then some (signed notANumber)
  else
    match magnitude? body with
    | some bits => if bits = Binary64.infinity ∧ ¬ negative then none else some (signed bits)
    | none => none

/-- The number that the first `n` characters spell, all of them digits, and what follows. -/
def fixed? (n : Nat) (s : List Char) : Option (Nat × List Char) :=
  if (s.take n).length = n ∧ (s.take n).all Char.isDigit then some (numeral 10 (s.take n), s.drop n)
  else none

def daysIn (year month : Nat) : Nat :=
  if month = 2 then
    if year % 4 = 0 ∧ (year % 100 ≠ 0 ∨ year % 400 = 0) then 29 else 28
  else if month = 4 ∨ month = 6 ∨ month = 9 ∨ month = 11 then 30
  else 31

/-- What follows a date. -/
def afterDate? (s : List Char) : Option (List Char) :=
  match fixed? 4 s with
  | some (year, '-' :: s) =>
    match fixed? 2 s with
    | some (month, '-' :: s) =>
      match fixed? 2 s with
      | some (day, rest) =>
        if 1 ≤ month ∧ month ≤ 12 ∧ 1 ≤ day ∧ day ≤ daysIn year month then some rest else none
      | none => none
    | _ => none
  | _ => none

/-- What follows hours and minutes. -/
def afterMinutes? (s : List Char) : Option (List Char) :=
  match fixed? 2 s with
  | some (hour, ':' :: s) =>
    match fixed? 2 s with
    | some (minute, rest) => if hour < 24 ∧ minute < 60 then some rest else none
    | none => none
  | _ => none

/-- What follows a time of day. -/
def afterTime? (s : List Char) : Option (List Char) :=
  match afterMinutes? s with
  | some (':' :: s) =>
    match fixed? 2 s with
    | some (second, '.' :: digit :: rest) =>
      if second ≤ 60 ∧ digit.isDigit then some (rest.dropWhile Char.isDigit) else none
    | some (second, rest) => if second ≤ 60 then some rest else none
    | none => none
  | _ => none

/-- The whole text is the offset of a zone, or nothing. -/
def isOffset : List Char → Bool
  | [] => true
  | ['z'] => true
  | ['Z'] => true
  | '+' :: rest => afterMinutes? rest == some []
  | '-' :: rest => afterMinutes? rest == some []
  | _ => false

def isDate (s : List Char) : Bool := afterDate? s == some []

def isMoment (s : List Char) : Bool :=
  match afterDate? s with
  | some [] => true
  | some (c :: rest) =>
    (c == 'T' || c == 't' || c == ' ') && (afterTime? rest).any isOffset
  | none => afterTime? s == some []

/-- What an unbroken word means. -/
def word? (s : List Char) : Option Toml :=
  if s = "true".toList then some (.boolean true)
  else if s = "false".toList then some (.boolean false)
  else if isMoment s then some (.moment (String.ofList s))
  else (integer? s).orElse fun _ => real? s

/-- The character can stand in an unbroken word. -/
def isWordChar (c : Char) : Bool :=
  c.isAlphanum || c == '+' || c == '-' || c == '_' || c == '.' || c == ':'

/-- The word at the front and what follows it. A date and a time may have one space between them. -/
def takeWord (s : List Char) : List Char × List Char :=
  let first := s.takeWhile isWordChar
  match s.dropWhile isWordChar with
  | ' ' :: c :: rest =>
    if isDate first ∧ c.isDigit then
      (first ++ ' ' :: (c :: rest).takeWhile isWordChar, (c :: rest).dropWhile isWordChar)
    else (first, ' ' :: c :: rest)
  | rest => (first, rest)

end Toml
end HeaderFollower
