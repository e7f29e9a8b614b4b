/-
# JSON values

The members of an object are sorted by key and no key occurs twice, so two objects with the same
members are the same value. A number is an integer when it was written without point and exponent
and fits 64 bits, and a binary64 number otherwise.
-/

namespace HeaderFollower

/-- A number, as text or a program can give it. -/
inductive JsonNumber where
  /-- An integer from 0 to `2 ^ 64 - 1`. -/
  | natural (n : UInt64)
  /-- A negative integer down to `-2 ^ 63`, by its magnitude. -/
  | negative (n : UInt64)
  /-- A binary64 number by its bits. -/
  | real (bits : UInt64)
  deriving DecidableEq, Repr, Inhabited

/-- A JSON value. -/
inductive Json where
  | null
  | bool (b : Bool)
  | number (n : JsonNumber)
  | string (s : String)
  | array (items : List Json)
  | object (members : List (String × Json))
  deriving Repr, Inhabited

namespace Json

/-- The members with `key` set to `value`; the list stays sorted. -/
def insertMember (key : String) (value : Json) : List (String × Json) → List (String × Json)
  | [] => [(key, value)]
  | (k, v) :: rest =>
    if key < k then (key, value) :: (k, v) :: rest
    else if key = k then (key, value) :: rest
    else (k, v) :: insertMember key value rest

/-- An object from members in any order; of two members with one key the later counts. -/
def mkObject (members : List (String × Json)) : Json :=
  .object (members.foldl (fun sorted m => insertMember m.1 m.2 sorted) [])

/-- A natural number below `2 ^ 64`. -/
def nat (n : Nat) : Json := .number (.natural (UInt64.ofNat n))

/-- An integer between `-2 ^ 63` and `2 ^ 64 - 1`. -/
def int (n : Int) : Json :=
  if n < 0 then .number (.negative (UInt64.ofNat n.natAbs)) else nat n.toNat

/-- The member of an object. -/
def member? (key : String) : Json → Option Json
  | .object members => members.lookup key
  | _ => none

def string? : Json → Option String
  | .string s => some s
  | _ => none

def bool? : Json → Option Bool
  | .bool b => some b
  | _ => none

def array? : Json → Option (List Json)
  | .array items => some items
  | _ => none

/-- A natural number of at most 64 bits. -/
def nat? : Json → Option Nat
  | .number (.natural n) => some n.toNat
  | _ => none

/-- A natural number below `bound`. -/
def natBelow? (bound : Nat) (j : Json) : Option Nat :=
  match j.nat? with
  | some n => if n < bound then some n else none
  | none => none

/-- An integer of 64 bits with sign. -/
def int? : Json → Option Int
  | .number (.natural n) => if n.toNat < 0x8000000000000000 then some n.toNat else none
  | .number (.negative n) => some (-(n.toNat : Int))
  | _ => none

/-- A number as the nearest binary64 number. -/
def float? : Json → Option Float
  | .number (.natural n) => some n.toFloat
  | .number (.negative n) => some (-n.toFloat)
  | .number (.real bits) => some (Float.ofBits bits)
  | _ => none

def isNull : Json → Bool
  | .null => true
  | _ => false

end Json
end HeaderFollower
