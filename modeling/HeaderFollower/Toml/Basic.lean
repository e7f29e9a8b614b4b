/-
# TOML values

A table remembers how it came about, because that decides who may still add to it: a table in braces
is complete, a table with a header of its own gets no second header, and only dotted keys add to a
table that dotted keys began.

The members stand in the order of the text, and no key occurs twice.
-/

namespace HeaderFollower

/-- How a table came about. -/
inductive TableOrigin where
  /-- It stands in braces. -/
  | braces
  /-- It has a header. -/
  | header
  /-- A header names a table inside it. -/
  | implied
  /-- A dotted key leads through it. -/
  | dotted
  deriving DecidableEq, Repr

/-- A TOML value. -/
inductive Toml where
  | boolean (b : Bool)
  /-- An integer from `-2 ^ 63` to `2 ^ 63 - 1`. -/
  | integer (n : Int)
  /-- A binary64 number by its bits. -/
  | real (bits : UInt64)
  | string (s : String)
  /-- A date, a time, or both. -/
  | moment (text : String)
  | array (items : List Toml)
  | table (origin : TableOrigin) (members : List (String × Toml))
  /-- The tables that double headers of one name began, the latest first. -/
  | elements (tables : List Toml)
  deriving Repr, Inhabited

namespace Toml

def string? : Toml → Option String
  | .string s => some s
  | _ => none

def boolean? : Toml → Option Bool
  | .boolean b => some b
  | _ => none

/-- A natural number below `bound`. -/
def natBelow? (bound : Nat) : Toml → Option Nat
  | .integer n => if 0 ≤ n ∧ n.toNat < bound then some n.toNat else none
  | _ => none

/-- A natural number of at most 64 bits. -/
def nat? (t : Toml) : Option Nat := t.natBelow? 0x10000000000000000

/-- A number as the nearest binary64 number. -/
def float? : Toml → Option Float
  | .integer n => some (if n < 0 then -n.natAbs.toFloat else n.toNat.toFloat)
  | .real bits => some (Float.ofBits bits)
  | _ => none

/-- The items of an array, in the order of the text. -/
def items? : Toml → Option (List Toml)
  | .array items => some items
  | .elements tables => some tables.reverse
  | _ => none

/-- The items of an array, each read by `read`. -/
def listOf? {α : Type} (read : Toml → Option α) (t : Toml) : Option (List α) :=
  t.items?.bind (·.mapM read)

/-- The member of a table. A record may also be an array of its first fields in the order of
`names`; a moment counts as a record without any field. -/
def field? (names : List String) (name : String) : Toml → Option (Option Toml)
  | .table _ members => some (members.lookup name)
  | .moment _ => some none
  | t => t.items?.map fun items => (names.zip items).lookup name

/-- One of some names: a string, or a table with an empty table or array under that name. -/
def choice? {α : Type} (names : List (String × α)) : Toml → Option α
  | .string s => names.lookup s
  | .table _ [(s, .table _ [])] => names.lookup s
  | .table _ [(s, .array [])] => names.lookup s
  | _ => none

end Toml
end HeaderFollower
