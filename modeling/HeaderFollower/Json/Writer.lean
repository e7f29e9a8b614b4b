/-
# Writing JSON text

The compact form: no blanks, members in the order of the object, integers in decimal, other numbers
in the fewest digits that read back.
-/

import HeaderFollower.Json.Text
import HeaderFollower.Json.Basic
import HeaderFollower.Number.Shortest

namespace HeaderFollower

/-- A number as text. -/
def JsonNumber.write : JsonNumber → String
  | .natural n => toString n.toNat
  | .negative n => "-" ++ toString n.toNat
  | .real bits => Binary64.scientificText bits

namespace Json

mutual

/-- A value behind `acc`. -/
def push (acc : String) : Json → String
  | .null => acc ++ "null"
  | .bool true => acc ++ "true"
  | .bool false => acc ++ "false"
  | .number n => acc ++ n.write
  | .string s => pushString acc s
  | .array items => (pushItems (acc.push '[') true items).push ']'
  | .object members => (pushMembers (acc.push '\x7b') true members).push '\x7d'

/-- Items behind `acc`, with a comma in front of each but the first. -/
def pushItems (acc : String) (first : Bool) : List Json → String
  | [] => acc
  | item :: rest => pushItems (push (if first then acc else acc.push ',') item) false rest

/-- Members behind `acc`, with a comma in front of each but the first. -/
def pushMembers (acc : String) (first : Bool) : List (String × Json) → String
  | [] => acc
  | (key, item) :: rest =>
    let keyed := (pushString (if first then acc else acc.push ',') key).push ':'
    pushMembers (push keyed item) false rest

end

/-- The compact text of a value. -/
def write (j : Json) : String := push "" j

end Json
end HeaderFollower
