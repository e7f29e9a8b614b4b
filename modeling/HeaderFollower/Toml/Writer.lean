/-
# Writing TOML text

A string has four layouts: between double or single marks, and between one or three of them. It is
written in the first of them that needs no escape, tried in this order: one double mark, one single
mark, three double marks, three single marks. If every layout needs an escape, it stands between
double marks, three of them if it has several lines. An array of two or more items has a line for
each. A number that is not an integer is written without an exponent, with a digit on either side of
the point.
-/

import HeaderFollower.Toml.Text
import HeaderFollower.Number.Shortest

namespace HeaderFollower
namespace Toml

/-- The length of the longest row of a mark. -/
def longestRow (mark : Char) (s : List Char) : Nat :=
  (s.foldl (fun (longest, row) c =>
    let row := if c = mark then row + 1 else 0
    (max longest row, row)) (0, 0)).1

/-- Four hexadecimal digits in capitals. -/
def fourDigits (n : Nat) : String :=
  let digits := (Nat.toDigits 16 n).map Char.toUpper
  String.ofList (List.replicate (4 - digits.length) '0' ++ digits)

/-- A character that is no mark between double marks, on one line or on several. -/
def escape (lines : Bool) (c : Char) : String :=
  if c = '\x08' then "\\b"
  else if c = '\t' then "\\t"
  else if c = '\n' then if lines then "\n" else "\\n"
  else if c = '\x0c' then "\\f"
  else if c = '\r' then "\\r"
  else if c = '\\' then "\\\\"
  else if isControl c then "\\u" ++ fourDigits c.toNat
  else c.toString

/-- A text between double marks that follows a row of `row` marks, of which at most `allowed` may
stand together without an escape. -/
def escapeAll (lines : Bool) (allowed : Nat) : Nat → List Char → String
  | _, [] => ""
  | row, c :: rest =>
    if c = '"' then
      if row < allowed then "\"" ++ escapeAll lines allowed (row + 1) rest
      else "\\\"" ++ escapeAll lines allowed 0 rest
    else escape lines c ++ escapeAll lines allowed 0 rest

/-- A string between marks. -/
def writeString (text : String) : String :=
  let s := text.toList
  let lines := s.contains '\n'
  let start := if lines then "\n" else ""
  let singles := longestRow '\'' s
  let doubles := longestRow '"' s
  let plain := s.all fun c => c == '\t' || c == '\n' || !isControl c
  let oneDouble := "\"" ++ escapeAll false 0 0 s ++ "\""
  let threeDoubles := "\"\"\"" ++ start ++ escapeAll true 2 0 s ++ "\"\"\""
  if plain && !s.contains '\\' && doubles == 0 && !lines then oneDouble
  else if plain && singles == 0 && !lines then "'" ++ text ++ "'"
  else if plain && !s.contains '\\' && doubles ≤ 2 then threeDoubles
  else if plain && singles ≤ 2 then "'''" ++ start ++ text ++ "'''"
  else if lines then threeDoubles
  else oneDouble

/-- A binary64 number. -/
def writeReal (bits : UInt64) : String :=
  if Binary64.isNaN bits then "nan"
  else if Binary64.isInfinite bits then if Binary64.isNegative bits then "-inf" else "inf"
  else Binary64.positionalText bits

/-- An array whose items are written already. -/
def writeItems (items : List String) : String :=
  match items with
  | [] => "[]"
  | [item] => "[" ++ item ++ "]"
  | _ => "[\n" ++ String.join (items.map fun item => "    " ++ item ++ ",\n") ++ "]"

/-- A value that is not a table. -/
def writeScalar : Toml → String
  | .boolean b => if b then "true" else "false"
  | .integer n => toString n
  | .real bits => writeReal bits
  | .string s => writeString s
  | .moment text => text
  | _ => ""

/-- A value inside a table with a header. -/
def writeValue : Toml → String
  | .array items => writeItems (items.map writeScalar)
  | t => writeScalar t

/-- A table with its header; the names are bare keys. -/
def writeSection (name : String) (members : List (String × Toml)) : String :=
  "[" ++ name ++ "]\n" ++ String.join (members.map fun (k, v) => k ++ " = " ++ writeValue v ++ "\n")

/-- A document of tables with a blank line between them. -/
def writeDocument (sections : List (String × List (String × Toml))) : String :=
  "\n".intercalate (sections.map fun (name, members) => writeSection name members)

end Toml
end HeaderFollower
