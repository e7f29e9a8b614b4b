/-
# Quoted text

The form in which messages show a text or a character: quotation marks around it, a backslash
before the mark itself and before a backslash, short names for the common controls, and
`\u` with the code point in braces for every other character that has no glyph.
-/

import HeaderFollower.Text.Unprintable

namespace HeaderFollower
namespace Text

/-- Lower-case hexadecimal numeral without leading zeros. -/
def hexNumeral (n : Nat) : String :=
  String.ofList (Nat.toDigits 16 n)

/-- A character as it stands between two `mark`s. -/
def escapeBetween (mark : Char) (c : Char) : String :=
  if c = '\x00' then "\\0"
  else if c = '\t' then "\\t"
  else if c = '\r' then "\\r"
  else if c = '\n' then "\\n"
  else if c = '\\' then "\\\\"
  else if c = mark then "\\" ++ mark.toString
  else if isUnprintable c then "\\u\x7b" ++ hexNumeral c.toNat ++ "\x7d"
  else c.toString

/-- A text between double quotation marks. -/
def quoted (s : String) : String :=
  "\"" ++ s.foldl (fun acc c => acc ++ escapeBetween '"' c) "" ++ "\""

/-- A character between single quotation marks. -/
def quotedChar (c : Char) : String :=
  "'" ++ escapeBetween '\'' c ++ "'"

end Text
end HeaderFollower
