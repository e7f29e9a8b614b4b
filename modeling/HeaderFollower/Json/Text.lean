/-
# Strings in JSON text

`stringBody?` reads what stands behind an opening quotation mark up to the closing one: bytes from
a space upwards, short escapes, and `\u` with four hexadecimal digits, where the two halves of a
surrogate pair have to stand together. The bytes must spell UTF-8. `skipString?` passes over the
same shapes without asking what they spell: any bytes, and halves that stand alone.

`writeString` is the other direction: only the quotation mark, the backslash and the controls are
escaped.
-/

namespace HeaderFollower
namespace Json

/-- The value of a hexadecimal digit. -/
def hexValue? (b : UInt8) : Option Nat :=
  if 48 ≤ b ∧ b ≤ 57 then some (b.toNat - 48)
  else if 97 ≤ b ∧ b ≤ 102 then some (b.toNat - 87)
  else if 65 ≤ b ∧ b ≤ 70 then some (b.toNat - 55)
  else none

/-- The code unit that four hexadecimal digits spell. -/
def codeUnit? (a b c d : UInt8) : Option Nat :=
  match hexValue? a, hexValue? b, hexValue? c, hexValue? d with
  | some a, some b, some c, some d => some (((a * 16 + b) * 16 + c) * 16 + d)
  | _, _, _, _ => none

/-- The byte that a short escape stands for. -/
def shortEscape? (b : UInt8) : Option UInt8 :=
  if b = 0x22 ∨ b = 0x5c ∨ b = 0x2f then some b
  else if b = 0x62 then some 0x08
  else if b = 0x66 then some 0x0c
  else if b = 0x6e then some 0x0a
  else if b = 0x72 then some 0x0d
  else if b = 0x74 then some 0x09
  else none

/-- The UTF-8 bytes of a code point, in front of `acc` and backwards. -/
def pushCodePoint (n : Nat) (acc : List UInt8) : List UInt8 :=
  (String.utf8EncodeChar (Char.ofNat n)).reverse ++ acc

/-- The bytes of a string behind its opening mark, and what follows the closing one. -/
def stringBytes? (acc : List UInt8) : List UInt8 → Option (List UInt8 × List UInt8)
  | [] => none
  | 0x22 :: rest => some (acc.reverse, rest)
  | 0x5c :: 0x75 :: a :: b :: c :: d :: rest =>
    match codeUnit? a b c d with
    | none => none
    | some n =>
      if n < 0xd800 ∨ 0xdfff < n then stringBytes? (pushCodePoint n acc) rest
      else if 0xdbff < n then none
      else
        match rest with
        | 0x5c :: 0x75 :: a' :: b' :: c' :: d' :: rest' =>
          match codeUnit? a' b' c' d' with
          | none => none
          | some n' =>
            if 0xdc00 ≤ n' ∧ n' ≤ 0xdfff then
              stringBytes?
                (pushCodePoint ((n - 0xd800) * 0x400 + (n' - 0xdc00) + 0x10000) acc) rest'
            else none
        | _ => none
  | 0x5c :: e :: rest =>
    match shortEscape? e with
    | some b => stringBytes? (b :: acc) rest
    | none => none
  | b :: rest => if b < 0x20 ∨ b = 0x5c then none else stringBytes? (b :: acc) rest

/-- The string behind its opening mark, and what follows the closing one. -/
def stringBody? (s : List UInt8) : Option (String × List UInt8) :=
  match stringBytes? [] s with
  | none => none
  | some (bytes, rest) =>
    match String.fromUTF8? bytes.toByteArray with
    | some text => some (text, rest)
    | none => none

/-- What follows the closing mark of a string whose content does not matter. -/
def skipString? : List UInt8 → Option (List UInt8)
  | [] => none
  | 0x22 :: rest => some rest
  | 0x5c :: 0x75 :: a :: b :: c :: d :: rest =>
    if (codeUnit? a b c d).isSome then skipString? rest else none
  | 0x5c :: e :: rest => if (shortEscape? e).isSome then skipString? rest else none
  | b :: rest => if b < 0x20 ∨ b = 0x5c then none else skipString? rest

theorem length_of_stringBytes? {acc s bytes r : List UInt8}
    (h : stringBytes? acc s = some (bytes, r)) : r.length < s.length := by
  fun_induction stringBytes? acc s <;> simp_all <;> omega

theorem length_of_stringBody? {s r : List UInt8} {text : String}
    (h : stringBody? s = some (text, r)) : r.length < s.length := by
  unfold stringBody? at h
  split at h
  · simp at h
  · rename_i hb
    split at h
    · simp only [Option.some.injEq, Prod.mk.injEq] at h
      obtain ⟨-, rfl⟩ := h
      exact length_of_stringBytes? hb
    · simp at h

theorem length_of_skipString? {s r : List UInt8} (h : skipString? s = some r) :
    r.length < s.length := by
  fun_induction skipString? s <;> simp_all <;> omega

/-- The lower-case hexadecimal digit of a value below 16. -/
def hexDigit (n : Nat) : Char :=
  if n < 10 then Char.ofNat (48 + n) else Char.ofNat (87 + n)

/-- A text with one more character, escaped where it has to be. -/
def pushEscaped (acc : String) (c : Char) : String :=
  if c = '"' then (acc.push '\\').push '"'
  else if c = '\\' then (acc.push '\\').push '\\'
  else if 0x20 ≤ c.toNat then acc.push c
  else if c = '\n' then (acc.push '\\').push 'n'
  else if c = '\r' then (acc.push '\\').push 'r'
  else if c = '\t' then (acc.push '\\').push 't'
  else if c.toNat = 8 then (acc.push '\\').push 'b'
  else if c.toNat = 12 then (acc.push '\\').push 'f'
  else ((acc ++ "\\u00").push (hexDigit (c.toNat / 16))).push (hexDigit (c.toNat % 16))

/-- A text between quotation marks, behind `acc`. -/
def pushString (acc : String) (s : String) : String :=
  (s.foldl pushEscaped (acc.push '"')).push '"'

/-- A text between quotation marks. -/
def writeString (s : String) : String := pushString "" s

end Json
end HeaderFollower
