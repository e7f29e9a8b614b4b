/-
# Reading TOML text

A document is read into its lines first (`Entry`): headers of tables, double headers, and keys with
values. A reader takes characters to a value and a strictly shorter rest (`Step`), which is what lets
the loops over parts, items and lines end. `value` takes the number of arrays and braces that may
still be opened.
-/

import HeaderFollower.Toml.Table
import HeaderFollower.Toml.Number

namespace HeaderFollower
namespace Toml

/-- A value read off the front of a text of `size` characters, and the shorter rest. -/
structure Step (α : Type) (size : Nat) where
  value : α
  rest : List Char
  shorter : rest.length < size

/-- A reader of values of one kind. -/
abbrev Reader (α : Type) := (s : List Char) → Option (Step α s.length)

def skipBlanks (s : List Char) : List Char := s.dropWhile isBlank

theorem length_skipBlanks (s : List Char) : (skipBlanks s).length ≤ s.length :=
  (List.dropWhile_suffix isBlank).length_le

/-- The character can stand in a comment. -/
def isCommentChar (c : Char) : Bool := !isControl c

/-- A text without the blanks and the comment in front. -/
def skipComment (s : List Char) : List Char :=
  match skipBlanks s with
  | '#' :: rest => rest.dropWhile isCommentChar
  | rest => rest

theorem length_skipComment (s : List Char) : (skipComment s).length ≤ s.length := by
  have hs := length_skipBlanks s
  unfold skipComment
  split
  · rename_i rest hr
    rw [hr, List.length_cons] at hs
    have := (List.dropWhile_suffix isCommentChar (l := rest)).length_le
    omega
  · exact hs

/-- What follows the end of a line with nothing but blanks and a comment in front. -/
def endOfLine? (s : List Char) : Option (List Char) :=
  match skipComment s with
  | [] => some []
  | rest => newline? rest

theorem length_of_endOfLine? {s r : List Char} (h : endOfLine? s = some r) :
    r.length ≤ s.length := by
  have hs := length_skipComment s
  unfold endOfLine? at h
  split at h
  · simp only [Option.some.injEq] at h
    subst h
    simp
  · have := length_of_newline? h
    omega

/-- A text without the blanks, ends of lines and comments in front. -/
def skipSpace (s : List Char) : List Char :=
  match s with
  | [] => []
  | c :: rest =>
    if isBlank c || c == '\n' then skipSpace rest
    else if c == '#' then skipSpace (rest.dropWhile isCommentChar)
    else
      match h : newline? (c :: rest) with
      | some rest' =>
        have := length_of_newline? h
        skipSpace rest'
      | none => c :: rest
termination_by s.length
decreasing_by
  · simp
  · have := (List.dropWhile_suffix isCommentChar (l := rest)).length_le
    simp only [List.length_cons]
    omega
  · simpa using this

theorem length_skipSpace (s : List Char) : (skipSpace s).length ≤ s.length := by
  fun_induction skipSpace s with
  | case1 => simp
  | case2 c rest h ih => exact Nat.le_succ_of_le ih
  | case3 c rest _ _ ih =>
    have := (List.dropWhile_suffix isCommentChar (l := rest)).length_le
    simp only [List.length_cons]
    omega
  | case4 c rest _ _ rest' _ _ ih => omega
  | case5 => simp

/-- What follows the character `c` at the front. -/
def after? (c : Char) (s : List Char) : Option (List Char) :=
  match s with
  | d :: rest => if d = c then some rest else none
  | [] => none

theorem length_of_after? {c : Char} {s r : List Char} (h : after? c s = some r) :
    r.length < s.length := by
  unfold after? at h
  split at h
  · split at h
    · simp only [Option.some.injEq] at h
      subst h
      simp
    · simp at h
  · simp at h

/-! ## Keys -/

/-- The character can stand in a key without marks. -/
def isKeyChar (c : Char) : Bool := c.isAlphanum || c == '_' || c == '-'

/-- One part of a key. -/
def keyPart : Reader String := fun s =>
  match h : shortString? s with
  | some (text, rest) => some ⟨text, rest, length_of_shortString? h⟩
  | none =>
    match s with
    | [] => none
    | c :: rest =>
      if isKeyChar c then
        some ⟨String.ofList (c :: rest.takeWhile isKeyChar), rest.dropWhile isKeyChar, by
          have := (List.dropWhile_suffix isKeyChar (l := rest)).length_le
          simp only [List.length_cons]
          omega⟩
      else none

/-- The parts of a key with dots between them; blanks may stand around each part. `acc` holds what
was read before, backwards. -/
def keyParts (size : Nat) (acc : List String) (s : List Char) (hs : s.length ≤ size) :
    Option (Step (List String) size) :=
  match keyPart (skipBlanks s) with
  | none => none
  | some ⟨part, r, hr⟩ =>
    have hb := length_skipBlanks s
    have hb' := length_skipBlanks r
    match hd : after? '.' (skipBlanks r) with
    | some rest =>
      have := length_of_after? hd
      keyParts size (part :: acc) rest (by omega)
    | none => some ⟨(part :: acc).reverse, skipBlanks r, by omega⟩
termination_by s.length

/-- The greatest number of parts that a key has. -/
def maxKeyParts : Nat := 79

/-- A key. -/
def key : Reader (List String) := fun s =>
  match keyParts s.length [] s (Nat.le_refl _) with
  | some step => if step.value.length ≤ maxKeyParts then some step else none
  | none => none

/-! ## Values -/

/-- A key, an equals sign and a value that `read` reads. -/
def pair (read : Reader Toml) : Reader (List String × Toml) := fun s =>
  match key s with
  | none => none
  | some ⟨path, r, hr⟩ =>
    match he : after? '=' r with
    | none => none
    | some r' =>
      match read (skipBlanks r') with
      | none => none
      | some ⟨v, rest, h⟩ =>
        some ⟨(path, v), rest, by
          have := length_of_after? he
          have := length_skipBlanks r'
          omega⟩

/-- The items of an array behind its bracket or behind a comma. `acc` holds what was read before,
backwards. -/
def arrayItems (read : Reader Toml) (size : Nat) (acc : List Toml) (s : List Char)
    (hs : s.length ≤ size) : Option (Step (List Toml) size) :=
  have hk := length_skipSpace s
  match hc : after? ']' (skipSpace s) with
  | some rest => some ⟨acc.reverse, rest, by have := length_of_after? hc; omega⟩
  | none =>
    match read (skipSpace s) with
    | none => none
    | some ⟨item, r, hr⟩ =>
      have hk' := length_skipSpace r
      match hm : after? ',' (skipSpace r) with
      | some rest =>
        have := length_of_after? hm
        arrayItems read size (item :: acc) rest (by omega)
      | none =>
        match he : after? ']' (skipSpace r) with
        | some rest =>
          some ⟨(item :: acc).reverse, rest, by have := length_of_after? he; omega⟩
        | none => none
termination_by s.length

/-- The pairs of a table in braces, at least one. `acc` holds what was read before, backwards. -/
def bracedPairs (read : Reader Toml) (size : Nat) (acc : List (List String × Toml)) (s : List Char)
    (hs : s.length ≤ size) : Option (Step (List (List String × Toml)) size) :=
  match pair read s with
  | none => none
  | some ⟨p, r, hr⟩ =>
    have hk := length_skipBlanks r
    match hm : after? ',' (skipBlanks r) with
    | some rest =>
      have := length_of_after? hm
      bracedPairs read size (p :: acc) rest (by omega)
    | none =>
      match he : after? '\x7d' (skipBlanks r) with
      | some rest => some ⟨(p :: acc).reverse, rest, by have := length_of_after? he; omega⟩
      | none => none
termination_by s.length

/-- An array whose items `read` reads. -/
def arrayOf (read : Reader Toml) : Reader Toml := fun s =>
  match h : after? '[' s with
  | none => none
  | some r =>
    match arrayItems read r.length [] r (Nat.le_refl _) with
    | some ⟨items, rest, hr⟩ => some ⟨.array items, rest, Nat.lt_trans hr (length_of_after? h)⟩
    | none => none

/-- A table in braces whose values `read` reads. -/
def bracedOf (read : Reader Toml) : Reader Toml := fun s =>
  match h : after? '\x7b' s with
  | none => none
  | some r =>
    have := length_of_after? h
    have := length_skipBlanks r
    match hc : after? '\x7d' (skipBlanks r) with
    | some rest => some ⟨.table .braces [], rest, by have := length_of_after? hc; omega⟩
    | none =>
      match bracedPairs read r.length [] r (Nat.le_refl _) with
      | none => none
      | some ⟨pairs, rest, hr⟩ =>
        match putAll pairs [] with
        | some members => some ⟨.table .braces members, rest, by omega⟩
        | none => none

/-- A value that is an unbroken word. -/
def wordValue : Reader Toml := fun s =>
  match s with
  | [] => none
  | c :: rest =>
    match word? (takeWord (c :: rest)).1 with
    | none => none
    | some v =>
      if h : (takeWord (c :: rest)).2.length < (c :: rest).length then some ⟨v, _, h⟩ else none

/-- A value that opens at most `depth` arrays and braces inside each other. -/
def value (depth : Nat) : Reader Toml := fun s =>
  match h : readString? s with
  | some (text, rest) => some ⟨.string text, rest, length_of_readString? h⟩
  | none =>
    match s.head?, depth with
    | some '[', 0 => none
    | some '[', d + 1 => arrayOf (value d) s
    | some '\x7b', 0 => none
    | some '\x7b', d + 1 => bracedOf (value d) s
    | _, _ => wordValue s

/-- The deepest nesting of arrays and braces that is read. -/
def maxDepth : Nat := 79

/-! ## Documents -/

/-- The header of a table, behind its bracket. -/
def header (element : Bool) : Reader Entry := fun s =>
  match key s with
  | none => none
  | some ⟨path, r, hr⟩ =>
    match he : after? ']' r with
    | none => none
    | some rest =>
      have := length_of_after? he
      if element then
        match hf : after? ']' rest with
        | some rest' => some ⟨.element path, rest', by have := length_of_after? hf; omega⟩
        | none => none
      else some ⟨.table path, rest, by omega⟩

/-- A header, or a key with its value. -/
def entry : Reader Entry := fun s =>
  match s with
  | '[' :: '[' :: rest =>
    match header true rest with
    | some ⟨e, r, h⟩ => some ⟨e, r, by simp only [List.length_cons]; omega⟩
    | none => none
  | '[' :: rest =>
    match header false rest with
    | some ⟨e, r, h⟩ => some ⟨e, r, by simp only [List.length_cons]; omega⟩
    | none => none
  | s =>
    match pair (value maxDepth) s with
    | some ⟨(path, v), r, h⟩ => some ⟨.pair path v, r, h⟩
    | none => none

/-- The lines of a document. `acc` holds what was read before, backwards. -/
def entries (acc : List Entry) (s : List Char) : Option (List Entry) :=
  have := length_skipSpace s
  if (skipSpace s).isEmpty then some acc.reverse
  else
    match entry (skipSpace s) with
    | none => none
    | some ⟨e, r, _⟩ =>
      match hl : endOfLine? r with
      | some rest =>
        have := length_of_endOfLine? hl
        entries (e :: acc) rest
      | none => none
termination_by s.length

/-- The table that a document spells; a byte order mark in front does not matter. -/
def parse (text : String) : Option Toml :=
  let s := match text.toList with
    | '\ufeff' :: rest => rest
    | s => s
  (entries [] s).bind ofEntries?

end Toml
end HeaderFollower
