/-
# Strings in TOML text

A string stands between double marks, where a backslash escapes, or between single marks, where
nothing does; with three marks on either side it may go over several lines. Controls other than the
tab have to be escaped. A line ends with a line feed, perhaps with a carriage return in front, and
counts as a line feed alone.

Each `…Body?` reads what stands behind the opening marks up to the closing ones.
-/

import HeaderFollower.Toml.Basic

namespace HeaderFollower
namespace Toml

/-- Space or tab. -/
def isBlank (c : Char) : Bool := c == ' ' || c == '\t'

/-- The character cannot stand in a line as it is. -/
def isControl (c : Char) : Bool := c != '\t' && (c.toNat < 0x20 || c.toNat == 0x7f)

/-- The value of a hexadecimal digit. -/
def hexDigit? (c : Char) : Option Nat :=
  if c.isDigit then some (c.toNat - 48)
  else if 'a' ≤ c ∧ c ≤ 'f' then some (c.toNat - 87)
  else if 'A' ≤ c ∧ c ≤ 'F' then some (c.toNat - 55)
  else none

/-- The character whose code point some hexadecimal digits spell. -/
def codePoint? (digits : List Char) : Option Char :=
  match digits.mapM hexDigit? with
  | none => none
  | some ds =>
    let n := ds.foldl (fun n d => n * 16 + d) 0
    if n < 0xd800 ∨ 0xdfff < n ∧ n < 0x110000 then some (Char.ofNat n) else none

/-- The character that a short escape stands for. -/
def shortEscape? (c : Char) : Option Char :=
  match c with
  | 'b' => some '\x08'
  | 't' => some '\t'
  | 'n' => some '\n'
  | 'f' => some '\x0c'
  | 'r' => some '\r'
  | '"' => some '"'
  | '\\' => some '\\'
  | _ => none

/-- The character that an escape stands for, behind its backslash, and what follows. -/
def escape? : List Char → Option (Char × List Char)
  | 'u' :: a :: b :: c :: d :: rest => (codePoint? [a, b, c, d]).map (·, rest)
  | 'U' :: a :: b :: c :: d :: e :: f :: g :: h :: rest =>
    (codePoint? [a, b, c, d, e, f, g, h]).map (·, rest)
  | c :: rest => (shortEscape? c).map (·, rest)
  | [] => none

theorem length_of_escape? {s r : List Char} {c : Char} (h : escape? s = some (c, r)) :
    r.length < s.length := by
  unfold escape? at h
  split at h <;> simp only [Option.map_eq_some_iff, Prod.mk.injEq, reduceCtorEq] at h
  all_goals
    obtain ⟨_, _, _, rfl⟩ := h
    simp only [List.length_cons]
    omega

/-- What follows the end of a line. -/
def newline? : List Char → Option (List Char)
  | '\n' :: rest => some rest
  | '\r' :: '\n' :: rest => some rest
  | _ => none

theorem length_of_newline? {s r : List Char} (h : newline? s = some r) : r.length < s.length := by
  unfold newline? at h
  split at h <;> simp at h <;> subst h <;> simp only [List.length_cons] <;> omega

/-- A text without the blanks and ends of lines in front. -/
def skipBlankLines : List Char → List Char
  | '\r' :: '\n' :: rest => skipBlankLines rest
  | c :: rest => if isBlank c || c == '\n' then skipBlankLines rest else c :: rest
  | [] => []

theorem length_skipBlankLines (s : List Char) : (skipBlankLines s).length ≤ s.length := by
  fun_induction skipBlankLines s <;> simp_all <;> omega

/-- What follows a break that is not part of the string, behind its backslash: blanks, the end of
the line, and all blanks and ends of lines after it. -/
def lineBreak? (s : List Char) : Option (List Char) :=
  (newline? (s.dropWhile isBlank)).map skipBlankLines

theorem length_of_lineBreak? {s r : List Char} (h : lineBreak? s = some r) :
    r.length < s.length := by
  obtain ⟨t, ht, rfl⟩ := Option.map_eq_some_iff.1 h
  have := length_of_newline? ht
  have := length_skipBlankLines t
  have := (List.dropWhile_suffix isBlank (l := s)).length_le
  omega

/-- The content behind a double mark. -/
def basicBody? (acc : List Char) (s : List Char) : Option (String × List Char) :=
  match s with
  | [] => none
  | '"' :: rest => some (String.ofList acc.reverse, rest)
  | '\\' :: rest =>
    match h : escape? rest with
    | some (c, rest') =>
      have := length_of_escape? h
      basicBody? (c :: acc) rest'
    | none => none
  | c :: rest => if isControl c then none else basicBody? (c :: acc) rest
termination_by s.length

/-- The content behind a single mark. -/
def literalBody? (acc : List Char) : List Char → Option (String × List Char)
  | [] => none
  | '\'' :: rest => some (String.ofList acc.reverse, rest)
  | c :: rest => if isControl c then none else literalBody? (c :: acc) rest

/-- What follows three closing marks; up to two more in front of them belong to the content. -/
def closing? (mark : Char) : List Char → Option (List Char × List Char)
  | a :: b :: c :: d :: e :: rest =>
    if a = mark ∧ b = mark ∧ c = mark then
      if d = mark then if e = mark then some ([mark, mark], rest) else some ([mark], e :: rest)
      else some ([], d :: e :: rest)
    else none
  | [a, b, c, d] =>
    if a = mark ∧ b = mark ∧ c = mark then
      if d = mark then some ([mark], []) else some ([], [d])
    else none
  | [a, b, c] => if a = mark ∧ b = mark ∧ c = mark then some ([], []) else none
  | _ => none

theorem length_of_closing? {mark : Char} {s more r : List Char}
    (h : closing? mark s = some (more, r)) : r.length < s.length := by
  unfold closing? at h
  split at h <;> (repeat' split at h) <;> simp at h <;> obtain ⟨_, rfl⟩ := h <;>
    simp only [List.length_cons, List.length_nil] <;> omega

/-- The content behind three marks: double ones, where a backslash escapes, or single ones. -/
def longBody? (mark : Char) (acc : List Char) (s : List Char) : Option (String × List Char) :=
  match closing? mark s with
  | some (more, rest) => some (String.ofList (acc.reverse ++ more), rest)
  | none =>
    match hn : newline? s with
    | some rest =>
      have := length_of_newline? hn
      longBody? mark ('\n' :: acc) rest
    | none =>
      match s with
      | [] => none
      | c :: rest =>
        if c = '\\' ∧ mark = '"' then
          match hb : lineBreak? rest with
          | some rest' =>
            have := length_of_lineBreak? hb
            longBody? mark acc rest'
          | none =>
            match he : escape? rest with
            | some (e, rest') =>
              have := length_of_escape? he
              longBody? mark (e :: acc) rest'
            | none => none
        else if isControl c then none
        else longBody? mark (c :: acc) rest
termination_by s.length

theorem length_of_basicBody? {acc s r : List Char} {text : String}
    (h : basicBody? acc s = some (text, r)) : r.length < s.length := by
  fun_induction basicBody? acc s <;> simp_all <;> omega

theorem length_of_literalBody? {acc s r : List Char} {text : String}
    (h : literalBody? acc s = some (text, r)) : r.length < s.length := by
  fun_induction literalBody? acc s <;> simp_all
  omega

theorem length_of_longBody? {mark : Char} {acc s r : List Char} {text : String}
    (h : longBody? mark acc s = some (text, r)) : r.length < s.length := by
  fun_induction longBody? mark acc s with
  | case1 _ _ _ rest hc =>
    obtain ⟨_, rfl⟩ := Prod.mk.inj (Option.some.inj h)
    exact length_of_closing? hc
  | case2 _ _ rest _ hn _ ih => exact Nat.lt_trans (ih h) (length_of_newline? hn)
  | case3 => simp at h
  | case4 _ _ _ _ _ _ hb _ _ ih =>
    have := length_of_lineBreak? hb
    have := ih h
    simp only [List.length_cons]
    omega
  | case5 _ _ _ _ _ _ _ _ he _ _ ih =>
    have := length_of_escape? he
    have := ih h
    simp only [List.length_cons]
    omega
  | case6 => simp at h
  | case7 => simp at h
  | case8 _ _ _ _ _ _ _ ih => exact Nat.lt_succ_of_lt (ih h)

/-- A string between single marks or between double marks, on one line. -/
def shortString? : List Char → Option (String × List Char)
  | '"' :: rest => basicBody? [] rest
  | '\'' :: rest => literalBody? [] rest
  | _ => none

theorem length_of_shortString? {s r : List Char} {text : String}
    (h : shortString? s = some (text, r)) : r.length < s.length := by
  unfold shortString? at h
  split at h
  · have := length_of_basicBody? h
    simp only [List.length_cons]
    omega
  · have := length_of_literalBody? h
    simp only [List.length_cons]
    omega
  · simp at h

/-- A string of any of the four forms. The end of a line right behind three marks is left out. -/
def readString? (s : List Char) : Option (String × List Char) :=
  match s with
  | '"' :: '"' :: '"' :: rest => longBody? '"' [] ((newline? rest).getD rest)
  | '\'' :: '\'' :: '\'' :: rest => longBody? '\'' [] ((newline? rest).getD rest)
  | _ => shortString? s

theorem length_newline?_getD (s : List Char) : ((newline? s).getD s).length ≤ s.length := by
  cases h : newline? s with
  | none => simp
  | some r =>
    have := length_of_newline? h
    simp only [Option.getD_some]
    omega

theorem length_of_readString? {s r : List Char} {text : String} (h : readString? s = some (text, r)) :
    r.length < s.length := by
  unfold readString? at h
  split at h
  · rename_i rest
    have := length_of_longBody? h
    have := length_newline?_getD rest
    simp only [List.length_cons]
    omega
  · rename_i rest
    have := length_of_longBody? h
    have := length_newline?_getD rest
    simp only [List.length_cons]
    omega
  · exact length_of_shortString? h

end Toml
end HeaderFollower
