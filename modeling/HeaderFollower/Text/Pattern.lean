/-
# Regular expressions

Which texts are regular expressions. Groups, alternatives, repetitions, bracketed classes, escapes and
flags are understood; whatever needs more of Unicode than code points is refused: classes of letters,
digits and blanks, boundaries of words, and letters whose case does not matter. Where the flag `u` is
switched off these are ASCII notions and allowed, as long as they stand for whole characters.

Counted repetitions are refused. `isPattern_of_alphanum` says that letters and digits of ASCII stand
for themselves.
-/

import HeaderFollower.Text.Alphanumeric
import HeaderFollower.Text.Blank

namespace HeaderFollower
namespace Text
namespace Pattern

/-- How a part of an expression is read. -/
structure Mode where
  /-- The flag `i`: upper and lower case are the same. -/
  anyCase : Bool := false
  /-- The flag `u`: characters are those of Unicode. -/
  unicode : Bool := true
  /-- The flag `x`: blanks and comments are passed over. -/
  spaced : Bool := false

namespace Mode

/-- A letter can be told from others. -/
def readsLetters (m : Mode) : Bool := !(m.anyCase && m.unicode)

end Mode

/-! ## Escapes -/

/-- What a backslash and what follows stand for. -/
inductive Escape where
  | char (code : Nat)
  /-- A byte that is given by two digits. -/
  | byte (code : Nat)
  /-- A class of characters, or what is not in it. -/
  | kind (others : Bool)
  /-- A place at the beginning or the end of a text, or of a word. -/
  | place (ofWord : Bool)

/-- The value of some hexadecimal digits, and what follows them. -/
def hexadecimal? (digits : Nat) (cs : List Char) : Option (Nat × List Char) :=
  let value? (c : Char) : Option Nat :=
    if c.isDigit then some (c.toNat - 48)
    else if 'a' ≤ c ∧ c ≤ 'f' then some (c.toNat - 87)
    else if 'A' ≤ c ∧ c ≤ 'F' then some (c.toNat - 55)
    else none
  let taken := cs.take digits
  if taken.length < digits then none
  else
    (taken.mapM value?).map fun values => (values.foldl (fun n d => n * 16 + d) 0, cs.drop digits)

/-- A code point that is given by hexadecimal digits. -/
def codePoint? (digits : Nat) (cs : List Char) : Option (Escape × List Char) :=
  (hexadecimal? digits cs).bind fun (n, rest) =>
    if n.isValidChar then some (.char n, rest) else none

/-- Reads what follows a backslash. -/
def escape? : List Char → Option (Escape × List Char)
  | [] => none
  | 'x' :: rest => (hexadecimal? 2 rest).map fun (n, rest) => (.byte n, rest)
  | 'u' :: rest => codePoint? 4 rest
  | 'U' :: rest => codePoint? 8 rest
  | c :: rest =>
    if c ∈ ['d', 's', 'w'] then some (.kind false, rest)
    else if c ∈ ['D', 'S', 'W'] then some (.kind true, rest)
    else if c ∈ ['A', 'z'] then some (.place false, rest)
    else if c ∈ ['b', 'B', '<', '>'] then some (.place true, rest)
    else if c ∈ ['a', 'f', 't', 'n', 'r', 'v'] then some (.char c.toNat, rest)
    else if c.toNat < 128 && !c.isAlphanum then some (.char c.toNat, rest)
    else none

/-- An escape may stand outside brackets. -/
def Escape.standsAlone (m : Mode) : Escape → Bool
  | .char _ => m.readsLetters
  | .byte n => m.readsLetters && (m.unicode || n < 128)
  | .kind others => !m.unicode && !others
  | .place ofWord => !ofWord || !m.unicode

/-! ## Bracketed classes -/

/-- Names of classes of ASCII characters. -/
def asciiClasses : List String :=
  ["alnum", "alpha", "ascii", "blank", "cntrl", "digit", "graph", "lower", "print", "punct",
    "space", "upper", "word", "xdigit"]

/-- What follows the class whose name stands between colons and brackets. -/
def afterAsciiClass? (cs : List Char) : Option (List Char) :=
  match cs with
  | ':' :: rest =>
    let name := (if rest.head? = some '^' then rest.drop 1 else rest).takeWhile (· ≠ ':')
    let rest := rest.dropWhile (· ≠ ':')
    if String.ofList name ∈ asciiClasses then
      match rest with
      | ':' :: ']' :: rest => some rest
      | _ => none
    else none
  | _ => none

/-- What follows an opening bracket and the signs that are characters there: hyphens, or else a
closing bracket. -/
def afterOpening? (m : Mode) (cs : List Char) : Option (List Char) :=
  let negated := cs.head? = some '^'
  if !m.readsLetters || (negated && !m.unicode) then none
  else
    let cs := if negated then cs.drop 1 else cs
    match cs with
    | ']' :: rest => some rest
    | _ => some (cs.dropWhile (· = '-'))

/-- A character in brackets or a class of them: its code point, if it is one, and what follows. -/
def member? (m : Mode) : List Char → Option (Option Nat × List Char)
  | [] => none
  | '\\' :: rest =>
    match escape? rest with
    | some (.char n, rest) => if m.unicode || n < 128 then some (some n, rest) else none
    | some (.byte n, rest) => if m.unicode || n < 128 then some (some n, rest) else none
    | some (.kind others, rest) => if !m.unicode && !others then some (none, rest) else none
    | _ => none
  | c :: rest => if m.unicode || c.toNat < 128 then some (some c.toNat, rest) else none

/-- A character, a class or a range in brackets: what follows it. -/
def afterRange? (m : Mode) (cs : List Char) : Option (List Char) :=
  match member? m cs with
  | none => none
  | some (_, []) => none
  | some (first, '-' :: rest) =>
    if rest.head? = some ']' ∨ rest.head? = some '-' then some ('-' :: rest)
    else
      match first, member? m rest with
      | some first, some (some last, rest) => if first ≤ last then some rest else none
      | _, _ => none
  | some (_, rest) => some rest

/-- What follows the bracket that closes the outermost class, in at most `fuel` steps. -/
def afterBrackets? (m : Mode) : Nat → Nat → List Char → Option (List Char)
  | 0, _, _ => none
  | _, _, [] => none
  | fuel + 1, depth, '[' :: rest =>
    match afterAsciiClass? rest with
    | some rest => afterBrackets? m fuel depth rest
    | none =>
      match afterOpening? m rest with
      | some rest => afterBrackets? m fuel (depth + 1) rest
      | none => none
  | _ + 1, 0, ']' :: rest => some rest
  | fuel + 1, depth + 1, ']' :: rest => afterBrackets? m fuel depth rest
  | fuel + 1, depth, '&' :: '&' :: rest => afterBrackets? m fuel depth rest
  | fuel + 1, depth, '-' :: '-' :: rest => afterBrackets? m fuel depth rest
  | fuel + 1, depth, '~' :: '~' :: rest => afterBrackets? m fuel depth rest
  | fuel + 1, depth, cs =>
    match afterRange? m cs with
    | some rest => afterBrackets? m fuel depth rest
    | none => none

/-! ## Groups -/

/-- The flags between a question mark and a colon or a closing bracket. -/
structure Flags where
  given : List Char := []
  /-- What follows the hyphen is switched off. -/
  off : Bool := false
  mode : Mode

namespace Flags

/-- One flag more. -/
def add? (f : Flags) (c : Char) : Option Flags :=
  if c ∈ f.given then none
  else
    let on := !f.off
    let next (mode : Mode) : Option Flags := some { f with given := c :: f.given, mode }
    match c with
    | '-' => some { f with given := c :: f.given, off := true }
    | 'i' => next { f.mode with anyCase := on }
    | 'u' => next { f.mode with unicode := on }
    | 'x' => next { f.mode with spaced := on }
    | _ => if c ∈ ['m', 's', 'U', 'R'] then next f.mode else none

/-- All flags up to a colon or a closing bracket; the last of them may not be a hyphen. -/
def read? (f : Flags) : List Char → Option (Flags × List Char)
  | [] => none
  | c :: rest =>
    if c = ':' ∨ c = ')' then
      if f.given.head? = some '-' then none else some (f, c :: rest)
    else (f.add? c).bind fun f => f.read? rest

end Flags

/-- A group may have this name. -/
def isName : List Char → Bool
  | [] => false
  | c :: rest =>
    (c == '_' || (isAlphanumeric c && !c.isDigit)) &&
      rest.all fun c => c ∈ ['_', '.', '[', ']'] || isAlphanumeric c

/-- What an opening parenthesis begins. -/
inductive Opening where
  | group (mode : Mode) (name : Option (List Char))
  /-- Flags for what follows in the same group. -/
  | flags (mode : Mode)

/-- Reads what follows an opening parenthesis. -/
def opening? (m : Mode) (names : List (List Char)) (cs : List Char) :
    Option (Opening × List Char) :=
  let named (rest : List Char) : Option (Opening × List Char) :=
    let name := rest.takeWhile (· ≠ '>')
    match rest.dropWhile (· ≠ '>') with
    | _ :: rest => if isName name && name ∉ names then some (.group m (some name), rest) else none
    | [] => none
  match cs with
  | '?' :: 'P' :: '<' :: rest => named rest
  | '?' :: '<' :: rest => named rest
  | '?' :: rest =>
    match ({ mode := m } : Flags).read? rest with
    | some (f, ':' :: rest) => some (.group f.mode none, rest)
    | some (f, _ :: rest) => if f.given = [] then none else some (.flags f.mode, rest)
    | _ => none
  | _ => some (.group m none, cs)

/-! ## Expressions -/

/-- How far an expression has been read. -/
structure Progress where
  mode : Mode := {}
  /-- The modes around the groups that are open, the innermost first. -/
  outer : List Mode := []
  names : List (List Char) := []
  /-- Something stands there that can be repeated. -/
  repeatable : Bool := false

namespace Progress

/-- Something that can be repeated has been read. -/
def item (p : Progress) : Progress := { p with repeatable := true }

/-- Reads the rest in at most `fuel` steps. -/
def accepts : Nat → Progress → List Char → Bool
  | 0, _, _ => false
  | _, p, [] => p.outer.isEmpty
  | fuel + 1, p, '\\' :: rest =>
    match escape? rest with
    | some (e, rest) => e.standsAlone p.mode && accepts fuel p.item rest
    | none => false
  | fuel + 1, p, '[' :: rest =>
    match (afterOpening? p.mode rest).bind (afterBrackets? p.mode (rest.length + 1) 0) with
    | some rest => accepts fuel p.item rest
    | none => false
  | fuel + 1, p, '(' :: rest =>
    match opening? p.mode p.names rest with
    | some (.group mode name, rest) =>
      accepts fuel ⟨mode, p.mode :: p.outer, name.toList ++ p.names, false⟩ rest
    | some (.flags mode, rest) => accepts fuel { p with mode, repeatable := false } rest
    | none => false
  | fuel + 1, p, ')' :: rest =>
    match p.outer with
    | mode :: outer => accepts fuel { p with mode, outer, repeatable := true } rest
    | [] => false
  | fuel + 1, p, c :: rest =>
    if c = '|' then accepts fuel { p with repeatable := false } rest
    else if c ∈ ['*', '+', '?'] then p.repeatable && accepts fuel p rest
    else if c = '\x7b' then false
    else if c = '.' then p.mode.unicode && accepts fuel p.item rest
    else if c ∈ ['^', '$'] then accepts fuel p.item rest
    else if p.mode.spaced && isBlank c then accepts fuel p rest
    else if p.mode.spaced && c = '#' then accepts fuel p (rest.dropWhile (· ≠ '\n'))
    else p.mode.readsLetters && accepts fuel p.item rest

theorem accepts_of_alphanum {fuel : Nat} {p : Progress} {cs : List Char} (h : cs.length < fuel)
    (outer : p.outer = []) (letters : p.mode.readsLetters) (spaced : p.mode.spaced = false)
    (all : ∀ c ∈ cs, c.isAlphanum) : accepts fuel p cs := by
  induction cs generalizing fuel p with
  | nil =>
    obtain ⟨n, rfl⟩ := Nat.exists_eq_succ_of_ne_zero (by omega : fuel ≠ 0)
    simp [accepts, outer]
  | cons c rest ih =>
    obtain ⟨n, rfl⟩ := Nat.exists_eq_succ_of_ne_zero (by omega : fuel ≠ 0)
    have hc : c.isAlphanum := all c (by simp)
    have hr : accepts n p.item rest :=
      ih (by simpa using h) outer letters spaced fun d hd => all d (by simp [hd])
    have other {d : Char} (hd : d.isAlphanum = false) : c ≠ d := by
      rintro rfl
      simp [hc] at hd
    have h1 : c ≠ '\\' := other (by decide)
    have h2 : c ≠ '[' := other (by decide)
    have h3 : c ≠ '(' := other (by decide)
    have h4 : c ≠ ')' := other (by decide)
    have h5 : c ≠ '|' := other (by decide)
    have h6 : c ∉ ['*', '+', '?'] := by
      simp only [List.mem_cons, List.not_mem_nil, or_false, not_or]
      exact ⟨other (by decide), other (by decide), other (by decide)⟩
    have h7 : c ≠ '\x7b' := other (by decide)
    have h8 : c ≠ '.' := other (by decide)
    have h9 : c ∉ ['^', '$'] := by
      simp only [List.mem_cons, List.not_mem_nil, or_false, not_or]
      exact ⟨other (by decide), other (by decide)⟩
    rw [accepts.eq_def]
    simp only [Nat.succ_eq_add_one]
    split <;> simp_all

end Progress

end Pattern

/-- The text is a regular expression. -/
def isPattern (cs : List Char) : Bool := ({} : Pattern.Progress).accepts (cs.length + 1) cs

/-- Letters and digits stand for themselves. -/
theorem isPattern_of_alphanum {cs : List Char} (h : ∀ c ∈ cs, c.isAlphanum) : isPattern cs :=
  Pattern.Progress.accepts_of_alphanum (Nat.lt_succ_self _) rfl rfl rfl h

end Text
end HeaderFollower
