/-
# Reading JSON text

A reader takes bytes to a value and a strictly shorter rest (`Step`), which is what lets the loops
over items and members end. `value` takes the number of containers that may still be opened, so a
text nested deeper than `maxDepth` is refused. `skipValue` passes over a value without keeping it:
it follows the same grammar with a stack of its own, to any depth, and asks neither what strings
spell nor how large numbers are.

`parse` reads one value with nothing but blanks around it.
-/

import HeaderFollower.Json.Number
import HeaderFollower.Json.Text

namespace HeaderFollower
namespace Json

/-- A value read off the front of a text of `size` bytes, and the shorter rest. -/
structure Step (α : Type) (size : Nat) where
  value : α
  rest : List UInt8
  shorter : rest.length < size

/-- A reader of values of one kind. -/
abbrev Reader (α : Type) := (s : List UInt8) → Option (Step α s.length)

/-- Space, line feed, carriage return and tab. -/
def isSpace (b : UInt8) : Bool := b == 0x20 || b == 0x0a || b == 0x0d || b == 0x09

/-- A text without the blanks in front. -/
def skipSpaces (s : List UInt8) : List UInt8 := s.dropWhile isSpace

theorem length_skipSpaces (s : List UInt8) : (skipSpaces s).length ≤ s.length :=
  (List.dropWhile_suffix isSpace).length_le

/-- What follows the next byte that is no blank, if that byte is `b`. -/
def expect? (b : UInt8) (s : List UInt8) : Option (List UInt8) :=
  match skipSpaces s with
  | c :: r => if c = b then some r else none
  | [] => none

theorem length_of_expect? {b : UInt8} {s r : List UInt8} (h : expect? b s = some r) :
    r.length < s.length := by
  have hs := length_skipSpaces s
  unfold expect? at h
  split at h
  · rename_i hc
    rw [hc, List.length_cons] at hs
    split at h
    · simp only [Option.some.injEq] at h
      subst h
      omega
    · simp at h
  · simp at h

/-- What follows a fixed word. -/
def word? (w s : List UInt8) : Option (List UInt8) :=
  if w.isPrefixOf s then some (s.drop w.length) else none

/-- A string that starts at the next byte that is no blank. -/
def text : Reader String := fun s =>
  match h : expect? 0x22 s with
  | none => none
  | some body =>
    match h' : stringBody? body with
    | none => none
    | some (content, rest) =>
      some ⟨content, rest, Nat.lt_trans (length_of_stringBody? h') (length_of_expect? h)⟩

/-- What `read` reads, at least once, with commas between and `close` behind. `acc` holds what was
read before, backwards. -/
def separated {α : Type} (read : Reader α) (close : UInt8) (size : Nat) (acc : List α)
    (s : List UInt8) (hs : s.length ≤ size) : Option (Step (List α) size) :=
  match read s with
  | none => none
  | some ⟨item, r, hr⟩ =>
    match hc : expect? 0x2c r with
    | some r' =>
      have := length_of_expect? hc
      separated read close size (item :: acc) r' (by omega)
    | none =>
      match he : expect? close r with
      | some rest => some ⟨(item :: acc).reverse, rest, by have := length_of_expect? he; omega⟩
      | none => none
termination_by s.length

/-- What `read` reads any number of times, with commas between, `opening` in front and `close`
behind. -/
def enclosed {α : Type} (read : Reader α) (opening close : UInt8) : Reader (List α) := fun s =>
  match h : expect? opening s with
  | none => none
  | some r =>
    have := length_of_expect? h
    match h' : expect? close r with
    | some rest => some ⟨[], rest, by have := length_of_expect? h'; omega⟩
    | none => separated read close s.length [] r (by omega)

/-- A key, a colon and a value. -/
def member {α : Type} (read : String → Reader α) : Reader (String × α) := fun s =>
  match text s with
  | none => none
  | some ⟨key, r, hr⟩ =>
    match hc : expect? 0x3a r with
    | none => none
    | some r' =>
      match read key r' with
      | none => none
      | some ⟨v, rest, h⟩ =>
        some ⟨(key, v), rest, by have := length_of_expect? hc; omega⟩

/-- An array whose items `read` reads. -/
def arrayOf {α : Type} (read : Reader α) : Reader (List α) := enclosed read 0x5b 0x5d

/-- An object whose members `read` reads by their key, in the order of the text. -/
def objectOf {α : Type} (read : String → Reader α) : Reader (List (String × α)) :=
  enclosed (member read) 0x7b 0x7d

theorem length_of_word? {w s r : List UInt8} (h : word? w s = some r) (hw : w ≠ []) :
    r.length < s.length := by
  unfold word? at h
  split at h
  · rename_i hp
    have hle := (List.isPrefixOf_iff_prefix.1 hp).length_le
    have := List.length_pos_iff.2 hw
    simp only [Option.some.injEq] at h
    subst h
    rw [List.length_drop]
    omega
  · simp at h

/-- A fixed word that spells a value. -/
def literal (w : List UInt8) (hw : w ≠ []) (j : Json) : Reader Json := fun s =>
  match h : word? w (skipSpaces s) with
  | some rest =>
    some ⟨j, rest, Nat.lt_of_lt_of_le (length_of_word? h hw) (length_skipSpaces s)⟩
  | none => none

/-- A number. -/
def numberValue : Reader Json := fun s =>
  match h : scan? (skipSpaces s) with
  | none => none
  | some (numeral, rest) =>
    match numeral.value? with
    | none => none
    | some n =>
      some ⟨.number n, rest, Nat.lt_of_lt_of_le (length_of_scan? h) (length_skipSpaces s)⟩

/-- `null`, `true` and `false` as bytes. -/
def nullWord : List UInt8 := [0x6e, 0x75, 0x6c, 0x6c]

def trueWord : List UInt8 := [0x74, 0x72, 0x75, 0x65]

def falseWord : List UInt8 := [0x66, 0x61, 0x6c, 0x73, 0x65]

/-- A value that opens at most `depth` containers inside each other. -/
def value (depth : Nat) : Reader Json := fun s =>
  match skipSpaces s with
  | 0x22 :: _ =>
    match text s with
    | some ⟨content, rest, h⟩ => some ⟨.string content, rest, h⟩
    | none => none
  | 0x5b :: _ =>
    match depth with
    | 0 => none
    | d + 1 =>
      match arrayOf (value d) s with
      | some ⟨all, rest, h⟩ => some ⟨.array all, rest, h⟩
      | none => none
  | 0x7b :: _ =>
    match depth with
    | 0 => none
    | d + 1 =>
      match objectOf (fun _ => value d) s with
      | some ⟨all, rest, h⟩ => some ⟨mkObject all, rest, h⟩
      | none => none
  | 0x6e :: _ => literal nullWord (by decide) .null s
  | 0x74 :: _ => literal trueWord (by decide) (.bool true) s
  | 0x66 :: _ => literal falseWord (by decide) (.bool false) s
  | _ => numberValue s

/-- The deepest nesting of containers that is read. -/
def maxDepth : Nat := 127

/-- The value that a text spells, with nothing but blanks around it. -/
def parse (s : List UInt8) : Option Json :=
  match value maxDepth s with
  | some ⟨j, rest, _⟩ => if skipSpaces rest = [] then some j else none
  | none => none

/-! ## Passing over a value -/

/-- A container that is open. -/
inductive Frame where
  | array
  | object
  deriving DecidableEq, Repr

/-- What has to come next. -/
inductive Expecting where
  | value
  | key
  /-- A comma or the end of the innermost container. -/
  | delimiter
  deriving DecidableEq, Repr

/-- What follows a value that is no container, starting at `s`. -/
def skipScalar? (s : List UInt8) : Option (List UInt8) :=
  match s with
  | 0x22 :: r => skipString? r
  | 0x6e :: _ => word? nullWord s
  | 0x74 :: _ => word? trueWord s
  | 0x66 :: _ => word? falseWord s
  | _ => (scan? s).map Prod.snd

theorem length_of_skipScalar? {s r : List UInt8} (h : skipScalar? s = some r) :
    r.length < s.length := by
  unfold skipScalar? at h
  split at h
  · have := length_of_skipString? h
    simp only [List.length_cons]
    omega
  · exact length_of_word? h (by decide)
  · exact length_of_word? h (by decide)
  · exact length_of_word? h (by decide)
  · simp only [Option.map_eq_some_iff, Prod.exists] at h
    obtain ⟨n, r', hs, rfl⟩ := h
    exact length_of_scan? hs

/-- What follows a value, inside the containers of `stack`, innermost first. -/
def skipFrom (next : Expecting) (stack : List Frame) (s : List UInt8) : Option (List UInt8) :=
  match next with
  | .value =>
    match ha : expect? 0x5b s with
    | some r =>
      have := length_of_expect? ha
      match he : expect? 0x5d r with
      | some r' => have := length_of_expect? he; skipFrom .delimiter stack r'
      | none => skipFrom .value (.array :: stack) r
    | none =>
      match ho : expect? 0x7b s with
      | some r =>
        have := length_of_expect? ho
        match he : expect? 0x7d r with
        | some r' => have := length_of_expect? he; skipFrom .delimiter stack r'
        | none => skipFrom .key (.object :: stack) r
      | none =>
        match hs : skipScalar? (skipSpaces s) with
        | some r =>
          have := length_of_skipScalar? hs
          have := length_skipSpaces s
          skipFrom .delimiter stack r
        | none => none
  | .key =>
    match hq : expect? 0x22 s with
    | none => none
    | some r =>
      match hk : skipString? r with
      | none => none
      | some r' =>
        match hc : expect? 0x3a r' with
        | none => none
        | some r'' =>
          have := length_of_expect? hq
          have := length_of_skipString? hk
          have := length_of_expect? hc
          skipFrom .value stack r''
  | .delimiter =>
    match stack with
    | [] => some s
    | frame :: outer =>
      match hc : expect? 0x2c s with
      | some r =>
        have := length_of_expect? hc
        skipFrom (if frame = .array then .value else .key) (frame :: outer) r
      | none =>
        match he : expect? (if frame = .array then 0x5d else 0x7d) s with
        | some r => have := length_of_expect? he; skipFrom .delimiter outer r
        | none => none
termination_by s.length

theorem length_of_skipFrom {next : Expecting} {stack : List Frame} {s r : List UInt8}
    (h : skipFrom next stack s = some r) :
    r.length ≤ s.length ∧ (next ≠ .delimiter → r.length < s.length) := by
  fun_induction skipFrom next stack s <;> simp_all <;> omega

/-- Passes over a value. -/
def skip : Reader Unit := fun s =>
  match h : skipFrom .value [] s with
  | some rest => some ⟨(), rest, (length_of_skipFrom h).2 (by decide)⟩
  | none => none

end Json
end HeaderFollower
