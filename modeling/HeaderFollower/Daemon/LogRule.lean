/-
# What the log shows

A text such as `info` or `info,exsyncd=debug` holds rules with commas between them. A rule names a
limit, a part of the program, or both with an equals sign between them; the part may be narrowed
down in brackets to the lines within a named piece of work or, in braces, to lines with a certain
field, such as `exsyncd[fetch{height}]=debug`. What is no rule is passed over.

Of the rules about a line, the one that says most about it holds, and of two such rules the later
one. Where there is no rule at all, only errors are shown.

The places of the marks are counted in a text without the blanks around it, and the pieces are cut
at the same places of the text as it stands, so blanks in front shift them. A place inside of a
character is a fault.

`ruleFor?_concerns` says that a rule in force is one of the rules and is about the line.
-/

import HeaderFollower.Daemon.Log
import HeaderFollower.Text.Alphanumeric
import HeaderFollower.Text.Pattern
import HeaderFollower.Text.Slice

namespace HeaderFollower

/-- How much is shown of some lines. -/
structure LogRule where
  /-- The beginning of the names of the parts that the rule is about, or all parts. -/
  part : Option String := none
  /-- What the lines have to have. -/
  field : Option String := none
  /-- The rule is about lines within a named piece of work, or with a field of a certain value. -/
  narrow : Bool := false
  limit : LogLimit := some .trace
  deriving DecidableEq, Repr

/-- Why a text is no rule. -/
inductive LogRuleFault where
  | malformed
  /-- The text would be cut inside of a character. -/
  | uncut
  deriving DecidableEq, Repr

namespace LogRule

/-! ## Reading -/

/-- Nothing, or `e` and digits that may have a sign in front. -/
def isExponent : List Char → Bool
  | [] => true
  | 'e' :: '+' :: digits => !digits.isEmpty && digits.all Char.isDigit
  | 'e' :: '-' :: digits => !digits.isEmpty && digits.all Char.isDigit
  | 'e' :: digits => !digits.isEmpty && digits.all Char.isDigit
  | _ => false

/-- A number with a plus sign, which is no regular expression and still a value. -/
def isPlusNumber : List Char → Bool
  | '+' :: rest =>
    let rest := rest.map Char.toLower
    let whole := rest.takeWhile Char.isDigit
    match rest.dropWhile Char.isDigit with
    | '.' :: behind =>
      let part := behind.takeWhile Char.isDigit
      !(whole.isEmpty && part.isEmpty) && isExponent (behind.dropWhile Char.isDigit)
    | behind =>
      ["inf", "infinity", "nan"].contains (String.ofList rest) ||
        (!whole.isEmpty && isExponent behind)
  | _ => false

/-- A field may have this value. -/
def isValue (cs : List Char) : Bool := isPlusNumber cs || Text.isPattern cs

/-- Narrows a rule down to lines with a field: its name, or name and value with an equals sign
between them. What stands behind a second equals sign does not count. -/
def withField (rule : LogRule) (cs : List Char) : Except LogRuleFault LogRule :=
  let name := String.ofList (cs.takeWhile (· ≠ '='))
  if cs = [] then .error .malformed
  else
    match cs.dropWhile (· ≠ '=') with
    | [] => .ok { rule with field := some name }
    | _ :: value =>
      if isValue (value.takeWhile (· ≠ '=')) then
        .ok { rule with field := some name, narrow := true }
      else .error .malformed

/-- The piece of a text between two places. -/
def piece (text : List Char) (first last : Nat) : Except LogRuleFault (List Char) :=
  match Text.slice? first last text with
  | some cs => .ok cs
  | none => .error .uncut

/-- Takes the limit from the place `first` to the end; without a name it is everything. -/
def withLimit (rule : LogRule) (text : List Char) (first : Nat) : Except LogRuleFault LogRule := do
  let name ← piece text first (Text.byteLength text)
  if name = [] then return { rule with limit := some .trace }
  match LogLimit.ofText? (String.ofList name) with
  | some limit => return { rule with limit }
  | none => throw .malformed

/-- Reads what follows the closing bracket, from the place `first`. -/
def withEnd (rule : LogRule) (text : List Char) (first : Nat) :
    List Char → Except LogRuleFault LogRule
  | [] => .ok rule
  | '=' :: _ => rule.withLimit text (first + 1)
  | _ => .error .malformed

/-- Reads what follows the opening bracket, from the place `first`. -/
def withBrackets (rule : LogRule) (text : List Char) (first : Nat) (cs : List Char) :
    Except LogRuleFault LogRule := do
  let work := cs.takeWhile fun c => c ≠ ']' ∧ c ≠ '\x7b'
  let last := first + Text.byteLength work
  match cs.dropWhile fun c => c ≠ ']' ∧ c ≠ '\x7b' with
  | [] => throw .malformed
  | ']' :: rest =>
    let _ ← piece text first last
    { rule with narrow := true }.withEnd text (last + 1) rest
  | _ :: inner =>
    let work ← piece text first last
    let field := inner.takeWhile (· ≠ '\x7d')
    let behind := last + 1 + Text.byteLength field
    match inner.dropWhile (· ≠ '\x7d') with
    | [] => throw .malformed
    | _ :: rest =>
      let field ← piece text (last + 1) behind
      let rule ← { rule with narrow := work ≠ [] }.withField field
      match rest with
      | ']' :: rest => rule.withEnd text (behind + 2) rest
      | _ => throw .malformed

/-- A rule begins with one of these, or with an opening bracket. -/
def begins (c : Char) : Bool := c ∈ ['-', ':', '_'] || Text.isAlphanumeric c

/-- The rule that a text without marks stands for: a limit, or a part that is shown in full. -/
def plain (text : String) : LogRule :=
  match LogLimit.ofText? text with
  | some limit => { limit }
  | none => { part := some text }

/-- The rule that a text stands for. -/
def ofText (text : String) : Except LogRuleFault LogRule := do
  let whole := text.toList
  match (Text.trim text).toList with
  | [] => throw .malformed
  | '[' :: rest => ({} : LogRule).withBrackets whole 1 rest
  | c :: rest =>
    if !begins c then throw .malformed
    let name := (c :: rest).takeWhile fun c => c ≠ '=' ∧ c ≠ '['
    let last := Text.byteLength name
    match (c :: rest).dropWhile fun c => c ≠ '=' ∧ c ≠ '[' with
    | [] => return plain text
    | mark :: rest =>
      let rule : LogRule := { part := some (String.ofList (← piece whole 0 last)) }
      if mark = '=' then rule.withLimit whole (last + 1)
      else rule.withBrackets whole (last + 1) rest

/-- The rules in a text; none if it would be cut inside of a character. -/
def all? (text : String) : Option (List LogRule) :=
  (text.splitOn ",").foldr (fun item rules =>
    match ofText item, rules with
    | .ok rule, some rules => some (rule :: rules)
    | .error .malformed, rules => rules
    | _, _ => none) (some [])

/-! ## Use -/

/-- The rule is about the lines of a part that have these fields. Rules about a piece of work or the
value of a field are about none of them. -/
def concerns (part : String) (fields : List String) (rule : LogRule) : Bool :=
  !rule.narrow && rule.part.all (·.toList.isPrefixOf part.toList) &&
    rule.field.all (fields.contains ·)

/-- The first rule says more about the lines than the second: it has the longer name of a part, or
names as long and a field besides. -/
def outranks (a b : LogRule) : Bool :=
  let length (r : LogRule) : Nat := r.part.elim 0 (·.length + 1)
  length b < length a || (length b == length a && b.field.isNone && a.field.isSome)

/-- The rule about the lines of a part that holds. -/
def ruleFor? (part : String) (fields : List String) : List LogRule → Option LogRule
  | [] => none
  | rule :: rest =>
    match ruleFor? part fields rest with
    | none => if rule.concerns part fields then some rule else none
    | some later => if rule.concerns part fields && rule.outranks later then some rule else some later

theorem ruleFor?_concerns {part : String} {fields : List String} {rules : List LogRule}
    {rule : LogRule} (h : ruleFor? part fields rules = some rule) :
    rule ∈ rules ∧ rule.concerns part fields := by
  induction rules with
  | nil => simp [ruleFor?] at h
  | cons first rest ih =>
    unfold ruleFor? at h
    split at h
    · split at h
      · rename_i hp
        obtain rfl := Option.some.inj h
        exact ⟨by simp, hp⟩
      · simp at h
    · rename_i later hl
      split at h
      · rename_i hp
        obtain rfl := Option.some.inj h
        exact ⟨by simp, (Bool.and_eq_true_iff.1 hp).1⟩
      · obtain rfl := Option.some.inj h
        exact ⟨List.mem_cons_of_mem _ (ih hl).1, (ih hl).2⟩

end LogRule

/-- The limit of the daemon's lines under the rules in a text; none if the text would be cut inside
of a character. -/
def LogLimit.ofRules? (text : String) : Option LogLimit :=
  (LogRule.all? text).map fun
    | [] => some .error
    | rules => (LogRule.ruleFor? logPart logFields rules).bind (·.limit)

end HeaderFollower
