/-
# Records in JSON

A record has named fields in a fixed order. It is written as an object, whose other members do not
matter, or as an array of its fields in order, whose missing tail counts as absent fields.

`readRecord` takes a record from text: no field may be given twice, and the members it does not know
are passed over unread. `Json.fields?` takes it from a value, where a key occurs once anyway.
-/

import HeaderFollower.Json.Reader

namespace HeaderFollower
namespace Json

/-- The fields of a record, in order; an absent field is `none`. -/
abbrev Fields := List (Option Json)

/-- Fields by position. -/
def fieldsOfItems? (names : List String) (items : List Json) : Option Fields :=
  if items.length ≤ names.length then
    some (items.map some ++ List.replicate (names.length - items.length) none)
  else none

/-- Fields by name. -/
def fieldsOfMembers (names : List String) (members : List (String × Json)) : Fields :=
  names.map fun name => members.lookup name

/-- The fields of a value that is a record. -/
def fields? (names : List String) : Json → Option Fields
  | .object members => some (fieldsOfMembers names members)
  | .array items => fieldsOfItems? names items
  | _ => none

/-- A member that is kept if its name is known. -/
def knownMember (names : List String) (depth : Nat) (key : String) : Reader (Option Json) :=
  fun s =>
    if names.contains key then
      match value depth s with
      | some ⟨j, rest, h⟩ => some ⟨some j, rest, h⟩
      | none => none
    else
      match skip s with
      | some ⟨(), rest, h⟩ => some ⟨none, rest, h⟩
      | none => none

/-- Whether some name occurs twice. -/
def hasDuplicate : List String → Bool
  | [] => false
  | name :: rest => rest.contains name || hasDuplicate rest

/-- The fields of the record at the front of a text. -/
def recordAt (names : List String) : Reader Fields := fun s =>
  match skipSpaces s with
  | 0x5b :: _ =>
    match arrayOf (value (maxDepth - 1)) s with
    | some ⟨items, rest, h⟩ =>
      match fieldsOfItems? names items with
      | some fields => some ⟨fields, rest, h⟩
      | none => none
    | none => none
  | _ =>
    match objectOf (knownMember names (maxDepth - 1)) s with
    | some ⟨members, rest, h⟩ =>
      let known := members.filterMap fun m => m.2.map fun j => (m.1, j)
      if hasDuplicate (known.map Prod.fst) then none
      else some ⟨fieldsOfMembers names known, rest, h⟩
    | none => none

/-- The fields of the record that a text spells, with nothing but blanks around it. -/
def readRecord (names : List String) (s : List UInt8) : Option Fields :=
  match recordAt names s with
  | some ⟨fields, rest, _⟩ => if skipSpaces rest = [] then some fields else none
  | none => none

end Json
end HeaderFollower
