/-
# Tables from the lines of a document

The lines of a document build one table. A key with dots leads into tables that dotted keys began; a
header leads into tables of any kind and begins a table of its own, or continues one that is so far
only implied by other headers. Nothing is defined twice: `put` and `ofEntries?` have no result then.
-/

import HeaderFollower.Toml.Basic

namespace HeaderFollower
namespace Toml

/-- A line of a document. -/
inductive Entry where
  | table (path : List String)
  /-- A double header: one more table in an array of tables. -/
  | element (path : List String)
  | pair (path : List String) (value : Toml)

/-- The members of a table. -/
abbrev Members := List (String × Toml)

/-- The members with `value` at `key`, where the key stood or at the end. -/
def setMember (key : String) (value : Toml) : Members → Members
  | [] => [(key, value)]
  | (k, v) :: rest => if k = key then (k, value) :: rest else (k, v) :: setMember key value rest

/-- The members with a value under a key of one or more parts. `own` holds of a table that keys
without dots may add to. -/
def put (value : Toml) : (path : List String) → (own : Bool) → Members → Option Members
  | [], _, _ => none
  | [key], own, members =>
    if own ∧ (members.lookup key).isNone then some (setMember key value members) else none
  | key :: rest, _, members =>
    let inside (origin : TableOrigin) (inner : Members) : Option Members :=
      (put value rest (origin = .dotted) inner).map fun inner =>
        setMember key (.table origin inner) members
    match members.lookup key with
    | none => inside .dotted []
    | some (.table .dotted inner) => inside .dotted inner
    | some (.table .implied inner) => inside .implied inner
    | some (.elements (.table origin inner :: earlier)) =>
      (put value rest false inner).map fun inner =>
        setMember key (.elements (.table origin inner :: earlier)) members
    | some _ => none

/-- The members with all of some pairs put in, in order. -/
def putAll (pairs : List (List String × Toml)) (members : Members) : Option Members :=
  pairs.foldlM (fun members p => put p.2 p.1 true members) members

/-- The members changed at the end of a header's path; `change` takes what is there. -/
def changeAt (change : Option Toml → Option Toml) : List String → Members → Option Members
  | [], _ => none
  | [key], members => (change (members.lookup key)).map fun v => setMember key v members
  | key :: rest, members =>
    match members.lookup key with
    | none => (changeAt change rest []).map fun inner => setMember key (.table .implied inner) members
    | some (.table .braces _) => none
    | some (.table origin inner) =>
      (changeAt change rest inner).map fun inner => setMember key (.table origin inner) members
    | some (.elements (.table origin inner :: earlier)) =>
      (changeAt change rest inner).map fun inner =>
        setMember key (.elements (.table origin inner :: earlier)) members
    | some _ => none

/-- The table that a header with these pairs below it begins or continues. -/
def beginTable (pairs : List (List String × Toml)) : Option Toml → Option Toml
  | none => (putAll pairs []).map (.table .header)
  | some (.table .implied members) => (putAll pairs members).map (.table .header)
  | some _ => none

/-- The array of tables to which a double header with these pairs below it adds one. -/
def beginElement (pairs : List (List String × Toml)) : Option Toml → Option Toml
  | none => (putAll pairs []).map fun members => .elements [.table .header members]
  | some (.elements earlier) =>
    (putAll pairs []).map fun members => .elements (.table .header members :: earlier)
  | some _ => none

/-- The pairs up to the next header, and the lines from there on. -/
def takePairs : List Entry → List (List String × Toml) × List Entry
  | .pair path v :: rest => ((path, v) :: (takePairs rest).1, (takePairs rest).2)
  | entries => ([], entries)

theorem length_takePairs (entries : List Entry) :
    (takePairs entries).2.length ≤ entries.length := by
  fun_induction takePairs entries <;> simp_all
  omega

/-- The members with everything that lines from a header on say. -/
def placeSections (entries : List Entry) (members : Members) : Option Members :=
  match entries with
  | [] => some members
  | .table path :: rest =>
    (changeAt (beginTable (takePairs rest).1) path members).bind
      (placeSections (takePairs rest).2)
  | .element path :: rest =>
    (changeAt (beginElement (takePairs rest).1) path members).bind
      (placeSections (takePairs rest).2)
  | .pair _ _ :: _ => none
termination_by entries.length
decreasing_by all_goals have := length_takePairs rest; simp only [List.length_cons]; omega

/-- The table that the lines of a document build. -/
def ofEntries? (entries : List Entry) : Option Toml :=
  ((putAll (takePairs entries).1 []).bind (placeSections (takePairs entries).2)).map
    (.table .header)

end Toml
end HeaderFollower
