/-
# A scripted server

A source of headers that serves a table of headers by height, at most `cap` in a batch. Prepared
answers go out first, each once, and it can claim for a while that the session cost is too high.
Without prepared answers it is an honest server: its answers depend on the request alone.
-/

import HeaderFollower.Sync.Basic

namespace HeaderFollower

/-- What a scripted server has been asked. -/
inductive ScriptCall where
  | headers (start count : Nat)
  | header (height : Nat)
  | subscribe
  deriving DecidableEq, Repr

/-- The request with its arguments. -/
def ScriptCall.toJson : ScriptCall → Json
  | .headers start count => .array [.string "headers", .nat start, .nat count]
  | .header height => .array [.string "header", .nat height]
  | .subscribe => .array [.string "subscribe"]

/-- A scripted server. -/
structure Script where
  /-- The hexadecimal text of the header at a height; of two entries the first counts. -/
  table : List (Nat × String) := []
  /-- The greatest number of headers in a batch. -/
  cap : Option Nat := none
  /-- The greatest number that the server states. -/
  stated : Option Nat := none
  batches : List (Except ClientError HeaderBatch) := []
  singles : List (Except ClientError String) := []
  /-- How often the session cost is still reported as too high. -/
  overLimit : Nat := 0
  /-- What it has been asked, the latest first. -/
  calls : List ScriptCall := []
  pauses : Nat := 0

namespace Script

/-- The consecutive headers of the table from a height on, at most `count`. -/
def consecutive (w : Script) (start : Nat) : Nat → List String
  | 0 => []
  | count + 1 =>
    match w.table.lookup start with
    | some text => text :: w.consecutive (start + 1) count
    | none => []

/-- The batch that the table gives. -/
def batch (w : Script) (start count : Nat) : HeaderBatch :=
  let texts := w.consecutive start (match w.cap with
    | some most => min count most
    | none => count)
  ⟨texts.length, String.join texts, w.stated⟩

/-- What is said where the table has no header. -/
def outOfRange (height : Nat) : ClientError :=
  .rpc 1 ("height " ++ toString height ++ " out of range")

/-- Answers a query. -/
def answer (w : Script) : (q : Query) → q.Answer × Script
  | .overLimit => (decide (0 < w.overLimit), { w with overLimit := w.overLimit - 1 })
  | .pause => ((), { w with pauses := w.pauses + 1 })
  | .headers start count =>
    let w := { w with calls := .headers start count :: w.calls }
    match w.batches with
    | b :: rest => (b, { w with batches := rest })
    | [] => (.ok (w.batch start count), w)
  | .header height =>
    let w := { w with calls := .header height :: w.calls }
    match w.singles, w.table.lookup height with
    | r :: rest, _ => (r, { w with singles := rest })
    | [], some text => (.ok text, w)
    | [], none => (.error (outOfRange height), w)

/-- The table with headers from a height on, in place of those that were there. -/
def put (w : Script) (start : Nat) (texts : List String) : Script :=
  { w with table := (texts.zipIdx start).map (fun (text, height) => (height, text)) ++ w.table }

/-- The table without the heights from `low` up to, but not including, `high`. -/
def drop (w : Script) (low high : Nat) : Script :=
  { w with table := w.table.filter fun (height, _) => height < low ∨ high ≤ height }

end Script
end HeaderFollower
