/-
# Calls and their results

Whoever uses a connection makes calls and waits for what comes of them. Calls are numbered in the
order in which they are made; the pings of the keep-alive are none of them. A result is read as its
request says, and handed out once.

`mem_collect_iff` says which results are handed out, `result?_of_mem_collect` that none of them is
kept for another time.
-/

import HeaderFollower.Client.Timeline
import HeaderFollower.Protocol.Call

namespace HeaderFollower

/-- A call whose result has not been handed out. -/
structure OpenCall where
  number : Nat
  /-- Its place among all calls of the connection. -/
  index : Nat
  /-- Its caller can give it up. -/
  cancellable : Bool
  request : ServerCall Json

/-- What has come of a call. -/
def OpenCall.result? (k : OpenCall) (c : Client) : Option (Except ClientError Json) :=
  match c.stage? k.index with
  | some (.finished r) => some (r.bind k.request.decode)
  | _ => none

/-- The calls of a user. -/
structure OpenCalls where
  /-- How many have been made. -/
  made : Nat := 0
  calls : List OpenCall := []

namespace OpenCalls

/-- Makes a call. -/
def make (o : OpenCalls) (request : ServerCall Json) (cancellable : Bool) (t : Timeline) :
    OpenCalls × Timeline :=
  (⟨o.made + 1, o.calls ++ [⟨o.made, t.client.calls.length, cancellable, request⟩]⟩,
    t.act (.call request.method request.params))

/-- Gives up the call with a number, if its caller can. -/
def giveUp (o : OpenCalls) (number : Nat) (t : Timeline) : Timeline :=
  match o.calls.find? fun k => k.number == number && k.cancellable with
  | some k => t.act (.cancel k.index)
  | none => t

/-- The results that have come, each with the number of its call, and the calls still open. -/
def collect (o : OpenCalls) (c : Client) : List (Nat × Except ClientError Json) × OpenCalls :=
  (o.calls.filterMap fun k => (k.result? c).map (k.number, ·),
    { o with calls := o.calls.filter fun k => (k.result? c).isNone })

theorem mem_collect_iff {o : OpenCalls} {c : Client} {number : Nat}
    {r : Except ClientError Json} :
    (number, r) ∈ (o.collect c).1 ↔
      ∃ k ∈ o.calls, k.number = number ∧ k.result? c = some r := by
  simp only [collect, List.mem_filterMap, Option.map_eq_some_iff, Prod.mk.injEq]
  grind

theorem result?_of_mem_collect {o : OpenCalls} {c : Client} {k : OpenCall}
    (h : k ∈ (o.collect c).2.calls) : k.result? c = none := by
  simpa using (List.mem_filter.1 h).2

end OpenCalls
end HeaderFollower
