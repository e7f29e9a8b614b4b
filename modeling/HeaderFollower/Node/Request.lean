/-
# Asking the server

Requests of a node's caller go to the server of the current connection. A scripthash is watched, and
subscribed again on later connections, from the first subscription that succeeds until it is
unsubscribed, whatever the server says to that.
-/

import HeaderFollower.Node.Basic
import HeaderFollower.Node.Dialogue

namespace HeaderFollower

/-- A sorted list with `s` in it once. -/
def insertSorted (s : String) : List String → List String
  | [] => [s]
  | t :: rest => if s < t then s :: t :: rest else if s = t then t :: rest else t :: insertSorted s rest

theorem mem_insertSorted {s t : String} {all : List String} :
    t ∈ insertSorted s all ↔ t = s ∨ t ∈ all := by
  induction all with
  | nil => simp [insertSorted]
  | cons u rest ih =>
    unfold insertSorted
    split
    · simp
    · split
      · rename_i h
        subst h
        simp
      · simp only [List.mem_cons, ih]
        exact or_left_comm

namespace Node

/-- Asks the server for something. -/
def request {α : Type} (n : Node) (call : ServerCall α) :
    Dialogue (Except NodeError α × Node) :=
  match n.client? with
  | none => return (.error .notConnected, n)
  | some c => do
    let (r, c) ← c.ask call
    return (r.mapError .client, { n with connection := some c })

/-- Subscribes a scripthash. -/
def subscribe (n : Node) (scripthash : String) :
    Dialogue (Except NodeError (Option String) × Node) := do
  let (r, n) ← n.request (.scripthashSubscribe scripthash)
  match r with
  | .error e => return (.error e, n)
  | .ok state => return (.ok state, { n with watched := insertSorted scripthash n.watched })

/-- Unsubscribes a scripthash. -/
def unsubscribe (n : Node) (scripthash : String) : Dialogue (Except NodeError Bool × Node) :=
  { n with watched := n.watched.filter (· ≠ scripthash) }.request (.scripthashUnsubscribe scripthash)

end Node
end HeaderFollower
