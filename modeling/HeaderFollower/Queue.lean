/-
# Bounded queues

A first-in first-out queue that holds at most `capacity` items. An item that does not fit is refused
and leaves the queue as it is.
-/

namespace HeaderFollower

/-- A first-in first-out queue of limited size. -/
structure BoundedQueue (α : Type) where
  capacity : Nat
  items : List α
  length_le : items.length ≤ capacity

namespace BoundedQueue

variable {α : Type}

/-- A queue without items that has room for at least one. -/
def empty (capacity : Nat) : BoundedQueue α := ⟨max capacity 1, [], Nat.zero_le _⟩

instance : Inhabited (BoundedQueue α) := ⟨empty 1⟩

/-- The most items that a queue may be made for. -/
def largest : Nat := 0x1fffffffffffffff

/-- A queue may be made for this many items. -/
def allows (capacity : Nat) : Bool := capacity ≤ largest

/-- No item fits any more. -/
def isFull (q : BoundedQueue α) : Bool := q.capacity ≤ q.items.length

/-- The item at the end; none if the queue is full. -/
def push? (q : BoundedQueue α) (a : α) : Option (BoundedQueue α) :=
  if h : q.items.length < q.capacity then
    some ⟨q.capacity, q.items ++ [a], by simpa [Nat.succ_le_iff] using h⟩
  else none

/-- The first item and what is left. -/
def pop? (q : BoundedQueue α) : Option (α × BoundedQueue α) :=
  match q with
  | ⟨_, [], _⟩ => none
  | ⟨capacity, a :: rest, h⟩ => some (a, ⟨capacity, rest, Nat.le_of_succ_le h⟩)

theorem items_of_pop? {q r : BoundedQueue α} {a : α} (h : q.pop? = some (a, r)) :
    q.items = a :: r.items := by
  obtain ⟨capacity, items, hle⟩ := q
  cases items with
  | nil => simp [pop?] at h
  | cons b rest =>
    simp only [pop?, Option.some.injEq, Prod.mk.injEq] at h
    obtain ⟨rfl, rfl⟩ := h
    rfl

end BoundedQueue
end HeaderFollower
