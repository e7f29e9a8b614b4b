/-
# Bytes on their way out

Small writes are gathered in a buffer of `capacity` bytes; a frame that does not fit beside the bytes
in the buffer waits until they are gone, and a frame as large as the buffer goes past it. The
transport takes what is offered piece by piece.

`bytes_take`: what the transport has not taken is what is left, in order.
-/

namespace HeaderFollower

/-- What is still to be handed to the transport. -/
structure Outgoing where
  buffer : List UInt8 := []
  /-- The part of the current frame that is not in the buffer. -/
  beside : List UInt8 := []
  deriving DecidableEq, Repr

namespace Outgoing

/-- The size of the buffer. -/
def capacity : Nat := 8192

/-- All bytes, in the order in which they go out. -/
def bytes (o : Outgoing) : List UInt8 := o.buffer ++ o.beside

/-- Takes the current frame into the buffer if it fits. -/
def gather (o : Outgoing) : Outgoing :=
  if o.beside.length < capacity ∧ o.buffer.length + o.beside.length ≤ capacity then
    ⟨o.buffer ++ o.beside, []⟩
  else o

/-- Begins with a frame. What an abandoned frame left in the buffer goes out before it. -/
def begin (o : Outgoing) (frame : List UInt8) : Outgoing := gather ⟨o.buffer, frame⟩

/-- What the transport is offered next. -/
def offered (o : Outgoing) : List UInt8 := if o.buffer.isEmpty then o.beside else o.buffer

/-- The transport has taken `n` of the bytes offered. -/
def take (o : Outgoing) (n : Nat) : Outgoing :=
  gather (if o.buffer.isEmpty then ⟨[], o.beside.drop n⟩ else ⟨o.buffer.drop n, o.beside⟩)

/-- Forgets the rest of the current frame that is not in the buffer. -/
def abandon (o : Outgoing) : Outgoing := ⟨o.buffer, []⟩

def isEmpty (o : Outgoing) : Bool := o.buffer.isEmpty && o.beside.isEmpty

@[simp] theorem bytes_gather (o : Outgoing) : o.gather.bytes = o.bytes := by
  unfold gather
  split <;> simp [bytes]

@[simp] theorem bytes_begin (o : Outgoing) (frame : List UInt8) :
    (o.begin frame).bytes = o.buffer ++ frame := by
  rw [begin, bytes_gather, bytes]

theorem bytes_take (o : Outgoing) (n : Nat) :
    o.offered.take n ++ (o.take n).bytes = o.bytes := by
  rw [take, bytes_gather]
  cases h : o.buffer <;> simp [offered, bytes, h, ← List.append_assoc]

/-- A frame behind nothing is offered whole. -/
theorem offered_begin (frame : List UInt8) : (begin {} frame).offered = frame := by
  unfold begin gather offered
  split
  · cases frame <;> rfl
  · rfl

/-- When the transport has taken a frame whole, nothing is left. -/
theorem take_begin (frame : List UInt8) : (begin {} frame).take frame.length = {} := by
  unfold take begin gather
  split
  · cases frame <;> simp
  · simp

end Outgoing
end HeaderFollower
