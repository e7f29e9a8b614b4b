/-
# Words and pieces of byte strings

Four bytes are a little-endian word, and a byte string is cut into pieces of one size, the last of
which may be shorter.

`flatten_pieces` says that cutting loses nothing.
-/

namespace HeaderFollower
namespace Bytes

/-- The bytes of a word, least significant first. -/
def wordBytes (w : UInt32) : List UInt8 :=
  [w.toUInt8, (w >>> 8).toUInt8, (w >>> 16).toUInt8, (w >>> 24).toUInt8]

/-- The word that starts at byte `start`; a missing byte counts as zero. -/
def word (s : List UInt8) (start : Nat) : UInt32 :=
  let byte (i : Nat) : UInt32 := (s.getD (start + i) 0).toUInt32
  byte 0 ||| (byte 1 <<< 8) ||| (byte 2 <<< 16) ||| (byte 3 <<< 24)

theorem length_wordBytes (w : UInt32) : (wordBytes w).length = 4 := rfl

/-- The pieces of `size` bytes each, the last one perhaps shorter. -/
def pieces (size : Nat) (s : List UInt8) : List (List UInt8) :=
  if _h : size = 0 ∨ s = [] then []
  else s.take size :: pieces size (s.drop size)
termination_by s.length
decreasing_by
  have : 0 < s.length := List.length_pos_iff.2 (fun e => _h (Or.inr e))
  rw [List.length_drop]
  omega

theorem flatten_pieces {size : Nat} (h : 0 < size) (s : List UInt8) :
    (pieces size s).flatten = s := by
  fun_induction pieces size s with
  | case1 s hs => rcases hs with hs | hs <;> simp_all
  | case2 s hs ih => rw [List.flatten_cons, ih, List.take_append_drop]

end Bytes
end HeaderFollower
