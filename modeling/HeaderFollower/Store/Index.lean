/-
# Index of the stored headers

The headers by height, and the heights by hash. An entry of the second map goes when its header is
replaced or removed, so two heights with one hash share a single entry.

Two indexes that answer every look-up alike are equal.
-/

import HeaderFollower.Header.Basic
import Std.Data.ExtHashMap

namespace HeaderFollower

/-- Headers by height and heights by hash. -/
structure Index where
  headers : Std.ExtHashMap Nat BlockHeader
  heights : Std.ExtHashMap Hash256 Nat

namespace Index

/-- No header at all. -/
def empty : Index := ⟨∅, ∅⟩

/-- The header at a height. -/
def header? (ix : Index) (height : Nat) : Option BlockHeader := ix.headers[height]?

/-- The height that is known for a hash. -/
def height? (ix : Index) (hash : Hash256) : Option Nat := ix.heights[hash]?

/-- The index with a header put at a height, in place of the one that was there. -/
def insert (ix : Index) (height : Nat) (h : BlockHeader) : Index :=
  let heights := match ix.header? height with
    | some old => ix.heights.erase old.hash
    | none => ix.heights
  ⟨ix.headers.insert height h, heights.insert h.hash height⟩

/-- The index without the header at a height; none if there is no such header. -/
def erase? (ix : Index) (height : Nat) : Option Index :=
  match ix.header? height with
  | some h => some ⟨ix.headers.erase height, ix.heights.erase h.hash⟩
  | none => none

@[simp] theorem header?_empty (height : Nat) : empty.header? height = none := by
  simp [empty, header?]

@[simp] theorem height?_empty (hash : Hash256) : empty.height? hash = none := by
  simp [empty, height?]

theorem header?_insert (ix : Index) (height k : Nat) (h : BlockHeader) :
    (ix.insert height h).header? k = if height = k then some h else ix.header? k := by
  simp [insert, header?, Std.ExtHashMap.getElem?_insert]

theorem header?_erase? {ix jx : Index} {height : Nat} (h : ix.erase? height = some jx) (k : Nat) :
    jx.header? k = if height = k then none else ix.header? k := by
  unfold erase? at h
  split at h
  · obtain rfl := Option.some.inj h
    simp [header?, Std.ExtHashMap.getElem?_erase]
  · simp at h

theorem height?_erase? {ix jx : Index} {height : Nat} {h : BlockHeader}
    (hx : ix.header? height = some h) (he : ix.erase? height = some jx) (hash : Hash256) :
    jx.height? hash = if h.hash = hash then none else ix.height? hash := by
  rw [erase?, hx] at he
  obtain rfl := Option.some.inj he
  simp [height?, Std.ExtHashMap.getElem?_erase]

theorem erase?_eq_none_iff {ix : Index} {height : Nat} :
    ix.erase? height = none ↔ ix.header? height = none := by
  unfold erase?
  split <;> simp_all

end Index
end HeaderFollower
