/-
# Chains of headers

Headers of one size are kept back to back: `BlockHeader.concat` puts them behind each other, and
cutting the bytes at that size gives the headers back (`split_concat`). A list of headers is
`Chained` if all of them have the size and each names the one before it as the one below.

`exists_eq_concat` says that every byte string of a whole number of records is such a list, linked
or not, and `concat_take_of_split` reads the headers off a byte string that begins with some.
-/

import HeaderFollower.Proofs.Header.Fields
import Mathlib.Data.List.Chain

namespace HeaderFollower
namespace BlockHeader

/-- The bytes of headers, one header behind the other. -/
def concat (hs : List BlockHeader) : List UInt8 := hs.flatMap raw

/-- All headers are records of one size. -/
def Sized (size : Nat) (hs : List BlockHeader) : Prop := ∀ h ∈ hs, h.raw.length = size

/-- Each header names the one before it as the one below. -/
def Linked (hs : List BlockHeader) : Prop := hs.IsChain fun below above => above.linksTo below

/-- Headers of one size, each linked to the one before it. -/
structure Chained (size : Nat) (hs : List BlockHeader) : Prop where
  sized : Sized size hs
  linked : Linked hs

/-! ## Bytes -/

@[simp] theorem concat_nil : concat [] = [] := rfl

@[simp] theorem concat_cons (h : BlockHeader) (hs : List BlockHeader) :
    concat (h :: hs) = h.raw ++ concat hs := rfl

@[simp] theorem concat_append (xs ys : List BlockHeader) :
    concat (xs ++ ys) = concat xs ++ concat ys := List.flatMap_append

theorem concat_eq_nil_iff {hs : List BlockHeader} : concat hs = [] ↔ hs = [] := by
  cases hs with
  | nil => simp
  | cons h rest =>
    have := h.base_le
    have hne : h.raw ≠ [] := fun e => by rw [e] at this; exact absurd this (by decide)
    simp [hne]

theorem sized_cons {size : Nat} {h : BlockHeader} {hs : List BlockHeader} :
    Sized size (h :: hs) ↔ h.raw.length = size ∧ Sized size hs := List.forall_mem_cons

theorem pos_of_sized_cons {size : Nat} {h : BlockHeader} {hs : List BlockHeader}
    (hsized : Sized size (h :: hs)) : 0 < size := by
  rw [← (sized_cons.1 hsized).1]
  exact Nat.lt_of_lt_of_le (by decide) h.base_le

theorem sized_append {size : Nat} {xs ys : List BlockHeader} :
    Sized size (xs ++ ys) ↔ Sized size xs ∧ Sized size ys := List.forall_mem_append

theorem Sized.take {size : Nat} {hs : List BlockHeader} (h : Sized size hs) (n : Nat) :
    Sized size (hs.take n) := fun _ hm => h _ (List.mem_of_mem_take hm)

theorem Sized.drop {size : Nat} {hs : List BlockHeader} (h : Sized size hs) (n : Nat) :
    Sized size (hs.drop n) := fun _ hm => h _ (List.mem_of_mem_drop hm)

theorem Sized.length_concat {size : Nat} {hs : List BlockHeader} (h : Sized size hs) :
    (concat hs).length = hs.length * size := by
  induction hs with
  | nil => simp
  | cons x rest ih =>
    rw [sized_cons] at h
    rw [concat_cons, List.length_append, h.1, ih h.2, List.length_cons, Nat.succ_mul, Nat.add_comm]

/-- The first headers are the first bytes. -/
theorem Sized.take_concat {size : Nat} {hs : List BlockHeader} (h : Sized size hs) (n : Nat) :
    (concat hs).take (n * size) = concat (hs.take n) := by
  induction n generalizing hs with
  | zero => simp
  | succ n ih =>
    cases hs with
    | nil => simp
    | cons x rest =>
      rw [sized_cons] at h
      rw [concat_cons, List.take_succ_cons, concat_cons, ← ih h.2, Nat.succ_mul, Nat.add_comm,
        ← h.1, List.take_length_add_append]

theorem ofBytes_eq_ok_iff {size : Nat} {bytes : List UInt8} {h : BlockHeader} :
    ofBytes size bytes = .ok h ↔ bytes = h.raw ∧ h.raw.length = size := by
  unfold ofBytes
  constructor
  · intro e
    split at e
    · simp at e
    · split at e
      · obtain rfl := Except.ok.inj e
        exact ⟨rfl, by assumption⟩
      · simp at e
  · rintro ⟨rfl, rfl⟩
    have := h.base_le
    rw [dif_neg (by omega), dif_pos rfl]

theorem length_raw_of_ofHex {size : Nat} {text : String} {h : BlockHeader}
    (e : ofHex size text = .ok h) : h.raw.length = size := by
  rw [ofHex] at e
  split at e
  · cases e
  · exact (ofBytes_eq_ok_iff.1 e).2

theorem length_raw_of_mem_split {size : Nat} {bytes : List UInt8} {h : BlockHeader}
    (e : .ok h ∈ split size bytes) : h.raw.length = size := by
  obtain ⟨piece, -, hpiece⟩ := List.mem_map.1 e
  exact (ofBytes_eq_ok_iff.1 hpiece).2

theorem pieces_append {size : Nat} {piece : List UInt8} (hp : piece.length = size)
    (hne : piece ≠ []) (rest : List UInt8) :
    Bytes.pieces size (piece ++ rest) = piece :: Bytes.pieces size rest := by
  have hpos : 0 < piece.length := List.length_pos_iff.2 hne
  rw [Bytes.pieces, dif_neg (by rintro (h | h) <;> simp_all)]
  rw [← hp, List.take_left, List.drop_left]

/-- The bytes of `count` records are cut into as many pieces. -/
theorem length_pieces {size count : Nat} {raw : List UInt8} (hpos : 0 < size)
    (h : raw.length = count * size) : (Bytes.pieces size raw).length = count := by
  induction count generalizing raw with
  | zero =>
    obtain rfl := List.length_eq_zero_iff.1 (h.trans (Nat.zero_mul size))
    simp [Bytes.pieces]
  | succ count ih =>
    rw [Nat.succ_mul] at h
    have hne : raw ≠ [] := List.ne_nil_of_length_pos (by omega)
    rw [Bytes.pieces, dif_neg (not_or.2 ⟨Nat.ne_of_gt hpos, hne⟩), List.length_cons,
      ih (by rw [List.length_drop]; omega)]

theorem split_nil (size : Nat) : split size [] = [] := by
  rw [split, Bytes.pieces, dif_pos (.inr rfl), List.map_nil]

/-- Headers at the front are cut off one by one. -/
theorem split_concat_append {size : Nat} {hs : List BlockHeader} (h : Sized size hs)
    (rest : List UInt8) : split size (concat hs ++ rest) = hs.map .ok ++ split size rest := by
  induction hs with
  | nil => rfl
  | cons x more ih =>
    rw [sized_cons] at h
    have hne : x.raw ≠ [] := fun e => by
      have := x.base_le
      rw [e] at this
      exact absurd this (by decide)
    rw [concat_cons, List.append_assoc, split, pieces_append h.1 hne, List.map_cons, List.map_cons,
      ofBytes_eq_ok_iff.2 ⟨rfl, h.1⟩, List.cons_append, ← ih h.2]
    rfl

/-- **Cutting a concatenation gives the headers back.** -/
theorem split_concat {size : Nat} {hs : List BlockHeader} (h : Sized size hs) :
    split size (concat hs) = hs.map .ok := by
  have hcut := split_concat_append h []
  rwa [List.append_nil, split_nil, List.append_nil] at hcut

/-- Records that are headers are the bytes at the front. -/
theorem concat_take_of_split {size n : Nat} {raw : List UInt8} {hs : List BlockHeader}
    (hn : hs.length = n) (h : (split size raw).take n = hs.map .ok) :
    raw.take (n * size) = concat hs ∧ Sized size hs := by
  induction hs generalizing n raw with
  | nil => subst hn; simp [Sized]
  | cons x rest ih =>
    obtain ⟨m, rfl⟩ : ∃ m, n = m + 1 := ⟨rest.length, by simp at hn; omega⟩
    rw [split, Bytes.pieces] at h
    split at h
    · simp at h
    · simp only [List.map_cons, List.take_succ_cons, List.cons.injEq] at h
      obtain ⟨hx, hs⟩ := ofBytes_eq_ok_iff.1 h.1
      obtain ⟨hr, hrs⟩ := ih (by simpa using hn) h.2
      refine ⟨?_, sized_cons.2 ⟨hs, hrs⟩⟩
      rw [Nat.succ_mul, Nat.add_comm, List.take_add, hx, hr, concat_cons]

/-- **A whole number of records is a list of headers.** -/
theorem exists_eq_concat {size : Nat} (hsize : baseHeaderSize ≤ size) {bytes : List UInt8}
    (h : bytes.length % size = 0) : ∃ hs, Sized size hs ∧ bytes = concat hs := by
  obtain ⟨n, hn⟩ := Nat.dvd_of_mod_eq_zero h
  induction n generalizing bytes with
  | zero => exact ⟨[], by simp [Sized], List.length_eq_zero_iff.1 (by simpa using hn)⟩
  | succ n ih =>
    rw [Nat.mul_succ] at hn
    obtain ⟨hs, hsized, hrest⟩ := @ih (bytes.drop size)
      (by rw [List.length_drop, hn, Nat.add_sub_cancel, Nat.mul_mod_right])
      (by rw [List.length_drop, hn, Nat.add_sub_cancel])
    have hlen : (bytes.take size).length = size := by rw [List.length_take]; omega
    refine ⟨⟨bytes.take size, hlen.symm ▸ hsize⟩ :: hs, sized_cons.2 ⟨hlen, hsized⟩, ?_⟩
    rw [concat_cons, ← hrest, List.take_append_drop]

/-! ## Links -/

theorem chained_nil (size : Nat) : Chained size [] := ⟨by simp [Sized], .nil⟩

theorem Chained.take {size : Nat} {hs : List BlockHeader} (h : Chained size hs) (n : Nat) :
    Chained size (hs.take n) := ⟨h.sized.take n, h.linked.take n⟩

theorem linked_append_iff {xs ys : List BlockHeader} :
    Linked (xs ++ ys) ↔ Linked xs ∧ Linked ys ∧
      ∀ below ∈ xs.getLast?, ∀ above ∈ ys.head?, above.linksTo below := List.isChain_append

theorem linked_snoc_iff {hs : List BlockHeader} {h : BlockHeader} :
    Linked (hs ++ [h]) ↔ Linked hs ∧ ∀ below ∈ hs.getLast?, h.linksTo below := by
  rw [linked_append_iff]
  simp [Linked]

theorem linked_cons_iff {hs : List BlockHeader} {h : BlockHeader} :
    Linked (h :: hs) ↔ (∀ above ∈ hs.head?, above.linksTo h) ∧ Linked hs := List.isChain_cons

theorem Linked.prev_eq {hs : List BlockHeader} (h : Linked hs) {i : Nat} (hi : i + 1 < hs.length) :
    hs[i + 1].prev = hs[i].hash := by
  have hlink : hs[i + 1].linksTo hs[i] := List.isChain_iff_getElem.1 h i hi
  rw [linksTo] at hlink
  exact eq_of_beq hlink

/-! ## Headers made of fields -/

/-- A header names the hash that it is made with. -/
theorem prev_ofFields (version : Int32) (prev merkle : Hash256) (time bits nonce : UInt32) :
    (ofFields version prev merkle time bits nonce).prev = prev :=
  congrArg Fields.prev (fields_header ⟨version, prev, merkle, time, bits, nonce⟩)

theorem linksTo_ofFields (version : Int32) (below : BlockHeader) (merkle : Hash256)
    (time bits nonce : UInt32) :
    (ofFields version below.hash merkle time bits nonce).linksTo below := by
  rw [linksTo, prev_ofFields]
  exact beq_self_eq_true _

/-- A header that names some other hash than that of `below`. -/
def strayAbove (below : BlockHeader) : BlockHeader :=
  .ofFields 1 (if below.hash = .zero then ⟨List.replicate 32 1, List.length_replicate⟩ else .zero)
    .zero 0 0 0

theorem length_strayAbove (below : BlockHeader) : (strayAbove below).raw.length = 80 :=
  length_fieldBytes _ _ _ _ _ _

theorem not_linksTo_strayAbove (below : BlockHeader) :
    (strayAbove below).linksTo below = false := by
  rw [linksTo, strayAbove, prev_ofFields]
  split
  · next hzero =>
    rw [hzero]
    decide
  · next hzero => exact beq_eq_false_iff_ne.2 (Ne.symm hzero)

/-- A header over 32 zero bytes in place of a hash. -/
def lowestHeader : BlockHeader := .ofFields 1 .zero .zero 0 0 0

/-- The header at height `n` above `lowestHeader`, each made for the one below it. -/
def towerHeader : Nat → BlockHeader
  | 0 => lowestHeader
  | n + 1 => .ofFields 1 (towerHeader n).hash .zero 0 0 0

theorem length_towerHeader (n : Nat) : (towerHeader n).raw.length = 80 := by
  cases n with
  | zero => exact length_fieldBytes _ _ _ _ _ _
  | succ n => exact length_fieldBytes _ _ _ _ _ _

/-- The lowest `n` of these headers. -/
def tower (n : Nat) : List BlockHeader := (List.range n).map towerHeader

theorem length_tower (n : Nat) : (tower n).length = n := by
  rw [tower, List.length_map, List.length_range]

theorem tower_succ (n : Nat) : tower (n + 1) = tower n ++ [towerHeader n] := by
  rw [tower, List.range_succ, List.map_append]
  rfl

theorem getLast?_tower (n : Nat) : (tower (n + 1)).getLast? = some (towerHeader n) := by
  rw [tower_succ, List.getLast?_concat]

/-- A tower of any height is linked. -/
theorem chained_tower (n : Nat) : Chained 80 (tower n) := by
  induction n with
  | zero => exact chained_nil 80
  | succ n ih =>
    rw [tower_succ]
    refine ⟨sized_append.2 ⟨ih.sized, List.forall_mem_singleton.2 (length_towerHeader n)⟩, ?_⟩
    refine linked_snoc_iff.2 ⟨ih.linked, fun below hbelow => ?_⟩
    cases n with
    | zero => cases hbelow
    | succ n =>
      rw [getLast?_tower] at hbelow
      obtain rfl := Option.some.inj hbelow
      exact linksTo_ofFields _ _ _ _ _ _

/-- A lower tower is the bottom of a higher one. -/
theorem prefix_tower {m n : Nat} (h : m ≤ n) : tower m <+: tower n := by
  induction n with
  | zero =>
    obtain rfl := Nat.le_zero.1 h
    exact List.prefix_rfl
  | succ n ih =>
    rcases Nat.lt_or_ge n m with hlt | hge
    · obtain rfl : m = n + 1 := by omega
      exact List.prefix_rfl
    · rw [tower_succ]
      exact (ih hge).trans (List.prefix_append _ _)

end BlockHeader
end HeaderFollower
