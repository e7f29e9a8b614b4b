/-
# What the index of a store holds

`Store.Indexes` says that index and local tip of a store are those of a list of headers, which lie
one above the other from the start point on. Each operation on the index is described by what it
does to that list: a header that is put on top comes behind the list, a header that is removed is
its last one.

`Store.Indexes.verify_all_iff` says that the walk down from the tip accepts exactly linked lists.
-/

import HeaderFollower.Proofs.Header.Chained
import HeaderFollower.Store.Op

namespace HeaderFollower

open BlockHeader

/-- The height of the last of some headers, the first of which is at `start`. -/
def topHeight (start : Nat) : List BlockHeader → Option Nat
  | [] => none
  | _ :: rest => some (start + rest.length)

@[simp] theorem topHeight_nil (start : Nat) : topHeight start [] = none := rfl

@[simp] theorem topHeight_snoc (start : Nat) (hs : List BlockHeader) (h : BlockHeader) :
    topHeight start (hs ++ [h]) = some (start + hs.length) := by
  cases hs with
  | nil => rfl
  | cons x rest => simp [topHeight]

theorem topHeight_of_ne_nil {start : Nat} {hs : List BlockHeader} (h : hs ≠ []) :
    topHeight start hs = some (start + (hs.length - 1)) := by
  cases hs with
  | nil => exact absurd rfl h
  | cons x rest => rfl

theorem tipAt_of_lt {height : Nat} (h : height < heightLimit) : Store.tipAt height = some height :=
  if_neg (Nat.ne_of_lt h)

/-- The index has the headers of a list, the first at `start`, and no others. -/
def Index.Lists (ix : Index) (start : Nat) (hs : List BlockHeader) : Prop :=
  ∀ height, ix.header? height = if height < start then none else hs[height - start]?

namespace Index.Lists

variable {ix : Index} {start : Nat} {hs : List BlockHeader}

theorem empty (start : Nat) : Index.empty.Lists start [] := by
  intro height
  simp

theorem header?_add (h : ix.Lists start hs) (i : Nat) : ix.header? (start + i) = hs[i]? := by
  rw [h, if_neg (by omega), Nat.add_sub_cancel_left]

theorem insert (h : ix.Lists start hs) (x : BlockHeader) :
    (ix.insert (start + hs.length) x).Lists start (hs ++ [x]) := by
  intro height
  rw [header?_insert, h height]
  by_cases hlow : height < start
  · rw [if_neg (by omega), if_pos hlow, if_pos hlow]
  · rw [if_neg hlow, if_neg hlow, List.getElem?_append]
    split
    · next e => rw [if_neg (by omega), ← e, Nat.add_sub_cancel_left, Nat.sub_self]; rfl
    · split
      · rfl
      · rw [List.getElem?_eq_none (by omega), List.getElem?_eq_none (by simp; omega)]

theorem erase (h : ix.Lists start (hs ++ [x])) :
    ∃ jx, ix.erase? (start + hs.length) = some jx ∧ jx.Lists start hs := by
  have htop : ix.header? (start + hs.length) = some x := by
    rw [h.header?_add, List.getElem?_concat_length]
  have hne : ix.erase? (start + hs.length) ≠ none := by
    rw [ne_eq, erase?_eq_none_iff, htop]
    exact Option.some_ne_none x
  obtain ⟨jx, hjx⟩ := Option.ne_none_iff_exists'.1 hne
  refine ⟨jx, hjx, fun height => ?_⟩
  rw [header?_erase? hjx, h height]
  split
  · next e => rw [if_neg (by omega), List.getElem?_eq_none (by omega)]
  · split
    · rfl
    · rw [List.getElem?_append]
      split
      · rfl
      · rw [List.getElem?_eq_none (by simp; omega), List.getElem?_eq_none (by omega)]

end Index.Lists

/-- The index with headers put one above the other, the first at `height`. -/
def Index.stack (ix : Index) (height : Nat) : List BlockHeader → Index
  | [] => ix
  | x :: rest => (ix.insert height x).stack (height + 1) rest

/-- Headers that are put on top of others come behind them. -/
theorem Index.Lists.stack {ix : Index} {start : Nat} {hs : List BlockHeader}
    (h : ix.Lists start hs) (new : List BlockHeader) :
    (ix.stack (start + hs.length) new).Lists start (hs ++ new) := by
  induction new generalizing ix hs with
  | nil => rwa [List.append_nil]
  | cons x rest ih =>
    have hrest := ih (h.insert x)
    rwa [List.length_append, ← Nat.add_assoc, ← List.append_cons] at hrest

namespace Store

/-- The store with another index, which lists the headers `hs`. -/
abbrev listing (s : Store) (ix : Index) (hs : List BlockHeader) : Store :=
  { s with index := ix, localTip := topHeight s.startPoint hs }

/-- Index and local tip of a store are those of a list of headers. -/
structure Indexes (s : Store) (hs : List BlockHeader) : Prop where
  lists : s.index.Lists s.startPoint hs
  localTip_eq : s.localTip = topHeight s.startPoint hs

namespace Indexes

variable {s : Store} {hs : List BlockHeader}

theorem nextHeight_eq (h : s.Indexes hs) : s.nextHeight = s.startPoint + hs.length := by
  rw [nextHeight, h.localTip_eq]
  cases hs with
  | nil => rfl
  | cons x rest => rfl

theorem reset (s : Store) : s.reset.Indexes [] := ⟨.empty _, rfl⟩

/-- The index that is there lists the headers that are there. -/
theorem listing_self (h : s.Indexes hs) : s.listing s.index hs = s := by
  rw [listing, ← h.localTip_eq]

/-- A header connects if it links to the last one of the list. -/
theorem connects_iff (h : s.Indexes hs) {x : BlockHeader} :
    s.connects x = true ↔ ∀ below ∈ hs.getLast?, x.linksTo below := by
  rw [connects, h.localTip_eq]
  rcases List.eq_nil_or_concat' hs with rfl | ⟨rest, below, rfl⟩
  · simp
  · have := h.lists.header?_add rest.length
    rw [List.getElem?_concat_length] at this
    simp [this]

/-! ## Putting headers on top -/

theorem put_eq (h : s.Indexes hs) (x : BlockHeader)
    (hfit : s.startPoint + hs.length < heightLimit) :
    s.put (s.startPoint + hs.length) x =
      s.listing (s.index.insert (s.startPoint + hs.length) x) (hs ++ [x]) := by
  rw [put, tipAt_of_lt hfit, listing, topHeight_snoc]
  cases hs with
  | nil => simp [h.localTip_eq]
  | cons y rest => simp [h.localTip_eq, topHeight]

/-- Putting records in place one above the other stacks their headers. -/
theorem putAll_stack (h : s.Indexes hs) {new : List BlockHeader}
    (hfit : s.startPoint + (hs ++ new).length ≤ heightLimit) :
    s.putAll (s.startPoint + hs.length) (new.map .ok) =
      (.ok (), s.listing (s.index.stack (s.startPoint + hs.length) new) (hs ++ new)) := by
  induction new generalizing s hs with
  | nil => rw [List.append_nil, Index.stack, h.listing_self, List.map_nil, putAll]
  | cons x rest ih =>
    have hlt : s.startPoint + hs.length < heightLimit := by
      rw [List.length_append, List.length_cons] at hfit
      omega
    have hput : (s.listing (s.index.insert (s.startPoint + hs.length) x) (hs ++ [x])).Indexes
        (hs ++ [x]) := ⟨h.lists.insert x, rfl⟩
    rw [List.append_cons] at hfit ⊢
    have hrest := ih hput hfit
    rw [List.length_append, ← Nat.add_assoc] at hrest
    rw [List.map_cons, putAll, h.put_eq x hlt]
    exact hrest

theorem putAll_eq (h : s.Indexes hs) {new : List BlockHeader}
    (hfit : s.startPoint + (hs ++ new).length ≤ heightLimit) :
    ∃ ix, s.putAll (s.startPoint + hs.length) (new.map .ok) =
        (.ok (), s.listing ix (hs ++ new)) ∧
      ix.Lists s.startPoint (hs ++ new) :=
  ⟨_, h.putAll_stack hfit, h.lists.stack new⟩

/-- Loading the bytes of headers puts them on top. -/
theorem storeRange_concat (h : s.Indexes hs) {new : List BlockHeader}
    (hnew : Sized s.headerSize new) (hfit : s.startPoint + (hs ++ new).length ≤ heightLimit) :
    ∃ ix, s.storeRange (concat new) (s.startPoint + hs.length) =
        (.ok (), s.listing ix (hs ++ new)) ∧
      ix.Lists s.startPoint (hs ++ new) := by
  rw [storeRange, split_concat hnew]
  exact h.putAll_eq hfit

theorem storeOne_eq (h : s.Indexes hs) (x : BlockHeader)
    (hfit : s.startPoint + hs.length < heightLimit) :
    s.storeOne x = s.listing (s.index.insert (s.startPoint + hs.length) x) (hs ++ [x]) := by
  rw [storeOne, h.nextHeight_eq, tipAt_of_lt hfit, listing, topHeight_snoc]

/-! ## Taking headers off the top -/

theorem removeTip_eq (h : s.Indexes (hs ++ [x])) :
    ∃ ix, s.removeTip = .ok (s.listing ix hs) ∧ ix.Lists s.startPoint hs := by
  obtain ⟨ix, he, hix⟩ := h.lists.erase
  refine ⟨ix, ?_, hix⟩
  rw [removeTip, h.localTip_eq, topHeight_snoc]
  simp only [he]
  cases hs with
  | nil => simp
  | cons y rest => simp [topHeight]

theorem runAll_removeTip (h : s.Indexes hs) {n : Nat} (hn : n ≤ hs.length) :
    ∃ ix, s.runAll (List.replicate n .removeTip) =
        (.ok (), s.listing ix (hs.take (hs.length - n))) ∧
      ix.Lists s.startPoint (hs.take (hs.length - n)) := by
  induction n generalizing s hs with
  | zero => exact ⟨s.index, by simp [runAll, h.listing_self], by simpa using h.lists⟩
  | succ n ih =>
    obtain ⟨rest, x, rfl⟩ : ∃ rest x, hs = rest ++ [x] := by
      rcases List.eq_nil_or_concat' hs with rfl | h
      · simp at hn
      · exact h
    rw [List.length_append, List.length_singleton] at hn ⊢
    obtain ⟨ix, he, hix⟩ := h.removeTip_eq
    obtain ⟨jx, hj, hjx⟩ := ih (s := s.listing ix rest) ⟨hix, rfl⟩ (by omega)
    have htake : (rest ++ [x]).take (rest.length + 1 - (n + 1)) = rest.take (rest.length - n) := by
      rw [Nat.add_sub_add_right, List.take_append_of_le_length (by omega)]
    rw [htake]
    refine ⟨jx, ?_, hjx⟩
    rw [List.replicate_succ, runAll, run, he]
    exact hj

/-! ## Walking down -/

theorem verifyDown_iff (h : s.Indexes hs) {n : Nat} {child : BlockHeader}
    (hchild : hs[n]? = some child) :
    s.verifyDown child (s.startPoint + n) n = .ok () ↔ Linked (hs.take (n + 1)) := by
  induction n generalizing child with
  | zero =>
    obtain ⟨hlt, rfl⟩ := List.getElem?_eq_some_iff.1 hchild
    rw [verifyDown, List.take_succ_eq_append_getElem hlt]
    simp [Linked]
  | succ n ih =>
    obtain ⟨hlt, rfl⟩ := List.getElem?_eq_some_iff.1 hchild
    have hparent : hs[n]? = some hs[n] := List.getElem?_eq_getElem (by omega)
    have hbelow : (hs.take (n + 1)).getLast? = some hs[n] := by
      rw [List.take_succ_eq_append_getElem (by omega), List.getLast?_concat]
    have hheader : s.index.header? (s.startPoint + (n + 1) - 1) = some hs[n] := by
      rw [← Nat.add_assoc, Nat.add_sub_cancel, h.lists.header?_add, hparent]
    rw [verifyDown, hheader, List.take_succ_eq_append_getElem hlt, linked_snoc_iff, hbelow,
      ← ih hparent]
    by_cases hl : hs[n + 1].linksTo hs[n]
    · simp [hl, ← Nat.add_assoc]
    · simp [hl]

/-- **The walk from the tip down to the start point accepts exactly the linked lists.** -/
theorem verify_all_iff (h : s.Indexes hs) : s.verify 0 true = .ok () ↔ Linked hs := by
  rw [verify, h.localTip_eq]
  rcases List.eq_nil_or_concat' hs with rfl | ⟨rest, x, rfl⟩
  · simp [Linked]
  · have htop : (rest ++ [x])[rest.length]? = some x := List.getElem?_concat_length
    have hdown := h.verifyDown_iff htop
    rw [List.take_of_length_le (by simp)] at hdown
    simp only [topHeight_snoc, lowestVerified, if_true,
      h.lists.header?_add, htop]
    split
    · next hlow =>
      have : rest = [] := List.length_eq_zero_iff.1 (by omega)
      simp [this, Linked]
    · rw [show s.startPoint + rest.length + 1 - (s.startPoint + 1) = rest.length by omega]
      exact hdown

end Indexes
end Store
end HeaderFollower
