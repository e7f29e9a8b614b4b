/-
# Reading a range of headers

A reader asks for `count` headers from a height on. In a store whose index has no gaps
(`Store.Dense`), the answer depends on nothing but whether the heights lie between the start point and
the tip (`Store.Spans`): if they do, `Store.range` gives the headers that stand there, and otherwise it
refuses the request. It never meets a height without a header.

Sums of heights stop at the greatest 64-bit word. That word is no height of a header, so a sum that
stops there lies above the tip, and the end of a range that is answered is no sum that stops
(`Store.Spans.add_le`).
-/

import HeaderFollower.Proofs.Store.Sound

namespace HeaderFollower
namespace Store

/-- The index has a header at each height from the start point to the tip. -/
structure Dense (s : Store) : Prop where
  tip_lt : ∀ tip ∈ s.localTip, tip < heightLimit
  exists_header : ∀ tip ∈ s.localTip, ∀ height, s.startPoint ≤ height → height ≤ tip →
    ∃ h, s.header height = .ok h

/-- The `count` heights from `start` on lie between the start point and the tip. -/
def Spans (s : Store) (start count : Nat) : Prop :=
  ∃ tip, s.localTip = some tip ∧ s.startPoint ≤ start ∧ start ≤ tip ∧
    (count = 0 ∨ start + count - 1 ≤ tip)

variable {s : Store} {start count : Nat}

/-! ## Stores without gaps -/

theorem Indexes.dense {hs : List BlockHeader} (h : s.Indexes hs)
    (hfit : s.startPoint + hs.length ≤ heightLimit) : s.Dense := by
  have htop {tip : Nat} (htip : tip ∈ s.localTip) : tip < s.startPoint + hs.length := by
    rw [h.localTip_eq, Option.mem_def] at htip
    rcases List.eq_nil_or_concat' hs with rfl | ⟨rest, x, rfl⟩
    · cases htip
    · rw [topHeight_snoc] at htip
      obtain rfl := Option.some.inj htip
      rw [List.length_append, List.length_singleton]
      omega
  refine ⟨fun tip htip => Nat.lt_of_lt_of_le (htop htip) hfit, fun tip htip height hlow hhigh => ?_⟩
  have hlt := htop htip
  have hheld : s.index.header? height = some hs[height - s.startPoint] := by
    rw [h.lists, if_neg (Nat.not_lt.2 hlow), List.getElem?_eq_getElem]
  exact ⟨_, by rw [header, hheld]⟩

/-- A sound store has no gaps, however it has come about. -/
theorem Sound.dense {origin : List UInt8} (h : s.Sound origin) (hfit : s.HeightsFit origin) :
    s.Dense := by
  obtain ⟨hs, hold⟩ := h.good
  exact hold.toIndexes.dense (h.fits hold hfit)

/-! ## Ranges -/

theorem Spans.add_le (hdense : s.Dense) (h : s.Spans start count) :
    start + count ≤ heightLimit := by
  obtain ⟨tip, htip, -, hle, hlast⟩ := h
  have hlt := hdense.tip_lt tip htip
  omega

/-- Headers that are all there are collected in their order. -/
theorem exists_collect (h : ∀ i < count, ∃ x, s.header (start + i) = .ok x) :
    ∃ hs, s.collect (List.range' start count) = .ok hs ∧ hs.length = count ∧
      ∀ i (hi : i < hs.length), s.header (start + i) = .ok hs[i] := by
  induction count generalizing start with
  | zero => exact ⟨[], rfl, rfl, fun i hi => absurd hi (Nat.not_lt_zero i)⟩
  | succ count ih =>
    obtain ⟨x, hx⟩ := h 0 (Nat.succ_pos count)
    obtain ⟨hs, hcollect, hlen, hall⟩ := @ih (start + 1) fun i hi => by
      rw [Nat.add_assoc, Nat.add_comm 1]
      exact h (i + 1) (Nat.succ_lt_succ hi)
    refine ⟨x :: hs, ?_, by rw [List.length_cons, hlen], fun i hi => ?_⟩
    · rw [Nat.add_zero] at hx
      rw [List.range'_succ, collect, hx, hcollect]
    · cases i with
      | zero => exact hx
      | succ i =>
        rw [List.getElem_cons_succ, ← hall i, Nat.add_assoc, Nat.add_comm 1]

/-- **A range is answered exactly if it lies between the start point and the tip**, whether or not the
visible tip is pinned: then with the headers that stand there, one for each height, and otherwise with
the error that says what was asked for and what there is. -/
theorem range_exact (hdense : s.Dense) (start count : Nat) :
    (s.Spans start count → start + count ≤ heightLimit ∧
      ∃ hs, s.range start count = .ok hs ∧ hs.length = count ∧
        ∀ i (hi : i < hs.length), s.header (start + i) = .ok hs[i]) ∧
    (¬ s.Spans start count →
      s.range start count = .error (.range start count s.startPoint s.localTip)) := by
  constructor
  · intro hspans
    have hend := hspans.add_le hdense
    obtain ⟨tip, htip, hlow, hhigh, hlast⟩ := hspans
    refine ⟨hend, ?_⟩
    have hinside : ¬ (start < s.startPoint ∨ tip < start) := by omega
    have hbelow : ¬ (0 < count ∧ tip < min (start + (count - 1)) heightLimit) := by omega
    simp only [range, htip, if_neg hinside, if_neg hbelow]
    exact exists_collect fun i hi => hdense.exists_header tip htip _ (by omega) (by omega)
  · intro hspans
    cases htip : s.localTip with
    | none => simp only [range, htip]
    | some tip =>
      have hlt := hdense.tip_lt tip htip
      simp only [range, htip]
      split
      · rfl
      · next hinside =>
        -- A sum that stops does so above the tip.
        rw [if_pos]
        by_contra hbelow
        exact hspans ⟨tip, htip, by omega, by omega, by omega⟩

/-- A store with three headers from height 7 on, whose visible tip is pinned above them. -/
def pinnedAbove : Store :=
  ((ofFile 7 { headerSize := 80, content := some [] }).listing
    (Index.empty.stack 7 (BlockHeader.tower 3)) (BlockHeader.tower 3)).beginRecovery 20

theorem indexes_pinnedAbove : pinnedAbove.Indexes (BlockHeader.tower 3) :=
  ⟨(Index.Lists.empty 7).stack (BlockHeader.tower 3), rfl⟩

/-- The upper two headers are read, and no third one is. -/
theorem range_exact_pinnedAbove :
    pinnedAbove.Dense ∧ pinnedAbove.tip = some 20 ∧
      (∃ hs, pinnedAbove.range 8 2 = .ok hs ∧ hs.length = 2) ∧
      pinnedAbove.range 8 3 = .error (.range 8 3 7 (some 9)) := by
  have htip : pinnedAbove.localTip = some 9 := rfl
  have hdense : pinnedAbove.Dense := indexes_pinnedAbove.dense (by decide)
  have hinside : pinnedAbove.Spans 8 2 :=
    ⟨9, htip, by decide, by decide, .inr (by decide)⟩
  have houtside : ¬ pinnedAbove.Spans 8 3 := by
    rintro ⟨tip, hlocal, -, -, hlast⟩
    obtain rfl := Option.some.inj (htip.symm.trans hlocal)
    revert hlast
    decide
  obtain ⟨-, hs, hread, hlen, -⟩ := (range_exact hdense 8 2).1 hinside
  exact ⟨hdense, rfl, ⟨hs, hread, hlen⟩, (range_exact hdense 8 3).2 houtside⟩

end Store
end HeaderFollower
