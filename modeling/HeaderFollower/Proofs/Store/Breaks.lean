/-
# Where the stored links break

Headers can be put at any heights, in any order and over each other, so a store may have gaps, and
headers that do not link. `Store.LinkedAt` says of one height that its link is there and right;
`Store.TopmostBreak` names the greatest height in a range where it is not.

`Store.verify_finds` says of every store, however it came to hold what it holds, that the walk down
from the tip passes if all links in its range are right, and stops at the topmost break otherwise.
-/

import HeaderFollower.Store.Basic

namespace HeaderFollower
namespace Store

variable {s : Store} {child : BlockHeader} {base n height : Nat}

/-- There are headers at a height and right below it, and the upper one names the hash of the lower
one. -/
def LinkedAt (s : Store) (height : Nat) : Prop :=
  ∃ child parent, s.index.header? height = some child ∧
    s.index.header? (height - 1) = some parent ∧ child.prev = parent.hash

/-- Of the heights from `lowest` to `highest` whose link is not right, the greatest. -/
structure TopmostBreak (s : Store) (lowest highest height : Nat) : Prop where
  lowest_le : lowest ≤ height
  le_highest : height ≤ highest
  broken : ¬ s.LinkedAt height
  linked_above : ∀ above, height < above → above ≤ highest → s.LinkedAt above

/-- There is one topmost break at most. -/
theorem TopmostBreak.unique {lowest highest other : Nat} (h : s.TopmostBreak lowest highest height)
    (k : s.TopmostBreak lowest highest other) : height = other := by
  rcases Nat.lt_trichotomy height other with hlt | heq | hgt
  · exact absurd (h.linked_above other hlt k.le_highest) k.broken
  · exact heq
  · exact absurd (k.linked_above height hgt h.le_highest) h.broken

theorem linkedAt_of_linksTo {parent : BlockHeader} (hchild : s.index.header? height = some child)
    (hparent : s.index.header? (height - 1) = some parent) (hlink : child.linksTo parent = true) :
    s.LinkedAt height := by
  rw [BlockHeader.linksTo] at hlink
  exact ⟨child, parent, hchild, hparent, eq_of_beq hlink⟩

theorem not_linkedAt_of_linksTo {parent : BlockHeader}
    (hchild : s.index.header? height = some child)
    (hparent : s.index.header? (height - 1) = some parent) (hlink : ¬ child.linksTo parent = true) :
    ¬ s.LinkedAt height := by
  rintro ⟨child', parent', hchild', hparent', hprev⟩
  obtain rfl := Option.some.inj (hchild.symm.trans hchild')
  obtain rfl := Option.some.inj (hparent.symm.trans hparent')
  rw [BlockHeader.linksTo, hprev] at hlink
  exact hlink (beq_self_eq_true _)

/-- A walk over `n` links finds all of them right, or stops at the topmost break. The induction
follows the walk, which hands the header at the top of the links that are left on. -/
theorem verifyDown_cases (hchild : s.index.header? (base + n) = some child) :
    (s.verifyDown child (base + n) n = .ok () ∧
        ∀ height, base < height → height ≤ base + n → s.LinkedAt height) ∨
      ∃ height, s.verifyDown child (base + n) n = .error (.verifyFailed height) ∧
        s.TopmostBreak (base + 1) (base + n) height := by
  induction n generalizing child with
  | zero => exact .inl ⟨rfl, fun height hlow hhigh => by omega⟩
  | succ n ih =>
    have hstop : ¬ s.LinkedAt (base + (n + 1)) →
        s.TopmostBreak (base + 1) (base + (n + 1)) (base + (n + 1)) := fun hbroken =>
      ⟨by omega, Nat.le_refl _, hbroken, fun above hlow hhigh => by omega⟩
    rw [verifyDown]
    split
    · next hparent =>
      refine .inr ⟨_, rfl, hstop ?_⟩
      rintro ⟨child', parent, -, hparent', -⟩
      rw [hparent] at hparent'
      cases hparent'
    · next parent hparent =>
      split
      · next hlink =>
        have htop : s.LinkedAt (base + (n + 1)) := linkedAt_of_linksTo hchild hparent hlink
        have hextend {low : Nat} (hbelow : ∀ k, low < k → k ≤ base + n → s.LinkedAt k) :
            ∀ k, low < k → k ≤ base + (n + 1) → s.LinkedAt k := by
          intro k hlow hhigh
          rcases Nat.lt_or_eq_of_le hhigh with hlt | heq
          · exact hbelow k hlow (by omega)
          · exact heq ▸ htop
        rcases ih hparent with ⟨hok, hall⟩ | ⟨height, herror, hbreak⟩
        · exact .inl ⟨hok, hextend hall⟩
        · refine .inr ⟨height, herror, hbreak.lowest_le, ?_, hbreak.broken,
            hextend hbreak.linked_above⟩
          exact Nat.le_succ_of_le hbreak.le_highest
      · next hlink => exact .inr ⟨_, rfl, hstop (not_linkedAt_of_linksTo hchild hparent hlink)⟩

/-- The whole check passes with all links of its range right, or stops at the topmost break. -/
theorem verify_cases {tip : Nat} (htip : s.localTip = some tip) (depth : Nat) (all : Bool) :
    (s.verify depth all = .ok () ∧
        ∀ height, s.lowestVerified tip depth all ≤ height → height ≤ tip → s.LinkedAt height) ∨
      ∃ height, s.verify depth all = .error (.verifyFailed height) ∧
        s.TopmostBreak (s.lowestVerified tip depth all) tip height := by
  have hpos : 0 < s.lowestVerified tip depth all := by
    rw [lowestVerified]
    split <;> omega
  simp only [verify, htip]
  generalize s.lowestVerified tip depth all = lowest at hpos ⊢
  split
  · next hlow => exact .inl ⟨rfl, fun height hle hhigh => by omega⟩
  · next hlow =>
    split
    · next hnone =>
      refine .inr ⟨tip, rfl, Nat.le_of_not_lt hlow, Nat.le_refl tip, ?_,
        fun above hlt hle => by omega⟩
      rintro ⟨child, -, hchild, -⟩
      rw [hnone] at hchild
      cases hchild
    · next child hchild =>
      -- The walk begins at the tip and ends right below `lowest`.
      obtain ⟨base, rfl⟩ : ∃ base, lowest = base + 1 := ⟨lowest - 1, by omega⟩
      obtain ⟨n, rfl⟩ : ∃ n, tip = base + n := ⟨tip - base, by omega⟩
      rw [show base + n + 1 - (base + 1) = n by omega]
      exact verifyDown_cases hchild

/-- **The check passes exactly if every link in its range is right, and reports the topmost break
otherwise.** The range ends at the tip. It begins above the start point, with `depth` links or,
if `all` holds, with the lowest link of all. -/
theorem verify_finds (s : Store) (depth : Nat) (all : Bool) :
    match s.localTip with
    | none => s.verify depth all = .ok ()
    | some tip =>
      let lowest := if all then s.startPoint + 1 else max (s.startPoint + 1) (tip - depth + 1)
      (s.verify depth all = .ok () ↔
          ∀ height, lowest ≤ height → height ≤ tip → s.LinkedAt height) ∧
        ∀ e, s.verify depth all = .error e ↔
          ∃ height, e = .verifyFailed height ∧ s.TopmostBreak lowest tip height := by
  cases htip : s.localTip with
  | none => simp only [verify, htip]
  | some tip =>
    have hlowest : (if all then s.startPoint + 1 else max (s.startPoint + 1) (tip - depth + 1)) =
        s.lowestVerified tip depth all := by rw [lowestVerified, Nat.max_comm]
    simp only [hlowest]
    rcases verify_cases htip depth all with ⟨hok, hall⟩ | ⟨height, herror, hbreak⟩
    · rw [hok]
      refine ⟨iff_of_true rfl hall, fun e => iff_of_false (fun h => by cases h) ?_⟩
      rintro ⟨height, -, hbreak⟩
      exact hbreak.broken (hall height hbreak.lowest_le hbreak.le_highest)
    · rw [herror]
      refine ⟨iff_of_false (fun h => by cases h) fun hall => ?_, fun e => ?_⟩
      · exact hbreak.broken (hall height hbreak.lowest_le hbreak.le_highest)
      · constructor
        · intro he
          exact ⟨height, (Except.error.inj he).symm, hbreak⟩
        · rintro ⟨other, rfl, hother⟩
          rw [hbreak.unique hother]

end Store
end HeaderFollower
