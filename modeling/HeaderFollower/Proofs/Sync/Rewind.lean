/-
# Going back, step by step

A synchronizer that finds a header that does not connect takes the topmost headers away, or gives
up. `Synchronizer.rewind_of_high` and `Synchronizer.rewind_of_low` tell these apart by numbers, as
`Lands` does, and `Landing.Left` says in what state a store is left in the end.
-/

import HeaderFollower.Proofs.Sync.Fork

namespace HeaderFollower

open BlockHeader Store

/-- The state of a store where a follower has ended that held the headers `L`, over a server with
the headers `S`. -/
def Landing.Left (start size : Nat) (L S : List BlockHeader) (t : Store) : Landing → Prop
  | .joined kept => t.Has start size (L.take kept ++ S.drop kept) none ∧ t.synced = true
  | .stuck kept pinned => t.Has start size (L.take kept) pinned

namespace Synchronizer

variable {start size : Nat} {hs : List BlockHeader} {pinned : Option Nat} {s : Synchronizer}

theorem localTip_of_ne_nil (h : s.store.Has start size hs pinned) (hne : hs ≠ []) :
    s.store.localTip = some (start + (hs.length - 1)) := by
  rw [h.localTip_eq, h.startPoint_eq, topHeight_of_ne_nil hne]

/-- Unless too few headers are left, all operations are carried out. -/
theorem rewind_eq (h : s.store.Has start size hs pinned) (hne : hs ≠ [])
    (hhigh : pinned.isSome → s.settings.rewind < hs.length) {t : Store}
    (he : s.store.runAll (rewindOps (min s.settings.rewind hs.length) (start + (hs.length - 1))) =
      (.ok (), t)) :
    s.rewind = (.ok (), { s with store := t, phase := .reorgRecovering }) := by
  have hpos := List.length_pos_iff.2 hne
  have hgo : ¬ (s.store.pinned.isSome ∧
      start + (hs.length - 1) - start < s.settings.rewind) := by
    rintro ⟨hp, hlow⟩
    rw [h.pinned_eq] at hp
    have := hhigh hp
    omega
  rw [Synchronizer.rewind, localTip_of_ne_nil h hne]
  simp only [h.startPoint_eq]
  rw [if_neg hgo, show start + (hs.length - 1) - start + 1 = hs.length by omega, he]

/-- The topmost headers are taken away. -/
theorem rewind_of_high (h : s.store.Has start size hs pinned) (hsync : s.store.synced = true)
    (hne : hs ≠ []) (hR : 0 < s.settings.rewind)
    (hhigh : pinned.isSome → s.settings.rewind < hs.length) :
    ∃ t, s.rewind = (.ok (), { s with store := t, phase := .reorgRecovering }) ∧
      t.Has start size (hs.take (hs.length - s.settings.rewind))
        (pinAt pinned (start + (hs.length - 1))) ∧ t.synced = true := by
  have hpos := List.length_pos_iff.2 hne
  obtain ⟨t, he, ht, htsync⟩ := h.rewound hsync
    (show 0 < min s.settings.rewind hs.length by omega) (Nat.min_le_right _ _)
    (start + (hs.length - 1))
  rw [show hs.length - min s.settings.rewind hs.length = hs.length - s.settings.rewind by omega]
    at ht
  exact ⟨t, rewind_eq h hne hhigh he, ht, htsync⟩

/-- A second step that would take all headers away is not made. -/
theorem rewind_of_low (h : s.store.Has start size hs pinned) (hne : hs ≠ [])
    (hpinned : pinned.isSome) (hlow : hs.length ≤ s.settings.rewind) : s.rewind = s.giveUp := by
  have hpos := List.length_pos_iff.2 hne
  rw [Synchronizer.rewind, localTip_of_ne_nil h hne]
  refine if_pos ⟨h.pinned_eq.symm ▸ hpinned, ?_⟩
  rw [h.startPoint_eq]
  omega

end Synchronizer
end HeaderFollower
