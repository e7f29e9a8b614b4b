/-
# A server with a cap, while following the tip

A server may send fewer headers at once than are asked for, and say so. A catch-up then asks for
less. The handling of a tip does not: it takes a batch only if it is as wide as the request, and asks
for the same again with the next tip. `capped_update` says for which tips this matters. All others
are stored with the headers below them, whatever the cap.
-/

import HeaderFollower.Proofs.Sync.TipUpdate

namespace HeaderFollower

open BlockHeader Store Machine

namespace Synchronizer

variable {ω : Type} {source : Source ω} {start size most : Nat} {S L hs : List BlockHeader}
  {pinned : Option Nat} {s : Synchronizer} {work : TipWork} {last : BlockHeader}

/-- How many headers below a tip are not stored. -/
def missing (s : Synchronizer) (work : TipWork) : Nat := work.height - s.store.nextHeight

/-- How many headers the first request for a batch is for. -/
def firstBatch (s : Synchronizer) (work : TipWork) : Nat :=
  min (s.missing work) (max s.settings.chunkSize 1)

/-- The headers below a tip are fetched in batches, and the first request is for more than a server
sends at once. -/
def Overasks (s : Synchronizer) (work : TipWork) (most : Nat) : Prop :=
  s.settings.batchThreshold < s.missing work ∧ most < s.firstBatch work

instance (s : Synchronizer) (work : TipWork) (most : Nat) : Decidable (s.Overasks work most) :=
  inferInstanceAs (Decidable (_ ∧ _))

/-- A server with a tip above the stored headers has all those that are missing. -/
theorem missing_eq (h : s.store.Has start size hs pinned) (htip : work.IsTipOf start size S) :
    s.missing work = S.length - 1 - hs.length := by
  have hheight := htip.height_eq
  rw [missing, h.nextHeight]
  omega

/-- A batch that the server's cap has cut short ends the call, and nothing has changed. -/
theorem ends_cutBatch (hserves : Serves source start S (some most)) (hS : Sized size S)
    {m count : Nat} (hcount : m + count ≤ S.length) (hcut : most < count) :
    TipUpdate.machine.Ends source (.waiting (.batch work last (start + m) count), s) fun r t =>
      r = .error (.batchMismatch (start + m) count most (most * size)) ∧ t = s := by
  refine ends_waiting fun w => ?_
  obtain ⟨batch, hanswer, hcarries, -⟩ := hserves w m count
  have hsent : atMost (some most) count = most := Nat.min_eq_right (Nat.le_of_lt hcut)
  rw [hsent] at hcarries
  have hlen : ((S.drop m).take most).length = most := by
    rw [List.length_take, List.length_drop]
    omega
  have hbatch : batch.count = most := hcarries.count_eq.trans hlen
  have hbytes : batch.hex.utf8ByteSize / 2 = most * size := by
    rw [Hex.utf8ByteSize_of_decode hcarries.decode_eq, ((hS.drop m).take most).length_concat, hlen,
      Nat.mul_div_cancel _ Nat.two_pos]
  have hne : batch.count ≠ count := by omega
  show TipUpdate.machine.Ends source (s.resumeTip (.batch work last (start + m) count)
    (source w (.headers (start + m) count)).1) _
  rw [hanswer]
  simp only [resumeTip]
  rw [if_pos hne, HeaderBatch.mismatch, hbatch, hbytes]
  exact ends_done ⟨rfl, rfl⟩

/-- **A tip of a server with a cap.** The store holds the chain `L`, and the server has the longer
chain `S` on top of it. If the first request for a batch is for more headers than the server sends
at once, the call fails with what the server sent, and nothing has changed. Otherwise the tip is
stored with all headers below it. -/
theorem capped_update (hL : s.store.Holds L) (hfile : s.store.file.Accessible)
    (hS : Chained s.store.headerSize S) (hext : L <+: S) (hmore : L.length < S.length)
    (hfit : s.store.startPoint + S.length ≤ heightLimit)
    (hserves : Serves source s.store.startPoint S (some most))
    (hsingly : ServesSingly source s.store.startPoint s.store.headerSize S)
    (htip : work.IsTipOf s.store.startPoint s.store.headerSize S) :
    TipUpdate.machine.Ends source (s.beginTip work) fun r t =>
      if s.Overasks work most then
        r = .error (.batchMismatch s.store.nextHeight (s.firstBatch work) most
          (most * s.store.headerSize)) ∧ t = s
      else r = .ok .advanced ∧ t.store.Holds S ∧ t.store.pinned = none := by
  have hhas : s.store.Has s.store.startPoint s.store.headerSize L s.store.pinned :=
    ⟨hL, rfl, rfl, hfile, rfl⟩
  have hmissing := missing_eq hhas htip
  have hnext := hhas.nextHeight
  obtain ⟨last, hlast, hbegin⟩ := exists_beginTip_eq htip hmore rfl hhas
  rw [← hnext, show work.height - s.store.nextHeight = s.missing work from rfl] at hbegin
  have hbelow : S.dropLast <+: S := List.dropLast_prefix S
  have hreach : Reaches s.store.headerSize S L.length S := hS.reaches (Nat.le_of_lt hmore)
  have htake : S.take L.length = L := (List.prefix_iff_eq_take.1 hext).symm
  have hheld : s.store.Has s.store.startPoint s.store.headerSize (S.take L.length)
      s.store.pinned := htake.symm ▸ hhas
  have hfirst : min (work.height - s.store.nextHeight) (max s.settings.chunkSize 1) =
      s.firstBatch work := rfl
  by_cases hover : s.Overasks work most
  · simp only [if_pos hover]
    have hwide : 0 < s.missing work := Nat.lt_of_le_of_lt (Nat.zero_le _) hover.1
    have hcount : L.length + s.firstBatch work ≤ S.length := by
      rw [firstBatch]
      omega
    have hbelowTip : s.store.nextHeight < work.height := by
      rw [missing] at hwide
      omega
    rw [hbegin, if_pos hover.1, nextBatch, if_pos hbelowTip, hfirst, hnext]
    exact ends_cutBatch hserves hS.sized hcount hover.2
  · simp only [if_neg hover]
    have hwhole (_ : S.length ≤ S.length) (t : Store)
        (ht : t.Has s.store.startPoint s.store.headerSize S s.store.pinned)
        (_ : t.synced = s.store.synced) :
        TipUpdate.machine.Ends source ({ s with store := t }.settle work .advanced) fun r t =>
          r = .ok .advanced ∧ t.store.Holds S ∧ t.store.pinned = none :=
      ends_done ⟨rfl, ht.unpinned.toHolds, rfl⟩
    rw [hbegin]
    split
    · next hwide =>
      have hcap : ∀ n ∈ some most, min (work.height - (s.store.startPoint + L.length))
          (max s.settings.chunkSize 1) ≤ n := by
        rintro n ⟨⟩
        rw [← hnext, hfirst]
        exact Nat.le_of_not_lt fun hcut => hover ⟨hwide, hcut⟩
      rw [hnext]
      exact ends_nextBatch hS.sized hbelow hreach hfit htip hlast hmore hheld hwhole
        (fun hlt => absurd hlt (Nat.lt_irrefl _)) hserves hcap
    · rw [hnext]
      exact ends_nextSingle hbelow hreach hfit htip hlast hmore hheld hwhole
        (fun hlt => absurd hlt (Nat.lt_irrefl _)) hsingly

/-! ## A tip three headers above -/

/-- A synchronizer that holds the lowest header of a tower and fetches more than one missing header
in batches. -/
def atFoot : Synchronizer :=
  .start { chunkSize := 10, batchThreshold := 1 } (holdingOne lowestHeader) (.start 1)

/-- The tip of a tower of four headers. -/
def fourthTip : TipWork := ⟨3, (towerHeader 3).toHex, .notification⟩

theorem isTipOf_fourthTip : fourthTip.IsTipOf 0 80 (tower 4) := by
  refine ⟨by rw [length_tower]; rfl, fun last hlast => ?_⟩
  rw [getLast?_tower] at hlast
  obtain rfl := Option.some.inj hlast
  have hread := ofHex_toHex (towerHeader 3)
  rwa [length_towerHeader] at hread

theorem has_atFoot : atFoot.store.Has 0 80 (tower 1) none :=
  ⟨holds_holdingOne lowestHeader, rfl, length_towerHeader 0, fun _ _ => rfl, rfl⟩

/-- A server that sends two headers at once sends all that are missing. -/
theorem capped_update_atFoot :
    TipUpdate.machine.Ends (honest 0 (tower 4) (some 2)) (atFoot.beginTip fourthTip) fun r t =>
      r = .ok .advanced ∧ t.store.Holds (tower 4) ∧ t.store.pinned = none := by
  have hsize : atFoot.store.headerSize = 80 := has_atFoot.headerSize_eq
  have hends := capped_update has_atFoot.toHolds has_atFoot.accessible
    (hsize.symm ▸ chained_tower 4) (prefix_tower (by decide)) (by
      rw [length_tower, length_tower]
      decide)
    (by
      rw [length_tower]
      decide)
    (serves_honest 0 (tower 4) (some 2))
    (hsize.symm ▸ servesSingly_honest 0 (chained_tower 4).sized (some 2))
    (hsize.symm ▸ isTipOf_fourthTip)
  have hover : ¬ atFoot.Overasks fourthTip 2 := by decide
  simpa only [if_neg hover] using hends

/-- **With a server that sends one header at once the tip is not stored**, though the server has the
whole chain, and the store is good and synced. -/
theorem capped_update_fails :
    atFoot.store.Holds (tower 1) ∧ atFoot.store.synced = true ∧
      Serves (honest 0 (tower 4) (some 1)) 0 (tower 4) (some 1) ∧
      ServesSingly (honest 0 (tower 4) (some 1)) 0 80 (tower 4) ∧ Chained 80 (tower 4) ∧
      fourthTip.IsTipOf 0 80 (tower 4) ∧
      TipUpdate.machine.Ends (honest 0 (tower 4) (some 1)) (atFoot.beginTip fourthTip) fun r t =>
        r = .error (.batchMismatch 1 2 1 80) ∧ t = atFoot := by
  refine ⟨has_atFoot.toHolds, rfl, serves_honest _ _ _,
    servesSingly_honest 0 (chained_tower 4).sized _, chained_tower 4, isTipOf_fourthTip, ?_⟩
  have hless : (tower 1).length < (tower 4).length := by
    rw [length_tower, length_tower]
    decide
  obtain ⟨last, -, hbegin⟩ := exists_beginTip_eq isTipOf_fourthTip hless rfl has_atFoot
  rw [hbegin, length_tower, if_pos (by decide), nextBatch, if_pos (by decide)]
  exact ends_cutBatch (serves_honest 0 (tower 4) (some 1)) (chained_tower 4).sized
    (m := 1) (by rw [length_tower]; decide) (by decide)

end Synchronizer
end HeaderFollower
