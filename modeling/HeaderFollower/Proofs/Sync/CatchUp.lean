/-
# Catching up with an honest server

A catch-up fetches headers in batches for as long as they continue its chain. `awaits_gather`
follows the batches: the headers that the chain still takes become fewer with each of them, and the
first batch that is neither full nor capped leaves none missing. `awaits_round` adds what comes of
the first header that does not continue the chain. Both hold whatever headers the server has.

With a server that answers from one linked chain a catch-up over a good store comes to an end: it
goes back as `Lands` says, fetches the rest, and then holds the server's chain.
`Synchronizer.converges` states when it does, and when it gives up, in terms of the two chains
alone.
-/

import HeaderFollower.Proofs.Sync.Honest
import HeaderFollower.Proofs.Sync.Rewind

namespace HeaderFollower

open BlockHeader Store Machine

namespace Synchronizer

variable {ω : Type} {source : Source ω} {start size m : Nat} {L S T hs : List BlockHeader}
  {cap pinned : Option Nat} {s : Synchronizer} {count : CatchUpCount}
  {Φ : Progress CatchUp Nat × Synchronizer → Prop}
  {Q : Except SyncError Nat → Synchronizer → Prop}

/-! ## Requests -/

/-- However often the server claims that the session cost is too high, the next batch is asked for
in the end. -/
theorem awaits_nextRequest (hΦ : CatchUp.machine.Inherits source Φ) (count : CatchUpCount)
    (h : Φ (.waiting (.fetching count s.store.nextHeight), s)) :
    CatchUp.machine.Awaits source Φ (s.nextRequest count) := by
  have hasking (more waits : Nat) (hmore : s.settings.maxThrottleWaits - waits = more)
      (high : Bool) : Φ (s.resumeCatchUp (.asking count waits) high) := by
    induction more generalizing waits high with
    | zero =>
      simp only [resumeCatchUp]
      rw [if_neg (by omega)]
      exact h
    | succ more ih =>
      have hpause := ih (waits + 1) (by omega)
      simp only [resumeCatchUp]
      split
      · exact hΦ.of_waiting fun w => hΦ.of_waiting fun w => hpause _
      · exact h
  exact ⟨_, _, rfl, fun w => hasking _ 0 rfl _⟩

/-- The batch that a server with the headers `S` sends, when the headers `hs` are held. -/
theorem awaits_fetching (hΦ : CatchUp.machine.Inherits source Φ)
    (hserves : Serves source start S cap) (h : s.store.Has start size hs pinned)
    (count : CatchUpCount)
    (hbatch : ∀ batch : HeaderBatch,
      batch.Carries ((S.drop hs.length).take (atMost cap count.chunk)) →
      (∀ most ∈ cap, batch.max = some most) →
      Φ (s.takeBatch count (start + hs.length) batch)) :
    CatchUp.machine.Awaits source Φ (s.nextRequest count) := by
  refine awaits_nextRequest hΦ count ?_
  rw [h.nextHeight]
  refine hΦ.of_waiting fun w => ?_
  obtain ⟨batch, hanswer, hcarries, hmax⟩ := hserves w hs.length count.chunk
  show Φ (s.resumeCatchUp (.fetching count (start + hs.length))
    (source w (.headers (start + hs.length) count.chunk)).1)
  rw [hanswer]
  exact hbatch batch hcarries hmax

theorem atMost_le (cap : Option Nat) (count : Nat) : atMost cap count ≤ count := by
  cases cap with
  | none => exact Nat.le_refl count
  | some most => exact Nat.min_le_left count most

/-- A batch is stored as far as it continues the chain. -/
theorem takeBatch_eq (h : s.store.Has start size hs pinned) {count : CatchUpCount}
    {batch : HeaderBatch} {all : List BlockHeader} (hcarries : batch.Carries all)
    (hlen : all.length ≤ count.chunk) (hsized : Sized size all) {linked : Nat}
    (hlinked : s.store.linkedPrefix (concat all) = .ok linked)
    (hnew : Chained size (hs ++ all.take linked))
    (hfit : start + (hs ++ all.take linked).length ≤ heightLimit) :
    ∃ t, s.takeBatch count (start + hs.length) batch =
        { s with store := t }.afterBatch count batch linked ∧
      t.Has start size (hs ++ all.take linked) pinned := by
  have hraw : batch.raw s.store.headerSize (start + hs.length) count.chunk = .ok (concat all) :=
    hcarries.raw_eq (h.headerSize_eq.symm ▸ hsized) _ _
  have htake : (concat all).take (linked * s.store.headerSize) = concat (all.take linked) := by
    rw [h.headerSize_eq]
    exact hsized.take_concat linked
  rw [takeBatch, if_neg (by rw [hcarries.count_eq]; omega)]
  simp only [hraw, hlinked, htake]
  by_cases hnone : all.take linked = []
  · rw [hnone, List.append_nil]
    exact ⟨s.store, by simp [storeLinked], h⟩
  · obtain ⟨t, u, happend, hload, hu⟩ := h.append hnew hnone hfit
    refine ⟨u, ?_, hu⟩
    rw [storeLinked, if_neg (by simpa [concat_eq_nil_iff] using hnone)]
    simp only [happend, hload]

/-- **Of a batch those headers are stored that the chain `T` takes.** -/
theorem takeBatch_of_reaches (hreach : Reaches size S m T) (hS : Sized size S)
    (hfit : start + T.length ≤ heightLimit) (h : s.store.Has start size (T.take m) pinned)
    {width : Nat} (hwidth : width ≤ count.chunk) {batch : HeaderBatch}
    (hcarries : batch.Carries ((S.drop m).take width)) :
    ∃ t, s.takeBatch count (start + m) batch =
        { s with store := t }.afterBatch count batch (min width (T.length - m)) ∧
      t.Has start size (T.take (m + min width (T.length - m))) pinned := by
  have hlen : (T.take m).length = m := List.length_take_of_le hreach.le
  obtain ⟨rest, hall, hstop⟩ := hreach.exists_take_eq width
  have hsized : Sized size ((T.drop m).take width ++ rest) := hall ▸ (hS.drop m).take width
  have hnew : ((T.drop m).take width).length = min width (T.length - m) := by
    rw [List.length_take, List.length_drop]
  have hjoin : T.take m ++ (T.drop m).take width = T.take (m + width) := List.take_add.symm
  have htake : ((T.drop m).take width ++ rest).take (min width (T.length - m)) =
      (T.drop m).take width := List.take_left' hnew
  have hlinked : s.store.linkedPrefix (concat ((T.drop m).take width ++ rest)) =
      .ok (min width (T.length - m)) := by
    rw [h.linkedPrefix_concat (h.headerSize_eq.symm ▸ hsized)
      (hjoin ▸ hreach.chained.linked.take _) (hjoin ▸ hstop), hnew]
  rw [hall] at hcarries
  have hchunk : ((T.drop m).take width ++ rest).length ≤ count.chunk := by
    rw [← hall, List.length_take]
    omega
  obtain ⟨t, he, ht⟩ := takeBatch_eq h hcarries hchunk hsized hlinked
    (by rw [htake, hjoin]; exact hreach.chained.take _)
    (by rw [htake, hjoin, List.length_take]; omega)
  rw [hlen] at he
  rw [htake, hjoin] at ht
  have hsame : T.take (m + width) = T.take (m + min width (T.length - m)) :=
    List.take_eq_take_iff.2 (by omega)
  exact ⟨t, he, hsame ▸ ht⟩

/-! ## Fetching what is missing -/

theorem cap?_eq_some_iff {batch : HeaderBatch} {chunk most : Nat} :
    cap? batch chunk = some most ↔
      batch.max = some most ∧ 0 < most ∧ most < chunk ∧ batch.count = most := by
  rw [cap?]
  cases batch.max with
  | none => simp
  | some stated =>
    by_cases hcap : 0 < stated ∧ stated < chunk ∧ batch.count = stated
    · simp only [if_pos hcap, Option.some.injEq]
      constructor
      · rintro rfl
        exact ⟨rfl, hcap⟩
      · exact fun h => h.1
    · simp only [if_neg hcap, Option.some.injEq]
      constructor
      · intro h
        cases h
      · rintro ⟨rfl, h⟩
        exact absurd h hcap

/-- A batch that is neither full nor capped leaves no header missing. -/
theorem eq_of_not_full {batch : HeaderBatch} {chunk missing k : Nat}
    (hk : min (atMost cap chunk) missing = k) (hcount : batch.count = k)
    (hcap : ∀ most ∈ cap, 0 < most) (hmax : ∀ most ∈ cap, batch.max = some most)
    (hnone : cap? batch chunk = none) (hshort : k < chunk) : k = missing := by
  cases cap with
  | none =>
    rw [atMost] at hk
    omega
  | some most =>
    have hmost := hcap most rfl
    have hfull : ¬ (most < chunk ∧ k = most) := by
      rintro ⟨hlt, rfl⟩
      have := cap?_eq_some_iff.2 ⟨hmax k rfl, hmost, hlt, hcount⟩
      rw [hnone] at this
      cases this
    rw [atMost] at hk
    omega

/-- All headers have been fetched. The visible tip is no longer pinned if some of them have been
since the last step back. -/
theorem ends_finishCatchUp (h : s.store.Has start size T pinned)
    (hfit : start + T.length ≤ heightLimit) :
    CatchUp.machine.Ends source (s.finishCatchUp count) fun r t =>
      r = .ok count.fetched ∧
        t.store.Has start size T (if 0 < count.sinceRewind then none else pinned) ∧
        t.store.synced = true := by
  obtain ⟨t, he, ht, -⟩ := h.loadAndVerify hfit
  rw [finishCatchUp, he]
  refine ends_done ?_
  by_cases hsince : 0 < count.sinceRewind
  · simp only [if_pos hsince]
    exact ⟨trivial, (ht.withSynced true).unpinned, rfl⟩
  · simp only [if_neg hsince]
    exact ⟨trivial, ht.withSynced true, rfl⟩

/-- **A catch-up stores the headers that the chain takes, whatever the size of the batches**, and
then ends, if these are all, or goes back. The induction is on the number of headers that the chain
still takes. -/
theorem awaits_gather (hΦ : CatchUp.machine.Inherits source Φ) (hserves : Serves source start S cap)
    (hcap : ∀ most ∈ cap, 0 < most) (hS : Sized size S) (hreach : Reaches size S m T)
    (hfit : start + T.length ≤ heightLimit) (h : s.store.Has start size (T.take m) pinned)
    (hchunk : 0 < count.chunk)
    (hwhole : S.length ≤ T.length → ∀ chunk t, t.Has start size T pinned →
      Φ ({ s with store := t }.finishCatchUp
        ⟨chunk, count.fetched + (T.length - m), count.sinceRewind + (T.length - m)⟩))
    (hbroken : T.length < S.length → ∀ chunk t, 0 < chunk → t.Has start size T pinned →
      Φ ({ s with store := t }.goBack
        ⟨chunk, count.fetched + (T.length - m), count.sinceRewind + (T.length - m)⟩)) :
    CatchUp.machine.Awaits source Φ (s.nextRequest count) := by
  induction hd : T.length - m using Nat.strongRecOn generalizing m s count with
  | ind d ih =>
    subst hd
    have hlen : (T.take m).length = m := List.length_take_of_le hreach.le
    have hle := hreach.le
    have hless := hreach.length_sub_le
    refine awaits_fetching hΦ hserves h count fun batch hcarries hmax => ?_
    have hwidth := atMost_le cap count.chunk
    generalize hw : atMost cap count.chunk = width at hcarries hwidth
    rw [hlen] at hcarries ⊢
    have hcount : batch.count = min width (S.length - m) := by
      rw [hcarries.count_eq, List.length_take, List.length_drop]
    obtain ⟨t, he, ht⟩ := takeBatch_of_reaches hreach hS hfit h hwidth hcarries
    rw [he, afterBatch]
    generalize hk : min width (T.length - m) = k at ht
    have hnext (chunk : Nat) (hpos : 0 < chunk) (hsome : 0 < k) :
        Φ ({ s with store := t }.nextRequest
          ⟨chunk, count.fetched + k, count.sinceRewind + k⟩) := by
      have hfetched (before : Nat) :
          before + k + (T.length - (m + k)) = before + (T.length - m) := by omega
      refine hΦ _ (ih (T.length - (m + k)) (by omega) (s := { s with store := t })
        (hreach.of_le (by omega) (by omega)) ht hpos ?_ ?_ rfl)
      · intro hle
        simpa only [hfetched] using hwhole hle
      · intro hlt
        simpa only [hfetched] using hbroken hlt
    have hall (hlast : k = T.length - m) : t.Has start size T pinned := by
      rwa [hlast, Nat.add_sub_cancel' hreach.le, List.take_length] at ht
    split
    · next hlt =>
      obtain rfl : k = T.length - m := by omega
      exact hbroken (by omega) _ t hchunk (hall rfl)
    · next hge =>
      cases hstated : cap? batch count.chunk with
      | some most =>
        obtain ⟨-, hmost, -, hfull⟩ := cap?_eq_some_iff.1 hstated
        exact hnext most hmost (by omega)
      | none =>
        dsimp only
        split
        · next hshort =>
          have hmissing : batch.count = S.length - m :=
            eq_of_not_full (by rw [hw, hcount]) rfl hcap hmax hstated hshort
          obtain rfl : k = T.length - m := by omega
          exact hwhole (by omega) _ t (hall rfl)
        · exact hnext count.chunk hchunk (by omega)

/-! ## Going back -/

/-- A catch-up goes on after a step back, or ends with its error. -/
def goOn (count : CatchUpCount) :
    Except SyncError Unit × Synchronizer → Progress CatchUp Nat × Synchronizer
  | (.error e, s) => s.failed e
  | (.ok (), s) => s.nextRequest count

/-- Before headers are taken away, those that are stored are verified, if they have not been yet. -/
theorem goBack_eq (h : s.store.Has start size hs pinned) (hfit : start + hs.length ≤ heightLimit)
    (count : CatchUpCount) :
    ∃ t, t.Has start size hs pinned ∧ t.synced = true ∧
      s.goBack count = goOn ⟨count.chunk, count.fetched, 0⟩ { s with store := t }.rewind := by
  by_cases hsync : s.store.synced = true
  · refine ⟨s.store, h, hsync, ?_⟩
    rw [goBack]
    simp only [hsync, if_true]
    rfl
  · obtain ⟨t, he, ht, -⟩ := h.loadAndVerify hfit
    refine ⟨t.setSynced true, ht.withSynced true, rfl, ?_⟩
    rw [goBack]
    simp only [hsync, he]
    rfl

/-- **One round of a catch-up.** It stores what the chain takes, up to `T`. Then it ends, if these
are all the headers of the server; gives up, if it has gone back before and would go back by all
that it holds; or asks again, with fewer headers. -/
theorem awaits_round (hΦ : CatchUp.machine.Inherits source Φ) (hserves : Serves source start S cap)
    (hcap : ∀ most ∈ cap, 0 < most) (hS : Sized size S) (hreach : Reaches size S m T)
    (hfit : start + T.length ≤ heightLimit) (h : s.store.Has start size (T.take m) pinned)
    {R : Nat} (hset : s.settings.rewind = R) (hR : 0 < R) (hchunk : 0 < count.chunk)
    (hwhole : S.length ≤ T.length → ∀ chunk t, t.Has start size T pinned →
      Φ ({ s with store := t }.finishCatchUp
        ⟨chunk, count.fetched + (T.length - m), count.sinceRewind + (T.length - m)⟩))
    (hlow : T.length < S.length → pinned.isSome → T.length ≤ R →
      ∀ t, t.Has start size T pinned →
      Φ (.done (.error (.exhausted t.tip t.startPoint)),
        { s with store := t, phase := .exhausted }))
    (hback : T.length < S.length → (pinned.isSome → R < T.length) →
      ∀ chunk t, 0 < chunk →
      t.Has start size (T.take (T.length - R))
        (pinAt pinned (start + (T.length - 1))) →
      Φ ({ s with store := t, phase := .reorgRecovering }.nextRequest
        ⟨chunk, count.fetched + (T.length - m), 0⟩)) :
    CatchUp.machine.Awaits source Φ (s.nextRequest count) := by
  subst hset
  refine awaits_gather hΦ hserves hcap hS hreach hfit h hchunk hwhole fun hlt chunk t hpos ht => ?_
  have hne := hreach.ne_nil hlt
  obtain ⟨u, hu, husync, hgo⟩ := goBack_eq (s := { s with store := t }) ht hfit
    ⟨chunk, count.fetched + (T.length - m), count.sinceRewind + (T.length - m)⟩
  rw [hgo]
  by_cases hstop : pinned.isSome ∧ T.length ≤ s.settings.rewind
  · rw [rewind_of_low (s := { s with store := u }) hu hne hstop.1 hstop.2]
    exact hlow hlt hstop.1 hstop.2 u hu
  · have hhigh : pinned.isSome → s.settings.rewind < T.length := fun hp =>
      Nat.lt_of_not_le fun hle => hstop ⟨hp, hle⟩
    obtain ⟨v, he, hv, -⟩ := rewind_of_high (s := { s with store := u }) hu husync hne hR hhigh
    rw [he]
    exact hback hlt hhigh chunk v hpos hv

/-! ## The whole catch-up -/

/-- What a catch-up answers where it lands, with `before` headers fetched on the way. -/
def answerAt (S : List BlockHeader) (t : Store) (before : Nat) : Landing → Except SyncError Nat
  | .joined kept => .ok (before + (S.length - kept))
  | .stuck _ _ => .error (.exhausted t.tip t.startPoint)

/-- **A catch-up lands where the chains join, or gives up.** The induction is on the steps back. -/
theorem ends_of_lands {R : Nat} {landing : Landing} (hfork : Fork size L S)
    (hserves : Serves source start S cap) (hcap : ∀ most ∈ cap, 0 < most)
    (hfit : start + S.length ≤ heightLimit) (hR : 0 < R)
    (hlands : Lands start R (Joins L S) pinned m landing) (hm : m ≤ L.length)
    (h : s.store.Has start size (L.take m) pinned) (hset : s.settings.rewind = R)
    (hchunk : 0 < count.chunk) :
    CatchUp.machine.Ends source (s.nextRequest count) fun r t =>
      r = answerAt S t.store count.fetched landing ∧ landing.Left start size L S t.store := by
  have hlonger := hfork.longer
  have hS := hfork.chained_right.sized
  induction hlands generalizing s count with
  | @joined pinned m hjoins =>
    have hall := hfork.length_joined hm
    have hheld : s.store.Has start size ((L.take m ++ S.drop m).take m) pinned := by
      rwa [List.take_left' (List.length_take_of_le hm)]
    refine inherits_ends _ (awaits_gather inherits_ends hserves hcap hS
      (hfork.reaches_of_joins hm hjoins) (hall.symm ▸ hfit) hheld hchunk ?_ ?_)
    · intro _ chunk t ht
      rw [hall]
      refine (ends_finishCatchUp ht (hall.symm ▸ hfit)).imp fun r u hu => ⟨hu.1, ?_, hu.2.2⟩
      have hhas := hu.2.1
      rwa [if_pos (by dsimp only; omega)] at hhas
    · intro hlt
      omega
  | @stuck pinned m hparts hagain hlow =>
    have hlen : (L.take m).length = m := List.length_take_of_le hm
    refine inherits_ends _ (awaits_round inherits_ends hserves hcap hS
      (hfork.reaches_of_not_joins hm hparts) (by omega) (by rwa [List.take_take, Nat.min_self])
      hset hR hchunk ?_ ?_ ?_)
    · intro hle
      omega
    · intro _ _ _ t ht
      exact ends_done ⟨rfl, ht⟩
    · intro _ hhigh
      have := hhigh hagain
      omega
  | @back pinned m landing hparts hhigh hnext ih =>
    have hlen : (L.take m).length = m := List.length_take_of_le hm
    refine inherits_ends _ (awaits_round inherits_ends hserves hcap hS
      (hfork.reaches_of_not_joins hm hparts) (by omega) (by rwa [List.take_take, Nat.min_self])
      hset hR hchunk ?_ ?_ ?_)
    · intro hle
      omega
    · intro _ hagain hlow
      have := hhigh hagain
      omega
    · intro _ _ chunk t hpos ht
      rw [hlen, List.take_take, Nat.min_eq_left (Nat.sub_le _ _)] at ht
      rw [hlen, Nat.sub_self, Nat.add_zero]
      exact ih (s := { s with store := t, phase := .reorgRecovering }) (by omega) ht hset hpos

/-- A catch-up over a good store begins by loading the file, unless it has been loaded. -/
theorem beginCatchUp_eq (h : s.store.Has start size hs pinned)
    (hfit : start + hs.length ≤ heightLimit) :
    ∃ t, t.Has start size hs pinned ∧ s.beginCatchUp =
      { s with store := t, phase := .bulkSync }.nextRequest ⟨max s.settings.chunkSize 1, 0, 0⟩ := by
  rw [beginCatchUp]
  simp only [h.count]
  by_cases hload : s.store.synced = true ∧ s.store.headerCount = hs.length
  · rw [if_pos hload]
    exact ⟨s.store, h, rfl⟩
  · obtain ⟨t, he, ht, -⟩ := h.loadAndVerify hfit
    rw [if_neg hload, he]
    exact ⟨t, ht, rfl⟩

/-- The same holds of a catch-up from its beginning on. -/
theorem ends_beginCatchUp {landing : Landing} (hfork : Fork size L S)
    (hserves : Serves source start S cap) (hcap : ∀ most ∈ cap, 0 < most)
    (hfit : start + S.length ≤ heightLimit) (hR : 0 < s.settings.rewind)
    (h : s.store.Has start size L pinned)
    (hlands : Lands start s.settings.rewind (Joins L S) pinned L.length landing) :
    CatchUp.machine.Ends source s.beginCatchUp fun r t =>
      r = answerAt S t.store 0 landing ∧ landing.Left start size L S t.store := by
  have hlonger := hfork.longer
  obtain ⟨t, ht, hbegin⟩ := beginCatchUp_eq h (by omega)
  rw [hbegin]
  refine ends_of_lands (s := { s with store := t, phase := .bulkSync }) hfork hserves hcap hfit hR
    hlands (Nat.le_refl _) ?_ rfl (Nat.lt_of_lt_of_le Nat.one_pos (Nat.le_max_right _ 1))
  rw [List.take_length]
  exact ht

/-- **A catch-up converges to the chain of an honest server, or gives up at its start point.** The
store holds the chain `L` and no recovery is active; the server has the longer chain `S`, of which
it sends at most `cap` headers at once; `j` is the least number of steps back that leave shared
headers only. With at most one step, or a last step that leaves a header, the store holds `S` in the
end, and the number of fetched headers is returned. Otherwise the catch-up reports that going back
is exhausted, and the store holds the lower part of `L`. -/
theorem converges (hL : s.store.Holds L) (hpinned : s.store.pinned = none)
    (hfile : s.store.file.Accessible) (hR : 1 ≤ s.settings.rewind)
    (hS : Chained s.store.headerSize S) (hlonger : L.length < S.length)
    (hfit : s.store.startPoint + S.length ≤ heightLimit)
    (hserves : Serves source s.store.startPoint S cap) (hcap : ∀ most ∈ cap, 1 ≤ most)
    (hhash : HashesTell L S) {j : Nat}
    (hj : L.length ≤ sharedLength L S + j * s.settings.rewind)
    (hleast : ∀ i < j, sharedLength L S + i * s.settings.rewind < L.length) :
    CatchUp.machine.Ends source s.beginCatchUp fun r t =>
      if j ≤ 1 ∨ j * s.settings.rewind ≤ L.length - 1 then
        r = .ok (S.length - (L.length - j * s.settings.rewind)) ∧ t.store.Holds S ∧
          t.store.pinned = none ∧ t.store.synced = true
      else
        (∃ tip, r = .error (.exhausted tip s.store.startPoint)) ∧
          ∃ m, t.store.Holds (L.take m) := by
  have hfork : Fork s.store.headerSize L S := ⟨hL.chained, hS, hlonger⟩
  have hjoins : ∀ k ≤ L.length, k ≤ sharedLength L S ↔ Joins L S k :=
    fun k hk => (hfork.joins_iff hhash hk).symm
  have hhas : s.store.Has s.store.startPoint s.store.headerSize L none :=
    ⟨hL, rfl, rfl, hfile, hpinned⟩
  by_cases hlow : j ≤ 1 ∨ j * s.settings.rewind ≤ L.length - 1
  · simp only [if_pos hlow]
    have hjoined : j ≤ 1 ∨ j * s.settings.rewind < L.length := by
      by_cases hj1 : j ≤ 1
      · exact .inl hj1
      · have := hleast 0 (by omega)
        omega
    refine (ends_beginCatchUp hfork hserves hcap hfit hR hhas
      ((lands_joined hj hleast hjoined).congr hjoins)).imp ?_
    rintro r u ⟨rfl, hu, hsync⟩
    have hkept : L.length - j * s.settings.rewind ≤ sharedLength L S := by omega
    rw [take_eq_of_le_sharedLength hkept, List.take_append_drop] at hu
    exact ⟨by rw [answerAt, Nat.zero_add], hu.toHolds, hu.pinned_eq, hsync⟩
  · simp only [if_neg hlow]
    have hstuck : ∃ k pin, Lands s.store.startPoint s.settings.rewind (· ≤ sharedLength L S) none
        L.length (.stuck k pin) := lands_stuck hleast (by omega)
    obtain ⟨k, pin, hstuck⟩ := hstuck
    refine (ends_beginCatchUp hfork hserves hcap hfit hR hhas (hstuck.congr hjoins)).imp ?_
    rintro r u ⟨rfl, hu⟩
    exact ⟨⟨u.store.tip, by rw [answerAt, hu.startPoint_eq]⟩, k, hu.toHolds⟩

/-- A synchronizer that goes back by one header at a time and holds a header that the server has
above another one. -/
def offByOne : Synchronizer :=
  .start { rewind := 1 } (holdingOne upperHeader) (.start 1)

theorem converges_offByOne :
    CatchUp.machine.Ends (honest 0 [lowestHeader, upperHeader] (some 1)) offByOne.beginCatchUp
      fun r t => r = .ok 2 ∧ t.store.Holds [lowestHeader, upperHeader] := by
  have hshared : sharedLength [upperHeader] [lowestHeader, upperHeader] = 0 := by decide +kernel
  have hends := converges (s := offByOne) (j := 1) (holds_holdingOne upperHeader) rfl
    (fun _ _ => rfl) (Nat.le_refl 1) chained_pair (by decide) (by decide)
    (serves_honest 0 [lowestHeader, upperHeader] (some 1)) (by rintro most ⟨⟩; decide)
    hashesTell_pair (by rw [hshared]; decide) (by
      intro i hi
      obtain rfl : i = 0 := by omega
      rw [hshared]
      decide)
  refine hends.imp fun r t h => ?_
  rw [if_pos (.inl (Nat.le_refl 1))] at h
  exact ⟨h.1, h.2.1⟩

end Synchronizer
end HeaderFollower
