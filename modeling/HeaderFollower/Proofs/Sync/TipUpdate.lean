/-
# Following the tip of a server

The tip of a server is handled together with the headers below it that are missing, which are
fetched in batches or one by one, for as long as they continue the stored chain. `ends_beginTip`
says how the call ends, whatever headers the server has. Both ways to fetch come to the same.
-/

import HeaderFollower.Proofs.Sync.CatchUp

namespace HeaderFollower

open BlockHeader Store Machine

/-- The tip is the last of the headers `S`, the first of which is at height `start`. -/
structure TipWork.IsTipOf (work : TipWork) (start size : Nat) (S : List BlockHeader) : Prop where
  height_eq : work.height + 1 = start + S.length
  ofHex_eq : ∀ last ∈ S.getLast?, ofHex size work.hex = .ok last

namespace Synchronizer

variable {ω : Type} {source : Source ω} {start size : Nat} {S T hs : List BlockHeader}
  {cap pinned : Option Nat} {s : Synchronizer} {work : TipWork} {last : BlockHeader}
  {Q : Except SyncError TipOutcome → Synchronizer → Prop}

/-! ## Answers of an honest server -/

/-- A batch with as many headers as were asked for is cut into these. -/
theorem resumeTip_batch {new : List BlockHeader} {batch : HeaderBatch} {count : Nat}
    (hsized : Sized s.store.headerSize new) (hcarries : batch.Carries new)
    (hcount : new.length = count) (height : Nat) :
    s.resumeTip (.batch work last height count) (Except.ok batch) =
      s.connectFetched work height (new.map .ok) fun s => s.nextBatch work last (height + count) := by
  have hbatch : batch.count = count := hcarries.count_eq.trans hcount
  simp only [resumeTip]
  rw [if_neg (not_not.2 hbatch), hcarries.raw_eq hsized]
  dsimp only
  rw [split_concat hsized]

/-- The batch that an honest server sends, when `m` headers are held and its cap allows for all that
are asked for. -/
theorem ends_batch (hserves : Serves source start S cap) (hS : Sized size S)
    (h : s.store.Has start size hs pinned) {m count : Nat} (hcount : m + count ≤ S.length)
    (hcap : ∀ most ∈ cap, count ≤ most)
    (hnext : TipUpdate.machine.Ends source
      (s.connectFetched work (start + m) (((S.drop m).take count).map .ok)
        fun s => s.nextBatch work last (start + m + count)) Q) :
    TipUpdate.machine.Ends source (.waiting (.batch work last (start + m) count), s) Q := by
  refine ends_waiting fun w => ?_
  obtain ⟨batch, hanswer, hcarries, -⟩ := hserves w m count
  have hsized : Sized s.store.headerSize ((S.drop m).take count) := by
    rw [h.headerSize_eq]
    exact (hS.drop m).take count
  rw [atMost_eq hcap] at hcarries
  have hlen : ((S.drop m).take count).length = count := by
    rw [List.length_take, List.length_drop]
    omega
  show TipUpdate.machine.Ends source (s.resumeTip (.batch work last (start + m) count)
    (source w (.headers (start + m) count)).1) Q
  rw [hanswer, resumeTip_batch hsized hcarries hlen]
  exact hnext

/-- The single header that an honest server sends, when `m` headers are held. -/
theorem ends_single (hsingly : ServesSingly source start size S)
    (h : s.store.Has start size hs pinned) {m : Nat} (hm : m < S.length)
    (hnext : TipUpdate.machine.Ends source
      (s.connectFetched work (start + m) (((S.drop m).take 1).map .ok)
        fun s => s.nextSingle work last (start + m + 1)) Q) :
    TipUpdate.machine.Ends source (.waiting (.single work last (start + m)), s) Q := by
  refine ends_waiting fun w => ?_
  obtain ⟨text, hanswer, hheader⟩ := hsingly w m hm
  show TipUpdate.machine.Ends source (s.resumeTip (.single work last (start + m))
    (source w (.header (start + m))).1) Q
  rw [hanswer]
  simp only [resumeTip]
  rw [h.headerSize_eq, hheader]
  rw [List.drop_eq_getElem_cons hm, List.take_succ_cons, List.take_zero] at hnext
  exact hnext

/-- A tip right above the headers that are held is connected at once. -/
theorem beginTip_eq_connectNotified (h : s.store.Has start size hs pinned)
    (hheight : work.height = start + hs.length) (hheader : ofHex size work.hex = .ok last) :
    s.beginTip work = s.connectNotified work last := by
  rw [beginTip, h.nextHeight, h.startPoint_eq, if_neg (by omega), if_neg (by omega),
    h.headerSize_eq, hheader]
  dsimp only
  rw [if_neg (by omega), nextSingle, if_neg (by omega)]

/-- The handling of a tip above the `m` headers that are held begins with the header on top of
them. -/
theorem exists_beginTip_eq (htip : work.IsTipOf start size S) {m : Nat} (hm : m < S.length)
    (hlen : hs.length = m) (h : s.store.Has start size hs pinned) :
    ∃ last, S.getLast? = some last ∧
      s.beginTip work = if s.settings.batchThreshold < work.height - (start + m) then
        s.nextBatch work last (start + m) else s.nextSingle work last (start + m) := by
  have hheight := htip.height_eq
  have hne : S ≠ [] := List.ne_nil_of_length_pos (by omega)
  refine ⟨S.getLast hne, List.getLast?_eq_some_getLast hne, ?_⟩
  have hheader := htip.ofHex_eq _ (List.getLast?_eq_some_getLast hne)
  have hnext : s.store.nextHeight = start + m := by rw [h.nextHeight, hlen]
  rw [beginTip, hnext, h.startPoint_eq, if_neg (by omega), if_neg (by omega), h.headerSize_eq,
    hheader]

/-- The server has all headers below the tip of `S`, which need not be one of its own. -/
theorem take_drop_eq_of_below {A : List BlockHeader} (h : S.dropLast <+: A) {m count : Nat}
    (hle : m + count < S.length) : (A.drop m).take count = (S.drop m).take count := by
  have hsame : A.take (m + count) = S.take (m + count) := by
    have hbelow := List.prefix_iff_eq_take.1 h
    rw [List.dropLast_eq_take, List.length_take, Nat.min_eq_left (Nat.sub_le _ _)] at hbelow
    have := congrArg (List.take (m + count)) hbelow
    rwa [List.take_take, List.take_take, Nat.min_eq_left (by omega), eq_comm] at this
  have hdrop := congrArg (List.drop m) hsame
  rwa [List.drop_take, List.drop_take, Nat.add_sub_cancel_left] at hdrop

/-! ## Connecting what was fetched -/

section
variable {m : Nat} {P : Progress TipUpdate TipOutcome × Synchronizer → Prop}
  (hreach : Reaches size S m T) (hfit : start + T.length ≤ heightLimit)
  (h : s.store.Has start size (T.take m) pinned)

include hreach hfit h

/-- The next `k` headers of the server are connected, up to the first that the chain does not take.
-/
theorem connectFetched_of_reaches {k : Nat} (hk : m + k ≤ S.length) (height : Nat)
    (next : Synchronizer → Progress TipUpdate TipOutcome × Synchronizer)
    (hnext : m + k ≤ T.length → ∀ t, t.Has start size (T.take (m + k)) pinned →
      t.synced = s.store.synced → P (next { s with store := t }))
    (hbroken : T.length < m + k → ∀ t, t.Has start size T pinned → t.synced = s.store.synced →
      P ({ s with store := t }.settle work (.broken t.nextHeight))) :
    P (s.connectFetched work height (((S.drop m).take k).map .ok) next) := by
  have hle := hreach.le
  obtain ⟨rest, hall, hstop⟩ := hreach.exists_take_eq k
  have hjoin : T.take m ++ (T.drop m).take k = T.take (m + k) := List.take_add.symm
  have hnew : Chained size (T.take m ++ (T.drop m).take k) := hjoin ▸ hreach.chained.take _
  have hfit' : start + (T.take m ++ (T.drop m).take k).length ≤ heightLimit := by
    rw [hjoin, List.length_take]
    omega
  have hlen := congrArg List.length hall
  rw [List.length_append, List.length_take, List.length_take, List.length_drop,
    List.length_drop] at hlen
  rw [connectFetched, hall, List.map_append]
  cases rest with
  | nil =>
    obtain ⟨t, he, ht, hsync⟩ := h.connectAll hnew hfit' height
    rw [List.map_nil, List.append_nil, he]
    rw [List.length_nil] at hlen
    exact hnext (by omega) t (hjoin ▸ ht) hsync
  | cons above rest =>
    have hx := hstop above rfl
    obtain ⟨t, he, ht, hsync⟩ := h.connectAll_broken hnew hfit' (hjoin.symm ▸ hx) height
      (rest.map .ok)
    rw [List.map_cons, he]
    rw [List.length_cons] at hlen
    rw [hjoin, List.take_of_length_le (by omega)] at ht
    exact hbroken (by omega) t ht hsync

/-- The notified header is connected, if the chain takes it. -/
theorem connectNotified_of_reaches (hlast : S.getLast? = some last) (hm : m + 1 = S.length)
    (hwhole : S.length ≤ T.length → ∀ t, t.Has start size T pinned → t.synced = s.store.synced →
      P ({ s with store := t }.settle work .advanced))
    (hbroken : T.length < S.length → ∀ t, t.Has start size T pinned → t.synced = s.store.synced →
      P ({ s with store := t }.settle work (.broken t.nextHeight))) :
    P (s.connectNotified work last) := by
  have hle := hreach.le
  have htop : S.drop m = [last] := by
    obtain ⟨rest, rfl⟩ := List.getLast?_eq_some_iff.1 hlast
    exact List.drop_left' (by simpa using hm.symm)
  have hdrop := hreach.drop_eq
  rw [htop] at hdrop
  rw [connectNotified]
  rcases Nat.lt_or_ge m T.length with hlt | hge
  · have hless := hreach.length_sub_le
    have hall : T.take m ++ [last] = T := by
      rw [List.drop_eq_nil_of_le (show S.length ≤ T.length by omega), List.append_nil] at hdrop
      rw [hdrop, List.take_append_drop]
    obtain ⟨t, he, ht, hsync⟩ := h.connect (hall.symm ▸ hreach.chained) (hall.symm ▸ hfit)
    rw [he]
    exact hwhole (by omega) t (hall ▸ ht) hsync
  · obtain rfl : m = T.length := Nat.le_antisymm hle hge
    rw [List.take_length] at h
    have hx : continues T last = false := by
      refine hreach.stops last ?_
      rw [← List.head?_drop, htop]
      rfl
    rw [h.connect_broken hx]
    exact hbroken (by omega) s.store h rfl

end

/-! ## Fetching what is missing -/

section
variable {A : List BlockHeader} {m : Nat} (hS : Sized size A) (hbelow : S.dropLast <+: A)
  (hreach : Reaches size S m T) (hfit : start + T.length ≤ heightLimit)
  (htip : work.IsTipOf start size S) (hlast : S.getLast? = some last) (hm : m < S.length)
  (h : s.store.Has start size (T.take m) pinned)
  (hwhole : S.length ≤ T.length → ∀ t, t.Has start size T pinned → t.synced = s.store.synced →
    TipUpdate.machine.Ends source ({ s with store := t }.settle work .advanced) Q)
  (hbroken : T.length < S.length → ∀ t, t.Has start size T pinned → t.synced = s.store.synced →
    TipUpdate.machine.Ends source ({ s with store := t }.settle work (.broken t.nextHeight)) Q)

include hbelow hreach hfit htip hlast hm h hwhole hbroken

include hS in
/-- Headers are fetched in batches, none of which is wider than the server's cap, until the tip
connects, or a header does not. The induction is on how many the chain still takes. -/
theorem ends_nextBatch (hserves : Serves source start A cap)
    (hcap : ∀ most ∈ cap, min (work.height - (start + m)) (max s.settings.chunkSize 1) ≤ most) :
    TipUpdate.machine.Ends source (s.nextBatch work last (start + m)) Q := by
  have hheight := htip.height_eq
  have hless := hbelow.length_le
  rw [List.length_dropLast] at hless
  induction hd : T.length - m using Nat.strongRecOn generalizing m s with
  | ind d ih =>
    rw [nextBatch]
    by_cases hmore : start + m < work.height
    · rw [if_pos hmore]
      generalize hcount : min (work.height - (start + m)) (max s.settings.chunkSize 1) = count
        at hcap
      refine ends_batch hserves hS h (by omega) hcap ?_
      rw [take_drop_eq_of_below hbelow (by omega)]
      refine connectFetched_of_reaches (P := fun p => TipUpdate.machine.Ends source p Q) hreach hfit
        h (by omega) _ _ (fun hle t ht hsync => ?_)
        fun hlt t ht hsync => hbroken (by omega) t ht hsync
      rw [Nat.add_assoc]
      exact ih (T.length - (m + count)) (by omega) (s := { s with store := t })
        (hreach.of_le (by omega) hle) (by omega) ht
        (fun hle u hu husync => hwhole hle u hu (husync.trans hsync))
        (fun hlt u hu husync => hbroken hlt u hu (husync.trans hsync))
        (fun most hmost => Nat.le_trans (by dsimp only; omega) (hcap most hmost)) rfl
    · rw [if_neg hmore]
      exact connectNotified_of_reaches (P := fun p => TipUpdate.machine.Ends source p Q) hreach hfit
        h hlast (by omega) hwhole hbroken

/-- Headers are fetched one by one until the tip connects, or a header does not. -/
theorem ends_nextSingle (hsingly : ServesSingly source start size A) :
    TipUpdate.machine.Ends source (s.nextSingle work last (start + m)) Q := by
  have hheight := htip.height_eq
  have hless := hbelow.length_le
  rw [List.length_dropLast] at hless
  induction hd : S.length - m generalizing m s with
  | zero => omega
  | succ d ih =>
    rw [nextSingle]
    by_cases hmore : start + m < work.height
    · rw [if_pos hmore]
      refine ends_single hsingly h (by omega) ?_
      rw [take_drop_eq_of_below hbelow (by omega)]
      refine connectFetched_of_reaches (P := fun p => TipUpdate.machine.Ends source p Q) hreach hfit
        h (by omega) _ _ (fun hle t ht hsync => ?_)
        fun hlt t ht hsync => hbroken (by omega) t ht hsync
      exact ih (s := { s with store := t }) (hreach.of_le (by omega) hle) (by omega) ht
        (fun hle u hu husync => hwhole hle u hu (husync.trans hsync))
        (fun hlt u hu husync => hbroken hlt u hu (husync.trans hsync)) (by omega)
    · rw [if_neg hmore]
      exact connectNotified_of_reaches (P := fun p => TipUpdate.machine.Ends source p Q) hreach hfit
        h hlast (by omega) hwhole hbroken

end

/-! ## One call -/

/-- **One call for a tip.** It stores what the chain takes of the headers below the tip and of the
tip itself, up to `T`. Then the tip is stored, if these are all; or the call gives up, if headers
have been taken away before and all would be taken away now; or it goes back, and the tip is to be
tried again. However the headers are fetched, it comes to the same. -/
theorem ends_beginTip {A : List BlockHeader} {m R : Nat} (hserves : Serves source start A none)
    (hsingly : ServesSingly source start size A) (hS : Sized size A) (hbelow : S.dropLast <+: A)
    (hreach : Reaches size S m T) (hfit : start + T.length ≤ heightLimit)
    (htip : work.IsTipOf start size S) (hm : m < S.length)
    (h : s.store.Has start size (T.take m) pinned) (hsync : s.store.synced = true)
    (hset : s.settings.rewind = R) (hR : 0 < R)
    (hwhole : S.length ≤ T.length → ∀ t : Synchronizer, t.store.Has start size T none →
      t.store.synced = true → Q (.ok .advanced) t)
    (hlow : T.length < S.length → pinned.isSome → T.length ≤ R → ∀ t : Synchronizer,
      t.store.Has start size T pinned →
      Q (.error (.exhausted t.store.tip t.store.startPoint)) t)
    (hback : T.length < S.length → (pinned.isSome → R < T.length) → ∀ t : Synchronizer,
      t.store.Has start size (T.take (T.length - R)) (pinAt pinned (start + (T.length - 1))) →
      t.store.synced = true → t.settings = s.settings →
      Q (.ok (.rewound { work with origin := .retry })) t) :
    TipUpdate.machine.Ends source (s.beginTip work) Q := by
  subst hset
  obtain ⟨last, hlast, hbegin⟩ := exists_beginTip_eq htip hm (List.length_take_of_le hreach.le) h
  have hstored (hle : S.length ≤ T.length) (t : Store) (ht : t.Has start size T pinned)
      (htsync : t.synced = s.store.synced) :
      TipUpdate.machine.Ends source ({ s with store := t }.settle work .advanced) Q :=
    ends_done (hwhole hle _ ht.unpinned (htsync.trans hsync))
  have hbroken (hlt : T.length < S.length) (t : Store) (ht : t.Has start size T pinned)
      (htsync : t.synced = s.store.synced) :
      TipUpdate.machine.Ends source
        ({ s with store := t }.settle work (.broken t.nextHeight)) Q := by
    have hne := hreach.ne_nil hlt
    rw [settle]
    by_cases hstop : pinned.isSome ∧ T.length ≤ s.settings.rewind
    · rw [rewind_of_low (s := { s with store := t }) ht hne hstop.1 hstop.2]
      exact ends_done (hlow hlt hstop.1 hstop.2 { s with store := t, phase := .exhausted } ht)
    · have hhigh : pinned.isSome → s.settings.rewind < T.length := fun hp =>
        Nat.lt_of_not_le fun hle => hstop ⟨hp, hle⟩
      obtain ⟨u, he, hu, husync⟩ := rewind_of_high (s := { s with store := t }) ht
        (htsync.trans hsync) hne hR hhigh
      rw [he]
      exact ends_done (hback hlt hhigh _ hu husync rfl)
  rw [hbegin]
  split
  · exact ends_nextBatch hS hbelow hreach hfit htip hlast hm h hstored hbroken hserves
      fun _ h => by cases h
  · exact ends_nextSingle hbelow hreach hfit htip hlast hm h hstored hbroken hsingly

end Synchronizer
end HeaderFollower
