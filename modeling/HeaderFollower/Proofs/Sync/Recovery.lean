/-
# When going back comes to an end

A server may have a header that does not link to the one below it. A follower that meets it goes
back, asks for the headers above once more, and may be given just those that it has taken away. Then
it meets the same header again, and so on for ever: going back gives up only where the headers that
are held have become few.

`settles` says by the headers alone whether a follower comes to an end. `recovery_ends` states that
it does so exactly then, with a server that answers each request in one way: a catch-up, and the
calls for a tip as well. For a follower that holds nothing but headers of the server it does if
these are all linked, or if the first that is not lies so low that one step back takes all away
(`settles_take_iff`).
-/

import HeaderFollower.Proofs.Sync.Agreement

namespace HeaderFollower

open BlockHeader Store Machine

variable {size m R : Nat} {S T hs : List BlockHeader} {again : Bool}

/-- Whether a follower that holds the chain `hs`, and goes back by `R` headers at a time, comes to
an end with a server that has the headers `S`. It does if it is given them all, or if it gives up,
for which it has to have gone back before. It does not if it is given back what it takes away. -/
def settles (R : Nat) (S : List BlockHeader) (again : Bool) (hs : List BlockHeader) : Bool :=
  if S.length ≤ (reached S hs).length then true
  else if again ∧ (reached S hs).length ≤ R then true
  else if again ∧ hs.length ≤ (reached S hs).length - R then false
  else settles R S true ((reached S hs).take ((reached S hs).length - R))
termination_by (if again then 0 else 1, hs.length)
decreasing_by
  cases again with
  | false => exact Prod.Lex.left _ _ Nat.one_pos
  | true =>
    refine Prod.Lex.right _ ?_
    simp only [true_and] at *
    rw [List.length_take]
    omega

/-- The same in terms of what is reached. -/
theorem settles_of_reaches (h : Reaches size S m T) (R : Nat) (again : Bool) :
    settles R S again (T.take m) =
      if S.length ≤ T.length then true
      else if again ∧ T.length ≤ R then true
      else if again ∧ m ≤ T.length - R then false
      else settles R S true (T.take (T.length - R)) := by
  rw [settles, List.length_take_of_le h.le, h.reached_eq]

/-- **A follower that holds headers of the server comes to an end exactly if all of them are linked,
or if the first that is not is reached within one step back from the bottom.** -/
theorem settles_take_iff (h : Reaches size S 0 T) (hm : m ≤ T.length) :
    settles R S again (T.take m) = true ↔ S.length ≤ T.length ∨ T.length ≤ R := by
  have hstuck (hlt : T.length < S.length) (hhigh : R < T.length) :
      settles R S true (T.take (T.length - R)) = false := by
    rw [settles_of_reaches (h.of_le (Nat.zero_le _) (Nat.sub_le _ R)), if_neg (by omega),
      if_neg (by simp; omega), if_pos (by simp)]
  have hlow (hle : T.length ≤ R) : settles R S true (T.take (T.length - R)) = true := by
    rw [settles_of_reaches (h.of_le (Nat.zero_le _) (Nat.sub_le _ R))]
    split
    · rfl
    · rw [if_pos ⟨rfl, hle⟩]
  rw [settles_of_reaches (h.of_le (Nat.zero_le m) hm)]
  by_cases hwhole : S.length ≤ T.length
  · rw [if_pos hwhole]
    exact iff_of_true rfl (.inl hwhole)
  · by_cases hle : T.length ≤ R
    · have hrest := hlow hle
      cases again with
      | false => simpa [hwhole, hle] using hrest
      | true => simp [hwhole, hle]
    · simp [hwhole, hle, hstuck (Nat.lt_of_not_le hwhole) (Nat.lt_of_not_le hle)]

/-! ## How a follower ends -/

/-- The end of a call: the store has all headers of the server, or the call gives up. A tip that is
behind the store may end the session. -/
def Settled {α : Type} (start size : Nat) (S : List BlockHeader) (r : Except SyncError α)
    (t : Synchronizer) : Prop :=
  ∃ T pinned, t.store.Has start size T pinned ∧
    match r with
    | .ok _ => S.length ≤ T.length
    | .error (.exhausted _ _) => T.length < S.length
    | .error (.staleSubscribe _ _) => S.length ≤ T.length
    | .error _ => False

variable {ω : Type} {source : Source ω} {start : Nat} {cap pinned : Option Nat}

/-! ## Catching up -/

namespace Synchronizer

variable {s : Synchronizer} {count : CatchUpCount}

section
variable (hserves : Serves source start S cap) (hcap : ∀ most ∈ cap, 0 < most) (hS : Sized size S)
  (hfit : start + S.length ≤ heightLimit) (hR : 0 < R)

include hserves hcap hS hfit hR

/-- One round from the headers that are held. -/
theorem awaits_reached {Φ : Progress CatchUp Nat × Synchronizer → Prop}
    (hΦ : CatchUp.machine.Inherits source Φ) (h : s.store.Has start size hs pinned)
    (hheld : start + hs.length ≤ heightLimit) (hset : s.settings.rewind = R)
    (hchunk : 0 < count.chunk)
    (hwhole : S.length ≤ (reached S hs).length → ∀ (t : Synchronizer) count,
      t.store.Has start size (reached S hs) pinned → Φ (t.finishCatchUp count))
    (hlow : (reached S hs).length < S.length → pinned.isSome → (reached S hs).length ≤ R →
      ∀ t : Synchronizer, t.store.Has start size (reached S hs) pinned →
      Φ (.done (.error (.exhausted t.store.tip t.store.startPoint)), t))
    (hback : (reached S hs).length < S.length → (pinned.isSome → R < (reached S hs).length) →
      ∀ (t : Synchronizer) count pin, 0 < count.chunk → t.settings.rewind = R →
      t.store.Has start size ((reached S hs).take ((reached S hs).length - R)) (some pin) →
      Φ (t.nextRequest count)) :
    CatchUp.machine.Awaits source Φ (s.nextRequest count) := by
  obtain ⟨hreach, hsame⟩ := reaches_reached (h.headerSize_eq ▸ h.chained) hS
  have hless := hreach.length_sub_le
  exact awaits_round hΦ hserves hcap hS hreach (by omega) (by rwa [hsame]) hset hR hchunk
    (fun hle _ t ht => hwhole hle { s with store := t } _ ht)
    (fun hlt hp hle t ht => hlow hlt hp hle { s with store := t, phase := .exhausted } ht)
    fun hlt hhigh _ t hpos ht =>
      hback hlt hhigh { s with store := t, phase := .reorgRecovering } _ _ hpos hset ht

/-- A catch-up ends where going back does. -/
theorem ends_of_settles (hsettles : settles R S again hs = true)
    (h : s.store.Has start size hs pinned) (hagain : pinned.isSome = again)
    (hheld : start + hs.length ≤ heightLimit) (hset : s.settings.rewind = R)
    (hchunk : 0 < count.chunk) :
    CatchUp.machine.Ends source (s.nextRequest count) (Settled start size S) := by
  have hless := (reaches_reached (h.headerSize_eq ▸ h.chained) hS).1.length_sub_le
  induction again, hs using settles.induct R S generalizing s count pinned with
  | case1 again hs hwhole =>
    refine inherits_ends _ (awaits_reached hserves hcap hS hfit hR inherits_ends h hheld hset hchunk
      (fun _ t count ht => ?_) (fun hlt => by omega) fun hlt => by omega)
    refine (ends_finishCatchUp ht (by omega)).imp ?_
    rintro r u ⟨rfl, hu, -⟩
    exact ⟨_, _, hu, hwhole⟩
  | case2 again hs hmore hlow =>
    refine inherits_ends _ (awaits_reached hserves hcap hS hfit hR inherits_ends h hheld hset hchunk
      (fun hle => absurd hle hmore) (fun hlt _ _ t ht => ends_done ⟨_, _, ht, hlt⟩)
      fun _ hhigh => ?_)
    have := hhigh (hagain.trans hlow.1)
    omega
  | case3 again hs hmore hhigh hstuck =>
    rw [settles, if_neg hmore, if_neg hhigh, if_pos hstuck] at hsettles
    cases hsettles
  | case4 again hs hmore hhigh hfree ih =>
    rw [settles, if_neg hmore, if_neg hhigh, if_neg hfree] at hsettles
    refine inherits_ends _ (awaits_reached hserves hcap hS hfit hR inherits_ends h hheld hset hchunk
      (fun hle => absurd hle hmore) (fun _ hp hle => absurd ⟨hagain.symm.trans hp, hle⟩ hhigh)
      fun hlt _ t count pin hpos htset ht => ?_)
    exact ih hsettles ht rfl (by rw [List.length_take]; omega) htset hpos
      (reaches_reached (ht.headerSize_eq ▸ ht.chained) hS).1.length_sub_le

omit hfit in
/-- **A catch-up that is given back what it takes away never ends.** It comes again and again to a
part of the same chain, and reaches the whole of it each time. -/
theorem lasts_of_stuck (hreach : Reaches size S m T) (hlt : T.length < S.length)
    (hT : start + T.length ≤ heightLimit) (hm : m ≤ T.length - R) (hhigh : R < T.length)
    (h : s.store.Has start size (T.take m) pinned) (hagain : pinned.isSome)
    (hset : s.settings.rewind = R) (hchunk : 0 < count.chunk) (n : Nat) :
    CatchUp.machine.Lasts source n (s.nextRequest count) := by
  refine lasts_of_recurs (I := fun p => ∃ (t : Synchronizer) (count : CatchUpCount) (pin k : Nat),
    p = t.nextRequest count ∧ 0 < count.chunk ∧ t.settings.rewind = R ∧ m ≤ k ∧ k ≤ T.length ∧
      t.store.Has start size (T.take k) (some pin)) ?_ ?_ n
  · rintro _ ⟨t, count, pin, k, rfl, hpos, htset, hmk, hk, ht⟩ Φ hΦ hI
    refine awaits_round hΦ hserves hcap hS (hreach.of_le hmk hk) hT ht htset hR hpos
      (fun hle => by omega) (fun _ _ hle => by omega) fun _ _ chunk u hpos hu => ?_
    exact hI _ ⟨_, _, _, _, rfl, hpos, htset, hm, Nat.sub_le _ _, hu⟩
  · obtain ⟨pin, rfl⟩ := Option.isSome_iff_exists.1 hagain
    exact ⟨s, count, pin, m, rfl, hchunk, hset, Nat.le_refl m, hreach.le, h⟩

/-- A catch-up does not end where going back does not. -/
theorem lasts_of_not_settles (hsettles : settles R S again hs = false)
    (h : s.store.Has start size hs pinned) (hagain : pinned.isSome = again)
    (hheld : start + hs.length ≤ heightLimit) (hset : s.settings.rewind = R)
    (hchunk : 0 < count.chunk) (n : Nat) :
    CatchUp.machine.Lasts source n (s.nextRequest count) := by
  obtain ⟨hreach, hsame⟩ := reaches_reached (h.headerSize_eq ▸ h.chained) hS
  have hless := hreach.length_sub_le
  induction again, hs using settles.induct R S generalizing s count pinned with
  | case1 again hs hwhole =>
    rw [settles, if_pos hwhole] at hsettles
    cases hsettles
  | case2 again hs hmore hlow =>
    rw [settles, if_neg hmore, if_pos hlow] at hsettles
    cases hsettles
  | case3 again hs hmore hhigh hstuck =>
    refine lasts_of_stuck hserves hcap hS hR hreach (Nat.lt_of_not_le hmore) (by omega)
      hstuck.2 (Nat.lt_of_not_le fun hle => hhigh ⟨hstuck.1, hle⟩) (by rwa [hsame])
      (hagain.trans hstuck.1) hset hchunk n
  | case4 again hs hmore hhigh hfree ih =>
    rw [settles, if_neg hmore, if_neg hhigh, if_neg hfree] at hsettles
    refine inherits_lasts n _ (awaits_reached hserves hcap hS hfit hR (inherits_lasts n) h hheld
      hset hchunk (fun hle => absurd hle hmore)
      (fun _ hp hle => absurd ⟨hagain.symm.trans hp, hle⟩ hhigh)
      fun hlt _ t count pin hpos htset ht => ?_)
    obtain ⟨hreach', hsame'⟩ := reaches_reached (ht.headerSize_eq ▸ ht.chained) hS
    exact ih hsettles ht rfl (by rw [List.length_take]; omega) htset hpos hreach' hsame'
      hreach'.length_sub_le

end

end Synchronizer

/-! ## Handling a tip -/

/-- The end of a call that has gone back to the chain `hs`: the tip is to be tried again. -/
structure SteppedBack (start size R : Nat) (hs : List BlockHeader) (work : TipWork)
    (r : Except SyncError TipOutcome) (t : Synchronizer) : Prop where
  result : r = .ok (.rewound { work with origin := .retry })
  held : ∃ pin, t.store.Has start size hs (some pin)
  synced : t.store.synced = true
  rewind_eq : t.settings.rewind = R

/-- The end of a call after which nothing is tried again. -/
def Final (start size : Nat) (S : List BlockHeader) (r : Except SyncError TipOutcome)
    (t : Synchronizer) : Prop := (∀ q, requeue q r = q) ∧ Settled start size S r t

theorem SteppedBack.exists_pop? {q : BoundedQueue TipWork} {work : TipWork}
    {r : Except SyncError TipOutcome} {t : Synchronizer} (h : SteppedBack start size R hs work r t)
    (hq : q.items = []) (hcap : 1 ≤ q.capacity) :
    ∃ rest, (requeue q r).pop? = some ({ work with origin := .retry }, rest) ∧ rest.items = [] ∧
      1 ≤ rest.capacity := by
  rw [h.result]
  exact exists_pop?_requeue hq hcap _

theorem handlesAll_of_final {s : Synchronizer} {work : TipWork} {q : BoundedQueue TipWork}
    (h : TipUpdate.machine.Ends source (s.beginTip work) (Final start size S)) (hq : q.items = []) :
    HandlesAll source q work s (Settled start size S) :=
  handlesAll_last h fun r t ht => ⟨by rw [ht.1, pop?_of_items_eq_nil hq], ht.2⟩

section
variable {A : List BlockHeader} {s : Synchronizer} {work : TipWork} {q : BoundedQueue TipWork}
  (hserves : Serves source start A none) (hsingly : ServesSingly source start size A)
  (hA : Sized size A) (hbelow : S.dropLast <+: A) (hfit : start + S.length ≤ heightLimit)
  (hR : 0 < R)

include hserves hsingly hA hbelow hfit hR

/-- **The calls for a tip that are given back what they take away never end.** The induction is on
the number of calls; each comes to a part of the same chain, and reaches the whole of it. -/
theorem handleAll_eq_none_of_stuck (hreach : Reaches size S m T) (hlt : T.length < S.length)
    (hm : m ≤ T.length - R) (hhigh : R < T.length) (htip : work.IsTipOf start size S)
    (h : s.store.Has start size (T.take m) pinned) (hsync : s.store.synced = true)
    (hset : s.settings.rewind = R) (hq : q.items = []) (hcap : 1 ≤ q.capacity) (fuel : Nat)
    (w : ω) : (handleAll source fuel q work s w).1 = none := by
  induction fuel generalizing m s work q pinned w with
  | zero => rfl
  | succ fuel ih =>
    have hends : TipUpdate.machine.Ends source (s.beginTip work)
        (SteppedBack start size R (T.take (T.length - R)) work) :=
      Synchronizer.ends_beginTip hserves hsingly hA hbelow hreach (by omega) htip (by omega) h hsync
        hset hR (fun hle => by omega) (fun _ _ hle => by omega)
        fun _ _ t ht htsync htset => ⟨rfl, ⟨_, ht⟩, htsync, by rw [htset, hset]⟩
    refine handleAll_eq_none hends (fun r t ht => ?_) w
    obtain ⟨rest, hpop, hrest, hroom⟩ := ht.exists_pop? hq hcap
    obtain ⟨pin, hheld⟩ := ht.held
    exact ⟨_, rest, hpop, ih (hreach.of_le hm (Nat.sub_le _ _)) (Nat.le_refl _) htip.retry hheld
      ht.synced ht.rewind_eq hrest hroom⟩

variable (hS : Sized size S) (hne : S ≠ [])

include hS hne

/-- One call from the headers that are held. -/
theorem ends_beginTip_reached {Q : Except SyncError TipOutcome → Synchronizer → Prop}
    (htip : work.IsTipOf start size S) (h : s.store.Has start size hs pinned)
    (hsync : s.store.synced = true) (hset : s.settings.rewind = R)
    (hfinal : S.length ≤ (reached S hs).length ∨ pinned.isSome ∧ (reached S hs).length ≤ R →
      ∀ r t, Final start size S r t → Q r t)
    (hback : (reached S hs).length < S.length → (pinned.isSome → R < (reached S hs).length) →
      ∀ r t, SteppedBack start size R ((reached S hs).take ((reached S hs).length - R)) work r t →
      Q r t) :
    TipUpdate.machine.Ends source (s.beginTip work) Q := by
  obtain ⟨hreach, hsame⟩ := reaches_reached (h.headerSize_eq ▸ h.chained) hS
  have hless := hreach.length_sub_le
  rcases Nat.lt_or_ge hs.length S.length with hlt | hge
  · exact Synchronizer.ends_beginTip hserves hsingly hA hbelow hreach (by omega) htip hlt
      (by rwa [hsame]) hsync hset hR
      (fun hle t ht _ => hfinal (.inl hle) _ t ⟨fun _ => rfl, _, _, ht, hle⟩)
      (fun hlt hp hle t ht => hfinal (.inr ⟨hp, hle⟩) _ t ⟨fun _ => rfl, _, _, ht, hlt⟩)
      fun hlt hhigh t ht htsync htset =>
        hback hlt hhigh _ t ⟨rfl, ⟨_, ht⟩, htsync, by rw [htset, hset]⟩
  · -- The tip is at a height that is held.
    have hpos := List.length_pos_iff.2 hne
    have hheight := htip.height_eq
    have hbegin : s.beginTip work = (.done (s.onStale work), s) := by
      rw [Synchronizer.beginTip, h.nextHeight, h.startPoint_eq, if_neg (by omega),
        if_pos (by omega)]
    rw [hbegin]
    refine ends_done (hfinal (.inl (hge.trans hreach.le)) _ s ?_)
    rw [Synchronizer.onStale]
    split
    · exact ⟨fun _ => rfl, _, _, h, hge⟩
    · split
      · exact ⟨fun _ => rfl, _, _, h, hge⟩
      · exact ⟨fun _ => rfl, _, _, h, hge⟩

/-- All calls for a tip end where going back does. -/
theorem handlesAll_of_settles (hsettles : settles R S again hs = true)
    (htip : work.IsTipOf start size S) (h : s.store.Has start size hs pinned)
    (hagain : pinned.isSome = again) (hsync : s.store.synced = true)
    (hset : s.settings.rewind = R) (hq : q.items = []) (hcap : 1 ≤ q.capacity) :
    HandlesAll source q work s (Settled start size S) := by
  induction again, hs using settles.induct R S generalizing s work q pinned with
  | case1 again hs hwhole =>
    exact handlesAll_of_final (ends_beginTip_reached hserves hsingly hA hbelow hfit hR hS hne htip h
      hsync hset (fun _ _ _ ht => ht) fun hlt => by omega) hq
  | case2 again hs hmore hlow =>
    refine handlesAll_of_final (ends_beginTip_reached hserves hsingly hA hbelow hfit hR hS hne htip
      h hsync hset (fun _ _ _ ht => ht) fun _ hhigh => ?_) hq
    have := hhigh (hagain.trans hlow.1)
    omega
  | case3 again hs hmore hhigh hstuck =>
    rw [settles, if_neg hmore, if_neg hhigh, if_pos hstuck] at hsettles
    cases hsettles
  | case4 again hs hmore hhigh hfree ih =>
    rw [settles, if_neg hmore, if_neg hhigh, if_neg hfree] at hsettles
    refine handlesAll_again (ends_beginTip_reached hserves hsingly hA hbelow hfit hR hS hne htip h
      hsync hset (fun hend => ?_) fun _ _ _ _ ht => ht) fun r t ht => ?_
    · rcases hend with hle | ⟨hp, hle⟩
      · exact absurd hle hmore
      · exact absurd ⟨hagain.symm.trans hp, hle⟩ hhigh
    · obtain ⟨rest, hpop, hrest, hroom⟩ := ht.exists_pop? hq hcap
      obtain ⟨pin, hheld⟩ := ht.held
      exact ⟨_, rest, hpop, ih hsettles htip.retry hheld rfl ht.synced ht.rewind_eq hrest hroom⟩

/-- The calls for a tip do not end where going back does not. -/
theorem handleAll_eq_none_of_not_settles (hsettles : settles R S again hs = false)
    (htip : work.IsTipOf start size S) (h : s.store.Has start size hs pinned)
    (hagain : pinned.isSome = again) (hsync : s.store.synced = true)
    (hset : s.settings.rewind = R) (hq : q.items = []) (hcap : 1 ≤ q.capacity) (fuel : Nat)
    (w : ω) : (handleAll source fuel q work s w).1 = none := by
  obtain ⟨hreach, hsame⟩ := reaches_reached (h.headerSize_eq ▸ h.chained) hS
  induction again, hs using settles.induct R S generalizing s work q pinned fuel w with
  | case1 again hs hwhole =>
    rw [settles, if_pos hwhole] at hsettles
    cases hsettles
  | case2 again hs hmore hlow =>
    rw [settles, if_neg hmore, if_pos hlow] at hsettles
    cases hsettles
  | case3 again hs hmore hhigh hstuck =>
    exact handleAll_eq_none_of_stuck hserves hsingly hA hbelow hfit hR hreach
      (Nat.lt_of_not_le hmore) hstuck.2 (Nat.lt_of_not_le fun hle => hhigh ⟨hstuck.1, hle⟩) htip
      (by rwa [hsame]) hsync hset hq hcap fuel w
  | case4 again hs hmore hhigh hfree ih =>
    rw [settles, if_neg hmore, if_neg hhigh, if_neg hfree] at hsettles
    cases fuel with
    | zero => rfl
    | succ fuel =>
      refine handleAll_eq_none (ends_beginTip_reached hserves hsingly hA hbelow hfit hR hS hne htip
        h hsync hset (fun hend => ?_) fun _ _ _ _ ht => ht) (fun r t ht => ?_) w
      · rcases hend with hle | ⟨hp, hle⟩
        · exact absurd hle hmore
        · exact absurd ⟨hagain.symm.trans hp, hle⟩ hhigh
      · obtain ⟨rest, hpop, hrest, hroom⟩ := ht.exists_pop? hq hcap
        obtain ⟨pin, hheld⟩ := ht.held
        obtain ⟨hreach', hsame'⟩ := reaches_reached (hheld.headerSize_eq ▸ hheld.chained) hS
        exact ⟨_, rest, hpop, fun v => ih hsettles htip.retry hheld rfl ht.synced ht.rewind_eq hrest
          hroom fuel v hreach' hsame'⟩

end

/-! ## Both -/

section
variable {s : Synchronizer} {L : List BlockHeader} (h : s.store.Has start size L pinned)
  (hR : 1 ≤ s.settings.rewind) (hS : Sized size S)

include h hR hS

/-- A catch-up with a server that has the headers `S`, linked or not. -/
theorem catchUp_ends (hheld : start + L.length ≤ heightLimit)
    (hfit : start + S.length ≤ heightLimit) (hserves : Serves source start S cap)
    (hcap : ∀ most ∈ cap, 1 ≤ most) :
    if settles s.settings.rewind S pinned.isSome L then
      CatchUp.machine.Ends source s.beginCatchUp (Settled start size S)
    else ∀ answers, CatchUp.machine.Lasts source answers s.beginCatchUp := by
  obtain ⟨t, ht, hbegin⟩ := Synchronizer.beginCatchUp_eq h hheld
  have hchunk : 0 < max s.settings.chunkSize 1 :=
    Nat.lt_of_lt_of_le Nat.one_pos (Nat.le_max_right _ 1)
  rw [hbegin]
  split
  · next hsettles =>
    exact Synchronizer.ends_of_settles (s := { s with store := t, phase := .bulkSync }) hserves hcap
      hS hfit hR hsettles ht rfl hheld rfl hchunk
  · next hsettles =>
    exact Synchronizer.lasts_of_not_settles (s := { s with store := t, phase := .bulkSync }) hserves
      hcap hS hfit hR (Bool.eq_false_iff.2 hsettles) ht rfl hheld rfl hchunk

/-- The calls for a tip on top of `n` headers of such a server. -/
theorem tip_ends (hfit : start + S.length < heightLimit) (hserves : Serves source start S none)
    (hsingly : ServesSingly source start size S) (hsync : s.store.synced = true) {work : TipWork}
    {n : Nat} (hn : n ≤ S.length) (hheight : work.height = start + n) {tip : BlockHeader}
    (hheader : ofHex size work.hex = .ok tip) {q : BoundedQueue TipWork} (hq : q.items = [])
    (hroom : 1 ≤ q.capacity) :
    if settles s.settings.rewind (S.take n ++ [tip]) pinned.isSome L then
      HandlesAll source q work s (Settled start size (S.take n ++ [tip]))
    else ∀ calls w, (handleAll source calls q work s w).1 = none := by
  have hlen : (S.take n ++ [tip]).length = n + 1 := by
    rw [List.length_append, List.length_take_of_le hn, List.length_singleton]
  have htip : work.IsTipOf start size (S.take n ++ [tip]) := by
    refine ⟨by omega, fun last hlast => ?_⟩
    rw [List.getLast?_concat] at hlast
    cases hlast
    exact hheader
  have hbelow : (S.take n ++ [tip]).dropLast <+: S := by
    rw [List.dropLast_concat]
    exact List.take_prefix n S
  have hsized : Sized size (S.take n ++ [tip]) :=
    sized_append.2 ⟨hS.take n, List.forall_mem_singleton.2 (length_raw_of_ofHex hheader)⟩
  have hne : S.take n ++ [tip] ≠ [] := List.append_ne_nil_of_right_ne_nil _ (List.cons_ne_nil _ _)
  split
  · next hsettles =>
    exact handlesAll_of_settles hserves hsingly hS hbelow (by omega) hR hsized hne hsettles htip h
      rfl hsync rfl hq hroom
  · next hsettles =>
    exact handleAll_eq_none_of_not_settles hserves hsingly hS hbelow (by omega) hR hsized hne
      (Bool.eq_false_iff.2 hsettles) htip h rfl hsync rfl hq hroom

/-- **With a server that answers each request in one way a follower comes to an end exactly if going
back does.** The server has the headers `S`, linked or not, and the store holds the chain `L`. A
catch-up ends with all headers, or gives up, if `settles` says so, and never ends otherwise. The
same holds of the calls for a tip, which stands on top of `n` of the server's headers. -/
theorem recovery_ends (hheld : start + L.length ≤ heightLimit)
    (hfit : start + S.length < heightLimit) (hserves : Serves source start S cap)
    (hcap : ∀ most ∈ cap, 1 ≤ most)
    (hsingly : ServesSingly source start size S) :
    (if settles s.settings.rewind S pinned.isSome L then
        CatchUp.machine.Ends source s.beginCatchUp (Settled start size S)
      else ∀ answers, CatchUp.machine.Lasts source answers s.beginCatchUp) ∧
    ∀ (work : TipWork) (n : Nat) (tip : BlockHeader) (q : BoundedQueue TipWork), cap = none →
      s.store.synced = true → n ≤ S.length → work.height = start + n →
      ofHex size work.hex = .ok tip → q.items = [] → 1 ≤ q.capacity →
      if settles s.settings.rewind (S.take n ++ [tip]) pinned.isSome L then
        HandlesAll source q work s (Settled start size (S.take n ++ [tip]))
      else ∀ calls w, (handleAll source calls q work s w).1 = none := by
  refine ⟨catchUp_ends h hR hS hheld (Nat.le_of_lt hfit) hserves hcap, ?_⟩
  rintro work n tip q rfl hsync hn hheight hheader hq hroom
  exact tip_ends h hR hS hfit hserves hsingly hsync hn hheight hheader hq hroom

end

/-- A synchronizer that goes back by one header at a time and holds the lower of two headers. -/
def halfway : Synchronizer := .start { rewind := 1 } (holdingOne lowestHeader) (.start 1)

theorem has_halfway : halfway.store.Has 0 80 [lowestHeader] none :=
  ⟨holds_holdingOne lowestHeader, rfl, length_fieldBytes _ _ _ _ _ _, fun _ _ => rfl, rfl⟩

theorem recovery_ends_halfway :
    CatchUp.machine.Ends (honest 0 [lowestHeader, upperHeader] none) halfway.beginCatchUp
      (Settled 0 80 [lowestHeader, upperHeader]) := by
  have hsettles : settles halfway.settings.rewind [lowestHeader, upperHeader]
      (none : Option Nat).isSome [lowestHeader] = true :=
    (settles_take_iff (m := 1) (chained_pair.reaches (Nat.zero_le _)) (by decide)).2
      (.inl (Nat.le_refl _))
  have hends := (recovery_ends has_halfway (Nat.le_refl 1) chained_pair.sized (by decide)
    (by decide) (serves_honest 0 [lowestHeader, upperHeader] none) (fun _ h => by cases h)
    (servesSingly_honest 0 chained_pair.sized none)).1
  rwa [if_pos hsettles] at hends

/-! ## A header that never links -/

/-- The headers of a server of which the third does not link to the second. -/
def unlinkedThree : List BlockHeader := [lowestHeader, upperHeader, upperHeader]

theorem sized_unlinkedThree : Sized 80 unlinkedThree :=
  sized_append.2 ⟨chained_pair.sized,
    List.forall_mem_singleton.2 (length_fieldBytes _ _ _ _ _ _)⟩

/-- Two of the three headers are reached. -/
theorem reaches_unlinkedThree : Reaches 80 unlinkedThree 0 [lowestHeader, upperHeader] :=
  ⟨chained_pair, Nat.zero_le _, List.prefix_append [lowestHeader, upperHeader] [upperHeader],
    by rintro above ⟨⟩; exact not_continues_pair⟩

theorem not_settles_unlinkedThree :
    ¬ settles halfway.settings.rewind unlinkedThree (none : Option Nat).isSome [lowestHeader] :=
  (settles_take_iff (m := 1) reaches_unlinkedThree (by decide)).not.2 (by decide)

/-- **A header that never links is fetched for ever**: by a catch-up, and by the calls for it as a
tip, though the server's answers never change. -/
theorem recovery_endless :
    (∀ answers w, (CatchUp.machine.run (honest 0 unlinkedThree none) answers
      halfway.beginCatchUp w).1 = none) ∧
    ∀ calls w, (handleAll (honest 0 unlinkedThree none) calls (.empty 8)
      ⟨2, upperHeader.toHex, .notification⟩ halfway w).1 = none := by
  have hcatchUp := catchUp_ends has_halfway (Nat.le_refl 1) sized_unlinkedThree (by decide)
    (by decide) (serves_honest 0 unlinkedThree none) (fun _ h => by cases h)
  have htip := tip_ends has_halfway (Nat.le_refl 1) sized_unlinkedThree (by decide)
    (serves_honest 0 unlinkedThree none) (servesSingly_honest 0 sized_unlinkedThree none) rfl
    (n := 2) (by decide) (show TipWork.height ⟨2, upperHeader.toHex, .notification⟩ = _ from rfl)
    (ofHex_toHex upperHeader) (q := .empty 8) rfl (by decide)
  rw [if_neg not_settles_unlinkedThree] at hcatchUp
  rw [if_neg (show ¬ settles halfway.settings.rewind (unlinkedThree.take 2 ++ [upperHeader])
    (none : Option Nat).isSome [lowestHeader] from not_settles_unlinkedThree)] at htip
  exact ⟨hcatchUp, htip⟩

/-! ## A catch-up that goes back -/

/-- While the session cost is low, the next request is made at once. -/
theorem Synchronizer.resumeCatchUp_asking (s : Synchronizer) (count : CatchUpCount) :
    s.resumeCatchUp (.asking count 0) false =
      (.waiting (.fetching count s.store.nextHeight), s) := by
  rw [resumeCatchUp, if_neg fun h => Bool.false_ne_true h.1]

/-- A batch has a header that does not continue the chain: those before it are stored, the topmost
headers are taken away, and the catch-up asks again. -/
theorem Synchronizer.takeBatch_of_break {s : Synchronizer} {start width : Nat}
    {pinned : Option Nat} {count : CatchUpCount} {batch : HeaderBatch}
    (hreach : Reaches size S m T) (hS : Sized size S) (hfit : start + T.length ≤ heightLimit)
    (h : s.store.Has start size (T.take m) pinned) (hR : 0 < s.settings.rewind)
    (hhigh : pinned.isSome → s.settings.rewind < T.length) (hwidth : width ≤ count.chunk)
    (hcarries : batch.Carries ((S.drop m).take width)) (hbreak : T.length - m < batch.count)
    (hlt : T.length < S.length) :
    ∃ t, s.takeBatch count (start + m) batch =
        Synchronizer.nextRequest { s with store := t, phase := .reorgRecovering }
          ⟨count.chunk, count.fetched + (T.length - m), 0⟩ ∧
      t.Has start size (T.take (T.length - s.settings.rewind))
        (pinAt pinned (start + (T.length - 1))) ∧ t.synced = true := by
  have hne := hreach.ne_nil hlt
  have hcount : batch.count ≤ width := by
    rw [hcarries.count_eq, List.length_take]
    exact Nat.min_le_left _ _
  have hlinked : min width (T.length - m) = T.length - m := by omega
  obtain ⟨t, he, ht⟩ := Synchronizer.takeBatch_of_reaches hreach hS hfit h hwidth hcarries
  rw [hlinked, Nat.add_sub_cancel' hreach.le, List.take_length] at ht
  obtain ⟨u, hu, husync, hgo⟩ := Synchronizer.goBack_eq (s := { s with store := t }) ht hfit
    ⟨count.chunk, count.fetched + (T.length - m), count.sinceRewind + (T.length - m)⟩
  obtain ⟨v, hback, hv, hvsync⟩ := Synchronizer.rewind_of_high (s := { s with store := u }) hu
    husync hne hR hhigh
  refine ⟨v, ?_, hv, hvsync⟩
  rw [he, hlinked, Synchronizer.afterBatch, if_pos hbreak, hgo, hback]
  rfl

/-- A batch of three headers, of which the third does not link to the second. -/
def unlinkedBatch : HeaderBatch := ⟨3, Hex.encode (concat unlinkedThree), none⟩

theorem carries_unlinkedBatch : unlinkedBatch.Carries ((unlinkedThree.drop 0).take 3) :=
  ⟨rfl, Hex.decode_encode _⟩

/-- A catch-up over an empty file that gets this batch goes back. -/
theorem Synchronizer.takeBatch_unlinkedBatch {s : Synchronizer} (h : s.store.Has 0 80 [] none)
    (hR : 0 < s.settings.rewind) :
    ∃ t, s.takeBatch ⟨2016, 0, 0⟩ 0 unlinkedBatch =
        nextRequest { s with store := t, phase := .reorgRecovering } ⟨2016, 2, 0⟩ ∧
      t.synced = true := by
  have hwidth : 3 ≤ (⟨2016, 0, 0⟩ : CatchUpCount).chunk := by decide
  obtain ⟨t, htake, -, hsync⟩ := takeBatch_of_break reaches_unlinkedThree sized_unlinkedThree
    (by decide) h hR (fun h => by cases h) hwidth carries_unlinkedBatch (by decide) (by decide)
  exact ⟨t, htake, hsync⟩

end HeaderFollower
