/-
# Which changes of the tip are told

A call for a tip emits an event when it has connected the tip, and at no other time. But the headers
that it connects on the way there stay connected, so a call that fails, or meets a header that does
not connect, may leave a higher tip behind than it has found. `Synchronizer.announced_iff` says for
which calls the subscriber is told all that readers see: those that store the tip, and those that
have written no header above the visible tip.

What a call writes is read off the changes of the file (`Store.written`), so headers that are taken
away again count.
-/

import HeaderFollower.Proofs.Sync.Capped
import HeaderFollower.Proofs.Sync.Outcome
import HeaderFollower.Proofs.Sync.VisibleTip

namespace HeaderFollower

open BlockHeader FileChange

/-- The bytes that a change puts at the end of the file. -/
def FileChange.written? : FileChange → Option (List UInt8)
  | .append bytes => some bytes
  | .shorten _ => none

namespace Store

variable {s t : Store} {hs new : List BlockHeader}

/-- What has been put at the end of the file since it was opened, the latest last. -/
def written (s : Store) : List (List UInt8) := s.file.changes.filterMap FileChange.written?

theorem written_afterChange (s : Store) (content : List UInt8) (c : FileChange) :
    (s.afterChange content c).written = s.written ++ c.written?.toList := by
  show (s.file.changes ++ [c]).filterMap FileChange.written? = _
  rw [List.filterMap_append]
  cases c with
  | append bytes => rfl
  | shorten length => rfl

/-- Headers that are connected come on top of those that a good store holds, and are written one by
one. The induction is on the headers that are connected. -/
theorem Connected.holds (h : s.Connected new t) (hold : s.Holds hs)
    (hfit : s.startPoint + (hs ++ new).length ≤ heightLimit) :
    t.Holds (hs ++ new) ∧ t.written = s.written ++ new.map raw := by
  induction h generalizing hs with
  | nil s =>
    rw [List.append_nil, List.map_nil, List.append_nil]
    exact ⟨hold, rfl⟩
  | @cons s u t x new hsize hconnect _ ih =>
    obtain ⟨hlinks, hextend, hprecedes, -⟩ := of_connect_advanced hconnect
    rw [List.append_cons] at hfit ⊢
    have hnew : Chained s.headerSize (hs ++ [x]) :=
      ⟨sized_append.2 ⟨hold.chained.sized, List.forall_mem_singleton.2 hsize⟩,
        linked_snoc_iff.2 ⟨hold.chained.linked, hold.connects_iff.1 hlinks⟩⟩
    have hone : s.startPoint + (hs ++ [x]).length ≤ heightLimit := by
      rw [List.length_append] at hfit
      omega
    obtain ⟨ix, v, hv, hstore, hheld⟩ := hold.storeOne_written hnew hone
    rcases hold.extend_cases hsize with ⟨text, -, hrefused⟩ | hdone
    · rw [hextend] at hrefused
      cases hrefused
    · obtain rfl : u = v := Except.ok.inj (hextend.symm.trans (hdone.trans (congrArg _ hstore)))
      have hwritten : u.written = s.written ++ [x.raw] := by
        rw [hv]
        exact (written_afterChange s _ _).trans (by rw [concat_cons, concat_nil, List.append_nil]; rfl)
      obtain ⟨hall, hmore⟩ := ih hheld (by rw [hprecedes.startPoint_eq]; exact hfit)
      refine ⟨hall, ?_⟩
      rw [hmore, hwritten, List.append_assoc]
      rfl

/-- While the pin stays, the visible tip stays exactly if the local tip does not rise above it. -/
theorem tip_eq_iff (hpin : t.pinned = s.pinned) (hlocal : TipLe s.localTip t.localTip) :
    t.tip = s.tip ↔ TipLe t.localTip s.tip := by
  constructor
  · intro h
    rw [← h]
    exact t.tipLe_tip.1
  · intro hle
    have hrises : TipLe s.tip t.tip :=
      tip_tipLe (hlocal.trans t.tipLe_tip.1) (hpin ▸ t.tipLe_tip.2)
    have hpinned : TipLe t.pinned s.tip := by
      rw [hpin]
      exact s.tipLe_tip.2
    exact (tip_tipLe hle hpinned).antisymm hrises

/-- Pinning the local tip hides what lies below it. -/
theorem tip_beginRecovery {tip : Nat} (htip : s.localTip = some tip) (hpin : t.pinned = s.pinned)
    (hlow : TipLe t.localTip (some tip)) : (t.beginRecovery tip).tip = s.tip := by
  have hunder : TipLe (some tip) s.tip := htip ▸ s.tipLe_tip.1
  have hpinned : TipLe (t.beginRecovery tip).pinned s.tip := by
    rw [beginRecovery, hpin]
    cases hp : s.pinned with
    | none => exact hunder
    | some p =>
      rw [tip_of_pinned hp, htip, TipLe.some_iff]
      exact ⟨_, rfl, Nat.le_of_eq (Nat.max_comm p tip)⟩
  have hlocal : TipLe (t.beginRecovery tip).localTip s.tip := hlow.trans hunder
  exact (tip_tipLe hlocal hpinned).antisymm (tipLe_beginRecovery htip hpin)

end Store

namespace Synchronizer

open Store

variable {ω : Type} {source : Machine.Source ω} {s t : Synchronizer} {hs : List BlockHeader}
  {work : TipWork}

/-- Going back is seen by no reader: the visible tip stays, nothing is written, nothing told. -/
theorem rewind_unseen (hold : s.store.Holds hs) :
    s.rewind.2.store.tip = s.store.tip ∧ s.rewind.2.store.written = s.store.written ∧
      s.rewind.2.events = s.events := by
  rw [rewind]
  split
  · exact ⟨rfl, rfl, rfl⟩
  next tip htip =>
  dsimp only
  split
  · exact ⟨rfl, rfl, rfl⟩
  rcases hold.goBack_cases htip s.settings.rewind with ⟨e, he, -⟩ | ⟨left, ix, u, he, rfl, hheld⟩
  · rw [he]
    exact ⟨rfl, rfl, rfl⟩
  · rw [he]
    have hlow : TipLe (topHeight s.store.startPoint (hs.take left)) (some tip) := by
      rw [← htip, hold.localTip_eq]
      refine .topHeight ?_
      rw [List.length_take]
      exact Nat.min_le_right _ _
    exact ⟨tip_beginRecovery htip rfl hlow,
      (written_afterChange s.store _ _).trans (List.append_nil _), rfl⟩

/-- If the visible tip of `t` is not that of `s`, the last event that was emitted in between carries
it. -/
def Announced (s t : Synchronizer) : Prop :=
  t.store.tip ≠ s.store.tip →
    ∃ emitted tip, t.events.tips.buffer.items = s.events.tips.buffer.items ++ emitted ∧
      emitted.getLast? = some tip ∧ t.store.tip = some tip

/-- An event reaches a subscriber who has room for it. -/
theorem items_emitTip {e : ChainEvents} (htaken : e.tips.subscription = .taken)
    (hroom : e.tips.buffer.items.length < e.tips.buffer.capacity) (tip : Nat) :
    (e.emitTip tip).tips.buffer.items = e.tips.buffer.items ++ [tip] := by
  rw [ChainEvents.emitTip, EventStream.emit, htaken]
  dsimp only
  rw [BoundedQueue.push?, dif_pos hroom]
  rfl

/-- What a call for a tip that has returned has told, and what it has left to be seen: `new` are the
headers that it has written. -/
structure Told (s : Synchronizer) (hs new : List BlockHeader) (r : Except SyncError TipOutcome)
    (t : Synchronizer) : Prop where
  written_eq : t.store.written = s.store.written ++ new.map raw
  /-- The tip that is stored is told. -/
  advanced : r = .ok .advanced → ∃ tip, t.store.tip = some tip ∧ t.events = s.events.emitTip tip
  /-- Nothing else is told, and readers see the headers that have been written. -/
  other : r ≠ .ok .advanced → t.events = s.events ∧ TipLe s.store.tip t.store.tip ∧
    (t.store.tip = s.store.tip ↔ TipLe (topHeight s.store.startPoint (hs ++ new)) s.store.tip)

/-- Some headers, or none, are connected on top of those that a good store holds. -/
theorem told_of_connected {new : List BlockHeader} {u : Store} (hold : s.store.Holds hs)
    (h : s.store.Connected new u)
    (hfit : new ≠ [] → s.store.startPoint + (hs ++ new).length ≤ heightLimit) :
    u.Holds (hs ++ new) ∧ u.written = s.store.written ++ new.map raw ∧ TipLe s.store.tip u.tip ∧
      (u.tip = s.store.tip ↔ TipLe (topHeight s.store.startPoint (hs ++ new)) s.store.tip) := by
  have hboth : u.Holds (hs ++ new) ∧ u.written = s.store.written ++ new.map raw := by
    cases new with
    | nil =>
      cases h
      rw [List.append_nil, List.map_nil, List.append_nil]
      exact ⟨hold, rfl⟩
    | cons x rest => exact h.holds hold (hfit (List.cons_ne_nil x rest))
  obtain ⟨hheld, hwritten⟩ := hboth
  have hstart : u.startPoint = s.store.startPoint := h.precedes.startPoint_eq
  have hlocal : TipLe s.store.localTip u.localTip := by
    rw [hold.localTip_eq, hheld.localTip_eq, hstart]
    exact .topHeight (by simp)
  have hpin : TipLe s.store.pinned u.tip := by
    rw [← h.flags.2]
    exact u.tipLe_tip.2
  refine ⟨hheld, hwritten, tip_tipLe (hlocal.trans u.tipLe_tip.1) hpin, ?_⟩
  rw [tip_eq_iff h.flags.2 hlocal, hheld.localTip_eq, hstart]

/-- **What a call for a tip tells, and what it leaves to be seen.** -/
theorem exists_told (hold : s.store.Holds hs) (hheight : work.height < heightLimit)
    {fuel : Nat} {w v : ω} {r : Except SyncError TipOutcome}
    (hrun : TipUpdate.machine.run source fuel (s.beginTip work) w = (some r, t, v)) :
    ∃ new, Told s hs new r t := by
  have hnext := hold.nextHeight_eq
  have hfit (new : List BlockHeader) (hle : new.length ≤ work.height + 1 - s.store.nextHeight)
      (hne : new ≠ []) : s.store.startPoint + (hs ++ new).length ≤ heightLimit := by
    have hpos := List.length_pos_iff.2 hne
    rw [List.length_append]
    omega
  have hout := TipUpdate.outcome_of_run (TipUpdate.outcome_beginTip s work) hrun
  generalize hdone : ((.done r, t) : Progress TipUpdate TipOutcome × Synchronizer) = out at hout
  cases hout with
  | waits connected ready at_tip => cases hdone
  | @ends new u r' connected below result =>
    cases hdone
    obtain ⟨-, hwritten, hrises, htip⟩ := told_of_connected hold connected (hfit new below)
    exact ⟨new, hwritten, fun h => absurd h result, fun _ => ⟨rfl, hrises, htip⟩⟩
  | @advances new u connected stored below =>
    cases hdone
    obtain ⟨hheld, hwritten, -⟩ := told_of_connected hold connected (hfit new below)
    have hlocal := hheld.localTip_eq
    rw [topHeight_of_ne_nil (List.append_ne_nil_of_right_ne_nil hs stored)] at hlocal
    refine ⟨new, hwritten, fun _ => ?_, fun h => absurd rfl h⟩
    refine ⟨_, (tip_of_pinned_eq_none rfl).trans hlocal, ?_⟩
    show s.events.emitTip (u.localTip.getD work.height) = _
    rw [hlocal, Option.getD_some]
  | @breaks new u connected below height =>
    obtain ⟨hheld, hwritten, hrises, htip⟩ := told_of_connected hold connected (hfit new below)
    obtain ⟨hseen, hkept, hevents⟩ := rewind_unseen (s := { s with store := u }) hheld
    rw [settle] at hdone
    have hresult : r ≠ .ok .advanced ∧ t = ({ s with store := u } : Synchronizer).rewind.2 := by
      split at hdone
      · next e s' he =>
        cases hdone
        exact ⟨fun h => (by cases h), by rw [he]⟩
      · next s' he =>
        cases hdone
        exact ⟨fun h => (by cases h), by rw [he]⟩
    obtain ⟨hne, rfl⟩ := hresult
    refine ⟨new, hkept.trans hwritten, fun h => absurd h hne, fun _ => ⟨hevents, ?_⟩⟩
    rw [hseen]
    exact ⟨hrises, htip⟩

/-- **Which calls for a tip tell all that readers see.** The store is good, and the subscriber has
room. A call that has returned has told the visible tip that it leaves behind if it has stored its
tip, or has written no header above the tip that was visible before; otherwise the visible tip has
risen, and nothing has been told. -/
theorem announced_iff (hold : s.store.Holds hs) (hheight : work.height < heightLimit)
    (htaken : s.events.tips.subscription = .taken)
    (hroom : s.events.tips.buffer.items.length < s.events.tips.buffer.capacity) {fuel : Nat}
    {w v : ω} {r : Except SyncError TipOutcome}
    (hrun : TipUpdate.machine.run source fuel (s.beginTip work) w = (some r, t, v)) :
    ∃ new, t.store.written = s.store.written ++ new.map raw ∧
      (Announced s t ↔
        r = .ok .advanced ∨ TipLe (topHeight s.store.startPoint (hs ++ new)) s.store.tip) ∧
      (¬ Announced s t → TipLe s.store.tip t.store.tip ∧ t.events = s.events) := by
  obtain ⟨new, htold⟩ := exists_told hold hheight hrun
  refine ⟨new, htold.written_eq, ?_⟩
  by_cases hr : r = .ok .advanced
  · obtain ⟨tip, htip, hevents⟩ := htold.advanced hr
    have hannounced : Announced s t := fun _ => by
      refine ⟨[tip], tip, ?_, rfl, htip⟩
      rw [hevents]
      exact items_emitTip htaken hroom tip
    exact ⟨⟨fun _ => .inl hr, fun _ => hannounced⟩, fun h => absurd hannounced h⟩
  · obtain ⟨hevents, hrises, hsame⟩ := htold.other hr
    have hsilent : Announced s t ↔ t.store.tip = s.store.tip := by
      constructor
      · intro h
        by_contra hne
        obtain ⟨emitted, tip, hitems, hlast, -⟩ := h hne
        rw [hevents] at hitems
        obtain rfl := List.self_eq_append_right.1 hitems
        cases hlast
      · exact fun h hne => absurd h hne
    refine ⟨?_, fun _ => ⟨hrises, hevents⟩⟩
    rw [hsilent, hsame]
    exact ⟨.inr, fun h => h.resolve_left hr⟩

/-! ## A tip that rises unseen -/

/-- A synchronizer that holds the lowest header of a tower, fetches one header at once, and is
listened to. -/
def listened : Synchronizer where
  settings := { chunkSize := 1, batchThreshold := 1 }
  store := holdingOne lowestHeader
  events := { tips := (EventStream.start 1).take.2, scripthashes := .start 1 }
  phase := .tipFollow

theorem has_listened : listened.store.Has 0 80 (tower 1) none :=
  ⟨holds_holdingOne lowestHeader, rfl, length_towerHeader 0, fun _ _ => rfl, rfl⟩

/-- The tip of a tower of two headers. -/
def secondTip : TipWork := ⟨1, (towerHeader 1).toHex, .notification⟩

/-- A tip on top of the stored headers is told. -/
theorem announced_iff_secondTip :
    ∃ t, TipUpdate.machine.run (honest 0 (tower 2) none) 0 (listened.beginTip secondTip) () =
        (some (.ok .advanced), t, ()) ∧ Announced listened t := by
  have hread : ofHex 80 secondTip.hex = .ok (towerHeader 1) := by
    have hread := ofHex_toHex (towerHeader 1)
    rwa [length_towerHeader] at hread
  have hnew : Chained 80 (tower 1 ++ [towerHeader 1]) := chained_tower 2
  obtain ⟨u, hconnect, -, -⟩ := has_listened.connect hnew (by decide)
  have hbegin := beginTip_eq_connectNotified has_listened
    (show secondTip.height = 0 + (tower 1).length from rfl) hread
  rw [connectNotified, hconnect] at hbegin
  have hrun : TipUpdate.machine.run (honest 0 (tower 2) none) 0 (listened.beginTip secondTip) () =
      (some (.ok .advanced), ({ listened with store := u }.settle secondTip .advanced).2, ()) := by
    rw [hbegin]
    rfl
  obtain ⟨new, -, hiff, -⟩ := announced_iff has_listened.toHolds (by decide) rfl (by decide) hrun
  exact ⟨_, hrun, hiff.2 (.inl rfl)⟩

/-- A server with the headers `S` that is lost when it is asked for headers above the height `top`. -/
def lostAbove (S : List BlockHeader) (top : Nat) : Machine.Source Unit
  | (), .headers height count =>
    if height ≤ top then honest 0 S none () (.headers height count) else (.error .closed, ())
  | (), q => honest 0 S none () q

/-- An update that stores one batch and then loses the connection ends with what it has stored. -/
theorem run_lost {ω : Type} {source : Machine.Source ω} {w : ω} {s t : Synchronizer}
    {work : TipWork} {last : BlockHeader} {height count height' count' : Nat}
    {batch : HeaderBatch} (hsent : (source w (.headers height count)).1 = Except.ok batch)
    (hstored : s.resumeTip (.batch work last height count) (Except.ok batch) =
      (.waiting (.batch work last height' count'), t))
    (hlost : ∀ w, (source w (.headers height' count')).1 = Except.error .closed) :
    ∃ v, TipUpdate.machine.run source 2 (.waiting (.batch work last height count), s) w =
      (some (.error (.client .closed)), t, v) := by
  have hfirst : TipUpdate.machine.resume (.batch work last height count) s
      (source w (.headers height count)).1 = (.waiting (.batch work last height' count'), t) :=
    (congrArg (s.resumeTip (.batch work last height count)) hsent).trans hstored
  have hsecond : ∀ w, TipUpdate.machine.resume (.batch work last height' count') t
      (source w (.headers height' count')).1 = (.done (.error (.client .closed)), t) := fun w =>
    congrArg (t.resumeTip (.batch work last height' count')) (hlost w)
  exact TipUpdate.machine.run_of_two source hfirst (hsecond _)

/-- **The visible tip can rise without an event.** The call stores the first of the missing headers,
and then the connection is lost. -/
theorem tip_rises_silently :
    ∃ t v, TipUpdate.machine.run (lostAbove (tower 4) 1) 2 (listened.beginTip fourthTip) () =
        (some (.error (.client .closed)), t, v) ∧
      listened.store.Holds (tower 1) ∧ listened.store.synced = true ∧
      listened.events.tips.subscription = .taken ∧
      listened.events.tips.buffer.items.length < listened.events.tips.buffer.capacity ∧
      listened.store.tip = some 0 ∧ t.store.tip = some 1 ∧ t.events = listened.events ∧
      ¬ Announced listened t := by
  have hless : (tower 1).length < (tower 4).length := by
    rw [length_tower, length_tower]
    decide
  have hbottom : (tower 4).take 1 = tower 1 := by
    have := List.prefix_iff_eq_take.1 (prefix_tower (show 1 ≤ 4 by decide))
    rwa [length_tower, eq_comm] at this
  have hheld : listened.store.Has 0 80 ((tower 4).take 1) none := hbottom.symm ▸ has_listened
  obtain ⟨last, -, hbegin⟩ := exists_beginTip_eq isTipOf_fourthTip hless rfl has_listened
  have hone : min (fourthTip.height - (0 + 1)) (max listened.settings.chunkSize 1) = 1 := by decide
  rw [length_tower, if_pos (by decide), nextBatch, if_pos (by decide), hone] at hbegin
  -- One header is fetched and stored.
  obtain ⟨batch, hanswer, hcarries, -⟩ := serves_honest 0 (tower 4) none () 1 1
  have hcarries : batch.Carries (((tower 4).drop 1).take 1) := hcarries
  have hsized : Sized listened.store.headerSize (((tower 4).drop 1).take 1) :=
    ((chained_tower 4).sized.drop 1).take 1
  have hcount : (((tower 4).drop 1).take 1).length = 1 := by
    rw [List.length_take, List.length_drop, length_tower]
    decide
  have hfirst : ∃ t, listened.resumeTip (.batch fourthTip last 1 1) (Except.ok batch) =
      (.waiting (.batch fourthTip last 2 1), { listened with store := t }) ∧
        t.Has 0 80 ((tower 4).take 2) none := by
    rw [resumeTip_batch hsized hcarries hcount]
    refine connectFetched_of_reaches (m := 1) (k := 1)
      (P := fun p => ∃ t, p = (.waiting (.batch fourthTip last 2 1), { listened with store := t }) ∧
        t.Has 0 80 ((tower 4).take 2) none)
      ((chained_tower 4).reaches (by decide)) (by decide) hheld (by decide) 1 _ ?_ ?_
    · intro _ t ht _
      exact ⟨t, rfl, ht⟩
    · intro hlt
      exact absurd hlt (by decide)
  obtain ⟨t, hfirst, ht⟩ := hfirst
  -- Then the connection is lost.
  have hsent : (lostAbove (tower 4) 1 () (.headers 1 1)).1 = Except.ok batch := by
    rw [lostAbove, if_pos (Nat.le_refl 1)]
    exact hanswer
  have hlost (w : Unit) : (lostAbove (tower 4) 1 w (.headers 2 1)).1 = Except.error .closed := by
    rw [lostAbove, if_neg (by decide)]
  obtain ⟨v, hrun⟩ := run_lost hsent hfirst hlost
  rw [← hbegin] at hrun
  have htip : t.tip = some 1 := by
    rw [tip_of_pinned_eq_none ht.pinned_eq, ht.localTip_eq, ht.startPoint_eq]
    rfl
  refine ⟨_, v, hrun, has_listened.toHolds, rfl, rfl, by decide, rfl, htip, rfl, fun h => ?_⟩
  obtain ⟨emitted, tip, hitems, hlast, -⟩ := h (by rw [htip]; decide)
  obtain rfl := List.self_eq_append_right.1 hitems
  cases hlast

end Synchronizer
end HeaderFollower
