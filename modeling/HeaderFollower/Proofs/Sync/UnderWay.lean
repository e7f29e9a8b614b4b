/-
# Pushed tips under way

A session that follows the tip has some pushed tips under way: those in its queue, and behind them the
one that its forwarder holds. `Follow.underWay` are these, in the order in which they were pushed; what
else the queue holds, the worker has put there itself. Each function of a session keeps the order: a
push is put behind the others, the worker takes the first, and everything else leaves them as they are
as long as the session goes on.

A synchronizer tells nothing to those who listen for scripthashes, and a tip that it hands back is
marked as tried again (`Synchronizer.Discreet`).
-/

import HeaderFollower.Sync.Follow

namespace HeaderFollower

/-! ## What a synchronizer tells -/

namespace Synchronizer

variable {s t : Synchronizer} {κ α : Type} {work : TipWork}

/-- A step that tells nothing to those who listen for scripthashes. -/
def Silent (s : Synchronizer) (out : Progress κ α × Synchronizer) : Prop :=
  out.2.events.scripthashes = s.events.scripthashes

theorem events_of_rewind {r : Except SyncError Unit} (h : s.rewind = (r, t)) :
    t.events = s.events := by
  rw [rewind] at h
  split at h
  · cases h
    rfl
  · dsimp only at h
    split at h
    · cases h
      rfl
    · split at h
      · cases h
        rfl
      · cases h
        rfl

theorem events_of_storeLinked {raw : List UInt8} {start : Nat} {r : Except ChainError Unit}
    (h : s.storeLinked raw start = (r, t)) : t.events = s.events := by
  rw [storeLinked] at h
  split at h
  · cases h
    rfl
  · split at h
    · cases h
      rfl
    · cases h
      rfl

theorem Silent.of_events {out : Progress κ α × Synchronizer} (h : t.Silent out)
    (hevents : t.events = s.events) : s.Silent out :=
  h.trans (congrArg ChainEvents.scripthashes hevents)

theorem silent_finishCatchUp (s : Synchronizer) (count : CatchUpCount) :
    s.Silent (s.finishCatchUp count) := by
  unfold Silent finishCatchUp
  split
  · rfl
  · dsimp only
    split <;> rfl

theorem silent_goBack (s : Synchronizer) (count : CatchUpCount) : s.Silent (s.goBack count) := by
  rw [goBack]
  split
  next verified store _ =>
  dsimp only
  split
  · rfl
  · split
    · next u h =>
      have hevents := events_of_rewind h
      exact congrArg ChainEvents.scripthashes hevents
    · next u h =>
      have hevents := events_of_rewind h
      exact congrArg ChainEvents.scripthashes hevents

theorem silent_afterBatch (s : Synchronizer) (count : CatchUpCount) (batch : HeaderBatch)
    (linked : Nat) : s.Silent (s.afterBatch count batch linked) := by
  unfold afterBatch
  dsimp only
  split
  · exact silent_goBack s _
  · split
    · rfl
    · split
      · exact silent_finishCatchUp s _
      · rfl

theorem silent_takeBatch (s : Synchronizer) (count : CatchUpCount) (start : Nat)
    (batch : HeaderBatch) : s.Silent (s.takeBatch count start batch) := by
  unfold takeBatch
  split
  · rfl
  · split
    · rfl
    · split
      · rfl
      · split
        · next u h => exact congrArg ChainEvents.scripthashes (events_of_storeLinked h)
        · next u h => exact (silent_afterBatch u count batch _).of_events (events_of_storeLinked h)

theorem silent_resumeCatchUp (s : Synchronizer) (call : CatchUp) (answer : call.query.Answer) :
    s.Silent (s.resumeCatchUp call answer) := by
  cases call with
  | asking count waits =>
    rw [resumeCatchUp.eq_def]
    dsimp only
    split <;> rfl
  | pausing count waits => rfl
  | fetching count start =>
    cases answer with
    | error e => rfl
    | ok batch => exact silent_takeBatch s count start batch

theorem silent_beginCatchUp (s : Synchronizer) : s.Silent s.beginCatchUp := by
  unfold Silent beginCatchUp
  dsimp only
  split
  · rfl
  · split
    · rfl
    · split <;> rfl

/-- A step of the handling of a tip that tells nothing to those who listen for scripthashes, and marks
a tip that it hands back as tried again. -/
structure Discreet (s : Synchronizer) (out : Progress TipUpdate TipOutcome × Synchronizer) : Prop where
  silent : s.Silent out
  retry : ∀ again, out.1 = .done (.ok (.rewound again)) → again.origin = .retry

theorem Discreet.of_store {store : Store} {out : Progress TipUpdate TipOutcome × Synchronizer}
    (h : ({ s with store } : Synchronizer).Discreet out) : s.Discreet out := ⟨h.1, h.2⟩

theorem discreet_failed (e : SyncError) : s.Discreet (s.failed e) :=
  ⟨rfl, fun again h => by cases h⟩

theorem discreet_waiting (call : TipUpdate) : s.Discreet (.waiting call, s) :=
  ⟨rfl, fun again h => by cases h⟩

theorem discreet_settle (s : Synchronizer) (work : TipWork) (connection : Connection) :
    s.Discreet (s.settle work connection) := by
  unfold settle
  split
  · exact ⟨rfl, fun again h => by cases h⟩
  · split
    · next u h =>
      exact ⟨congrArg ChainEvents.scripthashes (events_of_rewind h), fun again h => by cases h⟩
    · next u h =>
      refine ⟨congrArg ChainEvents.scripthashes (events_of_rewind h), fun again h => ?_⟩
      cases h
      rfl

theorem discreet_connectNotified (s : Synchronizer) (work : TipWork) (notified : BlockHeader) :
    s.Discreet (s.connectNotified work notified) := by
  unfold connectNotified
  split
  · exact (discreet_failed _).of_store
  · exact (discreet_settle _ work _).of_store

theorem discreet_nextBatch (s : Synchronizer) (work : TipWork) (notified : BlockHeader)
    (start : Nat) : s.Discreet (s.nextBatch work notified start) := by
  unfold nextBatch
  split
  · exact discreet_waiting _
  · exact discreet_connectNotified s work notified

theorem discreet_nextSingle (s : Synchronizer) (work : TipWork) (notified : BlockHeader)
    (height : Nat) : s.Discreet (s.nextSingle work notified height) := by
  unfold nextSingle
  split
  · exact discreet_waiting _
  · exact discreet_connectNotified s work notified

theorem discreet_onStale (s : Synchronizer) (work : TipWork) :
    s.Discreet (.done (s.onStale work), s) := by
  refine ⟨rfl, fun again h => ?_⟩
  have hresult : s.onStale work = .ok (.rewound again) := Progress.done.inj h
  rw [onStale] at hresult
  split at hresult
  · cases hresult
  · split at hresult <;> cases hresult

theorem discreet_beginTip (s : Synchronizer) (work : TipWork) : s.Discreet (s.beginTip work) := by
  unfold beginTip
  extract_lets next
  split
  · exact discreet_failed _
  · split
    · exact discreet_onStale s work
    · split
      · exact discreet_failed _
      · split
        · exact discreet_nextBatch s work _ _
        · exact discreet_nextSingle s work _ _

theorem discreet_connectFetched (s : Synchronizer) (work : TipWork) (start : Nat)
    (records : List (Except HeaderError BlockHeader))
    {next : Synchronizer → Progress TipUpdate TipOutcome × Synchronizer}
    (hnext : ∀ t : Synchronizer, t.Discreet (next t)) :
    s.Discreet (s.connectFetched work start records next) := by
  unfold connectFetched
  split
  · exact (discreet_failed _).of_store
  · exact (hnext _).of_store
  · exact (discreet_settle _ work _).of_store

theorem discreet_resumeTip (s : Synchronizer) (call : TipUpdate) (answer : call.query.Answer) :
    s.Discreet (s.resumeTip call answer) := by
  cases call with
  | batch work notified start count =>
    cases answer with
    | error e => exact discreet_failed _
    | ok batch =>
      rw [resumeTip]
      split
      · exact discreet_failed _
      · split
        · exact discreet_failed _
        · exact discreet_connectFetched s work start _ fun t => discreet_nextBatch t work notified _
  | single work notified height =>
    cases answer with
    | error e => exact discreet_failed _
    | ok text =>
      rw [resumeTip]
      exact discreet_connectFetched s work height _ fun t => discreet_nextSingle t work notified _

end Synchronizer

/-! ## The queue of a session -/

/-- The tip was pushed. -/
def TipWork.isPush (work : TipWork) : Bool := work.origin == .notification

/-- The tip that the forwarder has taken and not yet put into the queue. -/
def Forwarder.inHand : Forwarder → List TipWork
  | .holding work => [work]
  | .granted work => [work]
  | _ => []

/-- A queue that something was taken out of has room. -/
theorem BoundedQueue.length_lt_of_pop? {α : Type} {q r : BoundedQueue α} {a : α}
    (h : q.pop? = some (a, r)) : r.items.length < r.capacity := by
  obtain ⟨capacity, items, hle⟩ := q
  cases items with
  | nil => cases h
  | cons b rest =>
    cases h
    exact hle

namespace Follow

variable {f : Follow} {s : Synchronizer} {work : TipWork}

/-- The pushed tips that the worker has still to take, the first first. -/
def underWay (f : Follow) : List TipWork :=
  (f.queue.items ++ f.forwarder.inHand).filter TipWork.isPush

/-- Room that was set aside is there, and nothing is forwarded before the subscription is answered. -/
structure Roomy (f : Follow) : Prop where
  granted : ∀ work, f.forwarder = .granted work → f.queue.items.length < f.queue.capacity
  subscribing : f.worker = .subscribing → f.forwarder = .absent

theorem roomy_start (depth : Nat) : (start depth).Roomy :=
  ⟨fun work h => (by cases h), fun _ => rfl⟩

/-! A tip that is offered stands behind the others. -/

theorem worker_offer (f : Follow) (work : TipWork) : (f.offer work).worker = f.worker := by
  rw [offer]
  split <;> rfl

theorem forwarder_offer (f : Follow) (work : TipWork) : (f.offer work).forwarder = f.forwarder := by
  rw [offer]
  split <;> rfl

theorem items_offer_of_room (hroom : 0 < f.room) (work : TipWork) :
    (f.offer work).queue.items = f.queue.items ++ [work] ∧
      (f.offer work).queue.capacity = f.queue.capacity := by
  have hlt : f.queue.items.length < f.queue.capacity := by
    unfold room at hroom
    omega
  rw [offer, if_pos hroom, BoundedQueue.push?, dif_pos hlt]
  exact ⟨rfl, rfl⟩

theorem offer_of_no_room (hroom : ¬ 0 < f.room) (work : TipWork) : f.offer work = f := if_neg hroom

/-- A tip that was not pushed changes nothing for those that were. -/
theorem underWay_offer (f : Follow) (hpush : work.isPush = false) :
    (f.offer work).underWay = f.underWay := by
  by_cases hroom : 0 < f.room
  · rw [underWay, underWay, forwarder_offer, (items_offer_of_room hroom work).1]
    simp [hpush]
  · rw [offer_of_no_room hroom]

theorem Roomy.offer (h : f.Roomy) (work : TipWork) : (f.offer work).Roomy := by
  by_cases hroom : 0 < f.room
  · obtain ⟨hitems, hcapacity⟩ := items_offer_of_room hroom work
    refine ⟨fun work' hgranted => ?_, fun hworker => ?_⟩
    · rw [forwarder_offer] at hgranted
      rw [hitems, hcapacity, List.length_append, List.length_singleton]
      simp only [room, hgranted] at hroom
      omega
    · rw [forwarder_offer]
      rw [worker_offer] at hworker
      exact h.subscribing hworker
  · rwa [offer_of_no_room hroom]

/-! What the functions of a session do with the tips under way. -/

/-- A push stands behind the others. -/
theorem underWay_accept (hready : f.forwarder = .ready) (notice : TipNotice) :
    (f.accept notice).underWay = f.underWay ++ [.ofNotice notice .notification] := by
  rw [accept, hready]
  dsimp only
  split
  · next hroom =>
    rw [underWay, underWay, forwarder_offer, (items_offer_of_room hroom _).1, hready]
    simp [Forwarder.inHand, TipWork.isPush, TipWork.ofNotice]
  · rw [underWay, underWay, hready]
    simp [Forwarder.inHand, TipWork.isPush, TipWork.ofNotice]

theorem accept_of_not_ready (h : f.forwarder ≠ .ready) (notice : TipNotice) :
    f.accept notice = f := by
  rw [accept]
  split
  · next hready => exact absurd hready h
  · rfl

theorem Roomy.accept (h : f.Roomy) (notice : TipNotice) : (f.accept notice).Roomy := by
  rw [Follow.accept]
  split
  · next hready =>
    split
    · exact h.offer _
    · refine ⟨fun work h => (by cases h), fun hworker => ?_⟩
      cases hready.symm.trans (h.subscribing hworker)
  · exact h

theorem Roomy.deliver (h : f.Roomy) : f.deliver.Roomy ∧ f.deliver.underWay = f.underWay := by
  rw [Follow.deliver]
  split
  · next work hgranted =>
    have hlt := h.granted work hgranted
    have hroom : 0 < ({ f with forwarder := .ready } : Follow).room := by
      show 0 < f.queue.capacity - f.queue.items.length - 0
      omega
    have hroomy : ({ f with forwarder := .ready } : Follow).Roomy := by
      refine ⟨fun work h => (by cases h), fun hworker => ?_⟩
      cases hgranted.symm.trans (h.subscribing hworker)
    refine ⟨hroomy.offer work, ?_⟩
    rw [underWay, underWay, forwarder_offer, (items_offer_of_room hroom work).1, hgranted]
    simp [Forwarder.inHand]
  · exact ⟨h, rfl⟩

theorem Roomy.sinkClosed (h : f.Roomy) :
    f.sinkClosed.Roomy ∧ f.sinkClosed.underWay = f.underWay := by
  rw [Follow.sinkClosed]
  split
  · next hready =>
    refine ⟨⟨fun work h => (by cases h), fun _ => rfl⟩, ?_⟩
    rw [underWay, underWay, hready]
    rfl
  · exact ⟨h, rfl⟩

theorem Roomy.subscribed (h : f.Roomy) (reply : Except ClientError TipNotice) :
    (f.subscribed reply).hasEnded = true ∨
      (f.subscribed reply).Roomy ∧ (f.subscribed reply).underWay = f.underWay := by
  unfold Follow.subscribed
  split
  · exact .inl rfl
  · next hworker =>
    have hroomy : ({ f with worker := .idle, forwarder := .ready } : Follow).Roomy :=
      ⟨fun work h => (by cases h), fun h => by cases h⟩
    refine .inr ⟨hroomy.offer _, ?_⟩
    rw [underWay_offer _ rfl, underWay, underWay, h.subscribing hworker]
    rfl
  · exact .inr ⟨h, rfl⟩

/-- Going on as the handling of a tip says leaves the pushed tips as they are. -/
theorem Roomy.advance (h : f.Roomy)
    {p : Progress TipUpdate TipOutcome}
    (hretry : ∀ again, p = .done (.ok (.rewound again)) → again.origin = .retry) :
    (f.advance p).hasEnded = true ∨ (f.advance p).Roomy ∧ (f.advance p).underWay = f.underWay := by
  have hidle : ({ f with worker := .idle } : Follow).Roomy :=
    ⟨h.granted, fun h => by cases h⟩
  rcases p with call | e | outcome
  · exact .inr ⟨⟨h.granted, fun h => by cases h⟩, rfl⟩
  · rw [Follow.advance]
    split
    · exact .inl rfl
    · exact .inr ⟨hidle, rfl⟩
  · cases outcome with
    | stale => exact .inr ⟨hidle, rfl⟩
    | advanced => exact .inr ⟨hidle, rfl⟩
    | rewound again =>
      refine .inr ⟨hidle.offer again, underWay_offer _ ?_⟩
      rw [TipWork.isPush, hretry again rfl]
      rfl

/-- The tip that the worker takes when it looks for something to do. -/
def taken? (f : Follow) (cancelled : Bool) : Option TipWork :=
  match f.worker with
  | .idle => if cancelled ∨ f.lost then none else f.queue.pop?.map Prod.fst
  | _ => none

/-- The worker takes the first of the tips under way, if that is a push. -/
theorem roomy_release (hworker : f.worker ≠ .subscribing) {queue : BoundedQueue TipWork}
    (hpop : f.queue.pop? = some (work, queue)) :
    (f.release queue).Roomy ∧
      f.underWay = [work].filter TipWork.isPush ++ (f.release queue).underWay := by
  have hitems := BoundedQueue.items_of_pop? hpop
  have hcapacity := BoundedQueue.length_lt_of_pop? hpop
  rw [Follow.release]
  split
  · next held hholding =>
    refine ⟨⟨fun _ _ => hcapacity, fun h => absurd h hworker⟩, ?_⟩
    rw [underWay, underWay, hitems, hholding, ← List.filter_append]
    rfl
  · refine ⟨⟨fun _ _ => hcapacity, fun h => absurd h hworker⟩, ?_⟩
    rw [underWay, underWay, hitems, ← List.filter_append]
    rfl

/-- **Looking for something to do takes the first tip**, and leaves the others under way. -/
theorem Roomy.wake (h : f.Roomy) (s : Synchronizer) (cancelled : Bool) :
    ((f.taken? cancelled).toList.filter TipWork.isPush <+: f.underWay) ∧
      ((f.wake s cancelled).1.hasEnded = true ∨ (f.wake s cancelled).1.Roomy ∧
        f.underWay = (f.taken? cancelled).toList.filter TipWork.isPush ++
          (f.wake s cancelled).1.underWay) := by
  have hnone : (Option.none (α := TipWork)).toList.filter TipWork.isPush <+: f.underWay :=
    List.nil_prefix
  rw [Follow.wake, taken?]
  cases hworker : f.worker with
  | subscribing =>
    dsimp only
    refine ⟨hnone, ?_⟩
    split
    · exact .inl rfl
    · exact .inr ⟨h, rfl⟩
  -- The only worker that takes a tip is one that has nothing to do and is not told to stop.
  | idle =>
    dsimp only
    cases cancelled with
    | true => exact ⟨hnone, .inl rfl⟩
    | false =>
      cases hlost : f.lost with
      | true => exact ⟨hnone, .inl rfl⟩
      | false =>
        simp only [Bool.false_eq_true, or_self, if_false]
        cases hpop : f.queue.pop? with
        | none => exact ⟨hnone, .inr ⟨h, rfl⟩⟩
        | some out =>
          obtain ⟨work, queue⟩ := out
          obtain ⟨hroomy, hway⟩ := roomy_release (by rw [hworker]; exact fun h => by cases h) hpop
          obtain hover | ⟨hnext, hsame⟩ := hroomy.advance (s.discreet_beginTip work).retry
          · exact ⟨⟨_, hway.symm⟩, .inl hover⟩
          · refine ⟨⟨_, hway.symm⟩, .inr ⟨hnext, ?_⟩⟩
            rw [hsame]
            exact hway
  | handling call => exact ⟨hnone, .inr ⟨h, rfl⟩⟩
  | ended result => exact ⟨hnone, .inr ⟨h, rfl⟩⟩

end Follow
end HeaderFollower
