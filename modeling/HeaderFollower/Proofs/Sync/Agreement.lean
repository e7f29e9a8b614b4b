/-
# Following the tip agrees with catching up

A tip that does not connect comes back through a queue, and is tried again over fewer headers.
`handleAll` handles a tip and all that comes back, as a worker does that has the queue to itself.
With an honest server this lands where a catch-up lands (`handlesAll_of_lands`), so both leave the
same store behind: `tips_agree_with_catchUp`.
-/

import HeaderFollower.Proofs.Sync.TipUpdate

namespace HeaderFollower

open BlockHeader Store Machine

variable {ω : Type} {source : Source ω}

/-! ## All calls for one tip -/

/-- The queue with the tip that a call wants to be tried again, if there is room for it. -/
def requeue (q : BoundedQueue TipWork) : Except SyncError TipOutcome → BoundedQueue TipWork
  | .ok (.rewound again) => (q.push? again).getD q
  | _ => q

/-- Handles a tip, and then what comes back until the queue is empty, in less than `fuel` calls of
less than `fuel` answers. The result is that of the last call. -/
def handleAll (source : Source ω) : Nat → BoundedQueue TipWork → TipWork → Synchronizer → ω →
    Option (Except SyncError TipOutcome) × Synchronizer × ω
  | 0, _, _, s, w => (none, s, w)
  | fuel + 1, q, work, s, w =>
    match TipUpdate.machine.run source fuel (s.beginTip work) w with
    | (none, s, w) => (none, s, w)
    | (some r, s, w) =>
      match (requeue q r).pop? with
      | none => (some r, s, w)
      | some (again, rest) => handleAll source fuel rest again s w

/-- More fuel does not change how it ends. -/
theorem handleAll_mono {fuel more : Nat} (h : fuel ≤ more) {q : BoundedQueue TipWork}
    {work : TipWork} {s t : Synchronizer} {w v : ω} {r : Except SyncError TipOutcome}
    (hr : handleAll source fuel q work s w = (some r, t, v)) :
    handleAll source more q work s w = (some r, t, v) := by
  induction fuel generalizing more q work s w with
  | zero =>
    rw [handleAll] at hr
    cases hr
  | succ fuel ih =>
    obtain ⟨k, rfl⟩ : ∃ k, more = k + 1 := ⟨more - 1, by omega⟩
    rw [handleAll] at hr ⊢
    rcases hrun : TipUpdate.machine.run source fuel (s.beginTip work) w with ⟨o, u, x⟩
    rw [hrun] at hr
    cases o with
    | none => cases hr
    | some o =>
      rw [TipUpdate.machine.run_mono source (by omega) hrun]
      dsimp only at hr ⊢
      split at hr
      · exact hr
      · exact ih (by omega) hr

/-- In whatever state the source is, all calls come to an end, with a result and a state of which
`Q` holds. -/
def HandlesAll (source : Source ω) (q : BoundedQueue TipWork) (work : TipWork) (s : Synchronizer)
    (Q : Except SyncError TipOutcome → Synchronizer → Prop) : Prop :=
  ∀ w, ∃ fuel r t v, handleAll source fuel q work s w = (some r, t, v) ∧ Q r t

section
variable {q : BoundedQueue TipWork} {work : TipWork} {s : Synchronizer}
  {P Q : Except SyncError TipOutcome → Synchronizer → Prop}

/-- A call after which the queue is empty is the last one. -/
theorem handlesAll_last (h : TipUpdate.machine.Ends source (s.beginTip work) P)
    (hlast : ∀ r t, P r t → (requeue q r).pop? = none ∧ Q r t) : HandlesAll source q work s Q := by
  intro w
  obtain ⟨fuel, r, t, v, hrun, hp⟩ := h w
  obtain ⟨hpop, hq⟩ := hlast r t hp
  refine ⟨fuel + 1, r, t, v, ?_, hq⟩
  rw [handleAll, hrun]
  simp only [hpop]

/-- After a call that leaves a tip in the queue, that tip is handled. -/
theorem handlesAll_again (h : TipUpdate.machine.Ends source (s.beginTip work) P)
    (hnext : ∀ r t, P r t → ∃ again rest, (requeue q r).pop? = some (again, rest) ∧
      HandlesAll source rest again t Q) : HandlesAll source q work s Q := by
  intro w
  obtain ⟨fuel, r, t, v, hrun, hp⟩ := h w
  obtain ⟨again, rest, hpop, hall⟩ := hnext r t hp
  obtain ⟨more, r', u, x, hrest, hq⟩ := hall v
  refine ⟨max fuel more + 1, r', u, x, ?_, hq⟩
  rw [handleAll, TipUpdate.machine.run_mono source (Nat.le_max_left fuel more) hrun]
  simp only [hpop]
  exact handleAll_mono (Nat.le_max_right fuel more) hrest

/-- After a call that leaves a tip in the queue it does not end before that tip is handled. -/
theorem handleAll_eq_none {fuel : Nat} (h : TipUpdate.machine.Ends source (s.beginTip work) P)
    (hnext : ∀ r t, P r t → ∃ again rest, (requeue q r).pop? = some (again, rest) ∧
      ∀ w, (handleAll source fuel rest again t w).1 = none) (w : ω) :
    (handleAll source (fuel + 1) q work s w).1 = none := by
  rw [handleAll]
  rcases hrun : TipUpdate.machine.run source fuel (s.beginTip work) w with ⟨r, t, v⟩
  cases r with
  | none => rfl
  | some r =>
    obtain ⟨again, rest, hpop, hrest⟩ := hnext r t (h.of_run hrun)
    simp only [hpop]
    exact hrest v

theorem pop?_of_items_eq_nil (h : q.items = []) : q.pop? = none := by
  obtain ⟨capacity, items, hle⟩ := q
  obtain rfl : items = [] := h
  rfl

/-- A tip that comes back into an empty queue with some room is the next one. -/
theorem exists_pop?_requeue (h : q.items = []) (hcap : 1 ≤ q.capacity) (again : TipWork) :
    ∃ rest, (requeue q (.ok (.rewound again))).pop? = some (again, rest) ∧ rest.items = [] ∧
      1 ≤ rest.capacity := by
  obtain ⟨capacity, items, hle⟩ := q
  obtain rfl : items = [] := h
  refine ⟨⟨capacity, [], Nat.zero_le _⟩, ?_, rfl, hcap⟩
  have hroom : ([] : List TipWork).length < capacity := hcap
  rw [requeue, BoundedQueue.push?, dif_pos hroom]
  rfl

end

/-! ## Where the calls land -/

/-- What the last call for a tip returns. -/
def outcomeAt (t : Store) : Landing → Except SyncError TipOutcome
  | .joined _ => .ok .advanced
  | .stuck _ _ => .error (.exhausted t.tip t.startPoint)

variable {start size : Nat} {L S : List BlockHeader} {pinned : Option Nat}

theorem TipWork.IsTipOf.retry {work : TipWork} (h : work.IsTipOf start size S) :
    TipWork.IsTipOf { work with origin := .retry } start size S := ⟨h.height_eq, h.ofHex_eq⟩

/-- **All calls for a tip land where a catch-up lands.** The induction is on the steps back, each of
which is one call. -/
theorem handlesAll_of_lands {m R : Nat} {landing : Landing}
    (hserves : Serves source start S none) (hsingly : ServesSingly source start size S)
    (hfork : Fork size L S) (hfit : start + S.length ≤ heightLimit) (hR : 0 < R)
    (hlands : Lands start R (Joins L S) pinned m landing) (hm : m ≤ L.length) {s : Synchronizer}
    (h : s.store.Has start size (L.take m) pinned) (hsync : s.store.synced = true)
    (hset : s.settings.rewind = R) {work : TipWork} (htip : work.IsTipOf start size S)
    {q : BoundedQueue TipWork} (hq : q.items = []) (hcap : 1 ≤ q.capacity) :
    HandlesAll source q work s fun r t =>
      r = outcomeAt t.store landing ∧ landing.Left start size L S t.store := by
  have hlonger := hfork.longer
  have hbelow : S.dropLast <+: S := List.dropLast_prefix S
  induction hlands generalizing s work q with
  | @joined pinned m hjoins =>
    have hall := hfork.length_joined hm
    have hheld : s.store.Has start size ((L.take m ++ S.drop m).take m) pinned := by
      rwa [List.take_left' (List.length_take_of_le hm)]
    have hends : TipUpdate.machine.Ends source (s.beginTip work) fun r t =>
        r = .ok .advanced ∧ t.store.Has start size (L.take m ++ S.drop m) none ∧
          t.store.synced = true :=
      Synchronizer.ends_beginTip hserves hsingly hfork.chained_right.sized hbelow
        (hfork.reaches_of_joins hm hjoins) (hall.symm ▸ hfit) htip (by omega) hheld hsync hset hR
        (fun _ t ht htsync => ⟨rfl, ht, htsync⟩) (fun hlt => by omega) fun hlt => by omega
    refine handlesAll_last hends ?_
    rintro r t ⟨rfl, ht⟩
    exact ⟨pop?_of_items_eq_nil hq, rfl, ht⟩
  | @stuck pinned m hparts hagain hlow =>
    have hlen : (L.take m).length = m := List.length_take_of_le hm
    have hends : TipUpdate.machine.Ends source (s.beginTip work) fun r t =>
        r = .error (.exhausted t.store.tip t.store.startPoint) ∧
          t.store.Has start size (L.take m) pinned :=
      Synchronizer.ends_beginTip hserves hsingly hfork.chained_right.sized hbelow
        (hfork.reaches_of_not_joins hm hparts) (by omega) htip (by omega)
        (by rwa [List.take_take, Nat.min_self]) hsync hset hR (fun hle => by omega)
        (fun _ _ _ t ht => ⟨rfl, ht⟩) fun _ hhigh => by
          have := hhigh hagain
          omega
    refine handlesAll_last hends ?_
    rintro r t ⟨rfl, ht⟩
    exact ⟨pop?_of_items_eq_nil hq, rfl, ht⟩
  | @back pinned m landing hparts hhigh hnext ih =>
    have hlen : (L.take m).length = m := List.length_take_of_le hm
    have hends : TipUpdate.machine.Ends source (s.beginTip work) fun r t =>
        r = .ok (.rewound { work with origin := .retry }) ∧
          t.store.Has start size (L.take (m - R)) (pinAt pinned (start + (m - 1))) ∧
          t.store.synced = true ∧ t.settings.rewind = R :=
      Synchronizer.ends_beginTip hserves hsingly hfork.chained_right.sized hbelow
        (hfork.reaches_of_not_joins hm hparts) (by omega) htip (by omega)
        (by rwa [List.take_take, Nat.min_self]) hsync hset hR (fun hle => by omega)
        (fun _ hagain hlow => by
          have := hhigh hagain
          omega)
        fun _ _ t ht htsync htset => by
          rw [hlen, List.take_take, Nat.min_eq_left (Nat.sub_le _ _)] at ht
          exact ⟨rfl, ht, htsync, by rw [htset, hset]⟩
    refine handlesAll_again hends ?_
    rintro r t ⟨rfl, ht, htsync, htset⟩
    obtain ⟨rest, hpop, hrest, hroom⟩ := exists_pop?_requeue hq hcap { work with origin := .retry }
    exact ⟨_, rest, hpop, ih (by omega) ht htsync htset htip.retry hrest hroom⟩

/-! ## Agreement -/

/-- Two stores have the same headers, in index and file, the same tips and the same pin. -/
structure Store.Agrees (s t : Store) : Prop where
  header?_eq : ∀ height, s.index.header? height = t.index.header? height
  content_eq : s.file.content = t.file.content
  localTip_eq : s.localTip = t.localTip
  tip_eq : s.tip = t.tip
  pinned_eq : s.pinned = t.pinned

theorem Store.Has.agrees {hs : List BlockHeader} {s t : Store} (hs_has : s.Has start size hs pinned)
    (ht_has : t.Has start size hs pinned) : s.Agrees t := by
  have hpin : s.pinned = t.pinned := hs_has.pinned_eq.trans ht_has.pinned_eq.symm
  have htip : s.localTip = t.localTip := by
    rw [hs_has.localTip_eq, ht_has.localTip_eq, hs_has.startPoint_eq, ht_has.startPoint_eq]
  refine ⟨fun height => ?_, ?_, htip, ?_, hpin⟩
  · rw [hs_has.lists, ht_has.lists, hs_has.startPoint_eq, ht_has.startPoint_eq]
  · rw [hs_has.content_eq, ht_has.content_eq]
  · rw [Store.tip, Store.tip, hpin, htip]

theorem Landing.Left.agrees {landing : Landing} {s t : Store}
    (hs : landing.Left start size L S s) (ht : landing.Left start size L S t) : s.Agrees t := by
  cases landing with
  | joined kept => exact hs.1.agrees ht.1
  | stuck kept pinned => exact Store.Has.agrees hs ht

/-- **Following the tip leaves the same store behind as catching up.** The store holds the chain
`L`, no recovery is active, and the server has the longer chain `S`. A catch-up comes to an end. So
do the calls for the tip of `S`, whatever width of gap is fetched in batches, and the stores agree.
Either both succeed, or both report that going back is exhausted. -/
theorem tips_agree_with_catchUp {s : Synchronizer} (hL : s.store.Holds L)
    (hsync : s.store.synced = true) (hpinned : s.store.pinned = none)
    (hfile : s.store.file.Accessible) (hR : 1 ≤ s.settings.rewind)
    (hS : Chained s.store.headerSize S) (hlonger : L.length < S.length)
    (hfit : s.store.startPoint + S.length ≤ heightLimit)
    (hserves : Serves source s.store.startPoint S none)
    (hsingly : ServesSingly source s.store.startPoint s.store.headerSize S)
    {work : TipWork}
    (htip : work.IsTipOf s.store.startPoint s.store.headerSize S) {q : BoundedQueue TipWork}
    (hq : q.items = []) (hcap : 1 ≤ q.capacity) (v : ω) :
    ∃ fuel r t v', CatchUp.machine.run source fuel s.beginCatchUp v = (some r, t, v') ∧
      ∀ threshold w, ∃ fuel r' u w',
        handleAll source fuel q work
            { s with settings := { s.settings with batchThreshold := threshold } } w =
          (some r', u, w') ∧
        t.store.Agrees u.store ∧
        ((∃ n, r = .ok n) ∧ r' = .ok .advanced ∨
          ∃ tip start, r = .error (.exhausted tip start) ∧ r' = .error (.exhausted tip start)) := by
  have hfork : Fork s.store.headerSize L S := ⟨hL.chained, hS, hlonger⟩
  have hhas : s.store.Has s.store.startPoint s.store.headerSize L none :=
    ⟨hL, rfl, rfl, hfile, hpinned⟩
  have hlanding : ∃ landing, Lands s.store.startPoint s.settings.rewind (Joins L S) none L.length
      landing := exists_lands hR (joins_zero hS.linked) none L.length
  obtain ⟨landing, hlands⟩ := hlanding
  obtain ⟨fuel, r, t, v', hrun, hr, ht⟩ := Synchronizer.ends_beginCatchUp hfork hserves
    (fun most h => by cases h) hfit hR hhas hlands v
  refine ⟨fuel, r, t, v', hrun, fun threshold w => ?_⟩
  obtain ⟨more, r', u, w', hall, hr', hu⟩ := handlesAll_of_lands (s := { s with
    settings := { s.settings with batchThreshold := threshold } }) hserves hsingly hfork hfit hR
    hlands (Nat.le_refl _) (by rw [List.take_length]; exact hhas) hsync rfl htip hq hcap w
  have hagree : t.store.Agrees u.store := ht.agrees hu
  refine ⟨more, r', u, w', hall, hagree, ?_⟩
  cases landing with
  | joined kept => exact .inl ⟨⟨_, hr⟩, hr'⟩
  | stuck kept pinned =>
    have hstart : t.store.startPoint = u.store.startPoint :=
      Has.startPoint_eq ht |>.trans (Has.startPoint_eq hu).symm
    refine .inr ⟨t.store.tip, t.store.startPoint, hr, ?_⟩
    rw [hr', outcomeAt, hagree.tip_eq, hstart]

/-- The tip of a chain of two headers. -/
def upperTip : TipWork := ⟨1, upperHeader.toHex, .notification⟩

theorem isTipOf_upperTip : upperTip.IsTipOf 0 80 [lowestHeader, upperHeader] := by
  refine ⟨rfl, ?_⟩
  rintro last ⟨⟩
  have hread := ofHex_toHex upperHeader
  rwa [show upperHeader.raw.length = 80 from length_fieldBytes _ _ _ _ _ _] at hread

theorem tips_agree_with_catchUp_offByOne :
    ∃ fuel r t v', CatchUp.machine.run (honest 0 [lowestHeader, upperHeader] none) fuel
        Synchronizer.offByOne.beginCatchUp () = (some r, t, v') ∧
      ∃ fuel r' u w', handleAll (honest 0 [lowestHeader, upperHeader] none) fuel (.empty 1) upperTip
          Synchronizer.offByOne () = (some r', u, w') ∧ t.store.Agrees u.store := by
  obtain ⟨fuel, r, t, v', hrun, htips⟩ := tips_agree_with_catchUp (s := Synchronizer.offByOne)
    (holds_holdingOne upperHeader) rfl rfl (fun _ _ => rfl) (Nat.le_refl 1) chained_pair (by decide)
    (by decide) (serves_honest 0 [lowestHeader, upperHeader] none)
    (servesSingly_honest 0 chained_pair.sized none) isTipOf_upperTip
    (q := .empty 1) rfl (Nat.le_refl 1) ()
  obtain ⟨more, r', u, w', hall, hagree, -⟩ := htips 8 ()
  exact ⟨fuel, r, t, v', hrun, more, r', u, w', hall, hagree⟩

end HeaderFollower
