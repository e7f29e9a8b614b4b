/-
# What a step comes to

A step of a call ends in one of a few ways, and these tell how far the synchronizer has come and
whether the file may be cut. `CatchUp.Outcome` has the ways of a catch-up, which ends, goes on, or
goes back, the last exactly in the steps of `CatchUp.GoesBack`. `TipUpdate.Outcome` has those of the
handling of a tip: it connects some headers (`Store.Connected`), and then waits, ends, has connected
the tip, or meets a header that does not connect.

`TipUpdate.outcome_of_run` says the same of a whole call for a tip.
-/

import HeaderFollower.Proofs.Bytes.Hex
import HeaderFollower.Proofs.Sync.Steps

namespace HeaderFollower

open BlockHeader

namespace Store

variable {s t u : Store} {new more : List BlockHeader} {x : BlockHeader}

/-! ## The mark of a completed catch-up -/

theorem synced_putAll (s : Store) (height : Nat) (records : List (Except HeaderError BlockHeader)) :
    (s.putAll height records).2.synced = s.synced := by
  induction records generalizing s height with
  | nil => rfl
  | cons r rest ih =>
    cases r with
    | error e => rfl
    | ok h =>
      rw [putAll, ih]
      rfl

theorem synced_loadAndVerify (s : Store) : s.loadAndVerify.2.synced = s.synced := by
  have hload : s.rebuild.2.synced = s.synced := by
    rw [rebuild]
    split
    · rfl
    · exact synced_putAll s.reset _ _
  rw [loadAndVerify]
  split
  · next e t he =>
    rw [he] at hload
    exact hload
  · next t he =>
    rw [he] at hload
    exact hload

theorem flags_of_append {raw : List UInt8} (h : s.append raw = .ok t) :
    t.synced = s.synced ∧ t.pinned = s.pinned := by
  rw [append] at h
  split at h
  · cases h
  · obtain rfl := Except.ok.inj h
    exact ⟨rfl, rfl⟩

/-- Taking headers away leaves the mark. -/
theorem synced_runAll_rewindOps (s : Store) (depth tip : Nat) :
    (s.runAll (rewindOps depth tip)).2.synced = s.synced := by
  have hremove (n : Nat) (s : Store) :
      (s.runAll (List.replicate n .removeTip ++ [.beginRecovery tip])).2.synced = s.synced := by
    induction n generalizing s with
    | zero => rfl
    | succ n ih =>
      rw [List.replicate_succ, List.cons_append, runAll]
      cases hone : s.removeTip with
      | error e => simp only [run, hone, orSame]
      | ok t =>
        have hsame : t.synced = s.synced := by
          rw [removeTip] at hone
          split at hone
          · cases hone
          · split at hone
            · cases hone
            · obtain rfl := Except.ok.inj hone
              rfl
        simp only [run, hone, orSame]
        rw [ih t, hsame]
  rw [rewindOps, runAll]
  cases hcut : s.truncateFile depth with
  | error e => simp only [run, hcut, orSame]
  | ok t =>
    have hsame : t.synced = s.synced := by
      rw [truncateFile] at hcut
      split at hcut
      · split at hcut
        · cases hcut
        · obtain rfl := Except.ok.inj hcut
          rfl
      · cases hcut
    simp only [run, hcut, orSame]
    rw [hremove depth t, hsame]

/-! ## Headers that are connected -/

/-- The headers `new` are connected one after the other, and lead from the store `s` to `t`. -/
inductive Connected : Store → List BlockHeader → Store → Prop where
  | nil (s : Store) : Connected s [] s
  | cons {s t u : Store} {x : BlockHeader} {new : List BlockHeader}
      (sized : x.raw.length = s.headerSize) (connects : s.connect x = (.ok .advanced, t))
      (rest : Connected t new u) : Connected s (x :: new) u

/-- A header that is connected is written and put into the index; nothing else changes. -/
theorem of_connect_advanced (h : s.connect x = (.ok .advanced, t)) :
    s.connects x = true ∧ s.extend x = .ok t ∧ s.Precedes t ∧ t.synced = s.synced ∧
      t.pinned = s.pinned := by
  rw [connect] at h
  split at h
  · next hlinks =>
    split at h
    · cases h
    · next u hu =>
      obtain ⟨-, rfl⟩ := Prod.mk.inj h
      refine ⟨hlinks, hu, precedes_of_extend hu, ?_⟩
      rw [extend] at hu
      split at hu
      · cases hu
      · next v hv =>
        obtain rfl := Except.ok.inj hu
        have hflags := flags_of_append hv
        exact hflags
  · cases h

/-- A header that is not connected leaves the store as it is. -/
theorem connect_eq_of_not_advanced {r : Except ChainError Connection}
    (h : s.connect x = (r, t)) (hr : r ≠ .ok .advanced) : t = s := by
  rw [connect] at h
  split at h
  · split at h
    · exact (Prod.mk.inj h).2.symm
    · exact absurd (Prod.mk.inj h).1.symm hr
  · exact (Prod.mk.inj h).2.symm

namespace Connected

theorem single (hsize : x.raw.length = s.headerSize) (h : s.connect x = (.ok .advanced, t)) :
    Connected s [x] t := .cons hsize h (.nil t)

theorem append (h : s.Connected new t) (k : t.Connected more u) :
    s.Connected (new ++ more) u := by
  induction h with
  | nil => exact k
  | cons hsize hx _ ih => exact .cons hsize hx (ih k)

theorem precedes (h : s.Connected new t) : s.Precedes t := by
  induction h with
  | nil => exact .refl _
  | cons _ hx _ ih => exact (of_connect_advanced hx).2.2.1.trans ih

theorem flags (h : s.Connected new t) : t.synced = s.synced ∧ t.pinned = s.pinned := by
  induction h with
  | nil => exact ⟨rfl, rfl⟩
  | cons _ hx _ ih =>
    obtain ⟨-, -, -, hsync, hpin⟩ := of_connect_advanced hx
    exact ⟨ih.1.trans hsync, ih.2.trans hpin⟩

end Connected

/-- Of some records those at the front are connected. -/
theorem connected_connectAll (start : Nat) (s : Store)
    {records : List (Except HeaderError BlockHeader)}
    (hrecords : ∀ x, .ok x ∈ records → x.raw.length = s.headerSize) :
    ∃ new, s.Connected new (s.connectAll start records).2 ∧ new.length ≤ records.length := by
  induction records generalizing s with
  | nil => exact ⟨[], .nil s, Nat.le_refl _⟩
  | cons r rest ih =>
    cases r with
    | error e => exact ⟨[], .nil s, Nat.zero_le _⟩
    | ok x =>
      have hx := hrecords x List.mem_cons_self
      rw [connectAll]
      rcases hr : s.connect x with ⟨r, t⟩
      by_cases hadvanced : r = .ok .advanced
      · subst hadvanced
        have hsize : t.headerSize = s.headerSize := (of_connect_advanced hr).2.2.1.headerSize_eq
        obtain ⟨new, hnew, hle⟩ := ih t fun y hy => by
          rw [hsize]
          exact hrecords y (List.mem_cons_of_mem _ hy)
        exact ⟨x :: new, .cons hx hr hnew, Nat.succ_le_succ hle⟩
      · obtain rfl := connect_eq_of_not_advanced hr hadvanced
        refine ⟨[], ?_, Nat.zero_le _⟩
        cases r with
        | error e => exact .nil t
        | ok connection =>
          cases connection with
          | advanced => exact absurd rfl hadvanced
          | broken height => exact .nil t

end Store

/-- A batch of `count` headers is not cut into more records. -/
theorem length_split_le {size count : Nat} {raw : List UInt8} (h : raw.length ≤ count * size) :
    (split size raw).length ≤ count := by
  rw [split, List.length_map]
  induction count generalizing raw with
  | zero =>
    obtain rfl := List.length_eq_zero_iff.1 (by omega : raw.length = 0)
    simp [Bytes.pieces]
  | succ n ih =>
    rw [Bytes.pieces]
    split
    · exact Nat.zero_le _
    · rw [Nat.succ_mul] at h
      exact Nat.succ_le_succ (ih (by rw [List.length_drop]; omega))

namespace Synchronizer

/-! ## Going back -/

/-- However going back ends, the synchronizer has come to that stage, and the mark is left. -/
theorem rewind_outcome (s : Synchronizer) :
    (s.rewind.2.phase = .reorgRecovering ∨ s.rewind.2.phase = .exhausted) ∧
      s.rewind.2.store.synced = s.store.synced := by
  rw [rewind]
  split
  · exact ⟨.inr rfl, rfl⟩
  · next tip _ =>
    dsimp only
    split
    · exact ⟨.inr rfl, rfl⟩
    · have hops := Store.synced_runAll_rewindOps s.store
        (min s.settings.rewind (tip - s.store.startPoint + 1)) tip
      split
      · next e t he =>
        rw [he] at hops
        exact ⟨.inl rfl, hops⟩
      · next t he =>
        rw [he] at hops
        exact ⟨.inl rfl, hops⟩

end Synchronizer

/-! ## The steps of a catch-up -/

/-- The answer makes a catch-up go back: the batch has a header that does not continue the chain,
those before it have been stored, and all stored headers are verified. -/
def CatchUp.GoesBack (s : Synchronizer) : (call : CatchUp) → call.query.Answer → Prop
  | .fetching count start, .ok batch =>
    batch.count ≤ count.chunk ∧ ∃ raw linked t,
      batch.raw s.store.headerSize start count.chunk = .ok raw ∧
      s.store.linkedPrefix raw = .ok linked ∧ linked < batch.count ∧
      s.storeLinked (raw.take (linked * s.store.headerSize)) start = (.ok (), t) ∧
      (t.store.synced = true ∨ t.store.loadAndVerify.1 = .ok ())
  | _, _ => False

/-- The ways in which a step of a catch-up ends; `back` tells whether it goes back. -/
inductive CatchUp.Outcome (s : Synchronizer) (back : Prop) :
    Progress CatchUp Nat × Synchronizer → Prop where
  /-- It waits again, or fails. -/
  | on {p : Progress CatchUp Nat} {t : Synchronizer} (stays : ¬ back)
      (result : ∀ n, p ≠ .done (.ok n)) (phase : t.phase = s.phase)
      (synced : t.store.synced = s.store.synced) : Outcome s back (p, t)
  | ended {n : Nat} {t : Synchronizer} (phase : t.phase = .tipFollow)
      (synced : t.store.synced = true) : Outcome s back (.done (.ok n), t)
  /-- Headers are taken away, or there are not enough of them. -/
  | back {p : Progress CatchUp Nat} {t : Synchronizer} (goesBack : back)
      (result : ∀ n, p ≠ .done (.ok n))
      (phase : t.phase = .reorgRecovering ∨ t.phase = .exhausted)
      (synced : t.store.synced = true) : Outcome s back (p, t)

namespace CatchUp

open Synchronizer

variable {s t : Synchronizer} {back : Prop}

theorem waiting_ne_ok (call : CatchUp) (n : Nat) :
    (.waiting call : Progress CatchUp Nat) ≠ .done (.ok n) := by
  intro h
  cases h

theorem error_ne_ok (e : SyncError) (n : Nat) :
    (.done (.error e) : Progress CatchUp Nat) ≠ .done (.ok n) := by
  intro h
  cases h

/-- Only stage and mark of the synchronizer matter. -/
theorem Outcome.of_same {out : Progress CatchUp Nat × Synchronizer} (h : Outcome t back out)
    (hphase : t.phase = s.phase) (hsync : t.store.synced = s.store.synced) :
    Outcome s back out := by
  cases h with
  | on stays result phase synced =>
    exact .on stays result (phase.trans hphase) (synced.trans hsync)
  | ended phase synced => exact .ended phase synced
  | back goesBack result phase synced => exact .back goesBack result phase synced

/-- A catch-up that begins has come nowhere yet, and has not ended. -/
theorem outcome_beginCatchUp (s : Synchronizer) :
    (∀ n, s.beginCatchUp.1 ≠ .done (.ok n)) ∧ s.beginCatchUp.2.phase = .bulkSync ∧
      s.beginCatchUp.2.store.synced = s.store.synced := by
  rw [beginCatchUp]
  dsimp only
  split
  · exact ⟨error_ne_ok _, rfl, rfl⟩
  · split
    · exact ⟨waiting_ne_ok _, rfl, rfl⟩
    · have hload := s.store.synced_loadAndVerify
      split
      · next e t he =>
        rw [he] at hload
        exact ⟨error_ne_ok _, rfl, hload⟩
      · next t he =>
        rw [he] at hload
        exact ⟨waiting_ne_ok _, rfl, hload⟩

theorem outcome_finishCatchUp (hstays : ¬ back) (count : CatchUpCount) :
    Outcome s back (s.finishCatchUp count) := by
  have hload := s.store.synced_loadAndVerify
  rw [finishCatchUp]
  split
  · next e t he =>
    rw [he] at hload
    exact .on hstays (error_ne_ok _) rfl hload
  · next t he =>
    refine .ended rfl ?_
    dsimp only
    split <;> rfl

theorem outcome_goBack (count : CatchUpCount)
    (hback : back ↔ s.store.synced = true ∨ s.store.loadAndVerify.1 = .ok ()) :
    Outcome s back (s.goBack count) := by
  have hgone {u v : Synchronizer} {r : Except SyncError Unit} (hgoes : back)
      (hsync : u.store.synced = true) (he : u.rewind = (r, v)) {p : Progress CatchUp Nat}
      (hresult : ∀ n, p ≠ .done (.ok n)) : Outcome s back (p, v) := by
    obtain ⟨hphase, hsame⟩ := rewind_outcome u
    rw [he] at hphase hsame
    exact .back hgoes hresult hphase (hsame.trans hsync)
  rw [goBack]
  by_cases hsync : s.store.synced = true
  · have hgoes := hback.2 (.inl hsync)
    simp only [hsync, if_true]
    split
    · next he => exact hgone hgoes hsync he (error_ne_ok _)
    · next he => exact hgone hgoes hsync he (waiting_ne_ok _)
  · rw [if_neg hsync]
    have hload := s.store.synced_loadAndVerify
    rcases he : s.store.loadAndVerify with ⟨r, t⟩
    rw [he] at hback hload
    cases r with
    | error e =>
      refine .on (fun h => ?_) (error_ne_ok _) rfl hload
      rcases hback.1 h with h | h
      · exact hsync h
      · cases h
    | ok =>
      have hgoes := hback.2 (.inr rfl)
      dsimp only
      split
      · next he => exact hgone hgoes rfl he (error_ne_ok _)
      · next he => exact hgone hgoes rfl he (waiting_ne_ok _)

/-- A batch ends the catch-up, is followed by another one, or makes the catch-up go back. -/
theorem outcome_afterBatch (count : CatchUpCount) (batch : HeaderBatch) (linked : Nat)
    (hback : back ↔ linked < batch.count ∧
      (s.store.synced = true ∨ s.store.loadAndVerify.1 = .ok ())) :
    Outcome s back (s.afterBatch count batch linked) := by
  rw [afterBatch]
  dsimp only
  split
  · next hlt =>
    refine outcome_goBack _ (hback.trans ?_)
    simp only [hlt, true_and]
  · next hge =>
    have hstays : ¬ back := fun h => hge (hback.1 h).1
    split
    · exact .on hstays (waiting_ne_ok _) rfl rfl
    · split
      · exact outcome_finishCatchUp hstays _
      · exact .on hstays (waiting_ne_ok _) rfl rfl

/-- Storing headers leaves the stage and the mark. -/
theorem storeLinked_outcome {raw : List UInt8} {start : Nat} {r : Except ChainError Unit}
    {t : Synchronizer} (h : s.storeLinked raw start = (r, t)) :
    t.phase = s.phase ∧ t.store.synced = s.store.synced := by
  rw [storeLinked] at h
  split at h
  · obtain ⟨-, rfl⟩ := Prod.mk.inj h
    exact ⟨rfl, rfl⟩
  · split at h
    · obtain ⟨-, rfl⟩ := Prod.mk.inj h
      exact ⟨rfl, rfl⟩
    · next u hu =>
      obtain ⟨-, rfl⟩ := Prod.mk.inj h
      exact ⟨rfl, (Store.synced_putAll u _ _).trans (Store.flags_of_append hu).1⟩

/-- What makes a catch-up go back is about the batch that has just been stored. -/
theorem goesBack_iff {count : CatchUpCount} {start linked : Nat} {batch : HeaderBatch}
    {raw : List UInt8} {r : Except ChainError Unit} (hnarrow : batch.count ≤ count.chunk)
    (hraw : batch.raw s.store.headerSize start count.chunk = .ok raw)
    (hlinked : s.store.linkedPrefix raw = .ok linked)
    (hstore : s.storeLinked (raw.take (linked * s.store.headerSize)) start = (r, t)) :
    GoesBack s (.fetching count start) (.ok batch) ↔ r = .ok () ∧ linked < batch.count ∧
      (t.store.synced = true ∨ t.store.loadAndVerify.1 = .ok ()) := by
  constructor
  · rintro ⟨-, raw', linked', t', hraw', hlinked', hlt, hstore', hverified⟩
    obtain rfl := Except.ok.inj (hraw.symm.trans hraw')
    obtain rfl := Except.ok.inj (hlinked.symm.trans hlinked')
    obtain ⟨rfl, rfl⟩ := Prod.mk.inj (hstore.symm.trans hstore')
    exact ⟨rfl, hlt, hverified⟩
  · rintro ⟨rfl, hlt, hverified⟩
    exact ⟨hnarrow, raw, linked, t, hraw, hlinked, hlt, hstore, hverified⟩

/-- A batch that is refused ends the call, and one that is stored is followed up. -/
theorem outcome_takeBatch (s : Synchronizer) (count : CatchUpCount) (start : Nat)
    (batch : HeaderBatch) :
    Outcome s (GoesBack s (.fetching count start) (.ok batch)) (s.takeBatch count start batch) := by
  have hfails (e : SyncError) (h : ¬ GoesBack s (.fetching count start) (.ok batch)) :
      Outcome s (GoesBack s (.fetching count start) (.ok batch)) (s.failed e) :=
    .on h (error_ne_ok _) rfl rfl
  rw [takeBatch]
  split
  · next hwide => exact hfails _ fun h => absurd h.1 (Nat.not_le.2 hwide)
  next hwide =>
  split
  · next e he =>
    refine hfails _ ?_
    rintro ⟨-, raw, linked, t, hraw, -⟩
    rw [he] at hraw
    cases hraw
  next raw hraw =>
  split
  · next e he =>
    refine hfails _ ?_
    rintro ⟨-, raw', linked, t, hraw', hlinked, -⟩
    obtain rfl := Except.ok.inj (hraw.symm.trans hraw')
    rw [he] at hlinked
    cases hlinked
  next linked hlinked =>
  split
  · next e t hstore =>
    obtain ⟨hphase, hsync⟩ := storeLinked_outcome hstore
    refine .on (fun h => ?_) (error_ne_ok _) hphase hsync
    cases ((goesBack_iff (Nat.not_lt.1 hwide) hraw hlinked hstore).1 h).1
  · next t hstore =>
    obtain ⟨hphase, hsync⟩ := storeLinked_outcome hstore
    have hback := goesBack_iff (Nat.not_lt.1 hwide) hraw hlinked hstore
    simp only [true_and] at hback
    exact (outcome_afterBatch count batch linked hback).of_same hphase hsync

/-- **A step of a catch-up waits or fails, ends the catch-up, or goes back.** -/
theorem outcome_resumeCatchUp (s : Synchronizer) (call : CatchUp) (answer : call.query.Answer) :
    Outcome s (call.GoesBack s answer) (s.resumeCatchUp call answer) := by
  cases call with
  | asking count waits =>
    simp only [resumeCatchUp]
    split
    · exact .on id (waiting_ne_ok _) rfl rfl
    · exact .on id (waiting_ne_ok _) rfl rfl
  | pausing count waits => exact .on id (waiting_ne_ok _) rfl rfl
  | fetching count start =>
    cases answer with
    | error e => exact .on id (error_ne_ok _) rfl rfl
    | ok batch => exact outcome_takeBatch s count start batch

end CatchUp

/-! ## The steps of the handling of a tip -/

/-- A call that waits goes on with the header at a height no lower than `low`, for the tip `work`. -/
def TipUpdate.At (work : TipWork) (low : Nat) : TipUpdate → Prop
  | .batch work' _ start count => work' = work ∧ low ≤ start ∧ start + count ≤ work.height
  | .single work' _ height => work' = work ∧ low ≤ height ∧ height < work.height

/-- The ways in which a step of the handling of a tip ends, which begins at a height no lower than
`low`. First some headers are connected, none of them above the tip. -/
inductive TipUpdate.Outcome (s : Synchronizer) (work : TipWork) (low : Nat) :
    Progress TipUpdate TipOutcome × Synchronizer → Prop where
  | waits {new : List BlockHeader} {t : Store} {call : TipUpdate}
      (connected : s.store.Connected new t) (ready : call.Ready t)
      (at_tip : call.At work (low + new.length)) :
      Outcome s work low (.waiting call, { s with store := t })
  | ends {new : List BlockHeader} {t : Store} {r : Except SyncError TipOutcome}
      (connected : s.store.Connected new t) (below : new.length ≤ work.height + 1 - low)
      (result : r ≠ .ok .advanced) : Outcome s work low (.done r, { s with store := t })
  /-- The tip is connected. -/
  | advances {new : List BlockHeader} {t : Store} (connected : s.store.Connected new t)
      (stored : new ≠ []) (below : new.length ≤ work.height + 1 - low) :
      Outcome s work low ({ s with store := t }.settle work .advanced)
  /-- Some header does not connect. -/
  | breaks {new : List BlockHeader} {t : Store} (connected : s.store.Connected new t)
      (below : new.length ≤ work.height + 1 - low) (height : Nat) :
      Outcome s work low ({ s with store := t }.settle work (.broken height))

namespace TipUpdate

open Synchronizer

variable {s : Synchronizer} {work : TipWork} {low : Nat} {notified : BlockHeader}

/-- What a call does once it has connected some headers, it does in the same step. -/
theorem Outcome.after {new : List BlockHeader} {t : Store}
    {out : Progress TipUpdate TipOutcome × Synchronizer} (h : s.store.Connected new t)
    (hle : new.length ≤ work.height + 1 - low)
    (k : Outcome { s with store := t } work (low + new.length) out) : Outcome s work low out := by
  cases k with
  | waits connected ready at_tip =>
    refine .waits (h.append connected) ready ?_
    rwa [List.length_append, ← Nat.add_assoc]
  | ends connected below result =>
    refine .ends (h.append connected) ?_ result
    rw [List.length_append]
    omega
  | advances connected stored below =>
    refine .advances (h.append connected) (List.append_ne_nil_of_right_ne_nil _ stored) ?_
    rw [List.length_append]
    omega
  | breaks connected below height =>
    refine .breaks (h.append connected) ?_ height
    rw [List.length_append]
    omega

theorem error_ne_advanced (e : SyncError) :
    (.error e : Except SyncError TipOutcome) ≠ .ok .advanced := by
  intro h
  cases h

theorem outcome_failed (e : SyncError) : Outcome s work low (s.failed e) :=
  .ends (.nil s.store) (Nat.zero_le _) (error_ne_advanced e)

theorem outcome_connectNotified (hsize : notified.raw.length = s.store.headerSize)
    (hlow : low ≤ work.height) : Outcome s work low (s.connectNotified work notified) := by
  rw [connectNotified]
  rcases hr : s.store.connect notified with ⟨r, t⟩
  by_cases hadvanced : r = .ok .advanced
  · subst hadvanced
    have hone := Store.Connected.single hsize hr
    exact .advances hone (List.cons_ne_nil _ _) (by rw [List.length_singleton]; omega)
  · obtain rfl := Store.connect_eq_of_not_advanced hr hadvanced
    cases r with
    | error e => exact outcome_failed _
    | ok connection =>
      cases connection with
      | advanced => exact absurd rfl hadvanced
      | broken height => exact .breaks (.nil s.store) (Nat.zero_le _) height

theorem outcome_nextBatch (hsize : notified.raw.length = s.store.headerSize) {start : Nat}
    (hlow : low ≤ start) (hstart : start ≤ work.height) :
    Outcome s work low (s.nextBatch work notified start) := by
  rw [nextBatch]
  split
  · exact .waits (.nil s.store) hsize ⟨rfl, hlow, by omega⟩
  · exact outcome_connectNotified hsize (by omega)

theorem outcome_nextSingle (hsize : notified.raw.length = s.store.headerSize) {height : Nat}
    (hlow : low ≤ height) (hheight : height ≤ work.height) :
    Outcome s work low (s.nextSingle work notified height) := by
  rw [nextSingle]
  split
  · next hlt => exact .waits (.nil s.store) hsize ⟨rfl, hlow, hlt⟩
  · exact outcome_connectNotified hsize (by omega)

/-- A call that begins ends at once, or goes on with the header on top of the stored ones. -/
theorem outcome_beginTip (s : Synchronizer) (work : TipWork) :
    Outcome s work s.store.nextHeight (s.beginTip work) := by
  rw [beginTip]
  split
  · exact outcome_failed _
  · split
    · refine .ends (.nil s.store) (Nat.zero_le _) fun h => ?_
      rw [onStale] at h
      split at h
      · cases h
      · split at h <;> cases h
    · next hnext =>
      split
      · exact outcome_failed _
      · next notified hnotified =>
        have hsize := length_raw_of_ofHex hnotified
        split
        · exact outcome_nextBatch hsize (Nat.le_refl _) (Nat.not_lt.1 hnext)
        · exact outcome_nextSingle hsize (Nat.le_refl _) (Nat.not_lt.1 hnext)

/-- Fetched records are connected before the call goes on. -/
theorem outcome_connectFetched (start : Nat) {count : Nat}
    {records : List (Except HeaderError BlockHeader)}
    (hrecords : ∀ x, .ok x ∈ records → x.raw.length = s.store.headerSize)
    (hcount : records.length ≤ count) (hle : low + count ≤ work.height + 1)
    {next : Synchronizer → Progress TipUpdate TipOutcome × Synchronizer}
    (hnext : ∀ new t, s.store.Connected new t → new.length ≤ count →
      Outcome { s with store := t } work (low + new.length) (next { s with store := t })) :
    Outcome s work low (s.connectFetched work start records next) := by
  obtain ⟨new, hnew, hlen⟩ := Store.connected_connectAll start s.store hrecords
  have hbelow : new.length ≤ work.height + 1 - low := by omega
  rw [connectFetched]
  split
  · next e t he =>
    rw [he] at hnew
    exact .ends hnew hbelow (error_ne_advanced _)
  · next t he =>
    rw [he] at hnew
    exact (hnext new t hnew (by omega)).after hnew hbelow
  · next height t he =>
    rw [he] at hnew
    exact .breaks hnew hbelow height

/-- **A step of the handling of a tip connects some headers, and then waits, ends, or settles.** -/
theorem outcome_resumeTip {call : TipUpdate} (hready : call.Ready s.store)
    (hat : call.At work low) (answer : call.query.Answer) :
    Outcome s work low (s.resumeTip call answer) := by
  cases call with
  | batch work' notified start count =>
    obtain ⟨rfl, hlow, hend⟩ := hat
    cases answer with
    | error e => exact outcome_failed _
    | ok batch =>
      simp only [resumeTip]
      split
      · exact outcome_failed _
      next hcount =>
      split
      · exact outcome_failed _
      next raw hraw =>
      have hlen : raw.length ≤ count * s.store.headerSize := by
        rw [HeaderBatch.raw] at hraw
        split at hraw
        · cases hraw
        next hbytes =>
        split at hraw
        · cases hraw
        next bytes hdecode =>
        obtain rfl := Except.ok.inj hraw
        have htwice := Hex.utf8ByteSize_of_decode hdecode
        rw [not_not.1 hbytes, not_not.1 hcount] at htwice
        omega
      refine outcome_connectFetched start (fun x hx => length_raw_of_mem_split hx)
        (length_split_le hlen) (by omega) fun new t hnew hle => ?_
      have hsize : notified.raw.length = t.headerSize :=
        hready.trans hnew.precedes.headerSize_eq.symm
      exact outcome_nextBatch hsize (by omega) hend
  | single work' notified height =>
    obtain ⟨rfl, hlow, hlt⟩ := hat
    cases answer with
    | error e => exact outcome_failed _
    | ok text =>
      simp only [resumeTip]
      refine outcome_connectFetched height
        (fun x hx => length_raw_of_ofHex (List.mem_singleton.1 hx).symm) (Nat.le_refl 1) (by omega)
        fun new t hnew hle => ?_
      have hsize : notified.raw.length = t.headerSize :=
        hready.trans hnew.precedes.headerSize_eq.symm
      exact outcome_nextSingle hsize (by omega) hlt

/-- A call that waits has connected some headers so far. -/
theorem Outcome.of_waiting {call : TipUpdate} {u : Synchronizer}
    (h : Outcome s work low (.waiting call, u)) :
    ∃ new t, s.store.Connected new t ∧ u = { s with store := t } ∧ call.Ready t ∧
      call.At work (low + new.length) := by
  generalize hout : ((.waiting call, u) : Progress TipUpdate TipOutcome × Synchronizer) = out at h
  cases h with
  | waits connected ready at_tip =>
    obtain ⟨hcall, rfl⟩ := Prod.mk.inj hout
    cases hcall
    exact ⟨_, _, connected, rfl, ready, at_tip⟩
  | ends connected below result => cases hout
  | advances connected stored below => cases hout
  | breaks connected below height =>
    rw [settle] at hout
    split at hout <;> cases hout

/-- The handling of a tip leaves the mark, and does not return to catching up. -/
theorem Outcome.frame {out : Progress TipUpdate TipOutcome × Synchronizer}
    (h : Outcome s work low out) :
    out.2.store.synced = s.store.synced ∧ (s.phase ≠ .bulkSync → out.2.phase ≠ .bulkSync) := by
  cases h with
  | waits connected ready at_tip => exact ⟨connected.flags.1, id⟩
  | ends connected below result => exact ⟨connected.flags.1, id⟩
  | advances connected stored below =>
    refine ⟨connected.flags.1, fun _ h => ?_⟩
    cases h
  | @breaks new t connected below height =>
    obtain ⟨hphase, hsync⟩ := rewind_outcome { s with store := t }
    have hbeyond : ({ s with store := t } : Synchronizer).rewind.2.phase ≠ .bulkSync := by
      intro h
      rcases hphase with hp | hp <;> rw [hp] at h <;> cases h
    rw [settle]
    split
    · next e u he =>
      rw [he] at hsync hbeyond
      exact ⟨hsync.trans connected.flags.1, fun _ => hbeyond⟩
    · next u he =>
      rw [he] at hsync hbeyond
      exact ⟨hsync.trans connected.flags.1, fun _ => hbeyond⟩

/-- What holds of a call for a tip from some height on holds of it from a lower one on. -/
theorem At.of_le {call : TipUpdate} {low' : Nat} (h : call.At work low) (hle : low' ≤ low) :
    call.At work low' := by
  cases call with
  | batch work' notified start count => exact ⟨h.1, Nat.le_trans hle h.2.1, h.2.2⟩
  | single work' notified height => exact ⟨h.1, Nat.le_trans hle h.2.1, h.2.2⟩

theorem At.le {call : TipUpdate} (h : call.At work low) : low ≤ work.height := by
  cases call with
  | batch work' notified start count =>
    obtain ⟨-, hlow, hend⟩ := h
    omega
  | single work' notified height =>
    obtain ⟨-, hlow, hlt⟩ := h
    omega

/-- **A call for a tip that has returned** has connected some headers, none of them above the tip,
and has ended there or has settled. -/
theorem outcome_of_run {ω : Type} {source : Machine.Source ω} {fuel : Nat}
    {p : Progress TipUpdate TipOutcome × Synchronizer} {r : Except SyncError TipOutcome}
    {t : Synchronizer} {w v : ω} (h : Outcome s work low p)
    (hrun : TipUpdate.machine.run source fuel p w = (some r, t, v)) :
    Outcome s work low (.done r, t) := by
  induction fuel generalizing p w with
  | zero =>
    rcases p with ⟨call | result, u⟩
    · cases hrun
    · cases hrun
      exact h
  | succ fuel ih =>
    rcases p with ⟨call | result, u⟩
    · obtain ⟨new, t, hnew, rfl, hready, hat⟩ := h.of_waiting
      have hle := hat.le
      exact ih ((outcome_resumeTip hready hat _).after hnew (by omega)) hrun
    · cases hrun
      exact h

end TipUpdate
end HeaderFollower
