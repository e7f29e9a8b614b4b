/-
# When a store is marked as synced

The mark tells readers that a catch-up has been completed, and it is also what allows the file to be
cut. A catch-up that meets a break has to cut the file, so it sets the mark itself before it goes
back. `Keeper.synced_iff` says that there is no third way to come by the mark, and that it is never
taken away; `Keeper.synced_early` is a run in which a store has the mark though the only catch-up of
the run has failed.
-/

import HeaderFollower.Proofs.Sync.Outcome
import HeaderFollower.Proofs.Sync.Recovery
import HeaderFollower.Proofs.Sync.Run
import Mathlib.Logic.Relation

namespace HeaderFollower

open BlockHeader Store

namespace Keeper

variable {start size : Nat} {content : Option (List UInt8)} {k l : Keeper}
  {e : Option SyncError}

/-- In this step a catch-up goes back. -/
def GoesBack (k l : Keeper) : Prop :=
  ∃ (call : CatchUp) (answer : call.query.Answer), k.task = .catchingUp call ∧
    call.GoesBack k.sync answer ∧ l = k.catchUp (k.sync.resumeCatchUp call answer)

/-- Steps of a run lead from one state to the other. -/
def Leads : Keeper → Keeper → Prop := Relation.ReflTransGen fun k l => ∃ e, k.Step e l

/-- A call for a tip that waits is somewhere below the tip. -/
theorem Reached.at_tip (h : Reached start size content k) {call : TipUpdate}
    (hcall : k.task = .updating call) : ∃ work, call.At work 0 := by
  induction h generalizing call with
  | opened h settings events => cases hcall
  | @step k l e h hs ih =>
    have hupdate (low : Nat) (work : TipWork) (out : Progress TipUpdate TipOutcome × Synchronizer)
        (hout : TipUpdate.Outcome k.sync work low out)
        (hcall : (k.update out).task = .updating call) : ∃ work, call.At work 0 := by
      rcases out with ⟨call' | r, s⟩
      · cases hcall
        obtain ⟨new, t, -, -, -, hat⟩ := hout.of_waiting
        exact ⟨work, hat.of_le (Nat.zero_le _)⟩
      · cases hcall
    have hcatch (out : Progress CatchUp Nat × Synchronizer)
        (hcall : (k.catchUp out).task = .updating call) : ∃ work, call.At work 0 := by
      rcases out with ⟨call' | _ | _, s⟩ <;> cases hcall
    cases hs with
    | beginCatchUp idle => exact hcatch _ hcall
    | resumeCatchUp waits answer => exact hcatch _ hcall
    | beginTip idle caughtUp work =>
      exact hupdate _ _ _ (TipUpdate.outcome_beginTip k.sync work) hcall
    | @resumeTip call' waits answer =>
      have hready := h.ready
      rw [waits] at hready
      obtain ⟨work, hat⟩ := ih waits
      exact hupdate _ _ _ (TipUpdate.outcome_resumeTip hready hat answer) hcall
    | rewind idle caughtUp => exact ih hcall
    | drop => cases hcall
    | renew idle settings events => exact ih hcall
    | refuse refusal? => exact ih hcall

/-- A step of a catch-up that has not ended it leaves `caughtUp` as it was. -/
theorem caughtUp_catchUp {p : Progress CatchUp Nat} {sync : Synchronizer}
    (h : ∀ n, p ≠ .done (.ok n)) : (k.catchUp (p, sync)).caughtUp = k.caughtUp := by
  rcases p with call | r
  · rfl
  · cases r with
    | ok n => exact absurd rfl (h n)
    | error e => rfl

theorem sync_catchUp (out : Progress CatchUp Nat × Synchronizer) : (k.catchUp out).sync = out.2 := by
  rcases out with ⟨call | _ | _, sync⟩ <;> rfl

theorem sync_update (out : Progress TipUpdate TipOutcome × Synchronizer) :
    (k.update out).sync = out.2 ∧ (k.update out).caughtUp = k.caughtUp := by
  rcases out with ⟨call | _, sync⟩ <;> exact ⟨rfl, rfl⟩

/-- **A step sets the mark if it completes a catch-up or goes back in one, and leaves it otherwise.**
-/
theorem Reached.step_synced (h : Reached start size content k) (hs : k.Step e l) :
    l.store.synced = true ∧ (l.caughtUp = true ∨ GoesBack k l) ∨
      l.store.synced = k.store.synced ∧ l.caughtUp = k.caughtUp := by
  have hupdate (low : Nat) (work : TipWork) (out : Progress TipUpdate TipOutcome × Synchronizer)
      (hout : TipUpdate.Outcome k.sync work low out) :
      (k.update out).store.synced = k.store.synced ∧ (k.update out).caughtUp = k.caughtUp := by
    obtain ⟨hsync, hcaught⟩ := k.sync_update out
    rw [store, hsync]
    exact ⟨hout.frame.1, hcaught⟩
  cases hs with
  | beginCatchUp idle =>
    obtain ⟨hresult, -, hsynced⟩ := CatchUp.outcome_beginCatchUp k.sync
    refine .inr ⟨?_, caughtUp_catchUp hresult⟩
    rw [store, sync_catchUp]
    exact hsynced
  | @resumeCatchUp call waits answer =>
    have hout := CatchUp.outcome_resumeCatchUp k.sync call answer
    have hback (hgoes : call.GoesBack k.sync answer) :
        GoesBack k (k.catchUp (k.sync.resumeCatchUp call answer)) :=
      ⟨call, answer, waits, hgoes, rfl⟩
    revert hout
    generalize k.sync.resumeCatchUp call answer = out at hback ⊢
    rw [store, sync_catchUp]
    rintro (⟨-, hresult, -, hsync⟩ | ⟨-, hsync⟩ | ⟨hgoes, -, -, hsync⟩)
    · exact .inr ⟨hsync, caughtUp_catchUp hresult⟩
    · exact .inl ⟨hsync, .inl rfl⟩
    · exact .inl ⟨hsync, .inr (hback hgoes)⟩
  | beginTip idle caughtUp work =>
    exact .inr (hupdate _ _ _ (TipUpdate.outcome_beginTip k.sync work))
  | @resumeTip call waits answer =>
    have hready := h.ready
    rw [waits] at hready
    obtain ⟨work, hat⟩ := h.at_tip waits
    exact .inr (hupdate _ _ _ (TipUpdate.outcome_resumeTip hready hat answer))
  | rewind idle caughtUp => exact .inr ⟨(Synchronizer.rewind_outcome k.sync).2, rfl⟩
  | drop => exact .inr ⟨rfl, rfl⟩
  | renew idle settings events => exact .inr ⟨rfl, rfl⟩
  | refuse refusal? => exact .inr ⟨rfl, rfl⟩

theorem Reached.of_leads (h : Reached start size content k) (hl : Leads k l) :
    Reached start size content l := by
  induction hl with
  | refl => exact h
  | tail _ hs ih =>
    obtain ⟨e, hs⟩ := hs
    exact ih.step hs

/-- The mark stays. -/
theorem Reached.synced_of_leads (h : Reached start size content k) (hl : Leads k l)
    (hk : k.store.synced = true) : l.store.synced = true := by
  induction hl with
  | refl => exact hk
  | tail hl hs ih =>
    obtain ⟨e, hs⟩ := hs
    rcases (h.of_leads hl).step_synced hs with ⟨hsync, -⟩ | ⟨hsync, -⟩
    · exact hsync
    · exact hsync.trans ih

/-- **A store is marked as synced exactly if a catch-up over it has been completed, or one has gone
back.** This holds at every moment of a run, whatever the file held, whatever the server answers and
wherever calls fail or are dropped. -/
theorem synced_iff (h : Reached start size content k) :
    k.store.synced = true ↔ k.caughtUp = true ∨
      ∃ j l, Reached start size content j ∧ GoesBack j l ∧ Leads l k := by
  constructor
  · induction h with
    | @opened s hopen settings events =>
      intro hsync
      have hnot := (untouched_opened hopen settings events).2.not_synced
      rw [hnot] at hsync
      cases hsync
    | @step k l e h hs ih =>
      intro hsync
      rcases h.step_synced hs with ⟨-, hcaught | hback⟩ | ⟨hsame, hcaught⟩
      · exact .inl hcaught
      · exact .inr ⟨k, l, h, hback, .refl⟩
      · rcases ih (hsame.symm.trans hsync) with hk | ⟨j, m, hj, hback, hleads⟩
        · exact .inl (hcaught.trans hk)
        · exact .inr ⟨j, m, hj, hback, hleads.tail ⟨e, hs⟩⟩
  · rintro (hcaught | ⟨j, m, hj, hback, hleads⟩)
    · induction h with
      | opened hopen settings events => cases hcaught
      | @step k l e h hs ih =>
        rcases h.step_synced hs with ⟨hsync, -⟩ | ⟨hsame, hcaught'⟩
        · exact hsync
        · exact hsame.trans (ih (hcaught'.symm.trans hcaught))
    · obtain ⟨call, answer, hwaits, hgoes, rfl⟩ := hback
      have hs : j.Step _ _ := .resumeCatchUp hwaits answer
      refine (hj.step hs).synced_of_leads hleads ?_
      have hout := CatchUp.outcome_resumeCatchUp j.sync call answer
      rw [store, sync_catchUp]
      revert hout
      generalize j.sync.resumeCatchUp call answer = out
      rintro (⟨hstays, -, -, -⟩ | ⟨-, hsync⟩ | ⟨-, -, -, hsync⟩)
      · exact absurd hgoes hstays
      · exact hsync
      · exact hsync

theorem synced_iff_fetched : fetched.caughtUp = true ∧ fetched.store.synced = true := by
  have hcaught : fetched.caughtUp = true := by decide +kernel
  exact ⟨hcaught, (synced_iff reached_fetched).2 (.inl hcaught)⟩

/-! ## A mark that is set too early -/

/-- The first catch-up over a new file has got this batch and has gone back. -/
def wentBack : Keeper :=
  fetching.catchUp (fetching.sync.resumeCatchUp (.fetching ⟨2016, 0, 0⟩ 0) (.ok unlinkedBatch))

/-- It asks for the headers anew. -/
def askedAnew : Keeper :=
  wentBack.catchUp (wentBack.sync.resumeCatchUp (.asking ⟨2016, 2, 0⟩ 0) false)

/-- The connection is lost. -/
def lost : Keeper :=
  askedAnew.catchUp
    (askedAnew.sync.resumeCatchUp (.fetching ⟨2016, 2, 0⟩ wentBack.store.nextHeight)
      (.error .closed))

/-- While the session cost is low, the next request is made at once. -/
theorem catchUp_asking (k : Keeper) (count : CatchUpCount) :
    k.catchUp (k.sync.resumeCatchUp (.asking count 0) false) =
      { k with task := .catchingUp (.fetching count k.store.nextHeight), loaded := true } := by
  rw [Synchronizer.resumeCatchUp_asking]
  rfl

/-- The catch-up over the new file waits for headers from the start point on. -/
theorem exists_fetching_eq :
    ∃ t, t.Has 0 80 [] none ∧ fetching = { fresh with
      sync := { fresh.sync with store := t, phase := .bulkSync }
      task := .catchingUp (.fetching ⟨2016, 0, 0⟩ 0), loaded := true } := by
  have hfresh : fresh.store.Has 0 80 [] none := .of_empty 0 80
  obtain ⟨t, ht, hbegin⟩ := Synchronizer.beginCatchUp_eq hfresh (by decide)
  have hasking : asking = { fresh with
      sync := { fresh.sync with store := t, phase := .bulkSync }
      task := .catchingUp (.asking ⟨2016, 0, 0⟩ 0), loaded := true } := by
    rw [asking, hbegin]
    rfl
  have hnext : t.nextHeight = 0 := ht.nextHeight
  refine ⟨t, ht, ?_⟩
  rw [fetching, catchUp_asking, hasking, store, hnext]

/-- **A store can be marked as synced though no catch-up has been completed.** The only catch-up of
the run goes back, and then fails. -/
theorem synced_early :
    Reached 0 80 none lost ∧ lost.task = .idle ∧ lost.caughtUp = false ∧
      lost.store.synced = true := by
  obtain ⟨s, hs, hfetching⟩ := exists_fetching_eq
  have hset : fetching.sync.settings.rewind = 8 := by
    rw [hfetching]
    rfl
  have hheld : fetching.sync.store.Has 0 80 [] none := by
    rw [hfetching]
    exact hs
  obtain ⟨t, htake, hsync⟩ := Synchronizer.takeBatch_unlinkedBatch hheld (by rw [hset]; decide)
  have hwent : wentBack = { fetching with
      sync := { fetching.sync with store := t, phase := .reorgRecovering }
      task := .catchingUp (.asking ⟨2016, 2, 0⟩ 0), loaded := true } := by
    rw [wentBack, Synchronizer.resumeCatchUp, htake]
    rfl
  have hasked : askedAnew = { wentBack with
      task := .catchingUp (.fetching ⟨2016, 2, 0⟩ wentBack.store.nextHeight), loaded := true } :=
    catchUp_asking wentBack ⟨2016, 2, 0⟩
  have hlost : lost = { askedAnew with task := .idle } := rfl
  have hback : Reached 0 80 none wentBack := reached_fetching.step (.resumeCatchUp task_fetching _)
  have hanew : Reached 0 80 none askedAnew := by
    have hwaits : wentBack.task = .catchingUp (.asking ⟨2016, 2, 0⟩ 0) := by rw [hwent]
    exact hback.step (.resumeCatchUp hwaits false)
  refine ⟨?_, by rw [hlost], ?_, ?_⟩
  · have hwaits : askedAnew.task =
        .catchingUp (.fetching ⟨2016, 2, 0⟩ wentBack.store.nextHeight) := by rw [hasked]
    exact hanew.step (.resumeCatchUp hwaits (Except.error ClientError.closed))
  · rw [hlost, hasked, hwent, hfetching]
    rfl
  · rw [hlost, hasked, hwent]
    exact hsync

end Keeper
end HeaderFollower
