/-
# Every call comes back

Under a schedule that gives everybody a turn again and again, and lets time go on, every call ends.
A turn that a stage waits for takes the call on (`rank_lt_proceed`, `rank_lt_timeOut`); only a call
that waits for the end of the connection needs more: the reader sees that all have to stop, the
connection is torn down step by step, and by then the call has been told.
-/

import HeaderFollower.Proofs.Client.Schedule
import Mathlib.Data.Nat.Pairing

namespace HeaderFollower
namespace Client

variable {s : Client} {c d id : Nat} {call : ClientCall} {settings : ClientSettings}
  {schedule : Nat → ClientAction} {m n : Nat}

/-- Everybody gets a turn again and again, and time goes on. -/
structure Fair (settings : ClientSettings) (schedule : Nat → ClientAction) : Prop where
  proceeds : ∀ c n : Nat, ∃ m, n ≤ m ∧ schedule m = .proceed c
  timesOut : ∀ c n : Nat, ∃ m, n ≤ m ∧ schedule m = .timeOut c
  stopsReading : ∀ n : Nat, ∃ m, n ≤ m ∧ schedule m = .stopReading
  tearsDown : ∀ n : Nat, ∃ m, n ≤ m ∧ schedule m = .tearDown
  clock : ∀ time : Nat, ∃ n, time ≤ (states settings schedule n).now

/-! ## The turn that a stage waits for -/

theorem getElem?_goto (here : s.calls[c]? = some call) (stage : CallStage) :
    (s.goto c stage).calls[c]? = some { call with stage } := by
  rw [calls_goto here, List.getElem?_set_self]
  exact (List.getElem?_eq_some_iff.mp here).1

/-- The call has gone on in a step. -/
theorem exists_onward {t u : Client} {stage : CallStage} {k : Nat}
    (here : u.calls[c]? = some call) (ht : t.calls = (u.goto c stage).calls)
    (hrank : k < stage.rank) : ∃ after, t.calls[c]? = some after ∧ k < after.stage.rank :=
  ⟨_, (congrArg (·[c]?) ht).trans (getElem?_goto here stage), hrank⟩

theorem rank_lt_afterRelease {why : WriteEnd} (here : s.calls[c]? = some call)
    (stage : call.stage = .released id why) :
    ∃ after, (s.afterRelease c id why).1.calls[c]? = some after ∧
      call.stage.rank < after.stage.rank := by
  have hmark (u : Client) (cancelled : Bool) (hu : u.calls = s.calls) :
      (u.beginClosing cancelled).calls[c]? = some call := by
    rw [calls_beginClosing, hu, here]
  cases why with
  | timedOut =>
    refine exists_onward (hmark ((s.unregister id).charge (some c) .error).1 false rfl) rfl ?_
    simp [stage, CallStage.rank]
  | cancelled =>
    refine exists_onward (hmark (s.unregister id) false rfl) rfl ?_
    simp [stage, CallStage.rank]
  | failed text =>
    refine exists_onward (hmark (s.unregister id) false rfl) rfl ?_
    simp [stage, CallStage.rank]
  | shutdown =>
    refine exists_onward (hmark s true rfl) rfl ?_
    simp [stage, CallStage.rank]

/-- A call that is neither writing nor waiting goes on in its next turn. -/
theorem rank_lt_proceed (here : s.calls[c]? = some call)
    (hstage : call.stage.rank < 4 ∨ ∃ id why, call.stage = .released id why) :
    ∃ after, (s.proceed c).1.calls[c]? = some after ∧ call.stage.rank < after.stage.rank := by
  simp only [proceed, here]
  rcases hstage with hlow | ⟨id, why, stage⟩
  · cases stage : call.stage with
    | entered =>
      dsimp only
      split <;> exact exists_onward here rfl (by simp [CallStage.rank])
    | admitted =>
      simp only [number]
      split <;> exact exists_onward here rfl (by simp [CallStage.rank])
    | numbered id frame => exact exists_onward here rfl (by simp [CallStage.rank])
    | registered id frame =>
      simp only [enqueue]
      split
      · exact exists_onward (u := s.unregister id) here rfl (by simp [CallStage.rank])
      · exact exists_onward here rfl (by simp [CallStage.rank])
    | _ => simp [stage, CallStage.rank] at hlow
  · have h := rank_lt_afterRelease here stage
    simp only [stage] at h ⊢
    exact h

/-- A call whose time is over goes on when it sees so. -/
theorem rank_lt_timeOut {deadline : Nat} (here : s.calls[c]? = some call)
    (hdeadline : call.stage.deadline? = some deadline) (hle : deadline ≤ s.now) :
    ∃ after, (s.timeOut c).1.calls[c]? = some after ∧ call.stage.rank < after.stage.rank := by
  have hstage? : s.stage? c = some call.stage := stage?_eq_some.mpr ⟨call, here, rfl⟩
  simp only [timeOut, hstage?]
  cases stage : call.stage with
  | queued id frame time =>
    obtain rfl : time = deadline := by simpa [stage, CallStage.deadline?] using hdeadline
    simp only [if_pos hle]
    exact exists_onward
      (u := (((s.leaveWriter (.call c)).unregister id).charge (some c) .error).1) here rfl
      (by simp [CallStage.rank])
  | writing id frame time =>
    obtain rfl : time = deadline := by simpa [stage, CallStage.deadline?] using hdeadline
    simp only [if_pos hle]
    exact exists_onward (u := s.releaseWriter) here rfl (by simp [CallStage.rank])
  | waiting id time =>
    obtain rfl : time = deadline := by simpa [stage, CallStage.deadline?] using hdeadline
    simp only [if_pos hle]
    exact exists_onward (u := ((s.unregister id).charge (some c) .error).1) here rfl
      (by simp [CallStage.rank])
  | _ => simp [stage, CallStage.deadline?] at hdeadline

/-- A call that waits for the end of the connection ends once it has been told. -/
theorem rank_lt_parked {r : Except ClientError Json} (here : s.calls[c]? = some call)
    (stage : call.stage = .parked id) (hr : call.inbox = some r) :
    ∃ after, (s.proceed c).1.calls[c]? = some after ∧ call.stage.rank < after.stage.rank := by
  simp only [proceed, here, stage, takeInbox, hr]
  exact exists_onward here rfl (by simp [CallStage.rank])

/-! ## The connection is torn down -/

/-- A closed connection stays as far as it is until the next step of tearing it down. -/
theorem Fair.exists_tearDown (fair : Fair settings schedule)
    (hclosed : (states settings schedule n).closing ≠ .notYet) :
    ∃ m, n ≤ m ∧ (states settings schedule m).closing = (states settings schedule n).closing ∧
      schedule m = .tearDown := by
  obtain ⟨k, hk, htear⟩ := fair.tearsDown n
  obtain ⟨j, rfl⟩ := Nat.exists_eq_add_of_le hk
  clear hk
  induction j generalizing n with
  | zero => exact ⟨n, Nat.le_refl n, rfl, htear⟩
  | succ j ih =>
    by_cases hn : schedule n = .tearDown
    · exact ⟨n, Nat.le_refl n, rfl, hn⟩
    · have hsame : (states settings schedule (n + 1)).closing =
          (states settings schedule n).closing := by
        rcases (onward_step (states settings schedule n) hn).closing with hc | ⟨hc, -⟩
        · exact hc
        · exact absurd hc hclosed
      have htear' : schedule (n + 1 + j) = .tearDown := by
        rw [show n + 1 + j = n + (j + 1) by omega, htear]
      obtain ⟨m, hm, hc, h⟩ := ih (hsame ▸ hclosed) htear'
      exact ⟨m, Nat.le_of_succ_le hm, hc.trans hsame, h⟩

/-- The next step of tearing down comes. -/
theorem Fair.exists_torn (fair : Fair settings schedule)
    (hclosed : (states settings schedule n).closing ≠ .notYet) :
    ∃ (m : Nat) (s : Client), n ≤ m ∧ s.closing = (states settings schedule n).closing ∧
      states settings schedule m = s.tearDown := by
  obtain ⟨m, hm, hc, htear⟩ := fair.exists_tearDown hclosed
  refine ⟨m + 1, states settings schedule m, Nat.le_succ_of_le hm, hc, ?_⟩
  rw [states, htear]
  rfl

/-- All pending requests get told. -/
theorem Fair.done_of_draining (fair : Fair settings schedule) {cancelled : Bool} {ids : List Nat}
    (hc : (states settings schedule n).closing = .draining cancelled ids) :
    ∃ m, n ≤ m ∧ (states settings schedule m).closing = .done := by
  induction ids generalizing n with
  | nil =>
    obtain ⟨m, s, hm, hs, hnext⟩ := fair.exists_torn (n := n) (by simp [hc])
    refine ⟨m, hm, ?_⟩
    rw [hc] at hs
    simp [hnext, tearDown, hs]
  | cons id rest ih =>
    obtain ⟨m, s, hm, hs, hnext⟩ := fair.exists_torn (n := n) (by simp [hc])
    rw [hc] at hs
    have hc' : (states settings schedule m).closing = .draining cancelled rest := by
      simp [hnext, tearDown, hs]
    obtain ⟨k, hk, hdone⟩ := ih hc'
    exact ⟨k, Nat.le_trans hm hk, hdone⟩

/-- **A closed connection gets torn down.** -/
theorem Fair.done_of_closed (fair : Fair settings schedule)
    (hclosed : (states settings schedule n).closing ≠ .notYet) :
    ∃ m, n ≤ m ∧ (states settings schedule m).closing = .done := by
  have hsignalled {n : Nat} {cancelled : Bool}
      (hc : (states settings schedule n).closing = .signalled cancelled) :
      ∃ m, n ≤ m ∧ (states settings schedule m).closing = .done := by
    obtain ⟨m, s, hm, hs, hnext⟩ := fair.exists_torn (n := n) (by simp [hc])
    rw [hc] at hs
    have hc' : (states settings schedule m).closing =
        .draining cancelled (s.pending.map (·.1)) := by simp [hnext, tearDown, hs]
    obtain ⟨k, hk, hdone⟩ := fair.done_of_draining hc'
    exact ⟨k, Nat.le_trans hm hk, hdone⟩
  cases hc : (states settings schedule n).closing with
  | notYet => exact absurd hc hclosed
  | marked cancelled =>
    obtain ⟨m, s, hm, hs, hnext⟩ := fair.exists_torn hclosed
    rw [hc] at hs
    have hc' : (states settings schedule m).closing = .signalled cancelled := by
      simp [hnext, tearDown, hs]
    obtain ⟨k, hk, hdone⟩ := hsignalled hc'
    exact ⟨k, Nat.le_trans hm hk, hdone⟩
  | signalled cancelled => exact hsignalled hc
  | draining cancelled ids => exact fair.done_of_draining hc
  | done => exact ⟨n, Nat.le_refl n, hc⟩

/-- Once all have been told to stop, the reader closes the connection. -/
theorem Fair.done_of_shutdown (fair : Fair settings schedule)
    (hshutdown : (states settings schedule n).shutdown = true) :
    ∃ m, n ≤ m ∧ (states settings schedule m).closing = .done := by
  obtain ⟨m, hm, hstop⟩ := fair.stopsReading n
  have hclosed : (states settings schedule (m + 1)).closing ≠ .notYet := by
    rcases (winding_states settings schedule m).reading with hrunning | hclosed
    · have hboth : (states settings schedule m).source.running = true ∧
          (states settings schedule m).shutdown = true :=
        ⟨hrunning, states_shutdown hm hshutdown⟩
      simp only [states, hstop, step, if_pos hboth]
      exact closing_beginClosing_ne _ _
    · exact closing_step_ne _ _ hclosed
  obtain ⟨k, hk, hdone⟩ := fair.done_of_closed hclosed
  exact ⟨k, by omega, hdone⟩

/-! ## The calls end -/

/-- Where a connection is torn down, only calls that have just listed themselves are listed. -/
theorem inbox_of_done (hdone : (states settings schedule n).closing = .done)
    (hd : (states settings schedule n).calls[d]? = some call) (hslot : call.stage.slot? = some id)
    (hrank : call.stage.rank ≠ 3) : ∃ r, call.inbox = some r := by
  rcases hr : call.inbox with - | r
  · have hentry : (id, d) ∈ (states settings schedule n).pending :=
      (orderly_states settings schedule n).listed.mpr
        ⟨call, hd, ClientCall.place?_eq_some_iff.mpr ⟨hslot, hr⟩⟩
    have hleft : (states settings schedule n).closing.left? = some [] := by rw [hdone]; rfl
    rcases (winding_states settings schedule n).counted hleft hentry with h | ⟨other, hother, h⟩
    · cases h
    · obtain rfl : call = other := Option.some.inj (hd.symm.trans hother)
      exact absurd h hrank
  · exact ⟨r, rfl⟩

/-- A stage that ends in a certain turn ends when that turn comes. -/
theorem exists_later_stage (hmn : m ≤ n)
    (hd : (states settings schedule m).calls[d]? = some call)
    (hturn : ∀ other, (states settings schedule n).calls[d]? = some other →
      other.stage = call.stage → ∃ after,
        (states settings schedule (n + 1)).calls[d]? = some after ∧
          other.stage.rank < after.stage.rank) :
    ∃ k, m ≤ k ∧ ∃ after, (states settings schedule k).calls[d]? = some after ∧
      call.stage.rank < after.stage.rank := by
  obtain ⟨other, hother, hlater⟩ := states_later hmn hd
  rcases hlater.stage with hs | hs
  · obtain ⟨after, hafter, hrank⟩ := hturn other hother hs
    exact ⟨n + 1, Nat.le_succ_of_le hmn, after, hafter, hs ▸ hrank⟩
  · exact ⟨n, hmn, other, hother, hs⟩

/-- **A call that has not ended goes on.** -/
theorem Fair.goes_on (fair : Fair settings schedule)
    (hd : (states settings schedule n).calls[d]? = some call) (hrank : call.stage.rank < 8) :
    ∃ m, n ≤ m ∧ ∃ after, (states settings schedule m).calls[d]? = some after ∧
      call.stage.rank < after.stage.rank := by
  have hproceed (hstage : call.stage.rank < 4 ∨ ∃ id why, call.stage = .released id why) :
      ∃ m, n ≤ m ∧ ∃ after, (states settings schedule m).calls[d]? = some after ∧
        call.stage.rank < after.stage.rank := by
    obtain ⟨m, hm, hturn⟩ := fair.proceeds d n
    refine exists_later_stage hm hd fun other hother hsame => ?_
    rw [states, hturn]
    exact rank_lt_proceed hother (hsame ▸ hstage)
  have htimeOut {deadline : Nat} (hdeadline : call.stage.deadline? = some deadline) :
      ∃ m, n ≤ m ∧ ∃ after, (states settings schedule m).calls[d]? = some after ∧
        call.stage.rank < after.stage.rank := by
    obtain ⟨late, hlate⟩ := fair.clock deadline
    obtain ⟨m, hm, hturn⟩ := fair.timesOut d (max n late)
    have hnow : deadline ≤ (states settings schedule m).now :=
      Nat.le_trans hlate (states_now_le (Nat.le_trans (Nat.le_max_right n late) hm))
    have hnm : n ≤ m := Nat.le_trans (Nat.le_max_left n late) hm
    refine exists_later_stage hnm hd fun other hother hsame => ?_
    rw [states, hturn]
    exact rank_lt_timeOut hother (hsame ▸ hdeadline) hnow
  cases hstage : call.stage with
  | entered => exact hstage ▸ hproceed (.inl (by simp [hstage, CallStage.rank]))
  | admitted => exact hstage ▸ hproceed (.inl (by simp [hstage, CallStage.rank]))
  | numbered id frame => exact hstage ▸ hproceed (.inl (by simp [hstage, CallStage.rank]))
  | registered id frame => exact hstage ▸ hproceed (.inl (by simp [hstage, CallStage.rank]))
  | released id why => exact hstage ▸ hproceed (.inr ⟨id, why, hstage⟩)
  | queued id frame deadline => exact hstage ▸ htimeOut (by rw [hstage]; rfl)
  | writing id frame deadline => exact hstage ▸ htimeOut (by rw [hstage]; rfl)
  | waiting id deadline => exact hstage ▸ htimeOut (by rw [hstage]; rfl)
  | finished r => simp [hstage, CallStage.rank] at hrank
  | parked id =>
    -- The end comes, the call has been told by then, and takes what it was told.
    obtain ⟨k, hk, hdone⟩ : ∃ m, n ≤ m ∧ (states settings schedule m).closing = .done := by
      rcases (winding_states settings schedule n).parked hd (by simp [hstage, CallStage.rank])
        with hs | hc
      · exact fair.done_of_shutdown hs
      · exact fair.done_of_closed hc
    obtain ⟨m, hm, hturn⟩ := fair.proceeds d k
    rw [← hstage]
    refine exists_later_stage (Nat.le_trans hk hm) hd fun other hother hsame => ?_
    have hparked : other.stage = .parked id := hsame.trans hstage
    have hslot : other.stage.slot? = some id := by
      rw [hparked]
      rfl
    obtain ⟨r, hr⟩ := inbox_of_done (states_done hm hdone) hother hslot
      (by simp [hparked, CallStage.rank])
    rw [states, hturn]
    exact rank_lt_parked hother hparked hr

/-- **Every call ends.** -/
theorem Fair.returns (fair : Fair settings schedule)
    (hd : (states settings schedule n).calls[d]? = some call) :
    ∃ m, n ≤ m ∧ ∃ after r, (states settings schedule m).calls[d]? = some after ∧
      after.stage = .finished r := by
  induction hleft : 8 - call.stage.rank using Nat.strongRecOn generalizing n call with
  | ind left ih =>
    by_cases hrank : call.stage.rank < 8
    · obtain ⟨m, hm, after, hafter, hlt⟩ := fair.goes_on hd hrank
      obtain ⟨k, hk, h⟩ := ih (8 - after.stage.rank) (by omega) hafter rfl
      exact ⟨k, Nat.le_trans hm hk, h⟩
    · cases hstage : call.stage with
      | finished r => exact ⟨n, Nat.le_refl n, call, r, hd, hstage⟩
      | _ => simp [hstage, CallStage.rank] at hrank

/-! ## Fair schedules -/

/-- Everybody's turns, one after the other. -/
def roundRobin (n : Nat) : ClientAction :=
  match n.unpair.2 % 5 with
  | 0 => .proceed n.unpair.1
  | 1 => .timeOut n.unpair.1
  | 2 => .stopReading
  | 3 => .tearDown
  | _ => .wait n.unpair.1

theorem exists_roundRobin (c n k : Nat) :
    ∃ m, n ≤ m ∧ m.unpair.1 = c ∧ m.unpair.2 % 5 = k % 5 := by
  refine ⟨Nat.pair c (k % 5 + 5 * n), ?_, by simp, ?_⟩
  · have := Nat.right_le_pair c (k % 5 + 5 * n)
    omega
  · rw [Nat.unpair_pair]
    dsimp only
    omega

/-- The schedule that begins with the given actions and goes on with everybody's turns. -/
def thenRoundRobin (actions : List ClientAction) (n : Nat) : ClientAction :=
  if h : n < actions.length then actions[n] else roundRobin (n - actions.length)

/-- It does begin with them. -/
theorem states_thenRoundRobin (settings : ClientSettings) (actions rest : List ClientAction) :
    states settings (thenRoundRobin (actions ++ rest)) actions.length =
      ((start settings).run actions).1 := by
  rw [states_eq_run]
  congr 2
  apply List.ext_getElem
  · simp
  · intro n hn hn'
    have hlt : n < (actions ++ rest).length := by
      rw [List.length_append]
      exact Nat.lt_add_right _ hn'
    rw [List.getElem_map, List.getElem_range, thenRoundRobin, dif_pos hlt,
      List.getElem_append_left hn']

/-- **Every run can be gone on with in such a way that everybody gets turns.** -/
theorem fair_thenRoundRobin (settings : ClientSettings) (actions : List ClientAction) :
    Fair settings (thenRoundRobin actions) := by
  have hturn (c n k : Nat) : ∃ m j, n ≤ m ∧ thenRoundRobin actions m = roundRobin j ∧
      j.unpair.1 = c ∧ j.unpair.2 % 5 = k % 5 := by
    obtain ⟨j, hj, hc, hk⟩ := exists_roundRobin c n k
    refine ⟨actions.length + j, j, by omega, ?_, hc, hk⟩
    rw [thenRoundRobin, dif_neg (by omega), Nat.add_sub_cancel_left]
  constructor
  case proceeds =>
    intro c n
    obtain ⟨m, j, hm, h, rfl, hj⟩ := hturn c n 0
    exact ⟨m, hm, by simp [h, roundRobin, hj]⟩
  case timesOut =>
    intro c n
    obtain ⟨m, j, hm, h, rfl, hj⟩ := hturn c n 1
    exact ⟨m, hm, by simp [h, roundRobin, hj]⟩
  case stopsReading =>
    intro n
    obtain ⟨m, j, hm, h, -, hj⟩ := hturn 0 n 2
    exact ⟨m, hm, by simp [h, roundRobin, hj]⟩
  case tearsDown =>
    intro n
    obtain ⟨m, j, hm, h, -, hj⟩ := hturn 0 n 3
    exact ⟨m, hm, by simp [h, roundRobin, hj]⟩
  case clock =>
    intro time
    obtain ⟨m, j, hm, h, rfl, hj⟩ := hturn time 0 4
    refine ⟨m + 1, ?_⟩
    have hwait : thenRoundRobin actions m = .wait j.unpair.1 := by simp [h, roundRobin, hj]
    rw [states, hwait]
    exact Nat.le_max_right _ _

end Client
end HeaderFollower
