/-
# Connections under a schedule

A schedule fixes for every moment who takes the next turn, and `Client.states` are the states that a
connection goes through under it. Every list of actions is the beginning of a schedule, so what
holds at every moment of every schedule holds after every run.

`Later` is what stays of a call, `states_later` carries it over any number of turns. Where a result
came from is found by going back: `exists_delivery` finds the step that delivered it, and
`exists_finishing_step` the step in which a call ended.
-/

import HeaderFollower.Proofs.Client.Winding

namespace HeaderFollower
namespace Client

variable {s t : Client} {a : ClientAction} {c d id : Nat} {call : ClientCall}
  {r : Except ClientError Json} {settings : ClientSettings} {schedule : Nat → ClientAction}
  {m n : Nat}

/-! ## States of a schedule -/

/-- The state of a connection after so many actions of a schedule. -/
def states (settings : ClientSettings) (schedule : Nat → ClientAction) : Nat → Client
  | 0 => start settings
  | n + 1 => ((states settings schedule n).step (schedule n)).1

/-- The states of a schedule are what the runs of its beginnings lead to. -/
theorem states_eq_run (settings : ClientSettings) (schedule : Nat → ClientAction) (n : Nat) :
    states settings schedule n = ((start settings).run ((List.range n).map schedule)).1 := by
  induction n with
  | zero => rfl
  | succ n ih =>
    rw [List.range_succ, List.map_append, run_append, ← ih]
    rfl

/-- Every list of actions is the beginning of a schedule. -/
theorem run_eq_states (settings : ClientSettings) (actions : List ClientAction) :
    ((start settings).run actions).1 =
      states settings (fun n => actions.getD n (.wait 0)) actions.length := by
  rw [states_eq_run]
  congr 2
  apply List.ext_getElem
  · simp
  · intro n hn hn'
    simp [List.getD, List.getElem?_eq_getElem hn]

theorem orderly_states (settings : ClientSettings) (schedule : Nat → ClientAction) (n : Nat) :
    (states settings schedule n).Orderly := by
  induction n with
  | zero => exact orderly_start settings
  | succ n ih => exact (ih.turn (schedule n)).orderly ih

theorem winding_states (settings : ClientSettings) (schedule : Nat → ClientAction) (n : Nat) :
    (states settings schedule n).Winding := by
  induction n with
  | zero => exact winding_start settings
  | succ n ih => exact ih.step (orderly_states settings schedule n) (schedule n)

/-- The turn that leads from one moment to the next. -/
theorem turn_states (settings : ClientSettings) (schedule : Nat → ClientAction) (n : Nat) :
    Turn (states settings schedule n) (schedule n) (states settings schedule (n + 1)) :=
  (orderly_states settings schedule n).turn (schedule n)

/-! ## The connection goes on -/

theorem states_now_le (hmn : m ≤ n) :
    (states settings schedule m).now ≤ (states settings schedule n).now := by
  induction hmn with
  | refl => exact Nat.le_refl _
  | step hmn ih => exact Nat.le_trans ih (now_le_step _ _)

theorem states_shutdown (hmn : m ≤ n) (h : (states settings schedule m).shutdown = true) :
    (states settings schedule n).shutdown = true := by
  induction hmn with
  | refl => exact h
  | step hmn ih => exact shutdown_step _ _ ih

theorem states_closing_rank_le (hmn : m ≤ n) :
    (states settings schedule m).closing.rank ≤ (states settings schedule n).closing.rank := by
  induction hmn with
  | refl => exact Nat.le_refl _
  | step hmn ih => exact Nat.le_trans ih (closing_rank_le_step _ _)

theorem states_done (hmn : m ≤ n) (h : (states settings schedule m).closing = .done) :
    (states settings schedule n).closing = .done := by
  have hle : (states settings schedule m).closing.rank ≤
      (states settings schedule n).closing.rank := states_closing_rank_le hmn
  rw [h] at hle
  cases hc : (states settings schedule n).closing with
  | done => rfl
  | _ => simp [hc, Closing.rank] at hle

theorem states_closed (hmn : m ≤ n) (h : (states settings schedule m).closing ≠ .notYet) :
    (states settings schedule n).closing ≠ .notYet := by
  induction hmn with
  | refl => exact h
  | step hmn ih => exact closing_step_ne _ _ ih

theorem states_cancelled? {cancelled : Bool} (hmn : m ≤ n)
    (h : (states settings schedule m).closing.cancelled? = some cancelled) :
    (states settings schedule n).closing.cancelled? = some cancelled ∨
      (states settings schedule n).closing = .done := by
  induction hmn with
  | refl => exact .inl h
  | @step n hmn ih =>
    rcases ih with ih | ih
    · exact cancelled?_step ih _
    · exact .inr (states_done (Nat.le_succ n) ih)

/-! ## What stays of a call -/

/-- What stays of a call: it does not go back, and keeps what was delivered to it. -/
structure Later (before after : ClientCall) : Prop where
  stage : after.stage = before.stage ∨ before.stage.rank < after.stage.rank
  inbox : ∀ r, before.inbox = some r → after.inbox = some r

theorem Later.refl (call : ClientCall) : Later call call := ⟨.inl rfl, fun _ h => h⟩

theorem Later.trans {first second third : ClientCall} (h : Later first second)
    (g : Later second third) : Later first third := by
  refine ⟨?_, fun r hr => g.inbox r (h.inbox r hr)⟩
  rcases h.stage with hs | hs
  · rw [← hs]
    exact g.stage
  · rcases g.stage with gs | gs
    · exact .inr (gs ▸ hs)
    · exact .inr (Nat.lt_trans hs gs)

theorem Later.rank_le {before after : ClientCall} (h : Later before after) :
    before.stage.rank ≤ after.stage.rank := by
  rcases h.stage with hs | hs
  · exact Nat.le_of_eq (congrArg CallStage.rank hs.symm)
  · exact Nat.le_of_lt hs

/-- A call that has ended stays as it is. -/
theorem Later.finished {before after : ClientCall} (h : Later before after)
    (hr : before.stage = .finished r) : after.stage = .finished r := by
  rcases h.stage with hs | hs
  · rw [hs, hr]
  · rw [hr] at hs
    exact absurd hs (Nat.not_lt.mpr after.stage.rank_le)

theorem CallTurn.later {next : ClientCall} (turn : CallTurn s a t c call next) (h : s.Orderly)
    (here : s.calls[c]? = some call) : Later call next := by
  cases turn with
  | cancel pending nextId => exact ⟨.inl rfl, fun _ h => h⟩
  | number frame stage pending nextId =>
    exact ⟨.inr (by simp [stage, CallStage.rank]), fun _ h => h⟩
  | register id frame stage pending nextId =>
    exact ⟨.inr (by simp [stage, CallStage.rank]), fun _ h => h⟩
  | move next id slot onward unfinished unmarked stopped expired pending nextId =>
    exact ⟨.inr onward, fun _ h => h⟩
  | refuse e outside unfinished own pending nextId => exact ⟨.inr unfinished, fun _ h => h⟩
  | leave id e slot cause pending nextId =>
    exact ⟨.inr (CallStage.rank_lt_of_slot? slot), fun _ h => h⟩
  | answer id r slot waits inbox pending nextId =>
    exact ⟨.inr (CallStage.rank_lt_of_slot? slot), fun _ h => h⟩
  | deliver id r told entry pending nextId =>
    refine ⟨.inl rfl, fun r' hr' => ?_⟩
    -- A listed call has nothing to lose.
    obtain ⟨other, hother, hplace⟩ := h.listed.mp entry
    obtain rfl : call = other := Option.some.inj (here.symm.trans hother)
    rw [(ClientCall.place?_eq_some_iff.mp hplace).2] at hr'
    cases hr'

/-- **No turn takes anything back from a call.** -/
theorem Turn.later (turn : Turn s a t) (h : s.Orderly) (hd : s.calls[d]? = some call) :
    ∃ after, t.calls[d]? = some after ∧ Later call after := by
  rcases turn.forth hd with hsame | ⟨next, hnext, turn⟩
  · exact ⟨call, hsame, .refl call⟩
  · exact ⟨next, hnext, turn.later h hd⟩

theorem states_later (hmn : m ≤ n) (hd : (states settings schedule m).calls[d]? = some call) :
    ∃ after, (states settings schedule n).calls[d]? = some after ∧ Later call after := by
  induction hmn with
  | refl => exact ⟨call, hd, .refl call⟩
  | step hmn ih =>
    obtain ⟨middle, hmiddle, hlater⟩ := ih
    obtain ⟨after, hafter, hlater'⟩ :=
      (turn_states settings schedule _).later (orderly_states settings schedule _) hmiddle
    exact ⟨after, hafter, hlater.trans hlater'⟩

/-- An id that a call has was its id before, or had not been taken. -/
theorem Turn.id_back (turn : Turn s a t) (hd : t.calls[d]? = some call)
    (hid : call.stage.id? = some id) :
    (∃ before, s.calls[d]? = some before ∧ before.stage.id? = some id) ∨ s.nextId ≤ id := by
  rcases turn.back hd with hsame | ⟨method, params, rfl⟩ | ⟨before, hbefore, turn⟩
  · exact .inl ⟨call, hsame, hid⟩
  · cases hid
  · rcases turn.id_back hid with hid | ⟨rfl, -⟩
    · exact .inl ⟨before, hbefore, hid⟩
    · exact .inr (Nat.le_refl _)

theorem states_nextId_le (hmn : m ≤ n) :
    (states settings schedule m).nextId ≤ (states settings schedule n).nextId := by
  induction hmn with
  | refl => exact Nat.le_refl _
  | step hmn ih => exact Nat.le_trans ih (turn_states settings schedule _).nextId_le

theorem states_id_back (hmn : m ≤ n) (hd : (states settings schedule n).calls[d]? = some call)
    (hid : call.stage.id? = some id) :
    (∃ before, (states settings schedule m).calls[d]? = some before ∧
      before.stage.id? = some id) ∨ (states settings schedule m).nextId ≤ id := by
  induction hmn generalizing call with
  | refl => exact .inl ⟨call, hd, hid⟩
  | step hmn ih =>
    rcases (turn_states settings schedule _).id_back hd hid with ⟨before, hbefore, hid⟩ | hle
    · exact ih hbefore hid
    · exact .inr (Nat.le_trans (states_nextId_le hmn) hle)

/-! ## Where a result came from -/

theorem Turn.inbox_back (turn : Turn s a t) (hd : t.calls[d]? = some call)
    (hr : call.inbox = some r) :
    (∃ before, s.calls[d]? = some before ∧ before.inbox = some r) ∨
      ∃ id, s.delivery? a = some (id, r) ∧ (id, d) ∈ s.pending := by
  rcases turn.back hd with hsame | ⟨method, params, rfl⟩ | ⟨before, hbefore, turn⟩
  · exact .inl ⟨call, hsame, hr⟩
  · cases hr
  · cases turn with
    | deliver id r' told entry pending nextId =>
      obtain rfl : r' = r := Option.some.inj hr
      exact .inr ⟨id, told, entry⟩
    | _ => exact .inl ⟨before, hbefore, hr⟩

/-- **What a call has been given was delivered to it in one step.** -/
theorem exists_delivery (hd : (states settings schedule n).calls[d]? = some call)
    (hr : call.inbox = some r) :
    ∃ m < n, ∃ id, (states settings schedule m).delivery? (schedule m) = some (id, r) ∧
      (id, d) ∈ (states settings schedule m).pending := by
  induction n generalizing call with
  | zero => simp [states, start] at hd
  | succ n ih =>
    rcases (turn_states settings schedule n).inbox_back hd hr with ⟨before, hbefore, hr⟩ | h
    · obtain ⟨m, hm, hdelivery⟩ := ih hbefore hr
      exact ⟨m, Nat.lt_succ_of_lt hm, hdelivery⟩
    · exact ⟨n, Nat.lt_succ_self n, h⟩

/-- The table names the call that is listed under an id. -/
theorem Orderly.lookup_eq (h : s.Orderly) (entry : (id, c) ∈ s.pending) :
    s.pending.lookup id = some c := by
  obtain ⟨call, here, hplace⟩ := h.listed.mp entry
  rcases hl : s.pending.lookup id with - | d
  · have hne := bne_iff_ne.mp (List.lookup_eq_none_iff.mp hl (id, c) entry)
    exact absurd rfl hne
  · obtain ⟨before, after, he, -⟩ := List.lookup_eq_some_iff.mp hl
    obtain ⟨other, hother, hplace'⟩ := h.listed.mp (show (id, d) ∈ s.pending by simp [he])
    have hcd : c = d := h.distinct here hother
      (CallStage.id?_of_slot? (ClientCall.place?_eq_some_iff.mp hplace).1)
      (CallStage.id?_of_slot? (ClientCall.place?_eq_some_iff.mp hplace').1)
    rw [hcd]

/-- A delivery does to the calls what the table says, and nothing else. -/
theorem sameCalls_of_told (told : s.delivery? a = some (id, r)) :
    SameCalls (s.step a).1 (s.deliver id r) := by
  have same : SameCalls (s.step a).1 (s.given (s.delivery? a)) := by
    cases a with
    | readLine => exact readLine_sameCalls s
    | tearDown => exact tearDown_sameCalls s
    | _ => cases told
  rw [told] at same
  exact same

/-- A delivery reaches the call that is listed under its id. -/
theorem Orderly.inbox_of_delivery (h : s.Orderly) (told : s.delivery? a = some (id, r))
    (entry : (id, c) ∈ s.pending) :
    ∃ after, (s.step a).1.calls[c]? = some after ∧ after.inbox = some r := by
  obtain ⟨call, here, -⟩ := h.listed.mp entry
  refine ⟨{ call with inbox := some r }, ?_, rfl⟩
  rw [(sameCalls_of_told told).calls]
  simp [deliver, h.lookup_eq entry, updateCall, unregister, here]

/-- A delivery takes its id off the table, and no other. -/
theorem Orderly.pending_of_delivery (h : s.Orderly) (told : s.delivery? a = some (id, r))
    (entry : (id, c) ∈ s.pending) : (s.step a).1.pending = (s.unregister id).pending := by
  rw [(sameCalls_of_told told).pending]
  simp only [deliver, h.lookup_eq entry, updateCall]

/-- A result of the server comes out of a line. -/
theorem lineRead?_of_delivery? (told : s.delivery? a = some (id, r)) (hr : FromServer r) :
    ∃ line, s.lineRead? a = some line ∧ reply? line = some (id, r) := by
  cases a with
  | readLine => exact Option.bind_eq_some_iff.mp told
  | tearDown =>
    simp only [delivery?] at told
    split at told
    · next cancelled first rest hclosing =>
      obtain ⟨-, rfl⟩ := Prod.mk.inj (Option.some.inj told)
      cases cancelled <;> exact absurd hr fun h => h
    · cases told
  | _ => cases told

/-- A call that is listed has not been given anything yet, at no earlier moment. -/
theorem not_delivered_before (hmn : m < n)
    (told : (states settings schedule m).delivery? (schedule m) = some (id, r))
    (hm : (id, d) ∈ (states settings schedule m).pending) :
    (id, d) ∉ (states settings schedule n).pending := by
  intro hn
  obtain ⟨after, hafter, hinbox⟩ :=
    (orderly_states settings schedule m).inbox_of_delivery told hm
  obtain ⟨call, hcall, hlater⟩ := states_later (m := m + 1) hmn hafter
  obtain ⟨other, hother, hplace⟩ := (orderly_states settings schedule n).listed.mp hn
  obtain rfl : call = other := Option.some.inj (hcall.symm.trans hother)
  have hnone := (ClientCall.place?_eq_some_iff.mp hplace).2
  rw [hlater.inbox r hinbox] at hnone
  cases hnone

/-! ## How a call ended -/

/-- A call that ends in a turn gave up, or took what it was given. -/
theorem Turn.of_finished (turn : Turn s a t) (hd : s.calls[d]? = some call)
    (hrank : call.stage.rank < 8) {after : ClientCall} (hafter : t.calls[d]? = some after)
    (hr : after.stage = .finished r) :
    call.stage.slot? = none ∨ 6 ≤ call.stage.rank ∧ call.inbox = some r ∨
      ∃ id e, r = .error e ∧ LeaveCause s a d id call e := by
  have hunfinished : call.stage ≠ .finished r := by
    intro hstage
    rw [hstage] at hrank
    exact Nat.lt_irrefl 8 hrank
  rcases turn.forth hd with hsame | ⟨next, hnext, turn⟩
  · obtain rfl : call = after := Option.some.inj (hsame.symm.trans hafter)
    exact absurd hr hunfinished
  · obtain rfl : next = after := Option.some.inj (hnext.symm.trans hafter)
    cases turn with
    | refuse e outside unfinished own pending nextId => exact .inl outside
    | leave id e slot cause pending nextId =>
      exact .inr (.inr ⟨id, e, (CallStage.finished.inj hr).symm, cause⟩)
    | answer id r' slot waits inbox pending nextId =>
      obtain rfl : r' = r := CallStage.finished.inj hr
      exact .inr (.inl ⟨waits, inbox⟩)
    | cancel pending nextId => exact absurd hr hunfinished
    | deliver id r' told entry pending nextId => exact absurd hr hunfinished
    | number frame stage pending nextId => cases hr
    | register id frame stage pending nextId => cases hr
    | move next id slot onward unfinished unmarked stopped expired pending nextId =>
      rw [show next = .finished r from hr] at unfinished
      exact absurd unfinished (Nat.lt_irrefl 8)

/-- **A call that has ended has done so in one step.** -/
theorem exists_finishing_step (hmn : m ≤ n)
    (hd : (states settings schedule m).calls[d]? = some call) (hrank : call.stage.rank < 8)
    {after : ClientCall} (hafter : (states settings schedule n).calls[d]? = some after)
    (hr : after.stage = .finished r) :
    ∃ k, m ≤ k ∧ k < n ∧ ∃ last ended, (states settings schedule k).calls[d]? = some last ∧
      last.stage.rank < 8 ∧ (states settings schedule (k + 1)).calls[d]? = some ended ∧
      ended.stage = .finished r := by
  induction hmn generalizing after with
  | refl =>
    obtain rfl : call = after := Option.some.inj (hd.symm.trans hafter)
    rw [hr] at hrank
    exact absurd hrank (Nat.lt_irrefl 8)
  | @step n hmn ih =>
    obtain ⟨middle, hmiddle, -⟩ := states_later hmn hd
    by_cases hlast : middle.stage.rank < 8
    · exact ⟨n, hmn, Nat.lt_succ_self n, middle, after, hmiddle, hlast, hafter, hr⟩
    · obtain ⟨after', hafter', hlater⟩ := (turn_states settings schedule n).later
        (orderly_states settings schedule n) hmiddle
      obtain rfl : after = after' := Option.some.inj (hafter.symm.trans hafter')
      have hmiddle' : middle.stage = .finished r := by
        rcases hlater.stage with hs | hs
        · rw [← hs, hr]
        · exact absurd (Nat.lt_of_lt_of_le hs after.stage.rank_le) hlast
      obtain ⟨k, hmk, hkn, h⟩ := ih hmiddle hmiddle'
      exact ⟨k, hmk, Nat.lt_succ_of_lt hkn, h⟩

/-- A call that finds the connection closed right after it has listed itself stays where it is
until it leaves. -/
theorem Turn.registered (turn : Turn s a t) (hclosed : s.closing ≠ .notYet)
    (hd : s.calls[d]? = some call) (hrank : call.stage.rank = 3) :
    ∃ after, t.calls[d]? = some after ∧ (after.stage.rank = 3 ∨ after.stage.rank = 8) := by
  rcases turn.forth hd with hsame | ⟨next, hnext, turn⟩
  · exact ⟨call, hsame, .inl hrank⟩
  · refine ⟨next, hnext, ?_⟩
    cases turn with
    | cancel pending nextId => exact .inl hrank
    | deliver id r told entry pending nextId => exact .inl hrank
    | refuse e outside unfinished own pending nextId => exact .inr rfl
    | leave id e slot cause pending nextId => exact .inr rfl
    | answer id r slot waits inbox pending nextId => exact .inr rfl
    | number frame stage pending nextId => simp [stage, CallStage.rank] at hrank
    | register id frame stage pending nextId => simp [stage, CallStage.rank] at hrank
    | move next id slot onward unfinished unmarked stopped expired pending nextId =>
      exact absurd (unmarked hrank) hclosed

theorem states_registered (hmn : m ≤ n) (hclosed : (states settings schedule m).closing ≠ .notYet)
    (hd : (states settings schedule m).calls[d]? = some call) (hrank : call.stage.rank = 3) :
    ∃ after, (states settings schedule n).calls[d]? = some after ∧
      (after.stage.rank = 3 ∨ after.stage.rank = 8) := by
  induction hmn with
  | refl => exact ⟨call, hd, .inl hrank⟩
  | @step n hmn ih =>
    obtain ⟨middle, hmiddle, h3 | h8⟩ := ih
    · exact (turn_states settings schedule n).registered (states_closed hmn hclosed) hmiddle h3
    · obtain ⟨after, hafter, hlater⟩ := (turn_states settings schedule n).later
        (orderly_states settings schedule n) hmiddle
      have hle := hlater.rank_le
      have hle' := after.stage.rank_le
      exact ⟨after, hafter, .inr (by omega)⟩

/-- A call that let the writer go because its time was over had seen so before. -/
theorem exists_expired (hd : (states settings schedule n).calls[d]? = some call)
    (hstage : call.stage = .released id .timedOut) :
    ∃ m < n, ∃ before, (states settings schedule m).calls[d]? = some before ∧
      Expires (states settings schedule m) (schedule m) d before := by
  induction n generalizing call with
  | zero => simp [states, start] at hd
  | succ n ih =>
    have hback (h : ∃ before, (states settings schedule n).calls[d]? = some before ∧
        before.stage = .released id .timedOut) :
        ∃ m < n + 1, ∃ before, (states settings schedule m).calls[d]? = some before ∧
          Expires (states settings schedule m) (schedule m) d before := by
      obtain ⟨before, hbefore, hstage⟩ := h
      obtain ⟨m, hm, h⟩ := ih hbefore hstage
      exact ⟨m, Nat.lt_succ_of_lt hm, h⟩
    rcases (turn_states settings schedule n).back hd with
      hsame | ⟨method, params, rfl⟩ | ⟨before, hbefore, turn⟩
    · exact hback ⟨call, hsame, hstage⟩
    · cases hstage
    · cases turn with
      | cancel pending nextId => exact hback ⟨before, hbefore, hstage⟩
      | deliver id r told entry pending nextId => exact hback ⟨before, hbefore, hstage⟩
      | move next id' slot onward unfinished unmarked stopped expired pending nextId =>
        exact ⟨n, Nat.lt_succ_self n, before, hbefore, expired id hstage⟩
      | _ => cases hstage

end Client
end HeaderFollower
