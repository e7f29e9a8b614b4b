/-
# What giving up costs

A call pays an error penalty when the server answers it with an error (`refusals`), and when it gives
up (`leavers`): always if its time is over, but if its caller has given it up only while it waits for
the reply. A call that is given up while it waits for the writer, or while the transport takes its
frame, leaves the table and pays nothing; `given_up_unpaid` is such a run.

`Client.abandoned_calls_pay` proves it of every run. A call that has returned stays as it is and pays
no more, so `count_leavers` finds what it has paid for giving up in the one step in which it
returned, and `Returns` says which steps these are.
-/

import HeaderFollower.Proofs.Client.Charges
import HeaderFollower.Proofs.Client.Endings
import HeaderFollower.Proofs.Protocol.Request
import Mathlib.Data.List.Induction

namespace HeaderFollower
namespace Client

variable {s : Client} {a : ClientAction} {c id : Nat} {r : Except ClientError Json}
  {wait : CallWait} {actions before after : List ClientAction} {settings : ClientSettings}

theorem orderly_step (h : s.Orderly) (a : ClientAction) : (s.step a).1.Orderly :=
  (h.turn a).orderly h

theorem orderly_run (h : s.Orderly) (actions : List ClientAction) :
    (s.run actions).1.Orderly := by
  induction actions generalizing s with
  | nil => exact h
  | cons a rest ih => exact ih (orderly_step h a)

theorem run_snoc (s : Client) (actions : List ClientAction) (a : ClientAction) :
    (s.run (actions ++ [a])).1 = ((s.run actions).1.step a).1 := by
  rw [run_append]
  rfl

theorem run_mid (s : Client) (before after : List ClientAction) (a : ClientAction) :
    (s.run (before ++ a :: after)).1 = ((((s.run before).1.step a).1).run after).1 := by
  rw [run_append]
  rfl

/-! ## Answers that are errors -/

/-- How often a call has been charged because the server answered it with an error. -/
def refusals (s : Client) (c : Nat) : Nat :=
  match s.given? c with
  | some (.error (.rpc _ _)) => 1
  | _ => 0

theorem Orderly.given?_of_listed (h : s.Orderly) (entry : (id, c) ∈ s.pending) :
    s.given? c = none := by
  obtain ⟨call, here, hplace⟩ := h.listed.mp entry
  rw [given?, here]
  exact (ClientCall.place?_eq_some_iff.mp hplace).2

/-- What a call was given stays. -/
theorem Orderly.given?_step (h : s.Orderly) (hr : s.given? c = some r) :
    (s.step a).1.given? c = some r := by
  obtain ⟨call, here, hinbox⟩ := given?_eq_some_iff.mp hr
  obtain ⟨after, hafter, hlater⟩ := (h.turn a).later h here
  exact given?_eq_some_iff.mpr ⟨after, hafter, hlater.inbox r hinbox⟩

theorem Orderly.given?_step_of_not_told (h : s.Orderly)
    (hnot : ∀ id r, s.delivery? a = some (id, r) → (id, c) ∉ s.pending) :
    (s.step a).1.given? c = s.given? c := by
  have hback (r : Except ClientError Json) (hr : (s.step a).1.given? c = some r) :
      s.given? c = some r := by
    obtain ⟨call, here, hinbox⟩ := given?_eq_some_iff.mp hr
    rcases (h.turn a).inbox_back here hinbox with hbefore | ⟨id, told, entry⟩
    · exact given?_eq_some_iff.mpr hbefore
    · exact absurd entry (hnot id r told)
  exact Option.ext fun r => ⟨hback r, h.given?_step⟩

theorem mem_pending_of_refused? (h : s.refused? a = some c) :
    ∃ id r, s.delivery? a = some (id, r) ∧ (id, c) ∈ s.pending := by
  unfold refused? at h
  split at h
  · next id code message told =>
    obtain ⟨before, after, he, -⟩ := List.lookup_eq_some_iff.mp h
    exact ⟨id, _, told, by simp [he]⟩
  · cases h

theorem count_toList (o : Option Nat) (c : Nat) : o.toList.count c = if o = some c then 1 else 0 := by
  cases o with
  | none => rfl
  | some d => simp [List.count_singleton]

/-- A step adds to the errors that a call has been answered with what it charges the call for. -/
theorem Orderly.refusals_step (h : s.Orderly) (a : ClientAction) (c : Nat) :
    (s.step a).1.refusals c = s.refusals c + (s.refused? a).toList.count c := by
  by_cases htold : ∃ id r, s.delivery? a = some (id, r) ∧ (id, c) ∈ s.pending
  · obtain ⟨id, r, told, entry⟩ := htold
    have hbefore := h.given?_of_listed entry
    have hafter := h.given?_step_of_told told entry
    have hlookup := h.lookup_eq entry
    simp only [refusals, hbefore, hafter, refused?, told]
    split <;> simp_all
  · have hsame := h.given?_step_of_not_told (a := a) (c := c)
      fun id r told entry => htold ⟨id, r, told, entry⟩
    have hnobody : s.refused? a ≠ some c := fun he => htold (mem_pending_of_refused? he)
    rw [count_toList, if_neg hnobody, refusals, refusals, hsame, Nat.add_zero]

/-! ## Calls that give up -/

/-- A call gives up in a step and pays for it. -/
inductive Pays (s : Client) (c : Nat) : ClientAction → Prop where
  | released {id : Nat} (stage : s.stage? c = some (.released id .timedOut)) : Pays s c (.proceed c)
  | timedOut {id deadline : Nat} (late : deadline ≤ s.now)
      (stage : (∃ frame, s.stage? c = some (.queued id frame deadline)) ∨
        s.stage? c = some (.waiting id deadline)) : Pays s c (.timeOut c)
  | givenUp (abandons : s.Abandons c .reply (.giveUp c)) : Pays s c (.giveUp c)

theorem pays_of_leaver? (h : s.leaver? a = some c) : s.Pays c a := by
  cases a with
  | proceed d =>
    simp only [leaver?] at h
    split at h
    · next id hstage =>
      obtain rfl := Option.some.inj h
      exact .released hstage
    · cases h
  | timeOut d =>
    simp only [leaver?] at h
    split at h
    · next id frame deadline hstage =>
      split at h
      · next hle =>
        obtain rfl := Option.some.inj h
        exact .timedOut hle (.inl ⟨frame, hstage⟩)
      · cases h
    · next id deadline hstage =>
      split at h
      · next hle =>
        obtain rfl := Option.some.inj h
        exact .timedOut hle (.inr hstage)
      · cases h
    · cases h
  | giveUp d =>
    simp only [leaver?] at h
    split at h
    · next hflag =>
      split at h
      · next id deadline hstage =>
        obtain rfl := Option.some.inj h
        exact .givenUp ⟨rfl, hflag, by rw [hstage]; rfl⟩
      · cases h
    · cases h
  | _ => cases h

theorem leaver?_eq_some_iff : s.leaver? a = some c ↔ s.Pays c a := by
  refine ⟨pays_of_leaver?, fun h => ?_⟩
  cases h with
  | released stage => simp only [leaver?, stage]
  | timedOut late stage =>
    rcases stage with ⟨frame, stage⟩ | stage <;> simp only [leaver?, stage, if_pos late]
  | givenUp abandons =>
    obtain ⟨id, deadline, stage⟩ := abandons.waiting
    simp only [leaver?, abandons.cancelled, if_true, stage]

/-- A call that pays for giving up returns in that step. -/
theorem Pays.result? (h : s.Pays c a) :
    (s.step a).1.result? c = some (.error (s.timeoutError c)) ∨
      s.Abandons c .reply a ∧ (s.step a).1.result? c = some (.error .cancelled) := by
  cases h with
  | @released id stage =>
    obtain ⟨call, here, hcall⟩ := stage?_eq_some.mp stage
    have hcalls : (((s.unregister id).charge (some c) .error).1.beginClosing false).calls =
        s.calls := calls_beginClosing _ _
    refine .inl (result?_of_stage? ?_)
    simp only [step, proceed, here, hcall]
    exact stage?_goto_self ((stage?_of_calls hcalls c).trans stage) _
  | timedOut late stage =>
    refine .inl (result?_of_stage? ?_)
    rcases stage with ⟨frame, stage⟩ | stage
    all_goals
      simp only [step, timeOut, stage, if_pos late]
      exact stage?_goto_self ((stage?_of_calls rfl c).trans stage) _
  | givenUp abandons =>
    exact .inr ⟨abandons, abandons.result?_reply⟩

/-- A call that pays for giving up has not returned before. -/
theorem Pays.unreturned (h : s.Pays c a) : s.result? c = none := by
  cases h with
  | released stage => rw [Client.result?, stage]
  | timedOut late stage =>
    rcases stage with ⟨frame, stage⟩ | stage <;> rw [Client.result?, stage]
  | givenUp abandons =>
    obtain ⟨id, deadline, stage⟩ := abandons.waiting
    rw [Client.result?, stage]

theorem Abandons.unreturned (h : s.Abandons c wait a) : s.result? c = none := by
  obtain ⟨stage, hstage, hwait⟩ := Option.bind_eq_some_iff.mp h.waits
  rw [Client.result?, hstage]
  cases stage with
  | finished r => cases hwait
  | _ => rfl

/-- A call that is given up pays for it if it waits for the reply. -/
theorem Abandons.leaver?_iff (h : s.Abandons c wait a) :
    s.leaver? a = some c ↔ wait = .reply := by
  rw [leaver?_eq_some_iff]
  constructor
  · intro hpays
    obtain rfl := h.action
    cases hpays with
    | givenUp abandons => exact Option.some.inj (h.waits.symm.trans abandons.waits)
  · rintro rfl
    obtain rfl := h.action
    exact .givenUp h

/-- The calls that pay for giving up in a run. -/
def leavers (s : Client) : List ClientAction → List Nat
  | [] => []
  | a :: rest => (s.leaver? a).toList ++ (s.step a).1.leavers rest

theorem leavers_append (s : Client) (xs ys : List ClientAction) :
    s.leavers (xs ++ ys) = s.leavers xs ++ (s.run xs).1.leavers ys := by
  induction xs generalizing s with
  | nil => rfl
  | cons a rest ih => simp [leavers, run, ih]

/-- **What a call has been charged in a run** are the errors that the server answered with and what
it pays for giving up. -/
theorem Orderly.count_payers (h : s.Orderly) (actions : List ClientAction) (c : Nat) :
    (payers (s.run actions).2).count c + s.refusals c =
      (s.run actions).1.refusals c + (s.leavers actions).count c := by
  induction actions generalizing s with
  | nil => simp [run, leavers, payers]
  | cons a rest ih =>
    have hrest := ih (orderly_step h a)
    have hstep := h.refusals_step a c
    simp only [run, payers_append, payers_step, leavers, List.count_append]
    omega

theorem count_payers_start (settings : ClientSettings) (actions : List ClientAction) (c : Nat) :
    (payers ((start settings).run actions).2).count c =
      ((start settings).run actions).1.refusals c + ((start settings).leavers actions).count c :=
  (orderly_start settings).count_payers actions c

/-! ## The step in which a call returns -/

theorem Orderly.result?_step (h : s.Orderly) (hr : s.result? c = some r) :
    (s.step a).1.result? c = some r := by
  obtain ⟨call, here, hstage⟩ := result?_eq_some_iff.mp hr
  obtain ⟨after, hafter, hlater⟩ := (h.turn a).later h here
  exact result?_eq_some_iff.mpr ⟨after, hafter, hlater.finished hstage⟩

theorem Orderly.result?_run (h : s.Orderly) (hr : s.result? c = some r)
    (actions : List ClientAction) : (s.run actions).1.result? c = some r := by
  induction actions generalizing s with
  | nil => exact hr
  | cons a rest ih => exact ih (orderly_step h a) (h.result?_step hr)

theorem Orderly.given?_run (h : s.Orderly) (hr : s.given? c = some r)
    (actions : List ClientAction) : (s.run actions).1.given? c = some r := by
  induction actions generalizing s with
  | nil => exact hr
  | cons a rest ih => exact ih (orderly_step h a) (h.given?_step hr)

/-- A call that has returned pays no more. -/
theorem Orderly.leavers_of_result? (h : s.Orderly) (hr : s.result? c = some r)
    (actions : List ClientAction) : c ∉ s.leavers actions := by
  induction actions generalizing s with
  | nil => exact List.not_mem_nil
  | cons a rest ih =>
    rw [leavers, List.mem_append, Option.mem_toList]
    rintro (hpays | hrest)
    · rw [(leaver?_eq_some_iff.mp hpays).unreturned] at hr
      cases hr
    · exact ih (orderly_step h a) (h.result?_step hr) hrest

/-- A call that has not returned has not paid for giving up. -/
theorem Orderly.leavers_of_unreturned (h : s.Orderly)
    (hnone : (s.run actions).1.result? c = none) : c ∉ s.leavers actions := by
  induction actions generalizing s with
  | nil => exact List.not_mem_nil
  | cons a rest ih =>
    rw [leavers, List.mem_append, Option.mem_toList]
    rintro (hpays | hrest)
    · have hreturned : ∃ r, (s.step a).1.result? c = some r := by
        rcases (leaver?_eq_some_iff.mp hpays).result? with hr | ⟨-, hr⟩ <;> exact ⟨_, hr⟩
      obtain ⟨r, hr⟩ := hreturned
      have hlater := (orderly_step h a).result?_run hr rest
      cases hnone.symm.trans hlater
    · exact ih (orderly_step h a) hnone hrest

/-- **A call pays for giving up in the step in which it returns**, and in no other. -/
theorem Orderly.count_leavers (h : s.Orderly) (hnone : (s.run before).1.result? c = none)
    (hr : ((s.run before).1.step a).1.result? c = some r) (after : List ClientAction) :
    (s.leavers (before ++ a :: after)).count c =
      if (s.run before).1.leaver? a = some c then 1 else 0 := by
  have hbefore : (s.leavers before).count c = 0 :=
    List.count_eq_zero.mpr (h.leavers_of_unreturned hnone)
  have hafter : (((s.run before).1.step a).1.leavers after).count c = 0 :=
    List.count_eq_zero.mpr
      ((orderly_step (orderly_run h before) a).leavers_of_result? hr after)
  rw [leavers_append, leavers, List.count_append, List.count_append, hbefore, hafter, count_toList]
  omega

theorem Orderly.exists_returning (h : s.Orderly) (hnone : s.result? c = none)
    (hr : (s.run actions).1.result? c = some r) :
    ∃ before a after, actions = before ++ a :: after ∧ (s.run before).1.result? c = none ∧
      ((s.run before).1.step a).1.result? c = some r := by
  induction actions generalizing s with
  | nil => cases hnone.symm.trans hr
  | cons a rest ih =>
    cases hstep : (s.step a).1.result? c with
    | none =>
      obtain ⟨before, b, after, rfl, hbefore, hafter⟩ := ih (orderly_step h a) hstep hr
      exact ⟨a :: before, b, after, rfl, hbefore, hafter⟩
    | some r' =>
      have hlater := (orderly_step h a).result?_run hstep rest
      obtain rfl := Option.some.inj (hr.symm.trans hlater)
      exact ⟨[], a, rest, rfl, hnone, hstep⟩

/-! ## What a call pays, by how it returns -/

/-- The state that actions lead a fresh connection to. -/
def reached (settings : ClientSettings) (actions : List ClientAction) : Client :=
  ((start settings).run actions).1

/-- How often a call has been charged an error penalty in a run of a fresh connection. -/
def paid (settings : ClientSettings) (actions : List ClientAction) (c : Nat) : Nat :=
  (payers ((start settings).run actions).2).count c

theorem orderly_reached (settings : ClientSettings) (actions : List ClientAction) :
    (reached settings actions).Orderly :=
  orderly_run (orderly_start settings) actions

/-- A call that has not returned has paid at most for the error that the server answered with. -/
theorem paid_of_unreturned (h : (reached settings actions).result? c = none) :
    paid settings actions c = (reached settings actions).refusals c := by
  have hleavers := (orderly_start settings).leavers_of_unreturned h
  rw [paid, count_payers_start, List.count_eq_zero.mpr hleavers]
  rfl

/-- What a call has paid is settled in the step in which it returns. -/
theorem paid_of_returning (hnone : (reached settings before).result? c = none)
    (hr : ((reached settings before).step a).1.result? c = some r) (rest : List ClientAction) :
    paid settings (before ++ a :: rest) c = (reached settings (before ++ a :: rest)).refusals c +
      if (reached settings before).leaver? a = some c then 1 else 0 := by
  rw [paid, count_payers_start, (orderly_start settings).count_leavers hnone hr rest]
  rfl

/-- No call is told that its time is over. -/
theorem given?_ne_timeout {method : String} {wait : Duration} :
    (reached settings actions).given? c ≠ some (.error (.timeout method wait)) := by
  intro hgiven
  rw [reached, run_eq_states] at hgiven
  obtain ⟨call, here, hinbox⟩ := given?_eq_some_iff.mp hgiven
  obtain ⟨m, -, id, told, -⟩ := exists_delivery here hinbox
  rcases eq_of_told told (fun h => h) with h | h <;> cases h

theorem leaver?_of_timeout {method : String} {wait : Duration}
    (hnone : (reached settings before).result? c = none)
    (hr : ((reached settings before).step a).1.result? c =
      some (.error (.timeout method wait))) : (reached settings before).leaver? a = some c := by
  rw [leaver?_eq_some_iff]
  cases (orderly_reached settings before).returns hnone hr with
  | refused why =>
    rcases why with h | ⟨text, h⟩ <;> cases h
  | told given => exact absurd given given?_ne_timeout
  | released why stage error =>
    rcases error with ⟨rfl, -⟩ | ⟨-, h⟩ | ⟨text, h⟩
    · exact .released stage
    · cases h
    · cases h
  | timedOut late stage => exact .timedOut late stage

/-- A call that returns anything but a timeout, or that it was cancelled, does not pay for it. -/
theorem leaver?_ne_of_result? (hr : (s.step a).1.result? c = some r)
    (htime : ∀ method wait, r ≠ .error (.timeout method wait)) (hcancel : r ≠ .error .cancelled) :
    s.leaver? a ≠ some c := by
  intro hpays
  rcases (leaver?_eq_some_iff.mp hpays).result? with h | ⟨-, h⟩
  · exact htime _ _ (Option.some.inj (hr.symm.trans h))
  · exact hcancel (Option.some.inj (hr.symm.trans h))

/-! ### Given up while the frame is under way -/

theorem Orderly.stage?_run_of_released (h : s.Orderly)
    (stage : s.stage? c = some (.released id .cancelled))
    (hnone : (s.run actions).1.result? c = none) :
    (s.run actions).1.stage? c = some (.released id .cancelled) := by
  induction actions generalizing s with
  | nil => exact stage
  | cons a rest ih =>
    refine ih (orderly_step h a) (stage?_step_of_released stage ?_) hnone
    rintro rfl
    have hlater := (orderly_step h _).result?_run (result?_of_released stage) rest
    cases hnone.symm.trans hlater

/-- A call that has let the writer go because it was given up returns so, and pays nothing. -/
theorem returns_of_released (stage : s.stage? c = some (.released id .cancelled))
    (hr : (s.step a).1.result? c = some r) : a = .proceed c ∧ r = .error .cancelled := by
  have hturn : a = .proceed c := by
    by_contra hne
    have hstays := stage?_step_of_released stage hne
    cases hstays.symm.trans (stage?_of_result? hr)
  subst hturn
  exact ⟨rfl, Option.some.inj (hr.symm.trans (result?_of_released stage))⟩

/-- A call has let the writer go because its caller gave it up while the frame was under way. -/
theorem exists_abandons
    (h : (reached settings actions).stage? c = some (.released id .cancelled)) :
    ∃ before rest, actions = before ++ .giveUp c :: rest ∧
      (reached settings before).Abandons c .frame (.giveUp c) := by
  induction actions using List.reverseRecOn with
  | nil => cases h
  | append_singleton actions a ih =>
    rw [reached, run_snoc] at h
    rcases (orderly_reached settings actions).goes_of_stage? h with hsame | henter | hgoes
    · obtain ⟨before, rest, rfl, habandons⟩ := ih hsame
      exact ⟨before, rest ++ [a], by simp, habandons⟩
    · cases henter
    · cases hgoes with
      | releases cause =>
        have habandons := cause rfl
        obtain rfl := habandons.action
        exact ⟨actions, [], rfl, habandons⟩
      | onward going => cases going

/-! ### The bill -/

/-- What a call has been charged after a run of a fresh connection, by how it has ended. -/
structure Billed (settings : ClientSettings) (actions : List ClientAction) (c : Nat) : Prop where
  /-- The cost of the session is the sum of all charges. -/
  account : (reached settings actions).cost = (SessionCost.start settings.cost).applyAll
    (charges ((start settings).run actions).2)
  /-- A call that has returned is not listed. -/
  unlisted : ∀ {r : Except ClientError Json}, (reached settings actions).result? c = some r →
    ∀ id, (id, c) ∉ (reached settings actions).pending
  underWay : (reached settings actions).result? c = none →
    paid settings actions c = (reached settings actions).refusals c
  /-- A call whose time is over pays one penalty for it. -/
  timedOut : ∀ {method : String} {wait : Duration},
    (reached settings actions).result? c = some (.error (.timeout method wait)) →
    paid settings actions c = (reached settings actions).refusals c + 1
  /-- A call that sees that it has been given up returns so. It pays one penalty if it waited for
  the reply, and none if it waited for the writer or its frame was under way. -/
  givenUp : ∀ {before after : List ClientAction} {a : ClientAction} {wait : CallWait}
    {r : Except ClientError Json}, actions = before ++ a :: after →
    (reached settings before).Abandons c wait a →
    (reached settings actions).result? c = some r →
    r = .error .cancelled ∧ paid settings actions c =
      (reached settings actions).refusals c + if wait = .reply then 1 else 0
  /-- A call that returns that it was cancelled was told so at the end of the connection, or has
  seen that it was given up. -/
  cancelled : (reached settings actions).result? c = some (.error .cancelled) →
    (reached settings actions).given? c = some (.error .cancelled) ∧
        paid settings actions c = (reached settings actions).refusals c ∨
      ∃ before a after wait, actions = before ++ a :: after ∧
        (reached settings before).Abandons c wait a
  otherwise : ∀ {r : Except ClientError Json}, (reached settings actions).result? c = some r →
    (∀ method wait, r ≠ .error (.timeout method wait)) → r ≠ .error .cancelled →
    paid settings actions c = (reached settings actions).refusals c

theorem unlisted_of_result? (hr : (reached settings actions).result? c = some r) (id : Nat) :
    (id, c) ∉ (reached settings actions).pending := by
  intro entry
  rw [reached, run_eq_states] at hr entry
  cases (result?_of_listed entry).symm.trans hr

theorem exists_returning_start (hr : (reached settings actions).result? c = some r) :
    ∃ before a after, actions = before ++ a :: after ∧
      (reached settings before).result? c = none ∧
      ((reached settings before).step a).1.result? c = some r :=
  (orderly_start settings).exists_returning rfl hr

theorem paid_of_timeout {method : String} {wait : Duration}
    (hr : (reached settings actions).result? c = some (.error (.timeout method wait))) :
    paid settings actions c = (reached settings actions).refusals c + 1 := by
  obtain ⟨before, a, after, rfl, hnone, hstep⟩ := exists_returning_start hr
  rw [paid_of_returning hnone hstep, if_pos (leaver?_of_timeout hnone hstep)]

theorem paid_of_otherwise (hr : (reached settings actions).result? c = some r)
    (htime : ∀ method wait, r ≠ .error (.timeout method wait)) (hcancel : r ≠ .error .cancelled) :
    paid settings actions c = (reached settings actions).refusals c := by
  obtain ⟨before, a, after, rfl, hnone, hstep⟩ := exists_returning_start hr
  rw [paid_of_returning hnone hstep, if_neg (leaver?_ne_of_result? hstep htime hcancel),
    Nat.add_zero]

/-- A call that sees that it has been given up, and returns in that step. -/
theorem paid_of_returning_givenUp
    (habandons : (reached settings before).Abandons c wait a)
    (hstep : ((reached settings before).step a).1.result? c = some (.error .cancelled))
    (hr : (reached settings (before ++ a :: after)).result? c = some r) :
    r = .error .cancelled ∧ paid settings (before ++ a :: after) c =
      (reached settings (before ++ a :: after)).refusals c + if wait = .reply then 1 else 0 := by
  have hnone := habandons.unreturned
  have hlater := (orderly_step (orderly_reached settings before) a).result?_run hstep after
  rw [reached, run_mid] at hr
  refine ⟨Option.some.inj (hr.symm.trans hlater), ?_⟩
  simp only [paid_of_returning hnone hstep, habandons.leaver?_iff]

/-- A call that sees that it has been given up while its frame is under way. -/
theorem paid_of_frame (habandons : (reached settings before).Abandons c .frame a)
    (hr : (reached settings (before ++ a :: after)).result? c = some r) :
    r = .error .cancelled ∧ paid settings (before ++ a :: after) c =
      (reached settings (before ++ a :: after)).refusals c := by
  obtain ⟨id, stage⟩ := habandons.stage?_frame
  have horderly : ((reached settings before).step a).1.Orderly :=
    orderly_step (orderly_reached settings before) a
  have hopen : ((reached settings before).step a).1.result? c = none := by
    rw [Client.result?, stage]
  rw [reached, run_mid] at hr
  obtain ⟨middle, b, rest, rfl, hnone, hstep⟩ := horderly.exists_returning hopen hr
  have hreached : (((reached settings before).step a).1.run middle).1 =
      reached settings (before ++ a :: middle) := (run_mid _ before middle a).symm
  have hstage := horderly.stage?_run_of_released stage hnone
  obtain ⟨rfl, rfl⟩ := returns_of_released hstage hstep
  rw [hreached] at hnone hstep hstage
  have hfree : (reached settings (before ++ a :: middle)).leaver? (.proceed c) ≠ some c := by
    simp [leaver?, hstage]
  refine ⟨rfl, ?_⟩
  have hsplit : before ++ a :: (middle ++ ClientAction.proceed c :: rest) =
      (before ++ a :: middle) ++ .proceed c :: rest := by simp
  rw [hsplit, paid_of_returning hnone hstep, if_neg hfree, Nat.add_zero]

theorem paid_of_givenUp (habandons : (reached settings before).Abandons c wait a)
    (hr : (reached settings (before ++ a :: after)).result? c = some r) :
    r = .error .cancelled ∧ paid settings (before ++ a :: after) c =
      (reached settings (before ++ a :: after)).refusals c + if wait = .reply then 1 else 0 := by
  cases wait with
  | writer => exact paid_of_returning_givenUp habandons habandons.result?_writer hr
  | frame => exact paid_of_frame habandons hr
  | reply => exact paid_of_returning_givenUp habandons habandons.result?_reply hr

theorem cause_of_cancelled
    (hr : (reached settings actions).result? c = some (.error .cancelled)) :
    (reached settings actions).given? c = some (.error .cancelled) ∧
        paid settings actions c = (reached settings actions).refusals c ∨
      ∃ before a after wait, actions = before ++ a :: after ∧
        (reached settings before).Abandons c wait a := by
  obtain ⟨before, a, after, rfl, hnone, hstep⟩ := exists_returning_start hr
  cases (orderly_reached settings before).returns hnone hstep with
  | refused why =>
    rcases why with h | ⟨text, h⟩ <;> cases h
  | told given =>
    have hfree : (reached settings before).leaver? (.proceed c) ≠ some c := by
      intro hpays
      rcases (leaver?_eq_some_iff.mp hpays).result? with h | ⟨habandons, -⟩
      · cases hstep.symm.trans h
      · cases habandons.action
    have hgiven := (orderly_reached settings before).given?_run given (.proceed c :: after)
    refine .inl ⟨?_, ?_⟩
    · rw [reached, run_append]
      exact hgiven
    · rw [paid_of_returning hnone hstep, if_neg hfree, Nat.add_zero]
  | released why stage error =>
    rcases error with ⟨-, h⟩ | ⟨rfl, -⟩ | ⟨text, h⟩
    · cases h
    · obtain ⟨first, rest, rfl, habandons⟩ := exists_abandons stage
      exact .inr ⟨first, .giveUp c, rest ++ .proceed c :: after, .frame, by simp, habandons⟩
    · cases h
  | givenUp wait habandons unwritten =>
    exact .inr ⟨before, .giveUp c, after, wait, rfl, habandons⟩

/-- **What calls that give up pay**, for every run of any number of calls: one penalty if their time
is over, one if they were given up while they waited for the reply, and none if they were given up
before. None of them is listed any more. -/
theorem abandoned_calls_pay (settings : ClientSettings) (actions : List ClientAction) (c : Nat) :
    Billed settings actions c where
  account := cost_run (start settings) actions
  unlisted := unlisted_of_result?
  underWay := paid_of_unreturned
  timedOut := paid_of_timeout
  givenUp := by
    rintro before after a wait r rfl habandons hr
    exact paid_of_givenUp habandons hr
  cancelled := cause_of_cancelled
  otherwise := paid_of_otherwise

/-- Two calls, of which the second is given up behind the first in the line for the writer, and then
the first before its frame is out. -/
def impatient : List ClientAction :=
  [.call Method.ping (.array []), .call Method.ping (.array []),
    .proceed 0, .proceed 0, .proceed 0, .proceed 0, .proceed 0,
    .proceed 1, .proceed 1, .proceed 1, .proceed 1,
    .cancel 1, .giveUp 1, .cancel 0, .giveUp 0, .proceed 0]

/-- **A call can be given up without paying for it**, while it waits for the writer as well as while
its frame is under way. -/
theorem given_up_unpaid :
    (reached {} (impatient.take 12)).Abandons 1 .writer (.giveUp 1) ∧
      (reached {} (impatient.take 14)).Abandons 0 .frame (.giveUp 0) ∧
      (reached {} impatient).result? 1 = some (.error .cancelled) ∧
      (reached {} impatient).result? 0 = some (.error .cancelled) ∧
      paid {} impatient 1 = 0 ∧ paid {} impatient 0 = 0 := by
  have hframe₀ : ∃ bytes, Request.frame 0 Method.ping (.array []) = .ok bytes :=
    Request.exists_frame 0 (by decide +kernel)
  have hframe₁ : ∃ bytes, Request.frame (0 + 1) Method.ping (.array []) = .ok bytes :=
    Request.exists_frame 1 (by decide +kernel)
  obtain ⟨first, hframe₀⟩ := hframe₀
  obtain ⟨second, hframe₁⟩ := hframe₁
  refine ⟨⟨rfl, ?_, ?_⟩, ⟨rfl, ?_, ?_⟩, ?_, ?_, ?_, ?_⟩
  -- With the frames at hand the steps can be carried out.
  all_goals
    simp [impatient, reached, paid, payers, start, run, step, enter, proceed, number, hframe₀,
      hframe₁, register, enqueue, isClosed, beginWrite, takeWriter?, giveUp, leaveWriter, unregister,
      release, releaseWriter, afterRelease, beginClosing, finish, goto, updateCall, stage?,
      Client.result?, CallStage.wait?]

end Client
end HeaderFollower
