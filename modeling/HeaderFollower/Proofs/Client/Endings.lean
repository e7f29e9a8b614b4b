/-
# How calls end

A call goes on only in turns of its own (`stage?_step_of_not_turn`), and the ways in which it can end
are few: `Orderly.goes` opens these turns once and finds one of the cases of `Goes`. A caller that
gives up is heard in three places, named by `CallWait`: while the call waits for the writer, while
the transport takes its frame, and while it waits for the reply.
-/

import HeaderFollower.Proofs.Client.Correlated

namespace HeaderFollower

/-- What a call waits for when it can be given up. -/
inductive CallWait where
  /-- For the writer. -/
  | writer
  /-- For the transport to take its frame. -/
  | frame
  /-- For the reply. -/
  | reply
  deriving DecidableEq, Repr

/-- What a call waits for. -/
def CallStage.wait? : CallStage → Option CallWait
  | .queued _ _ _ => some .writer
  | .writing _ _ _ => some .frame
  | .waiting _ _ => some .reply
  | _ => none

/-- The call has neither ended nor let the writer go early. -/
def CallStage.goesOn : CallStage → Bool
  | .released _ _ | .finished _ => false
  | _ => true

/-- The call that has its turn. -/
def ClientAction.turnOf? : ClientAction → Option Nat
  | .proceed c | .write c _ | .writeFails c _ | .timeOut c | .giveUp c | .noticeShutdown c => some c
  | _ => none

namespace Client

variable {s t : Client} {a : ClientAction} {c d id : Nat} {call : ClientCall}
  {r : Except ClientError Json} {stage target : CallStage}

/-! ## A call goes on in its own turns -/

theorem stage?_of_calls (h : t.calls = s.calls) (c : Nat) : t.stage? c = s.stage? c := by
  rw [stage?, stage?, h]

theorem stage?_goto_self (h : s.stage? c = some stage) (next : CallStage) :
    (s.goto c next).stage? c = some next := by
  obtain ⟨call, here, -⟩ := stage?_eq_some.mp h
  exact stage?_eq_some.mpr ⟨_, getElem?_goto here next, rfl⟩

theorem stage?_updateCall (s : Client) (d c : Nat) (f : ClientCall → ClientCall) :
    (s.updateCall d f).stage? c =
      (s.calls[c]?).map fun call => if d = c then (f call).stage else call.stage := by
  rw [stage?, updateCall, List.getElem?_modify]
  by_cases h : d = c <;> cases s.calls[c]? <;> simp [h]

theorem stage?_goto_of_ne (h : d ≠ c) (next : CallStage) :
    (s.goto d next).stage? c = s.stage? c := by
  rw [goto, stage?_updateCall, stage?]
  simp only [if_neg h]

/-- What another call does in its turn leaves the stage of a call alone. -/
theorem stage?_of_goto {u : Client} {next : CallStage} (h : d ≠ c) (hu : u.calls = s.calls)
    (ht : t.calls = (u.goto d next).calls) : t.stage? c = s.stage? c :=
  (stage?_of_calls ht c).trans ((stage?_goto_of_ne h next).trans (stage?_of_calls hu c))

theorem stage?_deliver (s : Client) (id c : Nat) (r : Except ClientError Json) :
    (s.deliver id r).stage? c = s.stage? c := by
  unfold deliver
  split
  · rw [stage?_updateCall, stage?, calls_unregister]
    simp only [ite_self]
  · rfl

theorem stage?_afterRelease_of_ne (h : d ≠ c) (why : WriteEnd) :
    (s.afterRelease d id why).1.stage? c = s.stage? c := by
  have hmark (u : Client) (cancelled : Bool) (hu : u.calls = s.calls) :
      (u.beginClosing cancelled).calls = s.calls := (calls_beginClosing u cancelled).trans hu
  cases why with
  | timedOut =>
    exact stage?_of_goto h (hmark ((s.unregister id).charge (some d) .error).1 false rfl) rfl
  | cancelled => exact stage?_of_goto h (hmark (s.unregister id) false rfl) rfl
  | failed text => exact stage?_of_goto h (hmark (s.unregister id) false rfl) rfl
  | shutdown => exact stage?_of_goto h (hmark s true rfl) rfl

theorem stage?_proceed_of_ne (h : d ≠ c) : (s.proceed d).1.stage? c = s.stage? c := by
  unfold proceed
  split
  · rfl
  · next call _ =>
    cases call.stage with
    | entered =>
      dsimp only
      split <;> exact stage?_of_goto h rfl rfl
    | admitted =>
      dsimp only [number]
      split <;> exact stage?_of_goto h rfl rfl
    | numbered id frame => exact stage?_of_goto h rfl rfl
    | registered id frame =>
      dsimp only [enqueue]
      split
      · exact stage?_of_goto (u := s.unregister id) h rfl rfl
      · exact stage?_of_goto h rfl rfl
    | queued id frame deadline =>
      dsimp only [beginWrite]
      split
      · next t ht =>
        obtain ⟨writer, rfl⟩ := takeWriter?_eq_some ht
        exact stage?_of_goto h rfl rfl
      · rfl
    | writing id frame deadline =>
      dsimp only [endWrite]
      split
      · exact stage?_of_goto (u := s.releaseWriter) h rfl rfl
      · rfl
    | released id why => exact stage?_afterRelease_of_ne h why
    | waiting id deadline =>
      dsimp only [takeInbox]
      split
      · exact stage?_of_goto h rfl rfl
      · rfl
    | parked id =>
      dsimp only [takeInbox]
      split
      · exact stage?_of_goto h rfl rfl
      · rfl
    | finished result => rfl

theorem stage?_timeOut_of_ne (h : d ≠ c) : (s.timeOut d).1.stage? c = s.stage? c := by
  simp only [timeOut]
  split
  · next id _ _ _ =>
    split
    · exact stage?_of_goto
        (u := (((s.leaveWriter (.call d)).unregister id).charge (some d) .error).1) h rfl rfl
    · rfl
  · dsimp only
    split
    · exact stage?_of_goto (u := s.releaseWriter) h rfl rfl
    · rfl
  · next id _ _ =>
    split
    · exact stage?_of_goto (u := ((s.unregister id).charge (some d) .error).1) h rfl rfl
    · rfl
  · rfl

theorem stage?_giveUp_of_ne (h : d ≠ c) : (s.giveUp d).1.stage? c = s.stage? c := by
  simp only [giveUp]
  split
  · split
    · next id _ _ _ =>
      exact stage?_of_goto (u := (s.leaveWriter (.call d)).unregister id) h rfl rfl
    · exact stage?_of_goto (u := s.releaseWriter) h rfl rfl
    · next id _ _ =>
      exact stage?_of_goto (u := ((s.unregister id).charge (some d) .error).1) h rfl rfl
    · rfl
  · rfl

theorem stage?_noticeShutdown_of_ne (h : d ≠ c) :
    (s.noticeShutdown d).stage? c = s.stage? c := by
  simp only [noticeShutdown]
  split
  · split
    · exact stage?_of_goto (u := s.leaveWriter (.call d)) h rfl rfl
    · exact stage?_of_goto (u := s.releaseWriter) h rfl rfl
    · rfl
  · rfl

theorem stage?_readLine (s : Client) (c : Nat) : s.readLine.1.stage? c = s.stage? c := by
  have same := readLine_sameCalls s
  rw [stage?_of_calls same.calls]
  cases s.delivery? .readLine with
  | none => rfl
  | some told => exact stage?_deliver s told.1 c told.2

theorem stage?_tearDown (s : Client) (c : Nat) : s.tearDown.stage? c = s.stage? c := by
  have same := tearDown_sameCalls s
  rw [stage?_of_calls same.calls]
  cases s.delivery? .tearDown with
  | none => rfl
  | some told => exact stage?_deliver s told.1 c told.2

/-- A call that is there stays where it is until it has its turn. -/
theorem stage?_step_of_not_turn (h : s.stage? c = some stage) (ha : a.turnOf? ≠ some c) :
    (s.step a).1.stage? c = some stage := by
  obtain ⟨call, here, hstage⟩ := stage?_eq_some.mp h
  have hlt : c < s.calls.length := (List.getElem?_eq_some_iff.mp here).1
  have hends (p : Prop) [Decidable p] (cancelled : Bool) :
      (if p then s.endReading cancelled else s).stage? c = s.stage? c := by
    split
    · exact stage?_of_calls (endReading_sameCalls s cancelled).calls c
    · rfl
  have henter (method : String) (params : Json) :
      (s.enter method params).stage? c = some stage := by
    rw [stage?, enter, List.getElem?_append_left hlt]
    exact h
  rw [← h]
  cases a with
  | proceed d => exact stage?_proceed_of_ne fun hd => ha (congrArg some hd)
  | write d count =>
    simp only [step]
    split <;> rfl
  | writeFails d text =>
    have hne : d ≠ c := fun hd => ha (congrArg some hd)
    simp only [step]
    split
    · exact stage?_of_goto (u := s.releaseWriter) hne rfl rfl
    · rfl
  | timeOut d => exact stage?_timeOut_of_ne fun hd => ha (congrArg some hd)
  | giveUp d => exact stage?_giveUp_of_ne fun hd => ha (congrArg some hd)
  | noticeShutdown d => exact stage?_noticeShutdown_of_ne fun hd => ha (congrArg some hd)
  | readLine => exact stage?_readLine s c
  | tearDown => exact stage?_tearDown s c
  | call method params => exact (henter method params).trans h.symm
  | cancel d =>
    simp only [step]
    rw [stage?_updateCall, stage?]
    simp only [ite_self]
  | readFails => exact hends _ _
  | stopReading => exact hends _ _
  | readTimeOut => exact hends _ _
  | ping =>
    simp only [step, ping]
    repeat' split
    · exact (henter _ _).trans h.symm
    all_goals rfl
  | pinged =>
    simp only [step, pinged]
    repeat' split
    all_goals first | rfl | exact stage?_of_calls (calls_beginClosing _ _) c
  | close =>
    simp only [step, close]
    split
    · rfl
    · exact stage?_of_calls (calls_beginClosing s false) c
  | closerTakes =>
    simp only [step]
    cases htaken : s.takeWriter? .closer with
    | none => rfl
    | some t =>
      obtain ⟨writer, rfl⟩ := takeWriter?_eq_some htaken
      rfl
  | closerWrites count =>
    simp only [step]
    split <;> rfl
  | closerEnds =>
    simp only [step]
    split <;> rfl
  | decay =>
    simp only [step]
    split <;> rfl
  | arrive piece =>
    simp only [step, arrive]
    split <;> rfl
  | endOfStream =>
    simp only [step, endOfStream]
    split <;> rfl
  | cancelParent => rfl
  | wait time => rfl

/-! ## How calls end -/

/-- The caller of a call has given it up, and the call sees so while it waits for something. -/
structure Abandons (s : Client) (c : Nat) (wait : CallWait) (a : ClientAction) : Prop where
  action : a = .giveUp c
  cancelled : ((s.calls[c]?).map (·.cancelled)).getD false = true
  waits : (s.stage? c).bind CallStage.wait? = some wait

theorem Abandons.queued (h : s.Abandons c .writer a) :
    ∃ id frame deadline, s.stage? c = some (.queued id frame deadline) := by
  obtain ⟨stage, hstage, hwait⟩ := Option.bind_eq_some_iff.mp h.waits
  cases stage with
  | queued id frame deadline => exact ⟨id, frame, deadline, hstage⟩
  | _ => cases hwait

theorem Abandons.writing (h : s.Abandons c .frame a) :
    ∃ id frame deadline, s.stage? c = some (.writing id frame deadline) := by
  obtain ⟨stage, hstage, hwait⟩ := Option.bind_eq_some_iff.mp h.waits
  cases stage with
  | writing id frame deadline => exact ⟨id, frame, deadline, hstage⟩
  | _ => cases hwait

theorem Abandons.waiting (h : s.Abandons c .reply a) :
    ∃ id deadline, s.stage? c = some (.waiting id deadline) := by
  obtain ⟨stage, hstage, hwait⟩ := Option.bind_eq_some_iff.mp h.waits
  cases stage with
  | waiting id deadline => exact ⟨id, deadline, hstage⟩
  | _ => cases hwait

/-- How a call returns in its turn. -/
inductive Returns (s : Client) (c : Nat) : ClientAction → Except ClientError Json → Prop where
  /-- The connection is closed, or the request could not be written down. -/
  | refused {e : ClientError} (why : e = .closed ∨ ∃ text, e = .encode text) :
      Returns s c (.proceed c) (.error e)
  | told {r : Except ClientError Json} (given : s.given? c = some r) : Returns s c (.proceed c) r
  /-- It has let the writer go early. -/
  | released {id : Nat} {e : ClientError} (why : WriteEnd)
      (stage : s.stage? c = some (.released id why))
      (error : why = .timedOut ∧ e = s.timeoutError c ∨ why = .cancelled ∧ e = .cancelled ∨
        ∃ text, e = .io text) : Returns s c (.proceed c) (.error e)
  | timedOut {id deadline : Nat} (late : deadline ≤ s.now)
      (stage : (∃ frame, s.stage? c = some (.queued id frame deadline)) ∨
        s.stage? c = some (.waiting id deadline)) :
      Returns s c (.timeOut c) (.error (s.timeoutError c))
  | givenUp (wait : CallWait) (abandons : s.Abandons c wait (.giveUp c)) (unwritten : wait ≠ .frame) :
      Returns s c (.giveUp c) (.error .cancelled)

/-- What a call goes on to in its turn. -/
inductive Goes (s : Client) (c : Nat) : ClientAction → CallStage → Prop where
  | returns {a : ClientAction} {r : Except ClientError Json} (how : Returns s c a r) :
      Goes s c a (.finished r)
  /-- It lets the writer go early. -/
  | releases {a : ClientAction} {id : Nat} {why : WriteEnd}
      (cause : why = .cancelled → s.Abandons c .frame a) : Goes s c a (.released id why)
  | onward {a : ClientAction} {stage : CallStage} (going : stage.goesOn = true) : Goes s c a stage

theorem stage?_of_result? (h : s.result? c = some r) : s.stage? c = some (.finished r) := by
  obtain ⟨call, here, hstage⟩ := result?_eq_some_iff.mp h
  exact stage?_eq_some.mpr ⟨call, here, hstage⟩

theorem result?_of_stage? (h : s.stage? c = some (.finished r)) : s.result? c = some r := by
  rw [result?, h]

/-- A call that is given up while it waits for the writer returns at once. -/
theorem Abandons.result?_writer (h : s.Abandons c .writer a) :
    (s.step a).1.result? c = some (.error .cancelled) := by
  obtain ⟨id, frame, deadline, stage⟩ := h.queued
  refine result?_of_stage? ?_
  simp only [h.action, step, giveUp, h.cancelled, if_true, stage]
  exact stage?_goto_self ((stage?_of_calls rfl c).trans stage) _

/-- A call that is given up while its frame is under way lets the writer go. -/
theorem Abandons.stage?_frame (h : s.Abandons c .frame a) :
    ∃ id, (s.step a).1.stage? c = some (.released id .cancelled) := by
  obtain ⟨id, frame, deadline, stage⟩ := h.writing
  refine ⟨id, ?_⟩
  simp only [h.action, step, giveUp, h.cancelled, if_true, stage]
  exact stage?_goto_self ((stage?_of_calls rfl c).trans stage) _

/-- A call that is given up while it waits for the reply returns at once. -/
theorem Abandons.result?_reply (h : s.Abandons c .reply a) :
    (s.step a).1.result? c = some (.error .cancelled) := by
  obtain ⟨id, deadline, stage⟩ := h.waiting
  refine result?_of_stage? ?_
  simp only [h.action, step, giveUp, h.cancelled, if_true, stage]
  exact stage?_goto_self ((stage?_of_calls rfl c).trans stage) _

/-- A call that goes on to a stage is there. -/
theorem eq_of_goto {u : Client} {next : CallStage} (h : s.stage? c = some stage)
    (hu : u.calls = s.calls) (ht : t.calls = (u.goto c next).calls)
    (hr : t.stage? c = some target) : next = target := by
  have hself : t.stage? c = some next :=
    (stage?_of_calls ht c).trans (stage?_goto_self ((stage?_of_calls hu c).trans h) next)
  exact Option.some.inj (hself.symm.trans hr)

theorem goes_afterRelease {why : WriteEnd} (h : s.stage? c = some (.released id why))
    (hr : (s.afterRelease c id why).1.stage? c = some target) : Goes s c (.proceed c) target := by
  have hmark (u : Client) (cancelled : Bool) (hu : u.calls = s.calls) :
      (u.beginClosing cancelled).calls = s.calls := (calls_beginClosing u cancelled).trans hu
  cases why with
  | timedOut =>
    obtain rfl := eq_of_goto h (hmark ((s.unregister id).charge (some c) .error).1 false rfl) rfl hr
    exact .returns (.released .timedOut h (.inl ⟨rfl, rfl⟩))
  | cancelled =>
    obtain rfl := eq_of_goto h (hmark (s.unregister id) false rfl) rfl hr
    exact .returns (.released .cancelled h (.inr (.inl ⟨rfl, rfl⟩)))
  | failed text =>
    obtain rfl := eq_of_goto h (hmark (s.unregister id) false rfl) rfl hr
    exact .returns (.released (.failed text) h (.inr (.inr ⟨text, rfl⟩)))
  | shutdown =>
    obtain rfl := eq_of_goto h (hmark s true rfl) rfl hr
    exact .onward rfl

theorem goes_takeInbox (here : s.calls[c]? = some call) (hne : call.stage ≠ target)
    (hr : (s.takeInbox c call).stage? c = some target) : Goes s c (.proceed c) target := by
  have h : s.stage? c = some call.stage := stage?_eq_some.mpr ⟨call, here, rfl⟩
  unfold takeInbox at hr
  split at hr
  · next result hinbox =>
    obtain rfl := eq_of_goto h rfl rfl hr
    exact .returns (.told (given?_eq_some_iff.mpr ⟨call, here, hinbox⟩))
  · exact absurd (Option.some.inj (h.symm.trans hr)) hne

theorem goes_proceed (here : s.calls[c]? = some call) (hne : call.stage ≠ target)
    (hr : (s.proceed c).1.stage? c = some target) : Goes s c (.proceed c) target := by
  have h : s.stage? c = some call.stage := stage?_eq_some.mpr ⟨call, here, rfl⟩
  have hstay (hs : s.stage? c = some target) : Goes s c (.proceed c) target :=
    absurd (Option.some.inj (h.symm.trans hs)) hne
  simp only [proceed, here] at hr
  cases hstage : call.stage with
  | entered =>
    simp only [hstage] at hr
    split at hr
    · obtain rfl := eq_of_goto h rfl rfl hr
      exact .returns (.refused (.inl rfl))
    · obtain rfl := eq_of_goto h rfl rfl hr
      exact .onward rfl
  | admitted =>
    simp only [hstage, number] at hr
    split at hr
    · next text _ =>
      obtain rfl := eq_of_goto h rfl rfl hr
      exact .returns (.refused (.inr ⟨text, rfl⟩))
    · obtain rfl := eq_of_goto h rfl rfl hr
      exact .onward rfl
  | numbered id frame =>
    simp only [hstage] at hr
    obtain rfl := eq_of_goto h rfl rfl hr
    exact .onward rfl
  | registered id frame =>
    simp only [hstage, enqueue] at hr
    split at hr
    · obtain rfl := eq_of_goto (u := s.unregister id) h rfl rfl hr
      exact .returns (.refused (.inl rfl))
    · obtain rfl := eq_of_goto h rfl rfl hr
      exact .onward rfl
  | queued id frame deadline =>
    simp only [hstage, beginWrite] at hr
    split at hr
    · next t ht =>
      obtain ⟨writer, rfl⟩ := takeWriter?_eq_some ht
      obtain rfl := eq_of_goto h rfl rfl hr
      exact .onward rfl
    · exact hstay hr
  | writing id frame deadline =>
    simp only [hstage, endWrite] at hr
    split at hr
    · obtain rfl := eq_of_goto (u := s.releaseWriter) h rfl rfl hr
      exact .onward rfl
    · exact hstay hr
  | released id why =>
    simp only [hstage] at hr
    rw [hstage] at h
    exact goes_afterRelease h hr
  | waiting id deadline =>
    simp only [hstage] at hr
    exact goes_takeInbox here hne hr
  | parked id =>
    simp only [hstage] at hr
    exact goes_takeInbox here hne hr
  | finished result =>
    simp only [hstage] at hr
    exact hstay hr

theorem goes_timeOut (h : s.stage? c = some stage) (hne : stage ≠ target)
    (hr : (s.timeOut c).1.stage? c = some target) : Goes s c (.timeOut c) target := by
  have hstay (hs : s.stage? c = some target) : Goes s c (.timeOut c) target :=
    absurd (Option.some.inj (h.symm.trans hs)) hne
  simp only [timeOut, h] at hr
  cases stage with
  | queued id frame deadline =>
    dsimp only at hr
    split at hr
    · next hle =>
      obtain rfl := eq_of_goto
        (u := (((s.leaveWriter (.call c)).unregister id).charge (some c) .error).1) h rfl rfl hr
      exact .returns (.timedOut hle (.inl ⟨frame, h⟩))
    · exact hstay hr
  | writing id frame deadline =>
    dsimp only at hr
    split at hr
    · obtain rfl := eq_of_goto (u := s.releaseWriter) h rfl rfl hr
      exact .releases fun h => by cases h
    · exact hstay hr
  | waiting id deadline =>
    dsimp only at hr
    split at hr
    · next hle =>
      obtain rfl := eq_of_goto (u := ((s.unregister id).charge (some c) .error).1) h rfl rfl hr
      exact .returns (.timedOut hle (.inr h))
    · exact hstay hr
  | _ => exact hstay hr

theorem goes_giveUp (h : s.stage? c = some stage) (hne : stage ≠ target)
    (hr : (s.giveUp c).1.stage? c = some target) : Goes s c (.giveUp c) target := by
  have hstay (hs : s.stage? c = some target) : Goes s c (.giveUp c) target :=
    absurd (Option.some.inj (h.symm.trans hs)) hne
  simp only [giveUp, h] at hr
  split at hr
  · next hflag =>
    cases stage with
    | queued id frame deadline =>
      obtain rfl := eq_of_goto (u := (s.leaveWriter (.call c)).unregister id) h rfl rfl hr
      exact .returns (.givenUp .writer ⟨rfl, hflag, by rw [h]; rfl⟩ (by decide))
    | writing id frame deadline =>
      obtain rfl := eq_of_goto (u := s.releaseWriter) h rfl rfl hr
      exact .releases fun _ => ⟨rfl, hflag, by rw [h]; rfl⟩
    | waiting id deadline =>
      obtain rfl := eq_of_goto (u := ((s.unregister id).charge (some c) .error).1) h rfl rfl hr
      exact .returns (.givenUp .reply ⟨rfl, hflag, by rw [h]; rfl⟩ (by decide))
    | _ => exact hstay hr
  · exact hstay hr

theorem goes_noticeShutdown (h : s.stage? c = some stage) (hne : stage ≠ target)
    (hr : (s.noticeShutdown c).stage? c = some target) : Goes s c (.noticeShutdown c) target := by
  have hstay (hs : s.stage? c = some target) : Goes s c (.noticeShutdown c) target :=
    absurd (Option.some.inj (h.symm.trans hs)) hne
  simp only [noticeShutdown] at hr
  split at hr
  · split at hr
    · obtain rfl := eq_of_goto (u := s.leaveWriter (.call c)) h rfl rfl hr
      exact .onward rfl
    · obtain rfl := eq_of_goto (u := s.releaseWriter) h rfl rfl hr
      exact .releases fun h => by cases h
    · exact hstay hr
  · exact hstay hr

/-- **A call that is somewhere else after a step has gone there in its own turn**, in one of the ways
that `Goes` lists. -/
theorem goes (h : s.stage? c = some stage) (hne : stage ≠ target)
    (hr : (s.step a).1.stage? c = some target) : Goes s c a target := by
  obtain ⟨call, here, rfl⟩ := stage?_eq_some.mp h
  have hstay (hs : s.stage? c = some target) : Goes s c a target :=
    absurd (Option.some.inj (h.symm.trans hs)) hne
  by_cases hturn : a.turnOf? = some c
  · cases a with
    | proceed d =>
      obtain rfl := Option.some.inj hturn
      exact goes_proceed here hne hr
    | timeOut d =>
      obtain rfl := Option.some.inj hturn
      exact goes_timeOut h hne hr
    | giveUp d =>
      obtain rfl := Option.some.inj hturn
      exact goes_giveUp h hne hr
    | noticeShutdown d =>
      obtain rfl := Option.some.inj hturn
      exact goes_noticeShutdown h hne hr
    | write d count =>
      simp only [step] at hr
      split at hr <;> exact hstay hr
    | writeFails d text =>
      obtain rfl := Option.some.inj hturn
      simp only [step] at hr
      split at hr
      · obtain rfl := eq_of_goto (u := s.releaseWriter) h rfl rfl hr
        exact .releases fun h => by cases h
      · exact hstay hr
    | _ => cases hturn
  · exact absurd (Option.some.inj ((stage?_step_of_not_turn h hturn).symm.trans hr)) hne

/-- A call that has a stage after a step had it before, has just entered, or has gone there. -/
theorem Orderly.goes_of_stage? (h : s.Orderly) (hr : (s.step a).1.stage? c = some target) :
    s.stage? c = some target ∨ target = .entered ∨ Goes s c a target := by
  obtain ⟨after, hafter, rfl⟩ := stage?_eq_some.mp hr
  rcases (h.turn a).back hafter with hsame | ⟨method, params, rfl⟩ | ⟨before, hbefore, -⟩
  · exact .inl (stage?_eq_some.mpr ⟨after, hsame, rfl⟩)
  · exact .inr (.inl rfl)
  · have hstage : s.stage? c = some before.stage := stage?_eq_some.mpr ⟨before, hbefore, rfl⟩
    by_cases hsame : before.stage = after.stage
    · exact .inl (hstage.trans (congrArg some hsame))
    · exact .inr (.inr (goes hstage hsame hr))

/-- **A call returns in its own turn**, in one of the ways that `Returns` lists. -/
theorem Orderly.returns (h : s.Orderly) (hnone : s.result? c = none)
    (hr : (s.step a).1.result? c = some r) : Returns s c a r := by
  rcases h.goes_of_stage? (stage?_of_result? hr) with hsame | henter | hgoes
  · rw [result?_of_stage? hsame] at hnone
    cases hnone
  · cases henter
  · cases hgoes with
    | returns how => exact how
    | onward going => cases going

/-- A call that has let the writer go because it was given up says so. -/
theorem result?_of_released (h : s.stage? c = some (.released id .cancelled)) :
    (s.step (.proceed c)).1.result? c = some (.error .cancelled) := by
  obtain ⟨call, here, hcall⟩ := stage?_eq_some.mp h
  have hcalls : ((s.unregister id).beginClosing false).calls = s.calls := calls_beginClosing _ _
  refine result?_of_stage? ?_
  simp only [step, proceed, here, hcall]
  exact stage?_goto_self ((stage?_of_calls hcalls c).trans h) _

/-- A call that has let the writer go stays so until it says why. -/
theorem stage?_step_of_released {why : WriteEnd} (h : s.stage? c = some (.released id why))
    (ha : a ≠ .proceed c) : (s.step a).1.stage? c = some (.released id why) := by
  by_cases hturn : a.turnOf? = some c
  · cases a with
    | proceed d => exact absurd (congrArg ClientAction.proceed (Option.some.inj hturn)) ha
    | write d count =>
      simp only [step]
      split <;> exact h
    | writeFails d text =>
      obtain rfl := Option.some.inj hturn
      rw [step, h]
      exact h
    | timeOut d =>
      obtain rfl := Option.some.inj hturn
      simp only [step, timeOut, h]
    | giveUp d =>
      obtain rfl := Option.some.inj hturn
      simp only [step, giveUp, h]
      split <;> exact h
    | noticeShutdown d =>
      obtain rfl := Option.some.inj hturn
      simp only [step, noticeShutdown, h]
      split <;> exact h
    | _ => cases hturn
  · exact stage?_step_of_not_turn h hturn

end Client
end HeaderFollower
