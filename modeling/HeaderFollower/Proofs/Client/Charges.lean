/-
# What the steps of a connection cost

Every charge is an effect: the account of the session is what the effects say, summed up in their
order (`Client.cost_run`). `Client.payers_step` says who is charged an error penalty in a step. That
is a call that gives up, if it is one that pays for it (`leaver?`), or a call that the server answers
with an error (`refused?`); what the reader charges for lines belongs to no call.
-/

import HeaderFollower.Proofs.Client.Correlated

namespace HeaderFollower

/-- The charge that an effect makes to the session. -/
def Effect.charge? : Effect → Option Charge
  | .charge _ due => some due
  | _ => none

/-- The call on whose behalf an effect charges an error penalty. -/
def Effect.payer? : Effect → Option Nat
  | .charge (some c) .error => some c
  | _ => none

/-- The calls on whose behalf error penalties are charged, each as often as it is charged. -/
def payers (effects : List Effect) : List Nat := effects.filterMap Effect.payer?

@[simp] theorem payers_append (xs ys : List Effect) : payers (xs ++ ys) = payers xs ++ payers ys :=
  List.filterMap_append

namespace Client

/-! ## What a step charges -/

/-- The call that pays for giving up in a step. -/
def leaver? (s : Client) : ClientAction → Option Nat
  | .proceed c =>
    match s.stage? c with
    | some (.released _ .timedOut) => some c
    | _ => none
  | .timeOut c =>
    match s.stage? c with
    | some (.queued _ _ deadline) => if deadline ≤ s.now then some c else none
    | some (.waiting _ deadline) => if deadline ≤ s.now then some c else none
    | _ => none
  | .giveUp c =>
    if ((s.calls[c]?).map (·.cancelled)).getD false then
      match s.stage? c with
      | some (.waiting _ _) => some c
      | _ => none
    else none
  | _ => none

/-- The call that the server answers with an error in a step. -/
def refused? (s : Client) (a : ClientAction) : Option Nat :=
  match s.delivery? a with
  | some (id, .error (.rpc _ _)) => s.pending.lookup id
  | _ => none

theorem payers_proceed (s : Client) (c : Nat) :
    payers (s.proceed c).2 = (s.leaver? (.proceed c)).toList := by
  simp only [proceed, leaver?, stage?]
  cases here : s.calls[c]? with
  | none => rfl
  | some call =>
    dsimp only [Option.map_some]
    cases hstage : call.stage with
    | writing id frame deadline =>
      dsimp only [endWrite]
      split <;> rfl
    | released id why => cases why <;> rfl
    | _ => rfl

theorem payers_timeOut (s : Client) (c : Nat) :
    payers (s.timeOut c).2 = (s.leaver? (.timeOut c)).toList := by
  simp only [timeOut, leaver?]
  cases s.stage? c with
  | none => rfl
  | some stage =>
    cases stage with
    | queued id frame deadline =>
      dsimp only
      split <;> rfl
    | waiting id deadline =>
      dsimp only
      split <;> rfl
    | _ => rfl

theorem payers_giveUp (s : Client) (c : Nat) :
    payers (s.giveUp c).2 = (s.leaver? (.giveUp c)).toList := by
  simp only [giveUp, leaver?]
  split
  · cases s.stage? c with
    | none => rfl
    | some stage => cases stage <;> rfl
  · rfl

theorem payers_dispatch (s : Client) (line : List UInt8) (hblank : ¬ line.all Text.isAsciiBlank) :
    payers (s.dispatch line).2 =
      match reply? line with
      | some (id, .error (.rpc _ _)) => (s.pending.lookup id).toList
      | _ => [] := by
  rw [dispatch, reply?, if_neg hblank]
  cases Incoming.parse line with
  | error e => rfl
  | ok incoming =>
    cases incoming with
    | response id reply =>
      cases reply with
      | ok result => rfl
      | error e =>
        dsimp only
        cases s.pending.lookup id <;> rfl
    | push p => cases p <;> rfl
    | unknownMethod method => rfl

theorem payers_readLine (s : Client) :
    payers s.readLine.2 = (s.refused? .readLine).toList := by
  simp only [readLine, refused?, delivery?, lineRead?]
  split
  · rcases s.source.arrived with - | ⟨bytes | -, rest⟩
    · rfl
    · dsimp only [takeLine]
      split
      · next hblank =>
        rw [Option.bind_some, reply?, if_pos hblank]
        rfl
      · next hblank =>
        rw [payers_append, payers_dispatch _ _ hblank, Option.bind_some]
        split <;> rfl
    · rfl
  · rfl

/-- **A step charges a penalty to the call that pays for giving up in it**, or to the one that the
server answers with an error. -/
theorem payers_step (s : Client) (a : ClientAction) :
    payers (s.step a).2 = (s.leaver? a).toList ++ (s.refused? a).toList := by
  have hquiet (heffects : payers (s.step a).2 = []) (hleaver : s.leaver? a = none)
      (hrefused : s.refused? a = none) :
      payers (s.step a).2 = (s.leaver? a).toList ++ (s.refused? a).toList := by
    rw [heffects, hleaver, hrefused]
    rfl
  cases a with
  | proceed c => rw [step, payers_proceed]; exact (List.append_nil _).symm
  | timeOut c => rw [step, payers_timeOut]; exact (List.append_nil _).symm
  | giveUp c => rw [step, payers_giveUp]; exact (List.append_nil _).symm
  | readLine => exact payers_readLine s
  | tearDown =>
    refine hquiet rfl rfl ?_
    simp only [refused?, delivery?]
    cases s.closing with
    | draining cancelled ids =>
      cases ids with
      | nil => rfl
      | cons id rest => cases cancelled <;> rfl
    | _ => rfl
  | write c count =>
    refine hquiet ?_ rfl rfl
    simp only [step]
    split <;> rfl
  | writeFails c text =>
    refine hquiet ?_ rfl rfl
    simp only [step]
    split <;> rfl
  | closerWrites count =>
    refine hquiet ?_ rfl rfl
    simp only [step]
    split <;> rfl
  | closerEnds =>
    refine hquiet ?_ rfl rfl
    simp only [step]
    split <;> rfl
  | decay =>
    refine hquiet ?_ rfl rfl
    simp only [step]
    split <;> rfl
  | _ => exact hquiet rfl rfl rfl

/-! ## What is charged is what the session costs -/

theorem cost_beginClosing (s : Client) (cancelled : Bool) :
    (s.beginClosing cancelled).cost = s.cost := by
  unfold beginClosing
  split <;> rfl

theorem cost_deliver (s : Client) (id : Nat) (r : Except ClientError Json) :
    (s.deliver id r).cost = s.cost := by
  unfold deliver
  split <;> rfl

/-- The charges among effects, in order. -/
def charges (effects : List Effect) : List Charge := effects.filterMap Effect.charge?

theorem charges_append (xs ys : List Effect) : charges (xs ++ ys) = charges xs ++ charges ys :=
  List.filterMap_append

theorem cost_afterRelease (s : Client) (c id : Nat) (why : WriteEnd) :
    (s.afterRelease c id why).1.cost = s.cost.applyAll (charges (s.afterRelease c id why).2) := by
  cases why with
  | timedOut => exact cost_beginClosing _ _
  | cancelled => exact cost_beginClosing _ _
  | failed text => exact cost_beginClosing _ _
  | shutdown => exact cost_beginClosing _ _

theorem cost_proceed (s : Client) (c : Nat) :
    (s.proceed c).1.cost = s.cost.applyAll (charges (s.proceed c).2) := by
  unfold proceed
  split
  · rfl
  · next call _ =>
    cases call.stage with
    | entered =>
      dsimp only
      split <;> rfl
    | admitted =>
      dsimp only [number]
      split <;> rfl
    | numbered id frame => rfl
    | registered id frame =>
      dsimp only [enqueue]
      split <;> rfl
    | queued id frame deadline =>
      dsimp only [beginWrite]
      split
      · next t h =>
        obtain ⟨writer, rfl⟩ := takeWriter?_eq_some h
        rfl
      · rfl
    | writing id frame deadline =>
      dsimp only [endWrite]
      split <;> rfl
    | released id why => exact cost_afterRelease s c id why
    | waiting id deadline =>
      dsimp only [takeInbox]
      split <;> rfl
    | parked id =>
      dsimp only [takeInbox]
      split <;> rfl
    | finished result => rfl

theorem cost_dispatch (s : Client) (line : List UInt8) :
    (s.dispatch line).1.cost = s.cost.applyAll (charges (s.dispatch line).2) := by
  unfold dispatch
  split
  · exact cost_deliver _ _ _
  · split
    · exact congrArg (SessionCost.apply · .error) (cost_deliver _ _ _)
    · rfl
  all_goals rfl

theorem cost_readLine (s : Client) :
    s.readLine.1.cost = s.cost.applyAll (charges s.readLine.2) := by
  unfold readLine
  split
  · split
    · dsimp only [takeLine]
      split
      · rfl
      · rw [cost_dispatch, charges_append, SessionCost.applyAll_append]
        rfl
    · rfl
    · dsimp only
      split
      · exact cost_beginClosing _ _
      · rfl
  · rfl

/-- The cost of the session changes by what the effects say, and by nothing else. -/
theorem cost_step (s : Client) (a : ClientAction) :
    (s.step a).1.cost = s.cost.applyAll (charges (s.step a).2) := by
  cases a with
  | proceed c => exact cost_proceed s c
  | readLine => exact cost_readLine s
  | timeOut c =>
    simp only [step, timeOut]
    repeat' split
    all_goals rfl
  | giveUp c =>
    simp only [step, giveUp]
    repeat' split
    all_goals rfl
  | noticeShutdown c =>
    simp only [step, noticeShutdown]
    repeat' split
    all_goals rfl
  | tearDown =>
    simp only [step, tearDown]
    split
    all_goals first | rfl | exact cost_deliver _ _ _
  | pinged =>
    simp only [step, pinged]
    repeat' split
    all_goals first | rfl | exact cost_beginClosing _ _
  | ping =>
    simp only [step, ping]
    repeat' split
    all_goals rfl
  | close =>
    simp only [step, close]
    split
    · rfl
    · exact cost_beginClosing s false
  | closerTakes =>
    simp only [step]
    cases htaken : s.takeWriter? .closer with
    | none => rfl
    | some t =>
      obtain ⟨writer, rfl⟩ := takeWriter?_eq_some htaken
      rfl
  | readFails =>
    simp only [step]
    split
    · exact cost_beginClosing _ _
    · rfl
  | stopReading =>
    simp only [step]
    split
    · exact cost_beginClosing _ _
    · rfl
  | readTimeOut =>
    simp only [step]
    split
    · exact cost_beginClosing _ _
    · rfl
  | write c count =>
    simp only [step]
    split <;> rfl
  | writeFails c text =>
    simp only [step]
    split <;> rfl
  | closerWrites count =>
    simp only [step]
    split <;> rfl
  | closerEnds =>
    simp only [step]
    split <;> rfl
  | decay =>
    simp only [step]
    split <;> rfl
  | arrive piece =>
    simp only [step, arrive]
    split <;> rfl
  | endOfStream =>
    simp only [step, endOfStream]
    split <;> rfl
  | _ => rfl

theorem cost_run (s : Client) (actions : List ClientAction) :
    (s.run actions).1.cost = s.cost.applyAll (charges (s.run actions).2) := by
  induction actions generalizing s with
  | nil => rfl
  | cons a rest ih =>
    rw [run, charges_append, SessionCost.applyAll_append, ← cost_step, ← ih]

end Client
end HeaderFollower
