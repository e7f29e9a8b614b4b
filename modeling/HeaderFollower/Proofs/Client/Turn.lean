/-
# What one step does to the calls

A call has a place in the table of pending requests from the moment it registers its id until it is
given a result, or leaves the table on its own. `Client.Orderly` ties the table to the calls: an id
belongs to one call, and the table lists the calls that have a place and no result yet.

`Client.Turn` lists what a step can do to the calls and to the table. `Orderly.turn` opens the steps
once and finds one of its cases; everything else about the calls is read off these cases.
-/

import HeaderFollower.Client.Step
import Mathlib.Data.List.Basic

namespace HeaderFollower

namespace CallStage

/-- The id that a call has taken. -/
def id? : CallStage → Option Nat
  | .entered | .admitted | .finished _ => none
  | .numbered id _ | .registered id _ | .queued id _ _ | .writing id _ _ | .released id _
  | .waiting id _ | .parked id => some id

/-- The id under which a call has a place in the table. -/
def slot? : CallStage → Option Nat
  | .entered | .admitted | .numbered _ _ | .finished _ => none
  | .registered id _ | .queued id _ _ | .writing id _ _ | .released id _
  | .waiting id _ | .parked id => some id

/-- When the time of a call is over. -/
def deadline? : CallStage → Option Nat
  | .queued _ _ deadline | .writing _ _ deadline | .waiting _ deadline => some deadline
  | _ => none

/-- How far a stage is from the first. -/
def rank : CallStage → Nat
  | .entered => 0
  | .admitted => 1
  | .numbered _ _ => 2
  | .registered _ _ => 3
  | .queued _ _ _ => 4
  | .writing _ _ _ => 5
  | .released _ _ => 6
  | .waiting _ _ => 6
  | .parked _ => 7
  | .finished _ => 8

theorem id?_of_slot? {stage : CallStage} {id : Nat} (h : stage.slot? = some id) :
    stage.id? = some id := by
  cases stage <;> simp_all [id?, slot?]

theorem rank_le (stage : CallStage) : stage.rank ≤ 8 := by
  cases stage <;> simp [rank]

theorem three_le_rank {stage : CallStage} {id : Nat} (h : stage.slot? = some id) :
    3 ≤ stage.rank := by
  cases stage <;> simp_all [slot?, rank]

theorem rank_lt_of_slot?_eq_none {stage : CallStage} (h : stage.slot? = none)
    (hrank : stage.rank < 8) : stage.rank < 3 := by
  cases stage <;> simp_all [slot?, rank]

theorem rank_lt_of_slot? {stage : CallStage} {id : Nat} (h : stage.slot? = some id) :
    stage.rank < 8 := by
  cases stage <;> simp_all [slot?, rank]

end CallStage

/-- The id under which the table lists a call: it has a place, and no result yet. -/
def ClientCall.place? (call : ClientCall) : Option Nat :=
  match call.inbox with
  | none => call.stage.slot?
  | some _ => none

theorem ClientCall.place?_eq_some_iff {call : ClientCall} {id : Nat} :
    call.place? = some id ↔ call.stage.slot? = some id ∧ call.inbox = none := by
  rw [place?]
  split <;> simp_all

theorem ClientCall.place?_eq_none {call : ClientCall} (h : call.stage.slot? = none) :
    call.place? = none := by
  rw [place?]
  split
  · exact h
  · rfl

namespace Client

/-- A result that only a reply can give: what the server returns, or its error. -/
def FromServer : Except ClientError Json → Prop
  | .ok _ => True
  | .error (.rpc _ _) => True
  | .error _ => False

/-- An id belongs to one call, and the table lists the calls that have a place and no result. -/
structure Orderly (s : Client) : Prop where
  distinct : ∀ {c d : Nat} {call other : ClientCall} {id : Nat}, s.calls[c]? = some call →
    s.calls[d]? = some other → call.stage.id? = some id → other.stage.id? = some id → c = d
  fresh : ∀ {c : Nat} {call : ClientCall} {id : Nat}, s.calls[c]? = some call →
    call.stage.id? = some id → id < s.nextId
  listed : ∀ {id c : Nat}, (id, c) ∈ s.pending ↔
    ∃ call, s.calls[c]? = some call ∧ call.place? = some id
  /-- Nothing is delivered to a call before it has a place. -/
  early : ∀ {c : Nat} {call : ClientCall}, s.calls[c]? = some call → call.stage.slot? = none →
    call.stage.rank < 8 → call.inbox = none
  /-- A call returns as a result of the server only what was delivered to it. -/
  delivered : ∀ {c : Nat} {call : ClientCall} {r : Except ClientError Json},
    s.calls[c]? = some call → call.stage = .finished r → FromServer r → call.inbox = some r

theorem orderly_start (settings : ClientSettings) : (start settings).Orderly := by
  constructor <;> simp [start]

/-- The reply that a line of the server carries, behind the id that it names. -/
def reply? (line : List UInt8) : Option (Nat × Except ClientError Json) :=
  if line.all Text.isAsciiBlank then none
  else
    match Incoming.parse line with
    | .ok (.response id (.ok result)) => some (id, .ok result)
    | .ok (.response id (.error e)) => some (id, .error (.rpc e.code e.message))
    | _ => none

/-- The line that the reader takes in a step. -/
def lineRead? (s : Client) : ClientAction → Option (List UInt8)
  | .readLine =>
    if s.source.running then
      match s.source.arrived with
      | .line bytes :: _ => some bytes.toList
      | _ => none
    else none
  | _ => none

/-- What a pending request is told at the end of the connection. -/
def lastWord (cancelled : Bool) : Except ClientError Json :=
  .error (if cancelled then .cancelled else .closed)

/-- What a step has for the call of an id: a reply, or the end of the connection. -/
def delivery? (s : Client) : ClientAction → Option (Nat × Except ClientError Json)
  | .readLine => (s.lineRead? .readLine).bind reply?
  | .tearDown =>
    match s.closing with
    | .draining cancelled (id :: _) => some (id, lastWord cancelled)
    | _ => none
  | _ => none

/-- The calls and the table are the same. -/
structure SameCalls (t s : Client) : Prop where
  calls : t.calls = s.calls
  pending : t.pending = s.pending
  nextId : t.nextId = s.nextId

/-- In a step the call `c` sees that its time is over. -/
def Expires (s : Client) (a : ClientAction) (c : Nat) (call : ClientCall) : Prop :=
  a = .timeOut c ∧ ∃ deadline, call.stage.deadline? = some deadline ∧ deadline ≤ s.now

/-- If the error makes the connection useless, then a request took too long, or the connection is
closed. -/
def TimeoutOrClosed (s : Client) (e : ClientError) : Prop :=
  e.connectionFatal = true → (∃ method after, e = .timeout method after) ∨ s.closing ≠ .notYet

/-- Why a call that has a place can end without having been told to. -/
inductive LeaveCause (s : Client) (a : ClientAction) (c id : Nat) (call : ClientCall) :
    ClientError → Prop where
  /-- It found the connection closed right after it had listed itself. -/
  | closed (stage : call.stage.rank = 3) : LeaveCause s a c id call .closed
  | cancelled : LeaveCause s a c id call .cancelled
  | timeout (after : Duration)
      (expired : Expires s a c call ∨ call.stage = .released id .timedOut) :
      LeaveCause s a c id call (.timeout call.method after)
  | writeFailed (text : String) (stage : call.stage = .released id (.failed text)) :
      LeaveCause s a c id call (.io text)

/-- What a step from `s` to `t` can do to the call `c`. -/
inductive CallTurn (s : Client) (a : ClientAction) (t : Client) (c : Nat) (call : ClientCall) :
    ClientCall → Prop where
  | cancel (pending : t.pending = s.pending) (nextId : t.nextId = s.nextId) :
      CallTurn s a t c call { call with cancelled := true }
  | number (frame : List UInt8) (stage : call.stage = .admitted) (pending : t.pending = s.pending)
      (nextId : t.nextId = s.nextId + 1) :
      CallTurn s a t c call { call with stage := .numbered s.nextId frame }
  | register (id : Nat) (frame : List UInt8) (stage : call.stage = .numbered id frame)
      (pending : t.pending = s.pending ++ [(id, c)]) (nextId : t.nextId = s.nextId) :
      CallTurn s a t c call { call with stage := .registered id frame }
  /-- It goes on and keeps its place, or goes on to a stage that has none either. -/
  | move (next : CallStage) (id : next.id? = call.stage.id?) (slot : next.slot? = call.stage.slot?)
      (onward : call.stage.rank < next.rank) (unfinished : next.rank < 8)
      (unmarked : call.stage.rank = 3 → s.closing = .notYet)
      (stopped : next.rank = 7 → t.shutdown = true ∨ t.closing ≠ .notYet)
      (expired : ∀ id, next = .released id .timedOut → Expires s a c call)
      (pending : t.pending = s.pending) (nextId : t.nextId = s.nextId) :
      CallTurn s a t c call { call with stage := next }
  /-- It ends before it has a place. -/
  | refuse (e : ClientError) (outside : call.stage.slot? = none) (unfinished : call.stage.rank < 8)
      (own : ¬ FromServer (.error e)) (pending : t.pending = s.pending)
      (nextId : s.nextId ≤ t.nextId) (fatal : t.TimeoutOrClosed e) :
      CallTurn s a t c call { call with stage := .finished (.error e) }
  /-- It gives up its place and ends on its own. -/
  | leave (id : Nat) (e : ClientError) (slot : call.stage.slot? = some id)
      (cause : LeaveCause s a c id call e) (pending : t.pending = (s.unregister id).pending)
      (nextId : t.nextId = s.nextId) (fatal : t.TimeoutOrClosed e) :
      CallTurn s a t c call { call with stage := .finished (.error e) }
  /-- It ends with what was delivered to it. -/
  | answer (id : Nat) (r : Except ClientError Json) (slot : call.stage.slot? = some id)
      (waits : 6 ≤ call.stage.rank) (inbox : call.inbox = some r) (pending : t.pending = s.pending)
      (nextId : t.nextId = s.nextId) :
      CallTurn s a t c call { call with stage := .finished r }
  | deliver (id : Nat) (r : Except ClientError Json) (told : s.delivery? a = some (id, r))
      (entry : (id, c) ∈ s.pending) (pending : t.pending = (s.unregister id).pending)
      (nextId : t.nextId = s.nextId) :
      CallTurn s a t c call { call with inbox := some r }

/-- What a step can do to the calls and to the table. -/
inductive Turn (s : Client) (a : ClientAction) (t : Client) : Prop where
  | rest (same : SameCalls t s)
  | enter (method : String) (params : Json) (calls : t.calls = (s.enter method params).calls)
      (pending : t.pending = s.pending) (nextId : t.nextId = s.nextId)
  | one (c : Nat) (call next : ClientCall) (here : s.calls[c]? = some call)
      (calls : t.calls = s.calls.set c next) (turn : CallTurn s a t c call next)

/-! ## What the parts of a step leave alone -/

section Parts

variable (s : Client) (c id : Nat) (holder : Holder) (cancelled : Bool)

@[simp] theorem calls_beginClosing : (s.beginClosing cancelled).calls = s.calls := by
  unfold beginClosing; split <;> rfl

@[simp] theorem pending_beginClosing : (s.beginClosing cancelled).pending = s.pending := by
  unfold beginClosing; split <;> rfl

@[simp] theorem nextId_beginClosing : (s.beginClosing cancelled).nextId = s.nextId := by
  unfold beginClosing; split <;> rfl

@[simp] theorem shutdown_beginClosing : (s.beginClosing cancelled).shutdown = s.shutdown := by
  unfold beginClosing; split <;> rfl

theorem closing_beginClosing_ne : (s.beginClosing cancelled).closing ≠ .notYet := by
  unfold beginClosing
  split
  · simp
  · assumption

@[simp] theorem nextId_goto (stage : CallStage) : (s.goto c stage).nextId = s.nextId := rfl

@[simp] theorem calls_unregister : (s.unregister id).calls = s.calls := rfl

@[simp] theorem nextId_unregister : (s.unregister id).nextId = s.nextId := rfl

@[simp] theorem mem_pending_unregister {entry : Nat × Nat} :
    entry ∈ (s.unregister id).pending ↔ entry ∈ s.pending ∧ entry.1 ≠ id := by
  simp [unregister]

theorem takeWriter?_eq_some {s t : Client} {holder : Holder} (h : s.takeWriter? holder = some t) :
    ∃ writer, t = { s with writer } := by
  unfold takeWriter? at h
  split at h
  · split at h
    · exact ⟨_, (Option.some.inj h).symm⟩
    · cases h
  · cases h

theorem calls_updateCall {s : Client} {c : Nat} {call : ClientCall} (h : s.calls[c]? = some call)
    (f : ClientCall → ClientCall) : (s.updateCall c f).calls = s.calls.set c (f call) := by
  simp [updateCall, List.modify_eq_set_getElem?, h]

theorem calls_goto {s : Client} {c : Nat} {call : ClientCall} (h : s.calls[c]? = some call)
    (stage : CallStage) : (s.goto c stage).calls = s.calls.set c { call with stage } :=
  calls_updateCall h _

theorem stage?_eq_some {s : Client} {c : Nat} {stage : CallStage} :
    s.stage? c = some stage ↔ ∃ call, s.calls[c]? = some call ∧ call.stage = stage := by
  simp [stage?]

end Parts

/-! ## Every step is one of these turns -/

variable {s t : Client} {a : ClientAction} {c id : Nat} {call : ClientCall}

theorem Turn.of_goto {next : CallStage} (here : s.calls[c]? = some call)
    (calls : t.calls = (s.goto c next).calls)
    (turn : CallTurn s a t c call { call with stage := next }) : Turn s a t :=
  .one c call _ here (calls.trans (calls_goto here next)) turn

theorem turn_number (here : s.calls[c]? = some call) (stage : call.stage = .admitted) :
    Turn s a (s.number c call) := by
  unfold number
  dsimp only
  split
  · refine .of_goto here rfl (.refuse _ ?_ ?_ ?_ rfl ?_ ?_)
    · rw [stage]; rfl
    · rw [stage]; decide
    · exact id
    · exact Nat.le_succ _
    · exact fun h => by cases h
  · exact .of_goto here rfl (.number _ stage rfl rfl)

theorem turn_register {frame : List UInt8} (here : s.calls[c]? = some call)
    (stage : call.stage = .numbered id frame) : Turn s a (s.register c id frame) :=
  .of_goto here rfl (.register id frame stage rfl rfl)

theorem turn_enqueue {frame : List UInt8} (here : s.calls[c]? = some call)
    (stage : call.stage = .registered id frame) : Turn s a (s.enqueue c id frame) := by
  unfold enqueue
  split
  · next hclosed =>
    refine .of_goto here rfl (.leave id _ ?_ (.closed ?_) rfl rfl fun _ => .inr ?_)
    · rw [stage]; rfl
    · rw [stage]; rfl
    · exact bne_iff_ne.mp hclosed
  · next h =>
    have hopen : s.closing = .notYet := by simpa [isClosed] using h
    refine .of_goto here rfl (.move _ ?_ ?_ ?_ ?_ (fun _ => hopen) ?_ ?_ rfl rfl)
    all_goals simp [stage, CallStage.id?, CallStage.slot?, CallStage.rank]

theorem turn_beginWrite {frame : List UInt8} {deadline : Nat} (here : s.calls[c]? = some call)
    (stage : call.stage = .queued id frame deadline) :
    Turn s a (s.beginWrite c id frame deadline) := by
  unfold beginWrite
  split
  · next t ht =>
    obtain ⟨writer, rfl⟩ := takeWriter?_eq_some ht
    refine .of_goto here rfl (.move _ ?_ ?_ ?_ ?_ ?_ ?_ ?_ rfl rfl)
    all_goals simp [stage, CallStage.id?, CallStage.slot?, CallStage.rank]
  · exact .rest ⟨rfl, rfl, rfl⟩

theorem turn_endWrite {frame : List UInt8} {deadline : Nat} (here : s.calls[c]? = some call)
    (stage : call.stage = .writing id frame deadline) :
    Turn s a (s.endWrite c id frame deadline).1 := by
  unfold endWrite
  split
  · refine .of_goto here rfl (.move _ ?_ ?_ ?_ ?_ ?_ ?_ ?_ rfl rfl)
    all_goals simp [stage, CallStage.id?, CallStage.slot?, CallStage.rank]
  · exact .rest ⟨rfl, rfl, rfl⟩

/-- A call that has a place leaves the table and ends. -/
theorem Turn.of_leave {e : ClientError} (here : s.calls[c]? = some call)
    (slot : call.stage.slot? = some id) (cause : LeaveCause s a c id call e)
    (calls : t.calls = (s.finish c (.error e)).calls)
    (pending : t.pending = (s.unregister id).pending) (nextId : t.nextId = s.nextId)
    (fatal : t.TimeoutOrClosed e) : Turn s a t :=
  .of_goto here calls (.leave id e slot cause pending nextId fatal)

/-- A request whose time is over is no sign that the connection is closed. -/
theorem timeoutOrClosed_timeoutError (s t : Client) (c : Nat) :
    t.TimeoutOrClosed (s.timeoutError c) := fun _ => .inl ⟨_, _, rfl⟩

theorem timeout_cause (here : s.calls[c]? = some call)
    (expired : Expires s a c call ∨ call.stage = .released id .timedOut) :
    LeaveCause s a c id call (s.timeoutError c) := by
  have he : s.timeoutError c = .timeout call.method s.settings.requestTimeout := by
    simp [timeoutError, here]
  rw [he]
  exact .timeout _ expired

theorem turn_afterRelease {why : WriteEnd} (here : s.calls[c]? = some call)
    (stage : call.stage = .released id why) : Turn s a (s.afterRelease c id why).1 := by
  have hslot : call.stage.slot? = some id := by rw [stage]; rfl
  cases why with
  | timedOut =>
    refine .of_leave here hslot (timeout_cause here (.inr stage)) ?_ ?_ ?_
      (timeoutOrClosed_timeoutError s _ c)
    all_goals simp [afterRelease, charge, finish, goto, updateCall, timeoutError, unregister]
  | cancelled =>
    refine .of_leave here hslot .cancelled ?_ ?_ ?_ (fun h => by cases h)
    all_goals simp [afterRelease, finish, goto, updateCall]
  | failed text =>
    refine .of_leave here hslot (.writeFailed text stage) ?_ ?_ ?_
      (fun _ => .inr (closing_beginClosing_ne (s.unregister id) false))
    all_goals simp [afterRelease, finish, goto, updateCall]
  | shutdown =>
    have hclosed : (s.beginClosing true).closing ≠ .notYet := closing_beginClosing_ne s true
    have hmove : CallTurn s a (s.afterRelease c id .shutdown).1 c call
        { call with stage := .parked id } := by
      refine .move _ ?_ ?_ ?_ ?_ ?_ (fun _ => .inr hclosed) ?_ ?_ ?_
      all_goals simp [afterRelease, stage, CallStage.id?, CallStage.slot?, CallStage.rank]
    refine .of_goto here ?_ hmove
    simp [afterRelease, goto, updateCall]

theorem turn_takeInbox (here : s.calls[c]? = some call) (slot : call.stage.slot? = some id)
    (waits : 6 ≤ call.stage.rank) : Turn s a (s.takeInbox c call) := by
  unfold takeInbox
  split
  · next r hr => exact .of_goto here rfl (.answer id r slot waits hr rfl rfl)
  · exact .rest ⟨rfl, rfl, rfl⟩

theorem turn_proceed (s : Client) (a : ClientAction) (c : Nat) : Turn s a (s.proceed c).1 := by
  unfold proceed
  split
  · exact .rest ⟨rfl, rfl, rfl⟩
  · next call here =>
    split
    · next stage =>
      split
      · next hclosed =>
        refine .of_goto here rfl (.refuse _ ?_ ?_ (fun h => h) rfl (Nat.le_refl _) ?_)
        · simp [stage, CallStage.slot?]
        · simp [stage, CallStage.rank]
        · exact fun _ => .inr (bne_iff_ne.mp hclosed)
      · refine .of_goto here rfl (.move _ ?_ ?_ ?_ ?_ ?_ ?_ ?_ rfl rfl)
        all_goals simp [stage, CallStage.id?, CallStage.slot?, CallStage.rank]
    · next stage => exact turn_number here stage
    · next stage => exact turn_register here stage
    · next stage => exact turn_enqueue here stage
    · next stage => exact turn_beginWrite here stage
    · next stage => exact turn_endWrite here stage
    · next stage => exact turn_afterRelease here stage
    · next stage => exact turn_takeInbox here (by rw [stage]; rfl) (by simp [stage, CallStage.rank])
    · next stage => exact turn_takeInbox here (by rw [stage]; rfl) (by simp [stage, CallStage.rank])
    · exact .rest ⟨rfl, rfl, rfl⟩

theorem turn_release {frame : List UInt8} {deadline : Nat} (here : s.calls[c]? = some call)
    (stage : call.stage = .writing id frame deadline) {why : WriteEnd}
    (expired : why = .timedOut → Expires s a c call) : Turn s a (s.release c id why) := by
  refine .of_goto here rfl (.move _ ?_ ?_ ?_ ?_ ?_ ?_ ?_ rfl rfl)
  case refine_7 =>
    intro id' h
    exact expired (CallStage.released.inj h).2
  all_goals simp [stage, CallStage.id?, CallStage.slot?, CallStage.rank]

theorem turn_timeOut (s : Client) (c : Nat) : Turn s (.timeOut c) (s.timeOut c).1 := by
  have hexpires {call : ClientCall} {deadline : Nat}
      (hdeadline : call.stage.deadline? = some deadline) (hle : deadline ≤ s.now) :
      Expires s (.timeOut c) c call := ⟨rfl, deadline, hdeadline, hle⟩
  unfold timeOut
  dsimp only
  split
  · next id frame deadline hstage =>
    obtain ⟨call, here, stage⟩ := stage?_eq_some.mp hstage
    split
    · next hle =>
      have hcause : LeaveCause s (.timeOut c) c id call (s.timeoutError c) :=
        timeout_cause here (.inl (hexpires (by rw [stage]; rfl) hle))
      exact .of_leave here (by rw [stage]; rfl) hcause rfl rfl rfl
        (timeoutOrClosed_timeoutError s _ c)
    · exact .rest ⟨rfl, rfl, rfl⟩
  · next id frame deadline hstage =>
    obtain ⟨call, here, stage⟩ := stage?_eq_some.mp hstage
    dsimp only
    split
    · next hle => exact turn_release here stage fun _ => hexpires (by rw [stage]; rfl) hle
    · exact .rest ⟨rfl, rfl, rfl⟩
  · next id deadline hstage =>
    obtain ⟨call, here, stage⟩ := stage?_eq_some.mp hstage
    split
    · next hle =>
      have hcause : LeaveCause s (.timeOut c) c id call (s.timeoutError c) :=
        timeout_cause here (.inl (hexpires (by rw [stage]; rfl) hle))
      exact .of_leave here (by rw [stage]; rfl) hcause rfl rfl rfl
        (timeoutOrClosed_timeoutError s _ c)
    · exact .rest ⟨rfl, rfl, rfl⟩
  · exact .rest ⟨rfl, rfl, rfl⟩

theorem turn_giveUp (s : Client) (a : ClientAction) (c : Nat) : Turn s a (s.giveUp c).1 := by
  unfold giveUp
  split
  · split
    · next id frame deadline hstage =>
      obtain ⟨call, here, stage⟩ := stage?_eq_some.mp hstage
      exact .of_leave here (by rw [stage]; rfl) .cancelled rfl rfl rfl (fun h => by cases h)
    · next id frame deadline hstage =>
      obtain ⟨call, here, stage⟩ := stage?_eq_some.mp hstage
      exact turn_release here stage (by simp)
    · next id deadline hstage =>
      obtain ⟨call, here, stage⟩ := stage?_eq_some.mp hstage
      exact .of_leave here (by rw [stage]; rfl) .cancelled rfl rfl rfl (fun h => by cases h)
    · exact .rest ⟨rfl, rfl, rfl⟩
  · exact .rest ⟨rfl, rfl, rfl⟩

theorem turn_noticeShutdown (s : Client) (a : ClientAction) (c : Nat) :
    Turn s a (s.noticeShutdown c) := by
  unfold noticeShutdown
  split
  · next hshutdown =>
    split
    · next id frame deadline hstage =>
      obtain ⟨call, here, stage⟩ := stage?_eq_some.mp hstage
      refine .of_goto here rfl (.move _ ?_ ?_ ?_ ?_ ?_ (fun _ => .inl hshutdown) ?_ rfl rfl)
      all_goals simp [stage, CallStage.id?, CallStage.slot?, CallStage.rank]
    · next id frame deadline hstage =>
      obtain ⟨call, here, stage⟩ := stage?_eq_some.mp hstage
      exact turn_release here stage (by simp)
    · exact .rest ⟨rfl, rfl, rfl⟩
  · exact .rest ⟨rfl, rfl, rfl⟩

/-! ### Deliveries -/

/-- The client after a delivery, if there is one. -/
def given (s : Client) : Option (Nat × Except ClientError Json) → Client
  | some (id, r) => s.deliver id r
  | none => s

@[simp] theorem nextId_deliver (s : Client) (id : Nat) (r : Except ClientError Json) :
    (s.deliver id r).nextId = s.nextId := by
  unfold deliver
  split <;> rfl

theorem SameCalls.trans {u : Client} (h : SameCalls u t) (g : SameCalls t s) : SameCalls u s :=
  ⟨h.calls.trans g.calls, h.pending.trans g.pending, h.nextId.trans g.nextId⟩

theorem SameCalls.given (h : SameCalls t s) (delivery : Option (Nat × Except ClientError Json)) :
    SameCalls (t.given delivery) (s.given delivery) := by
  rcases delivery with - | ⟨id, r⟩
  · exact h
  · simp only [Client.given, deliver, h.pending]
    split
    · constructor <;> simp [unregister, updateCall, h.calls, h.pending, h.nextId]
    · exact h

/-- A line that is not blank does to the calls what its reply does. -/
theorem dispatch_sameCalls (s : Client) {line : List UInt8}
    (h : ¬ line.all Text.isAsciiBlank = true) :
    SameCalls (s.dispatch line).1 (s.given (reply? line)) := by
  simp only [dispatch, reply?, if_neg h]
  rcases Incoming.parse line with e | ⟨id, e | result⟩ | notice | method
  · exact ⟨rfl, rfl, rfl⟩
  · simp only [given]
    split
    · exact ⟨rfl, rfl, rfl⟩
    · next hnone =>
      simp only [deliver, hnone]
      exact ⟨rfl, rfl, rfl⟩
  · exact ⟨rfl, rfl, rfl⟩
  · cases notice <;> exact ⟨rfl, rfl, rfl⟩
  · exact ⟨rfl, rfl, rfl⟩

theorem takeLine_sameCalls (s : Client) (line : List UInt8) :
    SameCalls (s.takeLine line).1 (s.given (reply? line)) := by
  simp only [takeLine]
  split
  · next hblank =>
    rw [reply?, if_pos hblank]
    exact ⟨rfl, rfl, rfl⟩
  · next hblank =>
    refine (dispatch_sameCalls _ hblank).trans (SameCalls.given ?_ _)
    exact ⟨rfl, rfl, rfl⟩

theorem source_dispatch (s : Client) (line : List UInt8) :
    (s.dispatch line).1.source = s.source := by
  have hdeliver (id : Nat) (r : Except ClientError Json) : (s.deliver id r).source = s.source := by
    unfold deliver
    split <;> rfl
  unfold dispatch
  split
  · exact hdeliver _ _
  · split
    · exact hdeliver _ _
    · rfl
  all_goals rfl

/-- **A line is taken in one step**, whatever the sinks hold: no push holds the reader up. -/
theorem source_takeLine (s : Client) (line : List UInt8) :
    (s.takeLine line).1.source = s.source := by
  unfold takeLine
  dsimp only
  split
  · rfl
  · exact source_dispatch _ line

theorem endReading_sameCalls (s : Client) (cancelled : Bool) :
    SameCalls (s.endReading cancelled) s := by
  constructor <;> simp [endReading]

/-- **What the reader does to the calls is what the reply of its line does.** -/
theorem readLine_sameCalls (s : Client) :
    SameCalls s.readLine.1 (s.given (s.delivery? .readLine)) := by
  simp only [readLine, delivery?, lineRead?]
  split
  · rcases s.source.arrived with - | ⟨bytes | -, rest⟩
    · dsimp only
      split
      · exact endReading_sameCalls s false
      · exact ⟨rfl, rfl, rfl⟩
    · refine (takeLine_sameCalls _ _).trans (SameCalls.given ?_ _)
      exact ⟨rfl, rfl, rfl⟩
    · exact ⟨rfl, rfl, rfl⟩
  · exact ⟨rfl, rfl, rfl⟩

theorem tearDown_sameCalls (s : Client) :
    SameCalls s.tearDown (s.given (s.delivery? .tearDown)) := by
  simp only [tearDown, delivery?]
  split <;> simp only [*]
  all_goals exact ⟨rfl, rfl, rfl⟩

/-- What is delivered goes to the call that the table names, if it names one. -/
theorem Orderly.turn_of_given (h : s.Orderly) (same : SameCalls t (s.given (s.delivery? a))) :
    Turn s a t := by
  rcases htold : s.delivery? a with - | ⟨id, r⟩
  · rw [htold] at same
    exact .rest same
  rw [htold] at same
  simp only [given, deliver] at same
  split at same
  · next c hc =>
    have hentry : (id, c) ∈ s.pending := by
      obtain ⟨before, after, he, -⟩ := List.lookup_eq_some_iff.mp hc
      simp [he]
    obtain ⟨call, here, -⟩ := h.listed.mp hentry
    refine .one c call _ here ?_ (.deliver id r htold hentry same.pending same.nextId)
    exact same.calls.trans (calls_updateCall here _)
  · exact .rest same

/-! ### The table of all steps -/

/-- **Every step does one of the things that `Turn` lists.** -/
theorem Orderly.turn (h : s.Orderly) (a : ClientAction) : Turn s a (s.step a).1 := by
  cases a with
  | call method params => exact .enter method params rfl rfl rfl
  | cancel c =>
    rcases here : s.calls[c]? with - | call
    · refine .rest ⟨?_, rfl, rfl⟩
      show s.calls.modify c _ = s.calls
      simp [List.modify_eq_set_getElem?, here]
    · exact .one c call _ here (calls_updateCall here _) (.cancel rfl rfl)
  | proceed c => exact turn_proceed s _ c
  | write c count =>
    simp only [step]
    split <;> exact .rest ⟨rfl, rfl, rfl⟩
  | writeFails c text =>
    simp only [step]
    split
    · next id frame deadline hstage =>
      obtain ⟨call, here, stage⟩ := stage?_eq_some.mp hstage
      exact turn_release here stage (by simp)
    · exact .rest ⟨rfl, rfl, rfl⟩
  | timeOut c => exact turn_timeOut s c
  | giveUp c => exact turn_giveUp s _ c
  | noticeShutdown c => exact turn_noticeShutdown s _ c
  | arrive piece =>
    simp only [step, arrive]
    split <;> exact .rest ⟨rfl, rfl, rfl⟩
  | endOfStream =>
    simp only [step, endOfStream]
    split <;> exact .rest ⟨rfl, rfl, rfl⟩
  | readLine => exact h.turn_of_given (readLine_sameCalls s)
  | readFails =>
    simp only [step]
    split
    · exact .rest (endReading_sameCalls s _)
    · exact .rest ⟨rfl, rfl, rfl⟩
  | stopReading =>
    simp only [step]
    split
    · exact .rest (endReading_sameCalls s _)
    · exact .rest ⟨rfl, rfl, rfl⟩
  | readTimeOut =>
    simp only [step]
    split
    · exact .rest (endReading_sameCalls s _)
    · exact .rest ⟨rfl, rfl, rfl⟩
  | tearDown => exact h.turn_of_given (tearDown_sameCalls s)
  | close =>
    simp only [step, close]
    split
    · exact .rest ⟨rfl, rfl, rfl⟩
    · refine .rest ⟨?_, ?_, ?_⟩ <;> simp
  | closerTakes =>
    simp only [step]
    rcases htake : s.takeWriter? .closer with - | t
    · exact .rest ⟨rfl, rfl, rfl⟩
    · obtain ⟨writer, rfl⟩ := takeWriter?_eq_some htake
      exact .rest ⟨rfl, rfl, rfl⟩
  | closerWrites count =>
    simp only [step]
    split <;> exact .rest ⟨rfl, rfl, rfl⟩
  | closerEnds =>
    simp only [step]
    split <;> exact .rest ⟨rfl, rfl, rfl⟩
  | cancelParent => exact .rest ⟨rfl, rfl, rfl⟩
  | ping =>
    simp only [step, ping]
    split
    · split
      · exact .enter Method.ping (.array []) rfl rfl rfl
      · exact .rest ⟨rfl, rfl, rfl⟩
    · exact .rest ⟨rfl, rfl, rfl⟩
  | pinged =>
    simp only [step, pinged]
    split
    · split <;> exact .rest ⟨rfl, rfl, rfl⟩
    · split
      · exact .rest ⟨rfl, rfl, rfl⟩
      · refine .rest ⟨?_, ?_, ?_⟩ <;> simp
      · exact .rest ⟨rfl, rfl, rfl⟩
    · exact .rest ⟨rfl, rfl, rfl⟩
  | decay =>
    simp only [step]
    split <;> exact .rest ⟨rfl, rfl, rfl⟩
  | wait time => exact .rest ⟨rfl, rfl, rfl⟩

/-! ## A turn keeps the table in order -/

theorem Turn.nextId_le (h : Turn s a t) : s.nextId ≤ t.nextId := by
  cases h with
  | rest same => exact Nat.le_of_eq same.nextId.symm
  | enter method params calls pending nextId => exact Nat.le_of_eq nextId.symm
  | one c call next here calls turn => cases turn <;> omega

/-- A call has the id that it had, or takes the next. -/
theorem CallTurn.id_back {next : ClientCall} (h : CallTurn s a t c call next)
    (hid : next.stage.id? = some id) :
    call.stage.id? = some id ∨ id = s.nextId ∧ t.nextId = s.nextId + 1 := by
  cases h with
  | cancel pending nextId => exact .inl hid
  | number frame stage pending nextId => exact .inr ⟨(Option.some.inj hid).symm, nextId⟩
  | register id' frame stage pending nextId =>
    rw [stage]
    exact .inl hid
  | move next id' slot onward unfinished unmarked stopped expired pending nextId =>
    exact .inl (id' ▸ hid)
  | refuse e outside unfinished own pending nextId => cases hid
  | leave id' e slot cause pending nextId => cases hid
  | answer id' r slot waits inbox pending nextId => cases hid
  | deliver id' r told entry pending nextId => exact .inl hid

theorem getElem?_calls_set {next : ClientCall} (here : s.calls[c]? = some call)
    (calls : t.calls = s.calls.set c next) (d : Nat) :
    t.calls[d]? = if c = d then some next else s.calls[d]? := by
  have hlt : c < s.calls.length := (List.getElem?_eq_some_iff.mp here).1
  rw [calls, List.getElem?_set]
  simp only [hlt, if_true]

theorem getElem?_calls_enter (s : Client) (method : String) (params : Json) {d : Nat}
    {other : ClientCall} (h : (s.enter method params).calls[d]? = some other) :
    s.calls[d]? = some other ∨ other = { method, params } := by
  simp only [enter] at h
  rcases Nat.lt_or_ge d s.calls.length with hlt | hge
  · exact .inl (by rwa [List.getElem?_append_left hlt] at h)
  · rw [List.getElem?_append_right hge, List.getElem?_singleton] at h
    split at h
    · exact .inr (Option.some.inj h).symm
    · cases h

/-- What a call was before a turn: the same, or it has just entered, or the turn was its own. -/
theorem Turn.back (turn : Turn s a t) {d : Nat} (hd : t.calls[d]? = some call) :
    s.calls[d]? = some call ∨ (∃ method params, call = { method, params }) ∨
      ∃ before, s.calls[d]? = some before ∧ CallTurn s a t d before call := by
  cases turn with
  | rest same => exact .inl (same.calls ▸ hd)
  | enter method params calls pending nextId =>
    exact (getElem?_calls_enter s method params (calls ▸ hd)).imp_right
      fun hnew => .inl ⟨method, params, hnew⟩
  | one c before next here calls turn =>
    rw [getElem?_calls_set here calls] at hd
    split at hd
    · next hcd =>
      subst hcd
      obtain rfl := Option.some.inj hd
      exact .inr (.inr ⟨before, here, turn⟩)
    · exact .inl hd

/-- What becomes of a call in a turn: it stays as it is, or the turn is its own. -/
theorem Turn.forth (turn : Turn s a t) {d : Nat} (hd : s.calls[d]? = some call) :
    t.calls[d]? = some call ∨ ∃ next, t.calls[d]? = some next ∧ CallTurn s a t d call next := by
  cases turn with
  | rest same => exact .inl (same.calls ▸ hd)
  | enter method params calls pending nextId =>
    refine .inl ?_
    rw [calls, Client.enter, List.getElem?_append_left (List.getElem?_eq_some_iff.mp hd).1, hd]
  | one c before next here calls turn =>
    rw [getElem?_calls_set here calls]
    split
    · next hcd =>
      subst hcd
      obtain rfl : before = call := Option.some.inj (here.symm.trans hd)
      exact .inr ⟨next, rfl, turn⟩
    · exact .inl hd

/-- What a turn of one call does to the table. -/
inductive Relisted (s t : Client) (c : Nat) (call next : ClientCall) : Prop where
  | same (place : next.place? = call.place?) (pending : t.pending = s.pending)
  | added (id : Nat) (before : call.place? = none) (after : next.place? = some id)
      (pending : t.pending = s.pending ++ [(id, c)])
  | removed (id : Nat) (slot : call.stage.slot? = some id) (after : next.place? = none)
      (pending : t.pending = (s.unregister id).pending)

theorem CallTurn.relisted {next : ClientCall} (h : s.Orderly) (here : s.calls[c]? = some call)
    (turn : CallTurn s a t c call next) : Relisted s t c call next := by
  cases turn with
  | cancel pending nextId => exact .same rfl pending
  | number frame stage pending nextId =>
    have hbefore : call.place? = none := ClientCall.place?_eq_none (by rw [stage]; rfl)
    exact .same ((ClientCall.place?_eq_none rfl).trans hbefore.symm) pending
  | register id frame stage pending nextId =>
    have hinbox : call.inbox = none :=
      h.early here (by rw [stage]; rfl) (by simp [stage, CallStage.rank])
    refine .added id (ClientCall.place?_eq_none (by rw [stage]; rfl)) ?_ pending
    exact ClientCall.place?_eq_some_iff.mpr ⟨rfl, hinbox⟩
  | move next id slot onward unfinished unmarked stopped expired pending nextId =>
    refine .same ?_ pending
    simp only [ClientCall.place?, slot]
  | refuse e outside unfinished own pending nextId =>
    have hbefore : call.place? = none := ClientCall.place?_eq_none outside
    exact .same ((ClientCall.place?_eq_none rfl).trans hbefore.symm) pending
  | leave id e slot cause pending nextId =>
    exact .removed id slot (ClientCall.place?_eq_none rfl) pending
  | answer id r slot waits inbox pending nextId =>
    refine .same ?_ pending
    simp only [ClientCall.place?, inbox]
  | deliver id r told entry pending nextId =>
    obtain ⟨other, hother, hplace⟩ := h.listed.mp entry
    obtain rfl : call = other := Option.some.inj (here.symm.trans hother)
    refine .removed id (ClientCall.place?_eq_some_iff.mp hplace).1 ?_ pending
    simp [ClientCall.place?]

/-- The table of the calls stays right when one call changes. -/
theorem Orderly.listed_of_relisted {next : ClientCall} (h : s.Orderly)
    (here : s.calls[c]? = some call) (calls : t.calls = s.calls.set c next)
    (how : Relisted s t c call next) {d : Nat} :
    (id, d) ∈ t.pending ↔ ∃ other, t.calls[d]? = some other ∧ other.place? = some id := by
  have hlisted : (id, d) ∈ s.pending ↔ (s.calls[d]?).bind (·.place?) = some id := by
    rw [h.listed, Option.bind_eq_some_iff]
  have hgoal : (∃ other, t.calls[d]? = some other ∧ other.place? = some id) ↔
      (t.calls[d]?).bind (·.place?) = some id := by rw [Option.bind_eq_some_iff]
  rw [hgoal, getElem?_calls_set here calls]
  cases how with
  | same place pending =>
    rw [pending, hlisted]
    by_cases hd : c = d
    · subst hd
      simp [here, place]
    · simp [hd]
  | added id' before after pending =>
    rw [pending, List.mem_append, hlisted, List.mem_singleton]
    by_cases hd : c = d
    · subst hd
      simp [here, before, after, eq_comm]
    · simp [hd, Ne.symm hd]
  | removed id' slot after pending =>
    rw [pending, mem_pending_unregister, hlisted]
    by_cases hd : c = d
    · subst hd
      -- The call itself is listed under no id but this one.
      simp only [here, Option.bind_some, if_true, after, reduceCtorEq, iff_false, not_and,
        not_not]
      intro hplace
      have hslot := (ClientCall.place?_eq_some_iff.mp hplace).1
      exact Option.some.inj (hslot.symm.trans slot)
    · -- No other call has the id.
      simp only [hd, if_false, and_iff_left_iff_imp]
      intro hplace heq
      obtain ⟨other, hother, hplace⟩ := Option.bind_eq_some_iff.mp hplace
      have hslot := (ClientCall.place?_eq_some_iff.mp hplace).1
      refine hd (h.distinct here hother (CallStage.id?_of_slot? slot) ?_)
      exact CallStage.id?_of_slot? (hslot.trans (congrArg some heq))

theorem LeaveCause.not_fromServer {e : ClientError} (h : LeaveCause s a c id call e) :
    ¬ FromServer (.error e) := by
  cases h <;> exact fun h => h

theorem CallTurn.early {next : ClientCall} (turn : CallTurn s a t c call next) (h : s.Orderly)
    (here : s.calls[c]? = some call) (hslot : next.stage.slot? = none)
    (hrank : next.stage.rank < 8) : next.inbox = none := by
  have hearly := h.early here
  cases turn with
  | cancel pending nextId => exact hearly hslot hrank
  | number frame stage pending nextId =>
    rw [stage] at hearly
    exact hearly rfl (by decide)
  | register id frame stage pending nextId => cases hslot
  | move next id slot onward unfinished unmarked stopped expired pending nextId =>
    exact hearly (slot.symm.trans hslot) (Nat.lt_trans onward unfinished)
  | refuse e outside unfinished own pending nextId => exact absurd hrank (Nat.lt_irrefl 8)
  | leave id e slot cause pending nextId => exact absurd hrank (Nat.lt_irrefl 8)
  | answer id r slot waits inbox pending nextId => exact absurd hrank (Nat.lt_irrefl 8)
  | deliver id r told entry pending nextId =>
    obtain ⟨other, hother, hplace⟩ := h.listed.mp entry
    obtain rfl : call = other := Option.some.inj (here.symm.trans hother)
    rw [(ClientCall.place?_eq_some_iff.mp hplace).1] at hslot
    cases hslot

theorem CallTurn.delivered {next : ClientCall} {r : Except ClientError Json}
    (turn : CallTurn s a t c call next) (h : s.Orderly) (here : s.calls[c]? = some call)
    (hstage : next.stage = .finished r) (hserver : FromServer r) : next.inbox = some r := by
  have hdelivered : call.stage = .finished r → FromServer r → call.inbox = some r :=
    h.delivered here
  cases turn with
  | cancel pending nextId => exact hdelivered hstage hserver
  | number frame stage pending nextId => cases hstage
  | register id frame stage pending nextId => cases hstage
  | move next id slot onward unfinished unmarked stopped expired pending nextId =>
    rw [show next = .finished r from hstage] at unfinished
    exact absurd unfinished (Nat.lt_irrefl 8)
  | refuse e outside unfinished own pending nextId =>
    obtain rfl : Except.error e = r := CallStage.finished.inj hstage
    exact absurd hserver own
  | leave id e slot cause pending nextId =>
    obtain rfl : Except.error e = r := CallStage.finished.inj hstage
    exact absurd hserver cause.not_fromServer
  | answer id r' slot waits inbox pending nextId =>
    obtain rfl : r' = r := CallStage.finished.inj hstage
    exact inbox
  | deliver id r' told entry pending nextId =>
    obtain ⟨other, hother, hplace⟩ := h.listed.mp entry
    obtain rfl : call = other := Option.some.inj (here.symm.trans hother)
    have hslot : call.stage.slot? = some id := (ClientCall.place?_eq_some_iff.mp hplace).1
    rw [show call.stage = .finished r from hstage] at hslot
    cases hslot

/-- An id that a call has after a turn belongs to nobody else. -/
theorem Turn.distinct (turn : Turn s a t) (h : s.Orderly) {d e : Nat} {other another : ClientCall}
    (hd : t.calls[d]? = some other) (he : t.calls[e]? = some another)
    (hid : other.stage.id? = some id) (hid' : another.stage.id? = some id) : d = e := by
  cases turn with
  | rest same =>
    rw [same.calls] at hd he
    exact h.distinct hd he hid hid'
  | enter method params calls pending nextId =>
    rcases getElem?_calls_enter s method params (calls ▸ hd) with hd | rfl
    · rcases getElem?_calls_enter s method params (calls ▸ he) with he | rfl
      · exact h.distinct hd he hid hid'
      · cases hid'
    · cases hid
  | one c call next here calls turn =>
    -- The call that changes has its old id or the next one, which nobody else has.
    have hone {d : Nat} {other : ClientCall} (hd : s.calls[d]? = some other)
        (hid : next.stage.id? = some id) (hid' : other.stage.id? = some id) : c = d := by
      rcases turn.id_back hid with hid | ⟨rfl, -⟩
      · exact h.distinct here hd hid hid'
      · exact absurd (h.fresh hd hid') (Nat.lt_irrefl _)
    rw [getElem?_calls_set here calls] at hd he
    split at hd
    · next hcd =>
      obtain rfl := Option.some.inj hd
      split at he
      · next hce => exact hcd.symm.trans hce
      · exact hcd.symm.trans (hone he hid hid')
    · split at he
      · next hce =>
        obtain rfl := Option.some.inj he
        exact (hone hd hid' hid).symm.trans hce
      · exact h.distinct hd he hid hid'

theorem Turn.listed (turn : Turn s a t) (h : s.Orderly) {d : Nat} :
    (id, d) ∈ t.pending ↔ ∃ other, t.calls[d]? = some other ∧ other.place? = some id := by
  cases turn with
  | rest same =>
    rw [same.pending, same.calls]
    exact h.listed
  | enter method params calls pending nextId =>
    rw [pending, h.listed]
    constructor
    · rintro ⟨other, hd, hplace⟩
      refine ⟨other, ?_, hplace⟩
      rw [calls, Client.enter, List.getElem?_append_left (List.getElem?_eq_some_iff.mp hd).1, hd]
    · rintro ⟨other, hd, hplace⟩
      rcases getElem?_calls_enter s method params (calls ▸ hd) with hd | rfl
      · exact ⟨other, hd, hplace⟩
      · cases hplace
  | one c call next here calls turn => exact h.listed_of_relisted here calls (turn.relisted h here)

/-- **A turn keeps the calls and their table in order.** -/
theorem Turn.orderly (turn : Turn s a t) (h : s.Orderly) : t.Orderly where
  distinct := turn.distinct h
  fresh := by
    intro d other id hd hid
    have hle : s.nextId ≤ t.nextId := turn.nextId_le
    rcases turn.back hd with hsame | ⟨method, params, rfl⟩ | ⟨before, hbefore, turn⟩
    · exact Nat.lt_of_lt_of_le (h.fresh hsame hid) hle
    · cases hid
    · rcases turn.id_back hid with hid | ⟨rfl, hnext⟩
      · exact Nat.lt_of_lt_of_le (h.fresh hbefore hid) hle
      · omega
  listed := turn.listed h
  early := by
    intro d other hd hslot hrank
    rcases turn.back hd with hsame | ⟨method, params, rfl⟩ | ⟨before, hbefore, turn⟩
    · exact h.early hsame hslot hrank
    · rfl
    · exact turn.early h hbefore hslot hrank
  delivered := by
    intro d other r hd hstage hserver
    rcases turn.back hd with hsame | ⟨method, params, rfl⟩ | ⟨before, hbefore, turn⟩
    · exact h.delivered hsame hstage hserver
    · cases hstage
    · exact turn.delivered h hbefore hstage hserver

end Client
end HeaderFollower
