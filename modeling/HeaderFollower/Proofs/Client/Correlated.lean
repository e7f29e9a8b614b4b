/-
# Replies and the calls that get them

Any number of calls share a connection, and their turns, the lines of the server, time-outs, callers
that give up, failing writes and the end of the connection come in any order. `Client.Correlated` is
what holds all the same: an id belongs to one call, a line with a listed id gives its call the reply
and takes the id off the table, a call returns as the server's only what the first such line said, it
returns once, and the table lists nobody else than calls in progress, which is nobody after all have
returned and soon nobody once the connection has been torn down.

`Client.correlated` proves it of every schedule.
-/

import HeaderFollower.Proofs.Client.Fair
import HeaderFollower.Proofs.Protocol.Request

namespace HeaderFollower

/-- The frame is out, and the call waits for its reply or for the end of the connection. -/
def CallStage.Awaits : CallStage → Prop
  | .waiting _ _ | .parked _ => True
  | _ => False

namespace Client

/-- The id that a call has. -/
def id? (s : Client) (c : Nat) : Option Nat := (s.stage? c).bind (·.id?)

/-- What a call was given. -/
def given? (s : Client) (c : Nat) : Option (Except ClientError Json) := (s.calls[c]?).bind (·.inbox)

/-- What a call has returned. -/
def result? (s : Client) (c : Nat) : Option (Except ClientError Json) :=
  match s.stage? c with
  | some (.finished r) => some r
  | _ => none

variable {s : Client} {c d id : Nat} {call : ClientCall} {r : Except ClientError Json}
  {settings : ClientSettings} {schedule : Nat → ClientAction} {m n : Nat}

theorem id?_eq_some_iff :
    s.id? c = some id ↔ ∃ call, s.calls[c]? = some call ∧ call.stage.id? = some id := by
  simp [id?, stage?, Option.bind_eq_some_iff]

theorem given?_eq_some_iff :
    s.given? c = some r ↔ ∃ call, s.calls[c]? = some call ∧ call.inbox = some r := by
  simp [given?, Option.bind_eq_some_iff]

theorem result?_eq_some_iff :
    s.result? c = some r ↔ ∃ call, s.calls[c]? = some call ∧ call.stage = .finished r := by
  unfold result?
  constructor
  · intro h
    split at h
    · next r' hstage =>
      obtain rfl := Option.some.inj h
      exact stage?_eq_some.mp hstage
    · cases h
  · intro h
    rw [stage?_eq_some.mpr h]

/-- What ties the replies of the server to the calls of a connection under a schedule. -/
structure Correlated (settings : ClientSettings) (schedule : Nat → ClientAction) : Prop where
  /-- No two calls ever have the same id. -/
  distinct : ∀ {m n c d id : Nat}, (states settings schedule m).id? c = some id →
    (states settings schedule n).id? d = some id → c = d
  /-- What a call returns as the server's is the reply of the first line with its id that the reader
  took while the call was listed. -/
  first_reply : ∀ {n c : Nat} {r : Except ClientError Json},
    (states settings schedule n).result? c = some r → FromServer r →
    ∃ m < n, ∃ id line, (states settings schedule m).id? c = some id ∧
      (id, c) ∈ (states settings schedule m).pending ∧
      (states settings schedule m).lineRead? (schedule m) = some line ∧
      reply? line = some (id, r) ∧
      ∀ k < m, (id, c) ∈ (states settings schedule k).pending →
        ∀ other, (states settings schedule k).lineRead? (schedule k) = some other →
          ∀ r', reply? other ≠ some (id, r')
  /-- A line that matches a listed id gives its call the reply, and takes that id off the table and
  no other. -/
  matched : ∀ {n id c : Nat} {line : List UInt8} {r : Except ClientError Json},
    (states settings schedule n).lineRead? (schedule n) = some line →
    reply? line = some (id, r) → (id, c) ∈ (states settings schedule n).pending →
    (states settings schedule (n + 1)).given? c = some r ∧
      (∀ d, (id, d) ∉ (states settings schedule (n + 1)).pending) ∧
      ∀ other d, other ≠ id → ((other, d) ∈ (states settings schedule (n + 1)).pending ↔
        (other, d) ∈ (states settings schedule n).pending)
  /-- A call that waits and has been given something returns it in its next turn. -/
  handed_over : ∀ {n c : Nat} {stage : CallStage} {r : Except ClientError Json},
    (states settings schedule n).stage? c = some stage → stage.Awaits →
    (states settings schedule n).given? c = some r → schedule n = .proceed c →
    (states settings schedule (n + 1)).result? c = some r
  /-- A line that is taken is gone. -/
  taken : ∀ {n : Nat} {line : List UInt8},
    (states settings schedule n).lineRead? (schedule n) = some line →
    ∃ first, (states settings schedule n).source.arrived =
      first :: (states settings schedule (n + 1)).source.arrived
  /-- A step gives something to one call at most. -/
  one_receiver : ∀ {n c d : Nat},
    (states settings schedule (n + 1)).given? c ≠ (states settings schedule n).given? c →
    (states settings schedule (n + 1)).given? d ≠ (states settings schedule n).given? d → c = d
  /-- What a call has returned stays. -/
  one_result : ∀ {m n c : Nat} {r : Except ClientError Json}, m ≤ n →
    (states settings schedule m).result? c = some r →
    (states settings schedule n).result? c = some r
  /-- If everybody gets turns, every call returns. -/
  returns : Fair settings schedule → ∀ {n c : Nat},
    c < (states settings schedule n).calls.length →
    ∃ m r, n ≤ m ∧ (states settings schedule m).result? c = some r
  /-- A line that matches no listed id changes neither the table nor the calls. -/
  unmatched : ∀ {n : Nat} {line : List UInt8},
    (states settings schedule n).lineRead? (schedule n) = some line →
    (∀ id r, reply? line = some (id, r) → ∀ c, (id, c) ∉ (states settings schedule n).pending) →
    (states settings schedule (n + 1)).pending = (states settings schedule n).pending ∧
      (states settings schedule (n + 1)).calls = (states settings schedule n).calls
  /-- Who is listed is in progress. -/
  in_progress : ∀ {n id c : Nat}, (id, c) ∈ (states settings schedule n).pending →
    (states settings schedule n).id? c = some id ∧ (states settings schedule n).result? c = none
  /-- When all calls have returned, nobody is listed. -/
  emptied : ∀ {n : Nat}, (∀ c < (states settings schedule n).calls.length,
      (states settings schedule n).result? c ≠ none) →
    (states settings schedule n).pending = []
  /-- The end of the connection does not go back, so each part of it comes once. -/
  onward : ∀ {m n : Nat}, m ≤ n →
    (states settings schedule m).closing.rank ≤ (states settings schedule n).closing.rank
  /-- What the pending requests are told is settled by who was first to close. -/
  settled : ∀ {m n : Nat} {cancelled : Bool}, m ≤ n →
    (states settings schedule m).closing.cancelled? = some cancelled →
    (states settings schedule n).closing.cancelled? = some cancelled ∨
      (states settings schedule n).closing = .done
  /-- On a connection that is torn down only a call is listed that has just listed itself, and it
  leaves in its next turn. -/
  unlisted : ∀ {n id c : Nat}, (states settings schedule n).closing = .done →
    (id, c) ∈ (states settings schedule n).pending →
    (∃ frame, (states settings schedule n).stage? c = some (.registered id frame)) ∧
      (schedule n = .proceed c →
        (states settings schedule (n + 1)).result? c = some (.error .closed) ∧
          ∀ d, (id, d) ∉ (states settings schedule (n + 1)).pending)
  /-- A call that has a place when the connection is torn down is told so, unless it was given a
  reply before, or its own time is over, or it was still writing and that fails. -/
  last_word : ∀ {n m c id : Nat} {stage : CallStage} {r : Except ClientError Json},
    (states settings schedule n).closing = .done →
    (states settings schedule n).stage? c = some stage → stage.slot? = some id → n ≤ m →
    (states settings schedule m).result? c = some r →
    r = .error .closed ∨ r = .error .cancelled ∨
      FromServer r ∧ (states settings schedule n).given? c = some r ∨
      (∃ method after, r = .error (.timeout method after) ∧
        ∃ k < m, ∃ call, (states settings schedule k).calls[c]? = some call ∧
          Expires (states settings schedule k) (schedule k) c call) ∨
      ∃ text, r = .error (.io text) ∧ ¬ stage.Awaits

/-! ## Ids -/

theorem eq_of_states_id? (hmn : m ≤ n) (hc : (states settings schedule m).id? c = some id)
    (hd : (states settings schedule n).id? d = some id) : c = d := by
  obtain ⟨call, hcall, hid⟩ := id?_eq_some_iff.mp hc
  obtain ⟨other, hother, hid'⟩ := id?_eq_some_iff.mp hd
  rcases states_id_back hmn hother hid' with ⟨before, hbefore, hid'⟩ | hle
  · exact (orderly_states settings schedule m).distinct hcall hbefore hid hid'
  · exact absurd ((orderly_states settings schedule m).fresh hcall hid) (Nat.not_lt.mpr hle)

theorem id?_of_listed (hentry : (id, c) ∈ (states settings schedule n).pending) :
    (states settings schedule n).id? c = some id := by
  obtain ⟨call, hcall, hplace⟩ := (orderly_states settings schedule n).listed.mp hentry
  have hslot := (ClientCall.place?_eq_some_iff.mp hplace).1
  exact id?_eq_some_iff.mpr ⟨call, hcall, CallStage.id?_of_slot? hslot⟩

theorem result?_of_listed (hentry : (id, c) ∈ (states settings schedule n).pending) :
    (states settings schedule n).result? c = none := by
  obtain ⟨call, hcall, hplace⟩ := (orderly_states settings schedule n).listed.mp hentry
  have hslot := (ClientCall.place?_eq_some_iff.mp hplace).1
  rw [Option.eq_none_iff_forall_ne_some]
  intro r hr
  obtain ⟨other, hother, hstage⟩ := result?_eq_some_iff.mp hr
  obtain rfl : call = other := Option.some.inj (hcall.symm.trans hother)
  rw [hstage] at hslot
  cases hslot

/-! ## Lines -/

theorem arrived_of_lineRead? {a : ClientAction} {line : List UInt8}
    (h : s.lineRead? a = some line) :
    ∃ first, s.source.arrived = first :: (s.step a).1.source.arrived := by
  cases a with
  | readLine =>
    simp only [lineRead?] at h
    split at h
    · next hrunning =>
      split at h
      · next bytes rest harrived =>
        refine ⟨.line bytes, ?_⟩
        simp only [step, readLine, if_pos hrunning, harrived]
        rw [source_takeLine]
      · cases h
    · cases h
  | _ => cases h

/-- A line whose reply finds no call does nothing to the calls. -/
theorem sameCalls_of_unmatched {a : ClientAction} {line : List UInt8}
    (h : s.lineRead? a = some line)
    (hnone : ∀ id r, reply? line = some (id, r) → ∀ c, (id, c) ∉ s.pending) :
    SameCalls (s.step a).1 s := by
  cases a with
  | readLine =>
    have same := readLine_sameCalls s
    have htold : s.delivery? .readLine = reply? line := by
      simp only [delivery?, h, Option.bind_some]
    rw [htold] at same
    rcases hreply : reply? line with - | ⟨id, r⟩
    · rw [hreply] at same
      exact same
    · rw [hreply] at same
      have hlookup : s.pending.lookup id = none := by
        rw [List.lookup_eq_none_iff]
        rintro ⟨id', c⟩ hentry
        rw [bne_iff_ne]
        rintro rfl
        exact hnone id r hreply c hentry
      simp only [given, deliver, hlookup] at same
      exact same
  | _ => cases h

/-- In one turn one call at most is given something. -/
theorem Turn.one_receiver {t : Client} {a : ClientAction} (turn : Turn s a t)
    (hc : t.given? c ≠ s.given? c) (hd : t.given? d ≠ s.given? d) : c = d := by
  cases turn with
  | rest same => exact absurd (by rw [given?, given?, same.calls]) hc
  | enter method params calls pending nextId =>
    -- A call that enters has been given nothing.
    have hsame (e : Nat) : t.given? e = s.given? e := by
      rw [given?, given?, calls, Client.enter]
      rcases Nat.lt_or_ge e s.calls.length with hlt | hge
      · rw [List.getElem?_append_left hlt]
      · rw [List.getElem?_append_right hge, List.getElem?_eq_none hge]
        rcases Nat.lt_or_ge (e - s.calls.length) 1 with h1 | h1
        · obtain h0 : e - s.calls.length = 0 := by omega
          rw [h0]
          rfl
        · rw [List.getElem?_eq_none (by simpa using h1)]
    exact absurd (hsame c) hc
  | one b call next here calls turn =>
    have hat {e : Nat} (he : t.given? e ≠ s.given? e) : b = e := by
      by_contra hne
      rw [given?, given?, getElem?_calls_set here calls, if_neg hne] at he
      exact he rfl
    exact (hat hc).symm.trans (hat hd)

theorem delivery?_of_lineRead? {a : ClientAction} {line : List UInt8}
    (h : s.lineRead? a = some line) : s.delivery? a = reply? line := by
  cases a with
  | readLine => rw [delivery?, h, Option.bind_some]
  | _ => cases h

theorem Orderly.given?_step_of_told {a : ClientAction} (h : s.Orderly)
    (told : s.delivery? a = some (id, r)) (entry : (id, c) ∈ s.pending) :
    (s.step a).1.given? c = some r :=
  given?_eq_some_iff.mpr (h.inbox_of_delivery told entry)

theorem Orderly.mem_pending_step_of_told {a : ClientAction} (h : s.Orderly)
    (told : s.delivery? a = some (id, r)) (entry : (id, c) ∈ s.pending) {other : Nat} :
    (other, d) ∈ (s.step a).1.pending ↔ (other, d) ∈ s.pending ∧ other ≠ id := by
  rw [h.pending_of_delivery told entry, mem_pending_unregister]

theorem stage?_step_of_told {a : ClientAction} (told : s.delivery? a = some (id, r)) :
    (s.step a).1.stage? c = s.stage? c := by
  rw [stage?, (sameCalls_of_told told).calls, stage?]
  unfold deliver
  split
  · next d hd =>
    simp only [updateCall, unregister, List.getElem?_modify]
    split <;> cases s.calls[c]? <;> rfl
  · rfl

/-! ## Results -/

/-- A call that waits takes what it was given. -/
theorem result?_proceed_of_given? {stage : CallStage} (hstage : s.stage? c = some stage)
    (hawaits : stage.Awaits) (hgiven : s.given? c = some r) :
    (s.step (.proceed c)).1.result? c = some r := by
  obtain ⟨call, here, rfl⟩ := stage?_eq_some.mp hstage
  obtain ⟨other, hother, hinbox⟩ := given?_eq_some_iff.mp hgiven
  obtain rfl : call = other := Option.some.inj (here.symm.trans hother)
  have hturn : (s.step (.proceed c)).1 = s.finish c r := by
    simp only [step, proceed, here]
    cases hcall : call.stage with
    | waiting id deadline => simp only [takeInbox, hinbox]
    | parked id => simp only [takeInbox, hinbox]
    | _ => simp [hcall, CallStage.Awaits] at hawaits
  rw [hturn]
  exact result?_eq_some_iff.mpr ⟨_, getElem?_goto here (.finished r), rfl⟩

theorem result?_states_of_le (hmn : m ≤ n) (h : (states settings schedule m).result? c = some r) :
    (states settings schedule n).result? c = some r := by
  obtain ⟨call, hcall, hstage⟩ := result?_eq_some_iff.mp h
  obtain ⟨after, hafter, hlater⟩ := states_later hmn hcall
  exact result?_eq_some_iff.mpr ⟨after, hafter, hlater.finished hstage⟩

theorem exists_first_reply (h : (states settings schedule n).result? c = some r)
    (hserver : FromServer r) :
    ∃ m < n, ∃ id line, (states settings schedule m).id? c = some id ∧
      (id, c) ∈ (states settings schedule m).pending ∧
      (states settings schedule m).lineRead? (schedule m) = some line ∧
      reply? line = some (id, r) ∧
      ∀ k < m, (id, c) ∈ (states settings schedule k).pending →
        ∀ other, (states settings schedule k).lineRead? (schedule k) = some other →
          ∀ r', reply? other ≠ some (id, r') := by
  obtain ⟨call, hcall, hstage⟩ := result?_eq_some_iff.mp h
  have hinbox : call.inbox = some r :=
    (orderly_states settings schedule n).delivered hcall hstage hserver
  obtain ⟨m, hm, id, told, hentry⟩ := exists_delivery hcall hinbox
  obtain ⟨line, hline, hreply⟩ := lineRead?_of_delivery? told hserver
  refine ⟨m, hm, id, line, id?_of_listed hentry, hentry, hline, hreply, ?_⟩
  intro k hk hentry' other hother r' hr'
  have told' : (states settings schedule k).delivery? (schedule k) = some (id, r') := by
    rw [delivery?_of_lineRead? hother, hr']
  exact not_delivered_before hk told' hentry' hentry

/-! ## After the end -/

/-- What a call is given is a reply, or the end of the connection. -/
theorem eq_of_told {a : ClientAction} (told : s.delivery? a = some (id, r)) (hr : ¬ FromServer r) :
    r = .error .closed ∨ r = .error .cancelled := by
  cases a with
  | readLine =>
    obtain ⟨line, -, hreply⟩ := Option.bind_eq_some_iff.mp told
    refine absurd ?_ hr
    unfold reply? at hreply
    split at hreply
    · cases hreply
    · split at hreply
      · obtain ⟨-, rfl⟩ := Prod.mk.inj (Option.some.inj hreply)
        trivial
      · obtain ⟨-, rfl⟩ := Prod.mk.inj (Option.some.inj hreply)
        trivial
      · cases hreply
  | tearDown =>
    simp only [delivery?] at told
    split at told
    · next cancelled first rest hclosing =>
      obtain ⟨-, rfl⟩ := Prod.mk.inj (Option.some.inj told)
      cases cancelled
      · exact .inl rfl
      · exact .inr rfl
    · cases told
  | _ => cases told

/-- Who is listed on a connection that is torn down has just listed itself. -/
theorem registered_of_done (hdone : (states settings schedule n).closing = .done)
    (hentry : (id, c) ∈ (states settings schedule n).pending) :
    ∃ call frame, (states settings schedule n).calls[c]? = some call ∧
      call.stage = .registered id frame := by
  have hleft : (states settings schedule n).closing.left? = some [] := by rw [hdone]; rfl
  obtain ⟨call, hcall, hplace⟩ := (orderly_states settings schedule n).listed.mp hentry
  have hslot := (ClientCall.place?_eq_some_iff.mp hplace).1
  rcases (winding_states settings schedule n).counted hleft hentry with h | ⟨other, hother, hrank⟩
  · cases h
  obtain rfl : call = other := Option.some.inj (hcall.symm.trans hother)
  cases hstage : call.stage with
  | registered id' frame =>
    rw [hstage] at hslot
    obtain rfl : id' = id := Option.some.inj hslot
    exact ⟨call, frame, hcall, hstage⟩
  | _ => simp [hstage, CallStage.rank] at hrank

theorem result?_enqueue_of_closed {frame : List UInt8} (here : s.calls[c]? = some call)
    (hstage : call.stage = .registered id frame) (hclosed : s.isClosed = true) :
    (s.step (.proceed c)).1.result? c = some (.error .closed) ∧
      ∀ d, (id, d) ∉ (s.step (.proceed c)).1.pending := by
  simp only [step, proceed, here, hstage, enqueue, if_pos hclosed]
  constructor
  · exact result?_eq_some_iff.mpr
      ⟨_, getElem?_goto (s := s.unregister id) here (.finished (.error .closed)), rfl⟩
  · intro d hd
    exact ((mem_pending_unregister s id).mp hd).2 rfl

/-- A reply that a call returns after the end had been given to it before. -/
theorem given?_of_done (hdone : (states settings schedule n).closing = .done)
    (hd : (states settings schedule m).calls[c]? = some call) (hrank : 6 ≤ call.stage.rank)
    (hunfinished : call.stage.rank < 8) (hinbox : call.inbox = some r) :
    (states settings schedule n).given? c = some r := by
  obtain ⟨k, hk, id, told, hentry⟩ := exists_delivery hd hinbox
  rcases Nat.lt_or_ge k n with hkn | hnk
  · -- It was delivered before the end, and has stayed since.
    obtain ⟨after, hafter, hafter'⟩ :=
      (orderly_states settings schedule k).inbox_of_delivery told hentry
    obtain ⟨later, hlater, h⟩ := states_later (m := k + 1) hkn hafter
    exact given?_eq_some_iff.mpr ⟨later, hlater, h.inbox r hafter'⟩
  · -- After the end it could only go to a call that leaves without looking at it.
    have hdone' := states_done hnk hdone
    obtain ⟨before, frame, hbefore, hstage⟩ := registered_of_done hdone' hentry
    obtain ⟨after, hafter, hcases⟩ := states_registered (Nat.le_of_lt hk) (by simp [hdone'])
      hbefore (by simp [hstage, CallStage.rank])
    obtain rfl : call = after := Option.some.inj (hd.symm.trans hafter)
    omega

theorem last_word_of_done {stage : CallStage}
    (hdone : (states settings schedule n).closing = .done)
    (hstage : (states settings schedule n).stage? c = some stage) (hslot : stage.slot? = some id)
    (hnm : n ≤ m) (hr : (states settings schedule m).result? c = some r) :
    r = .error .closed ∨ r = .error .cancelled ∨
      FromServer r ∧ (states settings schedule n).given? c = some r ∨
      (∃ method after, r = .error (.timeout method after) ∧
        ∃ k < m, ∃ call, (states settings schedule k).calls[c]? = some call ∧
          Expires (states settings schedule k) (schedule k) c call) ∨
      ∃ text, r = .error (.io text) ∧ ¬ stage.Awaits := by
  obtain ⟨call, hcall, rfl⟩ := stage?_eq_some.mp hstage
  obtain ⟨ended, hended, hfinished⟩ := result?_eq_some_iff.mp hr
  obtain ⟨k, hnk, hkm, last, next, hlast, hrank, hnext, hnextStage⟩ :=
    exists_finishing_step hnm hcall (CallStage.rank_lt_of_slot? hslot) hended hfinished
  obtain ⟨later, hlater, h⟩ := states_later hnk hcall
  obtain rfl : last = later := Option.some.inj (hlast.symm.trans hlater)
  rcases (turn_states settings schedule k).of_finished hlast hrank hnext hnextStage with
    hnone | ⟨hwaits, hinbox⟩ | ⟨id', e, rfl, cause⟩
  · -- A call that has a place keeps it until it ends.
    have h3 := CallStage.three_le_rank hslot
    have hlt := CallStage.rank_lt_of_slot?_eq_none hnone hrank
    have hle := h.rank_le
    omega
  · by_cases hserver : FromServer r
    · exact .inr (.inr (.inl ⟨hserver, given?_of_done hdone hlast hwaits hrank hinbox⟩))
    · obtain ⟨j, -, id', told, -⟩ := exists_delivery hlast hinbox
      rcases eq_of_told told hserver with h | h
      · exact .inl h
      · exact .inr (.inl h)
  · cases cause with
    | closed stage => exact .inl rfl
    | cancelled => exact .inr (.inl rfl)
    | timeout after expired =>
      refine .inr (.inr (.inr (.inl ⟨_, after, rfl, ?_⟩)))
      rcases expired with expired | hreleased
      · exact ⟨k, hkm, last, hlast, expired⟩
      · obtain ⟨j, hj, before, hbefore, expired⟩ := exists_expired hlast hreleased
        exact ⟨j, Nat.lt_trans hj hkm, before, hbefore, expired⟩
    | writeFailed text hreleased =>
      refine .inr (.inr (.inr (.inr ⟨text, rfl, fun hawaits => ?_⟩)))
      -- A call whose frame is out does not go back to writing.
      rcases h.stage with hs | hs
      · rw [hs] at hreleased
        rw [hreleased] at hawaits
        exact hawaits
      · rw [hreleased] at hs
        cases hcallStage : call.stage <;>
          simp_all [CallStage.Awaits, CallStage.rank]

/-! ## All together -/

/-- **Replies, calls and the end of the connection match under every schedule.** -/
theorem correlated (settings : ClientSettings) (schedule : Nat → ClientAction) :
    Correlated settings schedule where
  distinct := by
    intro m n c d id hc hd
    rcases Nat.le_total m n with hmn | hnm
    · exact eq_of_states_id? hmn hc hd
    · exact (eq_of_states_id? hnm hd hc).symm
  first_reply := exists_first_reply
  matched := by
    intro n id c line r hline hreply hentry
    have orderly := orderly_states settings schedule n
    have told : (states settings schedule n).delivery? (schedule n) = some (id, r) := by
      rw [delivery?_of_lineRead? hline, hreply]
    refine ⟨orderly.given?_step_of_told told hentry, fun d hd => ?_, fun other d hne => ?_⟩
    · exact ((orderly.mem_pending_step_of_told told hentry).mp hd).2 rfl
    · exact (orderly.mem_pending_step_of_told told hentry).trans (and_iff_left hne)
  handed_over := by
    intro n c stage r hstage hawaits hgiven hturn
    rw [states, hturn]
    exact result?_proceed_of_given? hstage hawaits hgiven
  taken := arrived_of_lineRead?
  one_receiver := (turn_states settings schedule _).one_receiver
  one_result := result?_states_of_le
  returns := by
    intro fair n c hc
    obtain ⟨m, hm, after, r, hafter, hstage⟩ :=
      fair.returns (List.getElem?_eq_getElem hc)
    exact ⟨m, r, hm, result?_eq_some_iff.mpr ⟨after, hafter, hstage⟩⟩
  unmatched := by
    intro n line hline hnone
    have same := sameCalls_of_unmatched hline hnone
    exact ⟨same.pending, same.calls⟩
  in_progress := fun hentry => ⟨id?_of_listed hentry, result?_of_listed hentry⟩
  emptied := by
    intro n hall
    rw [List.eq_nil_iff_forall_not_mem]
    rintro ⟨id, c⟩ hentry
    obtain ⟨call, hcall, -⟩ := (orderly_states settings schedule n).listed.mp hentry
    exact hall c (List.getElem?_eq_some_iff.mp hcall).1 (result?_of_listed hentry)
  onward := states_closing_rank_le
  settled := states_cancelled?
  unlisted := by
    intro n id c hdone hentry
    obtain ⟨call, frame, hcall, hstage⟩ := registered_of_done hdone hentry
    refine ⟨⟨frame, stage?_eq_some.mpr ⟨call, hcall, hstage⟩⟩, fun hturn => ?_⟩
    have hclosed : (states settings schedule n).isClosed = true := by simp [isClosed, hdone]
    rw [states, hturn]
    exact result?_enqueue_of_closed hcall hstage hclosed
  last_word := last_word_of_done

/-! ## Two pings -/

/-- The turns of a call that nobody disturbs, up to where it waits for its reply. -/
def sending (c n : Nat) : List ClientAction :=
  List.replicate 5 (.proceed c) ++ [.write c n, .proceed c]

/-- A call that nobody disturbs lists itself under the next id, sends its frame, pays for it and
waits. -/
theorem run_sending {method : String} {params : Json} {bytes : ByteArray}
    (hopen : s.closing = .notYet) (hfree : s.writer = {})
    (here : s.calls[c]? = some { method, params })
    (hframe : Request.frame s.nextId method params = .ok bytes) (hn : bytes.toList.length ≤ n) :
    (s.run (sending c n)).1 =
      { s.goto c (.waiting s.nextId (s.now + s.settings.requestTimeout.nanos)) with
        nextId := s.nextId + 1
        pending := s.pending ++ [(s.nextId, c)]
        cost := s.cost.apply (.bytes bytes.toList.length) } := by
  have hwhole : bytes.toList.take n = bytes.toList := List.take_of_length_le hn
  have hgoto (calls : List ClientCall) (stage next : CallStage) :
      (calls.modify c fun call => { call with stage }).modify c
          (fun call => { call with stage := next }) =
        calls.modify c fun call => { call with stage := next } := by
    rw [List.modify_modify_eq]
    rfl
  simp [sending, run, step, proceed, here, hopen, hfree, number, hframe, register, enqueue,
    isClosed, beginWrite, takeWriter?, transmit, endWrite, releaseWriter, charge, goto, updateCall,
    stage?, hgoto, hwhole, Outgoing.offered_begin, Outgoing.take_begin, Outgoing.isEmpty,
    Outgoing.abandon]

/-- A ping fits into a hundred bytes. -/
theorem exists_pingFrame {id : Nat} {wide : UInt64} (hid : wide.toNat = id)
    (h : (Json.spell (Request.object wide Method.ping (.array []))).length < 100) :
    ∃ bytes, Request.frame id Method.ping (.array []) = .ok bytes ∧ bytes.toList.length ≤ 100 := by
  obtain ⟨bytes, hframe⟩ := Request.exists_frame wide (Nat.lt_trans h (by decide))
  refine ⟨bytes, hid ▸ hframe, ?_⟩
  rw [(Request.frame_ok hframe).1, List.length_append]
  exact h

/-- Two pings are sent. -/
def pinging : List ClientAction :=
  [.call Method.ping (.array []), .call Method.ping (.array [])] ++ (sending 0 100 ++ sending 1 100)

theorem run_pinging : ((start {}).run pinging).1.pending = [(0, 0), (1, 1)] ∧
    ((start {}).run pinging).1.source = {} ∧
    ∃ deadline, ((start {}).run pinging).1.stage? 1 = some (.waiting 1 deadline) := by
  obtain ⟨first, hfirst, hshort⟩ :=
    exists_pingFrame (show (0 : UInt64).toNat = 0 from rfl) (by decide +kernel)
  obtain ⟨second, hsecond, hshort'⟩ :=
    exists_pingFrame (show (1 : UInt64).toNat = 1 from rfl) (by decide +kernel)
  obtain ⟨entered, hentered⟩ : ∃ s : Client,
    ((start {}).run [.call Method.ping (.array []), .call Method.ping (.array [])]).1 = s := ⟨_, rfl⟩
  have hone : (entered.run (sending 0 100)).1 = _ :=
    run_sending (by rw [← hentered]; rfl) (by rw [← hentered]; rfl) (by rw [← hentered]; rfl)
      (by rw [← hentered]; exact hfirst) hshort
  -- The first ping leaves the writer free and the second where it was.
  have htwo : ((entered.run (sending 0 100)).1.run (sending 1 100)).1 = _ :=
    run_sending (by rw [hone, ← hentered]; rfl) (by rw [hone, ← hentered]; rfl)
      (by rw [hone, ← hentered]; rfl) (by rw [hone, ← hentered]; exact hsecond) hshort'
  rw [pinging, run_append, run_append]
  dsimp only
  rw [hentered, htwo, hone, ← hentered]
  exact ⟨rfl, rfl, _, rfl⟩

/-- A line arrives on a connection on which nothing has arrived. -/
theorem arrive_of_source {line : List UInt8} (hsource : s.source = {})
    (hfits : LineReader.Fits maxFrame line) :
    s.arrive (LineReader.feeds [line]).toByteArray =
      { s with source := { arrived := [.line line.toByteArray] } } := by
  have hread := LineReader.read_toByteArray_feeds (List.forall_mem_singleton.2 hfits)
  simp only [arrive, hsource, hread]
  rfl

/-- The answer to the second of them. -/
def pong : List UInt8 := "\x7b\"jsonrpc\":\"2.0\",\"id\":1,\"result\":null\x7d".toUTF8.toList

theorem reply?_pong : reply? pong = some (1, .ok .null) := by
  have h : (reply? pong).map (fun x => (x.1, x.2.toOption.map Json.isNull)) =
      some (1, some true) := by
    decide +kernel
  obtain ⟨⟨id, r⟩, hreply, hr⟩ := Option.map_eq_some_iff.1 h
  obtain ⟨rfl, hnull⟩ := Prod.mk.inj hr
  cases r with
  | error e => cases hnull
  | ok j =>
    cases j with
    | null => exact hreply
    | _ => cases hnull

/-- Two pings go out, and only the second is answered. -/
def overtaking : Nat → ClientAction :=
  thenRoundRobin (pinging ++
    [.arrive (LineReader.feeds [pong]).toByteArray, .readLine, .proceed 1])

/-- The second ping gets its answer and returns it; the first stays listed and returns later. -/
theorem correlated_overtaking : Fair {} overtaking ∧
    (states {} overtaking 17).lineRead? (overtaking 17) = some pong ∧
    (states {} overtaking 17).pending = [(0, 0), (1, 1)] ∧
    (states {} overtaking 18).given? 1 = some (.ok .null) ∧
    (0, 0) ∈ (states {} overtaking 18).pending ∧
    (∀ c, (1, c) ∉ (states {} overtaking 18).pending) ∧
    (states {} overtaking 19).result? 1 = some (.ok .null) ∧
    ∃ m r, 18 ≤ m ∧ (states {} overtaking m).result? 0 = some r := by
  have all := correlated {} overtaking
  have hfair : Fair {} overtaking := fair_thenRoundRobin {} _
  obtain ⟨hpending, hsource, deadline, hstage⟩ := run_pinging
  have hpinged : states {} overtaking 16 = ((start {}).run pinging).1 :=
    states_thenRoundRobin {} pinging _
  rw [← hpinged] at hpending hsource hstage
  have hfits : LineReader.Fits maxFrame pong := ⟨by decide +kernel, by decide +kernel⟩
  have harrived : states {} overtaking 17 = { states {} overtaking 16 with
      source := { arrived := [.line pong.toByteArray] } } := arrive_of_source hsource hfits
  have hline : (states {} overtaking 17).lineRead? .readLine = some pong := by
    rw [harrived]
    exact congrArg some (by rw [Hex.toList_eq_data, List.toList_data_toByteArray])
  have hlisted : (states {} overtaking 17).pending = [(0, 0), (1, 1)] := by
    rw [harrived]
    exact hpending
  have hsecond : (1, 1) ∈ (states {} overtaking 17).pending := by
    rw [hlisted]
    exact List.mem_cons_of_mem _ List.mem_cons_self
  obtain ⟨hgiven, hgone, hrest⟩ := all.matched hline reply?_pong hsecond
  have hfirst : (0, 0) ∈ (states {} overtaking 18).pending := by
    rw [hrest 0 0 Nat.zero_ne_one, hlisted]
    exact List.mem_cons_self
  have hwaits : (states {} overtaking 18).stage? 1 = some (.waiting 1 deadline) := by
    have told := delivery?_of_lineRead? hline
    rw [reply?_pong] at told
    exact (stage?_step_of_told told).trans (by rw [harrived]; exact hstage)
  have hresult := all.handed_over hwaits trivial hgiven rfl
  obtain ⟨call, hcall, -⟩ := id?_eq_some_iff.mp (all.in_progress hfirst).1
  exact ⟨hfair, hline, hlisted, hgiven, hfirst, hgone, hresult,
    all.returns hfair (List.getElem?_eq_some_iff.mp hcall).1⟩

end Client
end HeaderFollower
