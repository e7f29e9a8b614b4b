/-
# How a connection comes to its end

Whatever a step does, the connection as a whole only goes on: its clock does not go back, it does
not start to read again, and its end comes once and in order. `Client.Onward` says this of the steps
that do not tear down, `Client.Winding` is what all states of a connection have in common: who waits
for the end of the connection will see it, and once the pending requests have been told, the table
lists only calls that have just put themselves there.
-/

import HeaderFollower.Proofs.Client.Turn

namespace HeaderFollower

/-- How far the connection is torn down. -/
def Closing.rank : Closing → Nat
  | .notYet => 0
  | .marked _ => 1
  | .signalled _ => 2
  | .draining _ _ => 3
  | .done => 4

/-- What the pending requests are told, while this can be asked. -/
def Closing.cancelled? : Closing → Option Bool
  | .marked cancelled | .signalled cancelled | .draining cancelled _ => some cancelled
  | .notYet | .done => none

/-- The ids of the pending requests that are still to be told, once there is a list of them. -/
def Closing.left? : Closing → Option (List Nat)
  | .draining _ ids => some ids
  | .done => some []
  | _ => none

namespace Client

variable {s t u : Client} {a : ClientAction} {c id : Nat} {call : ClientCall}

/-! ## Steps that do not tear down -/

/-- The connection as a whole has gone on from `s` to `t`, at most to the mark that it is closed. -/
structure Onward (s t : Client) : Prop where
  now : s.now ≤ t.now
  shutdown : s.shutdown = true → t.shutdown = true
  /-- The reader stops only when the connection is closed. -/
  reading : t.source.running = s.source.running ∨ t.closing ≠ .notYet
  closing : t.closing = s.closing ∨ s.closing = .notYet ∧ ∃ cancelled, t.closing = .marked cancelled

theorem Onward.refl (s : Client) : Onward s s :=
  ⟨Nat.le_refl _, fun h => h, .inl rfl, .inl rfl⟩

/-- What says nothing about the connection as a whole. -/
theorem Onward.of_eq (now : t.now = s.now) (shutdown : t.shutdown = s.shutdown)
    (running : t.source.running = s.source.running) (closing : t.closing = s.closing) :
    Onward s t :=
  ⟨Nat.le_of_eq now.symm, fun h => shutdown.trans h, .inl running, .inl closing⟩

theorem Onward.closing_ne (h : Onward s t) (hs : s.closing ≠ .notYet) : t.closing ≠ .notYet := by
  rcases h.closing with hc | ⟨hc, -⟩
  · rwa [hc]
  · exact absurd hc hs

theorem Onward.trans (h : Onward s t) (g : Onward t u) : Onward s u where
  now := Nat.le_trans h.now g.now
  shutdown hs := g.shutdown (h.shutdown hs)
  reading := by
    rcases g.reading with hg | hg
    · rcases h.reading with hh | hh
      · exact .inl (hg.trans hh)
      · exact .inr (g.closing_ne hh)
    · exact .inr hg
  closing := by
    rcases g.closing with hg | ⟨ht, cancelled, hg⟩
    · rcases h.closing with hh | ⟨hs, cancelled, hh⟩
      · exact .inl (hg.trans hh)
      · exact .inr ⟨hs, cancelled, hg.trans hh⟩
    · rcases h.closing with hh | ⟨hs, cancelled', hh⟩
      · exact .inr ⟨hh.symm.trans ht, cancelled, hg⟩
      · exact .inr ⟨hs, cancelled, hg⟩

theorem onward_beginClosing (s : Client) (cancelled : Bool) :
    Onward s (s.beginClosing cancelled) := by
  unfold beginClosing
  split
  · next h => exact ⟨Nat.le_refl _, fun h => h, .inl rfl, .inr ⟨h, cancelled, rfl⟩⟩
  · exact .refl s

theorem onward_deliver (s : Client) (id : Nat) (r : Except ClientError Json) :
    Onward s (s.deliver id r) := by
  unfold deliver
  split
  · exact .of_eq rfl rfl rfl rfl
  · exact .refl s

theorem onward_takeWriter? {holder : Holder} (h : s.takeWriter? holder = some t) : Onward s t := by
  obtain ⟨writer, rfl⟩ := takeWriter?_eq_some h
  exact .of_eq rfl rfl rfl rfl

theorem onward_afterRelease (s : Client) (c id : Nat) (why : WriteEnd) :
    Onward s (s.afterRelease c id why).1 := by
  have hmark (t : Client) (cancelled : Bool) (stage : CallStage) :
      Onward t ((t.beginClosing cancelled).goto c stage) :=
    (onward_beginClosing t cancelled).trans (.of_eq rfl rfl rfl rfl)
  cases why with
  | timedOut =>
    refine .trans ?_ (hmark ((s.unregister id).charge (some c) .error).1 false _)
    exact .of_eq rfl rfl rfl rfl
  | cancelled =>
    refine .trans ?_ (hmark (s.unregister id) false _)
    exact .of_eq rfl rfl rfl rfl
  | failed text =>
    refine .trans ?_ (hmark (s.unregister id) false _)
    exact .of_eq rfl rfl rfl rfl
  | shutdown => exact hmark s true _

theorem onward_proceed (s : Client) (c : Nat) : Onward s (s.proceed c).1 := by
  unfold proceed
  split
  · exact .refl s
  · split
    · dsimp only
      split <;> exact .of_eq rfl rfl rfl rfl
    · simp only [number]
      split <;> exact .of_eq rfl rfl rfl rfl
    · exact .of_eq rfl rfl rfl rfl
    · simp only [enqueue]
      split <;> exact .of_eq rfl rfl rfl rfl
    · simp only [beginWrite]
      split
      · next htake => exact (onward_takeWriter? htake).trans (.of_eq rfl rfl rfl rfl)
      · exact .refl s
    · simp only [endWrite]
      split <;> exact .of_eq rfl rfl rfl rfl
    · exact onward_afterRelease s ..
    · simp only [takeInbox]
      split <;> exact .of_eq rfl rfl rfl rfl
    · simp only [takeInbox]
      split <;> exact .of_eq rfl rfl rfl rfl
    · exact .refl s

theorem onward_endReading (s : Client) (cancelled : Bool) : Onward s (s.endReading cancelled) := by
  let stopped : Client := { s with source := { s.source with running := false } }
  have hmark : Onward stopped (stopped.beginClosing cancelled) := onward_beginClosing stopped _
  exact ⟨hmark.now, hmark.shutdown, .inr (closing_beginClosing_ne _ _), hmark.closing⟩

theorem onward_dispatch (s : Client) (line : List UInt8) : Onward s (s.dispatch line).1 := by
  unfold dispatch
  split
  · exact onward_deliver ..
  · split
    · exact (onward_deliver ..).trans (.of_eq rfl rfl rfl rfl)
    · exact .refl s
  all_goals exact .of_eq rfl rfl rfl rfl

theorem onward_readLine (s : Client) : Onward s s.readLine.1 := by
  unfold readLine
  split
  · split
    · unfold takeLine
      dsimp only
      split
      · exact .of_eq rfl rfl rfl rfl
      · refine .trans ?_ (onward_dispatch _ _)
        exact .of_eq rfl rfl rfl rfl
    · exact .of_eq rfl rfl rfl rfl
    · dsimp only
      split
      · exact onward_endReading s false
      · exact .refl s
  · exact .refl s

/-- **A step that does not tear down goes on at most to the mark that the connection is closed.** -/
theorem onward_step (s : Client) (h : a ≠ .tearDown) : Onward s (s.step a).1 := by
  have hend (p : Prop) [Decidable p] (cancelled : Bool) :
      Onward s (if p then s.endReading cancelled else s) := by
    split
    · exact onward_endReading s cancelled
    · exact .refl s
  cases a with
  | tearDown => exact absurd rfl h
  | proceed c => exact onward_proceed s c
  | readLine => exact onward_readLine s
  | readFails => exact hend _ _
  | stopReading => exact hend _ _
  | readTimeOut => exact hend _ _
  | cancelParent => exact ⟨Nat.le_refl _, fun _ => rfl, .inl rfl, .inl rfl⟩
  | wait time => exact ⟨Nat.le_max_left _ _, fun h => h, .inl rfl, .inl rfl⟩
  | call method params => exact .of_eq rfl rfl rfl rfl
  | cancel c => exact .of_eq rfl rfl rfl rfl
  | write c count =>
    simp only [step]
    split <;> exact .of_eq rfl rfl rfl rfl
  | writeFails c text =>
    simp only [step]
    split <;> exact .of_eq rfl rfl rfl rfl
  | timeOut c =>
    simp only [step, timeOut]
    split
    all_goals try split
    all_goals exact .of_eq rfl rfl rfl rfl
  | giveUp c =>
    simp only [step, giveUp]
    split
    · split <;> exact .of_eq rfl rfl rfl rfl
    · exact .refl s
  | noticeShutdown c =>
    simp only [step, noticeShutdown]
    split
    · split <;> exact .of_eq rfl rfl rfl rfl
    · exact .refl s
  | arrive piece =>
    simp only [step, arrive]
    split <;> exact .of_eq rfl rfl rfl rfl
  | endOfStream =>
    simp only [step, endOfStream]
    split <;> exact .of_eq rfl rfl rfl rfl
  | close =>
    simp only [step, close]
    split
    · exact .refl s
    · exact (onward_beginClosing s false).trans (.of_eq rfl rfl rfl rfl)
  | closerTakes =>
    simp only [step]
    rcases htake : s.takeWriter? .closer with - | t
    · exact .refl s
    · exact onward_takeWriter? htake
  | closerWrites count =>
    simp only [step]
    split <;> exact .of_eq rfl rfl rfl rfl
  | closerEnds =>
    simp only [step]
    split <;> exact .of_eq rfl rfl rfl rfl
  | ping =>
    simp only [step, ping]
    split
    · split <;> exact .of_eq rfl rfl rfl rfl
    · exact .refl s
  | pinged =>
    simp only [step, pinged]
    split
    · split <;> exact .of_eq rfl rfl rfl rfl
    · split
      · exact .of_eq rfl rfl rfl rfl
      · refine .trans ?_ (onward_beginClosing _ false)
        exact .of_eq rfl rfl rfl rfl
      · exact .refl s
    · exact .refl s
  | decay =>
    simp only [step]
    split <;> exact .of_eq rfl rfl rfl rfl

/-! ## Tearing down -/

theorem now_tearDown (s : Client) : s.tearDown.now = s.now := by
  unfold tearDown
  split
  case h_4 =>
    simp only [deliver]
    split <;> rfl
  all_goals rfl

theorem shutdown_tearDown (s : Client) (h : s.shutdown = true) : s.tearDown.shutdown = true := by
  unfold tearDown
  split
  case h_4 => exact (onward_deliver _ _ _).shutdown h
  case h_2 => rfl
  all_goals exact h

theorem closing_tearDown_ne (s : Client) (h : s.closing ≠ .notYet) :
    s.tearDown.closing ≠ .notYet := by
  unfold tearDown
  split <;> simp_all

theorem closing_rank_le_tearDown (s : Client) : s.closing.rank ≤ s.tearDown.closing.rank := by
  unfold tearDown
  split <;> simp_all [Closing.rank]

/-- The end of a connection does not go back. -/
theorem closing_rank_le_step (s : Client) (a : ClientAction) :
    s.closing.rank ≤ (s.step a).1.closing.rank := by
  by_cases ha : a = .tearDown
  · subst ha
    exact closing_rank_le_tearDown s
  · rcases (onward_step s ha).closing with hc | ⟨hc, -⟩
    · exact Nat.le_of_eq (congrArg Closing.rank hc.symm)
    · rw [hc]
      exact Nat.zero_le _

/-- What the pending requests are told is settled when the connection is marked. -/
theorem cancelled?_step {cancelled : Bool} (h : s.closing.cancelled? = some cancelled)
    (a : ClientAction) :
    (s.step a).1.closing.cancelled? = some cancelled ∨ (s.step a).1.closing = .done := by
  by_cases ha : a = .tearDown
  · subst ha
    simp only [Client.step, tearDown]
    split <;> simp_all [Closing.cancelled?]
  · rcases (onward_step s ha).closing with hc | ⟨hc, -⟩
    · exact .inl (hc ▸ h)
    · rw [hc] at h
      cases h

theorem now_le_step (s : Client) (a : ClientAction) : s.now ≤ (s.step a).1.now := by
  by_cases ha : a = .tearDown
  · subst ha
    exact Nat.le_of_eq (now_tearDown s).symm
  · exact (onward_step s ha).now

theorem shutdown_step (s : Client) (a : ClientAction) (h : s.shutdown = true) :
    (s.step a).1.shutdown = true := by
  by_cases ha : a = .tearDown
  · subst ha
    exact shutdown_tearDown s h
  · exact (onward_step s ha).shutdown h

theorem closing_step_ne (s : Client) (a : ClientAction) (h : s.closing ≠ .notYet) :
    (s.step a).1.closing ≠ .notYet := by
  by_cases ha : a = .tearDown
  · subst ha
    exact closing_tearDown_ne s h
  · exact (onward_step s ha).closing_ne h

/-! ## What all states have in common -/

/-- Who waits for the end will see it, and nobody who is listed is forgotten. -/
structure Winding (s : Client) : Prop where
  reading : s.source.running = true ∨ s.closing ≠ .notYet
  parked : ∀ {c : Nat} {call : ClientCall}, s.calls[c]? = some call → call.stage.rank = 7 →
    s.shutdown = true ∨ s.closing ≠ .notYet
  /-- Who is listed and not told any more has listed itself after the requests were counted. -/
  counted : ∀ {ids : List Nat} {id c : Nat}, s.closing.left? = some ids → (id, c) ∈ s.pending →
    id ∈ ids ∨ ∃ call, s.calls[c]? = some call ∧ call.stage.rank = 3

theorem winding_start (settings : ClientSettings) : (start settings).Winding := by
  constructor <;> simp [start, Closing.left?]

/-- On a closed connection a listed call goes on only by leaving the table. -/
theorem Turn.counted (turn : Turn s a t) (h : s.Orderly) (hclosed : s.closing ≠ .notYet)
    {ids : List Nat}
    (hcounted : ∀ {id c : Nat}, (id, c) ∈ s.pending →
      id ∈ ids ∨ ∃ call, s.calls[c]? = some call ∧ call.stage.rank = 3)
    {id d : Nat} (hentry : (id, d) ∈ t.pending) :
    id ∈ ids ∨ ∃ call, t.calls[d]? = some call ∧ call.stage.rank = 3 := by
  have ht : t.Orderly := turn.orderly h
  cases turn with
  | rest same =>
    rw [same.pending] at hentry
    rw [same.calls]
    exact hcounted hentry
  | enter method params calls pending nextId =>
    rw [pending] at hentry
    refine (hcounted hentry).imp_right ?_
    rintro ⟨call, hd, hrank⟩
    refine ⟨call, ?_, hrank⟩
    rw [calls, Client.enter, List.getElem?_append_left (List.getElem?_eq_some_iff.mp hd).1, hd]
  | one c call next here calls turn =>
    have hget := getElem?_calls_set here calls
    by_cases hd : c = d
    · subst hd
      obtain ⟨other, hother, hplace⟩ := ht.listed.mp hentry
      rw [hget, if_pos rfl] at hother
      obtain rfl := Option.some.inj hother
      have hsame (hp : t.pending = s.pending) :
          id ∈ ids ∨ call.stage.rank = 3 := by
        rw [hp] at hentry
        refine (hcounted hentry).imp_right ?_
        rintro ⟨other, hother, hrank⟩
        rwa [Option.some.inj (here.symm.trans hother)]
      rw [hget, if_pos rfl]
      cases turn with
      | cancel pending nextId => exact (hsame pending).imp_right fun hrank => ⟨_, rfl, hrank⟩
      | register id' frame stage pending nextId => exact .inr ⟨_, rfl, rfl⟩
      | move next id' slot onward unfinished unmarked stopped expired pending nextId =>
        exact (hsame pending).imp_right fun hrank => absurd (unmarked hrank) hclosed
      | number frame stage pending nextId =>
        cases (ClientCall.place?_eq_some_iff.mp hplace).1
      | refuse e outside unfinished own pending nextId =>
        cases (ClientCall.place?_eq_some_iff.mp hplace).1
      | leave id' e slot cause pending nextId => cases (ClientCall.place?_eq_some_iff.mp hplace).1
      | answer id' r slot waits inbox pending nextId =>
        cases (ClientCall.place?_eq_some_iff.mp hplace).1
      | deliver id' r told entry pending nextId =>
        cases (ClientCall.place?_eq_some_iff.mp hplace).2
    · obtain ⟨other, hother, hplace⟩ := ht.listed.mp hentry
      rw [hget, if_neg hd] at hother
      rw [hget, if_neg hd]
      exact hcounted (h.listed.mpr ⟨other, hother, hplace⟩)

theorem Turn.parked (turn : Turn s a t) (h : s.Winding)
    (hstopped : s.shutdown = true ∨ s.closing ≠ .notYet → t.shutdown = true ∨ t.closing ≠ .notYet)
    {d : Nat} {other : ClientCall} (hd : t.calls[d]? = some other) (hrank : other.stage.rank = 7) :
    t.shutdown = true ∨ t.closing ≠ .notYet := by
  rcases turn.back hd with hsame | ⟨method, params, rfl⟩ | ⟨before, hbefore, turn⟩
  · exact hstopped (h.parked hsame hrank)
  · cases hrank
  · cases turn with
    | cancel pending nextId => exact hstopped (h.parked hbefore hrank)
    | deliver id r told entry pending nextId => exact hstopped (h.parked hbefore hrank)
    | move next id slot onward unfinished unmarked stopped expired pending nextId =>
      exact stopped hrank
    | _ => cases hrank

theorem deliver_pending_ne (s : Client) (id : Nat) (r : Except ClientError Json)
    {entry : Nat × Nat} (h : entry ∈ (s.deliver id r).pending) : entry.1 ≠ id := by
  unfold deliver at h
  split at h
  · exact ((mem_pending_unregister s id).mp h).2
  · next hnone =>
    exact (bne_iff_ne.mp (List.lookup_eq_none_iff.mp hnone entry h)).symm

/-- **Every step keeps what all states have in common.** -/
theorem Winding.step (h : s.Winding) (ho : s.Orderly) (a : ClientAction) :
    (s.step a).1.Winding := by
  have turn : Turn s a (s.step a).1 := ho.turn a
  have hstopped (hs : s.shutdown = true ∨ s.closing ≠ .notYet) :
      (s.step a).1.shutdown = true ∨ (s.step a).1.closing ≠ .notYet :=
    hs.imp (shutdown_step s a) (closing_step_ne s a)
  by_cases ha : a = .tearDown
  · subst ha
    constructor
    case parked => exact turn.parked h hstopped
    case reading =>
      simp only [Client.step, tearDown]
      split
      · exact h.reading
      all_goals exact .inr (by simp_all)
    case counted =>
      intro ids id c hleft hentry
      rcases hc : s.closing with - | cancelled | cancelled | ⟨cancelled, ids'⟩ | -
      · simp [Client.step, tearDown, hc, Closing.left?] at hleft
      · simp [Client.step, tearDown, hc, Closing.left?] at hleft
      · -- The list is made of all who are listed.
        have hentry : (id, c) ∈ s.pending := by simpa [Client.step, tearDown, hc] using hentry
        have hids : s.pending.map (·.1) = ids := by
          simpa [Client.step, tearDown, hc, Closing.left?] using hleft
        exact .inl (hids ▸ List.mem_map_of_mem hentry)
      · have hcounted := turn.counted ho (by simp [hc]) (h.counted (by rw [hc]; rfl)) hentry
        rcases ids' with - | ⟨first, rest⟩
        · obtain rfl : [] = ids := by simpa [Client.step, tearDown, hc, Closing.left?] using hleft
          exact hcounted
        · -- The first is told and struck off the table.
          obtain rfl : rest = ids := by
            simpa [Client.step, tearDown, hc, Closing.left?] using hleft
          have hne : id ≠ first := by
            simp only [Client.step, tearDown, hc] at hentry
            exact deliver_pending_ne s first _ hentry
          exact hcounted.imp_left fun hmem => (List.mem_cons.mp hmem).resolve_left hne
      · have hcounted := turn.counted ho (by simp [hc]) (h.counted (by rw [hc]; rfl)) hentry
        obtain rfl : [] = ids := by simpa [Client.step, tearDown, hc, Closing.left?] using hleft
        exact hcounted
  · have onward := onward_step s ha
    constructor
    case parked => exact turn.parked h hstopped
    case reading =>
      rcases onward.reading with hr | hr
      · rw [hr]
        exact h.reading.imp_right onward.closing_ne
      · exact .inr hr
    case counted =>
      intro ids id c hleft hentry
      have hsame : (s.step a).1.closing = s.closing := by
        rcases onward.closing with hc | ⟨-, cancelled, hc⟩
        · exact hc
        · rw [hc] at hleft
          cases hleft
      rw [hsame] at hleft
      refine turn.counted ho ?_ (h.counted hleft) hentry
      intro hc
      rw [hc] at hleft
      cases hleft

end Client
end HeaderFollower
