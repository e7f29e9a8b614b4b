/-
# How far a session has come

A session catches up, and then follows the tip. The supervisor looks at the stage that the
synchronizer is left in, which going back changes too. `Node.Session` is a session under way with a
mark for either (`Node.Mark`), and `Node.Ends` is how it ends; other tasks touch the node meanwhile
(`Node.Beside`). `Node.Ends.beyond_eq` says that the stage it leaves is beyond catching up exactly if
the session has followed the tip or gone back.
-/

import HeaderFollower.Node.Request
import HeaderFollower.Node.Session
import HeaderFollower.Node.Start
import HeaderFollower.Proofs.Sync.Outcome
import HeaderFollower.Proofs.Sync.UnderWay

namespace HeaderFollower

/-! ## A session that follows -/

namespace Follow

variable {f : Follow} {s : Synchronizer}

/-! The worker goes on with what it does, whatever is forwarded meanwhile. -/

theorem worker_accept (f : Follow) (notice : TipNotice) : (f.accept notice).worker = f.worker := by
  rw [accept]
  split
  · split
    · exact worker_offer f _
    · rfl
  · rfl

theorem worker_deliver (f : Follow) : f.deliver.worker = f.worker := by
  rw [deliver]
  split
  · exact worker_offer _ _
  · rfl

theorem worker_sinkClosed (f : Follow) : f.sinkClosed.worker = f.worker := by
  rw [sinkClosed]
  split <;> rfl

/-- The tip that is handled has a header of the store's size, and lies above the call. -/
def Ready (f : Follow) (s : Store) : Prop :=
  ∀ call, f.worker = .handling call → call.Ready s ∧ ∃ work, call.At work 0

/-- A worker with no tip in hand is ready. -/
theorem ready_of_worker {t : Store} (h : ∀ call, f.worker ≠ .handling call) : f.Ready t :=
  fun call hcall => absurd hcall (h call)

theorem Ready.of_worker {g : Follow} {t : Store} (h : f.Ready t) (hg : g.worker = f.worker) :
    g.Ready t := fun call hcall => h call (hg ▸ hcall)

theorem Ready.accept (h : f.Ready s.store) (notice : TipNotice) :
    (f.accept notice).Ready s.store := h.of_worker (worker_accept f notice)

theorem Ready.deliver (h : f.Ready s.store) : f.deliver.Ready s.store :=
  h.of_worker (worker_deliver f)

theorem Ready.sinkClosed (h : f.Ready s.store) : f.sinkClosed.Ready s.store :=
  h.of_worker (worker_sinkClosed f)

theorem Ready.subscribed (h : f.Ready s.store) (reply : Except ClientError TipNotice) :
    (f.subscribed reply).Ready s.store := by
  unfold Follow.subscribed
  split
  · exact ready_of_worker fun call h => by cases h
  · refine ready_of_worker fun call h => ?_
    rw [worker_offer] at h
    cases h
  · exact h

/-- The worker goes on with a call that is ready, or with none. -/
theorem ready_advance {work : TipWork} {low : Nat} {p : Progress TipUpdate TipOutcome}
    {t : Synchronizer} (f : Follow) (h : TipUpdate.Outcome s work low (p, t)) :
    (f.advance p).Ready t.store := by
  rcases p with call | r
  · obtain ⟨new, u, -, rfl, hready, hat⟩ := h.of_waiting
    intro call' hcall
    cases hcall
    exact ⟨hready, work, hat.of_le (Nat.zero_le _)⟩
  · refine ready_of_worker fun call hcall => ?_
    rcases r with e | outcome
    · rw [advance] at hcall
      split at hcall <;> cases hcall
    · cases outcome with
      | stale => cases hcall
      | advanced => cases hcall
      | rewound again =>
        rw [advance, worker_offer] at hcall
        cases hcall

/-- Looking for something to do does not return to catching up. -/
theorem Ready.wake (h : f.Ready s.store) (cancelled : Bool) :
    (f.wake s cancelled).1.Ready (f.wake s cancelled).2.store ∧
      (s.phase ≠ .bulkSync → (f.wake s cancelled).2.phase ≠ .bulkSync) := by
  have hover (r : Except SyncError Unit) : (f.conclude r).Ready s.store :=
    ready_of_worker fun call h => by cases h
  rw [Follow.wake]
  split
  · split
    · exact ⟨hover _, id⟩
    · exact ⟨h, id⟩
  · split
    · exact ⟨hover _, id⟩
    · split
      · exact ⟨hover _, id⟩
      · split
        · exact ⟨h, id⟩
        · next work queue _ =>
          have hout := TipUpdate.outcome_beginTip s work
          exact ⟨ready_advance (f.release queue) hout, hout.frame.2⟩
  · exact ⟨h, id⟩

/-- Taking an answer does not either. -/
theorem Ready.answered (h : f.Ready s.store) {call : TipUpdate} (hcall : f.worker = .handling call)
    (answer : call.query.Answer) :
    (f.answered s call answer).1.Ready (f.answered s call answer).2.store ∧
      (s.phase ≠ .bulkSync → (f.answered s call answer).2.phase ≠ .bulkSync) := by
  obtain ⟨hready, work, hat⟩ := h call hcall
  have hout := TipUpdate.outcome_resumeTip hready hat answer
  exact ⟨ready_advance f hout, hout.frame.2⟩

end Follow

/-! ## Stages -/

namespace SessionStage

/-- The session follows the tip. -/
def follows : SessionStage → Bool
  | .following _ => true
  | _ => false

/-- A session that follows is ready, and its synchronizer is beyond catching up. -/
def Ready (stage : SessionStage) (s : Synchronizer) : Prop :=
  match stage with
  | .following f => f.Ready s.store ∧ s.phase ≠ .bulkSync
  | _ => True

theorem ready_ofFollow {f : Follow} {s : Synchronizer} (h : f.Ready s.store)
    (hs : s.phase ≠ .bulkSync) : (ofFollow f).Ready s := by
  rw [ofFollow]
  split
  · trivial
  · exact ⟨h, hs⟩

/-- A catch-up that has not ended well is not followed by anything. -/
theorem follows_afterCatchUp {p : Progress CatchUp Nat} (h : ∀ n, p ≠ .done (.ok n)) (depth : Nat) :
    (afterCatchUp p depth).follows = false := by
  rcases p with call | e | n
  · rfl
  · rfl
  · exact absurd rfl (h n)

theorem ready_of_not_follows {stage : SessionStage} (h : stage.follows = false)
    (s : Synchronizer) : stage.Ready s := by
  cases stage with
  | following f => cases h
  | catchingUp call => trivial
  | ended r => trivial

end SessionStage

namespace Node

variable {n m k : Node} {r : Except NodeError Unit}

/-! ## What other tasks do -/

/-- Other tasks leave the stored headers, the stage of the synchronizer and the session alone, and a
node that is stopped stays so. -/
structure Beside (n m : Node) : Prop where
  sync_eq : m.sync = { n.sync with events := m.sync.events }
  synchronized_eq : m.synchronized = n.synchronized
  session_eq : m.session = n.session
  stopped : n.stopped = true → m.stopped = true

namespace Beside

theorem refl (n : Node) : n.Beside n := ⟨rfl, rfl, rfl, id⟩

theorem trans (h : n.Beside m) (h' : m.Beside k) : n.Beside k where
  sync_eq := by rw [h'.sync_eq, h.sync_eq]
  synchronized_eq := h'.synchronized_eq.trans h.synchronized_eq
  session_eq := h'.session_eq.trans h.session_eq
  stopped := h'.stopped ∘ h.stopped

theorem phase_eq (h : n.Beside m) : m.sync.phase = n.sync.phase := by rw [h.sync_eq]

theorem store_eq (h : n.Beside m) : m.sync.store = n.sync.store := by rw [h.sync_eq]

end Beside

theorem beside_disconnect (n : Node) : n.Beside n.disconnect := ⟨rfl, rfl, rfl, id⟩

theorem beside_stop (n : Node) : n.Beside n.stop := ⟨rfl, rfl, rfl, fun _ => rfl⟩

theorem beside_lose (n : Node) : n.Beside n.lose := ⟨rfl, rfl, rfl, id⟩

theorem beside_withEvents (n : Node) (events : ChainEvents) : n.Beside (n.withEvents events) :=
  ⟨rfl, rfl, rfl, id⟩

/-- A request of a caller is such a task. -/
theorem beside_request {α : Type} {call : ServerCall α} {said : List Exchange}
    {result : Except NodeError α} (h : (n.request call).Leads said (result, m)) : n.Beside m := by
  rw [request] at h
  split at h
  · cases h
    exact .refl _
  · obtain ⟨⟨answer, c⟩, -, behind, -, -, h⟩ := Dialogue.leads_bind_iff.1 h
    cases h
    exact ⟨rfl, rfl, rfl, id⟩

/-- A start changes no more than other tasks do. -/
theorem beside_start {said : List Exchange} (h : n.start.Leads said (r, m)) : n.Beside m := by
  rw [start] at h
  split at h
  · cases h
    exact .refl _
  · cases h with
    | @dial _ _ outcome said _ h =>
    cases outcome with
    | error e =>
      cases h
      exact beside_disconnect n
    | ok =>
      obtain ⟨⟨checked, c⟩, -, behind, -, -, h⟩ := Dialogue.leads_bind_iff.1 h
      cases checked with
      | error e =>
        cases h
        exact beside_disconnect n
      | ok =>
        obtain ⟨⟨result, c⟩, -, behind, -, -, h⟩ := Dialogue.leads_bind_iff.1 h
        cases h
        exact ⟨rfl, rfl, rfl, id⟩

/-! ## A session under way -/

/-- The session follows the tip. -/
def follows (n : Node) : Bool := n.session.any (·.follows)

/-- The last session has got the synchronizer beyond catching up, as the supervisor sees it. -/
def beyond (n : Node) : Bool := n.phase?.any (· ≠ .bulkSync)

theorem beyond_iff (h : n.synchronized = true) : n.beyond = true ↔ n.sync.phase ≠ .bulkSync := by
  rw [beyond, phase?, if_pos h]
  exact decide_eq_true_iff

theorem Beside.beyond_eq (h : n.Beside m) : m.beyond = n.beyond := by
  rw [beyond, phase?, h.synchronized_eq, h.phase_eq]
  rfl

/-- What happens makes the session's catch-up go back. -/
def GoesBack (n : Node) (input : SessionInput) : Prop :=
  ∃ (call : CatchUp) (answer : call.query.Answer), n.session = some (.catchingUp call) ∧
    input = .answer call.query answer ∧ call.GoesBack n.sync answer

theorem not_goesBack {input : SessionInput}
    (h : ∀ (query : Query) (answer : query.Answer), input ≠ .answer query answer) :
    ¬ n.GoesBack input := by
  rintro ⟨call, answer, -, hanswer, -⟩
  exact h _ _ hanswer

/-- Something happens to the session; `back` tells whether its catch-up goes back. -/
def Moves (n : Node) (back : Bool) (result? : Option (Except NodeError Unit)) (m : Node) : Prop :=
  ∃ input, (back = true ↔ n.GoesBack input) ∧ n.step input = (result?, m)

/-- What is remembered of a session. -/
structure Mark where
  /-- It has caught up, and has followed the tip. -/
  followed : Bool
  /-- Its catch-up has gone back. -/
  wentBack : Bool
  deriving DecidableEq, Repr

namespace Mark

/-- A session that has just begun. -/
def fresh : Mark := ⟨false, false⟩

/-- The mark after a move to the node `n`. -/
def after (mark : Mark) (back : Bool) (n : Node) : Mark :=
  ⟨mark.followed || n.follows, mark.wentBack || back⟩

/-- The session has followed the tip or gone back. -/
def passed (mark : Mark) : Bool := mark.followed || mark.wentBack

theorem passed_after (mark : Mark) (back : Bool) (n : Node) :
    (mark.after back n).passed = true ↔ mark.passed = true ∨ back = true ∨ n.follows = true := by
  simp only [passed, after, Bool.or_eq_true]
  tauto

end Mark

/-- A session that the node `n` begins is under way on the node, with a mark. -/
inductive Session (n : Node) : Mark → Node → Prop where
  | begun {m : Node} (h : n.run = (none, m)) : Session n .fresh m
  | beside {mark : Mark} {m k : Node} (h : Session n mark m) (other : m.Beside k) :
      Session n mark k
  | moves {mark : Mark} {back : Bool} {m k : Node} (h : Session n mark m)
      (move : m.Moves back none k) : Session n (mark.after back k) k

/-- A session can begin. -/
def CanRun (n : Node) : Prop :=
  n.session = none ∧ n.client?.isSome = true ∧ n.tipsWaiting = true

/-- The session that the node `n` is to begin comes to its end; it has no mark if it cannot begin. -/
inductive Ends (n : Node) : Except NodeError Unit → Option Mark → Node → Prop where
  | missed {r : Except NodeError Unit} {m : Node} (cannot : ¬ n.CanRun)
      (h : n.run = (some r, m)) : Ends n r none m
  | atOnce {r : Except NodeError Unit} {m : Node} (can : n.CanRun) (h : n.run = (some r, m)) :
      Ends n r (some .fresh) m
  | later {mark : Mark} {back : Bool} {r : Except NodeError Unit} {m k : Node}
      (h : Session n mark m) (move : m.Moves back (some r) k) :
      Ends n r (some (mark.after back k)) k

/-- What holds of a session under way. -/
structure Open (n : Node) (mark : Mark) : Prop where
  synchronized : n.synchronized = true
  stage : ∃ stage, n.session = some stage ∧ stage.Ready n.sync
  beyond_iff : n.sync.phase ≠ .bulkSync ↔ mark.passed = true

/-! ## One step of a session -/

/-- A step that leads to the stage and the synchronizer `out` gets beyond catching up if it ends the
catch-up or goes back, and cannot return. -/
def GetsTo (n : Node) (back : Bool) (out : SessionStage × Synchronizer) : Prop :=
  out.1.Ready out.2 ∧ (out.2.phase ≠ .bulkSync ↔
    n.sync.phase ≠ .bulkSync ∨ back = true ∨ out.1.follows = true)

variable {input : SessionInput} {back : Bool} {stage : SessionStage} {s : Synchronizer}

theorem getsTo_of_stays (hstage : stage.follows = false) (hback : ¬ back = true)
    (hphase : s.phase = n.sync.phase) : n.GetsTo back (stage, s) := by
  refine ⟨SessionStage.ready_of_not_follows hstage s, ?_⟩
  simp only [hphase, hback, hstage, Bool.false_eq_true, or_false]

theorem getsTo_of_follows {f : Follow} (hbeyond : n.sync.phase ≠ .bulkSync)
    (hf : f.Ready s.store) (hs : s.phase ≠ .bulkSync) : n.GetsTo back (.ofFollow f, s) :=
  ⟨SessionStage.ready_ofFollow hf hs, fun _ => .inl hbeyond, fun _ => hs⟩

/-- What the catch-up waits for is answered. -/
theorem getsTo_resumeCatchUp {call : CatchUp} {answer : call.query.Answer}
    (hback : back = true ↔ call.GoesBack n.sync answer) :
    n.GetsTo back (.afterCatchUp (n.sync.resumeCatchUp call answer).1
      (n.sync.resumeCatchUp call answer).2.settings.queueDepth,
        (n.sync.resumeCatchUp call answer).2) := by
  have hout := CatchUp.outcome_resumeCatchUp n.sync call answer
  generalize n.sync.resumeCatchUp call answer = out at hout
  cases hout with
  | @on p t stays result phase synced =>
    exact getsTo_of_stays (SessionStage.follows_afterCatchUp result _) (mt hback.1 stays) phase
  | @ended count t phase synced =>
    have hbeyond : t.phase ≠ .bulkSync := by
      rw [phase]
      decide
    have hidle : (Follow.start t.settings.queueDepth).Ready t.store :=
      Follow.ready_of_worker fun call h => by cases h
    exact ⟨⟨hidle, hbeyond⟩, fun _ => .inr (.inr rfl), fun _ => hbeyond⟩
  | @back p t goesBack result phase synced =>
    have hbeyond : t.phase ≠ .bulkSync := by
      rcases phase with h | h
      · rw [h]
        decide
      · rw [h]
        decide
    refine ⟨SessionStage.ready_of_not_follows (SessionStage.follows_afterCatchUp result _) t, ?_⟩
    exact ⟨fun _ => .inr (.inl (hback.2 goesBack)), fun _ => hbeyond⟩

/-- Something happens to a session that catches up. -/
theorem advance_catchingUp {call : CatchUp} (hsession : n.session = some (.catchingUp call))
    (hback : back = true ↔ n.GoesBack input) :
    n.GetsTo back (n.advance (.catchingUp call) input) := by
  have hcall {call' : CatchUp} (h : n.session = some (.catchingUp call')) : call' = call :=
    (SessionStage.catchingUp.inj (Option.some.inj (hsession.symm.trans h))).symm
  have hstays {stage : SessionStage} (hstage : stage.follows = false)
      (hnot : ∀ (query : Query) (answer : query.Answer), input ≠ .answer query answer) :
      n.GetsTo back (stage, n.sync) :=
    getsTo_of_stays hstage (mt hback.1 (not_goesBack hnot)) rfl
  cases input with
  | answer query answer =>
    by_cases hquery : query = call.query
    · subst hquery
      have hgoes : back = true ↔ call.GoesBack n.sync answer := by
        refine hback.trans ⟨?_, fun h => ⟨call, answer, hsession, rfl, h⟩⟩
        rintro ⟨call', answer', hsession', hanswer, h⟩
        obtain rfl := hcall hsession'
        obtain ⟨-, hanswer⟩ := SessionInput.answer.inj hanswer
        exact eq_of_heq hanswer ▸ h
      simp only [advance, dif_pos]
      exact getsTo_resumeCatchUp hgoes
    · rw [advance, dif_neg hquery]
      refine getsTo_of_stays rfl (mt hback.1 ?_) rfl
      rintro ⟨call', answer', hsession', hanswer, -⟩
      obtain rfl := hcall hsession'
      exact hquery (SessionInput.answer.inj hanswer).1
  | wake =>
    have hstage : (if n.stopped then .ended (.ok ()) else .catchingUp call :
        SessionStage).follows = false := by
      split <;> rfl
    exact hstays hstage fun _ _ h => by cases h
  | subscribed reply => exact hstays rfl fun _ _ h => by cases h
  | pushed notice => exact hstays rfl fun _ _ h => by cases h
  | deliver => exact hstays rfl fun _ _ h => by cases h
  | noMoreTips => exact hstays rfl fun _ _ h => by cases h

/-- Something happens to a session that follows: beyond catching up it stays beyond. -/
theorem advance_following {f : Follow} (hf : f.Ready n.sync.store)
    (hbeyond : n.sync.phase ≠ .bulkSync) (input : SessionInput) (back : Bool) :
    n.GetsTo back (n.advance (.following f) input) := by
  have hsame : n.GetsTo back (.following f, n.sync) :=
    ⟨⟨hf, hbeyond⟩, fun _ => .inl hbeyond, fun _ => hbeyond⟩
  cases input with
  | answer query answer =>
    simp only [advance]
    split
    · next call hcall =>
      by_cases hquery : query = call.query
      · subst hquery
        obtain ⟨hg, hs⟩ := hf.answered hcall answer
        simp only [dif_pos]
        exact getsTo_of_follows hbeyond hg (hs hbeyond)
      · rw [dif_neg hquery]
        exact hsame
    · exact hsame
  | subscribed reply => exact getsTo_of_follows hbeyond (hf.subscribed reply) hbeyond
  | pushed notice => exact getsTo_of_follows hbeyond (hf.accept notice) hbeyond
  | deliver => exact getsTo_of_follows hbeyond hf.deliver hbeyond
  | noMoreTips => exact getsTo_of_follows hbeyond hf.sinkClosed hbeyond
  | wake =>
    obtain ⟨hg, hs⟩ := hf.wake n.stopped
    exact getsTo_of_follows hbeyond hg (hs hbeyond)

/-- **A step gets beyond catching up if it ends the catch-up or goes back.** -/
theorem advance_outcome (hsession : n.session = some stage) (hready : stage.Ready n.sync)
    (hback : back = true ↔ n.GoesBack input) : n.GetsTo back (n.advance stage input) := by
  cases stage with
  | catchingUp call => exact advance_catchingUp hsession hback
  | following f => exact advance_following hready.1 hready.2 input back
  | ended result =>
    have hsame : n.advance (.ended result) input = (.ended result, n.sync) := by
      cases input <;> rfl
    rw [hsame]
    refine getsTo_of_stays rfl (mt hback.1 ?_) rfl
    rintro ⟨call, -, hcall, -⟩
    cases hsession.symm.trans hcall

/-- Closing a session that has ended leaves what it has come to. -/
theorem conclude_outcome {result? : Option (Except NodeError Unit)}
    (hsession : n.session = some stage) (h : n.conclude = (result?, m)) :
    m.sync = n.sync ∧ m.synchronized = n.synchronized ∧ m.follows = stage.follows ∧
      (result? = none → m.session = some stage) := by
  unfold conclude at h
  split at h
  · next result hended =>
    obtain rfl := Option.some.inj (hsession.symm.trans hended)
    obtain ⟨rfl, rfl⟩ := Prod.mk.inj h
    exact ⟨rfl, rfl, rfl, fun h => by cases h⟩
  · obtain ⟨rfl, rfl⟩ := Prod.mk.inj h
    refine ⟨rfl, rfl, ?_, fun _ => hsession⟩
    rw [follows, hsession]
    rfl

/-- A session that something happens to stays open, or ends and leaves its stage behind. -/
theorem Open.moves {mark : Mark} {result? : Option (Except NodeError Unit)}
    (h : n.Open mark) (move : n.Moves back result? m) :
    m.synchronized = true ∧ (m.sync.phase ≠ .bulkSync ↔ (mark.after back m).passed = true) ∧
      (result? = none → m.Open (mark.after back m)) := by
  obtain ⟨stage, hsession, hready⟩ := h.stage
  obtain ⟨input, hback, hstep⟩ := move
  obtain ⟨hnext, hphase⟩ := advance_outcome hsession hready hback
  rw [step, hsession] at hstep
  obtain ⟨hsync, hsynchronized, hfollows, hover⟩ := conclude_outcome rfl hstep
  have hsynchronized : m.synchronized = true := hsynchronized.trans h.synchronized
  have hpassed : m.sync.phase ≠ .bulkSync ↔ (mark.after back m).passed = true := by
    rw [Mark.passed_after, hsync, hfollows, ← h.beyond_iff]
    exact hphase
  refine ⟨hsynchronized, hpassed, fun hnone => ⟨hsynchronized, ⟨_, hover hnone, ?_⟩, hpassed⟩⟩
  rw [hsync]
  exact hnext

/-- A session that cannot begin ends at once. -/
theorem run_of_not_canRun {result? : Option (Except NodeError Unit)} (hcan : ¬ n.CanRun)
    (h : n.run = (result?, m)) : n.Beside m ∧ result? ≠ none := by
  rw [run] at h
  split at h
  · obtain ⟨rfl, rfl⟩ := Prod.mk.inj h
    exact ⟨.refl n, fun h => by cases h⟩
  · next hsession =>
    split at h
    · obtain ⟨rfl, rfl⟩ := Prod.mk.inj h
      exact ⟨beside_disconnect n, fun h => by cases h⟩
    · next hconnected =>
      refine absurd ?_ hcan
      simp only [not_or, Bool.not_eq_true, Option.isNone_eq_false_iff, Bool.not_eq_false]
        at hconnected
      exact ⟨Option.not_isSome_iff_eq_none.1 hsession, hconnected⟩

/-- A session that can begin does so with catching up. -/
theorem CanRun.run_eq (hcan : n.CanRun) :
    n.run = conclude { n with
      sync := ({ n.sync with phase := .bulkSync } : Synchronizer).beginCatchUp.2
      synchronized := true
      tipsWaiting := false
      session := some (.afterCatchUp
        ({ n.sync with phase := .bulkSync } : Synchronizer).beginCatchUp.1
        ({ n.sync with phase := .bulkSync } : Synchronizer).beginCatchUp.2.settings.queueDepth) } := by
  obtain ⟨hsession, hclient, htips⟩ := hcan
  have hconnected : ¬ (n.client?.isNone = true ∨ ¬ n.tipsWaiting = true) := by
    rintro (hnone | hnot)
    · rw [Option.isNone_iff_eq_none.1 hnone] at hclient
      cases hclient
    · exact hnot htips
  have hfree : ¬ n.session.isSome = true := by
    rw [hsession]
    exact Bool.false_ne_true
  rw [run, if_neg hfree, if_neg hconnected]

theorem run_of_canRun {result? : Option (Except NodeError Unit)} (hcan : n.CanRun)
    (h : n.run = (result?, m)) :
    m.synchronized = true ∧ m.sync.phase = .bulkSync ∧ (result? = none → m.Open .fresh) := by
  obtain ⟨hresult, hphase, -⟩ :=
    CatchUp.outcome_beginCatchUp { n.sync with phase := .bulkSync }
  rw [hcan.run_eq] at h
  obtain ⟨hsync, hsynchronized, -, hover⟩ := conclude_outcome rfl h
  have hphase : m.sync.phase = .bulkSync := by rw [hsync, hphase]
  refine ⟨hsynchronized, hphase, fun hnone => ⟨hsynchronized, ⟨_, hover hnone, ?_⟩, ?_⟩⟩
  · exact SessionStage.ready_of_not_follows (SessionStage.follows_afterCatchUp hresult _) _
  · rw [hphase]
    decide

/-- Other tasks leave a session open. -/
theorem Open.beside {mark : Mark} (h : n.Open mark) (other : n.Beside m) : m.Open mark := by
  obtain ⟨stage, hsession, hready⟩ := h.stage
  refine ⟨other.synchronized_eq.trans h.synchronized,
    ⟨stage, other.session_eq.trans hsession, ?_⟩, ?_⟩
  · cases stage with
    | following f => exact ⟨other.store_eq ▸ hready.1, other.phase_eq ▸ hready.2⟩
    | catchingUp call => trivial
    | ended result => trivial
  · rw [other.phase_eq]
    exact h.beyond_iff

/-- A session under way is beyond catching up exactly if it has followed the tip or gone back. -/
theorem Session.isOpen {mark : Mark} (h : n.Session mark m) : m.Open mark := by
  induction h with
  | @begun m h =>
    by_cases hcan : n.CanRun
    · exact (run_of_canRun hcan h).2.2 rfl
    · exact absurd rfl (run_of_not_canRun hcan h).2
  | beside h other ih => exact ih.beside other
  | moves h move ih => exact (ih.moves move).2.2 rfl

/-- **The stage that a session leaves is beyond catching up exactly if the session has followed the
tip or gone back.** A session that cannot begin leaves the stage of the one before it. -/
theorem Ends.beyond_eq {mark? : Option Mark} (h : n.Ends r mark? m) :
    m.beyond = mark?.elim n.beyond Mark.passed := by
  cases h with
  | missed cannot h => exact (run_of_not_canRun cannot h).1.beyond_eq
  | atOnce can h =>
    obtain ⟨hsynchronized, hphase, -⟩ := run_of_canRun can h
    rw [Bool.eq_iff_iff, beyond_iff hsynchronized, hphase]
    exact ⟨fun h => absurd rfl h, fun h => by cases h⟩
  | later h move =>
    obtain ⟨hsynchronized, hpassed, -⟩ := h.isOpen.moves move
    rw [Bool.eq_iff_iff, beyond_iff hsynchronized]
    exact hpassed

/-- Every input is a move. -/
theorem exists_moves (n : Node) (input : SessionInput) :
    ∃ back, n.Moves back (n.step input).1 (n.step input).2 := by
  by_cases hback : n.GoesBack input
  · exact ⟨true, input, ⟨fun _ => hback, fun _ => rfl⟩, rfl⟩
  · exact ⟨false, input, ⟨fun h => (by cases h), fun h => absurd h hback⟩, rfl⟩

/-- A session to which one thing after the other happens comes to such an end. -/
theorem Session.ends_of_stepAll {mark : Mark} {inputs : List SessionInput} (h : n.Session mark m)
    (hsteps : m.stepAll inputs = (some r, k)) : ∃ mark, n.Ends r (some mark) k := by
  induction inputs generalizing mark m with
  | nil => cases hsteps
  | cons input rest ih =>
    obtain ⟨back, hmove⟩ := m.exists_moves input
    rw [stepAll] at hsteps
    rcases hout : m.step input with ⟨_ | r', k'⟩
    · rw [hout] at hsteps hmove
      exact ih (h.moves hmove) hsteps
    · rw [hout] at hsteps hmove
      obtain ⟨hr, rfl⟩ := Prod.mk.inj hsteps
      obtain rfl := Option.some.inj hr
      exact ⟨_, .later h hmove⟩

/-! ## Answers to a catch-up -/

section

variable {call call' : CatchUp} {answer : call.query.Answer} {mark : Mark} {sync : Synchronizer}

theorem step_catchingUp (hsession : n.session = some (.catchingUp call))
    (answer : call.query.Answer) :
    n.step (.answer call.query answer) =
      conclude { n with
        sync := (n.sync.resumeCatchUp call answer).2
        session := some (.afterCatchUp (n.sync.resumeCatchUp call answer).1
          (n.sync.resumeCatchUp call answer).2.settings.queueDepth) } := by
  rw [step, hsession]
  simp only [advance, dif_pos]

/-- A catch-up that goes on waiting keeps its session under way. -/
theorem Session.of_waiting (h : n.Session mark m) (hmark : mark.followed = false)
    (hsession : m.session = some (.catchingUp call))
    (hresume : m.sync.resumeCatchUp call answer = (.waiting call', sync)) :
    ∃ mark : Mark, mark.followed = false ∧
      n.Session mark { m with sync, session := some (.catchingUp call') } := by
  have hstep : m.step (.answer call.query answer) =
      (none, { m with sync, session := some (.catchingUp call') }) := by
    rw [step_catchingUp hsession, hresume]
    rfl
  obtain ⟨back, hmove⟩ := m.exists_moves (.answer call.query answer)
  rw [hstep] at hmove
  refine ⟨_, ?_, h.moves hmove⟩
  rw [Mark.after, hmark]
  rfl

/-- A catch-up that fails ends its session. -/
theorem Session.of_failed (h : n.Session mark m) (hmark : mark.followed = false)
    (hsession : m.session = some (.catchingUp call)) {e : SyncError}
    (hresume : m.sync.resumeCatchUp call answer = (.done (.error e), sync)) :
    ∃ mark : Mark, mark.followed = false ∧ n.Ends (m.sessionResult (.error e)) (some mark)
      { ({ m with sync } : Node).disconnect with session := none } := by
  have hstep : m.step (.answer call.query answer) =
      (some (m.sessionResult (.error e)),
        { ({ m with sync } : Node).disconnect with session := none }) := by
    rw [step_catchingUp hsession, hresume]
    rfl
  obtain ⟨back, hmove⟩ := m.exists_moves (.answer call.query answer)
  rw [hstep] at hmove
  refine ⟨_, ?_, .later h hmove⟩
  rw [Mark.after, hmark]
  rfl

end

end Node
end HeaderFollower
