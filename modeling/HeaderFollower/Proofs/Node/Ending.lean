/-
# How sessions end

A session passes through a catch-up, a subscription and the handling of tips, and each of them can
end it. `SessionStage.Sane` is what each step keeps: a stage ends well only on an order to stop. So
`Node.session_ends` says that a session ends well exactly if the node has been stopped, that an
error of a tip ends it only if the error is fatal, and that however it has ended the node is as free
as before it (`Node.Released`): it has no connection, and can be started and run again until it is
stopped.
-/

import HeaderFollower.Proofs.Node.FailedStart
import HeaderFollower.Proofs.Node.Gate
import HeaderFollower.Proofs.Sync.CatchUp

namespace HeaderFollower

/-! ## A session that follows -/

namespace Follow

variable {f : Follow} {s : Synchronizer} {r : Except SyncError Unit}

/-- A tip ends the session only with an error, and only if the error is fatal. -/
theorem of_worker_advance {p : Progress TipUpdate TipOutcome}
    (h : (f.advance p).worker = .ended r) :
    ∃ e, p = .done (.error e) ∧ e.fatal = true ∧ r = .error e := by
  rcases p with call | e | outcome
  · cases h
  · rw [advance] at h
    split at h
    · next hfatal =>
      cases h
      exact ⟨e, rfl, hfatal, rfl⟩
    · cases h
  · cases outcome with
    | stale => cases h
    | advanced => cases h
    | rewound again =>
      rw [advance, worker_offer] at h
      cases h

/-- Looking for something to do ends the session well only on an order to stop. -/
theorem cancelled_of_wake {cancelled : Bool} (hgoes : f.worker ≠ .ended (.ok ()))
    (h : (f.wake s cancelled).1.worker = .ended (.ok ())) : cancelled = true := by
  rw [wake] at h
  split at h
  · split at h
    · assumption
    · exact absurd h hgoes
  · split at h
    · assumption
    · split at h
      · cases h
      · split at h
        · exact absurd h hgoes
        · obtain ⟨e, -, -, hr⟩ := of_worker_advance h
          cases hr
  · exact absurd h hgoes

theorem subscribed_ne_ok (hgoes : f.worker ≠ .ended (.ok ()))
    (reply : Except ClientError TipNotice) : (f.subscribed reply).worker ≠ .ended (.ok ()) := by
  unfold subscribed
  split
  · intro h
    cases h
  · rw [worker_offer]
    intro h
    cases h
  · exact hgoes

end Follow

/-! ## Stages -/

namespace SessionStage

/-- The stage is that of a session that is under way, or has ended; it has ended well only on an
order to stop. -/
def Sane (stopped : Bool) : SessionStage → Prop
  | .catchingUp _ => True
  | .following f => ∀ r, f.worker ≠ .ended r
  | .ended (.error _) => True
  | .ended (.ok ()) => stopped = true

variable {stopped : Bool}

theorem sane_ofFollow {f : Follow} (h : f.worker = .ended (.ok ()) → stopped = true) :
    (ofFollow f).Sane stopped := by
  rw [ofFollow]
  split
  · next r hended =>
    cases r with
    | error e => trivial
    | ok => exact h hended
  · next hgoes => exact hgoes

theorem sane_afterCatchUp (p : Progress CatchUp Nat) (depth : Nat) :
    (afterCatchUp p depth).Sane stopped := by
  rcases p with call | e | n
  · trivial
  · trivial
  · intro r h
    cases h

end SessionStage

namespace Node

variable {n m k : Node} {stage : SessionStage} {input : SessionInput} {r : Except NodeError Unit}
  {result? : Option (Except NodeError Unit)} {mark : Mark} {mark? : Option Mark} {e : SyncError}

/-- **Each step keeps a stage sane.** -/
theorem sane_advance (h : stage.Sane n.stopped) (input : SessionInput) :
    (n.advance stage input).1.Sane n.stopped := by
  cases stage with
  | ended result =>
    have hsame : n.advance (.ended result) input = (.ended result, n.sync) := by
      cases input <;> rfl
    rw [hsame]
    exact h
  | catchingUp call =>
    cases input with
    | answer query answer =>
      rw [advance]
      split
      · exact SessionStage.sane_afterCatchUp _ _
      · exact h
    | wake =>
      rw [advance]
      cases hstopped : n.stopped with
      | true => exact rfl
      | false => trivial
    | subscribed reply => exact h
    | pushed notice => exact h
    | deliver => exact h
    | noMoreTips => exact h
  | following f =>
    have hkeeps {g : Follow} (hg : g.worker = f.worker) :
        (SessionStage.ofFollow g).Sane n.stopped :=
      SessionStage.sane_ofFollow fun hended => absurd (hg.symm.trans hended) (h _)
    cases input with
    | answer query answer =>
      rw [advance]
      split
      · next call _ =>
        split
        · refine SessionStage.sane_ofFollow fun hended => ?_
          obtain ⟨e, -, -, hr⟩ := Follow.of_worker_advance hended
          cases hr
        · exact h
      · exact h
    | subscribed reply =>
      exact SessionStage.sane_ofFollow fun hended =>
        absurd hended (Follow.subscribed_ne_ok (h _) reply)
    | pushed notice => exact hkeeps (Follow.worker_accept f notice)
    | deliver => exact hkeeps (Follow.worker_deliver f)
    | noMoreTips => exact hkeeps (Follow.worker_sinkClosed f)
    | wake =>
      exact SessionStage.sane_ofFollow fun hended => Follow.cancelled_of_wake (h _) hended

/-! ## The end of a session -/

/-- A session is under way on the node. -/
def Running (n : Node) : Prop :=
  ∃ stage, n.session = some stage ∧ stage.Sane n.stopped ∧ ∀ result, stage ≠ .ended result

/-- A session has ended with the result `r`, and the node is `m` after it. -/
structure Finished (r : Except NodeError Unit) (m : Node) : Prop where
  connection_eq : m.connection = none
  session_eq : m.session = none
  result : r = .ok () ∧ m.stopped = true ∨ (∃ e, r = .error (.sync e)) ∧ m.stopped = false

theorem Finished.eq_ok_iff (h : Finished r m) : r = .ok () ↔ m.stopped = true := by
  constructor
  · rintro rfl
    rcases h.result with ⟨-, hstopped⟩ | ⟨⟨e, he⟩, -⟩
    · exact hstopped
    · cases he
  · intro hstopped
    rcases h.result with ⟨hok, -⟩ | ⟨-, hgoes⟩
    · exact hok
    · cases hstopped.symm.trans hgoes

theorem Finished.ne_alreadyRunning (h : Finished r m) : r ≠ .error .alreadyRunning := by
  rintro rfl
  rcases h.result with ⟨hok, -⟩ | ⟨⟨e, he⟩, -⟩
  · cases hok
  · cases he

/-- A sane stage is that of a session under way, or ends the session. -/
theorem conclude_of_sane (hsession : n.session = some stage) (hsane : stage.Sane n.stopped)
    (h : n.conclude = (result?, m)) :
    result? = none ∧ m.Running ∨ ∃ r, result? = some r ∧ Finished r m := by
  rw [conclude, hsession] at h
  cases stage with
  | catchingUp call =>
    obtain ⟨rfl, rfl⟩ := Prod.mk.inj h
    exact .inl ⟨rfl, _, hsession, hsane, fun _ h => by cases h⟩
  | following f =>
    obtain ⟨rfl, rfl⟩ := Prod.mk.inj h
    exact .inl ⟨rfl, _, hsession, hsane, fun _ h => by cases h⟩
  | ended result =>
    obtain ⟨rfl, rfl⟩ := Prod.mk.inj h
    refine .inr ⟨_, rfl, rfl, rfl, ?_⟩
    cases result with
    | ok => exact .inl ⟨rfl, hsane⟩
    | error e =>
      rw [sessionResult]
      cases hstopped : n.stopped with
      | true => exact .inl ⟨rfl, hstopped⟩
      | false => exact .inr ⟨⟨e, rfl⟩, hstopped⟩

theorem Running.beside (h : n.Running) (other : n.Beside m) : m.Running := by
  obtain ⟨stage, hsession, hsane, hgoes⟩ := h
  refine ⟨stage, other.session_eq.trans hsession, ?_, hgoes⟩
  cases stage with
  | catchingUp call => trivial
  | following f => exact hsane
  | ended result => exact absurd rfl (hgoes result)

/-- **Whatever happens, a session stays under way or ends.** -/
theorem Running.step (h : n.Running) (hstep : n.step input = (result?, m)) :
    result? = none ∧ m.Running ∨ ∃ r, result? = some r ∧ Finished r m := by
  obtain ⟨stage, hsession, hsane, -⟩ := h
  rw [Node.step, hsession] at hstep
  exact conclude_of_sane (n := { n with
    sync := (n.advance stage input).2
    session := some (n.advance stage input).1 }) rfl (sane_advance hsane input) hstep

theorem CanRun.running (hcan : n.CanRun) (h : n.run = (result?, m)) :
    result? = none ∧ m.Running ∨ ∃ r, result? = some r ∧ Finished r m := by
  rw [hcan.run_eq] at h
  exact conclude_of_sane rfl (SessionStage.sane_afterCatchUp _ _) h

/-- A session that begins finds no other one. -/
theorem Session.canRun (h : n.Session mark m) : n.CanRun := by
  induction h with
  | begun h => exact not_not.1 fun hcan => (run_of_not_canRun hcan h).2 rfl
  | beside h other ih => exact ih
  | moves h move ih => exact ih

theorem Ends.canRun (h : n.Ends r (some mark) m) : n.CanRun := by
  cases h with
  | atOnce can h => exact can
  | later h move => exact h.canRun

theorem Session.running (h : n.Session mark m) : m.Running := by
  have hgoes {result? : Option (Except NodeError Unit)} {m : Node} (hnone : result? = none)
      (h : result? = none ∧ m.Running ∨ ∃ r, result? = some r ∧ Finished r m) : m.Running := by
    rcases h with ⟨-, hrunning⟩ | ⟨r, hsome, -⟩
    · exact hrunning
    · cases hnone.symm.trans hsome
  induction h with
  | begun h => exact hgoes rfl ((Session.begun h).canRun.running h)
  | beside h other ih => exact ih.beside other
  | moves h move ih =>
    obtain ⟨input, -, hstep⟩ := move
    exact hgoes rfl (ih.step hstep)

/-- A session that has begun ends well exactly if the node has been stopped. -/
theorem Ends.finished (h : n.Ends r (some mark) m) : Finished r m := by
  have hends {m : Node} (h : some r = none ∧ m.Running ∨ ∃ r', some r = some r' ∧ Finished r' m) :
      Finished r m := by
    rcases h with ⟨hnone, -⟩ | ⟨r', hsome, hfinished⟩
    · cases hnone
    · exact Option.some.inj hsome ▸ hfinished
  cases h with
  | atOnce can h => exact hends (can.running h)
  | later h move =>
    obtain ⟨input, -, hstep⟩ := move
    exact hends (h.running.step hstep)

/-- A session that cannot begin ends because another one is under way, or for want of a
connection. -/
theorem Ends.missed_cases (h : n.Ends r none m) :
    r = .error .alreadyRunning ∧ n.session.isSome = true ∧ m = n ∨
      r = .error .notConnected ∧ n.session = none ∧ m = n.disconnect := by
  cases h with
  | missed cannot h =>
    rw [run] at h
    split at h
    · next hbusy =>
      obtain ⟨hr, rfl⟩ := Prod.mk.inj h
      exact .inl ⟨(Option.some.inj hr).symm, hbusy, rfl⟩
    next hidle =>
    rw [Option.not_isSome_iff_eq_none] at hidle
    split at h
    · obtain ⟨hr, rfl⟩ := Prod.mk.inj h
      exact .inr ⟨(Option.some.inj hr).symm, hidle, rfl⟩
    · next hconnected =>
      refine absurd ⟨hidle, ?_⟩ cannot
      simpa only [not_or, Bool.not_eq_true, Option.isNone_eq_false_iff, Bool.not_eq_false]
        using hconnected

/-! ## Starting again -/

/-- The node has no connection and no session. Until it is stopped it can be started, and a session
can begin after every start whose connection is still open. -/
structure Released (n : Node) : Prop where
  connection_eq : n.connection = none
  connected_eq : n.status.connected = false
  startable : n.stopped = false →
    ∃ said m, n.start.Leads said (.ok (), m) ∧ m.status.connected = true
  runnable : ∀ said m, n.start.Leads said (.ok (), m) → m.status.connected = true →
    m.run.1 ≠ some (.error .alreadyRunning) ∧ m.run.1 ≠ some (.error .notConnected)
  halted : n.stopped = true → ∀ said r m, n.start.Leads said (r, m) →
    r = .error (.client .cancelled) ∧ m = n

/-- Everything that is watched can be subscribed again. -/
theorem leads_resubscribe (watched : List String) :
    ∃ said, (resubscribe watched {}).Leads said (.ok (), {}) := by
  induction watched with
  | nil => exact ⟨[], .done _⟩
  | cons scripthash rest ih =>
    obtain ⟨said, hrest⟩ := ih
    have hask := Link.leads_ask (.scripthashSubscribe scripthash) .null
    exact ⟨_, Dialogue.leads_bind_iff.2 ⟨_, _, said, rfl, hask, hrest⟩⟩

/-- A node that has not been stopped can be started. -/
theorem exists_start (hgoes : n.stopped = false) :
    ∃ said, n.start.Leads said (.ok (), n.keep {}) := by
  obtain ⟨talk, hchecks⟩ := leads_checks (n := n.disconnect) fun txid htxid => by
    replace htxid : n.network.canary? = some txid := htxid
    cases hnetwork : n.network with
    | mainnet =>
      rw [hnetwork] at htxid
      obtain rfl := Option.some.inj htxid
      exact ⟨_, Scene.canaryFault?_knownTransaction⟩
    | testnet =>
      rw [hnetwork] at htxid
      cases htxid
    | regtest =>
      rw [hnetwork] at htxid
      cases htxid
  obtain ⟨again, hagain⟩ := leads_resubscribe n.watched
  exact ⟨_, leads_start_of_checks hgoes hchecks hagain⟩

theorem conclude_ne_alreadyRunning (n : Node) :
    n.conclude.1 ≠ some (.error .alreadyRunning) := by
  rw [conclude]
  split
  · next result _ =>
    intro h
    replace h : n.sessionResult result = .error .alreadyRunning := Option.some.inj h
    cases result with
    | ok => cases h
    | error e =>
      rw [sessionResult] at h
      split at h <;> cases h
  · exact fun h => by cases h

theorem released (hconnection : n.connection = none) (hsession : n.session = none) :
    n.Released where
  connection_eq := hconnection
  connected_eq := by
    rw [status, client?, hconnection]
    rfl
  startable hgoes := by
    obtain ⟨said, hstart⟩ := exists_start hgoes
    exact ⟨said, _, hstart, connected_keep n {}⟩
  runnable said m hstart hconnected := by
    cases started_of_leads hstart with
    | kept goes checked subscribed =>
      rw [connected_keep] at hconnected
      have hcan := (canRun_keep_iff hsession).2 hconnected
      rw [hcan.run_eq]
      exact ⟨conclude_ne_alreadyRunning _, conclude_ne_notConnected _⟩
  halted hstopped said r m hstart := by
    cases started_of_leads hstart with
    | refused => exact ⟨rfl, rfl⟩
    | unreached goes => cases hstopped.symm.trans goes
    | rejected goes => cases hstopped.symm.trans goes
    | kept goes => cases hstopped.symm.trans goes

/-! ## Tips that fail -/

/-- On this input the handling of a tip fails with the error `e`: the tip that the worker takes out
of the queue, or the one that waits for the answer. -/
inductive TipFails (n : Node) (e : SyncError) : SessionInput → Prop where
  | begun {f : Follow} {work : TipWork} {queue : BoundedQueue TipWork}
      (on : n.session = some (.following f)) (idle : f.worker = .idle)
      (goes : n.stopped = false) (connected : f.lost = false)
      (takes : f.queue.pop? = some (work, queue))
      (fails : (n.sync.beginTip work).1 = .done (.error e)) : TipFails n e .wake
  | resumed {f : Follow} {call : TipUpdate} {answer : call.query.Answer}
      (on : n.session = some (.following f)) (handling : f.worker = .handling call)
      (fails : (n.sync.resumeTip call answer).1 = .done (.error e)) :
      TipFails n e (.answer call.query answer)

/-- What becomes of a session in which a tip has failed. -/
theorem conclude_of_failed (f : Follow) (sync : Synchronizer) (e : SyncError) :
    (e.fatal = false → ∃ g : Follow, g.worker = .idle ∧
      conclude { n with sync, session := some (.ofFollow (f.advance (.done (.error e)))) } =
        (none, { n with sync, session := some (.following g) })) ∧
      (e.fatal = true →
        (conclude { n with sync, session := some (.ofFollow (f.advance (.done (.error e)))) }).1 =
          some (n.sessionResult (.error e))) := by
  constructor
  · intro hfatal
    refine ⟨{ f with worker := .idle }, rfl, ?_⟩
    rw [Follow.advance, hfatal]
    rfl
  · intro hfatal
    rw [Follow.advance, hfatal]
    rfl

/-- **An error of a tip ends the session exactly if it is fatal.** Else the worker looks for the
next tip. -/
theorem TipFails.step (h : n.TipFails e input) :
    (e.fatal = false → ∃ (f : Follow) (sync : Synchronizer), f.worker = .idle ∧
      n.step input = (none, { n with sync, session := some (.following f) })) ∧
      (e.fatal = true → (n.step input).1 = some (n.sessionResult (.error e))) := by
  have hfails (f : Follow) (sync : Synchronizer) (hstep : n.step input = conclude { n with
      sync, session := some (.ofFollow (f.advance (.done (.error e)))) }) :
      (e.fatal = false → ∃ (f : Follow) (sync : Synchronizer), f.worker = .idle ∧
        n.step input = (none, { n with sync, session := some (.following f) })) ∧
        (e.fatal = true → (n.step input).1 = some (n.sessionResult (.error e))) := by
    obtain ⟨hgoes, hends⟩ := conclude_of_failed (n := n) f sync e
    rw [hstep]
    refine ⟨fun hfatal => ?_, hends⟩
    obtain ⟨g, hidle, hg⟩ := hgoes hfatal
    exact ⟨g, sync, hidle, hg⟩
  cases h with
  | @begun f work queue on idle goes connected takes fails =>
    refine hfails (f.release queue) (n.sync.beginTip work).2 ?_
    rw [Node.step, on]
    simp only [advance, Follow.wake, idle, goes, connected, takes, ← fails]
    rfl
  | @resumed f call answer on handling fails =>
    refine hfails f (n.sync.resumeTip call answer).2 ?_
    rw [Node.step, on]
    simp only [advance, handling, dif_pos, Follow.answered, ← fails]

/-- **How the sessions of a node end**, whatever the server does and other tasks do meanwhile. A
session that the node begins ends well exactly if the node has been stopped by then, and else with
an error. It is not begun if another one is under way, which goes on; however else it ends, the node
is released. And an error of a tip ends the session only if it is fatal. -/
theorem session_ends (n : Node) :
    (∀ r mark? m, n.Ends r mark? m →
      (r = .ok () ↔ mark?.isSome = true ∧ m.stopped = true) ∧
      (r = .error .alreadyRunning ↔ n.session.isSome = true) ∧
      (r = .error .alreadyRunning → m = n) ∧ (r ≠ .error .alreadyRunning → m.Released)) ∧
    ∀ e input, n.TipFails e input →
      (e.fatal = false → ∃ (f : Follow) (sync : Synchronizer), f.worker = .idle ∧
        n.step input = (none, { n with sync, session := some (.following f) })) ∧
      (e.fatal = true → (n.step input).1 = some (n.sessionResult (.error e))) := by
  refine ⟨fun r mark? m h => ?_, fun e input h => h.step⟩
  cases mark? with
  | none =>
    rcases h.missed_cases with ⟨rfl, hbusy, rfl⟩ | ⟨rfl, hidle, rfl⟩
    · refine ⟨⟨fun h => (by cases h), fun h => (by cases h.1)⟩, ⟨fun _ => hbusy, fun _ => rfl⟩,
        fun _ => rfl, fun h => absurd rfl h⟩
    · refine ⟨⟨fun h => (by cases h), fun h => (by cases h.1)⟩,
        ⟨fun h => (by cases h), fun h => ?_⟩, fun h => (by cases h), fun _ => released rfl hidle⟩
      rw [hidle] at h
      cases h
  | some mark =>
    have hfinished := h.finished
    have hidle : n.session = none := h.canRun.1
    refine ⟨⟨fun hok => ⟨rfl, hfinished.eq_ok_iff.1 hok⟩, fun h => hfinished.eq_ok_iff.2 h.2⟩,
      ⟨fun h => absurd h hfinished.ne_alreadyRunning, fun hbusy => ?_⟩,
      fun h => absurd h hfinished.ne_alreadyRunning,
      fun _ => released hfinished.connection_eq hfinished.session_eq⟩
    rw [hidle] at hbusy
    cases hbusy

/-! ## A node that is stopped -/

/-- A node that follows the tip, and has been told of a tip without a header. -/
def toldOfNothing : Node :=
  { watching.keep {} with session := some (.following
      ⟨⟨1, [⟨0, Hex.encode [], .notification⟩], Nat.le_refl 1⟩, .ready, .idle, false⟩) }

/-- A session that is stopped while it catches up ends well. A tip without a header does not end a
session. -/
theorem session_ends_stopped :
    (∃ mark m, (watching.keep {}).Ends (.ok ()) (some mark) m ∧ m.stopped = true ∧ m.Released) ∧
      ∃ e, toldOfNothing.TipFails e .wake ∧ e.fatal = false ∧
        (toldOfNothing.step .wake).1 = none := by
  constructor
  · have hcan : (watching.keep {}).CanRun := ⟨rfl, rfl, rfl⟩
    obtain ⟨t, -, hbegin⟩ := Synchronizer.beginCatchUp_eq
      (s := { (watching.keep {}).sync with phase := .bulkSync }) (.of_empty 0 80) (by decide)
    have hrun : (watching.keep {}).run = (none, { watching.keep {} with
        sync := { watching.sync with store := t, phase := .bulkSync }
        synchronized := true
        tipsWaiting := false
        session := some (.catchingUp (.asking ⟨2016, 0, 0⟩ 0)) }) := by
      rw [hcan.run_eq, hbegin]
      rfl
    have hsession := (Session.begun hrun).beside (beside_stop _)
    obtain ⟨back, hmove⟩ := exists_moves _ .wake
    have hends := Ends.later hsession hmove
    obtain ⟨hok, -, -, hreleased⟩ := (session_ends (watching.keep {})).1 _ _ _ hends
    exact ⟨_, _, hends, (hok.1 rfl).2, hreleased fun h => by cases h⟩
  · have hheader : BlockHeader.ofHex 80 (Hex.encode []) = .error (.wrongLength 80 0) := by
      rw [BlockHeader.ofHex, Hex.trim_encode, Hex.decode_encode]
      rfl
    have herror : (toldOfNothing.sync.beginTip ⟨0, Hex.encode [], .notification⟩).1 =
        .done (.error (.badNotification (HeaderError.wrongLength 80 0).message)) := by
      have hstart : ¬ 0 < toldOfNothing.sync.store.startPoint := Nat.not_lt_zero 0
      have hnext : ¬ 0 < toldOfNothing.sync.store.nextHeight := Nat.not_lt_zero 0
      simp only [Synchronizer.beginTip, if_neg hstart, if_neg hnext,
        show toldOfNothing.sync.store.headerSize = 80 from rfl, hheader]
      rfl
    have hfails : toldOfNothing.TipFails _ .wake := .begun rfl rfl rfl rfl rfl herror
    obtain ⟨f, sync, -, hstep⟩ := ((session_ends toldOfNothing).2 _ _ hfails).1 rfl
    exact ⟨_, hfails, rfl, by rw [hstep]⟩

end Node
end HeaderFollower
