/-
# How often a daemon tries again

The supervisor counts the attempts that have failed, gives up when they are as many as the policy
allows, and counts anew after a session that has got beyond catching up. `Daemon.Tries` is one
attempt, whatever the server answers and whatever other tasks do meanwhile, and `Daemon.Reached` is a
run with its attempts, newest first.

`Daemon.retries_bounded` says after which attempts the count begins anew, and that without these no
more than one attempt above the limit fails in a row. `Daemon.retries_past_limit` is a run with more
failed attempts than that, none of which has followed the tip: a session that goes back while it
catches up is enough for the count to begin anew.
-/

import HeaderFollower.Daemon.Launch
import HeaderFollower.Proofs.Node.Session
import HeaderFollower.Proofs.Node.Start
import HeaderFollower.Proofs.Sync.Recovery

namespace HeaderFollower

/-! ## One step of the count -/

namespace Backoff

variable {b c : Backoff} {spread : Float} {delay : Duration}

/-- Another attempt is counted, and is one that the policy allows. -/
theorem of_next?_after (h : b.next? spread = (.after delay, c)) :
    c.policy = b.policy ∧ c.attempts = b.attempts + 1 ∧
      (b.policy.maxAttempts ≠ 0 → b.attempts < b.policy.maxAttempts) := by
  unfold next? at h
  split at h
  · cases h
  · next hallowed =>
    have hless (hlimit : b.policy.maxAttempts ≠ 0) : b.attempts < b.policy.maxAttempts :=
      Nat.not_le.1 fun hle => hallowed ⟨hlimit, hle⟩
    split at h
    · cases h
    · dsimp only at h
      repeat' split at h
      all_goals cases h
      all_goals exact ⟨rfl, rfl, hless⟩

theorem next?_of_spent (hlimit : b.policy.maxAttempts ≠ 0)
    (hspent : b.policy.maxAttempts ≤ b.attempts) (spread : Float) :
    b.next? spread = (.exhausted, b) := by
  rw [next?, if_pos ⟨hlimit, hspent⟩]

end Backoff

/-! ## Attempts -/

/-- What an attempt comes to. -/
inductive Trial where
  /-- The node has been stopped before it. -/
  | stopped
  /-- The start fails. -/
  | refused (cause : NodeError)
  /-- A session ends; it has no mark if it could not begin. -/
  | session (result : Except NodeError Unit) (mark? : Option Node.Mark)

namespace Trial

def outcome : Trial → Except NodeError Unit
  | .stopped => .ok ()
  | .refused cause => .error cause
  | .session result _ => result

/-- The attempt fails, and the connection is at fault. -/
def LosesConnection (t : Trial) : Prop :=
  ∃ cause, t.outcome = .error cause ∧ cause.failureClass = .connection

/-- Its session has followed the tip. -/
def followed : Trial → Bool
  | .session _ (some mark) => mark.followed
  | _ => false

/-- Of these attempts, newest first, the last session that has begun has followed the tip or gone
back. -/
def leftBeyond : List Trial → Bool
  | [] => false
  | .session _ mark? :: past => mark?.elim (leftBeyond past) Node.Mark.passed
  | _ :: past => leftBeyond past

/-- After the newest of these attempts the count begins anew: a session, be it one that could not
begin, has ended, and the last that has begun has followed the tip or gone back. -/
def resets : List Trial → Bool
  | .session result mark? :: past => leftBeyond (.session result mark? :: past)
  | _ => false

/-- How many of these attempts, from the newest on, are such that the count goes on. -/
def inARow : List Trial → Nat
  | [] => 0
  | t :: past => if resets (t :: past) then 0 else inARow past + 1

end Trial

namespace Daemon

open Trial

variable {c d e : Daemon} {t : Trial} {v : Verdict} {past : List Trial} {policy : ReconnectPolicy}

/-- An attempt comes to `t` and leaves a daemon that is yet to judge it. Other tasks may do something
to the node at every point in between. -/
inductive Comes (d : Daemon) : Trial → Daemon → Prop where
  | stopped {n : Node} (before : d.node.Beside n) (halted : n.stopped = true) :
      Comes d .stopped { d with node := n }
  | refused {n m k : Node} {cause : NodeError} {said : List Exchange} (before : d.node.Beside n)
      (goes : n.stopped = false) (start : n.start.Leads said (.error cause, m))
      (after : m.Beside k) : Comes d (.refused cause) { d with node := k }
  | session {n m k l o : Node} {r : Except NodeError Unit} {mark? : Option Node.Mark}
      {said : List Exchange} (before : d.node.Beside n) (goes : n.stopped = false)
      (start : n.start.Leads said (.ok (), m)) (between : m.Beside k) (session : k.Ends r mark? l)
      (after : l.Beside o) : Comes d (.session r mark?) ({ d with node := o } : Daemon).noteSession

/-- An attempt, and what the supervisor does next. -/
def Tries (d : Daemon) (t : Trial) (v : Verdict) (e : Daemon) : Prop :=
  ∃ c spread, d.Comes t c ∧ c.judge t.outcome spread = (v, e)

/-- After these attempts, newest first, the supervisor is about to make another one. -/
inductive Reached (policy : ReconnectPolicy) : List Trial → Daemon → Prop where
  | fresh {d : Daemon} (unused : d.node.synchronized = false) (count : d.backoff = .start policy) :
      Reached policy [] d
  | again {past : List Trial} {d e : Daemon} {t : Trial} {delay : Duration} {cause : NodeError}
      {attempt : Nat} (h : Reached policy past d) (tries : d.Tries t (.again delay cause attempt) e) :
      Reached policy (t :: past) e

/-- Every run begins with the daemon of a configuration. -/
theorem reached_create {config : Config} {authorities headers : Except String (List UInt8)}
    (h : Daemon.create config authorities headers = .ok d) :
    Reached config.reconnectPolicy [] d := by
  unfold Daemon.create at h
  split at h
  · cases h
  · next n hn =>
    obtain rfl := Except.ok.inj h
    refine .fresh ?_ rfl
    unfold Node.create at hn
    split at hn
    · cases hn
    · next address _ =>
      dsimp only at hn
      generalize (if address.isTls then _ else _ : Except TlsError (Option Trust)) = trust at hn
      cases trust with
      | error e => cases hn
      | ok trust =>
        dsimp only at hn
        repeat' split at hn
        all_goals cases hn
        rfl

/-- The attempts of the program are such attempts. -/
theorem tries_of_attempt {ω : Type} {remote : Remote ω} {inputs : List SessionInput}
    {spread : Float} {w w' : ω} (h : d.attempt remote inputs spread w = (some v, e, w')) :
    ∃ t, d.Tries t v e := by
  rw [attempt] at h
  split at h
  · next hstopped =>
    cases h
    exact ⟨.stopped, d, spread, .stopped (.refl _) hstopped, rfl⟩
  · next hgoes =>
    rw [Bool.not_eq_true] at hgoes
    obtain ⟨said, hleads⟩ := d.node.start.leads_run remote w
    split at h
    · next cause node w' hstart =>
      rw [hstart] at hleads
      cases h
      exact ⟨.refused cause, _, spread, .refused (.refl _) hgoes hleads (.refl _), rfl⟩
    · next node w' hstart =>
      rw [hstart] at hleads
      have hends {r : Except NodeError Unit} {mark? : Option Node.Mark} {m : Node}
          (hends : node.Ends r mark? m) (hv : ({ d with node := m } : Daemon).noteSession.judge r
            spread = (v, e)) : ∃ t, d.Tries t v e :=
        ⟨.session r mark?, _, spread, .session (.refl _) hgoes hleads (.refl _) hends (.refl _), hv⟩
      rcases hrun : node.run with ⟨_ | r, m⟩
      · rw [hrun] at h
        rcases hsteps : m.stepAll inputs with ⟨_ | r, k⟩
        · simp only [hsteps] at h
          cases h
        · simp only [hsteps] at h
          obtain ⟨mark, hsession⟩ := (Node.Session.begun hrun).ends_of_stepAll hsteps
          cases h
          exact hends hsession rfl
      · rw [hrun] at h
        by_cases hcan : node.CanRun
        · cases h
          exact hends (.atOnce hcan hrun) rfl
        · cases h
          exact hends (.missed hcan hrun) rfl

/-! ## The count along a run -/

theorem noteSession_eq (d : Daemon) :
    d.noteSession = if d.node.beyond then { d with backoff := d.backoff.reset } else d := by
  rw [noteSession, Node.beyond]
  rcases d.node.phase? with _ | phase
  · rfl
  · cases phase <;> rfl

/-- A session counts if it has left the stage beyond catching up. -/
theorem Comes.outcome_eq (h : d.Comes t c) (hd : d.node.beyond = leftBeyond past) :
    c.node.beyond = leftBeyond (t :: past) ∧
      c.backoff = if resets (t :: past) then d.backoff.reset else d.backoff := by
  cases h with
  | stopped before halted => exact ⟨before.beyond_eq.trans hd, rfl⟩
  | refused before goes start after =>
    exact ⟨((before.trans (Node.beside_start start)).trans after).beyond_eq.trans hd, rfl⟩
  | @session n m k l o r mark? said before goes start between session after =>
    have hbefore := (before.trans (Node.beside_start start)).trans between
    have ho : o.beyond = leftBeyond (.session r mark? :: past) := by
      rw [after.beyond_eq, session.beyond_eq, hbefore.beyond_eq, hd]
      rfl
    have hresets : resets (.session r mark? :: past) = o.beyond := ho.symm
    rw [noteSession_eq, hresets]
    dsimp only
    split
    · exact ⟨ho, rfl⟩
    · exact ⟨ho, rfl⟩

variable {outcome : Except NodeError Unit} {spread : Float}

/-- If another attempt follows, it is counted. -/
theorem of_judge_again {delay : Duration} {cause : NodeError} {attempt : Nat}
    (h : c.judge outcome spread = (.again delay cause attempt, e)) :
    e.node = c.node ∧ e.backoff.policy = c.backoff.policy ∧
      e.backoff.attempts = c.backoff.attempts + 1 ∧
      (c.backoff.policy.maxAttempts ≠ 0 → c.backoff.attempts < c.backoff.policy.maxAttempts) := by
  unfold judge at h
  repeat' split at h
  all_goals cases h
  next hnext _ =>
    obtain ⟨hpolicy, hattempts, hless⟩ := Backoff.of_next?_after hnext
    exact ⟨rfl, hpolicy, hattempts, hless⟩

/-- A lost connection is the end once all attempts are used up. -/
theorem judge_of_spent {cause : NodeError} (hclass : cause.failureClass = .connection)
    (hlimit : c.backoff.policy.maxAttempts ≠ 0)
    (hspent : c.backoff.policy.maxAttempts ≤ c.backoff.attempts) (spread : Float) :
    c.judge (.error cause) spread =
      (.finished (if c.node.stopped then .ok ()
        else .error (.retriesExhausted c.backoff.attempts)), c) := by
  rw [judge]
  split
  · rfl
  · rw [hclass]
    dsimp only
    rw [Backoff.next?_of_spent hlimit hspent]

/-- The count is that of the attempts in a row, or one more. -/
theorem Reached.count (h : Reached policy past d) :
    d.node.beyond = leftBeyond past ∧ d.backoff.policy = policy ∧
      inARow past ≤ d.backoff.attempts ∧
      (policy.maxAttempts ≠ 0 → d.backoff.attempts ≤ policy.maxAttempts) := by
  induction h with
  | @fresh d unused count =>
    refine ⟨?_, by rw [count]; rfl, by rw [count]; exact Nat.le_refl 0, fun _ => ?_⟩
    · rw [Node.beyond, Node.phase?, unused]
      rfl
    · rw [count]
      exact Nat.zero_le _
  | @again past d e t delay cause attempt h tries ih =>
    obtain ⟨hbeyond, hpolicy, hrow, hmost⟩ := ih
    obtain ⟨c, spread, hcomes, hjudge⟩ := tries
    obtain ⟨hc, hcount⟩ := hcomes.outcome_eq hbeyond
    obtain ⟨hnode, hsame, hnext, hless⟩ := of_judge_again hjudge
    have hpolicy : c.backoff.policy = policy := by
      rw [hcount, ← hpolicy]
      split <;> rfl
    rw [hpolicy] at hsame hless
    refine ⟨by rw [hnode, hc], hsame, ?_, fun hlimit => ?_⟩
    · rw [hnext, hcount, inARow]
      split
      · exact Nat.zero_le _
      · exact Nat.succ_le_succ hrow
    · have := hless hlimit
      omega

/-- **Attempts are bounded as long as the count goes on.** The count begins anew exactly after the
attempts of `resets`; of others at most one more than the policy's number come in a row, and the last
of these, if it loses the connection, is the end of the run. -/
theorem retries_bounded (h : Reached policy past d) (ht : d.Tries t v e) :
    (∀ delay cause attempt, v = .again delay cause attempt →
      e.backoff.attempts = (if resets (t :: past) then 0 else d.backoff.attempts) + 1) ∧
    (policy.maxAttempts ≠ 0 →
      inARow (t :: past) ≤ policy.maxAttempts + 1 ∧
      (t.LosesConnection → inARow (t :: past) = policy.maxAttempts + 1 →
        v = .finished (if e.node.stopped then .ok ()
          else .error (.retriesExhausted policy.maxAttempts)))) := by
  obtain ⟨hbeyond, hpolicy, hrow, hmost⟩ := h.count
  obtain ⟨c, spread, hcomes, hjudge⟩ := ht
  obtain ⟨-, hcount⟩ := hcomes.outcome_eq hbeyond
  constructor
  · rintro delay cause attempt rfl
    obtain ⟨-, -, hnext, -⟩ := of_judge_again hjudge
    rw [hnext, hcount]
    split <;> rfl
  · intro hlimit
    have hmost := hmost hlimit
    rw [inARow]
    by_cases hresets : resets (t :: past) = true
    · rw [if_pos hresets]
      exact ⟨Nat.zero_le _, fun _ h => by cases h⟩
    · rw [if_neg hresets] at hcount ⊢
      refine ⟨by omega, ?_⟩
      rintro ⟨cause, hcause, hclass⟩ hall
      have hattempts : c.backoff.attempts = policy.maxAttempts := by
        rw [hcount]
        omega
      have hsame : c.backoff.policy = policy := by rw [hcount, hpolicy]
      have hspent : c.backoff.policy.maxAttempts ≤ c.backoff.attempts := by
        rw [hsame, hattempts]
      rw [hcause, judge_of_spent hclass (hsame ▸ hlimit) hspent, hattempts] at hjudge
      obtain ⟨hv, rfl⟩ := Prod.mk.inj hjudge
      exact hv.symm

/-! ## A server that cannot be reached -/

/-- No server listens. -/
def unreached : NodeError := .client (.connect (.io "localhost:50001" "connection refused"))

theorem losesConnection_unreached : (Trial.refused unreached).LosesConnection :=
  ⟨unreached, rfl, rfl⟩

theorem comes_unreached (hgoes : d.node.stopped = false) :
    d.Comes (.refused unreached) { d with node := d.node.disconnect } :=
  .refused (.refl _) hgoes (Node.leads_start_of_refused hgoes _) (.refl _)

/-- One retry, at once. -/
def oneRetry : ReconnectPolicy :=
  { initial := ⟨0⟩, longest := ⟨0⟩, jitter := 0.0, maxAttempts := 1 }

theorem next?_oneRetry (spread : Float) :
    (Backoff.start oneRetry).next? spread = (.after ⟨0⟩, ⟨oneRetry, 1⟩) := by
  have hbase : (Backoff.start oneRetry).base? = some ⟨0⟩ := by decide +kernel
  have hjitter : (Backoff.start oneRetry).policy.jitter ≤ 0.0 := by decide +kernel
  rw [Backoff.next?, if_neg (by decide), hbase]
  dsimp only
  rw [if_pos hjitter]
  rfl

/-- The first lost connection is followed by another attempt. -/
theorem judge_first {n : Node} {cause : NodeError} (hgoes : n.stopped = false)
    (hclass : cause.failureClass = .connection) (spread : Float) :
    Daemon.judge ⟨n, .start oneRetry⟩ (.error cause) spread =
      (.again ⟨0⟩ cause 1, ⟨n, ⟨oneRetry, 1⟩⟩) := by
  rw [judge]
  dsimp only
  rw [hgoes, if_neg Bool.false_ne_true, hclass, next?_oneRetry]

/-- A node without headers that has never been connected. -/
def newNode : Node where
  network := .regtest
  address := ⟨"localhost", 50001, .tcp⟩
  trust := none
  clientSettings := {}
  checkCanary := true
  sync := .start {} (.ofFile 0 { headerSize := 80, content := some [] }) (.start 1)

/-- Its daemon after one attempt, in which no server has been reached. -/
def triedOnce : Daemon := ⟨newNode.disconnect, ⟨oneRetry, 1⟩⟩

theorem reached_triedOnce : Reached oneRetry [.refused unreached] triedOnce := by
  have hfirst : Reached oneRetry [] ⟨newNode, .start oneRetry⟩ := .fresh rfl rfl
  exact hfirst.again ⟨_, 0.0, comes_unreached rfl, judge_first rfl rfl 0.0⟩

/-- With one retry the second attempt in a row is the last. -/
theorem retries_bounded_unreached :
    ∃ v e, triedOnce.Tries (.refused unreached) v e ∧
      v = .finished (.error (.retriesExhausted 1)) := by
  have htries : triedOnce.Tries (.refused unreached) _ _ :=
    ⟨_, 0.0, comes_unreached rfl, judge_of_spent rfl (by decide) (by decide) 0.0⟩
  exact ⟨_, _, htries, ((retries_bounded reached_triedOnce htries).2 (by decide)).2
    losesConnection_unreached rfl⟩

/-! ## A session that goes back -/

/-- The session of a node without headers is sent a header that does not link, goes back, and loses
its connection. -/
theorem ends_goneBack {n : Node} (hcan : n.CanRun) (hgoes : n.stopped = false)
    (hempty : n.sync.store.Has 0 80 [] none) (hsettings : n.sync.settings = {}) :
    ∃ mark m, n.Ends (.error (.sync (.client .closed))) (some mark) m ∧ mark.followed = false ∧
      m.beyond = true ∧ m.stopped = false := by
  obtain ⟨t, ht, hbegin⟩ :=
    Synchronizer.beginCatchUp_eq (s := { n.sync with phase := .bulkSync }) hempty (by decide)
  have hchunk : max n.sync.settings.chunkSize 1 = 2016 := by
    rw [hsettings]
    rfl
  have hrun : n.run = (none, { n with
      sync := { n.sync with store := t, phase := .bulkSync }
      synchronized := true
      tipsWaiting := false
      session := some (.catchingUp (.asking ⟨2016, 0, 0⟩ 0)) }) := by
    rw [hcan.run_eq, hbegin, hchunk]
    rfl
  -- It asks, and two headers of the batch are stored before the third makes it go back.
  obtain ⟨mark, hmark, hfetching⟩ := (Node.Session.begun hrun).of_waiting rfl rfl
    (Synchronizer.resumeCatchUp_asking _ _)
  obtain ⟨u, htake, -⟩ := Synchronizer.takeBatch_unlinkedBatch
    (s := { n.sync with store := t, phase := .bulkSync }) ht (by rw [hsettings]; decide)
  have hgone : Synchronizer.resumeCatchUp (.fetching ⟨2016, 0, 0⟩ t.nextHeight)
      { n.sync with store := t, phase := .bulkSync } (Except.ok unlinkedBatch) =
      (.waiting (.asking ⟨2016, 2, 0⟩ 0),
        { n.sync with store := u, phase := .reorgRecovering }) := by
    rw [Synchronizer.resumeCatchUp, show t.nextHeight = 0 from ht.nextHeight, htake]
    rfl
  obtain ⟨mark, hmark, hback⟩ := hfetching.of_waiting hmark rfl hgone
  -- It asks anew, and there is no answer.
  obtain ⟨mark, hmark, hanew⟩ := hback.of_waiting hmark rfl
    (Synchronizer.resumeCatchUp_asking _ _)
  have hlost (s : Synchronizer) (height : Nat) :
      s.resumeCatchUp (.fetching ⟨2016, 2, 0⟩ height) (Except.error ClientError.closed) =
        (.done (.error (.client .closed)), s) := rfl
  obtain ⟨mark, hmark, hends⟩ := hanew.of_failed hmark rfl (hlost _ _)
  rw [Node.sessionResult, hgoes] at hends
  refine ⟨mark, _, hends, hmark, (Node.beyond_iff rfl).2 fun h => ?_, rfl⟩
  cases h

/-- **More attempts than the policy allows can fail in a row, though none has followed the tip.** -/
theorem retries_past_limit :
    ∃ t d v e, Reached oneRetry [t, .refused unreached] d ∧ d.Tries (.refused unreached) v e ∧
      oneRetry.maxAttempts + 1 < [.refused unreached, t, .refused unreached].length ∧
      ∀ u ∈ [.refused unreached, t, .refused unreached], u.LosesConnection ∧ u.followed = false := by
  obtain ⟨said, hstart⟩ := Node.leads_start (n := newNode.disconnect) rfl rfl rfl
  obtain ⟨mark, m, hends, hmark, hbeyond, hgoes⟩ :=
    ends_goneBack (n := { newNode.disconnect.disconnect with
      connection := some {}, tipsWaiting := true }) ⟨rfl, rfl, rfl⟩ rfl (.of_empty 0 80) rfl
  have hcomes := Comes.session (d := triedOnce) (.refl _) rfl hstart (.refl _) hends (.refl _)
  rw [noteSession_eq] at hcomes
  rw [if_pos hbeyond] at hcomes
  have hreached := reached_triedOnce.again ⟨_, 0.0, hcomes, judge_first hgoes rfl 0.0⟩
  refine ⟨_, _, _, _, hreached, ⟨_, 0.0, comes_unreached hgoes, rfl⟩, Nat.lt_succ_self _, ?_⟩
  intro u hu
  simp only [List.mem_cons, List.not_mem_nil, or_false] at hu
  rcases hu with rfl | rfl | rfl
  · exact ⟨losesConnection_unreached, rfl⟩
  · exact ⟨⟨_, rfl, rfl⟩, hmark⟩
  · exact ⟨losesConnection_unreached, rfl⟩

end Daemon
end HeaderFollower
