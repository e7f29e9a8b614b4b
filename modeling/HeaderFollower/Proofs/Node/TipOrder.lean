/-
# The order of pushed tips in a session

A session has some pushed tips still to handle: those in its queue, and behind them the one that waits
for room there. A step of the session keeps their order (`SessionStage.Keeps`): the worker takes the
first, and what the forwarder takes out of the sink stands behind the others. `Node.step_keeps` and
`Node.run_keeps` say it of the node.
-/

import HeaderFollower.Proofs.Node.Session

namespace HeaderFollower

/-! ## What a session takes -/

/-- A pushed tip as the worker gets it. -/
def TipWork.ofPush (notice : TipNotice) : TipWork := .ofNotice notice .notification

namespace SessionStage

/-- The pushed tips that the session has still to handle, the first first. -/
def underWay : SessionStage → List TipWork
  | .following f => f.underWay
  | _ => []

def Roomy : SessionStage → Prop
  | .following f => f.Roomy
  | _ => True

/-- The tip that the worker takes in a step; `cancelled` is an order to stop. -/
def taken? (stage : SessionStage) (cancelled : Bool) : SessionInput → Option TipWork
  | .wake =>
    match stage with
    | .following f => f.taken? cancelled
    | _ => none
  | _ => none

/-- The pushed tip that the forwarder takes in a step. -/
def given (stage : SessionStage) : SessionInput → List TipWork
  | .pushed notice =>
    match stage with
    | .following f => if f.forwarder = .ready then [.ofPush notice] else []
    | _ => []
  | _ => []

/-- A step keeps the order of the tips under way: the worker takes the first, and what the forwarder
takes stands behind the others. -/
structure Keeps (stage : SessionStage) (cancelled : Bool) (input : SessionInput)
    (next : SessionStage) : Prop where
  first : (stage.taken? cancelled input).toList.filter TipWork.isPush <+: stage.underWay
  others : (∃ result, next = .ended result) ∨ next.Roomy ∧
    stage.underWay ++ stage.given input =
      (stage.taken? cancelled input).toList.filter TipWork.isPush ++ next.underWay

variable {stage : SessionStage} {cancelled : Bool} {input : SessionInput}

/-- What a step keeps in which the worker takes no tip. -/
theorem Keeps.of_none {next : SessionStage} (htaken : stage.taken? cancelled input = none)
    (others : (∃ result, next = .ended result) ∨
      next.Roomy ∧ stage.underWay ++ stage.given input = next.underWay) :
    stage.Keeps cancelled input next := by
  refine ⟨?_, ?_⟩
  · rw [htaken]
    exact List.nil_prefix
  · rw [htaken]
    exact others

theorem Keeps.ended (htaken : stage.taken? cancelled input = none) (result : Except SyncError Unit) :
    stage.Keeps cancelled input (.ended result) := .of_none htaken (.inl ⟨result, rfl⟩)

theorem Keeps.of_eq {next : SessionStage} (htaken : stage.taken? cancelled input = none)
    (hroomy : next.Roomy) (h : stage.underWay ++ stage.given input = next.underWay) :
    stage.Keeps cancelled input next := .of_none htaken (.inr ⟨hroomy, h⟩)

/-- A session that follows keeps the order if its two tasks do. -/
theorem Keeps.ofFollow {f g : Follow}
    (first : ((following f).taken? cancelled input).toList.filter TipWork.isPush <+: f.underWay)
    (others : g.hasEnded = true ∨ g.Roomy ∧ f.underWay ++ (following f).given input =
      ((following f).taken? cancelled input).toList.filter TipWork.isPush ++ g.underWay) :
    (following f).Keeps cancelled input (.ofFollow g) := by
  refine ⟨first, ?_⟩
  rw [SessionStage.ofFollow]
  cases hworker : g.worker with
  | ended result => exact .inl ⟨result, rfl⟩
  | _ =>
    rw [Follow.hasEnded, hworker] at others
    obtain hover | hnext := others
    · cases hover
    · exact .inr hnext

/-- The same if the worker takes no tip. -/
theorem Keeps.of_not_taken {f g : Follow} (htaken : (following f).taken? cancelled input = none)
    (h : g.hasEnded = true ∨ g.Roomy ∧ g.underWay = f.underWay ++ (following f).given input) :
    (following f).Keeps cancelled input (.ofFollow g) := by
  refine .ofFollow ?_ ?_
  · rw [htaken]
    exact List.nil_prefix
  · rw [htaken]
    exact h.imp_right fun hnext => ⟨hnext.1, hnext.2.symm⟩

/-- A session that catches up or begins to follow has no tips under way. -/
theorem afterCatchUp_cases (p : Progress CatchUp Nat) (depth : Nat) :
    (∃ result, afterCatchUp p depth = .ended result) ∨
      (afterCatchUp p depth).Roomy ∧ (afterCatchUp p depth).underWay = [] := by
  rcases p with call | e | count
  · exact .inr ⟨trivial, rfl⟩
  · exact .inl ⟨.error e, rfl⟩
  · exact .inr ⟨Follow.roomy_start depth, rfl⟩

theorem Keeps.afterCatchUp (call : CatchUp) (p : Progress CatchUp Nat) (depth : Nat)
    (htaken : (catchingUp call).taken? cancelled input = none)
    (hgiven : (catchingUp call).given input = []) :
    (catchingUp call).Keeps cancelled input (.afterCatchUp p depth) := by
  refine .of_none htaken ((afterCatchUp_cases p depth).imp_right fun hnext => ⟨hnext.1, ?_⟩)
  rw [hgiven, hnext.2]
  rfl

end SessionStage

namespace Node

variable {n m : Node} {stage : SessionStage} {input : SessionInput}

theorem keeps_catchingUp (n : Node) (call : CatchUp) (input : SessionInput) :
    (SessionStage.catchingUp call).Keeps n.stopped input (n.advance (.catchingUp call) input).1 ∧
      (n.advance (.catchingUp call) input).2.events.scripthashes = n.events.scripthashes := by
  have hsame (htaken : (SessionStage.catchingUp call).taken? n.stopped input = none)
      (hgiven : (SessionStage.catchingUp call).given input = []) :
      (SessionStage.catchingUp call).Keeps n.stopped input (.catchingUp call) :=
    .of_eq htaken trivial (by rw [hgiven]; rfl)
  cases input with
  | answer query answer =>
    simp only [advance]
    by_cases hquery : query = call.query
    · subst hquery
      simp only [dif_pos]
      exact ⟨.afterCatchUp call _ _ rfl rfl, n.sync.silent_resumeCatchUp call answer⟩
    · rw [dif_neg hquery]
      exact ⟨hsame rfl rfl, rfl⟩
  | wake =>
    refine ⟨?_, rfl⟩
    rw [advance]
    split
    · exact .ended rfl _
    · exact hsame rfl rfl
  | subscribed reply => exact ⟨hsame rfl rfl, rfl⟩
  | pushed notice => exact ⟨hsame rfl rfl, rfl⟩
  | deliver => exact ⟨hsame rfl rfl, rfl⟩
  | noMoreTips => exact ⟨hsame rfl rfl, rfl⟩

theorem silent_wake (f : Follow) (s : Synchronizer) (cancelled : Bool) :
    (f.wake s cancelled).2.events.scripthashes = s.events.scripthashes := by
  rw [Follow.wake]
  split
  · rfl
  · split
    · rfl
    · split
      · rfl
      · split
        · rfl
        · next work queue _ => exact (s.discreet_beginTip work).silent
  · rfl

theorem keeps_following {f : Follow} (hf : f.Roomy) (n : Node) (input : SessionInput) :
    (SessionStage.following f).Keeps n.stopped input (n.advance (.following f) input).1 ∧
      (n.advance (.following f) input).2.events.scripthashes = n.events.scripthashes := by
  have hsame (htaken : (SessionStage.following f).taken? n.stopped input = none)
      (hgiven : (SessionStage.following f).given input = []) :
      (SessionStage.following f).Keeps n.stopped input (.following f) :=
    .of_eq htaken hf (by rw [hgiven, List.append_nil])
  cases input with
  | answer query answer =>
    simp only [advance]
    split
    · next call hcall =>
      by_cases hquery : query = call.query
      · subst hquery
        have hout := n.sync.discreet_resumeTip call answer
        simp only [dif_pos]
        refine ⟨.of_not_taken rfl ((hf.advance hout.retry).imp_right fun hnext => ?_), hout.silent⟩
        exact ⟨hnext.1, hnext.2.trans (List.append_nil _).symm⟩
      · rw [dif_neg hquery]
        exact ⟨hsame rfl rfl, rfl⟩
    · exact ⟨hsame rfl rfl, rfl⟩
  | wake =>
    obtain ⟨hfirst, hothers⟩ := hf.wake n.sync n.stopped
    refine ⟨.ofFollow hfirst (hothers.imp_right fun hnext => ?_), silent_wake f n.sync n.stopped⟩
    exact ⟨hnext.1, (List.append_nil _).trans hnext.2⟩
  | subscribed reply =>
    refine ⟨.of_not_taken rfl ((hf.subscribed reply).imp_right fun hnext => ?_), rfl⟩
    exact ⟨hnext.1, hnext.2.trans (List.append_nil _).symm⟩
  | pushed notice =>
    refine ⟨.of_not_taken rfl (.inr ⟨hf.accept notice, ?_⟩), rfl⟩
    rw [SessionStage.given]
    split
    · next hready => exact Follow.underWay_accept hready notice
    · next hready => rw [Follow.accept_of_not_ready hready, List.append_nil]
  | deliver =>
    obtain ⟨hnext, hway⟩ := hf.deliver
    exact ⟨.of_not_taken rfl (.inr ⟨hnext, hway.trans (List.append_nil _).symm⟩), rfl⟩
  | noMoreTips =>
    obtain ⟨hnext, hway⟩ := hf.sinkClosed
    exact ⟨.of_not_taken rfl (.inr ⟨hnext, hway.trans (List.append_nil _).symm⟩), rfl⟩

/-- **A step of a session keeps the order**, and tells nothing to those who listen for scripthashes.
-/
theorem advance_keeps (n : Node) (hroomy : stage.Roomy) (input : SessionInput) :
    stage.Keeps n.stopped input (n.advance stage input).1 ∧
      (n.advance stage input).2.events.scripthashes = n.events.scripthashes := by
  cases stage with
  | ended result =>
    have hadvance : n.advance (.ended result) input = (.ended result, n.sync) := by
      cases input <;> rfl
    rw [hadvance]
    exact ⟨.ended (by cases input <;> rfl) result, rfl⟩
  | catchingUp call => exact n.keeps_catchingUp call input
  | following f => exact keeps_following hroomy n input

/-- The node has the tips that the server pushes, or hands them to a session. -/
def UsesTips (n : Node) : Prop := n.tipsWaiting = true ∨ n.session.isSome = true

/-- The pushed tips that the node's session has still to handle, the first first. -/
def underWay (n : Node) : List TipWork := (n.session.map (·.underWay)).getD []

def Roomy (n : Node) : Prop := ∀ stage, n.session = some stage → stage.Roomy

/-- The tip that the worker of the node's session takes in a step. -/
def taken? (n : Node) (input : SessionInput) : Option TipWork :=
  n.session.bind fun stage => stage.taken? n.stopped input

/-- The pushed tip that the forwarder of the node's session takes in a step. -/
def given (n : Node) (input : SessionInput) : List TipWork :=
  (n.session.map fun stage => stage.given input).getD []

/-- The node `m` has the tips under way that the node `n` had, without the one that was taken and with
the one that was given, as long as it uses tips at all. -/
structure Keeps (n : Node) (taken given : List TipWork) (m : Node) : Prop where
  first : taken <+: n.underWay
  uses : m.UsesTips → n.UsesTips ∧ n.underWay ++ given = taken ++ m.underWay
  roomy : m.Roomy
  scripthashes : m.events.scripthashes = n.events.scripthashes

theorem underWay_of_not_usesTips (h : ¬ n.UsesTips) : n.underWay = [] := by
  rw [underWay]
  cases hsession : n.session with
  | none => rfl
  | some stage => exact absurd (.inr (by rw [hsession]; rfl)) h

/-- A node that uses no tips takes none. -/
theorem Keeps.taken_eq_nil {taken given : List TipWork} (h : n.Keeps taken given m)
    (hunused : ¬ n.UsesTips) : taken = [] := by
  have hfirst := h.first
  rw [underWay_of_not_usesTips hunused] at hfirst
  exact List.prefix_nil.1 hfirst

theorem Beside.keeps (h : n.Beside m) (hroomy : n.Roomy)
    (tips : m.tipsWaiting = true → n.tipsWaiting = true)
    (events : m.events.scripthashes = n.events.scripthashes) : n.Keeps [] [] m where
  first := List.nil_prefix
  uses huses := by
    rw [UsesTips, h.session_eq] at huses
    refine ⟨huses.imp_left tips, ?_⟩
    rw [List.append_nil, underWay, underWay, h.session_eq]
    rfl
  roomy := by
    rw [Roomy, h.session_eq]
    exact hroomy
  scripthashes := events

theorem given_eq_nil (h : ∀ notice, input ≠ .pushed notice) : n.given input = [] := by
  rw [given]
  cases n.session with
  | none => rfl
  | some stage =>
    cases input with
    | pushed notice => exact absurd rfl (h notice)
    | _ => rfl

theorem taken?_pushed (n : Node) (notice : TipNotice) : n.taken? (.pushed notice) = none := by
  rw [taken?]
  cases n.session <;> rfl

theorem taken?_noMoreTips (n : Node) : n.taken? .noMoreTips = none := by
  rw [taken?]
  cases n.session <;> rfl

/-- The end of a session is the end of its tips. -/
theorem conclude_cases {result? : Option (Except NodeError Unit)} (hsession : n.session = some stage)
    (h : n.conclude = (result?, m)) :
    (m.session = none ∧ m.tipsWaiting = false ∧ m.events = n.events) ∨
      m = n ∧ ∀ result, stage ≠ .ended result := by
  rw [conclude] at h
  split at h
  · obtain ⟨-, rfl⟩ := Prod.mk.inj h
    exact .inl ⟨rfl, rfl, rfl⟩
  · next hgoes =>
    obtain ⟨-, rfl⟩ := Prod.mk.inj h
    refine .inr ⟨rfl, ?_⟩
    rintro result rfl
    exact hgoes result hsession

theorem not_usesTips (hsession : n.session = none) (htips : n.tipsWaiting = false) :
    ¬ n.UsesTips := by
  rintro (h | h)
  · rw [htips] at h
    cases h
  · rw [hsession] at h
    cases h

theorem step_keeps {result? : Option (Except NodeError Unit)} (hroomy : n.Roomy)
    (h : n.step input = (result?, m)) :
    n.Keeps ((n.taken? input).toList.filter TipWork.isPush) (n.given input) m := by
  rw [step] at h
  rw [taken?, given]
  cases hsession : n.session with
  | none =>
    rw [hsession] at h
    cases h
    exact ⟨List.nil_prefix, fun huses => ⟨huses, List.append_nil _⟩, hroomy, rfl⟩
  | some stage =>
    have huses : n.UsesTips := .inr (by rw [hsession]; rfl)
    have hway : n.underWay = stage.underWay := by rw [underWay, hsession]; rfl
    obtain ⟨⟨hfirst, hothers⟩, hsilent⟩ := n.advance_keeps (hroomy stage hsession) input
    rw [hsession] at h
    dsimp only at h
    -- With the session the node gives the tips up, and nothing is claimed of them any more.
    obtain ⟨hnone, htips, hevents⟩ | ⟨rfl, hgoes⟩ := conclude_cases rfl h
    · refine ⟨hway ▸ hfirst, fun h => absurd h (not_usesTips hnone htips), fun stage hstage => ?_, ?_⟩
      · cases hnone.symm.trans hstage
      · rw [hevents]
        exact hsilent
    · obtain ⟨result, hended⟩ | ⟨hnext, horder⟩ := hothers
      · exact absurd hended (hgoes result)
      · refine ⟨hway ▸ hfirst, fun _ => ⟨huses, ?_⟩, fun stage hstage => ?_, hsilent⟩
        · rw [hway]
          exact horder
        · cases hstage
          exact hnext

theorem run_keeps {result? : Option (Except NodeError Unit)} (hroomy : n.Roomy)
    (h : n.run = (result?, m)) : n.Keeps [] [] m := by
  rw [run] at h
  split at h
  · cases h
    exact ⟨List.nil_prefix, fun huses => ⟨huses, List.append_nil _⟩, hroomy, rfl⟩
  · next hidle =>
    have hnone : n.session = none := Option.not_isSome_iff_eq_none.1 hidle
    split at h
    · cases h
      exact ⟨List.nil_prefix, fun h => absurd h (not_usesTips hnone rfl), hroomy, rfl⟩
    · next hconnected =>
      rw [not_or, not_not] at hconnected
      have hsilent := ({ n.sync with phase := .bulkSync } : Synchronizer).silent_beginCatchUp
      dsimp only at h
      obtain ⟨hover, htips, hevents⟩ | ⟨rfl, hgoes⟩ := conclude_cases rfl h
      · refine ⟨List.nil_prefix, fun h => absurd h (not_usesTips hover htips), fun stage hstage => ?_,
          ?_⟩
        · cases hover.symm.trans hstage
        · rw [hevents]
          exact hsilent
      · obtain ⟨result, hended⟩ | ⟨hnext, hempty⟩ := SessionStage.afterCatchUp_cases
          { n.sync with phase := .bulkSync }.beginCatchUp.1
          { n.sync with phase := .bulkSync }.beginCatchUp.2.settings.queueDepth
        · exact absurd hended (hgoes result)
        · refine ⟨List.nil_prefix, fun _ => ⟨.inl hconnected.2, ?_⟩, fun stage hstage => ?_, hsilent⟩
          · rw [List.append_nil, underWay, underWay, hnone]
            exact hempty.symm
          · cases hstage
            exact hnext

end Node

end HeaderFollower
