/-
# What a start that fails leaves behind

A start that fails before it has checked the server keeps no connection. Once the connection is kept,
what is watched is subscribed again, and an error after which a connection is of no use ends the
start without closing it. `connected_after_failed_start` says exactly when the node is left with an
open connection: when the start was refused because the node has been stopped, and when such an error
came while the connection stayed open (`LeftOpen`). By `Client.timeout_of_fatal` the latter is a
server that is silent on a subscription; `failed_start_connected` is such a start.
-/

import HeaderFollower.Proofs.Node.Session
import HeaderFollower.Proofs.Node.Start

namespace HeaderFollower
namespace Node

variable {n m : Node} {c d : Link} {e : NodeError} {r : Except NodeError Unit}
  {said talk before again : List Exchange} {watched : List String} {method : String} {params : Json}
  {answer : Answered}

/-! ## Whether a connection is open -/

/-- Whether a connection is open after some exchanges. -/
def aliveAfter (alive : Bool) : List Exchange → Bool
  | [] => alive
  | .dialled _ _ :: rest => aliveAfter alive rest
  | .asked _ _ r :: rest => aliveAfter r.alive rest

theorem aliveAfter_append (alive : Bool) (before again : List Exchange) :
    aliveAfter alive (before ++ again) = aliveAfter (aliveAfter alive before) again := by
  induction before generalizing alive with
  | nil => rfl
  | cons first rest ih =>
    cases first with
    | dialled address r => exact ih alive
    | asked method params r => exact ih r.alive

/-- The last answer says it. -/
theorem aliveAfter_of_getLast? {alive : Bool}
    (h : said.getLast? = some (.asked method params answer)) :
    aliveAfter alive said = answer.alive := by
  obtain ⟨before, rfl⟩ := List.getLast?_eq_some_iff.1 h
  rw [aliveAfter_append]
  rfl

theorem aliveAfter_ask {α : Type} {call : ServerCall α} {p : Except ClientError α × Link}
    (h : (c.ask call).Leads said p) : p.2.alive = aliveAfter c.alive said := by
  rcases Link.leads_ask_iff.1 h with ⟨-, r, rfl, rfl⟩ | ⟨-, rfl, rfl⟩
  · rfl
  · rfl

/-! ## Subscribing again -/

/-- The last that was said is that a watched scripthash could not be subscribed, for a reason after
which a connection is of no use, and the connection is open. -/
def LeftOpen (watched : List String) (said : List Exchange) : Prop :=
  ∃ scripthash ∈ watched, ∃ cause : ClientError, cause.connectionFatal = true ∧
    said.getLast? = some (.asked Method.scripthashSubscribe (.array [.string scripthash])
      ⟨.error cause, true⟩)

theorem not_leftOpen_nil : ¬ LeftOpen watched [] := by
  rintro ⟨_, -, _, -, hlast⟩
  cases hlast

theorem not_leftOpen_dialled {address : ServerAddress} {outcome : Except ConnectError Unit} :
    ¬ LeftOpen watched [.dialled address outcome] := by
  rintro ⟨_, -, _, -, hlast⟩
  cases hlast

/-- Before something that ends otherwise nothing counts. -/
theorem leftOpen_append_iff (h : ¬ LeftOpen watched before) :
    LeftOpen watched (before ++ again) ↔ LeftOpen watched again := by
  constructor
  · rintro ⟨scripthash, hmem, cause, hfatal, hlast⟩
    rw [List.getLast?_append] at hlast
    cases hagain : again.getLast? with
    | none =>
      rw [hagain] at hlast
      exact absurd ⟨scripthash, hmem, cause, hfatal, hlast⟩ h
    | some last =>
      rw [hagain] at hlast
      exact ⟨scripthash, hmem, cause, hfatal, hagain.trans hlast⟩
  · rintro ⟨scripthash, hmem, cause, hfatal, hlast⟩
    refine ⟨scripthash, hmem, cause, hfatal, ?_⟩
    rw [List.getLast?_append, hlast]
    rfl

/-- A result that has another shape is no reason to give the connection up. -/
theorem outcome_of_fatal {scripthash : String} {outcome : Except ClientError Json}
    {cause : ClientError}
    (h : outcome.bind (ServerCall.scripthashSubscribe scripthash).decode = .error cause)
    (hfatal : cause.connectionFatal = true) : outcome = .error cause := by
  cases outcome with
  | error e => exact congrArg Except.error (Except.error.inj h)
  | ok j =>
    dsimp only [Except.bind, ServerCall.scripthashSubscribe, ServerCall.reading] at h
    split at h
    · cases h
    · cases h
      cases hfatal

theorem aliveAfter_resubscribe (h : (resubscribe watched c).Leads said (r, d)) :
    d.alive = aliveAfter c.alive said := by
  induction watched generalizing c said with
  | nil =>
    cases h
    rfl
  | cons scripthash rest ih =>
    obtain ⟨⟨result, c'⟩, before, again, rfl, hask, h⟩ := Dialogue.leads_bind_iff.1 h
    have halive : c'.alive = aliveAfter c.alive before := aliveAfter_ask hask
    rw [aliveAfter_append, ← halive]
    cases result with
    | ok state => exact ih h
    | error cause =>
      dsimp only at h
      split at h
      · cases h
        rfl
      · exact ih h

/-- It fails with an open connection only if a subscription does. -/
theorem leftOpen_of_resubscribe (h : (resubscribe watched c).Leads said (.error e, d))
    (hopen : d.alive = true) : LeftOpen watched said := by
  induction watched generalizing c said with
  | nil => cases h
  | cons scripthash rest ih =>
    have hrest {c : Link} {before again : List Exchange}
        (h : (resubscribe rest c).Leads again (.error e, d)) :
        LeftOpen (scripthash :: rest) (before ++ again) := by
      obtain ⟨other, hmem, cause, hfatal, hlast⟩ := ih h
      refine ⟨other, List.mem_cons_of_mem _ hmem, cause, hfatal, ?_⟩
      rw [List.getLast?_append, hlast]
      rfl
    obtain ⟨⟨result, c'⟩, before, again, rfl, hask, h⟩ := Dialogue.leads_bind_iff.1 h
    -- Only a fatal error ends the loop here; otherwise what is said last is said further on.
    cases result with
    | ok state => exact hrest h
    | error cause =>
      dsimp only at h
      split at h
      · next hfatal =>
        cases h
        rcases Link.leads_ask_iff.1 hask with ⟨-, ⟨outcome, alive⟩, rfl, hp⟩ | ⟨hclosed, -, hp⟩
        · obtain ⟨hresult, rfl⟩ := Prod.mk.inj hp
          obtain rfl := outcome_of_fatal hresult.symm hfatal
          obtain rfl : alive = true := hopen
          exact ⟨scripthash, List.mem_cons_self, cause, hfatal, rfl⟩
        · obtain ⟨-, rfl⟩ := Prod.mk.inj hp
          rw [hclosed] at hopen
          cases hopen
      · exact hrest h

theorem leftOpen_iff_of_resubscribe (h : (resubscribe watched c).Leads said (.error e, d)) :
    d.alive = true ↔ LeftOpen watched said := by
  refine ⟨leftOpen_of_resubscribe h, ?_⟩
  rintro ⟨scripthash, -, cause, -, hlast⟩
  rw [aliveAfter_resubscribe h, aliveAfter_of_getLast? hlast]

/-! ## The whole start -/

/-- The checks do not end with a subscription. -/
theorem not_leftOpen_of_checks {address : ServerAddress} {outcome : Except ConnectError Unit}
    (h : (inTurn n.checks c).Leads talk (r, d)) :
    ¬ LeftOpen watched (.dialled address outcome :: talk) := by
  rw [← List.singleton_append, leftOpen_append_iff not_leftOpen_dialled]
  rintro ⟨scripthash, -, cause, -, hlast⟩
  obtain ⟨before, rfl⟩ := List.getLast?_eq_some_iff.1 hlast
  have hmethod := method_of_asks_checks (Dialogue.Leads.asks h)
  exact absurd hmethod (by decide)

/-- A session that has begun does not end for want of a connection. -/
theorem conclude_ne_notConnected (n : Node) : n.conclude.1 ≠ some (.error .notConnected) := by
  rw [conclude]
  split
  · next result _ =>
    intro h
    replace h : n.sessionResult result = .error .notConnected := Option.some.inj h
    cases result with
    | ok => cases h
    | error e =>
      rw [sessionResult] at h
      split at h
      · cases h
      · cases h
  · exact fun h => by cases h

/-- A session that is begun has a connection to follow, or does not begin for want of one. -/
theorem run_ne_notConnected_iff (idle : n.session = none) :
    n.run.1 ≠ some (.error .notConnected) ↔ n.CanRun := by
  constructor
  · intro h
    by_cases hcannot : n.client?.isNone ∨ ¬ n.tipsWaiting
    · refine absurd ?_ h
      rw [run, idle, if_neg (by decide), if_pos hcannot]
    · rw [not_or, not_not, Bool.not_eq_true, Option.isNone_eq_false_iff] at hcannot
      exact ⟨idle, hcannot⟩
  · intro hcan
    rw [hcan.run_eq]
    exact conclude_ne_notConnected _

/-- Without a connection no session can begin. -/
theorem not_canRun_disconnect (n : Node) : ¬ n.disconnect.CanRun := fun h => by cases h.2.2

theorem connected_keep (n : Node) (c : Link) : (n.keep c).status.connected = c.alive := by
  rw [status, client?, keep, Option.filter_some]
  cases c.alive <;> rfl

theorem canRun_keep_iff (idle : n.session = none) : (n.keep c).CanRun ↔ c.alive = true := by
  have hopen : (n.keep c).client?.isSome = c.alive := connected_keep n c
  rw [CanRun, hopen]
  exact ⟨fun h => h.2.1, fun h => ⟨idle, h, rfl⟩⟩

/-- **When a failed start leaves a connection open**, and when a session can begin after it. -/
theorem connected_after_failed_start (h : n.start.Leads said (.error e, m))
    (idle : n.session = none) :
    (m.status.connected = true ↔
      n.stopped = true ∧ n.status.connected = true ∨ LeftOpen n.watched said) ∧
    (m.run.1 ≠ some (.error .notConnected) ↔
      n.stopped = true ∧ n.CanRun ∨ LeftOpen n.watched said) := by
  have hnone (hgoes : n.stopped = false) (hleft : ¬ LeftOpen n.watched said)
      (hm : m = n.disconnect) :
      (m.status.connected = true ↔
        n.stopped = true ∧ n.status.connected = true ∨ LeftOpen n.watched said) ∧
      (m.run.1 ≠ some (.error .notConnected) ↔
        n.stopped = true ∧ n.CanRun ∨ LeftOpen n.watched said) := by
    rw [hm, run_ne_notConnected_iff (n := n.disconnect) idle, connected_disconnect]
    simp only [hgoes, hleft, not_canRun_disconnect, Bool.false_eq_true, false_and, or_false,
      and_self]
  cases started_of_leads h with
  | refused halted =>
    rw [run_ne_notConnected_iff idle]
    simp only [halted, true_and, not_leftOpen_nil, or_false, and_self]
  | unreached goes cause => exact hnone goes not_leftOpen_dialled rfl
  | rejected goes checked => exact hnone goes (not_leftOpen_of_checks checked) rfl
  | @kept talk again c d _ goes checked subscribed =>
    have hleft : LeftOpen n.watched (.dialled n.address (.ok ()) :: (talk ++ again)) ↔
        d.alive = true := by
      rw [← List.cons_append, leftOpen_append_iff (not_leftOpen_of_checks checked),
        leftOpen_iff_of_resubscribe subscribed]
    rw [run_ne_notConnected_iff (n := n.keep d) idle, hleft, connected_keep, canRun_keep_iff idle]
    simp only [goes, Bool.false_eq_true, false_and, false_or, and_self]

/-! ## A server that is silent on a subscription -/

/-- A node without headers that watches a scripthash. -/
def watching : Node where
  network := .regtest
  address := ⟨"localhost", 50001, .tcp⟩
  trust := none
  clientSettings := {}
  checkCanary := true
  sync := .start {} (.ofFile 0 { headerSize := 80, content := some [] }) (.start 1)
  watched := ["8b01df4e368ea28f8dc0423bcf7a4923e3a12d307c875e47a0cfbf90b5c39161"]

/-- No server listens. -/
def nobody : ConnectError := .io "localhost:50001" "connection refused"

/-- If no server listens, no connection is left. -/
theorem connected_after_failed_start_nobody :
    ∃ said e m, watching.start.Leads said (.error e, m) ∧ m.status.connected = false ∧
      m.run.1 = some (.error .notConnected) := by
  have hstart := leads_start_of_refused (n := watching) rfl nobody
  obtain ⟨hconnected, hrun⟩ := connected_after_failed_start hstart rfl
  have hnot : ¬ (watching.stopped = true ∧ watching.CanRun ∨
      LeftOpen watching.watched [.dialled watching.address (.error nobody)]) := by
    rintro (⟨hstopped, -⟩ | hleft)
    · cases hstopped
    · exact not_leftOpen_dialled hleft
  refine ⟨_, _, _, hstart, ?_, ?_⟩
  · refine Bool.eq_false_iff.2 (mt hconnected.1 (mt (Or.imp_left fun h => ?_) hnot))
    cases h.1
  · exact not_not.1 (mt hrun.1 hnot)

/-- Subscribing again ends with a subscription that takes too long. -/
theorem leads_resubscribe_of_silent (scripthash : String) (rest : List String) (after : Duration) :
    (resubscribe (scripthash :: rest) {}).Leads
      [.asked Method.scripthashSubscribe (.array [.string scripthash])
        ⟨.error (.timeout Method.scripthashSubscribe after), true⟩]
      (.error (.client (.timeout Method.scripthashSubscribe after)), {}) := by
  have hask : (({} : Link).ask (.scripthashSubscribe scripthash)).Leads
      [.asked Method.scripthashSubscribe (.array [.string scripthash])
        ⟨.error (.timeout Method.scripthashSubscribe after), true⟩]
      (.error (.timeout Method.scripthashSubscribe after), {}) :=
    Link.leads_ask_iff.2 (.inl ⟨rfl, _, rfl, rfl⟩)
  exact Dialogue.leads_bind_iff.2 ⟨_, _, [], rfl, hask, .done _⟩

/-- **A failed start can leave a connection open**, which a session can then be begun on. -/
theorem failed_start_connected :
    ∃ said e m, watching.start.Leads said (.error e, m) ∧ watching.stopped = false ∧
      m.status.connected = true ∧ m.run.1 ≠ some (.error .notConnected) := by
  obtain ⟨talk, hchecks⟩ := leads_checks (n := watching.disconnect) fun txid h => by cases h
  have hstart := leads_start_of_checks (n := watching) rfl hchecks
    (leads_resubscribe_of_silent _ [] (.ofSeconds 30))
  refine ⟨_, _, _, hstart, rfl, connected_keep watching {}, ?_⟩
  exact (run_ne_notConnected_iff rfl).2 ((canRun_keep_iff (n := watching) rfl).2 rfl)

end Node
end HeaderFollower
