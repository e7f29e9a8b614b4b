/-
# What is watched

A node's owner subscribes and unsubscribes scripthashes, starts the node and disconnects it, in any
order and as often as the server breaks off. `Node.History` is a list of what was done and how it went
(`Deed`). What is watched depends on that list alone (`Kept`), and a start that gets through the checks
asks for just that (`Resubscribed`): `kept_across_starts` says both.
-/

import HeaderFollower.Node.Session
import HeaderFollower.Proofs.Node.FailedStart
import HeaderFollower.Proofs.Protocol.Request

namespace HeaderFollower

open Dialogue

/-! ## Sorted texts -/

/-- What is put into a sorted list is put where it belongs. -/
theorem pairwise_insertSorted {s : String} {all : List String} (h : all.Pairwise (· < ·)) :
    (insertSorted s all).Pairwise (· < ·) := by
  induction all with
  | nil => exact List.pairwise_singleton _ _
  | cons t rest ih =>
    obtain ⟨habove, hrest⟩ := List.pairwise_cons.1 h
    unfold insertSorted
    split
    · next hlt =>
      refine List.pairwise_cons.2 ⟨List.forall_mem_cons.2 ⟨hlt, fun u hu => ?_⟩, h⟩
      exact String.lt_trans hlt (habove u hu)
    · next hnlt =>
      split
      · exact h
      · next hne =>
        have hlt : t < s := Std.lt_of_le_of_ne (String.not_lt.1 hnlt) (Ne.symm hne)
        refine List.pairwise_cons.2 ⟨fun u hu => ?_, ih hrest⟩
        rcases mem_insertSorted.1 hu with rfl | hu
        · exact hlt
        · exact habove u hu

/-- The request for a scripthash of at most a mebibyte can be written down. -/
theorem exists_frame_scripthashSubscribe {scripthash : String}
    (h : scripthash.utf8ByteSize ≤ 1024 * 1024) (id : UInt64) :
    ∃ bytes, Request.frame id.toNat Method.scripthashSubscribe (.array [.string scripthash]) =
      .ok bytes := by
  refine Request.exists_frame id ?_
  have hid : (Json.spell (.number (.natural id))).length ≤ 20 :=
    Json.length_digitBytes_le (n := id.toNat) (by decide) (Nat.lt_trans id.toNat_lt (by decide))
  have hscripthash := Json.length_spellText_le scripthash
  have hnames : (Json.spellText "id").length = 4 ∧ (Json.spellText "method").length = 8 ∧
      (Json.spellText "params").length = 8 ∧
      (Json.spellText Method.scripthashSubscribe).length = 33 := by decide
  simp only [Request.object, Json.spell, Json.spellMembers, Json.spellItems, Json.commas,
    List.flatMap_cons, List.flatMap_nil, List.append_nil, List.length_cons, List.length_append,
    List.length_nil] at hid ⊢
  rw [maxFrame]
  omega

/-! ## Deeds -/

/-- What the owner of a node has done, and how it went. -/
inductive Deed where
  | subscribed (scripthash : String) (result : Except NodeError (Option String))
  | unsubscribed (scripthash : String) (result : Except NodeError Bool)
  | started (said : List Exchange) (result : Except NodeError Unit)
  | disconnected

/-- A subscription of the scripthash has worked, and since the last one that did, nobody has
unsubscribed it. -/
def Kept (deeds : List Deed) (scripthash : String) : Prop :=
  ∃ before state after, deeds = before ++ .subscribed scripthash (.ok state) :: after ∧
    (∀ state, .subscribed scripthash (.ok state) ∉ after) ∧
    ∀ result, .unsubscribed scripthash result ∉ after

section Kept

variable {deeds before after : List Deed} {deed last : Deed} {s : String}

/-- A deed stands last, or before the last one. -/
theorem snoc_eq_iff :
    deeds ++ [last] = before ++ deed :: after ↔
      (deeds = before ∧ last = deed ∧ after = []) ∨
        ∃ between, deeds = before ++ deed :: between ∧ after = between ++ [last] := by
  constructor
  · intro h
    rcases List.eq_nil_or_concat after with rfl | ⟨between, final, rfl⟩
    · obtain ⟨hbefore, hlast⟩ := List.append_inj' h rfl
      exact .inl ⟨hbefore, (List.cons.inj hlast).1, rfl⟩
    · rw [List.concat_eq_append] at h ⊢
      rw [← List.cons_append, ← List.append_assoc] at h
      obtain ⟨hdeeds, hlast⟩ := List.append_inj' h rfl
      exact .inr ⟨between, hdeeds, by rw [hlast]⟩
  · rintro (⟨rfl, rfl, rfl⟩ | ⟨between, rfl, rfl⟩)
    · rfl
    · rw [List.append_assoc, List.cons_append]

theorem not_kept_nil : ¬ Kept [] s := by
  rintro ⟨before, _, _, h, -⟩
  cases before <;> cases h

/-- A subscription that works keeps the scripthash. -/
theorem kept_snoc_subscribed (deeds : List Deed) (s : String) (state : Option String) :
    Kept (deeds ++ [.subscribed s (.ok state)]) s :=
  ⟨deeds, state, [], rfl, nofun, nofun⟩

/-- By any other deed what was kept before stays kept, if it is not unsubscribed. -/
theorem kept_snoc_iff (h : ∀ state, last ≠ .subscribed s (.ok state)) :
    Kept (deeds ++ [last]) s ↔ Kept deeds s ∧ ∀ result, last ≠ .unsubscribed s result := by
  constructor
  · rintro ⟨before, state, after, hdeeds, hlast, hsince⟩
    rcases snoc_eq_iff.1 hdeeds with ⟨-, hdeed, -⟩ | ⟨between, rfl, rfl⟩
    · exact absurd hdeed (h state)
    · simp only [List.mem_append, List.mem_singleton, not_or] at hlast hsince
      exact ⟨⟨before, state, between, rfl, fun state => (hlast state).1,
        fun result => (hsince result).1⟩, fun result => Ne.symm (hsince result).2⟩
  · rintro ⟨⟨before, state, between, rfl, hlast, hsince⟩, hdeed⟩
    refine ⟨before, state, between ++ [last], snoc_eq_iff.2 (.inr ⟨between, rfl, rfl⟩), ?_, ?_⟩
    · intro state hmem
      rcases List.mem_append.1 hmem with hmem | hmem
      · exact hlast state hmem
      · exact h state (List.mem_singleton.1 hmem).symm
    · intro result hmem
      rcases List.mem_append.1 hmem with hmem | hmem
      · exact hsince result hmem
      · exact hdeed result (List.mem_singleton.1 hmem).symm

/-- The deed is neither a subscription that works nor the contrary. -/
def Deed.Idle : Deed → Prop
  | .subscribed _ (.ok _) => False
  | .unsubscribed _ _ => False
  | _ => True

theorem kept_snoc_of_idle (h : last.Idle) : Kept (deeds ++ [last]) s ↔ Kept deeds s := by
  rw [kept_snoc_iff]
  · refine and_iff_left fun result hlast => ?_
    subst hlast
    exact h
  · intro state hlast
    subst hlast
    exact h

/-- What is kept was subscribed. -/
theorem Kept.subscribed (h : Kept deeds s) : ∃ state, .subscribed s (.ok state) ∈ deeds := by
  obtain ⟨before, state, after, rfl, -⟩ := h
  exact ⟨state, List.mem_append_right _ List.mem_cons_self⟩

end Kept

/-! ## Subscribing again -/

/-- The subscription of the scripthash was asked for, and the answer is no reason to give the
connection up. -/
def Exchange.Resubscribes (scripthash : String) (e : Exchange) : Prop :=
  ∃ r : Answered, e = .asked Method.scripthashSubscribe (.array [.string scripthash]) r ∧
    ∀ cause, r.outcome = .error cause → cause.connectionFatal = false

/-- What is said, and what comes of it, when scripthashes are subscribed one after the other. -/
inductive Resubscribed : List String → List Exchange → Except NodeError Unit → Prop where
  /-- Each was asked for once, in turn. -/
  | all {watched : List String} {again : List Exchange}
      (each : List.Forall₂ Exchange.Resubscribes watched again) :
      Resubscribed watched again (.ok ())
  /-- The connection was of no use any more, before or after one of them was asked for. -/
  | lost {done rest : List String} {scripthash : String} {again last : List Exchange}
      {cause : ClientError} (each : List.Forall₂ Exchange.Resubscribes done again)
      (fatal : cause.connectionFatal = true)
      (asked : last = [] ∨ ∃ alive, last =
        [.asked Method.scripthashSubscribe (.array [.string scripthash]) ⟨.error cause, alive⟩]) :
      Resubscribed (done ++ scripthash :: rest) (again ++ last) (.error (.client cause))

namespace Node

variable {n m k : Node} {deeds before after : List Deed} {c d : Link} {e : NodeError}
  {r : Except NodeError Unit} {said again : List Exchange} {watched : List String} {s : String}

/-- What comes before goes before. -/
theorem resubscribed_cons {first : Exchange} (hfirst : first.Resubscribes s)
    (h : Resubscribed watched again r) : Resubscribed (s :: watched) (first :: again) r := by
  cases h with
  | all each => exact .all (.cons hfirst each)
  | lost each fatal asked => exact .lost (.cons hfirst each) fatal asked

/-- The first one may be the last. -/
theorem resubscribed_of_fatal {cause : ClientError} (fatal : cause.connectionFatal = true)
    (asked : again = [] ∨ ∃ alive, again =
      [.asked Method.scripthashSubscribe (.array [.string s]) ⟨.error cause, alive⟩]) :
    Resubscribed (s :: watched) again (.error (.client cause)) := by
  have h : Resubscribed ([] ++ s :: watched) ([] ++ again) (.error (.client cause)) :=
    .lost .nil fatal asked
  exact h

theorem resubscribed_of_leads (h : (resubscribe watched c).Leads again (r, d)) :
    Resubscribed watched again r := by
  induction watched generalizing c again with
  | nil =>
    cases h
    exact .all .nil
  | cons scripthash rest ih =>
    obtain ⟨⟨result, c'⟩, before, behind, rfl, hask, hrest⟩ := leads_bind_iff.1 h
    rcases Link.leads_ask_iff.1 hask with ⟨-, ⟨outcome, alive⟩, rfl, hp⟩ | ⟨-, rfl, hp⟩
    · obtain ⟨hresult, rfl⟩ := Prod.mk.inj hp
      cases result with
      | ok state =>
        refine resubscribed_cons ⟨_, rfl, ?_⟩ (ih hrest)
        rintro cause rfl
        cases hresult
      | error cause =>
        dsimp only at hrest
        split at hrest
        · next hfatal =>
          cases hrest
          obtain rfl := outcome_of_fatal hresult.symm hfatal
          exact resubscribed_of_fatal hfatal (.inr ⟨alive, rfl⟩)
        · next hfatal =>
          refine resubscribed_cons ⟨_, rfl, ?_⟩ (ih hrest)
          rintro other rfl
          obtain rfl : cause = other := Except.error.inj hresult
          exact Bool.eq_false_iff.2 hfatal
    · obtain ⟨rfl, rfl⟩ := Prod.mk.inj hp
      cases hrest
      exact resubscribed_of_fatal rfl (.inl rfl)

/-! ## What is left alone -/

/-- The nodes follow the same server, check it for the same things, and watch the same. -/
structure Alike (n m : Node) : Prop where
  network_eq : m.network = n.network
  address_eq : m.address = n.address
  checkCanary_eq : m.checkCanary = n.checkCanary
  watched_eq : m.watched = n.watched

theorem Alike.refl (n : Node) : n.Alike n := ⟨rfl, rfl, rfl, rfl⟩

theorem alike_request {α : Type} {call : ServerCall α} {result : Except NodeError α}
    (h : (n.request call).Leads said (result, m)) : n.Alike m := by
  rw [request] at h
  split at h
  · cases h
    exact .refl n
  · obtain ⟨⟨answer, c⟩, -, behind, -, -, h⟩ := leads_bind_iff.1 h
    cases h
    exact ⟨rfl, rfl, rfl, rfl⟩

theorem alike_start (h : n.start.Leads said (r, m)) : n.Alike m := by
  cases started_of_leads h with
  | refused => exact .refl n
  | unreached => exact ⟨rfl, rfl, rfl, rfl⟩
  | rejected => exact ⟨rfl, rfl, rfl, rfl⟩
  | kept => exact ⟨rfl, rfl, rfl, rfl⟩

theorem alike_conclude (n : Node) : n.Alike n.conclude.2 := by
  rw [conclude]
  split
  · exact ⟨rfl, rfl, rfl, rfl⟩
  · exact .refl n

theorem alike_run (n : Node) : n.Alike n.run.2 := by
  rw [run]
  split
  · exact .refl n
  · split
    · exact ⟨rfl, rfl, rfl, rfl⟩
    · obtain ⟨hnetwork, haddress, hcanary, hwatched⟩ := alike_conclude { n with
        sync := ({ n.sync with phase := .bulkSync }.beginCatchUp).2
        synchronized := true
        tipsWaiting := false
        session := some (.afterCatchUp ({ n.sync with phase := .bulkSync }.beginCatchUp).1
          ({ n.sync with phase := .bulkSync }.beginCatchUp).2.settings.queueDepth) }
      exact ⟨hnetwork, haddress, hcanary, hwatched⟩

theorem alike_step (n : Node) (input : SessionInput) : n.Alike (n.step input).2 := by
  rw [step]
  split
  · exact .refl n
  · next stage _ =>
    obtain ⟨hnetwork, haddress, hcanary, hwatched⟩ := alike_conclude { n with
      sync := (n.advance stage input).2, session := some (n.advance stage input).1 }
    exact ⟨hnetwork, haddress, hcanary, hwatched⟩

/-- A subscription puts the scripthash among the watched ones if it works. -/
theorem alike_subscribe {result : Except NodeError (Option String)}
    (h : (n.subscribe s).Leads said (result, m)) :
    ({ n with watched := match result with
      | .ok _ => insertSorted s n.watched
      | .error _ => n.watched } : Node).Alike m := by
  obtain ⟨⟨answer, k⟩, before, behind, -, hask, hdone⟩ := leads_bind_iff.1 h
  obtain ⟨hnetwork, haddress, hcanary, hwatched⟩ := alike_request hask
  cases answer with
  | error e =>
    cases hdone
    exact ⟨hnetwork, haddress, hcanary, hwatched⟩
  | ok state =>
    cases hdone
    exact ⟨hnetwork, haddress, hcanary, congrArg (insertSorted s) hwatched⟩

/-! ## Histories -/

/-- The owner has done this with the node `n`, and the node `m` has come of it. Meanwhile the
connection may have broken, and a session may have been begun and gone on. -/
inductive History (n : Node) : List Deed → Node → Prop where
  | new : History n [] n
  | subscribe {deeds : List Deed} {m k : Node} {scripthash : String} {said : List Exchange}
      {result : Except NodeError (Option String)} (h : History n deeds m)
      (leads : (m.subscribe scripthash).Leads said (result, k)) :
      History n (deeds ++ [.subscribed scripthash result]) k
  | unsubscribe {deeds : List Deed} {m k : Node} {scripthash : String} {said : List Exchange}
      {result : Except NodeError Bool} (h : History n deeds m)
      (leads : (m.unsubscribe scripthash).Leads said (result, k)) :
      History n (deeds ++ [.unsubscribed scripthash result]) k
  | start {deeds : List Deed} {m k : Node} {said : List Exchange} {result : Except NodeError Unit}
      (h : History n deeds m) (leads : m.start.Leads said (result, k)) :
      History n (deeds ++ [.started said result]) k
  | disconnect {deeds : List Deed} {m : Node} (h : History n deeds m) :
      History n (deeds ++ [.disconnected]) m.disconnect
  | lose {deeds : List Deed} {m : Node} (h : History n deeds m) : History n deeds m.lose
  | stop {deeds : List Deed} {m : Node} (h : History n deeds m) : History n deeds m.stop
  | run {deeds : List Deed} {m : Node} (h : History n deeds m) : History n deeds m.run.2
  | step {deeds : List Deed} {m : Node} (h : History n deeds m) (input : SessionInput) :
      History n deeds (m.step input).2

namespace History

/-- Every start in a history was made on a node with the history before it. -/
theorem exists_start (h : History n deeds m)
    (hstart : deeds = before ++ .started said r :: after) :
    ∃ k l, History n before k ∧ k.start.Leads said (r, l) := by
  induction h generalizing after with
  | new => cases before <;> cases hstart
  | subscribe h leads ih =>
    rcases snoc_eq_iff.1 hstart with ⟨-, hlast, -⟩ | ⟨between, hdeeds, -⟩
    · cases hlast
    · exact ih hdeeds
  | unsubscribe h leads ih =>
    rcases snoc_eq_iff.1 hstart with ⟨-, hlast, -⟩ | ⟨between, hdeeds, -⟩
    · cases hlast
    · exact ih hdeeds
  | start h leads ih =>
    rcases snoc_eq_iff.1 hstart with ⟨rfl, hlast, -⟩ | ⟨between, hdeeds, -⟩
    · cases hlast
      exact ⟨_, _, h, leads⟩
    · exact ih hdeeds
  | disconnect h ih =>
    rcases snoc_eq_iff.1 hstart with ⟨-, hlast, -⟩ | ⟨between, hdeeds, -⟩
    · cases hlast
    · exact ih hdeeds
  | lose h ih => exact ih hstart
  | stop h ih => exact ih hstart
  | run h ih => exact ih hstart
  | step h input ih => exact ih hstart

/-- What holds of a node with the history `deeds`, if nothing was watched in the beginning. -/
structure Sound (n : Node) (deeds : List Deed) (m : Node) : Prop where
  network_eq : m.network = n.network
  address_eq : m.address = n.address
  checkCanary_eq : m.checkCanary = n.checkCanary
  sorted : m.watched.Pairwise (· < ·)
  mem_iff : ∀ s, s ∈ m.watched ↔ Kept deeds s

/-- What leaves the watched scripthashes alone leaves a sound node sound. -/
theorem Sound.alike (h : Sound n deeds m) (hmk : m.Alike k) : Sound n deeds k where
  network_eq := hmk.network_eq.trans h.network_eq
  address_eq := hmk.address_eq.trans h.address_eq
  checkCanary_eq := hmk.checkCanary_eq.trans h.checkCanary_eq
  sorted := hmk.watched_eq ▸ h.sorted
  mem_iff s := by rw [hmk.watched_eq, h.mem_iff]

/-- A deed that neither keeps a scripthash nor gives one up does not matter. -/
theorem Sound.snoc (h : Sound n deeds m) (last : Deed) (hidle : last.Idle) :
    Sound n (deeds ++ [last]) m where
  network_eq := h.network_eq
  address_eq := h.address_eq
  checkCanary_eq := h.checkCanary_eq
  sorted := h.sorted
  mem_iff s := by rw [h.mem_iff, kept_snoc_of_idle hidle]

theorem Sound.subscribed (h : Sound n deeds m) (s : String) (state : Option String) :
    Sound n (deeds ++ [.subscribed s (.ok state)])
      { m with watched := insertSorted s m.watched } where
  network_eq := h.network_eq
  address_eq := h.address_eq
  checkCanary_eq := h.checkCanary_eq
  sorted := pairwise_insertSorted h.sorted
  mem_iff t := by
    rw [mem_insertSorted, h.mem_iff]
    by_cases heq : t = s
    · subst heq
      exact iff_of_true (.inl rfl) (kept_snoc_subscribed deeds t state)
    · rw [kept_snoc_iff fun _ hdeed => heq (Deed.subscribed.inj hdeed).1.symm]
      exact ⟨fun hkept => ⟨hkept.resolve_left heq, fun _ hdeed => by cases hdeed⟩,
        fun hkept => .inr hkept.1⟩

theorem Sound.unsubscribed (h : Sound n deeds m) (s : String) (result : Except NodeError Bool) :
    Sound n (deeds ++ [.unsubscribed s result])
      { m with watched := m.watched.filter (· ≠ s) } where
  network_eq := h.network_eq
  address_eq := h.address_eq
  checkCanary_eq := h.checkCanary_eq
  sorted := h.sorted.filter _
  mem_iff t := by
    have hother (state : Option String) :
        Deed.unsubscribed s result ≠ .subscribed t (.ok state) := fun hdeed => by cases hdeed
    rw [List.mem_filter, h.mem_iff, kept_snoc_iff hother, decide_eq_true_eq]
    refine and_congr_right fun _ => ⟨fun hne _ hdeed => ?_, fun hdeed heq => ?_⟩
    · exact hne (Deed.unsubscribed.inj hdeed).1.symm
    · exact hdeed result (heq ▸ rfl)

/-- **What is watched is what was kept.** -/
theorem sound (hnew : n.watched = []) (h : History n deeds m) : Sound n deeds m := by
  induction h with
  | new =>
    refine ⟨rfl, rfl, rfl, hnew ▸ .nil, fun s => ?_⟩
    rw [hnew]
    exact iff_of_false List.not_mem_nil not_kept_nil
  | @subscribe deeds m k scripthash said result h leads ih =>
    cases result with
    | error e => exact (ih.snoc (.subscribed scripthash (.error e)) trivial).alike (alike_subscribe leads)
    | ok state => exact (ih.subscribed scripthash state).alike (alike_subscribe leads)
  | unsubscribe h leads ih => exact (ih.unsubscribed _ _).alike (alike_request leads)
  | start h leads ih => exact (ih.snoc (.started _ _) trivial).alike (alike_start leads)
  | disconnect h ih => exact (ih.snoc .disconnected trivial).alike ⟨rfl, rfl, rfl, rfl⟩
  | lose h ih => exact ih.alike ⟨rfl, rfl, rfl, rfl⟩
  | stop h ih => exact ih.alike ⟨rfl, rfl, rfl, rfl⟩
  | run h ih => exact ih.alike (alike_run _)
  | step h input ih => exact ih.alike (alike_step _ input)

end History

/-- **What is watched outlives connections.** Just those scripthashes are watched that were kept, and
a start that works has asked for each of them once, in order, behind the checks. If it asks for any
but does not work, it is for an error after which a connection is of no use; no other error matters.
Short scripthashes can always be asked for. -/
theorem kept_across_starts (hnew : n.watched = []) (h : History n deeds m) :
    (∀ s, s ∈ m.watched ↔ Kept deeds s) ∧
    ∀ before said r after, deeds = before ++ .started said r :: after →
      (r = .ok () ∨ ∃ params answer, .asked Method.scripthashSubscribe params answer ∈ said) →
      ∃ talk again watched, said = .dialled n.address (.ok ()) :: (talk ++ again) ∧
        Vetted n.network n.checkCanary talk ∧
        (∀ params answer, .asked Method.scripthashSubscribe params answer ∉ talk) ∧
        watched.Pairwise (· < ·) ∧ (∀ s, s ∈ watched ↔ Kept before s) ∧
        Resubscribed watched again r ∧
        ((∀ s result, .subscribed s result ∈ deeds → s.utf8ByteSize ≤ 1024 * 1024) →
          ∀ s ∈ watched, ∀ id : UInt64, ∃ bytes, Request.frame id.toNat Method.scripthashSubscribe
            (.array [.string s]) = .ok bytes) := by
  refine ⟨(h.sound hnew).mem_iff, fun before said r after hdeeds hasks => ?_⟩
  obtain ⟨k, l, hbefore, hstart⟩ := h.exists_start hdeeds
  have hsound := hbefore.sound hnew
  have hchecks {talk : List Exchange} {p : Except NodeError Unit × Link}
      (checked : (inTurn k.checks {}).Leads talk p) (params : Json) (answer : Answered) :
      .asked Method.scripthashSubscribe params answer ∉ talk := by
    intro hmem
    obtain ⟨earlier, later, rfl⟩ := List.append_of_mem hmem
    exact absurd (method_of_asks_checks checked.asks) (by decide)
  cases started_of_leads hstart with
  | refused =>
    rcases hasks with hok | ⟨_, _, hmem⟩
    · cases hok
    · cases hmem
  | unreached =>
    rcases hasks with hok | ⟨_, _, hmem⟩
    · cases hok
    · cases List.mem_singleton.1 hmem
  | rejected goes checked =>
    rcases hasks with hok | ⟨params, answer, hmem⟩
    · cases hok
    · rcases List.mem_cons.1 hmem with hdial | hmem
      · cases hdial
      · exact absurd hmem (hchecks checked params answer)
  | @kept talk again c d _ goes checked subscribed =>
    refine ⟨talk, again, k.watched, by rw [hsound.address_eq], ?_, hchecks checked, hsound.sorted,
      hsound.mem_iff, resubscribed_of_leads subscribed, fun hshort s hs id => ?_⟩
    · rw [← hsound.network_eq, ← hsound.checkCanary_eq]
      exact vetted_of_checks checked
    · obtain ⟨state, hmem⟩ := ((hsound.mem_iff s).1 hs).subscribed
      refine exists_frame_scripthashSubscribe (hshort s (.ok state) ?_) id
      rw [hdeeds]
      exact List.mem_append_left _ hmem

/-- A subscription can work. -/
theorem leads_subscribe (hopen : n.connection = some {}) (s : String) :
    ∃ said, (n.subscribe s).Leads said
      (.ok none, { n with watched := insertSorted s n.watched }) := by
  have hclient : n.client? = some {} := by rw [client?, hopen]; rfl
  have hrequest : (n.request (.scripthashSubscribe s)).Leads
      [.asked Method.scripthashSubscribe (.array [.string s]) ⟨.ok .null, true⟩]
      (.ok none, { n with connection := some {} }) := by
    rw [request, hclient]
    exact leads_bind_iff.2 ⟨_, _, [], rfl, Link.leads_ask (.scripthashSubscribe s) .null, .done _⟩
  rw [← hopen] at hrequest
  exact ⟨_, leads_bind_iff.2 ⟨_, _, [], rfl, hrequest, .done _⟩⟩

/-- A server may refuse to subscribe a scripthash again. -/
theorem leads_resubscribe_of_refused (s : String) (code : Int) (message : String) :
    (resubscribe [s] {}).Leads
      [.asked Method.scripthashSubscribe (.array [.string s]) ⟨.error (.rpc code message), true⟩]
      (.ok (), {}) := by
  have hask : (({} : Link).ask (.scripthashSubscribe s)).Leads
      [.asked Method.scripthashSubscribe (.array [.string s]) ⟨.error (.rpc code message), true⟩]
      (.error (.rpc code message), {}) :=
    Link.leads_ask_iff.2 (.inl ⟨rfl, _, rfl, rfl⟩)
  exact leads_bind_iff.2 ⟨_, _, [], rfl, hask, .done _⟩

/-- A scripthash that the server refuses to subscribe again stays watched. -/
theorem kept_across_starts_refused :
    let script := "8b01df4e368ea28f8dc0423bcf7a4923e3a12d307c875e47a0cfbf90b5c39161"
    let fresh : Node := { watching with watched := [] }
    ∃ first second m, fresh.watched = [] ∧
      fresh.History [.started first (.ok ()), .subscribed script (.ok none),
        .started second (.ok ())] m ∧
      script ∈ m.watched ∧ ∃ talk again watched,
        second = .dialled fresh.address (.ok ()) :: (talk ++ again) ∧ script ∈ watched ∧
        Resubscribed watched again (.ok ()) := by
  intro script fresh
  obtain ⟨first, hfirst⟩ := leads_start (n := fresh) rfl rfl rfl
  have hstarted := History.start .new hfirst
  obtain ⟨asked, hsubscribe⟩ := leads_subscribe (n := { fresh.disconnect with
    connection := some {}, tipsWaiting := true }) rfl script
  have hsubscribed := hstarted.subscribe hsubscribe
  obtain ⟨talk, hchecks⟩ := leads_checks (n := disconnect { fresh.disconnect with
    connection := some {}, tipsWaiting := true, watched := [script] }) fun txid h => by cases h
  have hsecond := leads_start_of_checks rfl hchecks (leads_resubscribe_of_refused script 1 "busy")
  have h := hsubscribed.start hsecond
  obtain ⟨hwatched, hstarts⟩ := kept_across_starts rfl h
  obtain ⟨talk', again, watched, hsaid, -, -, -, hmem, hagain, -⟩ :=
    hstarts [.started first (.ok ()), .subscribed script (.ok none)] _ _ [] rfl (.inl rfl)
  have hkept : Kept [.started first (.ok ()), .subscribed script (.ok none)] script :=
    kept_snoc_subscribed [.started first (.ok ())] script none
  refine ⟨first, _, _, rfl, h, (hwatched script).2 ?_, talk', again, watched, hsaid,
    (hmem script).2 hkept, hagain⟩
  exact (kept_snoc_of_idle (show Deed.Idle (.started _ (.ok ())) from trivial)).2 hkept

end Node
end HeaderFollower
