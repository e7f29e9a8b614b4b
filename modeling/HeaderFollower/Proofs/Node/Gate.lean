/-
# Nothing is followed on a connection that has not been checked

A start, the node's callers and its session use connections at the same time, and connections come
and go. A `Scene` numbers the connections that were ever made and remembers what was said on each;
`Scene.Step` is what any of the tasks does next, with whatever answer, and `Scene.Sends` is what may
be sent next on which connection. `validation_gate` says that a start only succeeds on a connection
whose server has shown what the checks ask for, and that without this no task ever sends a request
that follows the chain or a script (`guarded`).

An exchange is written down when its request is sent. A start may read the watched scripthashes at
any time, a caller may send at any time what it asks for, and an answer may take any time.
-/

import HeaderFollower.Node.Session
import HeaderFollower.Proofs.Bytes.Sha256
import HeaderFollower.Proofs.Node.Start

namespace HeaderFollower

/-- The requests that follow the chain or a script. -/
def guarded : List String :=
  [Method.blockHeaders, Method.headersSubscribe, Method.scripthashSubscribe,
    Method.scripthashUnsubscribe, Method.scripthashHistory, Method.scripthashUnspent]

/-- What a query asks the server for. -/
def Query.request? : Query → Option (String × Json)
  | .overLimit => none
  | .pause => none
  | .headers start count =>
    some ((ServerCall.blockHeaders start count).method, (ServerCall.blockHeaders start count).params)
  | .header height =>
    some ((ServerCall.blockHeader height).method, (ServerCall.blockHeader height).params)

/-- What a session asks the server for. -/
def SessionStage.request? (stage : SessionStage) : Option (String × Json) :=
  match stage with
  | .following f =>
    match f.worker with
    | .subscribing => some (ServerCall.headersSubscribe.method, ServerCall.headersSubscribe.params)
    | _ => stage.query?.bind Query.request?
  | _ => stage.query?.bind Query.request?

/-- A start under way on a connection. -/
structure Opening where
  /-- The node as the start found it. -/
  node : Node
  connection : Nat
  /-- What the start has said on the connection. -/
  talk : List Exchange

/-- The start asks for this next, with some scripthashes watched. -/
def Opening.Asks (o : Opening) (method : String) (params : Json) : Prop :=
  ∃ watched, ({ o.node with watched } : Node).start.Asks
    (.dialled o.node.address (.ok ()) :: o.talk) method params

/-- A call under way. The caller has got hold of a connection and asks for something on it, now or
when the node has long turned to another one. -/
structure Errand where
  connection : Option Nat
  method : String
  params : Json

/-- A node with all that uses it. -/
structure Scene where
  node : Node
  /-- What was said on each connection, by its number. -/
  talks : List (List Exchange)
  openings : List Opening
  errands : List Errand
  /-- The connection that the node has kept last. -/
  held : Option Nat
  /-- The connection of the session that began last. -/
  session : Option Nat

namespace Scene

variable {n m : Node} {s t : Scene} {network : Network} {checkCanary : Bool} {k? : Option Nat}
  {k : Nat} {method : String} {params : Json} {talk said : List Exchange}

/-- The scene with something more said on a connection. -/
def hear (s : Scene) (k? : Option Nat) (e : Exchange) : Scene :=
  { s with talks := match k? with
      | some k => s.talks.modify k (· ++ [e])
      | none => s.talks }

/-- This may be sent next on a connection. -/
inductive Sends (s : Scene) : Option Nat → String → Json → Prop where
  | opening {o : Opening} {method : String} {params : Json} (under : o ∈ s.openings)
      (asks : o.Asks method params) : Sends s (some o.connection) method params
  | errand {e : Errand} (under : e ∈ s.errands) : Sends s e.connection e.method e.params
  | session {stage : SessionStage} {method : String} {params : Json}
      (on : s.node.session = some stage) (asks : stage.request? = some (method, params)) :
      Sends s s.session method params

/-- What may happen next. -/
inductive Step : Scene → Scene → Prop where
  /-- A start has made a connection. -/
  | dial {s : Scene} (goes : s.node.stopped = false) :
      Step s { s with
        talks := s.talks ++ [[]]
        openings := s.openings ++ [⟨s.node, s.talks.length, []⟩] }
  /-- A start asks for something. -/
  | ask {s : Scene} {i : Nat} {o : Opening} {method : String} {params : Json} (r : Answered)
      (under : s.openings[i]? = some o) (asks : o.Asks method params) :
      Step s { s.hear (some o.connection) (.asked method params r) with
        openings := s.openings.set i { o with talk := o.talk ++ [.asked method params r] } }
  /-- A start has got through the checks. -/
  | keep {s : Scene} {o : Opening} {c : Link} (under : o ∈ s.openings)
      (checked : (Node.inTurn o.node.checks {}).Leads o.talk (.ok (), c)) :
      Step s { s with node := s.node.keep c, held := some o.connection }
  /-- A caller gets hold of the node's connection. -/
  | call {s : Scene} {α : Type} {call : ServerCall α} {method : String} {params : Json}
      (asks : (s.node.request call).Asks [] method params) :
      Step s { s with errands := s.errands ++ [⟨s.held, method, params⟩] }
  /-- Any of them asks for something. -/
  | say {s : Scene} {k? : Option Nat} {method : String} {params : Json} (r : Answered)
      (sends : s.Sends k? method params) : Step s (s.hear k? (.asked method params r))
  | run {s : Scene} {result? : Option (Except NodeError Unit)} {m : Node}
      (idle : s.node.session = none) (h : s.node.run = (result?, m)) :
      Step s { s with node := m, session := s.held }
  /-- Something happens to the session. -/
  | move {s : Scene} {input : SessionInput} {result? : Option (Except NodeError Unit)} {m : Node}
      (h : s.node.step input = (result?, m)) : Step s { s with node := m }
  | disconnect (s : Scene) : Step s { s with node := s.node.disconnect }
  | stop (s : Scene) : Step s { s with node := s.node.stop }
  | lose (s : Scene) : Step s { s with node := s.node.lose }
  | watch (s : Scene) (watched : List String) : Step s { s with node := { s.node with watched } }
  | listen (s : Scene) (events : ChainEvents) : Step s { s with node := s.node.withEvents events }

/-- What can come of a node that has no connection yet. -/
inductive Reached (n : Node) : Scene → Prop where
  | start (fresh : n.connection = none) (idle : n.session = none) : Reached n ⟨n, [], [], [], none, none⟩
  | step {s t : Scene} (h : Reached n s) (step : s.Step t) : Reached n t

/-- The server at the other end of the connection has shown what the checks ask for. -/
def Passed (s : Scene) (network : Network) (checkCanary : Bool) (k? : Option Nat) : Prop :=
  ∃ k talk, k? = some k ∧ s.talks[k]? = some talk ∧ Vetted network checkCanary talk

/-- What holds of a scene at every moment. -/
structure Sound (network : Network) (checkCanary : Bool) (s : Scene) : Prop where
  network_eq : s.node.network = network
  checkCanary_eq : s.node.checkCanary = checkCanary
  /-- What a start has said was said on its connection. -/
  opening : ∀ o ∈ s.openings, o.node.network = network ∧ o.node.checkCanary = checkCanary ∧
    ∃ talk, s.talks[o.connection]? = some talk ∧ o.talk ⊆ talk
  errand : ∀ e ∈ s.errands, s.Passed network checkCanary e.connection
  held : s.node.connection.isSome = true → s.Passed network checkCanary s.held
  session : s.node.session.isSome = true → s.Passed network checkCanary s.session

/-! ## What changes on a node -/

/-- The node `m` has no connection and no session that the node `n` has not. -/
structure Within (n m : Node) : Prop where
  network_eq : m.network = n.network
  checkCanary_eq : m.checkCanary = n.checkCanary
  connection : m.connection.isSome = true → n.connection.isSome = true
  session : m.session.isSome = true → n.session.isSome = true

theorem within_disconnect (n : Node) : Within n n.disconnect := ⟨rfl, rfl, nofun, id⟩

theorem within_lose (n : Node) : Within n n.lose := by
  refine ⟨rfl, rfl, fun h => ?_, id⟩
  rwa [Node.lose, Option.isSome_map] at h

theorem within_conclude {result? : Option (Except NodeError Unit)}
    (h : n.conclude = (result?, m)) : Within n m := by
  rw [Node.conclude] at h
  split at h
  · obtain ⟨-, rfl⟩ := Prod.mk.inj h
    exact ⟨rfl, rfl, nofun, nofun⟩
  · obtain ⟨-, rfl⟩ := Prod.mk.inj h
    exact ⟨rfl, rfl, id, id⟩

theorem within_step {input : SessionInput} {result? : Option (Except NodeError Unit)}
    (h : n.step input = (result?, m)) : Within n m := by
  rw [Node.step] at h
  split at h
  · obtain ⟨-, rfl⟩ := Prod.mk.inj h
    exact ⟨rfl, rfl, id, id⟩
  · next stage hstage =>
    obtain ⟨hnetwork, hcanary, hconnection, -⟩ := within_conclude h
    exact ⟨hnetwork, hcanary, hconnection, fun _ => by rw [hstage]; rfl⟩

/-- A session begins on the node's connection. -/
theorem within_run {result? : Option (Except NodeError Unit)} (h : n.run = (result?, m)) :
    m.network = n.network ∧ m.checkCanary = n.checkCanary ∧
      (m.connection.isSome = true → n.connection.isSome = true) ∧
      (m.session.isSome = true → n.session.isSome = true ∨ n.connection.isSome = true) := by
  rw [Node.run] at h
  split at h
  · obtain ⟨-, rfl⟩ := Prod.mk.inj h
    exact ⟨rfl, rfl, id, .inl⟩
  · split at h
    · obtain ⟨-, rfl⟩ := Prod.mk.inj h
      exact ⟨rfl, rfl, nofun, .inl⟩
    · next hconnected =>
      obtain ⟨hnetwork, hcanary, hconnection, -⟩ := within_conclude h
      refine ⟨hnetwork, hcanary, hconnection, fun _ => .inr ?_⟩
      rw [not_or, Bool.not_eq_true, Option.isNone_eq_false_iff, Node.client?] at hconnected
      exact Option.isSome_of_isSome_filter _ _ hconnected.1

/-! ## What was said stays said -/

/-- The talks of `t` go on with those of `s`. -/
def Continues (s t : Scene) : Prop :=
  ∀ (k : Nat) (talk : List Exchange), s.talks[k]? = some talk →
    ∃ more, t.talks[k]? = some more ∧ talk ⊆ more

/-- What is said on a connection is put behind what was said on it. -/
theorem talks_hear (h : s.talks[k]? = some talk) (e : Exchange) :
    (s.hear (some k) e).talks[k]? = some (talk ++ [e]) := by
  dsimp only [hear]
  rw [List.getElem?_modify_eq, h]
  rfl

theorem continues_hear (s : Scene) (k? : Option Nat) (e : Exchange) : s.Continues (s.hear k? e) := by
  intro k talk htalk
  cases k? with
  | none => exact ⟨talk, htalk, List.Subset.refl _⟩
  | some j =>
    by_cases hj : j = k
    · subst hj
      exact ⟨talk ++ [e], talks_hear htalk e, List.subset_append_left _ _⟩
    · refine ⟨talk, ?_, List.Subset.refl _⟩
      dsimp only [hear]
      rw [List.getElem?_modify_ne _ _ hj, htalk]

theorem Passed.mono (h : s.Passed network checkCanary k?) (hst : s.Continues t) :
    t.Passed network checkCanary k? := by
  obtain ⟨k, talk, hk, htalk, hvetted⟩ := h
  obtain ⟨more, hmore, hsub⟩ := hst k talk htalk
  exact ⟨k, more, hk, hmore, hvetted.mono hsub⟩

/-! ## What starts and callers ask for -/

theorem not_guarded_of_checked
    (h : method ∈ [Method.version, Method.features, Method.blockHeader, Method.transaction]) :
    method ∉ guarded := by
  simp only [List.mem_cons, List.not_mem_nil, or_false] at h
  rcases h with rfl | rfl | rfl | rfl
  · decide
  · decide
  · decide
  · decide

/-- Behind the checks a start only goes on with a server that has passed them. -/
theorem vetted_of_asks {address : ServerAddress}
    (h : n.start.Asks (.dialled address (.ok ()) :: talk) method params)
    (hguarded : method ∈ guarded) : Vetted n.network n.checkCanary talk := by
  rw [Node.start] at h
  split at h
  · exact absurd h Dialogue.not_asks_done
  · cases h with
    | dial h =>
    rcases Dialogue.asks_bind_iff.1 h with h | ⟨⟨checked, c⟩, before, again, rfl, hchecks, h⟩
    · exact absurd hguarded (not_guarded_of_checked (Node.method_of_asks_checks h))
    · rw [Node.checks_disconnect] at hchecks
      cases checked with
      | error e => exact absurd h Dialogue.not_asks_done
      | ok => exact (Node.vetted_of_checks hchecks).mono (List.subset_append_left _ _)

/-- A caller only gets hold of a connection that the node has. -/
theorem isSome_of_asks_request {α : Type} {call : ServerCall α}
    (h : (n.request call).Asks said method params) : n.connection.isSome = true := by
  rw [Node.request] at h
  split at h
  · exact absurd h Dialogue.not_asks_done
  · next c hc => exact Option.isSome_of_isSome_filter _ _ (by rw [← Node.client?, hc]; rfl)

/-! ## One step, and a whole run -/

theorem Sound.of_within (h : s.Sound network checkCanary) (hm : Within s.node m) :
    ({ s with node := m } : Scene).Sound network checkCanary where
  network_eq := hm.network_eq.trans h.network_eq
  checkCanary_eq := hm.checkCanary_eq.trans h.checkCanary_eq
  opening := h.opening
  errand := h.errand
  held hheld := h.held (hm.connection hheld)
  session hsession := h.session (hm.session hsession)

/-- Whatever is said more leaves a scene sound. -/
theorem Sound.of_continues (h : s.Sound network checkCanary) (hst : s.Continues t)
    (hnode : t.node = s.node) (herrands : t.errands = s.errands) (hheld : t.held = s.held)
    (hsession : t.session = s.session)
    (hopening : ∀ o ∈ t.openings, o.node.network = network ∧ o.node.checkCanary = checkCanary ∧
      ∃ talk, t.talks[o.connection]? = some talk ∧ o.talk ⊆ talk) :
    t.Sound network checkCanary where
  network_eq := hnode ▸ h.network_eq
  checkCanary_eq := hnode ▸ h.checkCanary_eq
  opening := hopening
  errand e he := (h.errand e (herrands ▸ he)).mono hst
  held hconnection := by
    rw [hheld]
    exact (h.held (hnode ▸ hconnection)).mono hst
  session hon := by
    rw [hsession]
    exact (h.session (hnode ▸ hon)).mono hst

/-- What a start has said is still part of what was said on its connection. -/
theorem Sound.opening_of_continues (h : s.Sound network checkCanary) (hst : s.Continues t)
    {o : Opening} (ho : o ∈ s.openings) :
    o.node.network = network ∧ o.node.checkCanary = checkCanary ∧
      ∃ talk, t.talks[o.connection]? = some talk ∧ o.talk ⊆ talk := by
  obtain ⟨hnetwork, hcanary, talk, htalk, hsub⟩ := h.opening o ho
  obtain ⟨more, hmore, hgrown⟩ := hst _ _ htalk
  exact ⟨hnetwork, hcanary, more, hmore, List.Subset.trans hsub hgrown⟩

theorem Sound.step (h : s.Sound network checkCanary) (step : s.Step t) :
    t.Sound network checkCanary := by
  cases step with
  | dial goes =>
    have hst : s.Continues { s with talks := s.talks ++ [[]] } := fun k talk htalk =>
      ⟨talk, by rw [List.getElem?_append_left (List.getElem?_eq_some_iff.1 htalk).1, htalk],
        List.Subset.refl _⟩
    refine h.of_continues hst rfl rfl rfl rfl fun o ho => ?_
    rcases List.mem_append.1 ho with ho | ho
    · exact h.opening_of_continues hst ho
    · obtain rfl := List.mem_singleton.1 ho
      exact ⟨h.network_eq, h.checkCanary_eq, [], List.getElem?_concat_length, List.Subset.refl _⟩
  | @ask i o method params r under asks =>
    have hst := continues_hear s (some o.connection) (.asked method params r)
    refine h.of_continues hst rfl rfl rfl rfl fun o' ho => ?_
    rcases List.mem_or_eq_of_mem_set ho with ho | rfl
    · exact h.opening_of_continues hst ho
    · obtain ⟨hnetwork, hcanary, talk, htalk, hsub⟩ := h.opening o (List.mem_of_getElem? under)
      refine ⟨hnetwork, hcanary, _, talks_hear htalk _, ?_⟩
      exact List.append_subset.2 ⟨List.Subset.trans hsub (List.subset_append_left _ _),
        List.subset_append_right _ _⟩
  | keep under checked =>
    obtain ⟨hnetwork, hcanary, talk, htalk, hsub⟩ := h.opening _ under
    have hvetted := (Node.vetted_of_checks checked).mono hsub
    rw [hnetwork, hcanary] at hvetted
    exact ⟨h.network_eq, h.checkCanary_eq, h.opening, h.errand,
      fun _ => ⟨_, talk, rfl, htalk, hvetted⟩, h.session⟩
  | call asks =>
    refine ⟨h.network_eq, h.checkCanary_eq, h.opening, fun e he => ?_, h.held, h.session⟩
    rcases List.mem_append.1 he with he | he
    · exact h.errand e he
    · obtain rfl := List.mem_singleton.1 he
      exact h.held (isSome_of_asks_request asks)
  | @say k? method params r sends =>
    have hst := continues_hear s k? (.asked method params r)
    exact h.of_continues hst rfl rfl rfl rfl fun o ho => h.opening_of_continues hst ho
  | run idle hrun =>
    obtain ⟨hnetwork, hcanary, hconnection, hsession⟩ := within_run hrun
    refine ⟨hnetwork.trans h.network_eq, hcanary.trans h.checkCanary_eq, h.opening, h.errand,
      fun hm => h.held (hconnection hm), fun hm => ?_⟩
    rcases hsession hm with hm | hm
    · rw [idle] at hm
      cases hm
    · exact h.held hm
  | move hstep => exact h.of_within (within_step hstep)
  | disconnect => exact h.of_within (within_disconnect _)
  | stop =>
    obtain ⟨hnetwork, hcanary, hconnection, hsession⟩ := within_disconnect s.node
    exact h.of_within ⟨hnetwork, hcanary, hconnection, hsession⟩
  | lose => exact h.of_within (within_lose _)
  | watch watched => exact h.of_within ⟨rfl, rfl, id, id⟩
  | listen events => exact h.of_within ⟨rfl, rfl, id, id⟩

theorem Reached.sound (h : Reached n s) : s.Sound n.network n.checkCanary := by
  induction h with
  | start fresh idle =>
    exact {
      network_eq := rfl
      checkCanary_eq := rfl
      opening := fun o ho => by cases ho
      errand := fun e he => by cases he
      held := fun h => by
        rw [fresh] at h
        cases h
      session := fun h => by
        rw [idle] at h
        cases h }
  | step h step ih => exact ih.step step

/-- What may be sent next is allowed. -/
theorem Sound.passed (h : s.Sound network checkCanary) (sends : s.Sends k? method params)
    (hguarded : method ∈ guarded) : s.Passed network checkCanary k? := by
  cases sends with
  | @opening o _ _ under asks =>
    obtain ⟨hnetwork, hcanary, talk, htalk, hsub⟩ := h.opening o under
    obtain ⟨watched, asks⟩ := asks
    have hvetted := (vetted_of_asks asks hguarded).mono hsub
    exact ⟨o.connection, talk, rfl, htalk, hnetwork ▸ hcanary ▸ hvetted⟩
  | errand under => exact h.errand _ under
  | session on asks => exact h.session (by rw [on]; rfl)

/-- **A start succeeds only on a connection whose server has shown what the checks ask for, and
without this nothing that follows the chain or a script is ever sent on a connection.** -/
theorem validation_gate :
    (∀ (n : Node) (said : List Exchange) (m : Node), n.start.Leads said (.ok (), m) →
      ∃ talk, said = .dialled n.address (.ok ()) :: talk ∧ Vetted n.network n.checkCanary talk) ∧
    ∀ (n : Node) (s : Scene) (k? : Option Nat) (method : String) (params : Json), Reached n s →
      s.Sends k? method params → method ∈ guarded → s.Passed n.network n.checkCanary k? := by
  constructor
  · intro n said m h
    cases Node.started_of_leads h with
    | kept goes checked subscribed =>
      exact ⟨_, rfl, (Node.vetted_of_checks checked).mono (List.subset_append_left _ _)⟩
  · exact fun n s k? method params h sends hguarded => h.sound.passed sends hguarded

/-! ## Starts and calls that are such runs -/

/-- What the checks ask for is the first that a start asks for. -/
theorem asks_of_checks {before behind : List Exchange} {r : Answered} {c : Link}
    (goes : n.stopped = false)
    (checked : (Node.inTurn n.checks {}).Leads (before ++ .asked method params r :: behind)
      (.ok (), c)) :
    n.start.Asks (.dialled n.address (.ok ()) :: before) method params := by
  have hasks := checked.asks
  rw [← Node.checks_disconnect] at hasks
  rw [Node.start, goes, if_neg Bool.false_ne_true]
  exact .dial (Dialogue.asks_bind_iff.2 (.inl hasks))

/-- A start that gets through the checks is a run that keeps its connection. -/
theorem Reached.keeps (h : Reached n s) (goes : s.node.stopped = false) {c : Link}
    (checked : (Node.inTurn s.node.checks {}).Leads talk (.ok (), c)) :
    ∃ t, Reached n t ∧ t.node = s.node.keep c ∧ t.held = some s.talks.length ∧
      t.talks[s.talks.length]? = some talk := by
  -- The requests of the checks one after the other.
  have hprefix (before behind : List Exchange) (htalk : talk = before ++ behind) :
      ∃ t, Reached n t ∧ t.node = s.node ∧ t.talks[s.talks.length]? = some before ∧
        t.openings = s.openings ++ [⟨s.node, s.talks.length, before⟩] := by
    induction before using List.reverseRecOn generalizing behind with
    | nil => exact ⟨_, h.step (.dial goes), rfl, List.getElem?_concat_length, rfl⟩
    | append_singleton before e ih =>
      rw [List.append_assoc, List.singleton_append] at htalk
      obtain ⟨t, ht, hnode, htalks, hopenings⟩ := ih _ htalk
      have he : e ∈ talk := by
        rw [htalk]
        exact List.mem_append_right _ List.mem_cons_self
      obtain ⟨method, params, r, rfl⟩ := Node.asked_of_checks checked he
      rw [htalk] at checked
      have hunder : t.openings[s.openings.length]? = some ⟨s.node, s.talks.length, before⟩ := by
        rw [hopenings, List.getElem?_concat_length]
      refine ⟨_, ht.step (.ask r hunder ⟨_, asks_of_checks goes checked⟩), hnode,
        talks_hear htalks _, ?_⟩
      rw [hopenings, List.set_append_right _ _ (Nat.le_refl _), Nat.sub_self]
      rfl
  obtain ⟨t, ht, hnode, htalks, hopenings⟩ := hprefix talk [] (List.append_nil _).symm
  have hunder : (⟨s.node, s.talks.length, talk⟩ : Opening) ∈ t.openings := by
    rw [hopenings]
    exact List.mem_append_right _ (List.mem_singleton_self _)
  exact ⟨_, ht.step (.keep hunder checked), congrArg (Node.keep · c) hnode, rfl, htalks⟩

/-- What a caller asks for is sent on the connection that it has got hold of. -/
theorem Reached.calls {α : Type} {call : ServerCall α} (h : Reached n s)
    (asks : (s.node.request call).Asks [] method params) :
    ∃ t, Reached n t ∧ t.Sends s.held method params :=
  ⟨_, h.step (.call asks), .errand (e := ⟨s.held, method, params⟩)
    (List.mem_append_right _ (List.mem_singleton_self _))⟩

/-! ## A server of the main network -/

/-- The transaction that servers of the main network are asked for. -/
def knownTransaction : List UInt8 :=
  [0x01, 0x00, 0x00, 0x00, 0x01, 0xc9, 0x97, 0xa5, 0xe5, 0x6e, 0x10, 0x41, 0x02, 0xfa, 0x20, 0x9c,
    0x6a, 0x85, 0x2d, 0xd9, 0x06, 0x60, 0xa2, 0x0b, 0x2d, 0x9c, 0x35, 0x24, 0x23, 0xed, 0xce, 0x25,
    0x85, 0x7f, 0xcd, 0x37, 0x04, 0x00, 0x00, 0x00, 0x00, 0x48, 0x47, 0x30, 0x44, 0x02, 0x20, 0x4e,
    0x45, 0xe1, 0x69, 0x32, 0xb8, 0xaf, 0x51, 0x49, 0x61, 0xa1, 0xd3, 0xa1, 0xa2, 0x5f, 0xdf, 0x3f,
    0x4f, 0x77, 0x32, 0xe9, 0xd6, 0x24, 0xc6, 0xc6, 0x15, 0x48, 0xab, 0x5f, 0xb8, 0xcd, 0x41, 0x02,
    0x20, 0x18, 0x15, 0x22, 0xec, 0x8e, 0xca, 0x07, 0xde, 0x48, 0x60, 0xa4, 0xac, 0xdd, 0x12, 0x90,
    0x9d, 0x83, 0x1c, 0xc5, 0x6c, 0xbb, 0xac, 0x46, 0x22, 0x08, 0x22, 0x21, 0xa8, 0x76, 0x8d, 0x1d,
    0x09, 0x01, 0xff, 0xff, 0xff, 0xff, 0x02, 0x00, 0xca, 0x9a, 0x3b, 0x00, 0x00, 0x00, 0x00, 0x43,
    0x41, 0x04, 0xae, 0x1a, 0x62, 0xfe, 0x09, 0xc5, 0xf5, 0x1b, 0x13, 0x90, 0x5f, 0x07, 0xf0, 0x6b,
    0x99, 0xa2, 0xf7, 0x15, 0x9b, 0x22, 0x25, 0xf3, 0x74, 0xcd, 0x37, 0x8d, 0x71, 0x30, 0x2f, 0xa2,
    0x84, 0x14, 0xe7, 0xaa, 0xb3, 0x73, 0x97, 0xf5, 0x54, 0xa7, 0xdf, 0x5f, 0x14, 0x2c, 0x21, 0xc1,
    0xb7, 0x30, 0x3b, 0x8a, 0x06, 0x26, 0xf1, 0xba, 0xde, 0xd5, 0xc7, 0x2a, 0x70, 0x4f, 0x7e, 0x6c,
    0xd8, 0x4c, 0xac, 0x00, 0x28, 0x6b, 0xee, 0x00, 0x00, 0x00, 0x00, 0x43, 0x41, 0x04, 0x11, 0xdb,
    0x93, 0xe1, 0xdc, 0xdb, 0x8a, 0x01, 0x6b, 0x49, 0x84, 0x0f, 0x8c, 0x53, 0xbc, 0x1e, 0xb6, 0x8a,
    0x38, 0x2e, 0x97, 0xb1, 0x48, 0x2e, 0xca, 0xd7, 0xb1, 0x48, 0xa6, 0x90, 0x9a, 0x5c, 0xb2, 0xe0,
    0xea, 0xdd, 0xfb, 0x84, 0xcc, 0xf9, 0x74, 0x44, 0x64, 0xf8, 0x2e, 0x16, 0x0b, 0xfa, 0x9b, 0x8b,
    0x64, 0xf9, 0xd4, 0xc0, 0x3f, 0x99, 0x9b, 0x86, 0x43, 0xf6, 0x56, 0xb4, 0x12, 0xa3, 0xac, 0x00,
    0x00, 0x00, 0x00]

theorem canaryFault?_knownTransaction :
    Node.canaryFault? "f4184fc596403b9d638783cf57adfe4c75c605f6356fbc91338530e9831e9e16"
      (Hex.encode knownTransaction) = none := by
  have hdisplay : (Hash256.ofMessage knownTransaction).display =
      "f4184fc596403b9d638783cf57adfe4c75c605f6356fbc91338530e9831e9e16" := by
    rw [Hash256.display, Hash256.bytes_ofMessage]
    decide +kernel
  rw [Node.canaryFault?, Hex.trim_encode, Hex.decode_encode]
  dsimp only
  rw [hdisplay, if_pos]
  exact beq_self_eq_true _

/-- A node on the main network. -/
def mainnetNode : Node where
  network := .mainnet
  address := ⟨"localhost", 50001, .tcp⟩
  trust := none
  clientSettings := {}
  checkCanary := true
  sync := .start {} (.ofFile 0 { headerSize := 80, content := some [] }) (.start 1)

/-- A server of the main network gets through the gate, and then a caller may subscribe. -/
theorem validation_gate_mainnet :
    (∃ said m, mainnetNode.start.Leads said (.ok (), m) ∧
      ∃ talk, said = .dialled mainnetNode.address (.ok ()) :: talk ∧ Vetted .mainnet true talk) ∧
    ∃ s k?, Reached mainnetNode s ∧
      s.Sends k? Method.scripthashSubscribe (.array [.string "00"]) ∧
      s.Passed .mainnet true k? := by
  obtain ⟨talk, hchecks⟩ := Node.leads_checks (n := mainnetNode) fun txid htxid => by
    obtain rfl := Option.some.inj htxid
    exact ⟨_, canaryFault?_knownTransaction⟩
  constructor
  · have hagain : (Node.resubscribe mainnetNode.watched {}).Leads [] (.ok (), {}) := .done _
    have hstart := Node.leads_start_of_checks (n := mainnetNode) rfl hchecks hagain
    exact ⟨_, _, hstart, validation_gate.1 mainnetNode _ _ hstart⟩
  · obtain ⟨s, hs, hnode, -, -⟩ :=
      (Reached.start (n := mainnetNode) rfl rfl).keeps rfl hchecks
    have hasks : (s.node.request (.scripthashSubscribe "00")).Asks []
        Method.scripthashSubscribe (.array [.string "00"]) := by
      rw [hnode]
      exact Dialogue.asks_bind_iff.2 (.inl .now)
    obtain ⟨t, ht, hsends⟩ := hs.calls hasks
    exact ⟨t, s.held, ht, hsends, validation_gate.2 mainnetNode t _ _ _ ht hsends (by decide)⟩

end Scene
end HeaderFollower
