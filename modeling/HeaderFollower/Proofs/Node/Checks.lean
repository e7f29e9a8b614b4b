/-
# What a server that passes the checks has shown

Every check of a start asks for one thing and judges what it is told (`ServerCheck.asking`). What a
server shows when it passes is said of the exchange itself: of the texts that were sent, and of the
hashes of the bytes that they spell. `Vetted` is a talk in which all of it was shown, and
`vetted_of_checks` says that only such a talk passes. The checks themselves ask for nothing else
(`method_of_asks_checks`). `Started` is the table of all the ways in which a start ends.
-/

import HeaderFollower.Proofs.Header.Chained
import HeaderFollower.Proofs.Header.Display
import HeaderFollower.Proofs.Network
import HeaderFollower.Proofs.Node.Dialogue

namespace HeaderFollower

/-! ## What an exchange shows -/

namespace Exchange

/-- The server answered with its software and the protocol, two texts. -/
def ShowsVersion (e : Exchange) : Prop :=
  ∃ params software agreed alive,
    e = .asked Method.version params ⟨.ok (.array [.string software, .string agreed]), alive⟩

/-- A record of a server's features gives a genesis hash, by name or as its first field. -/
def GivesGenesis (features : Json) (hash : String) : Prop :=
  (∃ members, features = .object members ∧
      members.lookup "genesis_hash" = some (.string hash)) ∨
    ∃ rest, features = .array (.string hash :: rest)

/-- The server gave the network's genesis hash, in letters of either case. -/
def ShowsNetwork (network : Network) (e : Exchange) : Prop :=
  ∃ features hash alive, e = .asked Method.features (.array []) ⟨.ok features, alive⟩ ∧
    GivesGenesis features hash ∧ sameUpToCase hash network.genesisHash = true

/-- The server sent a header of the network's size whose hash is the network's genesis hash. -/
def ShowsGenesis (network : Network) (e : Exchange) : Prop :=
  ∃ text raw alive, e = .asked Method.blockHeader (.array [.nat 0]) ⟨.ok (.string text), alive⟩ ∧
    Hex.decode (Text.trim text) = .ok raw ∧ raw.length = network.headerSize ∧
      (Hash256.ofMessage raw).display = network.genesisHash

/-- The server sent a transaction with this id. -/
def ShowsTransaction (txid : String) (e : Exchange) : Prop :=
  ∃ text raw alive, e = .asked Method.transaction (.array [.string txid, .bool false])
      ⟨.ok (.string text), alive⟩ ∧
    Hex.decode (Text.trim text) = .ok raw ∧ (Hash256.ofMessage raw).display = txid

end Exchange

/-- What has been said on a connection shows that the server is one of the network. -/
structure Vetted (network : Network) (checkCanary : Bool) (talk : List Exchange) : Prop where
  version : ∃ e ∈ talk, e.ShowsVersion
  features : ∃ e ∈ talk, e.ShowsNetwork network
  genesis : ∃ e ∈ talk, e.ShowsGenesis network
  canary : checkCanary = true → ∀ txid, network.canary? = some txid →
    ∃ e ∈ talk, e.ShowsTransaction txid

/-- What was shown stays shown. -/
theorem Vetted.mono {network : Network} {checkCanary : Bool} {talk more : List Exchange}
    (h : Vetted network checkCanary talk) (hsub : talk ⊆ more) :
    Vetted network checkCanary more where
  version := h.version.imp fun _ => .imp_left (hsub ·)
  features := h.features.imp fun _ => .imp_left (hsub ·)
  genesis := h.genesis.imp fun _ => .imp_left (hsub ·)
  canary hcheck txid htxid := (h.canary hcheck txid htxid).imp fun _ => .imp_left (hsub ·)

/-! ## Texts and hashes -/

theorem Json.eq_of_string? {j : Json} {text : String} (h : j.string? = some text) :
    j = .string text := by
  cases j with
  | string s => rw [Option.some.inj h]
  | _ => cases h

/-- An array that is read as a list of texts holds these texts. -/
theorem Json.eq_of_listOf?_string {j : Json} {texts : List String}
    (h : Json.listOf? Json.string? j = some texts) : j = .array (texts.map .string) := by
  cases j with
  | array items =>
    refine congrArg Json.array ?_
    replace h : items.mapM Json.string? = some texts := h
    induction items generalizing texts with
    | nil =>
      obtain rfl := Option.some.inj h
      rfl
    | cons first rest ih =>
      rw [List.mapM_cons] at h
      obtain ⟨text, htext, h⟩ := Option.bind_eq_some_iff.1 h
      obtain ⟨more, hmore, h⟩ := Option.bind_eq_some_iff.1 h
      obtain rfl := Option.some.inj h
      rw [Json.eq_of_string? htext, ih hmore]
      rfl
  | _ => cases h

/-- A hash that is written like a text in lower case is that text. -/
theorem display_eq_of_sameUpToCase {h : Hash256} {text : String}
    (htext : text.toList.map Char.toLower = text.toList)
    (hsame : sameUpToCase h.display text = true) : h.display = text := by
  rw [sameUpToCase, beq_iff_eq, ← Hex.toList_toLower, Hash256.toLower_display, htext] at hsame
  exact String.toList_inj.1 hsame

namespace Node

variable {α : Type} {n : Node} {call : ServerCall α} {fails : ClientError → NodeError}
  {fault? : α → Option NodeError} {c d : Link} {said talk : List Exchange} {method : String}
  {params : Json}

/-! ## One check -/

/-- A check that asks for one thing: an error fails it, and so does a fault of the answer. -/
def ServerCheck.asking (call : ServerCall α) (fails : ClientError → NodeError)
    (fault? : α → Option NodeError) : ServerCheck := fun c =>
  (c.ask call).bind fun (r, c) =>
    .done (match r with
      | .error e => .error (fails e)
      | .ok a => match fault? a with
        | some e => .error e
        | none => .ok (), c)

/-- Such a check is passed with an answer that can be read and has no fault. -/
theorem ServerCheck.leads_asking_iff :
    (ServerCheck.asking call fails fault? c).Leads said (.ok (), d) ↔
      c.alive = true ∧ ∃ j a, said = [.asked call.method call.params ⟨.ok j, d.alive⟩] ∧
        call.decode j = .ok a ∧ fault? a = none := by
  rw [ServerCheck.asking, Dialogue.leads_bind_iff]
  constructor
  · rintro ⟨⟨r, c'⟩, before, behind, rfl, hask, hdone⟩
    rcases Link.leads_ask_iff.1 hask with ⟨halive, answer, rfl, hp⟩ | ⟨-, -, hp⟩
    · obtain ⟨rfl, rfl⟩ := Prod.mk.inj hp
      obtain ⟨outcome, alive⟩ := answer
      cases outcome with
      | error e => cases hdone
      | ok j =>
        dsimp only [Except.bind] at hdone
        cases hdecode : call.decode j with
        | error e =>
          rw [hdecode] at hdone
          cases hdone
        | ok a =>
          rw [hdecode] at hdone
          dsimp only at hdone
          cases hfault : fault? a with
          | some e =>
            rw [hfault] at hdone
            cases hdone
          | none =>
            rw [hfault] at hdone
            cases hdone
            exact ⟨halive, j, a, rfl, hdecode, hfault⟩
    · obtain ⟨rfl, rfl⟩ := Prod.mk.inj hp
      cases hdone
  · rintro ⟨halive, j, a, rfl, hdecode, hfault⟩
    refine ⟨(.ok a, d), _, [], (List.append_nil _).symm, ?_, ?_⟩
    · refine Link.leads_ask_iff.2 (.inl ⟨halive, _, rfl, ?_⟩)
      dsimp only [Except.bind]
      rw [hdecode]
    · dsimp only
      rw [hfault]
      exact .done _

/-- It asks for nothing else. -/
theorem ServerCheck.method_of_asks_asking
    (h : (ServerCheck.asking call fails fault? c).Asks said method params) :
    method = call.method := by
  rcases Dialogue.asks_bind_iff.1 h with h | ⟨_, _, _, -, -, h⟩
  · exact (Link.asks_ask_iff.1 h).2.2.1
  · exact absurd h Dialogue.not_asks_done

theorem checkVersion_eq (n : Node) :
    n.checkVersion =
      .asking (.version n.clientSettings.clientName n.clientSettings.protocolVersion) .client
        fun _ => none := by
  funext c
  rw [checkVersion, ServerCheck.asking]
  refine congrArg (Dialogue.bind _) (funext fun ⟨r, c⟩ => ?_)
  cases r <;> rfl

theorem checkFeatures_eq (n : Node) :
    n.checkFeatures = .asking .features .client fun f =>
      if sameUpToCase f.genesisHash n.network.genesisHash then none
      else some (.genesisMismatch n.network.genesisHash f.genesisHash) := by
  funext c
  rw [checkFeatures, ServerCheck.asking]
  refine congrArg (Dialogue.bind _) (funext fun ⟨r, c⟩ => ?_)
  cases r with
  | error e => rfl
  | ok f =>
    dsimp only
    cases sameUpToCase f.genesisHash n.network.genesisHash <;> rfl

theorem checkGenesis_eq (n : Node) :
    n.checkGenesis = .asking (.blockHeader 0) .client n.genesisFault? := by
  funext c
  rw [checkGenesis, ServerCheck.asking]
  refine congrArg (Dialogue.bind _) (funext fun ⟨r, c⟩ => ?_)
  cases r with
  | error e => rfl
  | ok text =>
    dsimp only
    cases n.genesisFault? text <;> rfl

theorem checkTransaction_eq (txid : String) :
    checkTransaction txid = .asking (.transaction txid)
      (fun e => if e.connectionFatal then .client e else .canaryFailed txid e.message)
      fun text => (canaryFault? txid text).map (.canaryFailed txid) := by
  funext c
  rw [checkTransaction, ServerCheck.asking]
  refine congrArg (Dialogue.bind _) (funext fun ⟨r, c⟩ => ?_)
  cases r with
  | error e =>
    dsimp only
    cases e.connectionFatal <;> rfl
  | ok text =>
    dsimp only
    cases canaryFault? txid text <;> rfl

/-! ## What a check that is passed has shown -/

theorem showsVersion_of_leads (h : (n.checkVersion c).Leads talk (.ok (), d)) :
    ∃ e ∈ talk, e.ShowsVersion := by
  rw [checkVersion_eq] at h
  obtain ⟨-, j, a, rfl, hdecode, -⟩ := ServerCheck.leads_asking_iff.1 h
  refine ⟨_, List.mem_singleton_self _, ?_⟩
  dsimp only [ServerCall.version] at hdecode
  split at hdecode
  · next software agreed hlist =>
    rw [Json.eq_of_listOf?_string hlist]
    exact ⟨_, software, agreed, _, rfl⟩
  · cases hdecode
  · cases hdecode

/-- A result that is read is one that the reader knows. -/
theorem read_of_decode {α : Type} {asked : String} {about : List Json} {read : Json → Option α}
    {j : Json} {a : α} (h : (ServerCall.reading asked about read).decode j = .ok a) :
    read j = some a := by
  dsimp only [ServerCall.reading] at h
  split at h
  · next hread => rw [hread, Except.ok.inj h]
  · cases h

/-- Features that can be read give their genesis hash. -/
theorem givesGenesis_of_ofJson? {j : Json} {f : ServerFeatures}
    (h : ServerFeatures.ofJson? j = some f) : Exchange.GivesGenesis j f.genesisHash := by
  obtain ⟨fields, hfields, hread⟩ := Option.bind_eq_some_iff.1 h
  -- The first of the fields is the genesis hash, a text.
  obtain ⟨rest, rfl⟩ : ∃ rest, fields = some (.string f.genesisHash) :: rest := by
    unfold ServerFeatures.ofFields? at hread
    split at hread
    · next genesis _ _ _ _ _ =>
      obtain ⟨hash, hhash, hread⟩ := Option.bind_eq_some_iff.1 hread
      cases genesis with
      | none => cases hhash
      | some text =>
        cases text with
        | string text =>
          obtain rfl := Option.some.inj hhash
          simp only [Option.bind_eq_bind, Option.bind_eq_some_iff, Option.pure_def,
            Option.some.injEq] at hread
          obtain ⟨_, -, _, -, _, -, _, -, _, -, rfl⟩ := hread
          exact ⟨_, rfl⟩
        | _ => cases hhash
    · cases hread
  cases j with
  | object members =>
    refine .inl ⟨members, rfl, ?_⟩
    exact (List.cons.inj (Option.some.inj hfields)).1
  | array items =>
    refine .inr ?_
    dsimp only [Json.fields?, Json.fieldsOfItems?] at hfields
    split at hfields
    · cases items with
      | nil => cases hfields
      | cons first items =>
        obtain ⟨hfirst, -⟩ := List.cons.inj (Option.some.inj hfields)
        exact ⟨items, by rw [Option.some.inj hfirst]⟩
    · cases hfields
  | _ => cases hfields

theorem showsNetwork_of_leads (h : (n.checkFeatures c).Leads talk (.ok (), d)) :
    ∃ e ∈ talk, e.ShowsNetwork n.network := by
  rw [checkFeatures_eq] at h
  obtain ⟨-, j, f, rfl, hdecode, hfault⟩ := ServerCheck.leads_asking_iff.1 h
  refine ⟨_, List.mem_singleton_self _, j, f.genesisHash, _, rfl,
    givesGenesis_of_ofJson? (read_of_decode hdecode), ?_⟩
  split at hfault
  · next hsame => exact hsame
  · cases hfault

theorem showsGenesis_of_leads (h : (n.checkGenesis c).Leads talk (.ok (), d)) :
    ∃ e ∈ talk, e.ShowsGenesis n.network := by
  rw [checkGenesis_eq] at h
  obtain ⟨-, j, text, rfl, hdecode, hfault⟩ := ServerCheck.leads_asking_iff.1 h
  obtain rfl := Json.eq_of_string? (read_of_decode hdecode)
  refine ⟨_, List.mem_singleton_self _, ?_⟩
  rw [genesisFault?] at hfault
  split at hfault
  · cases hfault
  · next header hheader =>
    split at hfault
    · next hhash =>
      rw [BlockHeader.ofHex] at hheader
      split at hheader
      · cases hheader
      · next raw hraw =>
        obtain ⟨rfl, hlength⟩ := BlockHeader.ofBytes_eq_ok_iff.1 hheader
        refine ⟨text, header.raw, _, rfl, hraw, hlength, ?_⟩
        rw [← display_genesis, ← hhash]
        rfl
    · cases hfault

theorem showsTransaction_of_leads {txid : String}
    (htxid : txid.toList.map Char.toLower = txid.toList)
    (h : (checkTransaction txid c).Leads talk (.ok (), d)) :
    ∃ e ∈ talk, e.ShowsTransaction txid := by
  rw [checkTransaction_eq] at h
  obtain ⟨-, j, text, rfl, hdecode, hfault⟩ := ServerCheck.leads_asking_iff.1 h
  obtain rfl := Json.eq_of_string? (read_of_decode hdecode)
  refine ⟨_, List.mem_singleton_self _, ?_⟩
  rw [Option.map_eq_none_iff, canaryFault?] at hfault
  split at hfault
  · cases hfault
  · next raw hraw =>
    dsimp only at hfault
    split at hfault
    · next hsame =>
      exact ⟨text, raw, _, rfl, hraw, display_eq_of_sameUpToCase htxid hsame⟩
    · cases hfault

/-! ## All checks -/

/-- Checks that are passed in turn are passed one by one. -/
theorem leads_of_inTurn {checks : List ServerCheck}
    (h : (inTurn checks c).Leads said (.ok (), d)) {check : ServerCheck} (hcheck : check ∈ checks) :
    ∃ talk ⊆ said, ∃ c d, (check c).Leads talk (.ok (), d) := by
  induction checks generalizing c said with
  | nil => cases hcheck
  | cons first rest ih =>
    obtain ⟨⟨r, c'⟩, before, behind, rfl, hfirst, hrest⟩ := Dialogue.leads_bind_iff.1 h
    cases r with
    | error e => cases hrest
    | ok =>
      rcases List.mem_cons.1 hcheck with rfl | hcheck
      · exact ⟨before, List.subset_append_left _ _, c, c', hfirst⟩
      · obtain ⟨talk, htalk, found⟩ := ih hrest hcheck
        exact ⟨talk, List.Subset.trans htalk (List.subset_append_right _ _), found⟩

/-- What is said in checks that are passed in turn is said in one of them. -/
theorem mem_of_inTurn {checks : List ServerCheck} (h : (inTurn checks c).Leads said (.ok (), d))
    {e : Exchange} (he : e ∈ said) :
    ∃ check ∈ checks, ∃ talk c d, e ∈ talk ∧ (check c).Leads talk (.ok (), d) := by
  induction checks generalizing c said with
  | nil =>
    cases h
    cases he
  | cons first rest ih =>
    obtain ⟨⟨r, c'⟩, before, behind, rfl, hfirst, hrest⟩ := Dialogue.leads_bind_iff.1 h
    cases r with
    | error e => cases hrest
    | ok =>
      rcases List.mem_append.1 he with he | he
      · exact ⟨first, List.mem_cons_self, before, c, c', he, hfirst⟩
      · obtain ⟨check, hcheck, found⟩ := ih hrest he
        exact ⟨check, List.mem_cons_of_mem _ hcheck, found⟩

/-- What checks in turn ask for, one of them asks for. -/
theorem asks_of_inTurn {checks : List ServerCheck}
    (h : (inTurn checks c).Asks said method params) :
    ∃ check ∈ checks, ∃ c talk, (check c).Asks talk method params := by
  induction checks generalizing c said with
  | nil => exact absurd h Dialogue.not_asks_done
  | cons first rest ih =>
    rcases Dialogue.asks_bind_iff.1 h with h | ⟨⟨r, c'⟩, before, behind, rfl, hfirst, hrest⟩
    · exact ⟨first, List.mem_cons_self, c, said, h⟩
    · cases r with
      | error e => exact absurd hrest Dialogue.not_asks_done
      | ok =>
        obtain ⟨check, hcheck, found⟩ := ih hrest
        exact ⟨check, List.mem_cons_of_mem _ hcheck, found⟩

theorem mem_checks_iff {check : ServerCheck} :
    check ∈ n.checks ↔ check = n.checkVersion ∨ check = n.checkFeatures ∨ check = n.checkGenesis ∨
      n.checkCanary = true ∧ ∃ txid, n.network.canary? = some txid ∧
        check = checkTransaction txid := by
  rw [checks, List.mem_append]
  cases hcheck : n.checkCanary <;> cases htxid : n.network.canary? <;> simp [or_assoc]

/-- **A server that passes the checks has shown what they ask for.** -/
theorem vetted_of_checks (h : (inTurn n.checks c).Leads talk (.ok (), d)) :
    Vetted n.network n.checkCanary talk := by
  have hshown {check : ServerCheck} {P : Exchange → Prop} (hcheck : check ∈ n.checks)
      (hshows : ∀ {c d talk}, (check c).Leads talk (.ok (), d) → ∃ e ∈ talk, P e) :
      ∃ e ∈ talk, P e := by
    obtain ⟨part, hpart, c, d, hleads⟩ := leads_of_inTurn h hcheck
    exact (hshows hleads).imp fun _ => .imp_left (hpart ·)
  exact {
    version := hshown (mem_checks_iff.2 (.inl rfl)) showsVersion_of_leads
    features := hshown (mem_checks_iff.2 (.inr (.inl rfl))) showsNetwork_of_leads
    genesis := hshown (mem_checks_iff.2 (.inr (.inr (.inl rfl)))) showsGenesis_of_leads
    canary := fun hcheck txid htxid =>
      hshown (mem_checks_iff.2 (.inr (.inr (.inr ⟨hcheck, txid, htxid, rfl⟩))))
        (showsTransaction_of_leads (toLower_canary htxid)) }

/-- Nothing but requests is said in the checks. -/
theorem asked_of_checks (h : (inTurn n.checks c).Leads talk (.ok (), d)) {e : Exchange}
    (he : e ∈ talk) : ∃ method params r, e = .asked method params r := by
  have hasking {α : Type} {call : ServerCall α} {fails : ClientError → NodeError}
      {fault? : α → Option NodeError} {c d : Link} {part : List Exchange} (he : e ∈ part)
      (h : (ServerCheck.asking call fails fault? c).Leads part (.ok (), d)) :
      ∃ method params r, e = .asked method params r := by
    obtain ⟨-, j, a, rfl, -, -⟩ := ServerCheck.leads_asking_iff.1 h
    exact ⟨_, _, _, List.mem_singleton.1 he⟩
  obtain ⟨check, hcheck, part, c, d, he, h⟩ := mem_of_inTurn h he
  rcases mem_checks_iff.1 hcheck with rfl | rfl | rfl | ⟨-, txid, -, rfl⟩
  · exact hasking he (checkVersion_eq n ▸ h)
  · exact hasking he (checkFeatures_eq n ▸ h)
  · exact hasking he (checkGenesis_eq n ▸ h)
  · exact hasking he (checkTransaction_eq txid ▸ h)

/-- The checks ask for nothing but these four things. -/
theorem method_of_asks_checks (h : (inTurn n.checks c).Asks said method params) :
    method ∈ [Method.version, Method.features, Method.blockHeader, Method.transaction] := by
  obtain ⟨check, hcheck, c, talk, h⟩ := asks_of_inTurn h
  rcases mem_checks_iff.1 hcheck with rfl | rfl | rfl | ⟨-, txid, -, rfl⟩
  · rw [checkVersion_eq] at h
    rw [ServerCheck.method_of_asks_asking h]
    exact .head _
  · rw [checkFeatures_eq] at h
    rw [ServerCheck.method_of_asks_asking h]
    exact .tail _ (.head _)
  · rw [checkGenesis_eq] at h
    rw [ServerCheck.method_of_asks_asking h]
    exact .tail _ (.tail _ (.head _))
  · rw [checkTransaction_eq] at h
    rw [ServerCheck.method_of_asks_asking h]
    exact .tail _ (.tail _ (.tail _ (.head _)))

/-! ## The whole start -/

/-- The node once it has kept a connection. -/
def keep (n : Node) (c : Link) : Node := { n with connection := some c, tipsWaiting := true }

/-- How a start ends, with what was said. -/
inductive Started (n : Node) : List Exchange → Except NodeError Unit → Node → Prop where
  /-- The node has been stopped. -/
  | refused (halted : n.stopped = true) : Started n [] (.error (.client .cancelled)) n
  | unreached (goes : n.stopped = false) (cause : ConnectError) :
      Started n [.dialled n.address (.error cause)] (.error (.client (.connect cause))) n.disconnect
  /-- A check fails. -/
  | rejected {talk : List Exchange} {e : NodeError} {c : Link} (goes : n.stopped = false)
      (checked : (inTurn n.checks {}).Leads talk (.error e, c)) :
      Started n (.dialled n.address (.ok ()) :: talk) (.error e) n.disconnect
  /-- The connection is kept. -/
  | kept {talk again : List Exchange} {c d : Link} {r : Except NodeError Unit}
      (goes : n.stopped = false) (checked : (inTurn n.checks {}).Leads talk (.ok (), c))
      (subscribed : (resubscribe n.watched c).Leads again (r, d)) :
      Started n (.dialled n.address (.ok ()) :: (talk ++ again)) r (n.keep d)

/-- The checks do not depend on the connection before. -/
theorem checks_disconnect (n : Node) : n.disconnect.checks = n.checks := by
  have hfault {m : Node} (h : m.network = n.network) : m.genesisFault? = n.genesisFault? := by
    unfold genesisFault?
    rw [h]
  have hgenesis : n.disconnect.checkGenesis = n.checkGenesis := by
    unfold checkGenesis
    rw [hfault (m := n.disconnect) rfl]
  rw [checks, checks, hgenesis]
  rfl

theorem started_of_leads {r : Except NodeError Unit} {m : Node}
    (h : n.start.Leads said (r, m)) : n.Started said r m := by
  rw [start] at h
  split at h
  · next halted =>
    cases h
    exact .refused halted
  · next goes =>
    rw [Bool.not_eq_true] at goes
    cases h with
    | @dial _ _ outcome said _ h =>
    cases outcome with
    | error cause =>
      cases h
      exact .unreached goes cause
    | ok =>
      obtain ⟨⟨checked, c⟩, talk, behind, rfl, hchecks, h⟩ := Dialogue.leads_bind_iff.1 h
      rw [checks_disconnect] at hchecks
      cases checked with
      | error e =>
        cases h
        rw [List.append_nil]
        exact .rejected goes hchecks
      | ok =>
        obtain ⟨⟨result, d⟩, again, behind, rfl, hagain, h⟩ := Dialogue.leads_bind_iff.1 h
        cases h
        rw [List.append_nil]
        exact .kept goes hchecks hagain

end Node
end HeaderFollower
