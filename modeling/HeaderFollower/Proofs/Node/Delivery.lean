/-
# Pushes arrive in order

A push takes two or three queues to where it is wanted. The reader puts it into the sink of its kind,
and a forwarder takes it on from there: a tip into the queue of the session, where it waits for room,
a scripthash into the stream for a subscriber. `Delivery` is a connection and the node on it, with a
record of what came to each queue; `Delivery.Step` is what any of the tasks does next, so every
interleaving is a sequence of steps. At every moment the record accounts for each push
(`Delivery.Accounted`), and from this `delivered_in_order` says that what is handled and received
keeps the order of the lines, and why a push can be lost.

The node turns to no other connection meanwhile. What was in the stream before is called `waiting`.
-/

import HeaderFollower.Proofs.Client.Pushes
import HeaderFollower.Proofs.Node.Checks
import HeaderFollower.Proofs.Node.TipOrder
import HeaderFollower.Proofs.Wire.Lines

namespace HeaderFollower

/-! ## The whole way -/

/-- What the start on the connection has come to. -/
inductive Handover where
  /-- The server is still checked, and the sinks fill up. -/
  | checking
  /-- The node has kept the connection. -/
  | kept
  /-- A check has failed. -/
  | refused
  deriving DecidableEq, Repr

/-- A connection and the node on it, with a record of what has come where. -/
structure Delivery where
  client : Client
  node : Node
  handover : Handover := .checking
  /-- What has arrived, line by line. -/
  lines : List LineEvent := []
  /-- What the reader has taken of it. -/
  read : List LineEvent := []
  /-- The pushed tips that the reader has come upon, and whether their sink took them. -/
  tips : Fates TipNotice := []
  /-- The same of scripthashes. -/
  scripthashes : Fates ScripthashNotice := []
  /-- The tips that the worker has taken, pushed or not. -/
  handled : List TipWork := []
  /-- The scripthashes that were taken to the stream, and whether it took them. -/
  emitted : Fates ScripthashNotice := []
  /-- What the subscriber of the stream has received. -/
  received : List ScripthashNotice := []

/-- The well-formed pushes of tips among lines. -/
def tipsOf (lines : List LineEvent) : List TipNotice :=
  lines.filterMap fun line => line.push?.bind Push.tip?

/-- The well-formed pushes of scripthashes among lines. -/
def scripthashesOf (lines : List LineEvent) : List ScripthashNotice :=
  lines.filterMap fun line => line.push?.bind Push.scripthash?

namespace Delivery

variable {s t : Delivery} {n m : Node} {waiting : List ScripthashNotice} {settings : ClientSettings}

/-- Somebody has the tips of the connection: the start, the node, or its session. -/
def UsesTips (s : Delivery) : Prop := s.handover = .checking ∨ s.node.UsesTips

/-- The connection carries out an action. -/
def act (s : Delivery) (a : ClientAction) : Delivery :=
  { s with
    client := (s.client.step a).1
    lines := s.lines ++ s.client.arrivals a
    read := s.read ++ (s.client.taken? a).toList
    tips := s.tips.note ((s.client.pushed? a).bind Push.tip?) s.client.tips.loss?
    scripthashes :=
      s.scripthashes.note ((s.client.pushed? a).bind Push.scripthash?) s.client.scripthashes.loss? }

/-- The node's stream of scripthashes is another one. -/
def withStream (s : Delivery) (stream : EventStream ScripthashNotice) : Delivery :=
  { s with node := s.node.withEvents { s.node.events with scripthashes := stream } }

/-- What may happen next. -/
inductive Step : Delivery → Delivery → Prop where
  | act (s : Delivery) (a : ClientAction) : Step s (s.act a)
  | keep {s : Delivery} (c : Link) (checking : s.handover = .checking) :
      Step s { s with node := s.node.keep c, handover := .kept }
  /-- A check fails, and nobody will listen. -/
  | refuse {s : Delivery} (checking : s.handover = .checking) :
      Step s { s with
        client := { s.client with
          tips := s.client.tips.leave
          scripthashes := s.client.scripthashes.leave }
        handover := .refused }
  | run {s : Delivery} {result? : Option (Except NodeError Unit)} {m : Node}
      (h : s.node.run = (result?, m)) : Step s { s with node := m }
  /-- Something happens to the session, apart from what its forwarder finds in the sink. -/
  | move {s : Delivery} {input : SessionInput} {result? : Option (Except NodeError Unit)} {m : Node}
      (no_push : ∀ notice, input ≠ .pushed notice) (no_end : input ≠ .noMoreTips)
      (h : s.node.step input = (result?, m)) :
      Step s { s with node := m, handled := s.handled ++ (s.node.taken? input).toList }
  /-- The forwarder of the session takes a tip out of the sink. -/
  | forwardTip {s : Delivery} {f : Follow} {notice : TipNotice} {sink : Sink TipNotice}
      {result? : Option (Except NodeError Unit)} {m : Node}
      (follows : s.node.session = some (.following f)) (ready : f.forwarder = .ready)
      (receives : s.client.tips.receive = (.item notice, sink))
      (h : s.node.step (.pushed notice) = (result?, m)) :
      Step s { s with client := { s.client with tips := sink }, node := m }
  /-- It finds that there will be no more. -/
  | endTips {s : Delivery} {f : Follow} {sink : Sink TipNotice}
      {result? : Option (Except NodeError Unit)} {m : Node}
      (follows : s.node.session = some (.following f)) (ready : f.forwarder = .ready)
      (receives : s.client.tips.receive = (.closed, sink))
      (h : s.node.step .noMoreTips = (result?, m)) : Step s { s with node := m }
  /-- Nobody has the tips any more. -/
  | dropTips {s : Delivery} (unused : ¬ s.UsesTips) :
      Step s { s with client := { s.client with tips := s.client.tips.leave } }
  /-- The forwarder of scripthashes takes one to the stream. -/
  | forwardScripthash {s : Delivery} {notice : ScripthashNotice} {sink : Sink ScripthashNotice}
      (kept : s.handover = .kept) (receives : s.client.scripthashes.receive = (.item notice, sink)) :
      Step s { s with
        client := { s.client with scripthashes := sink }
        node := s.node.withEvents (s.node.events.emitScripthash notice)
        emitted := s.emitted.note (some notice) s.node.events.scripthashes.loss? }
  | subscribe (s : Delivery) : Step s (s.withStream s.node.events.scripthashes.take.2)
  | receive {s : Delivery} {notice : ScripthashNotice} {stream : EventStream ScripthashNotice}
      (h : s.node.events.scripthashes.receive? = some (notice, stream)) :
      Step s { s.withStream stream with received := s.received ++ [notice] }
  | leave (s : Delivery) : Step s (s.withStream s.node.events.scripthashes.leave)
  /-- Another task does something to the node, which may make it give the tips up. -/
  | beside {s : Delivery} {m : Node} (beside : s.node.Beside m)
      (tips : m.tipsWaiting = true → s.node.tipsWaiting = true)
      (events : m.events.scripthashes = s.node.events.scripthashes) : Step s { s with node := m }

/-- What can come of a connection that a node without tips has just made. -/
inductive Reached (settings : ClientSettings) (n : Node) : Delivery → Prop where
  | start (unused : ¬ n.UsesTips) : Reached settings n { client := .start settings, node := n }
  | step {s t : Delivery} (h : Reached settings n s) (step : s.Step t) : Reached settings n t

/-- The record accounts for every push. `waiting` is what was in the stream before. -/
structure Accounted (waiting : List ScripthashNotice) (s : Delivery) : Prop where
  /-- The lines that the reader has not taken have still to be taken. -/
  lines : s.lines = s.read ++ s.client.source.arrived
  /-- Every push that the reader has come upon is on record, in order. -/
  tips : s.tips.map Prod.fst = tipsOf s.read
  scripthashes : s.scripthashes.map Prod.fst = scripthashesOf s.read
  /-- What the sink of tips took is handled or still there, as long as somebody has the tips. -/
  tips_kept : s.UsesTips → s.tips.kept.map TipWork.ofPush =
    s.handled.filter TipWork.isPush ++ s.node.underWay ++
      s.client.tips.queue.items.map TipWork.ofPush
  /-- Nothing is handled out of order at any time. -/
  handled : s.handled.filter TipWork.isPush <+: s.tips.kept.map TipWork.ofPush
  /-- What the sink of scripthashes took was taken to the stream, or is still there, unless the
  connection was refused. -/
  scripthashes_kept : s.handover ≠ .refused →
    s.scripthashes.kept = s.emitted.map Prod.fst ++ s.client.scripthashes.queue.items
  emitted : s.emitted.map Prod.fst <+: s.scripthashes.kept
  /-- What the stream took was received, or is still there. -/
  received : waiting ++ s.emitted.kept = s.received ++ s.node.events.scripthashes.buffer.items
  /-- The reader stops only when the connection is closed. -/
  reading : s.client.source.running = true ∨ s.client.closing ≠ .notYet
  /-- The sinks are closed only when the connection is torn down. -/
  closed : s.client.tips.isOpen = true ∧ s.client.scripthashes.isOpen = true ∨
    s.client.closing = .done
  /-- The tips have a listener as long as somebody has them. -/
  listening : s.UsesTips → s.client.tips.listening = true
  /-- The scripthashes have one unless the connection was refused. -/
  forwarding : s.handover ≠ .refused → s.client.scripthashes.listening = true
  /-- No session has the tips before the node has. -/
  checking : s.handover = .checking → ¬ s.node.UsesTips
  roomy : s.node.Roomy

theorem accounted_start (unused : ¬ n.UsesTips) (settings : ClientSettings) :
    Accounted n.events.scripthashes.buffer.items { client := .start settings, node := n } where
  lines := rfl
  tips := rfl
  scripthashes := rfl
  tips_kept _ := by
    rw [Node.underWay_of_not_usesTips unused]
    rfl
  handled := List.nil_prefix
  scripthashes_kept _ := rfl
  emitted := List.nil_prefix
  received := List.append_nil _
  reading := .inl rfl
  closed := .inl ⟨rfl, rfl⟩
  listening _ := rfl
  forwarding _ := rfl
  checking _ := unused
  roomy stage h := absurd (.inr (by rw [h]; rfl)) unused

/-- Lines and one more hold the pushes and the one of that line. -/
theorem filterMap_snoc? {α : Type} (lines : List LineEvent) (line? : Option LineEvent)
    (f : Push → Option α) :
    (lines ++ line?.toList).filterMap (fun line => line.push?.bind f) =
      lines.filterMap (fun line => line.push?.bind f) ++
        ((line?.bind LineEvent.push?).bind f).toList := by
  rw [List.filterMap_append]
  cases line? with
  | none => rfl
  | some line =>
    rw [Option.toList_some, Option.bind_some, List.filterMap_cons, List.filterMap_nil]
    cases line.push?.bind f <;> rfl

/-- An action of the connection is accounted for. -/
theorem Accounted.act (h : s.Accounted waiting) (a : ClientAction) :
    (s.act a).Accounted waiting where
  lines := by
    show s.lines ++ _ = s.read ++ _ ++ _
    rw [h.lines, List.append_assoc, (s.client.routes a).lines, List.append_assoc]
    rfl
  tips := by
    show (s.tips.note _ _).map Prod.fst = tipsOf (s.read ++ _)
    rw [Fates.map_fst_note, h.tips, tipsOf, tipsOf, filterMap_snoc?]
    rfl
  scripthashes := by
    show (s.scripthashes.note _ _).map Prod.fst = scripthashesOf (s.read ++ _)
    rw [Fates.map_fst_note, h.scripthashes, scripthashesOf, scripthashesOf, filterMap_snoc?]
    rfl
  tips_kept huses := by
    show (s.tips.note _ _).kept.map _ =
      _ ++ s.node.underWay ++ (s.client.step a).1.tips.queue.items.map _
    rw [Fates.kept_note, List.map_append, h.tips_kept huses, (s.client.routes a).tips,
      Sink.items_after, List.map_append, ← List.append_assoc]
    rfl
  handled := by
    show _ <+: (s.tips.note _ _).kept.map _
    rw [Fates.kept_note, List.map_append]
    exact h.handled.trans (List.prefix_append _ _)
  scripthashes_kept hopen := by
    show (s.scripthashes.note _ _).kept = _ ++ (s.client.step a).1.scripthashes.queue.items
    rw [Fates.kept_note, h.scripthashes_kept hopen, (s.client.routes a).scripthashes,
      Sink.items_after, ← List.append_assoc]
    rfl
  emitted := by
    show _ <+: (s.scripthashes.note _ _).kept
    rw [Fates.kept_note]
    exact h.emitted.trans (List.prefix_append _ _)
  received := h.received
  reading := Client.reading_step s.client a h.reading
  closed := by
    rcases h.closed with hopen | hdone
    · exact (s.client.routes a).closes.imp_left fun hsame =>
        ⟨hsame.1.trans hopen.1, hsame.2.trans hopen.2⟩
    · exact .inr (Client.closing_step_done hdone a)
  listening huses := (s.client.routes a).listening.1.trans (h.listening huses)
  forwarding hopen := (s.client.routes a).listening.2.trans (h.forwarding hopen)
  checking := h.checking
  roomy := h.roomy

/-- A step of the node is accounted for, with the tips that it takes out of the sink. -/
theorem Accounted.move (h : s.Accounted waiting) (taken? : Option TipWork) (given : List TipNotice)
    {queue : BoundedQueue TipNotice}
    (keeps : s.node.Keeps (taken?.toList.filter TipWork.isPush) (given.map TipWork.ofPush) m)
    (uses : given ≠ [] → s.node.UsesTips)
    (items : s.client.tips.queue.items = given ++ queue.items) :
    Accounted waiting { s with
      client := { s.client with tips := { s.client.tips with queue } }
      node := m
      handled := s.handled ++ taken?.toList } where
  __ := h
  tips_kept huses := by
    have hbefore : s.UsesTips := huses.imp_right fun h => (keeps.uses h).1
    have hway : s.node.underWay ++ given.map TipWork.ofPush =
        taken?.toList.filter TipWork.isPush ++ m.underWay := by
      -- If the node gives the tips up, only the start has them, and the node had none under way.
      by_cases hnext : m.UsesTips
      · exact (keeps.uses hnext).2
      · have hchecking : s.handover = .checking := huses.resolve_right hnext
        have hunused := h.checking hchecking
        have hgiven : given = [] := Classical.byContradiction fun hne => hunused (uses hne)
        rw [keeps.taken_eq_nil hunused, Node.underWay_of_not_usesTips hunused,
          Node.underWay_of_not_usesTips hnext, hgiven]
        rfl
    show s.tips.kept.map _ = (s.handled ++ taken?.toList).filter _ ++ m.underWay ++ _
    rw [h.tips_kept hbefore, items, List.map_append, List.filter_append, List.append_assoc,
      ← List.append_assoc s.node.underWay, hway]
    simp only [List.append_assoc]
  handled := by
    show (s.handled ++ taken?.toList).filter _ <+: _
    rw [List.filter_append]
    by_cases huses : s.node.UsesTips
    · rw [h.tips_kept (.inr huses), List.append_assoc]
      exact (List.prefix_append_right_inj _).2 (keeps.first.trans (List.prefix_append _ _))
    · rw [keeps.taken_eq_nil huses, List.append_nil]
      exact h.handled
  received := by
    rw [h.received, keeps.scripthashes]
  listening huses := h.listening (huses.imp_right fun h => (keeps.uses h).1)
  checking hchecking huses := h.checking hchecking (keeps.uses huses).1
  roomy := keeps.roomy

/-- The same if the worker takes none. -/
theorem Accounted.feed (h : s.Accounted waiting) (given : List TipNotice)
    {queue : BoundedQueue TipNotice} (keeps : s.node.Keeps [] (given.map TipWork.ofPush) m)
    (uses : given ≠ [] → s.node.UsesTips)
    (items : s.client.tips.queue.items = given ++ queue.items) :
    Accounted waiting { s with
      client := { s.client with tips := { s.client.tips with queue } }
      node := m } := by
  have hmove := h.move none given keeps uses items
  rwa [Option.toList_none, List.append_nil] at hmove

theorem Accounted.keep (h : s.Accounted waiting) (checking : s.handover = .checking) (c : Link) :
    Accounted waiting { s with node := s.node.keep c, handover := .kept } where
  __ := h
  tips_kept _ := h.tips_kept (.inl checking)
  scripthashes_kept _ := h.scripthashes_kept fun hrefused => by cases checking.symm.trans hrefused
  listening _ := h.listening (.inl checking)
  forwarding _ := h.forwarding fun hrefused => by cases checking.symm.trans hrefused
  checking hchecking := by cases hchecking

theorem Accounted.refuse (h : s.Accounted waiting) (checking : s.handover = .checking) :
    Accounted waiting { s with
      client := { s.client with
        tips := s.client.tips.leave
        scripthashes := s.client.scripthashes.leave }
      handover := .refused } where
  __ := h
  tips_kept huses := h.tips_kept (huses.imp_left fun hchecking => by cases hchecking)
  scripthashes_kept hopen := absurd rfl hopen
  listening huses := by
    rcases huses with hchecking | huses
    · cases hchecking
    · exact absurd huses (h.checking checking)
  forwarding hopen := absurd rfl hopen
  checking hchecking := by cases hchecking

/-- A scripthash that is taken to the stream is accounted for. -/
theorem Accounted.emit (h : s.Accounted waiting) {notice : ScripthashNotice}
    {queue : BoundedQueue ScripthashNotice} (kept : s.handover = .kept)
    (items : s.client.scripthashes.queue.items = notice :: queue.items) :
    Accounted waiting { s with
      client := { s.client with scripthashes := { s.client.scripthashes with queue } }
      node := s.node.withEvents (s.node.events.emitScripthash notice)
      emitted := s.emitted.note (some notice) s.node.events.scripthashes.loss? } := by
  have hopen : s.handover ≠ .refused := fun hrefused => by cases kept.symm.trans hrefused
  have hkept : s.scripthashes.kept =
      (s.emitted.note (some notice) s.node.events.scripthashes.loss?).map Prod.fst ++
        queue.items := by
    rw [h.scripthashes_kept hopen, items, Fates.map_fst_note]
    simp
  exact {
    h with
    scripthashes_kept := fun _ => hkept
    emitted := ⟨_, hkept.symm⟩
    received := by
      show waiting ++ (s.emitted.note _ _).kept =
        s.received ++ (s.node.events.scripthashes.emit notice).buffer.items
      rw [Fates.kept_note, EventStream.items_emit, ← List.append_assoc, h.received,
        List.append_assoc] }

/-- What the subscriber does is accounted for. -/
theorem Accounted.withStream (h : s.Accounted waiting) (stream : EventStream ScripthashNotice)
    (received : List ScripthashNotice)
    (hreceived : s.received ++ s.node.events.scripthashes.buffer.items =
      received ++ stream.buffer.items) :
    Accounted waiting { s.withStream stream with received } where
  __ := h
  received := h.received.trans hreceived

/-- **Every step is accounted for.** -/
theorem Accounted.step (h : s.Accounted waiting) (step : s.Step t) : t.Accounted waiting := by
  cases step with
  | act a => exact h.act a
  | keep c checking => exact h.keep checking c
  | refuse checking => exact h.refuse checking
  | run hrun => exact h.feed [] (Node.run_keeps h.roomy hrun) (fun hne => absurd rfl hne) rfl
  | @move input _ _ no_push no_end hstep =>
    have hkeeps := Node.step_keeps h.roomy hstep
    rw [Node.given_eq_nil no_push] at hkeeps
    exact h.move (s.node.taken? input) [] hkeeps (fun hne => absurd rfl hne) rfl
  | @forwardTip f notice _ _ _ follows ready receives hstep =>
    have hkeeps := Node.step_keeps h.roomy hstep
    have hgiven : s.node.given (.pushed notice) = [.ofPush notice] := by
      rw [Node.given, follows]
      exact if_pos ready
    rw [hgiven, Node.taken?_pushed] at hkeeps
    obtain ⟨rest, rfl, hitems⟩ := Sink.exists_of_receive receives
    exact h.feed [notice] hkeeps (fun _ => .inr (by rw [follows]; rfl)) hitems
  | endTips follows ready receives hstep =>
    have hkeeps := Node.step_keeps h.roomy hstep
    rw [Node.given_eq_nil fun _ h => (by cases h), Node.taken?_noMoreTips] at hkeeps
    exact h.feed [] hkeeps (fun hne => absurd rfl hne) rfl
  | dropTips unused =>
    exact { h with
      tips_kept := fun huses => absurd huses unused
      listening := fun huses => absurd huses unused }
  | forwardScripthash kept receives =>
    obtain ⟨rest, rfl, hitems⟩ := Sink.exists_of_receive receives
    exact h.emit kept hitems
  | subscribe =>
    refine h.withStream s.node.events.scripthashes.take.2 s.received ?_
    rw [EventStream.buffer_take]
  | receive hreceive =>
    refine h.withStream _ _ ?_
    rw [EventStream.items_of_receive? hreceive, List.append_assoc]
    rfl
  | leave =>
    refine h.withStream s.node.events.scripthashes.leave s.received ?_
    rw [EventStream.buffer_leave]
  | beside beside tips events =>
    exact h.feed [] (beside.keeps h.roomy tips events) (fun hne => absurd rfl hne) rfl

theorem Reached.accounted (h : Reached settings n s) :
    s.Accounted n.events.scripthashes.buffer.items := by
  induction h with
  | start unused => exact accounted_start unused settings
  | step _ step ih => exact ih.step step

/-- Tips are handled in the order in which they have arrived. -/
theorem Accounted.handled_sublist (h : s.Accounted waiting) :
    (s.handled.filter TipWork.isPush).Sublist ((tipsOf s.lines).map TipWork.ofPush) := by
  have hread : (tipsOf s.read).Sublist (tipsOf s.lines) := by
    rw [h.lines]
    exact (List.sublist_append_left _ _).filterMap _
  have hkept := s.tips.kept_sublist
  rw [h.tips] at hkept
  exact h.handled.sublist.trans ((hkept.trans hread).map _)

/-- Scripthashes are received in the order in which they have arrived. -/
theorem Accounted.received_sublist (h : s.Accounted waiting) :
    s.received.Sublist (waiting ++ scripthashesOf s.lines) := by
  have hread : (scripthashesOf s.read).Sublist (scripthashesOf s.lines) := by
    rw [h.lines]
    exact (List.sublist_append_left _ _).filterMap _
  have hkept := s.scripthashes.kept_sublist
  rw [h.scripthashes] at hkept
  have hemitted : s.emitted.kept.Sublist (scripthashesOf s.lines) :=
    s.emitted.kept_sublist.trans (h.emitted.sublist.trans (hkept.trans hread))
  have hreceived : s.received.Sublist (waiting ++ s.emitted.kept) := by
    rw [h.received]
    exact List.sublist_append_left _ _
  exact hreceived.trans ((List.Sublist.refl waiting).append hemitted)

/-- **Pushes arrive in order, each at most once.** Whatever the tasks do in whatever order, the pushed
tips that a session handles and the scripthashes that a subscriber receives are among the well-formed
pushes of the connection, in the order of arrival. The record accounts for all others: a push is lost
only where its sink or the stream does not take it, when nobody has the tips any more, or when the
connection is refused. The reader takes every line at once, whatever the queues hold, and a push goes
to no other sink than its own. -/
theorem delivered_in_order (h : Reached settings n s) :
    (s.handled.filter TipWork.isPush).Sublist ((tipsOf s.lines).map TipWork.ofPush) ∧
      s.received.Sublist (n.events.scripthashes.buffer.items ++ scripthashesOf s.lines) ∧
      s.Accounted n.events.scripthashes.buffer.items ∧
      (∀ line rest, s.client.source.running = true → s.client.source.arrived = line :: rest →
        (s.client.step .readLine).1.source = { s.client.source with arrived := rest }) ∧
      ∀ a, Client.Routes s.client a (s.client.step a).1 :=
  ⟨h.accounted.handled_sublist, h.accounted.received_sublist, h.accounted,
    fun _ _ hrunning harrived => Client.source_readLine hrunning harrived, s.client.routes⟩

/-- A node that has not started yet. -/
def fresh : Node where
  network := .mainnet
  address := ⟨"localhost", 50001, .tcp⟩
  trust := none
  clientSettings := {}
  checkCanary := false
  sync := .start {} (.ofFile 0 { headerSize := 80, content := some [] }) (.start 1)

section

variable {line : List UInt8} {notice : ScripthashNotice}

/-- A line arrives, with its line feed. -/
def telling (line : List UInt8) : ClientAction := .arrive (LineReader.feeds [line]).toByteArray

/-- It has arrived on a new connection, and the reader has taken it. -/
def told (line : List UInt8) : Delivery :=
  (Delivery.act { client := .start {}, node := fresh } (telling line)).act .readLine

theorem arrivals_telling (hfits : LineReader.Fits maxFrame line) :
    (Client.start {}).arrivals (telling line) = [.line line.toByteArray] :=
  congrArg Prod.snd (LineReader.read_toByteArray_feeds (List.forall_mem_singleton.2 hfits))

theorem reached_told (line : List UInt8) : Reached {} fresh (told line) :=
  .step (.step (.start (Node.not_usesTips rfl rfl)) (.act _ _)) (.act _ _)

/-- A scripthash that is pushed to a subscriber is received. -/
theorem exists_reached_received (hfits : LineReader.Fits maxFrame line)
    (hpush : (LineEvent.line line.toByteArray).push? = some (.scripthash notice)) :
    ∃ s, Reached {} fresh s ∧ scripthashesOf s.lines = [notice] ∧ s.received = [notice] := by
  have harrived := arrivals_telling hfits
  have hlines : scripthashesOf (told line).lines = [notice] := by
    show scripthashesOf ([] ++ (Client.start {}).arrivals (telling line) ++ []) = _
    rw [harrived, List.append_nil, List.nil_append, scripthashesOf, List.filterMap_cons, hpush]
    rfl
  have hpushed : ((Client.start {}).step (telling line)).1.pushed? .readLine =
      some (.scripthash notice) := by
    show ((Client.start {}).arrivals (telling line)).head?.bind LineEvent.push? = _
    rw [harrived]
    exact hpush
  have hroutes := (((Client.start {}).step (telling line)).1.routes .readLine).scripthashes
  rw [hpushed] at hroutes
  have hitems : (told line).client.scripthashes.queue.items = [notice] :=
    congrArg BoundedQueue.items hroutes
  obtain ⟨sink, hsink⟩ := Sink.exists_receive hitems
  have hsubscribed := ((reached_told line).step (.keep {} rfl)).step (.subscribe _)
  have hemitted := hsubscribed.step (.forwardScripthash rfl hsink)
  exact ⟨_, hemitted.step (.receive rfl), hlines, rfl⟩

end

/-- A pushed scripthash, as a line. -/
def statusLine : List UInt8 :=
  "\x7b\"method\":\"blockchain.scripthash.subscribe\",\"params\":[\"8b01\",null]\x7d".toUTF8.toList

theorem delivered_in_order_status : ∃ s : Delivery, Reached {} fresh s ∧
    scripthashesOf s.lines = [⟨"8b01", none⟩] ∧ s.received = [⟨"8b01", none⟩] ∧
    s.received.Sublist (fresh.events.scripthashes.buffer.items ++ scripthashesOf s.lines) := by
  have hfits : LineReader.Fits maxFrame statusLine := ⟨by decide +kernel, by decide +kernel⟩
  have hpush : (LineEvent.line statusLine.toByteArray).push? = some (.scripthash ⟨"8b01", none⟩) := by
    decide +kernel
  obtain ⟨s, hs, hlines, hreceived⟩ := exists_reached_received hfits hpush
  exact ⟨s, hs, hlines, hreceived, (delivered_in_order hs).2.1⟩

end Delivery

end HeaderFollower
