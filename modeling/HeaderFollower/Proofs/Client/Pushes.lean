/-
# Pushes on a connection

The reader takes the lines of the server in the order in which they have arrived, and never waits for
a sink: a push that its sink does not take is lost there and then (`Sink.loss?`). `Client.routes` says
what an action does to the lines and to the sinks: a push goes to the sink of its kind, and nothing
else puts anything into a sink.
-/

import HeaderFollower.Events
import HeaderFollower.Proofs.Client.Winding

namespace HeaderFollower

/-! ## Sinks and streams -/

/-- Why a queue does not take something up. -/
inductive Loss where
  /-- The connection has ended. -/
  | closed
  /-- Whoever received it has gone away. -/
  | gone
  | full
  /-- Nobody has subscribed yet. -/
  | unsubscribed
  deriving DecidableEq, Repr

variable {α : Type}

/-- Why a sink would lose a push. -/
def Sink.loss? (s : Sink α) : Option Loss :=
  if ¬ s.isOpen then some .closed
  else if ¬ s.listening then some .gone
  else if s.queue.isFull then some .full
  else none

/-- Why a stream would lose an event. -/
def EventStream.loss? (s : EventStream α) : Option Loss :=
  match s.subscription with
  | .untaken => some .unsubscribed
  | .gone => some .gone
  | .taken => if s.buffer.isFull then some .full else none

/-- What came to a queue, with the reasons of what was lost there. -/
abbrev Fates (α : Type) := List (α × Option Loss)

/-- What was not lost. -/
def Fates.kept (fates : Fates α) : List α :=
  (fates.filter fun fate => fate.2.isNone).map Prod.fst

/-- The fates with that of something that comes now, if anything does. -/
def Fates.note (fates : Fates α) (a? : Option α) (loss? : Option Loss) : Fates α :=
  fates ++ a?.toList.map fun a => (a, loss?)

/-- What a queue gets that would lose it or not. -/
def passing (a? : Option α) (loss? : Option Loss) : List α := if loss?.isNone then a?.toList else []

variable {fates : Fates α} {a? : Option α} {loss? : Option Loss}

theorem Fates.kept_note : (fates.note a? loss?).kept = fates.kept ++ passing a? loss? := by
  rw [note, kept, List.filter_append, List.map_append, ← kept, passing]
  cases a? <;> cases loss? <;> rfl

theorem Fates.map_fst_note :
    (fates.note a? loss?).map Prod.fst = fates.map Prod.fst ++ a?.toList := by
  rw [note, List.map_append]
  cases a? <;> rfl

theorem Fates.kept_sublist (fates : Fates α) : fates.kept.Sublist (fates.map Prod.fst) :=
  List.filter_sublist.map _

/-- A queue takes something up unless it is full. -/
theorem BoundedQueue.items_getD_push? (q : BoundedQueue α) (a : α) :
    ((q.push? a).getD q).items = q.items ++ if q.isFull then [] else [a] := by
  by_cases hroom : q.items.length < q.capacity
  · have hfull : q.isFull = false := by
      rw [isFull, decide_eq_false_iff_not]
      omega
    rw [push?, dif_pos hroom, hfull]
    rfl
  · have hfull : q.isFull = true := by
      rw [isFull, decide_eq_true_eq]
      omega
    rw [push?, dif_neg hroom, hfull]
    exact (List.append_nil _).symm

/-- The sink behind a push, if there is one. -/
def Sink.after (s : Sink α) : Option α → Sink α
  | some a => s.push a
  | none => s

/-- A push neither closes a sink nor makes its listener go away. -/
theorem Sink.flags_after (s : Sink α) (a? : Option α) :
    (s.after a?).isOpen = s.isOpen ∧ (s.after a?).listening = s.listening := by
  cases a? with
  | none => exact ⟨rfl, rfl⟩
  | some a =>
    rw [after, push]
    split <;> exact ⟨rfl, rfl⟩

/-- A push is kept unless the sink loses it. -/
theorem Sink.items_after (s : Sink α) (a? : Option α) :
    (s.after a?).queue.items = s.queue.items ++ passing a? s.loss? := by
  obtain ⟨queue, isOpen, listening⟩ := s
  cases a? with
  | none =>
    rw [after, passing]
    split <;> exact (List.append_nil _).symm
  | some a =>
    have hfull := queue.items_getD_push? a
    rw [after, push, loss?, passing]
    cases isOpen with
    | false => exact (List.append_nil _).symm
    | true =>
      cases listening with
      | false => exact (List.append_nil _).symm
      | true =>
        refine hfull.trans ?_
        cases queue.isFull <;> rfl

/-- An event is kept unless the stream loses it. -/
theorem EventStream.items_emit (s : EventStream α) (a : α) :
    (s.emit a).buffer.items = s.buffer.items ++ passing (some a) s.loss? := by
  obtain ⟨subscription, buffer⟩ := s
  cases subscription with
  | untaken => exact (List.append_nil _).symm
  | gone => exact (List.append_nil _).symm
  | taken =>
    refine (buffer.items_getD_push? a).trans ?_
    rw [loss?, passing]
    cases buffer.isFull <;> rfl

theorem EventStream.buffer_take (s : EventStream α) : s.take.2.buffer = s.buffer := by
  rw [take]
  split <;> rfl

theorem EventStream.buffer_leave (s : EventStream α) : s.leave.buffer = s.buffer := by
  rw [leave]
  split <;> rfl

/-- What a listener gets is the first of what the sink holds. -/
theorem Sink.exists_of_receive {s t : Sink α} {a : α} (h : s.receive = (.item a, t)) :
    ∃ rest, t = { s with queue := rest } ∧ s.queue.items = a :: rest.items := by
  rw [receive] at h
  split at h
  · next b rest hpop =>
    obtain ⟨hitem, rfl⟩ := Prod.mk.inj h
    cases hitem
    exact ⟨rest, rfl, BoundedQueue.items_of_pop? hpop⟩
  · split at h <;> cases (Prod.mk.inj h).1

/-- A listener gets the first of what the sink holds. -/
theorem Sink.exists_receive {s : Sink α} {a : α} {rest : List α} (h : s.queue.items = a :: rest) :
    ∃ t, s.receive = (.item a, t) := by
  obtain ⟨⟨capacity, items, hle⟩, isOpen, listening⟩ := s
  cases h
  exact ⟨_, rfl⟩

/-- What a subscriber gets is the first of what waits for it. -/
theorem EventStream.items_of_receive? {s t : EventStream α} {a : α}
    (h : s.receive? = some (a, t)) : s.buffer.items = a :: t.buffer.items := by
  rw [receive?] at h
  split at h
  · obtain ⟨⟨b, rest⟩, hpop, hpair⟩ := Option.map_eq_some_iff.1 h
    cases hpair
    exact BoundedQueue.items_of_pop? hpop
  · cases h

/-! ## The reader -/

def Push.tip? : Push → Option TipNotice
  | .tip notice => some notice
  | .scripthash _ => none

def Push.scripthash? : Push → Option ScripthashNotice
  | .tip _ => none
  | .scripthash notice => some notice

/-- The push that has arrived as a line. -/
def LineEvent.push? : LineEvent → Option Push
  | .line bytes =>
    if bytes.toList.all Text.isAsciiBlank then none
    else
      match Incoming.parse bytes.toList with
      | .ok (.push push) => some push
      | _ => none
  | .oversized => none

namespace Client

variable {s : Client} {a : ClientAction}

/-- What the reader takes in a step. -/
def taken? (s : Client) : ClientAction → Option LineEvent
  | .readLine => if s.source.running then s.source.arrived.head? else none
  | _ => none

/-- What arrives in a step, line by line. -/
def arrivals (s : Client) : ClientAction → List LineEvent
  | .arrive piece => if s.source.ended then [] else (s.source.lines.read piece).2
  | .endOfStream => if s.source.ended then [] else s.source.lines.finish
  | _ => []

/-- The push that the reader comes upon in a step. -/
def pushed? (s : Client) (a : ClientAction) : Option Push := (s.taken? a).bind LineEvent.push?

/-- What lies between the server and those who listen. -/
structure Inbound where
  arrived : List LineEvent
  tips : Sink TipNotice
  scripthashes : Sink ScripthashNotice

def inbound (s : Client) : Inbound := ⟨s.source.arrived, s.tips, s.scripthashes⟩

/-! Most of what a step consists of has nothing to do with lines and pushes. -/

@[simp] theorem inbound_goto (s : Client) (c : Nat) (stage : CallStage) :
    (s.goto c stage).inbound = s.inbound := rfl

@[simp] theorem inbound_finish (s : Client) (c : Nat) (result : Except ClientError Json) :
    (s.finish c result).inbound = s.inbound := rfl

@[simp] theorem inbound_unregister (s : Client) (id : Nat) : (s.unregister id).inbound = s.inbound :=
  rfl

@[simp] theorem inbound_charge (s : Client) (payer : Option Nat) (charge : Charge) :
    (s.charge payer charge).1.inbound = s.inbound := rfl

@[simp] theorem inbound_beginClosing (s : Client) (cancelled : Bool) :
    (s.beginClosing cancelled).inbound = s.inbound := by
  unfold beginClosing
  split <;> rfl

@[simp] theorem inbound_deliver (s : Client) (id : Nat) (r : Except ClientError Json) :
    (s.deliver id r).inbound = s.inbound := by
  unfold deliver
  split <;> rfl

@[simp] theorem inbound_endReading (s : Client) (cancelled : Bool) :
    (s.endReading cancelled).inbound = s.inbound := inbound_beginClosing _ _

theorem inbound_takeWriter? {t : Client} {holder : Holder} (h : s.takeWriter? holder = some t) :
    t.inbound = s.inbound := by
  unfold takeWriter? at h
  split at h
  · split at h
    · obtain rfl := Option.some.inj h
      rfl
    · cases h
  · cases h

theorem inbound_afterRelease (s : Client) (c id : Nat) (why : WriteEnd) :
    (s.afterRelease c id why).1.inbound = s.inbound := by
  cases why <;> simp [afterRelease]

theorem inbound_proceed (s : Client) (c : Nat) : (s.proceed c).1.inbound = s.inbound := by
  unfold proceed
  split
  · rfl
  · next call _ =>
    cases hstage : call.stage with
    | entered =>
      dsimp only
      split <;> rfl
    | admitted =>
      dsimp only [number]
      split <;> rfl
    | numbered id frame => rfl
    | registered id frame =>
      dsimp only [enqueue]
      split <;> rfl
    | queued id frame deadline =>
      dsimp only [beginWrite]
      split
      · next t h => exact show t.inbound = s.inbound from inbound_takeWriter? h
      · rfl
    | writing id frame deadline =>
      dsimp only [endWrite]
      split <;> rfl
    | released id why => exact inbound_afterRelease s c id why
    | waiting id deadline =>
      dsimp only [takeInbox]
      split <;> rfl
    | parked id =>
      dsimp only [takeInbox]
      split <;> rfl
    | finished result => rfl

theorem inbound_timeOut (s : Client) (c : Nat) : (s.timeOut c).1.inbound = s.inbound := by
  simp only [timeOut]
  split
  · split <;> rfl
  · split <;> rfl
  · split <;> rfl
  · rfl

theorem inbound_giveUp (s : Client) (c : Nat) : (s.giveUp c).1.inbound = s.inbound := by
  simp only [giveUp]
  split
  · split <;> rfl
  · rfl

theorem inbound_noticeShutdown (s : Client) (c : Nat) :
    (s.noticeShutdown c).inbound = s.inbound := by
  simp only [noticeShutdown]
  split
  · split <;> rfl
  · rfl

theorem inbound_close (s : Client) : s.close.inbound = s.inbound := by
  unfold close
  split
  · rfl
  · exact inbound_beginClosing s false

theorem inbound_ping (s : Client) : s.ping.inbound = s.inbound := by
  unfold ping
  split
  · split <;> rfl
  · rfl

theorem inbound_pinged (s : Client) : s.pinged.inbound = s.inbound := by
  unfold pinged
  split
  · split <;> rfl
  · split
    · rfl
    · exact inbound_beginClosing _ _
    · rfl
  · rfl

/-- What an action does to lines and sinks: the reader takes the first line, and a push goes to the
sink of its kind. Nobody stops to listen for that, and the sinks are closed with the connection. -/
structure Routes (s : Client) (a : ClientAction) (t : Client) : Prop where
  lines : s.source.arrived ++ s.arrivals a = (s.taken? a).toList ++ t.source.arrived
  tips : t.tips.queue = (s.tips.after ((s.pushed? a).bind Push.tip?)).queue
  scripthashes :
    t.scripthashes.queue = (s.scripthashes.after ((s.pushed? a).bind Push.scripthash?)).queue
  listening : t.tips.listening = s.tips.listening ∧
    t.scripthashes.listening = s.scripthashes.listening
  closes : t.tips.isOpen = s.tips.isOpen ∧ t.scripthashes.isOpen = s.scripthashes.isOpen ∨
    t.closing = .done

theorem Routes.of_after {t : Client}
    (lines : s.source.arrived ++ s.arrivals a = (s.taken? a).toList ++ t.source.arrived)
    (tips : t.tips = s.tips.after ((s.pushed? a).bind Push.tip?))
    (scripthashes : t.scripthashes = s.scripthashes.after ((s.pushed? a).bind Push.scripthash?)) :
    Routes s a t := by
  have htips := s.tips.flags_after ((s.pushed? a).bind Push.tip?)
  have hscripthashes := s.scripthashes.flags_after ((s.pushed? a).bind Push.scripthash?)
  rw [← tips] at htips
  rw [← scripthashes] at hscripthashes
  exact ⟨lines, congrArg Sink.queue tips, congrArg Sink.queue scripthashes,
    ⟨htips.2, hscripthashes.2⟩, .inl ⟨htips.1, hscripthashes.1⟩⟩

theorem Routes.of_inbound {t : Client} (h : t.inbound = s.inbound) (htaken : s.taken? a = none)
    (harrivals : s.arrivals a = []) : Routes s a t := by
  obtain ⟨hlines, htips, hscripthashes⟩ := Inbound.mk.inj h
  refine .of_after ?_ ?_ ?_
  · rw [htaken, harrivals, hlines, List.append_nil]
    rfl
  · rw [pushed?, htaken, htips]
    rfl
  · rw [pushed?, htaken, hscripthashes]
    rfl

theorem source_readLine {line : LineEvent} {rest : List LineEvent}
    (hrunning : s.source.running = true) (harrived : s.source.arrived = line :: rest) :
    (s.step .readLine).1.source = { s.source with arrived := rest } := by
  rw [step, readLine, if_pos hrunning, harrived]
  cases line with
  | line bytes => exact source_takeLine _ _
  | oversized => rfl

theorem sinks_dispatch (s : Client) (bytes : ByteArray)
    (hblank : ¬ bytes.toList.all Text.isAsciiBlank) :
    (s.dispatch bytes.toList).1.tips =
        s.tips.after ((LineEvent.push? (.line bytes)).bind Push.tip?) ∧
      (s.dispatch bytes.toList).1.scripthashes =
        s.scripthashes.after ((LineEvent.push? (.line bytes)).bind Push.scripthash?) := by
  have hdeliver (id : Nat) (r : Except ClientError Json) :
      (s.deliver id r).tips = s.tips ∧ (s.deliver id r).scripthashes = s.scripthashes := by
    unfold deliver
    split <;> exact ⟨rfl, rfl⟩
  rw [dispatch, LineEvent.push?, if_neg hblank]
  cases Incoming.parse bytes.toList with
  | error e => exact ⟨rfl, rfl⟩
  | ok incoming =>
    cases incoming with
    | response id r =>
      cases r with
      | ok result => exact hdeliver id (.ok result)
      | error e =>
        dsimp only
        split
        · exact hdeliver id (.error (.rpc e.code e.message))
        · exact ⟨rfl, rfl⟩
    | push p => cases p <;> exact ⟨rfl, rfl⟩
    | unknownMethod method => exact ⟨rfl, rfl⟩

theorem sinks_takeLine (s : Client) (bytes : ByteArray) :
    (s.takeLine bytes.toList).1.tips =
        s.tips.after ((LineEvent.push? (.line bytes)).bind Push.tip?) ∧
      (s.takeLine bytes.toList).1.scripthashes =
        s.scripthashes.after ((LineEvent.push? (.line bytes)).bind Push.scripthash?) := by
  rw [takeLine]
  dsimp only
  split
  · next hblank =>
    rw [LineEvent.push?, if_pos hblank]
    exact ⟨rfl, rfl⟩
  · next hblank => exact sinks_dispatch _ bytes hblank

theorem routes_readLine (s : Client) : Routes s .readLine (s.step .readLine).1 := by
  rw [step, readLine]
  by_cases hrunning : s.source.running
  · rw [if_pos hrunning]
    have htaken : s.taken? .readLine = s.source.arrived.head? := by rw [taken?, if_pos hrunning]
    split
    · next bytes rest harrived =>
      have hfirst : s.taken? .readLine = some (.line bytes) := by rw [htaken, harrived]; rfl
      obtain ⟨htips, hscripthashes⟩ :=
        sinks_takeLine { s with source := { s.source with arrived := rest } } bytes
      refine .of_after ?_ ?_ ?_
      · rw [source_takeLine, hfirst, harrived]
        exact List.append_nil _
      · rw [pushed?, hfirst]
        exact htips
      · rw [pushed?, hfirst]
        exact hscripthashes
    · next rest harrived =>
      have hfirst : s.taken? .readLine = some .oversized := by rw [htaken, harrived]; rfl
      refine .of_after ?_ ?_ ?_
      · rw [hfirst, harrived]
        exact List.append_nil _
      · rw [pushed?, hfirst]
        rfl
      · rw [pushed?, hfirst]
        rfl
    · next harrived =>
      refine .of_inbound ?_ (by rw [htaken, harrived]; rfl) rfl
      dsimp only
      split
      · exact inbound_endReading s false
      · rfl
  · rw [if_neg hrunning]
    exact .of_inbound rfl (if_neg hrunning) rfl

theorem routes_arrive (s : Client) (piece : ByteArray) :
    Routes s (.arrive piece) (s.step (.arrive piece)).1 := by
  rw [step, arrive]
  split
  · next hended => exact .of_inbound rfl rfl (if_pos hended)
  · next hended =>
    refine .of_after ?_ rfl rfl
    rw [arrivals, if_neg hended]
    rfl

theorem routes_endOfStream (s : Client) : Routes s .endOfStream (s.step .endOfStream).1 := by
  rw [step, endOfStream]
  split
  · next hended => exact .of_inbound rfl rfl (if_pos hended)
  · next hended =>
    refine .of_after ?_ rfl rfl
    rw [arrivals, if_neg hended]
    rfl

theorem routes_tearDown (s : Client) : Routes s .tearDown (s.step .tearDown).1 := by
  rw [step, tearDown]
  split
  · exact .of_inbound rfl rfl rfl
  · exact .of_inbound rfl rfl rfl
  · exact .of_inbound rfl rfl rfl
  · exact .of_inbound (inbound_deliver _ _ _) rfl rfl
  -- The last stage closes the sinks, and what they hold stays in them.
  · exact ⟨List.append_nil _, rfl, rfl, ⟨rfl, rfl⟩, .inr rfl⟩
  · exact .of_inbound rfl rfl rfl

/-- **What an action does to the lines and the sinks.** -/
theorem routes (s : Client) (a : ClientAction) : Routes s a (s.step a).1 := by
  have hend (p : Prop) [Decidable p] (cancelled : Bool) :
      (if p then s.endReading cancelled else s).inbound = s.inbound := by
    split
    · exact inbound_endReading s cancelled
    · rfl
  cases a with
  | readLine => exact routes_readLine s
  | arrive piece => exact routes_arrive s piece
  | endOfStream => exact routes_endOfStream s
  | call method params => exact .of_inbound rfl rfl rfl
  | cancel c => exact .of_inbound rfl rfl rfl
  | proceed c => exact .of_inbound (inbound_proceed s c) rfl rfl
  | write c count =>
    refine .of_inbound ?_ rfl rfl
    rw [step]
    split <;> rfl
  | writeFails c text =>
    refine .of_inbound ?_ rfl rfl
    rw [step]
    split <;> rfl
  | timeOut c => exact .of_inbound (inbound_timeOut s c) rfl rfl
  | giveUp c => exact .of_inbound (inbound_giveUp s c) rfl rfl
  | noticeShutdown c => exact .of_inbound (inbound_noticeShutdown s c) rfl rfl
  | readFails => exact .of_inbound (hend _ _) rfl rfl
  | stopReading => exact .of_inbound (hend _ _) rfl rfl
  | readTimeOut => exact .of_inbound (hend _ _) rfl rfl
  | tearDown => exact routes_tearDown s
  | close => exact .of_inbound (inbound_close s) rfl rfl
  | closerTakes =>
    refine .of_inbound ?_ rfl rfl
    rw [step]
    cases h : s.takeWriter? .closer with
    | none => rfl
    | some t => exact inbound_takeWriter? h
  | closerWrites count =>
    refine .of_inbound ?_ rfl rfl
    rw [step]
    split <;> rfl
  | closerEnds =>
    refine .of_inbound ?_ rfl rfl
    rw [step]
    split <;> rfl
  | cancelParent => exact .of_inbound rfl rfl rfl
  | ping => exact .of_inbound (inbound_ping s) rfl rfl
  | pinged => exact .of_inbound (inbound_pinged s) rfl rfl
  | decay =>
    refine .of_inbound ?_ rfl rfl
    rw [step]
    split <;> rfl
  | wait time => exact .of_inbound rfl rfl rfl

/-- The reader stops only when the connection is closed. -/
theorem reading_step (s : Client) (a : ClientAction)
    (h : s.source.running = true ∨ s.closing ≠ .notYet) :
    (s.step a).1.source.running = true ∨ (s.step a).1.closing ≠ .notYet := by
  by_cases ha : a = .tearDown
  · subst ha
    simp only [step, tearDown]
    split
    · exact h
    all_goals exact .inr (by simp_all)
  · have onward := onward_step s ha
    rcases onward.reading with hr | hr
    · rw [hr]
      exact h.imp_right onward.closing_ne
    · exact .inr hr

/-- A connection that is torn down stays so. -/
theorem closing_step_done (h : s.closing = .done) (a : ClientAction) :
    (s.step a).1.closing = .done := by
  have hle := closing_rank_le_step s a
  rw [h] at hle
  cases hc : (s.step a).1.closing with
  | done => rfl
  | _ => simp [hc, Closing.rank] at hle

end Client
end HeaderFollower
