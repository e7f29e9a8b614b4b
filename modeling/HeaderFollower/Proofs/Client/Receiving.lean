/-
# What the reader of a connection makes of a stream

The reader takes lines and reports in the order in which they come out of the stream of the server,
passes the lines on, and pays a penalty for each report. `Reads` is what it has taken and what waits
for it, against what the stream turns out to hold; no action of any other task touches either
(`source_step`).

A report is followed by a pause, in which the framed stream yields nothing, just as it does at its
end. The loop of the reader tells the two apart by a flag (`Client.receive`), and `receive_polls` says
that it goes through pauses and stops where the stream ends. What it relies on is that there is
exactly one pause behind each report, and that the stream then goes on with what it has, also at its
end.

`Client.reader_sees_every_line` puts this together with the segments of the stream.
-/

import HeaderFollower.Proofs.Client.Pushes
import HeaderFollower.Proofs.Wire.Segments

namespace HeaderFollower

/-- How the reader deals with what it comes upon. -/
inductive Handling where
  /-- A line is charged for and passed on. -/
  | dispatch (line : List UInt8)
  /-- A blank line is charged for only. -/
  | pass (line : List UInt8)
  /-- A line that is too long costs a penalty and is skipped. -/
  | penalty
  deriving DecidableEq, Repr

/-- How a segment of the stream is to be dealt with. -/
def Handling.due (segment : List UInt8) : Handling :=
  if maxFrame < segment.length then .penalty
  else if segment.all Text.isAsciiBlank then .pass segment
  else .dispatch segment

/-- How a line or a report is dealt with. -/
def LineEvent.handling : LineEvent → Handling
  | .line bytes =>
    if bytes.toList.all Text.isAsciiBlank then .pass bytes.toList else .dispatch bytes.toList
  | .oversized => .penalty

theorem handling_eventOf (segment : List UInt8) :
    (LineReader.eventOf maxFrame segment).handling = .due segment := by
  rw [LineReader.eventOf, Handling.due]
  split
  · next hshort =>
    rw [if_neg (Nat.not_lt.2 hshort), LineEvent.handling, Hex.toList_eq_data,
      List.toList_data_toByteArray]
  · next hlong =>
    rw [if_pos (Nat.lt_of_not_le hlong)]
    rfl

/-- The action makes the reader stop before it has come to the end of the stream. -/
def ClientAction.stopsReader : ClientAction → Bool
  | .readFails | .stopReading | .readTimeOut => true
  | _ => false

/-- The pieces that arrive until the stream ends. -/
def arriving : List ClientAction → List ByteArray
  | [] => []
  | .arrive piece :: rest => piece :: arriving rest
  | .endOfStream :: _ => []
  | _ :: rest => arriving rest

namespace Client

variable {s : Client} {a : ClientAction}

/-! ## The reading side -/

section Source

variable (s : Client) (c id : Nat)

@[simp] theorem source_goto (stage : CallStage) : (s.goto c stage).source = s.source := rfl

@[simp] theorem source_finish (r : Except ClientError Json) :
    (s.finish c r).source = s.source := rfl

@[simp] theorem source_unregister : (s.unregister id).source = s.source := rfl

@[simp] theorem source_charge (payer : Option Nat) (charge : Charge) :
    (s.charge payer charge).1.source = s.source := rfl

@[simp] theorem source_beginClosing (cancelled : Bool) :
    (s.beginClosing cancelled).source = s.source := by
  unfold beginClosing
  split <;> rfl

@[simp] theorem source_deliver (r : Except ClientError Json) :
    (s.deliver id r).source = s.source := by
  unfold deliver
  split <;> rfl

theorem source_endReading (cancelled : Bool) :
    (s.endReading cancelled).source = { s.source with running := false } :=
  source_beginClosing _ _

theorem source_takeWriter? {t : Client} {holder : Holder} (h : s.takeWriter? holder = some t) :
    t.source = s.source := by
  obtain ⟨writer, rfl⟩ := takeWriter?_eq_some h
  rfl

end Source

/-- The reading side behind an action that lets the reader go on. -/
def sourceAfter (s : Client) : ClientAction → LineSource
  | .arrive piece => (s.arrive piece).source
  | .endOfStream => s.endOfStream.source
  | .readLine =>
    if s.source.running then
      match s.source.arrived with
      | _ :: rest => { s.source with arrived := rest }
      | [] => if s.source.ended then { s.source with running := false } else s.source
    else s.source
  | _ => s.source

theorem source_afterRelease (s : Client) (c id : Nat) (why : WriteEnd) :
    (s.afterRelease c id why).1.source = s.source := by
  cases why <;> simp [afterRelease]

theorem source_proceed (s : Client) (c : Nat) : (s.proceed c).1.source = s.source := by
  unfold proceed
  split
  · rfl
  · next call _ =>
    cases call.stage with
    | entered =>
      dsimp only
      split <;> rfl
    | admitted =>
      dsimp only [number]
      split <;> rfl
    | numbered id frame => rfl
    | registered id frame =>
      dsimp only [enqueue]
      split <;> rfl
    | queued id frame deadline =>
      dsimp only [beginWrite]
      split
      · next t h => exact show t.source = s.source from source_takeWriter? s h
      · rfl
    | writing id frame deadline =>
      dsimp only [endWrite]
      split <;> rfl
    | released id why => exact source_afterRelease s c id why
    | waiting id deadline =>
      dsimp only [takeInbox]
      split <;> rfl
    | parked id =>
      dsimp only [takeInbox]
      split <;> rfl
    | finished result => rfl

theorem source_tearDown (s : Client) : s.tearDown.source = s.source := by
  unfold tearDown
  split
  all_goals first | rfl | exact source_deliver _ _ _

theorem source_pinged (s : Client) : s.pinged.source = s.source := by
  unfold pinged
  split
  · split <;> rfl
  · split
    · rfl
    · exact source_beginClosing _ _
    · rfl
  · rfl

/-- Only the server and the reader do anything to the reading side. -/
theorem source_step (s : Client) (ha : a.stopsReader = false) :
    (s.step a).1.source = s.sourceAfter a := by
  cases a with
  | readFails => cases ha
  | stopReading => cases ha
  | readTimeOut => cases ha
  | arrive piece => rfl
  | endOfStream => rfl
  | readLine =>
    rw [sourceAfter]
    split
    · next hrunning =>
      split
      · next first rest harrived => exact source_readLine hrunning harrived
      · next harrived =>
        rw [step, readLine, if_pos hrunning, harrived]
        dsimp only
        split
        · exact source_endReading s false
        · rfl
    · next hstopped => rw [step, readLine, if_neg hstopped]
  | proceed c => exact source_proceed s c
  | timeOut c =>
    simp only [step, timeOut]
    repeat' split
    all_goals rfl
  | giveUp c =>
    simp only [step, giveUp]
    repeat' split
    all_goals rfl
  | noticeShutdown c =>
    simp only [step, noticeShutdown]
    repeat' split
    all_goals rfl
  | tearDown => exact source_tearDown s
  | pinged => exact source_pinged s
  | ping =>
    simp only [step, ping]
    repeat' split
    all_goals rfl
  | close =>
    simp only [step, close]
    split
    · rfl
    · exact source_beginClosing s false
  | closerTakes =>
    simp only [step]
    cases htaken : s.takeWriter? .closer with
    | none => rfl
    | some t => exact source_takeWriter? s htaken
  | call method params => rfl
  | cancel c => rfl
  | cancelParent => rfl
  | wait time => rfl
  | write c count =>
    simp only [step]
    split <;> rfl
  | writeFails c text =>
    simp only [step]
    split <;> rfl
  | closerWrites count =>
    simp only [step]
    split <;> rfl
  | closerEnds =>
    simp only [step]
    split <;> rfl
  | decay =>
    simp only [step]
    split <;> rfl

/-! ## What has been taken and what waits -/

/-- The pieces that an action brings. -/
def received (s : Client) : ClientAction → List ByteArray
  | .arrive piece => if s.source.ended then [] else [piece]
  | _ => []

/-- What the reader has taken, and what waits for it, are what the pieces turn out to hold. While
more can arrive the reader is at work, and it has stopped only when nothing waits. -/
structure Reads (s : Client) (pieces : List ByteArray) (taken : List LineEvent) : Prop where
  going : s.source.ended = false → s.source.running = true ∧
    s.source.lines = ((LineReader.start maxFrame).readAll pieces).1 ∧
    taken ++ s.source.arrived = ((LineReader.start maxFrame).readAll pieces).2
  atEnd : s.source.ended = true → taken ++ s.source.arrived = LineReader.events maxFrame pieces
  stopped : s.source.running = false → s.source.arrived = []

theorem reads_start (settings : ClientSettings) : (start settings).Reads [] [] := by
  refine ⟨fun _ => ⟨rfl, rfl, rfl⟩, fun h => ?_, fun _ => rfl⟩
  cases h

variable {pieces : List ByteArray} {taken : List LineEvent}

theorem Reads.of_source {t : Client} (h : s.Reads pieces taken) (hsource : t.source = s.source) :
    t.Reads pieces taken := by
  obtain ⟨hgoing, hover, hstopped⟩ := h
  rw [← hsource] at hgoing hover hstopped
  exact ⟨hgoing, hover, hstopped⟩

theorem readAll_snoc (r : LineReader) (pieces : List ByteArray) (piece : ByteArray) :
    r.readAll (pieces ++ [piece]) =
      (((r.readAll pieces).1.read piece).1,
        (r.readAll pieces).2 ++ ((r.readAll pieces).1.read piece).2) := by
  induction pieces generalizing r with
  | nil => simp [LineReader.readAll]
  | cons first rest ih => simp [LineReader.readAll, ih]

theorem Reads.arrive (h : s.Reads pieces taken) (piece : ByteArray) :
    (s.step (.arrive piece)).1.Reads (pieces ++ s.received (.arrive piece)) taken := by
  simp only [step, Client.arrive, received]
  by_cases hended : s.source.ended
  · rw [if_pos hended, if_pos hended, List.append_nil]
    exact h
  · obtain ⟨hrunning, hlines, harrived⟩ := h.going (by simpa using hended)
    rw [if_neg hended, if_neg hended]
    refine ⟨fun _ => ⟨hrunning, ?_, ?_⟩, fun hover => absurd hover hended, fun hstopped => ?_⟩
    · rw [readAll_snoc, ← hlines]
    · rw [readAll_snoc, ← hlines, ← harrived, List.append_assoc]
    · exact absurd (hstopped.symm.trans hrunning) Bool.false_ne_true

theorem Reads.endOfStream (h : s.Reads pieces taken) :
    (s.step .endOfStream).1.Reads pieces taken := by
  simp only [step, Client.endOfStream]
  by_cases hended : s.source.ended
  · rw [if_pos hended]
    exact h
  · obtain ⟨hrunning, hlines, harrived⟩ := h.going (by simpa using hended)
    rw [if_neg hended]
    refine ⟨fun hgoing => ?_, fun _ => ?_, fun hstopped => ?_⟩
    · cases hgoing
    · rw [LineReader.events, ← hlines, ← harrived, List.append_assoc]
    · exact absurd (hstopped.symm.trans hrunning) Bool.false_ne_true

theorem Reads.readLine (h : s.Reads pieces taken) :
    (s.step .readLine).1.Reads pieces (taken ++ (s.taken? .readLine).toList) := by
  have hsource := source_step s (a := .readLine) rfl
  have htaken : s.taken? .readLine = if s.source.running then s.source.arrived.head? else none :=
    rfl
  rw [sourceAfter] at hsource
  by_cases hrunning : s.source.running
  · rw [if_pos hrunning] at hsource htaken
    cases harrived : s.source.arrived with
    | nil =>
      rw [harrived] at hsource htaken
      rw [htaken, List.head?_nil, Option.toList_none, List.append_nil]
      by_cases hended : s.source.ended
      · rw [if_pos hended] at hsource
        refine ⟨fun hgoing => ?_, fun _ => ?_, fun _ => ?_⟩
        · rw [hsource] at hgoing
          exact absurd (hended.symm.trans hgoing) Bool.noConfusion
        · rw [hsource]
          exact h.atEnd hended
        · rw [hsource]
          exact harrived
      · rw [if_neg hended] at hsource
        exact h.of_source hsource
    | cons first rest =>
      rw [harrived] at hsource htaken
      have hlist (events : List LineEvent) :
          (taken ++ [first]) ++ rest = events ↔ taken ++ s.source.arrived = events := by
        rw [harrived, List.append_assoc, List.singleton_append]
      rw [htaken, List.head?_cons, Option.toList_some]
      refine ⟨fun hgoing => ?_, fun hover => ?_, fun hstopped => ?_⟩
      · rw [hsource] at hgoing ⊢
        exact ⟨hrunning, (h.going hgoing).2.1, (hlist _).2 (h.going hgoing).2.2⟩
      · rw [hsource] at hover ⊢
        exact (hlist _).2 (h.atEnd hover)
      · rw [hsource] at hstopped
        exact absurd (hrunning.symm.trans hstopped) Bool.noConfusion
  · rw [if_neg hrunning] at hsource htaken
    rw [htaken, Option.toList_none, List.append_nil]
    exact h.of_source hsource

/-- A step that lets the reader go on keeps account of what was taken and of what waits. -/
theorem Reads.step (h : s.Reads pieces taken) (ha : a.stopsReader = false) :
    (s.step a).1.Reads (pieces ++ s.received a) (taken ++ (s.taken? a).toList) := by
  have hother (hsource : s.sourceAfter a = s.source) (hreceived : s.received a = [])
      (htaken : s.taken? a = none) :
      (s.step a).1.Reads (pieces ++ s.received a) (taken ++ (s.taken? a).toList) := by
    rw [hreceived, htaken, Option.toList_none, List.append_nil, List.append_nil]
    exact h.of_source ((source_step s ha).trans hsource)
  cases a with
  | arrive piece => simpa [taken?] using h.arrive piece
  | endOfStream => simpa [taken?, received] using h.endOfStream
  | readLine => simpa [received] using h.readLine
  | _ => exact hother rfl rfl rfl

theorem Reads.isPrefix (h : s.Reads pieces taken) : taken <+: LineReader.events maxFrame pieces := by
  by_cases hended : s.source.ended = true
  · rw [← h.atEnd hended]
    exact List.prefix_append _ _
  · obtain ⟨-, -, harrived⟩ := h.going (by simpa using hended)
    rw [LineReader.events, ← harrived, List.append_assoc]
    exact List.prefix_append _ _

/-- The reader has stopped at the end of the stream, with everything taken. -/
theorem Reads.of_stopped (h : s.Reads pieces taken) (hstopped : s.source.running = false) :
    s.source.ended = true ∧ taken = LineReader.events maxFrame pieces := by
  have hended : s.source.ended = true := by
    by_contra hgoing
    have hrunning := (h.going (by simpa using hgoing)).1
    exact absurd (hstopped.symm.trans hrunning) Bool.false_ne_true
  have hall := h.atEnd hended
  rw [h.stopped hstopped, List.append_nil] at hall
  exact ⟨hended, hall⟩

/-! ## Runs -/

/-- What the reader comes upon in the course of a run. -/
def reading (s : Client) : List ClientAction → List LineEvent
  | [] => []
  | a :: rest => (s.taken? a).toList ++ (s.step a).1.reading rest

/-- How the reader deals with it. -/
def handled (s : Client) (actions : List ClientAction) : List Handling :=
  (s.reading actions).map LineEvent.handling

theorem reading_append (s : Client) (xs ys : List ClientAction) :
    s.reading (xs ++ ys) = s.reading xs ++ (s.run xs).1.reading ys := by
  induction xs generalizing s with
  | nil => rfl
  | cons a rest ih =>
    have hrun : (s.run (a :: rest)).1 = ((s.step a).1.run rest).1 := rfl
    rw [List.cons_append, reading, ih, reading, List.append_assoc, hrun]

theorem ended_step (ha : a.stopsReader = false) :
    (s.step a).1.source.ended = true ↔ s.source.ended = true ∨ a = .endOfStream := by
  rw [source_step s ha]
  cases a with
  | arrive piece =>
    simp only [sourceAfter, arrive]
    split <;> simp
  | endOfStream =>
    simp only [sourceAfter, endOfStream]
    split <;> simp_all
  | readLine =>
    simp only [sourceAfter]
    repeat' split
    all_goals simp_all
  | _ => simp [sourceAfter]

/-- The stream has ended if the server has ended it. -/
theorem ended_run {actions : List ClientAction} (hactions : ∀ a ∈ actions, a.stopsReader = false) :
    (s.run actions).1.source.ended = true ↔
      s.source.ended = true ∨ .endOfStream ∈ actions := by
  induction actions generalizing s with
  | nil => simp [run]
  | cons a rest ih =>
    have ha := hactions a List.mem_cons_self
    have hrest : (s.run (a :: rest)).1 = ((s.step a).1.run rest).1 := rfl
    rw [hrest, ih fun b hb => hactions b (List.mem_cons_of_mem _ hb), ended_step ha,
      List.mem_cons, or_assoc, eq_comm (a := a)]

/-- A step brings the next piece, as long as the stream has not ended. -/
theorem received_append (ha : a.stopsReader = false) (rest : List ClientAction) :
    (s.received a ++ if (s.step a).1.source.ended then [] else arriving rest) =
      if s.source.ended then [] else arriving (a :: rest) := by
  have hended := ended_step (s := s) ha
  by_cases hs : s.source.ended = true
  · rw [if_pos (hended.2 (.inl hs)), if_pos hs, List.append_nil]
    cases a with
    | arrive piece => exact if_pos hs
    | _ => rfl
  · rw [if_neg hs]
    cases a with
    | arrive piece => simp [hended, hs, received, arriving]
    | endOfStream => simp [hended, received, arriving]
    | _ => simp [hended, hs, received, arriving]

theorem Reads.run (h : s.Reads pieces taken) {actions : List ClientAction}
    (hactions : ∀ a ∈ actions, a.stopsReader = false) :
    (s.run actions).1.Reads (pieces ++ if s.source.ended then [] else arriving actions)
      (taken ++ s.reading actions) := by
  induction actions generalizing s pieces taken with
  | nil => simpa [Client.run, arriving, reading] using h
  | cons a rest ih =>
    have ha := hactions a List.mem_cons_self
    have hstep := ih (h.step ha) fun b hb => hactions b (List.mem_cons_of_mem _ hb)
    rw [← received_append ha, reading, ← List.append_assoc, ← List.append_assoc]
    exact hstep

/-! ## The loop -/

/-- What the framed stream of lines yields when it is polled. -/
inductive Polled where
  | line (bytes : ByteArray)
  | tooLong
  /-- Nothing, for now or for good. -/
  | nothing

/-- What polling yields until the end: nothing once behind each report, and nothing at the end. -/
def polls : List LineEvent → List Polled
  | [] => [.nothing]
  | .line bytes :: rest => .line bytes :: polls rest
  | .oversized :: rest => .tooLong :: .nothing :: polls rest

/-- The stream has handed over the first of what waited. -/
def handOver (s : Client) : Client :=
  { s with source := { s.source with arrived := s.source.arrived.tail } }

/-- The loop of the reader over what polling yields. `resume` holds from a report until nothing has
been yielded: that is a pause then, and otherwise the end. -/
def receive (s : Client) (resume : Bool) : List Polled → Client × List Effect
  | [] => (s, [])
  | .line bytes :: rest =>
    let (s, effects) := s.handOver.takeLine bytes.toList
    let (s, more) := s.receive resume rest
    (s, effects ++ more)
  | .tooLong :: rest =>
    let (s, effects) := s.handOver.charge none .error
    let (s, more) := s.receive true rest
    (s, effects ++ more)
  | .nothing :: rest => if resume then s.receive false rest else (s.endReading false, [])

/-- Deals with what the stream has handed over. -/
def handle (s : Client) : Handling → Client × List Effect
  | .dispatch line =>
    let (s, effects) := s.extendDeadline.charge none (.bytes (line.length + 1))
    let (s, more) := s.dispatch line
    (s, effects ++ more)
  | .pass line => s.extendDeadline.charge none (.bytes (line.length + 1))
  | .penalty => s.charge none .error

theorem step_readLine_eq {event : LineEvent} {rest : List LineEvent}
    (hrunning : s.source.running = true) (harrived : s.source.arrived = event :: rest) :
    s.step .readLine = s.handOver.handle event.handling := by
  have htail : s.source.arrived.tail = rest := by rw [harrived, List.tail_cons]
  rw [step, readLine, if_pos hrunning, harrived, handOver, htail]
  cases event with
  | line bytes =>
    dsimp only [takeLine, LineEvent.handling]
    split <;> rfl
  | oversized => rfl

/-- What the reader takes in a step is dealt with in that step. -/
theorem step_of_taken? {event : LineEvent} (h : s.taken? a = some event) :
    s.step a = s.handOver.handle event.handling := by
  cases a with
  | readLine =>
    simp only [taken?] at h
    split at h
    · next hrunning =>
      obtain ⟨rest, harrived⟩ := List.head?_eq_some_iff.1 h
      exact step_readLine_eq hrunning harrived
    · cases h
  | _ => cases h

/-- The loop deals with a line or a report, and goes on behind the pause of a report. -/
theorem receive_polls_cons (s : Client) (event : LineEvent) (rest : List LineEvent) :
    s.receive false (polls (event :: rest)) =
      (((s.handOver.handle event.handling).1.receive false (polls rest)).1,
        (s.handOver.handle event.handling).2 ++
          ((s.handOver.handle event.handling).1.receive false (polls rest)).2) := by
  cases event with
  | line bytes =>
    have htake : s.handOver.takeLine bytes.toList =
        s.handOver.handle (LineEvent.line bytes).handling := by
      dsimp only [takeLine, LineEvent.handling]
      split <;> rfl
    rw [polls, receive, htake]
  | oversized => rfl

/-- **The loop goes through the pauses and stops where the stream ends**, having dealt with
everything that waited. -/
theorem receive_polls (hrunning : s.source.running = true) (hended : s.source.ended = true) :
    s.receive false (polls s.source.arrived) =
        s.run (List.replicate (s.source.arrived.length + 1) .readLine) ∧
      (s.receive false (polls s.source.arrived)).1.source.running = false := by
  induction harrived : s.source.arrived generalizing s with
  | nil =>
    have hlast : s.step .readLine = (s.endReading false, []) := by
      rw [step, readLine, if_pos hrunning, harrived]
      dsimp only
      rw [if_pos hended]
    rw [polls, receive, List.length_nil, List.replicate_one, run, hlast,
      if_neg Bool.false_ne_true]
    exact ⟨rfl, congrArg LineSource.running (source_endReading s false)⟩
  | cons event rest ih =>
    have hsource := source_readLine hrunning harrived
    have hstep := step_readLine_eq hrunning harrived
    rw [hstep] at hsource
    generalize hnext : s.handOver.handle event.handling = next at *
    obtain ⟨t, effects⟩ := next
    obtain ⟨hrun, hstopped⟩ := ih (s := t) (by rw [hsource]; exact hrunning)
      (by rw [hsource]; exact hended) (by rw [hsource])
    rw [receive_polls_cons, hnext, List.length_cons, List.replicate_succ, run, hstep]
    exact ⟨by rw [hrun], hstopped⟩

/-! ## Every line -/

theorem handling_events (pieces : List ByteArray) :
    (LineReader.events maxFrame pieces).map LineEvent.handling =
      (LineReader.segments (pieces.flatMap ByteArray.toList)).map Handling.due := by
  rw [LineReader.events_eq_segments, List.map_map]
  exact List.map_congr_left fun segment _ => handling_eventOf segment

/-- **The reader sees every line of a stream**, in whatever pieces it arrives and whatever else goes
on at the connection, as long as nothing makes the reader stop. It deals with the segments of the
stream in order, passing on those that are neither too long nor blank and paying one penalty for
each that is too long. It stops only at the end of the stream, when it has dealt with all of them,
and once the stream has ended, its loop does stop. -/
theorem reader_sees_every_line (settings : ClientSettings) {actions : List ClientAction}
    (hactions : ∀ a ∈ actions, a.stopsReader = false) :
    let s := ((start settings).run actions).1
    let due := (LineReader.segments ((arriving actions).flatMap ByteArray.toList)).map Handling.due
    let reads := List.replicate (s.source.arrived.length + 1) .readLine
    (start settings).handled actions <+: due ∧
      (s.source.running = false →
        .endOfStream ∈ actions ∧ (start settings).handled actions = due) ∧
      (.endOfStream ∈ actions → s.source.running = true →
        s.receive false (polls s.source.arrived) = s.run reads ∧
          (s.run reads).1.source.running = false ∧
          (start settings).handled (actions ++ reads) = due) ∧
      ∀ (t : Client) (a : ClientAction) (event : LineEvent), t.taken? a = some event →
        t.step a = t.handOver.handle event.handling := by
  intro s due reads
  have hreads : s.Reads (arriving actions) ((start settings).reading actions) := by
    have h := (reads_start settings).run hactions
    rwa [List.nil_append, List.nil_append] at h
  have hended : s.source.ended = true ↔ .endOfStream ∈ actions :=
    (ended_run hactions).trans (or_iff_right Bool.false_ne_true)
  have hdue := handling_events (arriving actions)
  refine ⟨?_, fun hstopped => ?_, fun hend hrunning => ?_, fun t a event => step_of_taken?⟩
  · have hprefix := hreads.isPrefix.map LineEvent.handling
    rwa [hdue] at hprefix
  · obtain ⟨hover, hall⟩ := hreads.of_stopped hstopped
    exact ⟨hended.1 hover, by rw [handled, hall, hdue]⟩
  · have hover := hended.2 hend
    obtain ⟨hloop, hstopped⟩ := receive_polls hrunning hover
    have hall : (s.run reads).1.Reads (arriving actions)
        ((start settings).reading actions ++ s.reading reads) := by
      have hgoing : ∀ a ∈ reads, a.stopsReader = false := by
        intro a ha
        rw [List.eq_of_mem_replicate ha]
        rfl
      have h := hreads.run hgoing
      rwa [if_pos hover, List.append_nil] at h
    rw [hloop] at hstopped
    refine ⟨hloop, hstopped, ?_⟩
    rw [handled, reading_append, (hall.of_stopped hstopped).2, hdue]

/-! ## A stream with lines that are too long -/

/-- More bytes than a line may have. -/
def flood : List UInt8 := List.replicate (maxFrame + 1) 0x78

theorem length_flood : flood.length = maxFrame + 1 := by
  rw [flood, List.length_replicate]

theorem unbroken_flood : 0x0a ∉ flood := by
  intro h
  rw [flood] at h
  exact absurd (List.eq_of_mem_replicate h) (by decide)

/-- A blank line, two lines that are too long, the first of them in two pieces, and a short one that
is cut as well and has no line feed. -/
def deluge : List (List UInt8) :=
  [0x0a :: flood, flood ++ [0x0a], flood ++ [0x0a, 0x7b], [0x7d]]

theorem segments_deluge :
    LineReader.segments deluge.flatten = [[], flood ++ flood, flood, [0x7b, 0x7d]] := by
  have hbytes : deluge.flatten =
      [] ++ 0x0a :: ((flood ++ flood) ++ 0x0a :: (flood ++ 0x0a :: [0x7b, 0x7d])) := by
    simp [deluge]
  have hflood := unbroken_flood
  have htwice : 0x0a ∉ flood ++ flood := by simp [hflood]
  have hlast : LineReader.segments [0x7b, 0x7d] = [[0x7b, 0x7d]] := by decide
  rw [hbytes, LineReader.segments_append_feed List.not_mem_nil,
    LineReader.segments_append_feed htwice, LineReader.segments_append_feed hflood, hlast]

theorem due_deluge : (LineReader.segments deluge.flatten).map Handling.due =
    [.pass [], .penalty, .penalty, .dispatch [0x7b, 0x7d]] := by
  have hlong (segment : List UInt8) (h : maxFrame < segment.length) :
      Handling.due segment = .penalty := if_pos h
  have hflood : maxFrame < flood.length := by
    rw [length_flood]
    exact Nat.lt_succ_self _
  have htwice : maxFrame < (flood ++ flood).length := by
    rw [List.length_append]
    omega
  have hblank : Handling.due [] = .pass [] := by decide
  have hlast : Handling.due [0x7b, 0x7d] = .dispatch [0x7b, 0x7d] := by decide
  rw [segments_deluge, List.map_cons, List.map_cons, List.map_cons, List.map_singleton, hblank,
    hlong _ htwice, hlong _ hflood, hlast]

/-- Pieces arrive, and the reader takes what it finds behind each of them. -/
def feeding (pieces : List (List UInt8)) : List ClientAction :=
  pieces.flatMap fun piece => [.arrive piece.toByteArray, .readLine]

theorem mem_feeding {pieces : List (List UInt8)} (h : a ∈ feeding pieces) :
    a = .readLine ∨ ∃ piece, a = .arrive piece := by
  obtain ⟨piece, -, ha⟩ := List.mem_flatMap.1 h
  simp only [List.mem_cons, List.not_mem_nil, or_false] at ha
  rcases ha with rfl | rfl
  · exact .inr ⟨_, rfl⟩
  · exact .inl rfl

theorem stopsReader_feeding {pieces : List (List UInt8)} (h : a ∈ feeding pieces) :
    a.stopsReader = false := by
  rcases mem_feeding h with rfl | ⟨piece, rfl⟩ <;> rfl

theorem arriving_feeding (pieces : List (List UInt8)) (rest : List ClientAction) :
    (arriving (feeding pieces ++ .endOfStream :: rest)).flatMap ByteArray.toList =
      pieces.flatten := by
  induction pieces with
  | nil => rfl
  | cons piece pieces ih =>
    have hfirst : feeding (piece :: pieces) =
        .arrive piece.toByteArray :: .readLine :: feeding pieces := rfl
    rw [hfirst]
    simp only [List.cons_append, arriving, List.flatMap_cons, ih, List.flatten_cons,
      Hex.toList_eq_data, List.toList_data_toByteArray]

/-- The reader is still at work when the stream ends. -/
theorem running_feeding (settings : ClientSettings) (pieces : List (List UInt8)) :
    ((start settings).run (feeding pieces ++ [.endOfStream])).1.source.running = true := by
  have hgoing : ∀ a ∈ feeding pieces, a.stopsReader = false := fun a => stopsReader_feeding
  have hreads := (reads_start settings).run hgoing
  have hrunning : ((start settings).run (feeding pieces)).1.source.running = true := by
    by_contra hstopped
    have hended := (hreads.of_stopped (Bool.eq_false_iff.2 hstopped)).1
    rcases (ended_run hgoing).1 hended with h | h
    · cases h
    · rcases mem_feeding h with h | ⟨piece, h⟩ <;> cases h
  rw [run_append]
  simp only [run, step, endOfStream]
  split <;> exact hrunning

/-- Each line that is too long costs one penalty, and the others are dealt with. -/
theorem reader_sees_every_line_deluge :
    let actions := feeding deluge ++ [.endOfStream]
    let s := ((start {}).run actions).1
    let reads := List.replicate (s.source.arrived.length + 1) .readLine
    (∀ a ∈ actions, a.stopsReader = false) ∧ s.source.running = true ∧
      (s.run reads).1.source.running = false ∧
      (start {}).handled (actions ++ reads) =
        [.pass [], .penalty, .penalty, .dispatch [0x7b, 0x7d]] := by
  have hdue := due_deluge
  -- From here on the pieces must not be unfolded: they are too long.
  generalize deluge = pieces at hdue ⊢
  have hactions : ∀ a ∈ feeding pieces ++ [.endOfStream], a.stopsReader = false := by
    intro a ha
    rcases List.mem_append.1 ha with ha | ha
    · exact stopsReader_feeding ha
    · rw [List.mem_singleton.1 ha]
      rfl
  have hend : ClientAction.endOfStream ∈ feeding pieces ++ [.endOfStream] := List.mem_concat_self
  obtain ⟨-, -, hends, -⟩ := reader_sees_every_line {} hactions
  obtain ⟨-, hstopped, hall⟩ := hends hend (running_feeding {} pieces)
  rw [arriving_feeding, hdue] at hall
  exact ⟨hactions, running_feeding {} pieces, hstopped, hall⟩

end Client
end HeaderFollower
