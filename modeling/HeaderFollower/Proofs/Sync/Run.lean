/-
# Runs over one file

A run opens a store on a file and makes calls on it. The first catch-up loads the file; after a
catch-up that ended without an error tips, steps back and further catch-ups come in any order. A
call may be dropped wherever it waits, and the synchronizer may be replaced by a new one over the
same store. The server answers as it likes, and the system refuses accesses of the file as it likes.

`Keeper.Step` is one step of such a run, up to the next query, and `Keeper.Reached` are the states
of all runs. `Keeper.good_of_reached` says that the store is good once the file has been loaded, and
`Keeper.opens_at_every_moment` that the file can be opened anew after any number of its changes.
-/

import HeaderFollower.Proofs.Sync.Steps
import HeaderFollower.Proofs.Sync.TipUpdate

namespace HeaderFollower

open BlockHeader FileChange Store

/-- What the owner of a store is doing. -/
inductive Task where
  | idle
  | catchingUp (call : CatchUp)
  | updating (call : TipUpdate)
  deriving DecidableEq

/-- A call that waits is ready for any answer. -/
def Task.Ready (task : Task) (s : Store) : Prop :=
  match task with
  | .idle => True
  | .catchingUp call => call.Ready s
  | .updating call => call.Ready s

/-- The owner of a store between two steps. -/
structure Keeper where
  sync : Synchronizer
  task : Task
  /-- The file has been loaded, and all its links have been found right. -/
  loaded : Bool
  /-- A catch-up has ended without an error. -/
  caughtUp : Bool

namespace Keeper

/-- The store that is kept. -/
abbrev store (k : Keeper) : Store := k.sync.store

/-- A synchronizer over a store that has just been opened. -/
def opened (settings : SyncSettings) (s : Store) (events : ChainEvents) : Keeper :=
  ⟨.start settings s events, .idle, false, false⟩

/-- A catch-up goes on. One that comes to a query, or to its end, has loaded the file before. -/
def catchUp (k : Keeper) : Progress CatchUp Nat × Synchronizer → Keeper
  | (.waiting call, sync) => { k with sync, task := .catchingUp call, loaded := true }
  | (.done (.ok _), sync) => { sync, task := .idle, loaded := true, caughtUp := true }
  | (.done (.error _), sync) => { k with sync, task := .idle }

/-- Over a store that no catch-up has completed yet, a catch-up comes to a query exactly if the file
can be counted, loaded and verified. -/
theorem beginCatchUp_waits_iff {s : Synchronizer} (h : s.store.synced = false) :
    (∃ call, s.beginCatchUp.1 = .waiting call) ↔
      (∃ n, s.store.file.count = .ok n) ∧ s.store.loadAndVerify.1 = .ok () := by
  rw [Synchronizer.beginCatchUp]
  cases hcount : s.store.file.count with
  | error e => simp [Synchronizer.failed]
  | ok n =>
    simp only [h, Bool.false_eq_true, false_and, if_false]
    rcases s.store.loadAndVerify with ⟨r, t⟩
    cases r with
    | error e => simp [Synchronizer.failed]
    | ok => simp [Synchronizer.nextRequest]

/-- The handling of a tip goes on. -/
def update (k : Keeper) : Progress TipUpdate TipOutcome × Synchronizer → Keeper
  | (.waiting call, sync) => { k with sync, task := .updating call }
  | (.done _, sync) => { k with sync, task := .idle }

/-- The system changes its mind about which accesses of the file it refuses. -/
def withRefusal (k : Keeper) (refusal? : FileAccess → Nat → Option String) : Keeper :=
  { k with sync := { k.sync with store := { k.store with file := { k.store.file with refusal? } } } }

/-- One step of a run, with the error that a call returns in it. -/
inductive Step : Keeper → Option SyncError → Keeper → Prop where
  | beginCatchUp {k : Keeper} (idle : k.task = .idle) :
      Step k k.sync.beginCatchUp.1.fault? (k.catchUp k.sync.beginCatchUp)
  | resumeCatchUp {k : Keeper} {call : CatchUp} (waits : k.task = .catchingUp call)
      (answer : call.query.Answer) :
      Step k (k.sync.resumeCatchUp call answer).1.fault?
        (k.catchUp (k.sync.resumeCatchUp call answer))
  | beginTip {k : Keeper} (idle : k.task = .idle) (caughtUp : k.caughtUp = true) (work : TipWork) :
      Step k (k.sync.beginTip work).1.fault? (k.update (k.sync.beginTip work))
  | resumeTip {k : Keeper} {call : TipUpdate} (waits : k.task = .updating call)
      (answer : call.query.Answer) :
      Step k (k.sync.resumeTip call answer).1.fault? (k.update (k.sync.resumeTip call answer))
  | rewind {k : Keeper} (idle : k.task = .idle) (caughtUp : k.caughtUp = true) :
      Step k (faultOf k.sync.rewind.1) { k with sync := k.sync.rewind.2 }
  /-- The call that waits is given up. -/
  | drop (k : Keeper) : Step k none { k with task := .idle }
  /-- A new synchronizer takes over the store. -/
  | renew {k : Keeper} (idle : k.task = .idle) (settings : SyncSettings) (events : ChainEvents) :
      Step k none { k with sync := .start settings k.store events }
  | refuse (k : Keeper) (refusal? : FileAccess → Nat → Option String) :
      Step k none (k.withRefusal refusal?)

/-- The states of the runs that open a store on a file. -/
inductive Reached (start size : Nat) (content : Option (List UInt8)) : Keeper → Prop where
  | opened {s : Store} (h : Store.openOn start size content = .ok s) (settings : SyncSettings)
      (events : ChainEvents) : Reached start size content (.opened settings s events)
  | step {k l : Keeper} {e : Option SyncError} (h : Reached start size content k)
      (hs : k.Step e l) : Reached start size content l

variable {start size : Nat} {content : Option (List UInt8)} {origin : List UInt8} {k l : Keeper}
  {e : Option SyncError}

/-! ## What one step does -/

section
variable {grow change : Store → Store → Option SyncError → Prop}

theorem change_catchUp {out : Progress CatchUp Nat × Synchronizer}
    (h : Advances change CatchUp.Ready k.store out) :
    change k.store (k.catchUp out).store out.1.fault? ∧
      (k.catchUp out).task.Ready (k.catchUp out).store := by
  rcases out with ⟨call | r, s⟩
  · exact ⟨h.change, h.ready call rfl⟩
  · cases r with
    | ok n => exact ⟨h.change, trivial⟩
    | error e => exact ⟨h.change, trivial⟩

theorem change_update {out : Progress TipUpdate TipOutcome × Synchronizer}
    (h : Advances change TipUpdate.Ready k.store out) :
    change k.store (k.update out).store out.1.fault? ∧
      (k.update out).task.Ready (k.update out).store := by
  rcases out with ⟨call | r, s⟩
  · exact ⟨h.change, h.ready call rfl⟩
  · exact ⟨h.change, trivial⟩

/-- **A step changes the store as the pieces of the calls do.** -/
theorem Step.of_pieces (p : Pieces grow change) (h : k.Step e l) (hready : k.task.Ready k.store) :
    change k.store l.store e ∧ l.task.Ready l.store := by
  cases h with
  | beginCatchUp idle => exact change_catchUp (p.beginCatchUp k.sync)
  | resumeCatchUp waits answer =>
    rw [waits] at hready
    exact change_catchUp (p.resumeCatchUp k.sync _ hready answer)
  | beginTip idle caughtUp work => exact change_update (p.beginTip k.sync work)
  | resumeTip waits answer =>
    rw [waits] at hready
    exact change_update (p.resumeTip k.sync _ hready answer)
  | rewind idle caughtUp =>
    refine ⟨p.rewind k.sync, ?_⟩
    show k.task.Ready _
    rw [idle]
    trivial
  | drop => exact ⟨p.of_grow (p.refl _ fun _ e => by cases e), trivial⟩
  | renew idle settings events =>
    refine ⟨p.of_grow (p.refl _ fun _ e => by cases e), ?_⟩
    show k.task.Ready _
    rw [idle]
    trivial
  | refuse refusal? => exact ⟨p.of_grow (p.refusal k.store refusal?), hready⟩

end

/-- **A step keeps a sound store sound.** -/
theorem Step.keeps (h : k.Step e l) (origin : List UInt8) (hready : k.task.Ready k.store) :
    Keeps origin k.store l.store e ∧ l.task.Ready l.store :=
  h.of_pieces (pieces_keeps origin) hready

theorem Step.loaded (h : k.Step e l) (hl : k.loaded = true) : l.loaded = true := by
  have hcatch (out : Progress CatchUp Nat × Synchronizer) : (k.catchUp out).loaded = true := by
    rcases out with ⟨call | _ | _, s⟩
    · rfl
    · exact hl
    · rfl
  have hupdate (out : Progress TipUpdate TipOutcome × Synchronizer) :
      (k.update out).loaded = true := by
    rcases out with ⟨call | _, s⟩
    · exact hl
    · exact hl
  cases h with
  | beginCatchUp idle => exact hcatch _
  | resumeCatchUp waits answer => exact hcatch _
  | beginTip idle caughtUp work => exact hupdate _
  | resumeTip waits answer => exact hupdate _
  | rewind idle caughtUp => exact hl
  | drop => exact hl
  | renew idle settings events => exact hl
  | refuse refusal? => exact hl

/-! ## The first load -/

/-- Nothing has been loaded, and nothing has been done to the file. -/
structure Untouched (start size : Nat) (origin : List UInt8) (k : Keeper) : Prop where
  idle : k.task = .idle
  not_caughtUp : k.caughtUp = false
  not_loaded : k.loaded = false
  not_synced : k.store.synced = false
  startPoint_eq : k.store.startPoint = start
  headerSize_eq : k.store.headerSize = size
  content_eq : k.store.file.content = some origin
  changes_eq : k.store.file.changes = []

theorem untouched_opened {s : Store} (h : Store.openOn start size content = .ok s)
    (settings : SyncSettings) (events : ChainEvents) :
    (content.getD []).length % size = 0 ∧
      (opened settings s events).Untouched start size (content.getD []) := by
  rw [openOn, HeaderFile.openOn] at h
  by_cases hlen : (content.getD []).length % size = 0
  · simp only [HeaderFile.checkLength_eq_ok hlen] at h
    obtain rfl := Except.ok.inj h
    exact ⟨hlen, rfl, rfl, rfl, rfl, rfl, rfl, rfl, rfl⟩
  · simp [HeaderFile.checkLength, hlen] at h

/-- A catch-up that fails on the way to its first query leaves everything as it is. -/
theorem Untouched.catchUp_failed (h : k.Untouched start size origin) {s : Synchronizer}
    (hstart : s.store.startPoint = k.store.startPoint) (hsync : s.store.synced = k.store.synced)
    (hfile : s.store.file = k.store.file) (e : SyncError) :
    (k.catchUp (s.failed e)).Untouched start size origin :=
  ⟨rfl, h.not_caughtUp, h.not_loaded, hsync.trans h.not_synced, hstart.trans h.startPoint_eq,
    (congrArg HeaderFile.headerSize hfile).trans h.headerSize_eq,
    (congrArg HeaderFile.content hfile).trans h.content_eq,
    (congrArg HeaderFile.changes hfile).trans h.changes_eq⟩

/-- **The first catch-up loads the file, or it fails and leaves the file as it is.** -/
theorem Untouched.beginCatchUp_cases (h : k.Untouched start size origin) {hs : List BlockHeader}
    (hsized : Sized size hs) (horigin : origin = concat hs) (hfit : k.store.HeightsFit origin) :
    (k.catchUp k.sync.beginCatchUp).Untouched start size origin ∨
      (k.catchUp k.sync.beginCatchUp).store.Sound origin ∧
        (k.catchUp k.sync.beginCatchUp).loaded = true ∧
        (k.catchUp k.sync.beginCatchUp).store.file = k.store.file ∧
        k.sync.beginCatchUp.1.fault? = none := by
  rw [← h.headerSize_eq] at hsized
  have hcontent : k.store.file.content = some (concat hs) := horigin ▸ h.content_eq
  have hle : k.store.startPoint + hs.length ≤ heightLimit :=
    hfit.length_le (n := 0) (by rw [List.take_zero, replay_nil, horigin]) hsized
  rw [Synchronizer.beginCatchUp]
  split
  · exact .inl (h.catchUp_failed (by rfl) (by rfl) (by rfl) _)
  · rw [if_neg (by simp [h.not_synced])]
    rcases Store.loadAndVerify_cases hcontent hsized hle with ⟨text, -, he⟩ | ⟨ix, he, hix⟩
    · simp only [he]
      exact .inl (h.catchUp_failed (by rfl) (by rfl) (by rfl) _)
    · have hlist : (k.store.listing ix hs).Indexes hs := ⟨hix, rfl⟩
      simp only [he]
      split
      · next e t ht =>
        obtain ⟨-, rfl⟩ := Prod.mk.inj ht
        exact .inl (h.catchUp_failed (by rfl) (by rfl) (by rfl) _)
      · next t ht =>
        obtain ⟨hverify, rfl⟩ := Prod.mk.inj ht
        have hold : (k.store.listing ix hs).Holds hs :=
          ⟨hlist, ⟨hsized, hlist.verify_all_iff.1 hverify⟩, hcontent⟩
        have hsound : (k.store.listing ix hs).Sound origin := by
          refine ⟨⟨hs, hold⟩, ?_, fun n => ⟨hs, hold.chained, ?_⟩⟩
          · rw [h.changes_eq, h.content_eq, replay_nil]
          · rw [h.changes_eq, List.take_nil, replay_nil, horigin]
        exact .inr ⟨hsound, rfl, rfl, rfl⟩

/-- While the file is untouched, a step can load it but not change it. -/
theorem Untouched.step (h : k.Untouched start size origin) {hs : List BlockHeader}
    (hsized : Sized size hs) (horigin : origin = concat hs) (hfit : k.store.HeightsFit origin)
    (hstep : k.Step e l) :
    l.Untouched start size origin ∨
      l.store.Sound origin ∧ l.loaded = true ∧ l.store.file = k.store.file ∧ e = none := by
  cases hstep with
  | beginCatchUp idle => exact h.beginCatchUp_cases hsized horigin hfit
  | resumeCatchUp waits answer =>
    rw [h.idle] at waits
    cases waits
  | beginTip idle caughtUp work =>
    rw [h.not_caughtUp] at caughtUp
    cases caughtUp
  | resumeTip waits answer =>
    rw [h.idle] at waits
    cases waits
  | rewind idle caughtUp =>
    rw [h.not_caughtUp] at caughtUp
    cases caughtUp
  | drop => exact .inl { h with idle := rfl }
  | renew idle settings events => exact .inl { h with }
  | refuse refusal? => exact .inl { h with }

/-! ## All steps of a run -/

theorem Reached.ready (h : Reached start size content k) : k.task.Ready k.store := by
  induction h with
  | opened h settings events => trivial
  | step h hs ih => exact (hs.keeps [] ih).2

theorem Reached.whole (h : Reached start size content k) : (content.getD []).length % size = 0 := by
  induction h with
  | opened h settings events => exact (untouched_opened h settings events).1
  | step h hs ih => exact ih

/-- Start point and header size are those that the store was opened with. -/
theorem Reached.params (h : Reached start size content k) :
    k.store.startPoint = start ∧ k.store.headerSize = size := by
  induction h with
  | opened h settings events =>
    have hopened := (untouched_opened h settings events).2
    exact ⟨hopened.startPoint_eq, hopened.headerSize_eq⟩
  | step h hs ih =>
    have hlater := (hs.keeps [] h.ready).1.precedes
    exact ⟨hlater.startPoint_eq.trans ih.1, hlater.headerSize_eq.trans ih.2⟩

/-- **At each moment of a run the file is untouched, or it is loaded and the store is sound.** -/
theorem Reached.untouched_or_sound (h : Reached start size content k) {hs : List BlockHeader}
    (hsized : Sized size hs) (horigin : content.getD [] = concat hs)
    (hfit : k.store.HeightsFit (content.getD [])) :
    k.Untouched start size (content.getD []) ∨
      k.loaded = true ∧ k.store.Sound (content.getD []) := by
  induction h with
  | opened h settings events => exact .inl (untouched_opened h settings events).2
  | step h hstep ih =>
    have hkeeps := (hstep.keeps (content.getD []) h.ready).1
    have hbefore := HeightsFit.of_precedes hkeeps.precedes hfit
    rcases ih hbefore with hk | ⟨hl, hk⟩
    · rcases hk.step hsized horigin hbefore hstep with hn | ⟨hn, hl, -, -⟩
      · exact .inl hn
      · exact .inr ⟨hl, hn⟩
    · exact .inr ⟨hstep.loaded hl, (hkeeps.sound hfit hk).1⟩

/-! ## A short run -/

/-- A store over a file that was not there. -/
def fresh : Keeper := opened {} (.ofFile 0 { headerSize := 80, content := some [] }) (.start 1)

/-- A catch-up has begun. -/
def asking : Keeper := fresh.catchUp fresh.sync.beginCatchUp

/-- It has asked for headers. -/
def fetching : Keeper :=
  asking.catchUp (asking.sync.resumeCatchUp (.asking ⟨2016, 0, 0⟩ 0) false)

/-- It has stored the only header that the server has. -/
def fetched : Keeper :=
  fetching.catchUp (fetching.sync.resumeCatchUp (.fetching ⟨2016, 0, 0⟩ 0)
    (.ok ⟨1, lowestHeader.toHex, none⟩))

theorem reached_fetching : Reached 0 80 none fetching := by
  have hopen : Reached 0 80 none fresh := .opened rfl {} (.start 1)
  have hbegin : Reached 0 80 none asking := hopen.step (.beginCatchUp rfl)
  have hasking : asking.task = .catchingUp (.asking ⟨2016, 0, 0⟩ 0) := by decide +kernel
  exact hbegin.step (.resumeCatchUp hasking false)

theorem task_fetching : fetching.task = .catchingUp (.fetching ⟨2016, 0, 0⟩ 0) := by decide +kernel

theorem reached_fetched : Reached 0 80 none fetched :=
  reached_fetching.step (.resumeCatchUp task_fetching (.ok ⟨1, lowestHeader.toHex, none⟩))

/-- All that is read off this state, so that it is computed once. -/
theorem state_fetched : fetched.task = .idle ∧ fetched.caughtUp = true ∧ fetched.loaded = true ∧
    fetched.store.synced = true ∧ fetched.store.pinned = none ∧
    fetched.store.file.changes = [.append lowestHeader.raw] := by
  decide +kernel

theorem changes_fetched : fetched.store.file.changes = [.append lowestHeader.raw] :=
  state_fetched.2.2.2.2.2

theorem heightsFit_fetched : fetched.store.HeightsFit [] := by
  refine heightsFit_of_added ?_ ?_ ?_
  · rw [reached_fetched.params.1]
    decide
  · rw [reached_fetched.params.2]
    decide
  · have hlowest : lowestHeader.raw.length = 80 := length_towerHeader 0
    simp [changes_fetched, added, hlowest]

/-! ## A run that goes back -/

section
variable {hs : List BlockHeader} {pinned : Option Nat} {x : BlockHeader}

/-- The system comes to refuse nothing. -/
theorem exists_step_granted (k : Keeper) (h : k.store.Holds hs) :
    ∃ l, k.Step none l ∧ l.task = k.task ∧ l.caughtUp = k.caughtUp ∧ l.loaded = k.loaded ∧
      l.store.Has k.store.startPoint k.store.headerSize hs k.store.pinned ∧
      l.store.synced = k.store.synced ∧ l.store.file.changes = k.store.file.changes :=
  ⟨_, .refuse k fun _ _ => none, rfl, rfl, rfl,
    ⟨⟨⟨h.lists, h.localTip_eq⟩, h.chained, h.content_eq⟩, rfl, rfl, fun _ _ => rfl, rfl⟩, rfl, rfl⟩

/-- The header right above those that are held is stored in one step, when its tip is told. -/
theorem exists_step_stored (hidle : k.task = .idle) (hcaught : k.caughtUp = true)
    (h : k.store.Has start size hs pinned) (hnew : Chained size (hs ++ [x]))
    (hfit : start + (hs ++ [x]).length ≤ heightLimit) :
    ∃ l, k.Step none l ∧ l.task = .idle ∧ l.caughtUp = true ∧ l.loaded = k.loaded ∧
      l.store.Has start size (hs ++ [x]) none ∧ l.store.synced = k.store.synced ∧
      l.store.file.changes = k.store.file.changes ++ [.append x.raw] := by
  obtain ⟨t, hconnect, ht, hsync⟩ := h.connect hnew hfit
  let work : TipWork := ⟨start + hs.length, x.toHex, .notification⟩
  have hsize : x.raw.length = size := (sized_cons.1 (sized_append.1 hnew.sized).2).1
  have hbegin : k.sync.beginTip work =
      ({ k.sync with store := t } : Synchronizer).settle work .advanced := by
    rw [Synchronizer.beginTip_eq_connectNotified h (show work.height = _ from rfl)
      (hsize ▸ ofHex_toHex x), Synchronizer.connectNotified, hconnect]
  have hstep := Step.beginTip hidle hcaught work
  rw [hbegin] at hstep
  have hchanges := h.changes_of_connect hnew hconnect
  exact ⟨_, hstep, rfl, hcaught, rfl, ht.unpinned, hsync, hchanges⟩

/-- The topmost headers are taken away in one step. -/
theorem exists_step_back (hidle : k.task = .idle) (hcaught : k.caughtUp = true)
    (h : k.store.Has start size hs none) (hsync : k.store.synced = true) (hne : hs ≠ [])
    (hR : 0 < k.sync.settings.rewind) :
    ∃ l length, k.Step none l ∧ l.task = .idle ∧ l.caughtUp = true ∧ l.loaded = k.loaded ∧
      l.store.Has start size (hs.take (hs.length - min k.sync.settings.rewind hs.length))
        (pinAt none (start + (hs.length - 1))) ∧
      l.store.file.changes = k.store.file.changes ++ [.shorten length] := by
  have hpos := List.length_pos_iff.2 hne
  have hdepth : 0 < min k.sync.settings.rewind hs.length := Nat.lt_min.2 ⟨hR, hpos⟩
  obtain ⟨t, he, ht, -⟩ := h.rewound hsync hdepth (Nat.min_le_right _ _) (start + (hs.length - 1))
  obtain ⟨length, hchanges⟩ := h.changes_of_rewindOps hsync hdepth (Nat.min_le_right _ _) he
  have hback := Synchronizer.rewind_eq h hne (fun h => by cases h) he
  have hstep := Step.rewind hidle hcaught
  rw [hback] at hstep
  exact ⟨_, length, hstep, hidle, hcaught, rfl, ht, hchanges⟩

end

theorem holds_fetched : fetched.store.Holds (tower 1) := by
  obtain ⟨-, -, hloaded, -⟩ := state_fetched
  have hsound : fetched.store.Sound [] := by
    have hnone : Sized 80 [] := fun _ h => absurd h List.not_mem_nil
    rcases reached_fetched.untouched_or_sound hnone rfl heightsFit_fetched with h | ⟨-, h⟩
    · rw [h.not_loaded] at hloaded
      cases hloaded
    · exact h
  obtain ⟨hs, hold⟩ := hsound.good
  have hbytes : concat hs = concat (tower 1) := by
    have hreplay : replay [] fetched.store.file.changes = concat (tower 1) := by
      rw [changes_fetched]
      rfl
    rw [← hreplay]
    exact Option.some.inj (hold.content_eq.symm.trans hsound.content_eq)
  have hsplit := split_concat hold.chained.sized
  rw [reached_fetched.params.2, hbytes, split_concat (chained_tower 1).sized] at hsplit
  have hone : hs = tower 1 := (List.map_inj_right fun _ _ => Except.ok.inj).1 hsplit.symm
  exact hone ▸ hold

/-- Some run stores two headers, takes the upper one away and stores it again. -/
theorem exists_reached_again : ∃ k, Reached 0 80 none k ∧ k.loaded = true ∧
    k.store.Has 0 80 (tower 2) none ∧ k.store.HeightsFit [] := by
  have htwo : Chained 80 (tower 1 ++ [towerHeader 1]) := chained_tower 2
  obtain ⟨hidle, hcaught, hloaded, hsync, hpinned, -⟩ := state_fetched
  obtain ⟨k, hgrant, hkidle, hkcaught, hkloaded, hkheld, hksync, hkchanges⟩ :=
    exists_step_granted fetched holds_fetched
  rw [hidle] at hkidle
  rw [hcaught] at hkcaught
  rw [hsync] at hksync
  rw [reached_fetched.params.1, reached_fetched.params.2, hpinned] at hkheld
  -- The second header is stored, and from now on one header is taken away at a time.
  obtain ⟨l, hstored, hlidle, hlcaught, hlloaded, hlheld, hlsync, hlchanges⟩ :=
    exists_step_stored hkidle hkcaught hkheld htwo (by decide)
  let renewed : Keeper := { l with sync := .start { rewind := 1 } l.store (.start 1) }
  obtain ⟨m, length, hback, hmidle, hmcaught, hmloaded, hmheld, hmchanges⟩ :=
    exists_step_back (k := renewed) hlidle hlcaught hlheld (hlsync.trans hksync)
      (List.cons_ne_nil _ _) Nat.one_pos
  replace hmheld : m.store.Has 0 80 (tower 1) (some 1) := hmheld
  replace hmchanges : m.store.file.changes = l.store.file.changes ++ [.shorten length] := hmchanges
  obtain ⟨n, hagain, -, -, hnloaded, hnheld, -, hnchanges⟩ :=
    exists_step_stored hmidle hmcaught hmheld htwo (by decide)
  have hreached : Reached 0 80 none n :=
    ((((reached_fetched.step hgrant).step hstored).step
      (.renew hlidle { rewind := 1 } (.start 1))).step hback).step hagain
  refine ⟨n, hreached, ?_, hnheld, heightsFit_of_added ?_ ?_ ?_⟩
  · rw [hnloaded, hmloaded]
    exact hlloaded.trans (hkloaded.trans hloaded)
  · rw [hnheld.startPoint_eq]
    decide
  · rw [hnheld.headerSize_eq]
    decide
  · -- The changes stay variables here, or the bytes of the headers would be computed.
    have hshort (low high back : FileChange) (hlow : low.added.length = 80)
        (hhigh : high.added.length = 80) (hback : back.added = []) :
        ([] ++ ([low] ++ [high] ++ [back] ++ [high]).flatMap added).length ≤
          0xffffffffffffffff := by
      simp [hlow, hhigh, hback]
    rw [hnchanges, hmchanges, hlchanges, hkchanges, changes_fetched]
    exact hshort _ _ _ (length_towerHeader 0) (length_towerHeader 1) rfl

/-! ## Every run -/

/-- **Once the file has been loaded, the store is good at every moment of a run**: whenever a call
returns, with an error or without, and wherever it waits and may be dropped. Only the first load can
find a broken link. -/
theorem good_of_reached (h : Reached start size content k) (hsize : baseHeaderSize ≤ size)
    (hfit : k.store.HeightsFit (content.getD [])) :
    (k.loaded = true → k.store.Good) ∧
      ∀ e l height, k.Step e l → l.store.HeightsFit (content.getD []) →
        e = some (.chain (.verifyFailed height)) → k.loaded = false ∧ l.loaded = false := by
  obtain ⟨hs, hsized, horigin⟩ := exists_eq_concat hsize h.whole
  refine ⟨fun hl => ?_, fun e l height hstep hfit' he => ?_⟩
  · rcases h.untouched_or_sound hsized horigin hfit with hk | ⟨-, hk⟩
    · rw [hk.not_loaded] at hl
      cases hl
    · exact hk.good
  · rcases h.untouched_or_sound hsized horigin hfit with hk | ⟨-, hk⟩
    · rcases hk.step hsized horigin hfit hstep with hl | ⟨-, -, -, rfl⟩
      · exact ⟨hk.not_loaded, hl.not_loaded⟩
      · cases he
    · exact absurd he (((hstep.keeps (content.getD []) h.ready).1.sound hfit' hk).2 height)

theorem good_of_reached_again : ∃ k, Reached 0 80 none k ∧ k.loaded = true ∧
    k.store.HeightsFit [] ∧ k.store.Good ∧ k.store.localTip = some 1 ∧
    ∀ e l height, k.Step e l → l.store.HeightsFit [] →
      e ≠ some (.chain (.verifyFailed height)) := by
  obtain ⟨k, hk, hl, hheld, hfit⟩ := exists_reached_again
  obtain ⟨hgood, hfault⟩ := good_of_reached hk (by decide) hfit
  refine ⟨k, hk, hl, hfit, hgood hl, ?_, fun e l height hstep hfit' he => ?_⟩
  · rw [hheld.localTip_eq, hheld.startPoint_eq]
    rfl
  · rw [(hfault e l height hstep hfit' he).1] at hl
    cases hl

/-- A file of linked headers is opened and loaded, and all its links are found right. -/
theorem exists_open_of_chained {hs : List BlockHeader} (h : Chained size hs)
    (hfit : start + hs.length ≤ heightLimit) :
    ∃ s t, Store.openOn start size (some (concat hs)) = .ok s ∧ s.rebuild = (.ok (), t) ∧
      t.Holds hs ∧ t.verify 0 true = .ok () := by
  have hlen : (concat hs).length % size = 0 := by
    rw [h.sized.length_concat]
    exact Nat.mul_mod_left _ _
  let s := Store.ofFile start { headerSize := size, content := some (concat hs) }
  have hopen : Store.openOn start size (some (concat hs)) = .ok s := by
    simp [openOn, HeaderFile.openOn, HeaderFile.checkLength_eq_ok hlen, s]
  rcases Store.rebuild_cases (s := s) rfl h.sized hfit with ⟨text, hr, -⟩ | ⟨ix, he, hix⟩
  · cases hr
  · have hlist : (s.listing ix hs).Indexes hs := ⟨hix, rfl⟩
    exact ⟨s, _, hopen, he, ⟨hlist, h, rfl⟩, hlist.verify_all_iff.2 h.linked⟩

/-- **The file can be opened anew at every moment of a run** that began with a file of linked
headers: after any number of its changes it is a whole number of headers, which are linked, load and
verify. The file is not changed before its content has been loaded and verified. -/
theorem opens_at_every_moment (h : Reached start size content k) {hs : List BlockHeader}
    (hcontent : content.getD [] = concat hs) (hchain : Chained size hs)
    (hfit : k.store.HeightsFit (content.getD [])) :
    k.store.file.content = some (replay (content.getD []) k.store.file.changes) ∧
      (∀ n, (replay (content.getD []) (k.store.file.changes.take n)).length % size = 0 ∧
        ∃ hs, Chained size hs ∧
          replay (content.getD []) (k.store.file.changes.take n) = concat hs ∧
          ∃ s t, Store.openOn start size (some (concat hs)) = .ok s ∧ s.rebuild = (.ok (), t) ∧
            t.Holds hs ∧ t.verify 0 true = .ok ()) ∧
      ∀ e l, k.Step e l → l.store.file.changes ≠ k.store.file.changes → k.loaded = true := by
  have hchained : ∀ n, ∃ hs, Chained size hs ∧
      replay (content.getD []) (k.store.file.changes.take n) = concat hs := by
    intro n
    rcases h.untouched_or_sound hchain.sized hcontent hfit with hk | ⟨-, hk⟩
    · exact ⟨hs, hchain, by rw [hk.changes_eq, List.take_nil, replay_nil, hcontent]⟩
    · rw [← h.params.2]
      exact hk.chained n
  refine ⟨?_, fun n => ?_, fun e l hstep hne => ?_⟩
  · rcases h.untouched_or_sound hchain.sized hcontent hfit with hk | ⟨-, hk⟩
    · rw [hk.changes_eq, hk.content_eq, replay_nil]
    · exact hk.content_eq
  · obtain ⟨held, hheld, he⟩ := hchained n
    have hle : start + held.length ≤ heightLimit := by
      rw [← h.params.1]
      exact hfit.length_le he (h.params.2.symm ▸ hheld.sized)
    refine ⟨?_, held, hheld, he, exists_open_of_chained hheld hle⟩
    rw [he, hheld.sized.length_concat]
    exact Nat.mul_mod_left _ _
  · rcases h.untouched_or_sound hchain.sized hcontent hfit with hk | ⟨hl, -⟩
    · rcases hk.step hchain.sized hcontent hfit hstep with hl | ⟨-, -, hfile, -⟩
      · exact absurd (hl.changes_eq.trans hk.changes_eq.symm) hne
      · exact absurd (congrArg HeaderFile.changes hfile) hne
    · exact hl

theorem opens_at_every_moment_fetched :
    fetched.store.file.content = some lowestHeader.raw ∧
      ∃ s t, Store.openOn 0 80 (some lowestHeader.raw) = .ok s ∧ s.rebuild = (.ok (), t) ∧
        t.verify 0 true = .ok () := by
  have hmoments := opens_at_every_moment reached_fetched (show [] = concat [] from rfl)
    (chained_nil 80) heightsFit_fetched
  have hraw : replay [] fetched.store.file.changes = lowestHeader.raw := by
    rw [changes_fetched]
    rfl
  obtain ⟨-, hs, -, he, s, t, hopen, hload, -, hverify⟩ := hmoments.2.1 1
  have hone : concat hs = lowestHeader.raw := by
    rw [← he, changes_fetched]
    rfl
  exact ⟨by rw [← hraw]; exact hmoments.1, s, t, hone ▸ hopen, hload, hverify⟩

end Keeper
end HeaderFollower
