/-
# The steps of a call

A call of the synchronizer runs from one query to the next; each such step is made of the pieces of
this file. Each piece keeps a sound store sound (`Store.Keeps`), whatever answer it works on, and
however the system refuses its accesses of the file.

How the pieces make up the steps has nothing to do with soundness. `Pieces` is what has to be known
of them, and `Pieces.resumeCatchUp` and `Pieces.resumeTip` put them together. A catch-up that waits
for a batch has asked for the headers from the next height on; `CatchUp.Ready` says so, and
`Advances.ready` that it stays true.
-/

import HeaderFollower.Proofs.Store.Sound
import HeaderFollower.Proofs.Sync.Batch
import HeaderFollower.Sync.TipUpdate

namespace HeaderFollower

open BlockHeader FileChange Store

/-- The error of a result. -/
def faultOf {α : Type} : Except SyncError α → Option SyncError
  | .ok _ => none
  | .error e => some e

/-- The error with which a call has ended, if it has ended with one. -/
def Progress.fault? {κ α : Type} : Progress κ α → Option SyncError
  | .waiting _ => none
  | .done r => faultOf r

/-- The error of an operation on the store, as a call reports it. -/
def chainFault {α : Type} : Except ChainError α → Option SyncError
  | .ok _ => none
  | .error e => some (.chain e)

variable {origin : List UInt8}

theorem io_ne_verifyFailed {text : String} (height : Nat) :
    some (SyncError.chain (.io text)) ≠ some (.chain (.verifyFailed height)) := by
  simp

/-- Bytes that do not decode are not blamed on the stored chain. -/
theorem raw_ne_verifyFailed {batch : HeaderBatch} {size start requested : Nat} {e : SyncError}
    (h : batch.raw size start requested = .error e) (height : Nat) :
    some e ≠ some (.chain (.verifyFailed height)) := by
  rw [HeaderBatch.raw] at h
  split at h
  · obtain rfl := Except.error.inj h
    exact fun e => by cases e
  · split at h
    · obtain rfl := Except.error.inj h
      exact fun e => by cases e
    · cases h

theorem onStale_ne_verifyFailed (s : Synchronizer) (work : TipWork) (height : Nat) :
    faultOf (s.onStale work) ≠ some (.chain (.verifyFailed height)) := by
  intro h
  rw [Synchronizer.onStale] at h
  split at h
  · cases h
  · split at h <;> cases h

/-! ## Loading and going back -/

theorem keeps_loadAndVerify (s : Store) :
    Keeps origin s s.loadAndVerify.2 (chainFault s.loadAndVerify.1) := by
  refine ⟨precedes_loadAndVerify s, fun hfit h => ?_⟩
  obtain ⟨hs, hold⟩ := h.good
  have hle := h.fits hold (.of_precedes (precedes_loadAndVerify s) hfit)
  rcases hold.loadAndVerify_cases hle with ⟨text, -, he⟩ | ⟨ix, he, hnew⟩
  · rw [he]
    exact ⟨h, io_ne_verifyFailed⟩
  · rw [he]
    exact ⟨h.of_file_eq ⟨hs, hnew⟩ rfl, fun _ e => by cases e⟩

theorem keeps_runAll_rewindOps (s : Store) (rewind : Nat) {tip : Nat}
    (htip : s.localTip = some tip) :
    let out := s.runAll (rewindOps (min rewind (tip - s.startPoint + 1)) tip)
    Keeps origin s out.2 (chainFault out.1) := by
  intro out
  refine ⟨precedes_runAll s _, fun hfit h => ?_⟩
  obtain ⟨hs, hold⟩ := h.good
  rcases hold.goBack_cases htip rewind with ⟨e, he, hne⟩ | ⟨left, ix, t, he, rfl, hnew⟩
  · rw [show out = _ from he]
    refine ⟨h, fun height hfault => hne height ?_⟩
    injection hfault with hfault
    injection hfault
  · rw [show out = _ from he] at hfit ⊢
    have hcut := h.of_change hnew rfl hold.content_eq
    exact (keeps_of_flags _ s.synced _).sound hfit hcut

theorem keeps_rewind (s : Synchronizer) :
    Keeps origin s.store s.rewind.2.store (faultOf s.rewind.1) := by
  rw [Synchronizer.rewind]
  split
  · exact .refl _ fun _ e => by cases e
  · next tip htip =>
    dsimp only
    split
    · exact .refl _ fun _ e => by cases e
    · have h : Keeps origin s.store _ _ := keeps_runAll_rewindOps s.store s.settings.rewind htip
      split <;> simp_all [faultOf, chainFault]

/-! ## Storing what connects -/

/-- Headers that continue the chain are stored at the next height. -/
theorem keeps_storeLinked (s : Synchronizer) {raw : List UInt8} {start : Nat}
    (hstart : start = s.store.nextHeight)
    (hraw : ∀ hs, s.store.Holds hs →
      ∃ new, raw = concat new ∧ Chained s.store.headerSize (hs ++ new)) :
    Keeps origin s.store (s.storeLinked raw start).2.store
      (chainFault (s.storeLinked raw start).1) := by
  rw [Synchronizer.storeLinked]
  split
  · exact .refl _ fun _ e => by cases e
  · next hne =>
    split
    · next e he =>
      refine ⟨.refl _, fun _ h => ⟨h, ?_⟩⟩
      obtain ⟨hs, hold⟩ := h.good
      obtain ⟨new, rfl, hnew⟩ := hraw hs hold
      rcases hold.append_cases (sized_append.1 hnew.sized).2 (by rintro rfl; simp at hne) with
        ⟨text, -, ho⟩ | ho
      · rw [he] at ho
        exact Except.error.inj ho ▸ io_ne_verifyFailed
      · rw [he] at ho
        cases ho
    · next u hu =>
      have hput : u.Precedes (u.storeRange raw start).2 := precedes_putAll u _ _
      refine ⟨(precedes_of_append hu).trans hput, fun hfit h => ?_⟩
      obtain ⟨hs, hold⟩ := h.good
      obtain ⟨new, rfl, hnew⟩ := hraw hs hold
      rcases hold.append_cases (sized_append.1 hnew.sized).2 (by rintro rfl; simp at hne) with
        ⟨text, -, ho⟩ | ho
      · rw [hu] at ho
        cases ho
      · rw [hu] at ho
        obtain rfl := Except.ok.inj ho
        have hle := h.fits_change (c := .append (concat new)) hold (concat_append _ _).symm
          hnew.sized (.of_precedes hput hfit)
        obtain ⟨ix, t, ht, he, hnewHold⟩ := hold.storeRange_written hnew hle
        rw [hstart, he]
        exact ⟨h.of_change hnewHold (by rw [ht]) hold.content_eq, fun _ e => by cases e⟩

/-- A header is stored if it continues the chain. -/
theorem keeps_connect (s : Store) {x : BlockHeader} (hx : x.raw.length = s.headerSize) :
    Keeps origin s (s.connect x).2 (chainFault (s.connect x).1) := by
  rw [Store.connect]
  split
  · next hlinks =>
    split
    · next e he =>
      refine ⟨.refl _, fun _ h => ⟨h, ?_⟩⟩
      obtain ⟨hs, hold⟩ := h.good
      rcases hold.extend_cases hx with ⟨text, -, ho⟩ | ho
      · rw [he] at ho
        exact Except.error.inj ho ▸ io_ne_verifyFailed
      · rw [he] at ho
        cases ho
    · next u hu =>
      refine ⟨precedes_of_extend hu, fun hfit h => ?_⟩
      obtain ⟨hs, hold⟩ := h.good
      have hnew : Chained s.headerSize (hs ++ [x]) :=
        ⟨sized_append.2 ⟨hold.chained.sized, List.forall_mem_singleton.2 hx⟩,
          linked_snoc_iff.2 ⟨hold.chained.linked, hold.connects_iff.1 hlinks⟩⟩
      rcases hold.extend_cases hx with ⟨text, -, ho⟩ | ho
      · rw [hu] at ho
        cases ho
      · rw [hu] at ho
        obtain rfl := Except.ok.inj ho
        have hle := h.fits_change (c := .append (concat [x])) hold (concat_append _ _).symm
          hnew.sized fun n => hfit n
        obtain ⟨ix, t, ht, he, hnewHold⟩ := hold.storeOne_written hnew hle
        rw [he]
        exact ⟨h.of_change hnewHold (by rw [ht]) hold.content_eq, fun _ e => by cases e⟩
  · exact .refl _ fun _ e => by cases e

/-! ## Steps between two queries -/

/-- What the pieces of a call do to a store: `grow` says it of those that only add to the store, or
leave it alone, and `change` of a step, which may end with one that takes headers or the pin away.
-/
structure Pieces (grow change : Store → Store → Option SyncError → Prop) : Prop where
  refl : ∀ (s : Store) {e : Option SyncError},
    (∀ height, e ≠ some (.chain (.verifyFailed height))) → grow s s e
  trans : ∀ {s t u : Store} {e₁ e₂ : Option SyncError}, grow s t e₁ → grow t u e₂ → grow s u e₂
  precedes : ∀ {s t : Store} {e : Option SyncError}, grow s t e → s.Precedes t
  of_grow : ∀ {s t : Store} {e : Option SyncError}, grow s t e → change s t e
  after : ∀ {s t u : Store} {e₁ e₂ : Option SyncError},
    grow s t e₁ → change t u e₂ → change s u e₂
  load : ∀ s : Store, grow s s.loadAndVerify.2 (chainFault s.loadAndVerify.1)
  synced : ∀ (s : Store) (synced : Bool), grow s (s.setSynced synced) none
  refusal : ∀ (s : Store) (refusal? : FileAccess → Nat → Option String),
    grow s { s with file := { s.file with refusal? } } none
  storeLinked : ∀ (s : Synchronizer) {raw : List UInt8} {start : Nat}, start = s.store.nextHeight →
    (∀ hs, s.store.Holds hs → ∃ new, raw = concat new ∧ Chained s.store.headerSize (hs ++ new)) →
    grow s.store (s.storeLinked raw start).2.store (chainFault (s.storeLinked raw start).1)
  connect : ∀ (s : Store) {x : BlockHeader}, x.raw.length = s.headerSize →
    grow s (s.connect x).2 (chainFault (s.connect x).1)
  rewind : ∀ s : Synchronizer, change s.store s.rewind.2.store (faultOf s.rewind.1)
  clear : ∀ s : Store, change s s.clearRecovery none

/-- From the store `s` a call goes on as `out` says: the store changes as it may, and where the call
waits, it is ready for any answer. -/
structure Advances {κ α : Type} (change : Store → Store → Option SyncError → Prop)
    (ready : κ → Store → Prop) (s : Store) (out : Progress κ α × Synchronizer) : Prop where
  change : change s out.2.store out.1.fault?
  ready : ∀ call, out.1 = .waiting call → ready call out.2.store

/-- A catch-up that waits for a batch has asked for the headers from the next height on. -/
def CatchUp.Ready (call : CatchUp) (s : Store) : Prop :=
  match call with
  | .fetching _ start => start = s.nextHeight
  | _ => True

/-- The header of a notified tip is a record of the store's size. -/
def TipUpdate.Ready (call : TipUpdate) (s : Store) : Prop :=
  match call with
  | .batch _ notified _ _ => notified.raw.length = s.headerSize
  | .single _ notified _ => notified.raw.length = s.headerSize

namespace Pieces

variable {grow change : Store → Store → Option SyncError → Prop}

section
variable {κ α : Type} {ready : κ → Store → Prop} {s t : Store}

theorem follow (p : Pieces grow change) {e : Option SyncError} {out : Progress κ α × Synchronizer}
    (h : grow s t e) (k : Advances change ready t out) : Advances change ready s out :=
  ⟨p.after h k.change, k.ready⟩

theorem done {r : Except SyncError α} (u : Synchronizer)
    (h : change s u.store (faultOf r)) : Advances change ready s (.done r, u) :=
  ⟨h, fun _ e => by cases e⟩

/-- A call that ends here leaves the store as it is. -/
theorem stay (p : Pieces grow change) {r : Except SyncError α} (u : Synchronizer)
    (h : ∀ height, faultOf r ≠ some (.chain (.verifyFailed height))) :
    Advances change ready u.store (.done r, u) :=
  done u (p.of_grow (p.refl _ h))

theorem waiting (p : Pieces grow change) {call : κ} (u : Synchronizer) (h : ready call u.store) :
    Advances (α := α) change ready u.store (.waiting call, u) := by
  refine ⟨p.of_grow (p.refl _ fun _ e => by cases e), ?_⟩
  rintro call ⟨⟩
  exact h

end

variable (p : Pieces grow change) (s : Synchronizer)
include p

/-- The records of a batch are stored one after the other as long as they continue the chain. -/
theorem connectAll (start : Nat) (s : Store) {records : List (Except HeaderError BlockHeader)}
    (hrecords : ∀ x, .ok x ∈ records → x.raw.length = s.headerSize) :
    grow s (s.connectAll start records).2 (faultOf (s.connectAll start records).1) := by
  induction records generalizing s with
  | nil => exact p.refl _ fun _ e => by cases e
  | cons r rest ih =>
    cases r with
    | error e => exact p.refl _ fun _ e => by cases e
    | ok x =>
      have hconnect : grow s _ _ := p.connect s (hrecords x List.mem_cons_self)
      rw [Store.connectAll]
      rcases hr : s.connect x with ⟨r, t⟩
      rw [hr] at hconnect
      cases r with
      | error e => exact hconnect
      | ok connection =>
        cases connection with
        | broken height => exact hconnect
        | advanced =>
          refine p.trans hconnect (ih t fun y hy => ?_)
          rw [(p.precedes hconnect).headerSize_eq]
          exact hrecords y (List.mem_cons_of_mem _ hy)

/-! ## The steps of a catch-up -/

theorem nextRequest (count : CatchUpCount) :
    Advances change CatchUp.Ready s.store (s.nextRequest count) := p.waiting s trivial

theorem finishCatchUp (count : CatchUpCount) :
    Advances change CatchUp.Ready s.store (s.finishCatchUp count) := by
  have hload : grow s.store _ _ := p.load s.store
  rw [Synchronizer.finishCatchUp]
  split
  · next e t he =>
    rw [he] at hload
    exact done _ (p.of_grow hload)
  · next t he =>
    rw [he] at hload
    refine done _ (p.after (p.trans hload (p.synced t true)) ?_)
    show change (t.setSynced true) (if 0 < count.sinceRewind then (t.setSynced true).clearRecovery
      else t.setSynced true) none
    split
    · exact p.clear _
    · exact p.of_grow (p.refl _ fun _ e => by cases e)

theorem rewindAndGoOn (count : CatchUpCount) :
    Advances change CatchUp.Ready s.store
      (match s.rewind with
        | (.error e, s) => s.failed e
        | (.ok (), s) => s.nextRequest count) := by
  have hback : change s.store _ _ := p.rewind s
  split
  · next e t he =>
    rw [he] at hback
    exact done _ hback
  · next t he =>
    rw [he] at hback
    refine ⟨hback, ?_⟩
    rintro call ⟨⟩
    trivial

theorem goBack (count : CatchUpCount) :
    Advances change CatchUp.Ready s.store (s.goBack count) := by
  rw [Synchronizer.goBack]
  split
  next verified t hverified =>
  by_cases hsync : s.store.synced
  · rw [if_pos hsync] at hverified
    cases hverified
    exact p.rewindAndGoOn s _
  · rw [if_neg hsync] at hverified
    have hload : grow s.store _ _ := p.load s.store
    split at hverified
    · next e u he =>
      cases hverified
      rw [he] at hload
      exact done _ (p.of_grow hload)
    · next u he =>
      cases hverified
      rw [he] at hload
      exact p.follow (p.trans hload (p.synced u true))
        (p.rewindAndGoOn { s with store := u.setSynced true } _)

theorem afterBatch (count : CatchUpCount) (batch : HeaderBatch) (linked : Nat) :
    Advances change CatchUp.Ready s.store (s.afterBatch count batch linked) := by
  rw [Synchronizer.afterBatch]
  dsimp only
  split
  · exact p.goBack s _
  · split
    · exact p.nextRequest s _
    · split
      · exact p.finishCatchUp s _
      · exact p.nextRequest s _

/-- A batch for the next heights is stored as far as it continues the chain. -/
theorem takeBatch (count : CatchUpCount) {start : Nat} (hstart : start = s.store.nextHeight)
    (batch : HeaderBatch) :
    Advances change CatchUp.Ready s.store (s.takeBatch count start batch) := by
  rw [Synchronizer.takeBatch]
  split
  · exact p.stay _ fun _ e => by cases e
  · split
    · next e he => exact p.stay _ fun _ => raw_ne_verifyFailed he _
    · next raw _ =>
      split
      · exact p.stay _ fun _ e => by cases e
      · next linked hlinked =>
        have hstore : grow s.store _ _ :=
          p.storeLinked s hstart fun hs hold => hold.exists_of_linkedPrefix hold.chained hlinked
        split
        · next e t he =>
          rw [he] at hstore
          exact done _ (p.of_grow hstore)
        · next t he =>
          rw [he] at hstore
          exact p.follow hstore (p.afterBatch t count batch linked)

/-- **Whatever is answered, a step of a catch-up is made of these pieces.** -/
theorem resumeCatchUp (call : CatchUp) (hready : call.Ready s.store)
    (answer : call.query.Answer) :
    Advances change CatchUp.Ready s.store (s.resumeCatchUp call answer) := by
  cases call with
  | asking count waits =>
    simp only [Synchronizer.resumeCatchUp]
    split
    · exact p.waiting s trivial
    · exact p.waiting s rfl
  | pausing count waits => exact p.waiting s trivial
  | fetching count start =>
    cases answer with
    | error e => exact p.stay _ fun _ e => by cases e
    | ok batch => exact p.takeBatch s count hready batch

/-- So is the beginning of a catch-up. -/
theorem beginCatchUp : Advances change CatchUp.Ready s.store s.beginCatchUp := by
  rw [Synchronizer.beginCatchUp]
  dsimp only
  split
  · next e he =>
    refine p.stay { s with phase := .bulkSync } fun height h => ?_
    cases h
    exact HeaderFile.count_ne_verifyFailed he height rfl
  · split
    · exact p.nextRequest { s with phase := .bulkSync } _
    · have hload : grow s.store _ _ := p.load s.store
      split
      · next e t he =>
        rw [he] at hload
        exact done _ (p.of_grow hload)
      · next t he =>
        rw [he] at hload
        exact p.follow hload (p.nextRequest { s with store := t, phase := .bulkSync } _)

/-! ## The steps of the handling of a tip -/

theorem settle (work : TipWork) (connection : Connection) :
    Advances change TipUpdate.Ready s.store (s.settle work connection) := by
  cases connection with
  | advanced => exact done _ (p.clear s.store)
  | broken height =>
    have hback : change s.store _ _ := p.rewind s
    rw [Synchronizer.settle]
    split
    · next e t he =>
      rw [he] at hback
      exact done _ hback
    · next t he =>
      rw [he] at hback
      exact done _ hback

section
variable {notified : BlockHeader} (work : TipWork)

theorem connectNotified (hsize : notified.raw.length = s.store.headerSize) :
    Advances change TipUpdate.Ready s.store (s.connectNotified work notified) := by
  have hconnect : grow s.store _ _ := p.connect s.store hsize
  rw [Synchronizer.connectNotified]
  split
  · next e t he =>
    rw [he] at hconnect
    exact done _ (p.of_grow hconnect)
  · next connection t he =>
    rw [he] at hconnect
    exact p.follow hconnect (p.settle { s with store := t } work connection)

theorem nextBatch (hsize : notified.raw.length = s.store.headerSize) (start : Nat) :
    Advances change TipUpdate.Ready s.store (s.nextBatch work notified start) := by
  rw [Synchronizer.nextBatch]
  split
  · exact p.waiting s hsize
  · exact p.connectNotified s work hsize

theorem nextSingle (hsize : notified.raw.length = s.store.headerSize) (height : Nat) :
    Advances change TipUpdate.Ready s.store (s.nextSingle work notified height) := by
  rw [Synchronizer.nextSingle]
  split
  · exact p.waiting s hsize
  · exact p.connectNotified s work hsize

/-- A tip is taken up only if it comes with a header of the right size. -/
theorem beginTip : Advances change TipUpdate.Ready s.store (s.beginTip work) := by
  rw [Synchronizer.beginTip]
  split
  · exact p.stay _ fun _ e => by cases e
  · split
    · exact p.stay _ fun height h => onStale_ne_verifyFailed s work height h
    · split
      · exact p.stay _ fun _ e => by cases e
      · next notified hnotified =>
        have hsize := length_raw_of_ofHex hnotified
        split
        · exact p.nextBatch s work hsize _
        · exact p.nextSingle s work hsize _

/-- Fetched records are stored as long as they connect, before the call goes on. -/
theorem connectFetched (start : Nat) {records : List (Except HeaderError BlockHeader)}
    (hrecords : ∀ x, .ok x ∈ records → x.raw.length = s.store.headerSize)
    {next : Synchronizer → Progress TipUpdate TipOutcome × Synchronizer}
    (hnext : ∀ t : Synchronizer, t.store.headerSize = s.store.headerSize →
      Advances change TipUpdate.Ready t.store (next t)) :
    Advances change TipUpdate.Ready s.store (s.connectFetched work start records next) := by
  have hconnect : grow s.store _ _ := p.connectAll start s.store hrecords
  rw [Synchronizer.connectFetched]
  split
  · next e t he =>
    rw [he] at hconnect
    exact done _ (p.of_grow hconnect)
  · next t he =>
    rw [he] at hconnect
    exact p.follow hconnect (hnext { s with store := t } (p.precedes hconnect).headerSize_eq)
  · next height t he =>
    rw [he] at hconnect
    exact p.follow hconnect (p.settle { s with store := t } work (.broken height))

end

/-- **So is a step of the handling of a tip.** -/
theorem resumeTip (call : TipUpdate) (hready : call.Ready s.store) (answer : call.query.Answer) :
    Advances change TipUpdate.Ready s.store (s.resumeTip call answer) := by
  cases call with
  | batch work notified start count =>
    cases answer with
    | error e => exact p.stay _ fun _ e => by cases e
    | ok batch =>
      simp only [Synchronizer.resumeTip]
      split
      · exact p.stay _ fun _ e => by cases e
      · split
        · next e he => exact p.stay _ fun _ => raw_ne_verifyFailed he _
        · refine p.connectFetched s work start (fun x hx => ?_) fun t ht =>
            p.nextBatch t work (hready.trans ht.symm) _
          exact length_raw_of_mem_split hx
  | single work notified height =>
    cases answer with
    | error e => exact p.stay _ fun _ e => by cases e
    | ok text =>
      simp only [Synchronizer.resumeTip]
      refine p.connectFetched s work height (fun x hx => ?_) fun t ht =>
        p.nextSingle t work (hready.trans ht.symm) _
      exact length_raw_of_ofHex (List.mem_singleton.1 hx).symm

end Pieces

/-- **The pieces of a call keep a sound store sound.** -/
theorem pieces_keeps (origin : List UInt8) : Pieces (Keeps origin) (Keeps origin) where
  refl s _ he := .refl s he
  trans h k := h.trans k
  precedes h := h.precedes
  of_grow h := h
  after h k := h.trans k
  load s := keeps_loadAndVerify s
  synced s synced := keeps_of_flags s synced s.pinned
  refusal s refusal? := keeps_of_refusal s refusal?
  storeLinked s _ _ hstart hraw := keeps_storeLinked s hstart hraw
  connect s _ hx := keeps_connect s hx
  rewind s := keeps_rewind s
  clear s := keeps_of_flags s s.synced none

end HeaderFollower
