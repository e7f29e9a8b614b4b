/-
# What a call for a tip leaves behind

A call for a tip connects headers one after the other, and can end after each of them. While it
waits the store is good, and holds the headers that it held before and those that the call has
connected (`Synchronizer.Amid`). `Synchronizer.Goes` is what one step makes of that, and
`Synchronizer.Left` says what is there when the call has ended: all that it has connected, if it
fails; and if it does not, one of the three things that `TipOutcome.Fits` lists.

A tip at the greatest height of all, `heightLimit`, is stored like any other, but the local tip
cannot tell it from no tip.
-/

import HeaderFollower.Proofs.Sync.GoingBack
import HeaderFollower.Proofs.Sync.UnderWay

namespace HeaderFollower

open BlockHeader Store

/-! ## Records that are all connected -/

/-- A batch has the bytes of as many headers as it says. -/
theorem HeaderBatch.length_of_raw {batch : HeaderBatch} {size start requested : Nat}
    {raw : List UInt8} (h : batch.raw size start requested = .ok raw) :
    raw.length = batch.count * size := by
  rw [HeaderBatch.raw] at h
  split at h
  · cases h
  next hbytes =>
  split at h
  · cases h
  next bytes hdecode =>
  obtain rfl := Except.ok.inj h
  have htwice := Hex.utf8ByteSize_of_decode hdecode
  rw [not_not.1 hbytes] at htwice
  omega

/-- The bytes of a batch, where what it should hold is multiplied out in 64-bit words. -/
def HeaderBatch.rawInWords (batch : HeaderBatch) (headerSize start requested : Nat) :
    Except SyncError (List UInt8) :=
  if batch.hex.utf8ByteSize ≠ (UInt64.ofNat batch.count * UInt64.ofNat headerSize * 2).toNat then
    .error (batch.mismatch start requested)
  else
    match Hex.decode batch.hex with
    | .error fault => .error (.malformedHeaders start fault.message)
    | .ok raw => .ok raw

/-- Words do as well as numbers, as long as the batch could be held in less than 2^64 characters.
A batch is looked at only if its count is the one asked for, so a chunk size within this bound
is enough. -/
theorem HeaderBatch.rawInWords_eq {batch : HeaderBatch} {size limit : Nat} (start requested : Nat)
    (hcount : batch.count ≤ limit) (hlimit : limit * size * 2 < 18446744073709551616) :
    batch.rawInWords size start requested = batch.raw size start requested := by
  have hsmall : batch.count * size * 2 < 18446744073709551616 :=
    Nat.lt_of_le_of_lt (Nat.mul_le_mul_right 2 (Nat.mul_le_mul_right size hcount)) hlimit
  have hwords : (UInt64.ofNat batch.count * UInt64.ofNat size * 2).toNat =
      batch.count * size * 2 := by
    rw [show (2 : UInt64) = UInt64.ofNat 2 from rfl, ← UInt64.ofNat_mul, ← UInt64.ofNat_mul]
    exact UInt64.toNat_ofNat_of_lt' hsmall
  rw [rawInWords, hwords]
  rfl

/-- Beyond the bound nothing at all can pass for 2^60 headers. -/
example : (HeaderBatch.mk 1152921504606846976 "" none).rawInWords 80 0 0 = .ok [] := by decide +kernel

namespace Store

variable {s t : Store} {hs : List BlockHeader} {records : List (Except HeaderError BlockHeader)}

/-- If some records are connected, all of them are headers, and are connected one after the
other. -/
theorem connected_of_connectAll {start : Nat} (h : s.connectAll start records = (.ok .advanced, t))
    (hrecords : ∀ x, .ok x ∈ records → x.raw.length = s.headerSize) :
    ∃ new, s.Connected new t ∧ new.length = records.length := by
  induction records generalizing s with
  | nil =>
    obtain rfl := (Prod.mk.inj h).2
    exact ⟨[], .nil s, rfl⟩
  | cons record rest ih =>
    cases record with
    | error e => cases h
    | ok x =>
      rw [connectAll] at h
      rcases hone : s.connect x with ⟨r, u⟩
      rw [hone] at h
      have hx := hrecords x List.mem_cons_self
      cases r with
      | error e => cases h
      | ok connection =>
        cases connection with
        | broken height => cases h
        | advanced =>
          have hsize : u.headerSize = s.headerSize := (of_connect_advanced hone).2.2.1.headerSize_eq
          obtain ⟨new, hnew, hlen⟩ := ih h fun y hy => by
            rw [hsize]
            exact hrecords y (List.mem_cons_of_mem _ hy)
          exact ⟨x :: new, .cons hx hone hnew, congrArg (· + 1) hlen⟩

/-- Index and file hold linked headers, whatever the local tip is. -/
structure Stores (s : Store) (hs : List BlockHeader) : Prop where
  lists : s.index.Lists s.startPoint hs
  chained : Chained s.headerSize hs
  content_eq : s.file.content = some (concat hs)

/-- A header that is connected comes on top of those that are held. -/
theorem Holds.stores_of_connect {x : BlockHeader} (h : s.Holds hs)
    (hsized : x.raw.length = s.headerSize) (hconnect : s.connect x = (.ok .advanced, t)) :
    t.Stores (hs ++ [x]) ∧ t.localTip = tipAt (s.startPoint + hs.length) ∧
      t.written = s.written ++ [x.raw] ∧ t.startPoint = s.startPoint ∧
      t.headerSize = s.headerSize := by
  obtain ⟨hlinks, hextend, -⟩ := of_connect_advanced hconnect
  have hnew : Chained s.headerSize (hs ++ [x]) :=
    ⟨sized_append.2 ⟨h.chained.sized, List.forall_mem_singleton.2 hsized⟩,
      linked_snoc_iff.2 ⟨h.chained.linked, h.connects_iff.1 hlinks⟩⟩
  rcases h.extend_cases hsized with ⟨text, -, hrefused⟩ | hdone
  · rw [hrefused] at hextend
    cases hextend
  · rw [hdone] at hextend
    obtain rfl := Except.ok.inj hextend
    have hnext : (s.afterChange (concat hs) (.append (concat [x]))).nextHeight =
        s.startPoint + hs.length := h.nextHeight_eq
    refine ⟨⟨?_, hnew, ?_⟩, ?_, ?_, rfl, rfl⟩
    · rw [storeOne, hnext]
      exact h.lists.insert x
    · exact congrArg some (concat_append _ _).symm
    · rw [storeOne, hnext]
    · refine (written_afterChange s _ _).trans ?_
      rw [concat_cons, concat_nil, List.append_nil]
      rfl

end Store

/-! ## The ends of a call -/

/-- The tip is turned away before any header is asked for. -/
def SyncError.turnsAway : SyncError → Bool
  | .misbehaving _ _ | .staleSubscribe _ _ | .badNotification _ => true
  | _ => false

theorem turnsAway_of_connectAll {s t : Store} {start : Nat} {e : SyncError}
    {records : List (Except HeaderError BlockHeader)}
    (h : s.connectAll start records = (.error e, t)) : e.turnsAway = false := by
  induction records generalizing s with
  | nil => cases h
  | cons record rest ih =>
    cases record with
    | error fault =>
      cases h
      rfl
    | ok x =>
      rw [connectAll] at h
      split at h
      · cases h
        rfl
      · cases h
      · exact ih h

theorem turnsAway_of_raw {batch : HeaderBatch} {size start requested : Nat} {e : SyncError}
    (h : batch.raw size start requested = .error e) : e.turnsAway = false := by
  rw [HeaderBatch.raw] at h
  split at h
  · cases h
    rfl
  · split at h
    · cases h
      rfl
    · cases h

/-- What the outcome says of a call for the tip `work`, which has begun in the state `s` over the
headers `hs`, has connected the headers `new`, and has ended in the state `t`. -/
def TipOutcome.Fits (s : Synchronizer) (hs new : List BlockHeader) (work : TipWork)
    (t : Synchronizer) : TipOutcome → Prop
  | .stale =>
    s.store.startPoint ≤ work.height ∧ work.height < s.store.nextHeight ∧ new = [] ∧ t = s
  | .advanced =>
    s.store.nextHeight ≤ work.height ∧ s.store.startPoint + (hs ++ new).length = work.height + 1 ∧
      (∃ notified, ofHex s.store.headerSize work.hex = .ok notified ∧
        (hs ++ new).getLast? = some notified) ∧
      t.store.Stores (hs ++ new) ∧ t.store.localTip = tipAt work.height ∧
      t.store.pinned = none ∧ t.phase = .tipFollow
  | .rewound again =>
    s.store.nextHeight ≤ work.height ∧ hs ++ new ≠ [] ∧
      t.store.Holds ((hs ++ new).take
        ((hs ++ new).length - min s.settings.rewind (hs ++ new).length)) ∧
      t.store.pinned =
        pinAt s.store.pinned (s.store.startPoint + ((hs ++ new).length - 1)) ∧
      t.phase = .reorgRecovering ∧ again = { work with origin := .retry } ∧
      ∀ f : Follow, (f.advance (.done (.ok (.rewound again)))).queue.items =
        if 0 < f.room then f.queue.items ++ [again] else f.queue.items

/-- The call for the tip `work` asks for the headers right above those that are stored, and for none
above the tip. -/
def TipUpdate.Continues (work : TipWork) (s : Store) : TipUpdate → Prop
  | .batch work' notified start count => work' = work ∧ ofHex s.headerSize work.hex = .ok notified ∧
    start = s.nextHeight ∧ 0 < count ∧ start + count ≤ work.height
  | .single work' notified height => work' = work ∧ ofHex s.headerSize work.hex = .ok notified ∧
    height = s.nextHeight ∧ height < work.height

theorem TipUpdate.Continues.lt {work : TipWork} {s : Store} {call : TipUpdate}
    (h : call.Continues work s) : s.nextHeight < work.height := by
  cases call with
  | batch work' notified start count =>
    obtain ⟨-, -, rfl, hpos, hend⟩ := h
    omega
  | single work' notified height =>
    obtain ⟨-, -, rfl, hlt⟩ := h
    exact hlt

/-- Only one outcome fits what a call has left behind. -/
theorem TipOutcome.Fits.unique {s t : Synchronizer} {hs new : List BlockHeader} {work : TipWork}
    {o other : TipOutcome} (h : o.Fits s hs new work t) (k : other.Fits s hs new work t) :
    o = other := by
  have hpin (pinned : Option Nat) (tip : Nat) : pinAt pinned tip ≠ none := Option.some_ne_none _
  cases o with
  | stale =>
    cases other with
    | stale => rfl
    | advanced => exact absurd k.1 (Nat.not_le.2 h.2.1)
    | rewound again => exact absurd k.1 (Nat.not_le.2 h.2.1)
  | advanced =>
    obtain ⟨hnext, -, -, -, -, hnone, -⟩ := h
    cases other with
    | stale => exact absurd hnext (Nat.not_le.2 k.2.1)
    | advanced => rfl
    | rewound again =>
      obtain ⟨-, -, -, hpinned, -⟩ := k
      exact absurd (hpinned.symm.trans hnone) (hpin _ _)
  | rewound again =>
    obtain ⟨hnext, -, -, hpinned, -, rfl, -⟩ := h
    cases other with
    | stale => exact absurd hnext (Nat.not_le.2 k.2.1)
    | advanced =>
      obtain ⟨-, -, -, -, -, hnone, -⟩ := k
      exact absurd (hpinned.symm.trans hnone) (hpin _ _)
    | rewound other =>
      obtain ⟨-, -, -, -, -, rfl, -⟩ := k
      rfl

/-- A tip that is offered is put into the queue exactly if there is room. -/
theorem Follow.items_offer_eq (f : Follow) (work : TipWork) :
    (f.offer work).queue.items = if 0 < f.room then f.queue.items ++ [work] else f.queue.items := by
  by_cases hroom : 0 < f.room
  · rw [if_pos hroom, (items_offer_of_room hroom work).1]
  · rw [if_neg hroom, offer_of_no_room hroom]

namespace Synchronizer

variable {s t u : Synchronizer} {hs new more : List BlockHeader} {work : TipWork} {low : Nat}
  {notified : BlockHeader}

/-- What a call for the tip `work` that has ended with `r` has left behind. -/
structure Left (s : Synchronizer) (hs new : List BlockHeader) (work : TipWork)
    (r : Except SyncError TipOutcome) (t : Synchronizer) : Prop where
  chained : Chained s.store.headerSize (hs ++ new)
  written_eq : t.store.written = s.store.written ++ new.map raw
  startPoint_eq : t.store.startPoint = s.store.startPoint
  headerSize_eq : t.store.headerSize = s.store.headerSize
  failed : ∀ e, r = .error e → t.store.Holds (hs ++ new) ∧ t.store.pinned = s.store.pinned ∧
    (e.turnsAway = true → new = [])
  ended : ∀ o, r = .ok o → o.Fits s hs new work t

/-- In a call that has begun in the state `s` over the headers `hs` the headers `new` have been
connected. -/
structure Amid (s : Synchronizer) (hs new : List BlockHeader) (u : Synchronizer) : Prop where
  holds : u.store.Holds (hs ++ new)
  written_eq : u.store.written = s.store.written ++ new.map raw
  startPoint_eq : u.store.startPoint = s.store.startPoint
  headerSize_eq : u.store.headerSize = s.store.headerSize
  synced_eq : u.store.synced = s.store.synced
  pinned_eq : u.store.pinned = s.store.pinned
  settings_eq : u.settings = s.settings

namespace Amid

theorem refl (h : s.store.Holds hs) : s.Amid hs [] s where
  holds := by rwa [List.append_nil]
  written_eq := by rw [List.map_nil, List.append_nil]
  startPoint_eq := rfl
  headerSize_eq := rfl
  synced_eq := rfl
  pinned_eq := rfl
  settings_eq := rfl

theorem nextHeight_eq (h : s.Amid hs new u) :
    u.store.nextHeight = s.store.startPoint + (hs ++ new).length := by
  rw [h.holds.nextHeight_eq, h.startPoint_eq]

theorem chained (h : s.Amid hs new u) : Chained s.store.headerSize (hs ++ new) :=
  h.headerSize_eq ▸ h.holds.chained

/-- Some more headers are connected. -/
theorem of_connected (h : s.Amid hs new u) {store : Store} (hmore : u.store.Connected more store)
    (hfit : u.store.nextHeight + more.length ≤ heightLimit) :
    s.Amid hs (new ++ more) { u with store } := by
  obtain ⟨hheld, hwritten⟩ := hmore.holds h.holds (by
    rwa [List.length_append, ← Nat.add_assoc, ← h.holds.nextHeight_eq])
  exact {
    holds := by
      rw [← List.append_assoc]
      exact hheld
    written_eq := by
      rw [hwritten, h.written_eq, List.map_append, List.append_assoc]
    startPoint_eq := hmore.precedes.startPoint_eq.trans h.startPoint_eq
    headerSize_eq := hmore.precedes.headerSize_eq.trans h.headerSize_eq
    synced_eq := hmore.flags.1.trans h.synced_eq
    pinned_eq := hmore.flags.2.trans h.pinned_eq
    settings_eq := h.settings_eq }

/-- A call that fails leaves what it has connected. -/
theorem left_of_error (h : s.Amid hs new u) {e : SyncError} (he : e.turnsAway = true → new = [])
    (hstore : t.store = u.store) : s.Left hs new work (.error e) t where
  chained := h.chained
  written_eq := by rw [hstore, h.written_eq]
  startPoint_eq := by rw [hstore, h.startPoint_eq]
  headerSize_eq := by rw [hstore, h.headerSize_eq]
  failed := by
    rintro e' ⟨⟩
    rw [hstore]
    exact ⟨h.holds, h.pinned_eq, he⟩
  ended := fun o h => by cases h

end Amid

/-! ## One step -/

/-- What a step of a call for the tip `work` comes to: the call goes on from a height no lower than
`low`, or has ended. -/
inductive Goes (s : Synchronizer) (hs : List BlockHeader) (work : TipWork) (low : Nat) :
    Progress TipUpdate TipOutcome × Synchronizer → Prop where
  | on {new : List BlockHeader} {call : TipUpdate} {u : Synchronizer} (amid : s.Amid hs new u)
      (continues : call.Continues work u.store) (low_le : low ≤ u.store.nextHeight) :
      Goes s hs work low (.waiting call, u)
  | ended {new : List BlockHeader} {r : Except SyncError TipOutcome} {t : Synchronizer}
      (left : s.Left hs new work r t) : Goes s hs work low (.done r, t)

theorem Goes.of_le {p : Progress TipUpdate TipOutcome × Synchronizer} {low' : Nat}
    (h : s.Goes hs work low p) (hle : low' ≤ low) : s.Goes hs work low' p := by
  cases h with
  | on amid continues low_le => exact .on amid continues (hle.trans low_le)
  | ended left => exact .ended left

theorem Amid.failed (h : s.Amid hs new u) {e : SyncError} (he : e.turnsAway = false) :
    s.Goes hs work low (u.failed e) :=
  .ended (h.left_of_error (fun h => by rw [he] at h; cases h) rfl)

section
variable (hle : s.store.nextHeight ≤ work.height) (hsync : s.store.synced = true)
  (hR : 0 < s.settings.rewind)
include hle hsync hR

/-- A header does not connect. -/
theorem Amid.settle_broken (h : s.Amid hs new u) (height : Nat) :
    s.Goes hs work low (u.settle work (.broken height)) := by
  rw [settle]
  rcases rewind_cases h.holds (h.synced_eq.trans hsync) (h.settings_eq ▸ hR) with
    ⟨-, he⟩ | ⟨-, text, -, he⟩ | ⟨-, -, tip, store, htip, he, htaken⟩
  · rw [he]
    exact .ended (h.left_of_error (fun h => by cases h) rfl)
  · rw [he]
    exact .ended (h.left_of_error (fun h => by cases h) rfl)
  · rw [he]
    have hlen := length_of_localTip h.holds htip
    have hne : hs ++ new ≠ [] := List.ne_nil_of_length_pos (by omega)
    have htop : tip = s.store.startPoint + ((hs ++ new).length - 1) := by
      rw [h.holds.localTip_eq, topHeight_of_ne_nil hne, h.startPoint_eq] at htip
      exact (Option.some.inj htip).symm
    obtain ⟨⟨kept, gone, hall, hgone, hshort⟩, hpinned, -, hwritten⟩ := htaken
    rw [hlen, h.settings_eq] at hgone
    have hkept : kept = (hs ++ new).take
        ((hs ++ new).length - min s.settings.rewind (hs ++ new).length) := by
      rw [← hgone, hall, List.length_append, Nat.add_sub_cancel, List.take_left]
    refine .ended {
      chained := h.chained
      written_eq := hwritten.trans h.written_eq
      startPoint_eq := hshort.startPoint_eq.trans h.startPoint_eq
      headerSize_eq := hshort.headerSize_eq.trans h.headerSize_eq
      failed := fun e h => by cases h
      ended := ?_ }
    rintro o ⟨⟩
    exact ⟨hle, hne, hkept ▸ hshort.holds, by rw [hpinned, h.pinned_eq, htop], rfl, rfl,
      fun f => Follow.items_offer_eq _ _⟩

/-- The header of the tip itself is connected, if all below it are stored. -/
theorem Amid.connectNotified (h : s.Amid hs new u) (hnext : u.store.nextHeight = work.height)
    (hheader : ofHex u.store.headerSize work.hex = .ok notified) :
    s.Goes hs work low (u.connectNotified work notified) := by
  have hsized := length_raw_of_ofHex hheader
  rw [Synchronizer.connectNotified]
  rcases hone : u.store.connect notified with ⟨r, store⟩
  by_cases hadvanced : r = .ok .advanced
  · subst hadvanced
    obtain ⟨hstores, hlocal, hwritten, hstart, hsize⟩ := h.holds.stores_of_connect hsized hone
    have hwork : u.store.startPoint + (hs ++ new).length = work.height :=
      h.holds.nextHeight_eq.symm.trans hnext
    rw [List.append_assoc] at hstores
    refine .ended (?_ : s.Left hs (new ++ [notified]) work _ _)
    refine {
      chained := (hsize.trans h.headerSize_eq) ▸ hstores.chained
      written_eq := ?_
      startPoint_eq := hstart.trans h.startPoint_eq
      headerSize_eq := hsize.trans h.headerSize_eq
      failed := fun e h => by cases h
      ended := ?_ }
    · rw [List.map_append, ← List.append_assoc, ← h.written_eq]
      exact hwritten
    · rintro o ⟨⟩
      refine ⟨hle, ?_, ⟨notified, ?_, ?_⟩, ⟨hstores.lists, hstores.chained, hstores.content_eq⟩, ?_,
        rfl, rfl⟩
      · rw [← List.append_assoc, List.length_append, ← Nat.add_assoc, ← h.startPoint_eq, hwork]
        rfl
      · rw [← h.headerSize_eq]
        exact hheader
      · rw [← List.append_assoc, List.getLast?_concat]
      · rw [← hwork]
        exact hlocal
  · obtain rfl := connect_eq_of_not_advanced hone hadvanced
    cases r with
    | error e => exact h.failed rfl
    | ok connection =>
      cases connection with
      | advanced => exact absurd rfl hadvanced
      | broken height => exact h.settle_broken hle hsync hR height

/-- The call asks for the next batch, or has come to the tip. -/
theorem Amid.nextBatch (h : s.Amid hs new u) (hnext : u.store.nextHeight ≤ work.height)
    (hheader : ofHex u.store.headerSize work.hex = .ok notified) :
    s.Goes hs work u.store.nextHeight (u.nextBatch work notified u.store.nextHeight) := by
  rw [Synchronizer.nextBatch]
  split
  · exact .on h ⟨rfl, hheader, rfl, by omega, by omega⟩ (Nat.le_refl _)
  · exact h.connectNotified hle hsync hR (by omega) hheader

/-- The call asks for the next header, or has come to the tip. -/
theorem Amid.nextSingle (h : s.Amid hs new u) (hnext : u.store.nextHeight ≤ work.height)
    (hheader : ofHex u.store.headerSize work.hex = .ok notified) :
    s.Goes hs work u.store.nextHeight (u.nextSingle work notified u.store.nextHeight) := by
  rw [Synchronizer.nextSingle]
  split
  · next hlt => exact .on h ⟨rfl, hheader, rfl, hlt⟩ (Nat.le_refl _)
  · exact h.connectNotified hle hsync hR (by omega) hheader

/-- Fetched records are connected up to the first that is no header or does not connect. If all of
them are connected, the call goes on. -/
theorem Amid.connectFetched (h : s.Amid hs new u) (start : Nat)
    {records : List (Except HeaderError BlockHeader)}
    (hrecords : ∀ x, .ok x ∈ records → x.raw.length = u.store.headerSize)
    (hfit : u.store.nextHeight + records.length ≤ heightLimit)
    {next : Synchronizer → Progress TipUpdate TipOutcome × Synchronizer}
    (hnext : ∀ more v, s.Amid hs (new ++ more) v → v.store.headerSize = u.store.headerSize →
      v.store.nextHeight = u.store.nextHeight + records.length → s.Goes hs work low (next v)) :
    s.Goes hs work low (u.connectFetched work start records next) := by
  obtain ⟨more, hmore, hlen⟩ := connected_connectAll start u.store hrecords
  rw [Synchronizer.connectFetched]
  split
  · next e store he =>
    rw [he] at hmore
    have hamid := h.of_connected hmore (by omega)
    exact hamid.failed (turnsAway_of_connectAll he)
  · next store he =>
    obtain ⟨more, hmore, hall⟩ := connected_of_connectAll he hrecords
    have hamid := h.of_connected hmore (by omega)
    refine hnext more _ hamid hmore.precedes.headerSize_eq ?_
    rw [hamid.nextHeight_eq, h.nextHeight_eq, ← List.append_assoc, List.length_append, hall,
      Nat.add_assoc]
  · next height store he =>
    rw [he] at hmore
    have hamid := h.of_connected hmore (by omega)
    exact hamid.settle_broken hle hsync hR height

/-- **A step connects some headers, and then goes on above them or ends.** -/
theorem Amid.resumeTip (h : s.Amid hs new u) (hheight : work.height ≤ heightLimit)
    {call : TipUpdate} (hcall : call.Continues work u.store) (answer : call.query.Answer) :
    s.Goes hs work (u.store.nextHeight + 1) (u.resumeTip call answer) := by
  cases call with
  | batch work' notified start count =>
    obtain ⟨rfl, hheader, rfl, hpos, hend⟩ := hcall
    cases answer with
    | error e => exact h.failed rfl
    | ok batch =>
      simp only [Synchronizer.resumeTip]
      split
      · exact h.failed rfl
      next hcount =>
      split
      · next e he => exact h.failed (turnsAway_of_raw he)
      next raw hraw =>
      have hsize : 0 < u.store.headerSize := by
        rw [← length_raw_of_ofHex hheader]
        exact Nat.lt_of_lt_of_le (by decide) notified.base_le
      have hlen : (split u.store.headerSize raw).length = count := by
        rw [split, List.length_map]
        refine length_pieces hsize ?_
        rw [HeaderBatch.length_of_raw hraw, not_not.1 hcount]
      refine h.connectFetched hle hsync hR _ (fun x hx => length_raw_of_mem_split hx) (by omega)
        fun more v hv hsame hnext => ?_
      rw [hlen] at hnext
      rw [← hnext]
      refine (hv.nextBatch hle hsync hR (by omega) ?_).of_le (by omega)
      rw [hsame]
      exact hheader
  | single work' notified height =>
    obtain ⟨rfl, hheader, rfl, hlt⟩ := hcall
    cases answer with
    | error e => exact h.failed rfl
    | ok text =>
      simp only [Synchronizer.resumeTip]
      refine h.connectFetched hle hsync hR _
        (fun x hx => length_raw_of_ofHex (List.mem_singleton.1 hx).symm)
        (by rw [List.length_singleton]; omega) fun more v hv hsame hnext => ?_
      rw [List.length_singleton] at hnext
      rw [← hnext]
      refine (hv.nextSingle hle hsync hR (by omega) ?_).of_le (by omega)
      rw [hsame]
      exact hheader

end

/-- **So does the beginning of a call**, unless the tip is turned away or is stored already. -/
theorem goes_beginTip (hold : s.store.Holds hs) (hsync : s.store.synced = true)
    (hR : 0 < s.settings.rewind) (work : TipWork) :
    s.Goes hs work s.store.nextHeight (s.beginTip work) := by
  have hamid := Amid.refl hold
  have hfails (e : SyncError) : s.Goes hs work s.store.nextHeight (s.failed e) :=
    .ended (hamid.left_of_error (fun _ => rfl) rfl)
  rw [beginTip]
  split
  · exact hfails _
  next hstart =>
  split
  · next hstale =>
    have hnothing : s.Left hs [] work (.ok .stale) s := {
      chained := hamid.chained
      written_eq := hamid.written_eq
      startPoint_eq := rfl
      headerSize_eq := rfl
      failed := fun e h => by cases h
      ended := by
        rintro o ⟨⟩
        exact ⟨Nat.not_lt.1 hstart, hstale, rfl, rfl⟩ }
    rw [onStale]
    split
    · exact .ended hnothing
    · split
      · exact .ended hnothing
      · exact hfails _
  next hnext =>
  rw [Nat.not_lt] at hnext
  split
  · exact hfails _
  · next notified hheader =>
    split
    · exact hamid.nextBatch hnext hsync hR hnext hheader
    · exact hamid.nextSingle hnext hsync hR hnext hheader

/-! ## A whole call -/

variable {ω : Type}

/-- However the source answers, a call that goes on comes to an end. The induction is on the headers
that are missing below the tip; each answer brings some of them, or ends the call. -/
theorem Goes.ends (source : Machine.Source ω) (hsync : s.store.synced = true)
    (hR : 0 < s.settings.rewind) (hheight : work.height ≤ heightLimit)
    (hlow : s.store.nextHeight ≤ low) {p : Progress TipUpdate TipOutcome × Synchronizer}
    (h : s.Goes hs work low p) :
    TipUpdate.machine.Ends source p fun r t => ∃ new, s.Left hs new work r t := by
  induction hd : work.height - low using Nat.strongRecOn generalizing low p with
  | ind d ih =>
    cases h with
    | ended left => exact Machine.ends_done ⟨_, left⟩
    | @on new call u amid continues low_le =>
      have hbelow := continues.lt
      refine Machine.ends_waiting fun w => ?_
      have hstep := amid.resumeTip (by omega) hsync hR hheight continues
        (source w (TipUpdate.machine.query call)).1
      exact ih (work.height - (u.store.nextHeight + 1)) (by omega) (by omega) hstep rfl

/-- **What a call for a tip leaves behind**, whatever the source answers. The call comes to an end.
The headers `new` that it has connected continue the stored ones, and have been written to the file
in their order. If it has failed, all of them are there, and there are none if the tip has been
turned away. If it has not, its outcome is the only one that fits what is there: the height was
stored already, and nothing has happened; or the tip itself is stored, as the last header; or the
topmost headers have been taken away, and the tip is to be tried again.

What a batch should hold is a product of numbers here. The same holds of 64-bit words while twice the
chunk size, and at least two, times the header size stays below 2^64: see
`HeaderBatch.rawInWords_eq`. -/
theorem ends_left (source : Machine.Source ω) (hold : s.store.Holds hs)
    (hsync : s.store.synced = true) (hR : 0 < s.settings.rewind)
    (hheight : work.height ≤ heightLimit) :
    TipUpdate.machine.Ends source (s.beginTip work) fun r t =>
      ∃ new, s.Left hs new work r t ∧
        ∀ o, r = .ok o → ∀ other : TipOutcome, other.Fits s hs new work t → other = o := by
  refine ((goes_beginTip hold hsync hR work).ends source hsync hR hheight (Nat.le_refl _)).imp ?_
  rintro r t ⟨new, hleft⟩
  exact ⟨new, hleft, fun o ho other hother => hother.unique (hleft.ended o ho)⟩

/-- A synchronizer that holds the lowest header of a tower, fetches one header at once, and goes back
by one header. -/
def cautious : Synchronizer :=
  { listened with settings := { chunkSize := 1, batchThreshold := 1, rewind := 1 } }

theorem has_cautious : cautious.store.Has 0 80 (tower 1) none := has_listened

/-- A tip that does not link to the three headers below it. -/
def strayTip : TipWork := ⟨3, (strayAbove (towerHeader 2)).toHex, .notification⟩

theorem isTipOf_strayTip : strayTip.IsTipOf 0 80 (tower 3 ++ [strayAbove (towerHeader 2)]) := by
  refine ⟨by rw [List.length_append, length_tower]; rfl, fun last hlast => ?_⟩
  rw [List.getLast?_concat] at hlast
  obtain rfl := Option.some.inj hlast
  have hread := ofHex_toHex (strayAbove (towerHeader 2))
  rwa [length_strayAbove] at hread

/-- What the tower brings the store to below the stray tip. -/
theorem reaches_strayTip : Reaches 80 (tower 3 ++ [strayAbove (towerHeader 2)]) 1 (tower 3) where
  chained := chained_tower 3
  le := by
    rw [length_tower]
    decide
  served := (List.prefix_append _ _).drop 1
  stops := by
    intro above habove
    rw [List.getElem?_concat_length] at habove
    obtain rfl := Option.some.inj habove
    rw [tower_succ, continues_concat]
    exact not_linksTo_strayAbove _

/-- Two missing headers are fetched and stored, the tip does not link to them, and the call goes
back by one header. -/
theorem ends_strayTip : TipUpdate.machine.Ends (honest 0 (tower 4) none)
    (cautious.beginTip strayTip) fun r t =>
      r = .ok (.rewound { strayTip with origin := .retry }) ∧
        t.store.Has 0 80 (tower 2) (some 2) ∧ t.store.synced = true ∧ t.settings.rewind = 1 := by
  have hheld : cautious.store.Has 0 80 ((tower 3).take 1) none := has_cautious
  refine ends_beginTip (serves_honest 0 (tower 4) none)
    (servesSingly_honest 0 (chained_tower 4).sized none) (chained_tower 4).sized ?_
    reaches_strayTip (by decide) isTipOf_strayTip (by decide) hheld rfl rfl (by decide) ?_ ?_ ?_
  · rw [List.dropLast_concat]
    exact prefix_tower (by decide)
  · intro hle
    exact absurd hle (by decide)
  · intro _ hpinned
    cases hpinned
  · intro _ _ t ht hsync hset
    exact ⟨rfl, ht, hsync, by rw [hset]; rfl⟩

/-- From there, the header that is missing below another tip is fetched, and the tip is stored. -/
theorem ends_fourthTip (h : t.store.Has 0 80 (tower 2) (some 2)) (hsync : t.store.synced = true)
    (hrewind : t.settings.rewind = 1) :
    TipUpdate.machine.Ends (honest 0 (tower 4) none) (t.beginTip fourthTip) fun r u =>
      r = .ok .advanced ∧ u.store.Has 0 80 (tower 4) none := by
  have hheld : t.store.Has 0 80 ((tower 4).take 2) (some 2) := h
  refine ends_beginTip (serves_honest 0 (tower 4) none)
    (servesSingly_honest 0 (chained_tower 4).sized none) (chained_tower 4).sized
    (List.dropLast_prefix _) ((chained_tower 4).reaches (by decide)) (by decide)
    isTipOf_fourthTip (by decide) hheld hsync hrewind (by decide) ?_ ?_ ?_
  · intro _ u hu _
    exact ⟨rfl, hu⟩
  · intro hlt
    exact absurd hlt (Nat.lt_irrefl _)
  · intro hlt
    exact absurd hlt (Nat.lt_irrefl _)

/-- A call that goes back from a tip that does not link, and the next one, which stores its tip. -/
theorem ends_left_strayTip :
    cautious.store.Holds (tower 1) ∧ cautious.store.synced = true ∧
    0 < cautious.settings.rewind ∧ strayTip.height ≤ heightLimit ∧
    ∃ fuel t new, TipUpdate.machine.run (honest 0 (tower 4) none) fuel
        (cautious.beginTip strayTip) () =
        (some (.ok (.rewound { strayTip with origin := .retry })), t, ()) ∧
      cautious.Left (tower 1) new strayTip (.ok (.rewound { strayTip with origin := .retry })) t ∧
      t.store.Holds (tower 2) ∧ t.store.pinned = some 2 ∧ t.phase = .reorgRecovering ∧
      ∃ fuel' u more, TipUpdate.machine.run (honest 0 (tower 4) none) fuel'
          (t.beginTip fourthTip) () = (some (.ok .advanced), u, ()) ∧
        t.Left (tower 2) more fourthTip (.ok .advanced) u ∧
        u.store.Holds (tower 4) ∧ u.store.pinned = none ∧ u.phase = .tipFollow := by
  have hheight : strayTip.height ≤ heightLimit := by decide
  have hheight' : fourthTip.height ≤ heightLimit := by decide
  refine ⟨has_cautious.toHolds, rfl, by decide, hheight, ?_⟩
  obtain ⟨fuel, r, t, ⟨⟩, hrun, rfl, hback, hsync, hrewind⟩ := ends_strayTip ()
  obtain ⟨new, hleft, -⟩ := (ends_left (honest 0 (tower 4) none) has_cautious.toHolds rfl
    (by decide) hheight).of_run hrun
  obtain ⟨-, -, -, -, hphase, -⟩ := hleft.ended _ rfl
  refine ⟨fuel, t, new, hrun, hleft, hback.toHolds, hback.pinned_eq, hphase, ?_⟩
  obtain ⟨fuel', r, u, ⟨⟩, hrun', rfl, hhigh⟩ := ends_fourthTip hback hsync hrewind ()
  obtain ⟨more, hleft', -⟩ := (ends_left (honest 0 (tower 4) none) hback.toHolds hsync
    (Nat.lt_of_lt_of_eq Nat.one_pos hrewind.symm) hheight').of_run hrun'
  obtain ⟨-, -, -, -, -, -, hphase'⟩ := hleft'.ended _ rfl
  exact ⟨fuel', u, more, hrun', hleft', hhigh.toHolds, hhigh.pinned_eq, hphase'⟩

end Synchronizer
end HeaderFollower
