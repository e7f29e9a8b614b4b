/-
# The tip that readers see

While headers are fetched anew, readers go on to see the tip that was there before they were taken
away: the tip is pinned. So the visible tip does not move back when headers are taken away, nor when
some are stored again. What can move it back is that the pin is taken away, which happens whenever
a notified tip has been stored, and at the end of a catch-up that had to go back, however high the
local tip is by then.

`Keeper.tipLe_iff` says of each step of a run that the visible tip moves back in it exactly if the
step takes the pin away while the local tip is below it. `Keeper.visible_tip` puts the steps of a
run together, and `Keeper.visible_tip_falls` is a run in which the tip moves back.
-/

import HeaderFollower.Proofs.Sync.Agreement
import HeaderFollower.Proofs.Sync.Run

namespace HeaderFollower

open BlockHeader FileChange Store

/-- A tip has neither vanished nor moved back. -/
def TipLe (before after : Option Nat) : Prop :=
  ∀ low, before = some low → ∃ high, after = some high ∧ low ≤ high

namespace TipLe

variable {a b c : Option Nat}

theorem refl (a : Option Nat) : TipLe a a := fun _ ht => ⟨_, ht, Nat.le_refl _⟩

theorem trans (h : TipLe a b) (k : TipLe b c) : TipLe a c := by
  intro t ht
  obtain ⟨u, hu, htu⟩ := h t ht
  obtain ⟨v, hv, huv⟩ := k u hu
  exact ⟨v, hv, Nat.le_trans htu huv⟩

theorem antisymm (h : TipLe a b) (k : TipLe b a) : a = b := by
  cases a with
  | none =>
    cases b with
    | none => rfl
    | some v =>
      obtain ⟨u, hu, -⟩ := k v rfl
      cases hu
  | some u =>
    obtain ⟨v, rfl, huv⟩ := h u rfl
    obtain ⟨w, hw, hvw⟩ := k v rfl
    obtain rfl := Option.some.inj hw
    rw [Nat.le_antisymm huv hvw]

theorem some_iff {p : Nat} : TipLe (some p) b ↔ ∃ u, b = some u ∧ p ≤ u :=
  ⟨fun h => h p rfl, fun h _ ht => Option.some.inj ht ▸ h⟩

/-- More headers from the same start point reach higher. -/
theorem topHeight {start : Nat} {hs new : List BlockHeader} (h : hs.length ≤ new.length) :
    TipLe (HeaderFollower.topHeight start hs) (HeaderFollower.topHeight start new) := by
  intro t ht
  cases hs with
  | nil => cases ht
  | cons x rest =>
    cases new with
    | nil => simp at h
    | cons y more =>
      obtain rfl := Option.some.inj ht
      exact ⟨start + more.length, rfl, Nat.add_le_add_left (Nat.le_of_succ_le_succ h) start⟩

end TipLe

variable {origin : List UInt8} {s t u : Store}

theorem Store.tip_of_pinned {p : Nat} (h : s.pinned = some p) :
    s.tip = some (max (s.localTip.getD p) p) := by
  rw [Store.tip, h]
  cases s.localTip with
  | none => simp
  | some t => rfl

/-- The pin and the local tip of a store lie no higher than the visible tip. -/
theorem Store.tipLe_tip (s : Store) : TipLe s.localTip s.tip ∧ TipLe s.pinned s.tip := by
  cases hp : s.pinned with
  | none =>
    rw [tip_of_pinned_eq_none hp]
    exact ⟨.refl _, fun _ h => by cases h⟩
  | some p =>
    rw [tip_of_pinned hp]
    refine ⟨fun t ht => ⟨_, rfl, ?_⟩, fun q hq => ⟨_, rfl, ?_⟩⟩
    · rw [ht]
      exact Nat.le_max_left _ _
    · obtain rfl := Option.some.inj hq
      exact Nat.le_max_right _ _

/-- Pinning the local tip keeps the visible one. -/
theorem Store.tipLe_beginRecovery {tip : Nat} (htip : s.localTip = some tip)
    (hpinned : t.pinned = s.pinned) : TipLe s.tip (t.beginRecovery tip).tip := by
  refine TipLe.trans ?_ (t.beginRecovery tip).tipLe_tip.2
  cases hp : s.pinned with
  | none =>
    rw [tip_of_pinned_eq_none hp, htip, TipLe.some_iff]
    exact ⟨tip, by simp [beginRecovery, hpinned, hp], Nat.le_refl _⟩
  | some p =>
    rw [tip_of_pinned hp, htip, TipLe.some_iff]
    exact ⟨max p tip, by simp [beginRecovery, hpinned, hp], Nat.le_of_eq (Nat.max_comm _ _)⟩

/-- What is no lower than the pin and the local tip is no lower than the visible tip. -/
theorem Store.tip_tipLe {b : Option Nat} (hlocal : TipLe s.localTip b) (hpin : TipLe s.pinned b) :
    TipLe s.tip b := by
  cases hp : s.pinned with
  | none =>
    rw [tip_of_pinned_eq_none hp]
    exact hlocal
  | some p =>
    rw [tip_of_pinned hp, TipLe.some_iff]
    obtain ⟨v, hv, hpv⟩ := hpin p hp
    cases hl : s.localTip with
    | none => exact ⟨v, hv, Nat.max_le.mpr ⟨hpv, hpv⟩⟩
    | some t =>
      obtain ⟨w, hw, htw⟩ := hlocal t hl
      obtain rfl : v = w := Option.some.inj (hv.symm.trans hw)
      exact ⟨v, hv, Nat.max_le.mpr ⟨htw, hpv⟩⟩

/-! ## What the pieces of a call do to the tip -/

/-- What a step does to the local tip and the pin of a store. -/
inductive Shift (s t : Store) : Prop where
  /-- Headers have been stored, or nothing has happened. -/
  | grown (localTip : TipLe s.localTip t.localTip) (pinned : t.pinned = s.pinned)
  /-- Headers have been taken away; the tip is pinned. -/
  | held (pinned : t.pinned ≠ none) (tip : TipLe s.tip t.tip)
  /-- The pin has been taken away. -/
  | settled (localTip : TipLe s.localTip t.localTip) (pinned : t.pinned = none)

/-- **The visible tip moves back exactly if the pin is taken away above the local tip.** -/
theorem Shift.tipLe_iff (h : Shift s t) :
    TipLe s.tip t.tip ↔
      ∀ p, s.pinned = some p → t.pinned = none → TipLe (some p) t.localTip := by
  have hlocal := t.tipLe_tip.1
  cases h with
  | grown localTip pinned =>
    refine ⟨fun _ p hp hnone => ?_, fun _ => tip_tipLe (localTip.trans hlocal) ?_⟩
    · rw [pinned, hp] at hnone
      cases hnone
    · rw [← pinned]
      exact t.tipLe_tip.2
  | held pinned tip => exact ⟨fun _ p _ hnone => absurd hnone pinned, fun _ => tip⟩
  | settled localTip pinned =>
    rw [tip_of_pinned_eq_none pinned]
    constructor
    · intro h p hp _
      rw [← hp]
      exact s.tipLe_tip.2.trans h
    · intro h
      refine tip_tipLe localTip fun p hp => ?_
      exact h p hp pinned p rfl

/-- A piece that adds to a sound store leaves the pin alone and does not lower the local tip. -/
structure Grows (origin : List UInt8) (s t : Store) (e : Option SyncError) : Prop where
  keeps : Keeps origin s t e
  grows : t.HeightsFit origin → s.Sound origin → t.pinned = s.pinned ∧ TipLe s.localTip t.localTip

/-- A step from a sound store does one of the three things. -/
structure Shifts (origin : List UInt8) (s t : Store) (e : Option SyncError) : Prop where
  keeps : Keeps origin s t e
  shifts : t.HeightsFit origin → s.Sound origin → Shift s t

theorem Grows.shifts {e : Option SyncError} (h : Grows origin s t e) : Shifts origin s t e :=
  ⟨h.keeps, fun hfit hs => .grown (h.grows hfit hs).2 (h.grows hfit hs).1⟩

theorem Grows.after {e₁ e₂ : Option SyncError} (h : Grows origin s t e₁)
    (k : Shifts origin t u e₂) : Shifts origin s u e₂ := by
  refine ⟨h.keeps.trans k.keeps, fun hfit hs => ?_⟩
  have hfit' := HeightsFit.of_precedes k.keeps.precedes hfit
  obtain ⟨hpin, hlocal⟩ := h.grows hfit' hs
  cases k.shifts hfit (h.keeps.sound hfit' hs).1 with
  | grown localTip pinned => exact .grown (hlocal.trans localTip) (pinned.trans hpin)
  | settled localTip pinned => exact .settled (hlocal.trans localTip) pinned
  | held pinned tip =>
    refine .held pinned ((tip_tipLe (hlocal.trans t.tipLe_tip.1) ?_).trans tip)
    rw [← hpin]
    exact t.tipLe_tip.2

theorem grows_loadAndVerify (s : Store) :
    Grows origin s s.loadAndVerify.2 (chainFault s.loadAndVerify.1) := by
  refine ⟨keeps_loadAndVerify s, fun hfit h => ?_⟩
  obtain ⟨hs, hold⟩ := h.good
  have hle := h.fits hold (.of_precedes (precedes_loadAndVerify s) hfit)
  rcases hold.loadAndVerify_cases hle with ⟨text, -, he⟩ | ⟨ix, he, -⟩
  · rw [he]
    exact ⟨rfl, .refl _⟩
  · rw [he]
    refine ⟨rfl, ?_⟩
    rw [hold.localTip_eq]
    exact .refl _

theorem grows_storeLinked (s : Synchronizer) {raw : List UInt8} {start : Nat}
    (hstart : start = s.store.nextHeight)
    (hraw : ∀ hs, s.store.Holds hs →
      ∃ new, raw = concat new ∧ Chained s.store.headerSize (hs ++ new)) :
    Grows origin s.store (s.storeLinked raw start).2.store
      (chainFault (s.storeLinked raw start).1) := by
  have hkeeps : Keeps origin s.store _ _ := keeps_storeLinked s hstart hraw
  refine ⟨hkeeps, fun hfit h => ?_⟩
  rw [Synchronizer.storeLinked] at hkeeps hfit ⊢
  split at hfit
  · next hempty =>
    rw [if_pos hempty]
    exact ⟨rfl, .refl _⟩
  next hne =>
  rw [if_neg hne]
  obtain ⟨hs, hold⟩ := h.good
  obtain ⟨new, rfl, hnew⟩ := hraw hs hold
  rcases hold.append_cases (sized_append.1 hnew.sized).2 (by rintro rfl; simp at hne) with
    ⟨text, -, ho⟩ | ho
  · rw [ho]
    exact ⟨rfl, .refl _⟩
  · simp only [ho] at hfit ⊢
    have hle := h.fits_change (c := .append (concat new)) hold (concat_append _ _).symm
      hnew.sized (.of_precedes (precedes_putAll _ _ _) hfit)
    obtain ⟨ix, t, ht, he, -⟩ := hold.storeRange_written hnew hle
    rw [hstart, he]
    subst ht
    refine ⟨rfl, ?_⟩
    rw [hold.localTip_eq]
    exact .topHeight (by simp)

theorem grows_connect (s : Store) {x : BlockHeader} (hx : x.raw.length = s.headerSize) :
    Grows origin s (s.connect x).2 (chainFault (s.connect x).1) := by
  refine ⟨keeps_connect s hx, fun hfit h => ?_⟩
  rw [Store.connect] at hfit ⊢
  split at hfit
  · next hlinks =>
    rw [if_pos hlinks]
    obtain ⟨hs, hold⟩ := h.good
    have hnew : Chained s.headerSize (hs ++ [x]) :=
      ⟨sized_append.2 ⟨hold.chained.sized, List.forall_mem_singleton.2 hx⟩,
        linked_snoc_iff.2 ⟨hold.chained.linked, hold.connects_iff.1 hlinks⟩⟩
    rcases hold.extend_cases hx with ⟨text, -, ho⟩ | ho
    · rw [ho]
      exact ⟨rfl, .refl _⟩
    · simp only [ho] at hfit ⊢
      have hle := h.fits_change (c := .append (concat [x])) hold (concat_append _ _).symm
        hnew.sized fun n => hfit n
      obtain ⟨ix, t, ht, he, -⟩ := hold.storeOne_written hnew hle
      rw [he]
      subst ht
      refine ⟨rfl, ?_⟩
      rw [hold.localTip_eq]
      exact .topHeight (by simp)
  · next hlinks =>
    rw [if_neg hlinks]
    exact ⟨rfl, .refl _⟩

/-- Where headers are taken away, the tip that was there is pinned. -/
theorem shifts_rewind (s : Synchronizer) :
    Shifts origin s.store s.rewind.2.store (faultOf s.rewind.1) := by
  refine ⟨keeps_rewind s, fun hfit h => ?_⟩
  have hsame : Shift s.store s.store := .grown (.refl _) rfl
  rw [Synchronizer.rewind]
  split
  · exact hsame
  next tip htip =>
  dsimp only
  split
  · exact hsame
  obtain ⟨hs, hold⟩ := h.good
  rcases hold.goBack_cases htip s.settings.rewind with ⟨e, he, -⟩ | ⟨left, ix, t, he, rfl, -⟩
  · rw [he]
    exact hsame
  · rw [he]
    exact .held (Option.some_ne_none _) (tipLe_beginRecovery htip rfl)

/-- **The pieces of a call do these three things to the tip.** -/
theorem pieces_shifts (origin : List UInt8) : Pieces (Grows origin) (Shifts origin) where
  refl s _ he := ⟨.refl s he, fun _ _ => ⟨rfl, .refl _⟩⟩
  trans h k := by
    refine ⟨h.keeps.trans k.keeps, fun hfit hs => ?_⟩
    have hfit' := HeightsFit.of_precedes k.keeps.precedes hfit
    obtain ⟨hpin, hlocal⟩ := h.grows hfit' hs
    obtain ⟨hpin', hlocal'⟩ := k.grows hfit (h.keeps.sound hfit' hs).1
    exact ⟨hpin'.trans hpin, hlocal.trans hlocal'⟩
  precedes h := h.keeps.precedes
  of_grow h := h.shifts
  after h k := h.after k
  load s := grows_loadAndVerify s
  synced s synced := ⟨keeps_of_flags s synced s.pinned, fun _ _ => ⟨rfl, .refl _⟩⟩
  refusal s refusal? := ⟨keeps_of_refusal s refusal?, fun _ _ => ⟨rfl, .refl _⟩⟩
  storeLinked s _ _ hstart hraw := grows_storeLinked s hstart hraw
  connect s _ hx := grows_connect s hx
  rewind s := shifts_rewind s
  clear s := ⟨keeps_of_flags s s.synced none, fun _ _ => .settled (.refl _) rfl⟩

namespace Keeper

/-! ## Runs -/

/-- Where a step takes the pin away, the local tip has come up to it. -/
def Regained (k l : Keeper) : Prop :=
  ∀ p, k.store.pinned = some p → l.store.pinned = none → TipLe (some p) l.store.localTip

/-- A run in which the pin is taken away only when the local tip has come up to it. -/
inductive Steady : Keeper → Keeper → Prop where
  | refl (k : Keeper) : Steady k k
  | step {k l m : Keeper} {e : Option SyncError} (h : Steady k l) (hs : l.Step e m)
      (hpin : Regained l m) : Steady k m

variable {start size : Nat} {content : Option (List UInt8)} {k l : Keeper}

theorem Steady.reached (h : Steady k l) (hk : Reached start size content k) :
    Reached start size content l := by
  induction h with
  | refl => exact hk
  | step h hs hpin ih => exact ih.step hs

theorem Steady.loaded (h : Steady k l) (hk : k.loaded = true) : l.loaded = true := by
  induction h with
  | refl => exact hk
  | step h hs hpin ih => exact hs.loaded ih

/-- **In a step of a loaded store the visible tip moves back exactly if the pin is taken away while
the local tip is below it.** -/
theorem tipLe_iff (h : Reached start size content k) (hl : k.loaded = true)
    (hsize : baseHeaderSize ≤ size) {e : Option SyncError} (hstep : k.Step e l)
    (hfit : l.store.HeightsFit (content.getD [])) :
    TipLe k.store.tip l.store.tip ↔ Regained k l := by
  obtain ⟨hs, hsized, horigin⟩ := exists_eq_concat hsize h.whole
  have hshift := (hstep.of_pieces (pieces_shifts (content.getD [])) h.ready).1
  have hfit' := HeightsFit.of_precedes hshift.keeps.precedes hfit
  rcases h.untouched_or_sound hsized horigin hfit' with hk | ⟨-, hsound⟩
  · rw [hk.not_loaded] at hl
    cases hl
  · exact (hshift.shifts hfit hsound).tipLe_iff

theorem Steady.tipLe (h : Steady k l) (hk : Reached start size content k) (hl : k.loaded = true)
    (hsize : baseHeaderSize ≤ size) (hfit : l.store.HeightsFit (content.getD [])) :
    TipLe k.store.tip l.store.tip := by
  induction h with
  | refl => exact .refl _
  | @step l m e h hs hpin ih =>
    have hreached := h.reached hk
    have hfit' := HeightsFit.of_precedes (hs.keeps [] hreached.ready).1.precedes hfit
    exact (ih hfit').trans ((tipLe_iff hreached (h.loaded hl) hsize hs hfit).mpr hpin)

theorem Reached.loaded_of_caughtUp (h : Reached start size content k) (hc : k.caughtUp = true)
    (hsize : baseHeaderSize ≤ size) (hfit : k.store.HeightsFit (content.getD [])) :
    k.loaded = true := by
  obtain ⟨hs, hsized, horigin⟩ := exists_eq_concat hsize h.whole
  rcases h.untouched_or_sound hsized horigin hfit with hk | ⟨hl, -⟩
  · rw [hk.not_caughtUp] at hc
    cases hc
  · exact hl

/-- **After the first catch-up the visible tip moves back only where the pin is taken away too
early.** Along a run that takes it away only when the local tip has come up to it the visible tip
neither vanishes nor moves back, whatever the server answers; and in a step that takes it away
earlier the visible tip does so. -/
theorem visible_tip (h : Reached start size content k) (hc : k.caughtUp = true)
    (hsize : baseHeaderSize ≤ size) (hfit : k.store.HeightsFit (content.getD [])) :
    (∀ l, Steady k l → l.store.HeightsFit (content.getD []) → TipLe k.store.tip l.store.tip) ∧
      ∀ e l, k.Step e l → l.store.HeightsFit (content.getD []) →
        (TipLe k.store.tip l.store.tip ↔ Regained k l) := by
  have hl := h.loaded_of_caughtUp hc hsize hfit
  exact ⟨fun l hrun hfit => hrun.tipLe h hl hsize hfit,
    fun e l hstep hfit => tipLe_iff h hl hsize hstep hfit⟩

theorem visible_tip_fetched :
    fetched.caughtUp = true ∧ fetched.store.HeightsFit [] ∧
      (∀ l, Steady fetched l → l.store.HeightsFit [] → TipLe fetched.store.tip l.store.tip) ∧
      ∀ e l, fetched.Step e l → l.store.HeightsFit [] →
        (TipLe fetched.store.tip l.store.tip ↔ Regained fetched l) := by
  have hc : fetched.caughtUp = true := state_fetched.2.1
  exact ⟨hc, heightsFit_fetched, visible_tip reached_fetched hc (by decide) heightsFit_fetched⟩

/-! ## A run in which the tip moves back -/

/-- The answers of a server take a catch-up through the steps of a run. -/
theorem Reached.caughtUp_of_run {ω : Type} {source : Machine.Source ω} {fuel n : Nat}
    {p : Progress CatchUp Nat × Synchronizer} {t : Synchronizer} {w v : ω}
    (h : Reached start size content (k.catchUp p))
    (hrun : CatchUp.machine.run source fuel p w = (some (.ok n), t, v)) :
    Reached start size content ⟨t, .idle, true, true⟩ := by
  induction fuel generalizing k p w with
  | zero =>
    rcases p with ⟨call | r, s⟩
    · cases hrun
    · cases hrun
      exact h
  | succ fuel ih =>
    rcases p with ⟨call | r, s⟩
    · exact ih (h.step (.resumeCatchUp rfl _)) hrun
    · cases hrun
      exact h

/-- Every chain can be held after a catch-up, by a store that is opened on its file. -/
theorem exists_reached {hs : List BlockHeader} (h : Chained size hs)
    (hfit : start + hs.length ≤ heightLimit) (settings : SyncSettings) :
    ∃ k, Reached start size (some (concat hs)) k ∧ k.task = .idle ∧ k.caughtUp = true ∧
      k.sync.settings = settings ∧ k.store.Has start size hs none ∧ k.store.synced = true := by
  let s := Store.ofFile start { headerSize := size, content := some (concat hs) }
  have hlen : (concat hs).length % size = 0 := by
    rw [h.sized.length_concat]
    exact Nat.mul_mod_left _ _
  have hopen : Store.openOn start size (some (concat hs)) = .ok s := by
    simp [openOn, HeaderFile.openOn, HeaderFile.checkLength_eq_ok hlen, s]
  have haccess : s.file.Accessible := fun _ _ => rfl
  have hcount : s.file.count = .ok hs.length := by
    rcases HeaderFile.count_cases (f := s.file) rfl h.sized with ⟨text, hr, -⟩ | he
    · exact absurd hr haccess.not_refuses
    · exact he
  obtain ⟨t, hload, ht⟩ : ∃ t, s.loadAndVerify = (.ok (), t) ∧ t.Has start size hs none := by
    rcases Store.loadAndVerify_cases (s := s) rfl h.sized hfit with ⟨text, hr, -⟩ | ⟨ix, he, hix⟩
    · exact absurd hr haccess.not_refuses
    · have hlist : (s.listing ix hs).Indexes hs := ⟨hix, rfl⟩
      rw [hlist.verify_all_iff.2 h.linked] at he
      exact ⟨_, he, ⟨⟨hlist, h, rfl⟩, rfl, rfl, haccess, rfl⟩⟩
  let sync := Synchronizer.start settings s (.start 1)
  have hbegin : sync.beginCatchUp =
      { sync with store := t }.nextRequest ⟨max settings.chunkSize 1, 0, 0⟩ := by
    rw [Synchronizer.beginCatchUp]
    simp only [sync, Synchronizer.start, hcount, hload]
    rw [if_neg fun h => Bool.false_ne_true h.1]
  have hends : CatchUp.machine.Ends (honest start hs none) sync.beginCatchUp fun r u =>
      r = .ok 0 ∧ u.store.Has start size hs none ∧ u.store.synced = true := by
    rw [hbegin]
    refine Machine.inherits_ends _ (Synchronizer.awaits_gather Machine.inherits_ends
      (s := { sync with store := t }) (serves_honest start hs none) (fun _ h => by cases h) h.sized
      (h.reaches (Nat.le_refl _)) hfit (by rw [List.take_length]; exact ht)
      (by dsimp only; omega) (fun _ chunk u hu => ?_) fun hlt => absurd hlt (Nat.lt_irrefl _))
    rw [Nat.sub_self]
    refine (Synchronizer.ends_finishCatchUp hu hfit).imp fun r v hv => ⟨hv.1, ?_, hv.2.2⟩
    simpa only [ite_self] using hv.2.1
  obtain ⟨fuel, r, u, v, hrun, rfl, hu, hsync⟩ := hends ()
  have hopened : Reached start size (some (concat hs)) (.opened settings s (.start 1)) :=
    .opened hopen settings (.start 1)
  have hdone := (hopened.step (.beginCatchUp rfl)).caughtUp_of_run hrun
  exact ⟨_, hdone.step (.renew rfl settings (.start 1)), rfl, rfl, rfl, hu, hsync⟩

/-- A tip that is handled without a query is one step. -/
theorem step_of_beginTip (hidle : k.task = .idle) (hcaught : k.caughtUp = true) {work : TipWork}
    {outcome : TipOutcome} {s : Synchronizer}
    (h : k.sync.beginTip work = (.done (.ok outcome), s)) :
    k.Step none ⟨s, .idle, k.loaded, true⟩ := by
  have hstep := Step.beginTip hidle hcaught work
  rw [h, update, hcaught] at hstep
  exact hstep

/-- **The visible tip can move back.** A store holds two headers. It is told of a third that does
not connect, and both are taken away; then the server begins again from below. -/
theorem visible_tip_falls :
    ∃ content k l m, Reached 0 80 content k ∧ k.caughtUp = true ∧ k.store.tip = some 1 ∧
      k.Step none l ∧ l.store.tip = some 1 ∧ l.Step none m ∧ m.store.tip = some 0 := by
  obtain ⟨k, hreached, hidle, hcaught, hset, hk, hsync⟩ :=
    exists_reached chained_pair (show 0 + 2 ≤ heightLimit by decide) {}
  have htip : k.store.tip = some 1 := by
    rw [tip_of_pinned_eq_none hk.pinned_eq, hk.localTip_eq, hk.startPoint_eq]
    rfl
  -- Both headers are taken away.
  obtain ⟨s, he, hs, -⟩ := Synchronizer.rewind_of_high hk hsync (List.cons_ne_nil _ _)
    (by rw [hset]; decide) (fun h => by cases h)
  rw [hset] at hs
  let third : TipWork := ⟨2, upperHeader.toHex, .notification⟩
  have hback : k.sync.beginTip third = (.done (.ok (.rewound { third with origin := .retry })),
      { k.sync with store := s, phase := .reorgRecovering }) := by
    rw [Synchronizer.beginTip_eq_connectNotified hk (show third.height = _ from rfl)
        (ofHex_toHex upperHeader), Synchronizer.connectNotified,
      hk.connect_broken not_continues_pair]
    simp only [Synchronizer.settle, he]
  have hheld : s.tip = some 1 := by
    rw [tip_of_pinned hs.pinned_eq, hs.localTip_eq]
    rfl
  -- The lower one is stored again.
  obtain ⟨t, hconnect, ht, -⟩ := hs.connect (chained_pair.take 1) (by decide)
  let first : TipWork := ⟨0, lowestHeader.toHex, .notification⟩
  let emptied : Synchronizer := { k.sync with store := s, phase := .reorgRecovering }
  have hagain : emptied.beginTip first =
      Synchronizer.settle { emptied with store := t } first .advanced := by
    rw [Synchronizer.beginTip_eq_connectNotified (s := emptied) hs
        (show first.height = _ from rfl) (ofHex_toHex lowestHeader),
      Synchronizer.connectNotified, hconnect]
  have hlow : t.clearRecovery.tip = some 0 := by
    rw [tip_of_pinned_eq_none rfl, ht.unpinned.localTip_eq, ht.unpinned.startPoint_eq]
    rfl
  exact ⟨_, k, _, _, hreached, hcaught, htip, step_of_beginTip hidle hcaught hback, hheld,
    step_of_beginTip rfl rfl hagain, hlow⟩

end Keeper
end HeaderFollower
