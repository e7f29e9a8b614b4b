/-
# Taking headers away, one operation after another

Going back is a list of operations on the store (`Synchronizer.plannedOps`): the file is cut, the
headers are taken out of the index from the tip downwards, and last of all the visible tip is
pinned. `Store.Shortened` says what all of them come to, and `Synchronizer.rewind_exact` when they
are made.

Readers look at the store while the operations are carried out. Since the pin comes last, they see
the tip move back as soon as the first header is gone, unless an earlier pin hides it:
`Synchronizer.tip_between_iff`.
-/

import HeaderFollower.Proofs.Sync.Announced

namespace HeaderFollower

open BlockHeader

namespace Store

variable {s t : Store} {hs : List BlockHeader} {x : BlockHeader}

/-! ## Taking headers out of the index -/

/-- A header that is taken out of the index takes the entry of its hash with it. -/
theorem Indexes.heightOf?_removeTip (h : s.Indexes (hs ++ [x])) (ht : s.removeTip = .ok t)
    (hash : Hash256) :
    t.heightOf? hash = if x.hash = hash then none else s.heightOf? hash := by
  have htop : s.index.header? (s.startPoint + hs.length) = some x := by
    rw [h.lists.header?_add, List.getElem?_concat_length]
  rw [removeTip, h.localTip_eq, topHeight_snoc] at ht
  dsimp only at ht
  split at ht
  · cases ht
  · next ix hix =>
    obtain rfl := Except.ok.inj ht
    exact Index.height?_erase? htop hix hash

/-- The entries of the topmost `n` headers go with them; all others stay. -/
theorem Indexes.heightOf?_runAll_removeTip (h : s.Indexes hs) {n : Nat} (hn : n ≤ hs.length)
    (hash : Hash256) :
    (s.runAll (List.replicate n .removeTip)).2.heightOf? hash =
      if hash ∈ (hs.drop (hs.length - n)).map BlockHeader.hash then none else s.heightOf? hash := by
  induction n generalizing s hs with
  | zero => simp [runAll]
  | succ n ih =>
    obtain ⟨rest, x, rfl⟩ : ∃ rest x, hs = rest ++ [x] := by
      rcases List.eq_nil_or_concat' hs with rfl | h
      · simp at hn
      · exact h
    rw [List.length_append, List.length_singleton] at hn ⊢
    obtain ⟨ix, he, hix⟩ := h.removeTip_eq
    have hone := h.heightOf?_removeTip he hash
    have hmore := ih (s := s.listing ix rest) ⟨hix, rfl⟩ (by omega)
    have hdrop : (rest ++ [x]).drop (rest.length + 1 - (n + 1)) =
        rest.drop (rest.length - n) ++ [x] := by
      rw [Nat.add_sub_add_right, List.drop_append_of_le_length (by omega)]
    rw [List.replicate_succ, runAll, run, he, hdrop]
    show ((s.listing ix rest).runAll (List.replicate n .removeTip)).2.heightOf? hash = _
    rw [hmore, hone, List.map_append, List.map_singleton]
    by_cases hx : x.hash = hash
    · simp [hx]
    · simp [hx, Ne.symm hx]

/-! ## Cutting the file -/

/-- If the system refuses the access, nothing is cut off. -/
theorem truncateFile_of_refuses {text : String} (h : s.file.Refuses .shorten text)
    (hsync : s.synced = true) {depth : Nat} (hpos : 0 < depth) :
    s.truncateFile depth = .error (.io text) := by
  have hbytes : s.file.wholeBytes .shorten = .error (.io text) := by
    rw [HeaderFile.Refuses] at h
    rw [HeaderFile.wholeBytes, HeaderFile.bytes, h]
  rw [truncateFile, if_pos hsync, HeaderFile.dropLast, if_neg (Nat.ne_of_gt hpos), hbytes]

/-- Headers that are there are cut off if the system allows it. -/
theorem Holds.exists_truncateFile (h : s.Holds hs) (hsync : s.synced = true) {depth : Nat}
    (hpos : 0 < depth) (hle : depth ≤ hs.length)
    (hgranted : ∀ text, ¬ s.file.Refuses .shorten text) :
    ∃ cut, s.truncateFile depth = .ok cut := by
  rw [truncateFile, if_pos hsync]
  rcases HeaderFile.dropLast_cases h.content_eq h.chained.sized hpos hle with
    ⟨text, hrefuses, -⟩ | he
  · exact absurd hrefuses (hgranted text)
  · rw [he]
    exact ⟨_, rfl⟩

/-- Cutting the file changes nothing but the file. -/
theorem exists_of_truncateFile {depth : Nat} (h : s.truncateFile depth = .ok t) :
    ∃ file, t = { s with file } := by
  rw [truncateFile] at h
  split at h
  · split at h
    · cases h
    · exact ⟨_, (Except.ok.inj h).symm⟩
  · cases h

/-- Once the file has been cut, `n` headers are taken out of the index. -/
theorem Holds.runAll_lowering (h : s.Holds hs) {depth : Nat} {cut : Store}
    (hcut : s.truncateFile depth = .ok cut) {n : Nat} (hn : n ≤ hs.length) :
    ∃ t, s.runAll (.truncateFile depth :: List.replicate n .removeTip) = (.ok (), t) ∧
      t.localTip = topHeight s.startPoint (hs.take (hs.length - n)) ∧ t.pinned = s.pinned ∧
      ∀ hash, t.heightOf? hash = if hash ∈ (hs.drop (hs.length - n)).map BlockHeader.hash then none
        else s.heightOf? hash := by
  obtain ⟨file, rfl⟩ := exists_of_truncateFile hcut
  have hix : Indexes { s with file } hs := ⟨h.lists, h.localTip_eq⟩
  have hrun : s.run (.truncateFile depth) = (.ok (), { s with file }) := by rw [run, hcut, orSame]
  obtain ⟨ix, hremove, -⟩ := hix.runAll_removeTip hn
  have hhash := hix.heightOf?_runAll_removeTip hn
  rw [hremove] at hhash
  exact ⟨_, (runAll_cons_ok hrun).trans hremove, rfl, rfl, hhash⟩

/-- Below the tip that was there before, the visible tip stays exactly if the local tip does, or an
earlier pin is no lower than it was. -/
theorem tip_eq_iff_of_lowered (hpin : t.pinned = s.pinned) (hlow : TipLe t.localTip s.localTip) :
    TipLe t.tip s.tip ∧
      (t.tip = s.tip ↔ t.localTip = s.localTip ∨ TipLe s.localTip s.pinned) := by
  refine ⟨tip_tipLe (hlow.trans s.tipLe_tip.1) (hpin ▸ s.tipLe_tip.2), ?_⟩
  rw [eq_comm, tip_eq_iff hpin.symm hlow]
  constructor
  · intro hle
    cases hp : s.pinned with
    | none =>
      rw [tip_of_pinned_eq_none (hpin.trans hp)] at hle
      exact .inl (hlow.antisymm hle)
    | some pin =>
      rw [tip_of_pinned (hpin.trans hp)] at hle
      by_cases hcovered : TipLe s.localTip (some pin)
      · exact .inr hcovered
      · refine .inl (hlow.antisymm fun low hlocal => ?_)
        obtain ⟨high, hhigh, hlt⟩ := hle low hlocal
        have habove : pin < low := by
          refine Nat.lt_of_not_le fun hle => hcovered ?_
          rw [hlocal, TipLe.some_iff]
          exact ⟨pin, rfl, hle⟩
        cases ht : t.localTip with
        | none =>
          rw [ht, Option.getD_none, Nat.max_self] at hhigh
          cases hhigh
          omega
        | some left =>
          rw [ht, Option.getD_some] at hhigh
          cases hhigh
          exact ⟨left, rfl, by omega⟩
  · rintro (hsame | hcovered)
    · rw [← hsame]
      exact t.tipLe_tip.1
    · exact hcovered.trans (hpin ▸ t.tipLe_tip.2)

/-- The headers `gone`, which lay on top of `kept` in the store `s`, have been taken away. -/
structure Shortened (s : Store) (kept gone : List BlockHeader) (t : Store) : Prop where
  holds : t.Holds kept
  heightOf?_eq : ∀ hash, t.heightOf? hash =
    if hash ∈ gone.map BlockHeader.hash then none else s.heightOf? hash
  startPoint_eq : t.startPoint = s.startPoint
  headerSize_eq : t.headerSize = s.headerSize
  synced_eq : t.synced = s.synced

theorem Shortened.beginRecovery {kept gone : List BlockHeader} (h : s.Shortened kept gone t)
    (tip : Nat) : s.Shortened kept gone (t.beginRecovery tip) where
  holds := ⟨⟨h.holds.lists, h.holds.localTip_eq⟩, h.holds.chained, h.holds.content_eq⟩
  heightOf?_eq := h.heightOf?_eq
  startPoint_eq := h.startPoint_eq
  headerSize_eq := h.headerSize_eq
  synced_eq := h.synced_eq

/-- The topmost `depth` headers are taken away, unless the system refuses to cut the file. -/
theorem Holds.shortened_cases (h : s.Holds hs) (hsync : s.synced = true) {depth : Nat}
    (hpos : 0 < depth) (hle : depth ≤ hs.length) (tip : Nat) :
    (∃ text, s.file.Refuses .shorten text ∧
        s.runAll (rewindOps depth tip) = (.error (.io text), s)) ∨
      (∀ text, ¬ s.file.Refuses .shorten text) ∧
        ∃ t, s.runAll (rewindOps depth tip) = (.ok (), t.beginRecovery tip) ∧
          t.pinned = s.pinned ∧ t.written = s.written ∧
          s.Shortened (hs.take (hs.length - depth)) (hs.drop (hs.length - depth)) t := by
  rcases h.runAll_rewindOps_cases hsync hpos hle tip with hrefused | ⟨ix, t, he, ht, hheld⟩
  · exact .inl hrefused
  · have hgranted (text : String) : ¬ s.file.Refuses .shorten text := by
      intro hrefuses
      have herror : s.run (.truncateFile depth) = (.error (.io text), s) := by
        rw [run, truncateFile_of_refuses hrefuses hsync hpos, orSame]
      rw [rewindOps, runAll_cons_error herror] at he
      cases he
    obtain ⟨cut, hcut⟩ := h.exists_truncateFile hsync hpos hle hgranted
    obtain ⟨u, hlower, -, -, hhash⟩ := h.runAll_lowering hcut hle
    -- Pinning the tip is the last operation, so the index is that after the removals.
    have hsame : t.index = u.index := by
      rw [rewindOps, ← List.cons_append, runAll_append, hlower] at he
      exact congrArg (fun out => out.2.index) he.symm
    refine .inr ⟨hgranted, t, he, ?_, ?_, hheld, fun hash => ?_, ?_, ?_, ?_⟩
    · rw [ht]
    · rw [ht]
      exact (written_afterChange s _ _).trans (List.append_nil _)
    · rw [heightOf?, hsame]
      exact hhash hash
    · rw [ht]
    · rw [ht]
      rfl
    · rw [ht]

end Store

namespace Synchronizer

open Store

variable {s : Synchronizer} {hs : List BlockHeader}

/-! ## A whole rewind -/

/-- Going back would give up: no header is left, or headers have been taken away before, and the
headers above the start point are too few to take others away. -/
def Stuck (s : Synchronizer) : Prop :=
  s.store.localTip = none ∨ s.store.pinned.isSome ∧
    ∃ tip, s.store.localTip = some tip ∧ tip - s.store.startPoint < s.settings.rewind

/-- The operations of going back, in their order. -/
def plannedOps (s : Synchronizer) : List StoreOp :=
  match s.store.localTip with
  | none => []
  | some tip =>
    if s.store.pinned.isSome ∧ tip - s.store.startPoint < s.settings.rewind then []
    else rewindOps (min s.settings.rewind (tip - s.store.startPoint + 1)) tip

/-- Going back carries out the planned operations. -/
theorem store_rewind (s : Synchronizer) :
    s.rewind.2.store = (s.store.runAll s.plannedOps).2 := by
  rw [rewind, plannedOps]
  cases s.store.localTip with
  | none => rfl
  | some tip =>
    dsimp only
    split
    · rfl
    · split
      · next he => rw [he]
      · next he => rw [he]

/-- What going back from the local tip `tip` has come to if it has worked. -/
structure TakenBack (s : Synchronizer) (hs : List BlockHeader) (tip : Nat) (t : Store) : Prop where
  shortened : ∃ kept gone, hs = kept ++ gone ∧
    gone.length = min s.settings.rewind (tip - s.store.startPoint + 1) ∧
    s.store.Shortened kept gone t
  pinned_eq : t.pinned = pinAt s.store.pinned tip
  tip_eq : t.tip = s.store.tip
  written_eq : t.written = s.store.written

theorem rewind_of_stuck (h : s.Stuck) : s.rewind = s.giveUp := by
  rw [rewind]
  rcases h with hnone | ⟨hpinned, tip, htip, hlow⟩
  · rw [hnone]
  · rw [htip]
    exact if_pos ⟨hpinned, hlow⟩

theorem not_stuck_iff : ¬ s.Stuck ↔ ∃ tip, s.store.localTip = some tip ∧
    ¬ (s.store.pinned.isSome ∧ tip - s.store.startPoint < s.settings.rewind) := by
  rw [Stuck]
  cases htip : s.store.localTip with
  | none => simp
  | some tip => simp

/-- The headers up to the local tip are those that the store holds. -/
theorem length_of_localTip (hold : s.store.Holds hs) {tip : Nat}
    (htip : s.store.localTip = some tip) : tip - s.store.startPoint + 1 = hs.length := by
  rw [hold.localTip_eq] at htip
  cases hs with
  | nil => cases htip
  | cons x rest =>
    obtain rfl := Option.some.inj htip
    rw [Nat.add_sub_cancel_left, List.length_cons]

/-- Going back gives up, is refused, or takes the topmost headers away. -/
theorem rewind_cases (hold : s.store.Holds hs) (hsync : s.store.synced = true)
    (hR : 0 < s.settings.rewind) :
    s.Stuck ∧ s.rewind = s.giveUp ∨
      ¬ s.Stuck ∧ (∃ text, s.store.file.Refuses .shorten text ∧
        s.rewind = (.error (.chain (.io text)), { s with phase := .reorgRecovering })) ∨
      ¬ s.Stuck ∧ (∀ text, ¬ s.store.file.Refuses .shorten text) ∧
        ∃ tip t, s.store.localTip = some tip ∧
          s.rewind = (.ok (), { s with store := t, phase := .reorgRecovering }) ∧
          s.TakenBack hs tip t := by
  by_cases hstuck : s.Stuck
  · exact .inl ⟨hstuck, rewind_of_stuck hstuck⟩
  obtain ⟨tip, htip, hgo⟩ := not_stuck_iff.1 hstuck
  have hlen := length_of_localTip hold htip
  refine .inr ?_
  rw [rewind, htip]
  dsimp only
  rw [if_neg hgo, hlen]
  rcases hold.shortened_cases hsync (show 0 < min s.settings.rewind hs.length by omega)
    (Nat.min_le_right _ _) tip with ⟨text, hrefuses, he⟩ | ⟨hgranted, t, he, hpin, hwritten, hshort⟩
  · refine .inl ⟨hstuck, text, hrefuses, ?_⟩
    rw [he]
  · refine .inr ⟨hstuck, hgranted, tip, t.beginRecovery tip, rfl, by rw [he], ⟨?_, ?_, ?_, ?_⟩⟩
    · refine ⟨_, _, (List.take_append_drop (hs.length - min s.settings.rewind hs.length) hs).symm,
        ?_, hshort.beginRecovery tip⟩
      rw [List.length_drop, hlen]
      omega
    · rw [← hpin]
      rfl
    · refine tip_beginRecovery htip hpin ?_
      rw [← htip, hshort.holds.localTip_eq, hold.localTip_eq, hshort.startPoint_eq]
      refine .topHeight ?_
      rw [List.length_take]
      exact Nat.min_le_right _ _
    · exact hwritten

/-- **Going back is exact, and changes nothing if it fails.** It gives up exactly if it is stuck,
and otherwise works if the system lets the file be cut. Then the topmost headers are gone from file
and indexes, as many as the settings say or all, the tip that was there is pinned unless an earlier
pin is higher, and readers see the tip that they saw before. -/
theorem rewind_exact (hold : s.store.Holds hs) (hsync : s.store.synced = true)
    (hR : 0 < s.settings.rewind) :
    ((∃ tip start, s.rewind.1 = .error (.exhausted tip start)) ↔ s.Stuck) ∧
      (s.rewind.1 = .ok () ↔ ¬ s.Stuck ∧ ∀ text, ¬ s.store.file.Refuses .shorten text) ∧
      (s.rewind.1 ≠ .ok () → s.rewind.2.store = s.store) ∧
      (s.rewind.1 = .ok () → ∃ tip, s.store.localTip = some tip ∧
        s.TakenBack hs tip s.rewind.2.store) := by
  rcases rewind_cases hold hsync hR with
    ⟨hstuck, he⟩ | ⟨hfree, text, hrefuses, he⟩ | ⟨hfree, hgranted, tip, t, htip, he, htaken⟩
  · rw [he]
    refine ⟨⟨fun _ => hstuck, fun _ => ⟨_, _, rfl⟩⟩, ⟨fun h => (by cases h), fun h => ?_⟩,
      fun _ => rfl, fun h => (by cases h)⟩
    exact absurd hstuck h.1
  · rw [he]
    refine ⟨⟨?_, fun h => absurd h hfree⟩, ⟨fun h => (by cases h), fun h => ?_⟩, fun _ => rfl,
      fun h => (by cases h)⟩
    · rintro ⟨_, _, h⟩
      cases h
    · exact absurd hrefuses (h.2 text)
  · rw [he]
    refine ⟨⟨?_, fun h => absurd h hfree⟩, ⟨fun _ => ⟨hfree, hgranted⟩, fun _ => rfl⟩,
      fun h => absurd rfl h, fun _ => ⟨tip, htip, htaken⟩⟩
    rintro ⟨_, _, h⟩
    cases h

/-! ## A store with five headers -/

/-- Some synchronizer holds five headers, and takes two away when it goes back. -/
theorem exists_holding_five : ∃ s : Synchronizer, s.store.Has 0 80 (tower 5) none ∧
    s.store.synced = true ∧ s.settings.rewind = 2 := by
  obtain ⟨k, -, -, -, hset, hk, hsync⟩ :=
    Keeper.exists_reached (chained_tower 5) (show 0 + (tower 5).length ≤ heightLimit by decide)
      { rewind := 2 }
  exact ⟨k.sync, hk, hsync, by rw [hset]⟩

theorem rewind_exact_five : ∃ s : Synchronizer, s.store.Holds (tower 5) ∧
    s.store.synced = true ∧ 0 < s.settings.rewind ∧ s.rewind.1 = .ok () ∧
    s.rewind.2.store.Holds (tower 3) ∧ s.rewind.2.store.tip = some 4 := by
  obtain ⟨s, hs, hsync, hR⟩ := exists_holding_five
  have hpos : 0 < s.settings.rewind := by rw [hR]; decide
  have htip : s.store.localTip = some 4 := localTip_of_ne_nil hs (List.cons_ne_nil _ _)
  obtain ⟨-, hok, -, htaken⟩ := rewind_exact hs.toHolds hsync hpos
  have hworks : s.rewind.1 = .ok () := by
    refine hok.2 ⟨not_stuck_iff.2 ⟨4, htip, fun h => ?_⟩, fun text => hs.accessible.not_refuses⟩
    rw [hs.pinned_eq] at h
    cases h.1
  obtain ⟨tip, htip', ⟨kept, gone, hall, hgone, hshort⟩, -, hsame, -⟩ := htaken hworks
  obtain rfl : 4 = tip := Option.some.inj (htip.symm.trans htip')
  have hlen : kept.length = 3 := by
    have hfive : (kept ++ gone).length = 5 := by rw [← hall, length_tower]
    rw [hR, hs.startPoint_eq] at hgone
    rw [List.length_append] at hfive
    omega
  have hkept : kept = tower 3 := by
    have hfront : tower 3 <+: kept ++ gone := hall ▸ prefix_tower (by decide)
    rw [List.prefix_iff_eq_take, length_tower] at hfront
    rw [hfront, ← hlen, List.take_left]
  refine ⟨s, hs.toHolds, hsync, hpos, hworks, hkept ▸ hshort.holds, ?_⟩
  rw [hsame, tip_of_pinned_eq_none hs.pinned_eq, htip]

/-! ## Between two operations -/

/-- What comes before some of the operations of going back. -/
theorem rewindOps_split {depth tip : Nat} {done ahead : List StoreOp}
    (h : rewindOps depth tip = done ++ ahead) : done = [] ∨ ahead = [] ∨
      ahead ≠ [] ∧ ∃ n ≤ depth, done = .truncateFile depth :: List.replicate n .removeTip := by
  rcases List.eq_nil_or_concat' ahead with rfl | ⟨mid, last, rfl⟩
  · exact .inr (.inl rfl)
  cases done with
  | nil => exact .inl rfl
  | cons op rest =>
    obtain ⟨rfl, hrest⟩ := List.cons.inj h
    replace hrest : List.replicate depth .removeTip ++ [.beginRecovery tip] =
        rest ++ mid ++ [last] := by
      rw [List.append_assoc]
      exact hrest
    obtain ⟨hremove, -⟩ := List.append_inj' hrest rfl
    obtain ⟨hlen, hrest, -⟩ := List.append_eq_replicate_iff.1 hremove.symm
    exact .inr (.inr ⟨by simp, rest.length, by omega, by rw [← hrest]⟩)

/-- Without the topmost `n` headers the local tip is the same only if these are none. -/
theorem topHeight_take_eq_iff {start n : Nat} (hne : hs ≠ []) (hn : n ≤ hs.length) :
    topHeight start (hs.take (hs.length - n)) = topHeight start hs ↔ n = 0 := by
  refine ⟨fun h => ?_, fun h => by rw [h, Nat.sub_zero, List.take_length]⟩
  have hpos := List.length_pos_iff.2 hne
  rw [topHeight_of_ne_nil hne] at h
  by_cases hall : hs.take (hs.length - n) = []
  · rw [hall] at h
    cases h
  · have hleft := List.length_pos_iff.2 hall
    rw [topHeight_of_ne_nil hall] at h
    have hheights := Option.some.inj h
    rw [List.length_take] at hleft hheights
    omega

/-- The planned operations are none, or begin at the local tip. -/
theorem plannedOps_cases (hold : s.store.Holds hs) : s.plannedOps = [] ∨
    hs ≠ [] ∧ ∃ depth tip, depth ≤ hs.length ∧ s.plannedOps = rewindOps depth tip := by
  rw [plannedOps]
  cases htip : s.store.localTip with
  | none => exact .inl rfl
  | some tip =>
    have hlen := length_of_localTip hold htip
    dsimp only
    split
    · exact .inl rfl
    · exact .inr ⟨List.ne_nil_of_length_pos (by omega), _, tip, by omega, rfl⟩

/-- **Between its operations going back is seen.** Going back carries out the planned operations, and
ends with the tip that readers saw before. After some of them the visible tip is never higher than
that, and it is the same exactly if no header has been taken out of the index yet, or all operations
have been carried out, or one of them has failed, or an earlier pin is no lower than the local tip
was. -/
theorem tip_between_iff {done ahead : List StoreOp} (hold : s.store.Holds hs)
    (hsplit : s.plannedOps = done ++ ahead) :
    s.rewind.2.store = (s.store.runAll s.plannedOps).2 ∧
      TipLe (s.store.runAll done).2.tip s.store.tip ∧
      ((s.store.runAll done).2.tip = s.store.tip ↔
        done.length ≤ 1 ∨ ahead = [] ∨ (∃ e, (s.store.runAll done).1 = .error e) ∨
          TipLe s.store.localTip s.store.pinned) := by
  refine ⟨store_rewind s, ?_⟩
  have hsame (h : (s.store.runAll done).2.tip = s.store.tip) {cause : Prop} (hcause : cause) :
      TipLe (s.store.runAll done).2.tip s.store.tip ∧
        ((s.store.runAll done).2.tip = s.store.tip ↔ cause) :=
    ⟨h ▸ .refl _, fun _ => hcause, fun _ => h⟩
  have hall (h : ahead = []) : (s.store.runAll done).2.tip = s.store.tip := by
    rw [h, List.append_nil] at hsplit
    rw [← hsplit, ← store_rewind]
    exact (rewind_unseen hold).1
  rcases plannedOps_cases hold with hnone | ⟨hne, depth, tip, hdepth, hops⟩
  · have hahead := (List.append_eq_nil_iff.1 (hsplit.symm.trans hnone)).2
    exact hsame (hall hahead) (.inr (.inl hahead))
  rcases rewindOps_split (hops.symm.trans hsplit) with rfl | hahead | ⟨hahead, n, hn, rfl⟩
  · exact hsame rfl (.inl (Nat.zero_le 1))
  · exact hsame (hall hahead) (.inr (.inl hahead))
  cases hcut : s.store.truncateFile depth with
  | error e =>
    have hfails : s.store.runAll (.truncateFile depth :: List.replicate n .removeTip) =
        (.error e, s.store) := runAll_cons_error (by rw [run, hcut, orSame])
    exact hsame (by rw [hfails]) (.inr (.inr (.inl ⟨e, by rw [hfails]⟩)))
  | ok cut =>
    obtain ⟨t, hrun, hlocal, hpin, -⟩ := hold.runAll_lowering hcut (hn.trans hdepth)
    have hlow : TipLe t.localTip s.store.localTip := by
      rw [hlocal, hold.localTip_eq]
      refine .topHeight ?_
      rw [List.length_take]
      exact Nat.min_le_right _ _
    have hmoved : t.localTip = s.store.localTip ↔ n = 0 := by
      rw [hlocal, hold.localTip_eq, topHeight_take_eq_iff hne (hn.trans hdepth)]
    obtain ⟨hle, hiff⟩ := tip_eq_iff_of_lowered hpin hlow
    rw [hrun]
    refine ⟨hle, hiff.trans ?_⟩
    rw [hmoved, List.length_cons, List.length_replicate]
    simp [hahead]

/-- Of a store with five headers the file is cut, before anything is seen. -/
theorem tip_between_iff_five : ∃ (s : Synchronizer) (done ahead : List StoreOp),
    s.store.Holds (tower 5) ∧ s.plannedOps = done ++ ahead ∧ done ≠ [] ∧ ahead ≠ [] ∧
      s.store.tip = some 4 ∧ (s.store.runAll done).2.tip = some 4 := by
  obtain ⟨s, hs, -, hR⟩ := exists_holding_five
  have hlocal : s.store.localTip = some 4 := localTip_of_ne_nil hs (List.cons_ne_nil _ _)
  have htip : s.store.tip = some 4 := (tip_of_pinned_eq_none hs.pinned_eq).trans hlocal
  have hops : s.plannedOps = [.truncateFile 2] ++ [.removeTip, .removeTip, .beginRecovery 4] := by
    rw [plannedOps, hlocal, hs.pinned_eq, hs.startPoint_eq, hR]
    rfl
  obtain ⟨-, -, hiff⟩ := tip_between_iff hs.toHolds hops
  refine ⟨s, _, _, hs.toHolds, hops, List.cons_ne_nil _ _, List.cons_ne_nil _ _, htip, ?_⟩
  rw [hiff.2 (.inl (Nat.le_refl 1)), htip]

/-- **Readers can see the tip move back while headers are taken away.** Of five headers the topmost
two are taken away; the tip is the same before and after, and lower after each removal. -/
theorem tip_falls_between : ∃ (s : Synchronizer) (t u : Store),
    s.store.Holds (tower 5) ∧ s.store.synced = true ∧
      s.plannedOps = [.truncateFile 2, .removeTip, .removeTip, .beginRecovery 4] ∧
      s.store.tip = some 4 ∧
      s.store.runAll [.truncateFile 2, .removeTip] = (.ok (), t) ∧ t.tip = some 3 ∧
      s.store.runAll [.truncateFile 2, .removeTip, .removeTip] = (.ok (), u) ∧ u.tip = some 2 ∧
      s.rewind.1 = .ok () ∧ s.rewind.2.store.tip = some 4 := by
  obtain ⟨s, hs, hsync, hR⟩ := exists_holding_five
  have hlocal : s.store.localTip = some 4 := localTip_of_ne_nil hs (List.cons_ne_nil _ _)
  have htip : s.store.tip = some 4 := (tip_of_pinned_eq_none hs.pinned_eq).trans hlocal
  have hops : s.plannedOps = [.truncateFile 2, .removeTip, .removeTip, .beginRecovery 4] := by
    rw [plannedOps, hlocal, hs.pinned_eq, hs.startPoint_eq, hR]
    rfl
  obtain ⟨v, hback, -, -⟩ := rewind_of_high hs hsync (List.cons_ne_nil _ _) (by omega)
    fun h => by cases h
  obtain ⟨cut, hcut⟩ : ∃ cut, s.store.truncateFile 2 = .ok cut :=
    hs.toHolds.exists_truncateFile hsync (by decide) (by decide)
      fun text => hs.accessible.not_refuses
  have hlowered (n : Nat) (hn : n ≤ 4) : ∃ t,
      s.store.runAll (.truncateFile 2 :: List.replicate n .removeTip) = (.ok (), t) ∧
        t.tip = some (4 - n) := by
    have hfive : (tower 5).length = 5 := length_tower 5
    obtain ⟨t, hrun, htop, hpin, -⟩ := hs.toHolds.runAll_lowering hcut (n := n) (by omega)
    have hleft : ((tower 5).take (5 - n)).length = 5 - n := by
      rw [List.length_take]
      omega
    refine ⟨t, hrun, ?_⟩
    rw [tip_of_pinned_eq_none (hpin.trans hs.pinned_eq), htop, hs.startPoint_eq, hfive,
      topHeight_of_ne_nil (List.ne_nil_of_length_pos (by omega)), hleft]
    congr 1
    omega
  obtain ⟨t, hone, ht⟩ := hlowered 1 (by decide)
  obtain ⟨u, htwo, hu⟩ := hlowered 2 (by decide)
  refine ⟨s, t, u, hs.toHolds, hsync, hops, htip, hone, ht, htwo, hu, by rw [hback], ?_⟩
  rw [(rewind_unseen hs.toHolds).1, htip]

end Synchronizer
end HeaderFollower
