/-
# Good stores

A store is good if index, local tip and file all are those of one list of linked headers
(`Store.Holds`). The lemmas of this file follow a good store through the operations that change the
file: each of them either is refused by the system, and then nothing has changed, or ends in a store
that again holds a list, which the lemma names.

`Store.rebuild_cases` loads the index from any file of whole headers, linked or not.
-/

import HeaderFollower.Proofs.Store.File
import HeaderFollower.Proofs.Store.Indexed
import HeaderFollower.Sync.CatchUp

namespace HeaderFollower

open BlockHeader

namespace Store

/-- The store holds the headers of a list: they are linked, index and local tip are theirs, and the
file is their concatenation. -/
structure Holds (s : Store) (hs : List BlockHeader) : Prop extends s.Indexes hs where
  chained : Chained s.headerSize hs
  content_eq : s.file.content = some (concat hs)

/-- The store is good: its index has a header at each height from the start point to the tip and no
others, each header links to the one below it, and the file is their concatenation. -/
def Good (s : Store) : Prop := ∃ hs, s.Holds hs

/-- The store after a change of its file, which held `content`. -/
abbrev afterChange (s : Store) (content : List UInt8) (c : FileChange) : Store :=
  { s with file := s.file.change content c }

variable {s : Store} {hs new : List BlockHeader} {x : BlockHeader} {ix : Index}

/-! ## Loading -/

theorem rebuild_cases (h : s.file.content = some (concat hs)) (hs_sized : Sized s.headerSize hs)
    (hfit : s.startPoint + hs.length ≤ heightLimit) :
    (∃ text, s.file.Refuses .read text ∧ s.rebuild = (.error (.io text), s)) ∨
      ∃ ix, s.rebuild = (.ok (), s.listing ix hs) ∧ ix.Lists s.startPoint hs := by
  have hlen : (concat hs).length % s.file.headerSize = 0 := by
    rw [hs_sized.length_concat]
    exact Nat.mul_mod_left _ _
  rw [rebuild, HeaderFile.readAll]
  rcases HeaderFile.wholeBytes_cases h hlen .read with ⟨text, hr, he⟩ | he
  · exact .inl ⟨text, hr, by rw [he]⟩
  · obtain ⟨ix, hload, hix⟩ := (Indexes.reset s).storeRange_concat hs_sized hfit
    exact .inr ⟨ix, by simp only [he]; exact hload, hix⟩

theorem loadAndVerify_cases (h : s.file.content = some (concat hs))
    (hs_sized : Sized s.headerSize hs) (hfit : s.startPoint + hs.length ≤ heightLimit) :
    (∃ text, s.file.Refuses .read text ∧ s.loadAndVerify = (.error (.io text), s)) ∨
      ∃ ix, s.loadAndVerify = ((s.listing ix hs).verify 0 true, s.listing ix hs) ∧
        ix.Lists s.startPoint hs := by
  rw [loadAndVerify]
  rcases rebuild_cases h hs_sized hfit with ⟨text, hr, he⟩ | ⟨ix, he, hix⟩
  · exact .inl ⟨text, hr, by rw [he]⟩
  · exact .inr ⟨ix, by rw [he], hix⟩

/-- **A good store is loaded as it is.** -/
theorem Holds.loadAndVerify_cases (h : s.Holds hs)
    (hfit : s.startPoint + hs.length ≤ heightLimit) :
    (∃ text, s.file.Refuses .read text ∧ s.loadAndVerify = (.error (.io text), s)) ∨
      ∃ ix, s.loadAndVerify = (.ok (), s.listing ix hs) ∧ (s.listing ix hs).Holds hs := by
  rcases Store.loadAndVerify_cases h.content_eq h.chained.sized hfit with hr | ⟨ix, he, hix⟩
  · exact .inl hr
  · have hlist : (s.listing ix hs).Indexes hs := ⟨hix, rfl⟩
    rw [hlist.verify_all_iff.2 h.chained.linked] at he
    exact .inr ⟨ix, he, hlist, h.chained, h.content_eq⟩

/-! ## Growing -/

theorem holds_of_change {content : List UInt8} {c : FileChange}
    (hix : ix.Lists s.startPoint new) (hnew : Chained s.headerSize new)
    (hc : c.apply content = concat new) :
    ((s.afterChange content c).listing ix new).Holds new :=
  ⟨⟨hix, rfl⟩, hnew, congrArg some hc⟩

/-- Headers are written to the file, before they are put into the index. -/
theorem Holds.append_cases (h : s.Holds hs) (hsized : Sized s.headerSize new) (hne : new ≠ []) :
    (∃ text, s.file.Refuses .append text ∧ s.append (concat new) = .error (.io text)) ∨
      s.append (concat new) = .ok (s.afterChange (concat hs) (.append (concat new))) := by
  have hlen : (concat new).length % s.file.headerSize = 0 := by
    rw [hsized.length_concat]
    exact Nat.mul_mod_left _ _
  rw [append]
  rcases HeaderFile.append_cases h.content_eq hlen (mt concat_eq_nil_iff.1 hne) with
    ⟨text, hr, he⟩ | he
  · exact .inl ⟨text, hr, by rw [he]⟩
  · exact .inr (by rw [he])

/-- Linked headers that have been written are put on top of the index. -/
theorem Holds.storeRange_written (h : s.Holds hs) (hnew : Chained s.headerSize (hs ++ new))
    (hfit : s.startPoint + (hs ++ new).length ≤ heightLimit) :
    ∃ ix t, t = (s.afterChange (concat hs) (.append (concat new))).listing ix (hs ++ new) ∧
      (s.afterChange (concat hs) (.append (concat new))).storeRange (concat new) s.nextHeight =
        (.ok (), t) ∧ t.Holds (hs ++ new) := by
  have hlist : (s.afterChange (concat hs) (.append (concat new))).Indexes hs :=
    ⟨h.lists, h.localTip_eq⟩
  obtain ⟨ix, hload, hix⟩ := hlist.storeRange_concat (sized_append.1 hnew.sized).2 hfit
  refine ⟨ix, _, rfl, ?_, holds_of_change hix hnew (concat_append _ _).symm⟩
  rw [h.nextHeight_eq]
  exact hload

/-- A single header is written to the file and put on top of the index. -/
theorem Holds.extend_cases (h : s.Holds hs) (hsized : x.raw.length = s.headerSize) :
    (∃ text, s.file.Refuses .append text ∧ s.extend x = .error (.io text)) ∨
      s.extend x = .ok ((s.afterChange (concat hs) (.append (concat [x]))).storeOne x) := by
  have hx : concat [x] = x.raw := List.append_nil _
  rw [extend, ← hx]
  rcases h.append_cases (List.forall_mem_singleton.2 hsized) (List.cons_ne_nil x []) with
    ⟨text, hr, he⟩ | he
  · exact .inl ⟨text, hr, by rw [he]⟩
  · exact .inr (by rw [he])

/-- A header that has been written and links to the last one is put on top of the index. -/
theorem Holds.storeOne_written (h : s.Holds hs) (hnew : Chained s.headerSize (hs ++ [x]))
    (hfit : s.startPoint + (hs ++ [x]).length ≤ heightLimit) :
    ∃ ix t, t = (s.afterChange (concat hs) (.append (concat [x]))).listing ix (hs ++ [x]) ∧
      (s.afterChange (concat hs) (.append (concat [x]))).storeOne x = t ∧ t.Holds (hs ++ [x]) := by
  have hlist : (s.afterChange (concat hs) (.append (concat [x]))).Indexes hs :=
    ⟨h.lists, h.localTip_eq⟩
  rw [List.length_append, List.length_singleton] at hfit
  exact ⟨_, _, rfl, hlist.storeOne_eq x (Nat.lt_of_succ_le hfit),
    holds_of_change (h.lists.insert x) hnew (concat_append _ _).symm⟩

/-! ## Shrinking -/

theorem runAll_cons_ok {t : Store} {op : StoreOp} {rest : List StoreOp}
    (h : s.run op = (.ok (), t)) : s.runAll (op :: rest) = t.runAll rest := by
  rw [runAll, h]

theorem runAll_cons_error {t : Store} {op : StoreOp} {rest : List StoreOp} {e : ChainError}
    (h : s.run op = (.error e, t)) : s.runAll (op :: rest) = (.error e, t) := by
  rw [runAll, h]

/-- Before the first catch-up has been completed nothing is taken away. -/
theorem runAll_rewindOps_of_not_synced (h : s.synced = false) (depth tip : Nat) :
    s.runAll (rewindOps depth tip) = (.error .truncateBeforeSync, s) := by
  refine runAll_cons_error ?_
  simp [run, truncateFile, h, orSame]

/-- The topmost headers are cut off the file and then taken out of the index. -/
theorem Holds.runAll_rewindOps_cases (h : s.Holds hs) (hsync : s.synced = true) {depth : Nat}
    (hpos : 0 < depth) (hle : depth ≤ hs.length) (tip : Nat) :
    (∃ text, s.file.Refuses .shorten text ∧
        s.runAll (rewindOps depth tip) = (.error (.io text), s)) ∨
      ∃ ix t, s.runAll (rewindOps depth tip) = (.ok (), t.beginRecovery tip) ∧
        t = (s.afterChange (concat hs) (.shorten ((hs.length - depth) * s.headerSize))).listing ix
          (hs.take (hs.length - depth)) ∧
        t.Holds (hs.take (hs.length - depth)) := by
  rcases HeaderFile.dropLast_cases h.content_eq h.chained.sized hpos hle with ⟨text, hr, he⟩ | he
  · refine .inl ⟨text, hr, runAll_cons_error ?_⟩
    simp [run, truncateFile, hsync, he, orSame]
  · have hcut : s.run (.truncateFile depth) = (.ok (), s.afterChange (concat hs)
        (.shorten ((hs.length - depth) * s.headerSize))) := by
      simp [run, truncateFile, hsync, he, orSame, headerSize]
    have hlist : (s.afterChange (concat hs)
        (.shorten ((hs.length - depth) * s.headerSize))).Indexes hs := ⟨h.lists, h.localTip_eq⟩
    obtain ⟨ix, hrun, hix⟩ := hlist.runAll_removeTip hle
    refine .inr ⟨ix, _, ?_, rfl, holds_of_change hix (h.chained.take _)
      (h.chained.sized.take_concat _)⟩
    rw [rewindOps, runAll_cons_ok hcut, runAll_append, hrun]
    rfl

/-- Going back from the local tip fails and changes nothing, or takes the topmost headers away. -/
theorem Holds.goBack_cases (h : s.Holds hs) {tip : Nat} (htip : s.localTip = some tip)
    (rewind : Nat) :
    (∃ e, s.runAll (rewindOps (min rewind (tip - s.startPoint + 1)) tip) = (.error e, s) ∧
        ∀ height, e ≠ .verifyFailed height) ∨
      ∃ left ix t, s.runAll (rewindOps (min rewind (tip - s.startPoint + 1)) tip) =
          (.ok (), t.beginRecovery tip) ∧
        t = (s.afterChange (concat hs) (.shorten (left * s.headerSize))).listing ix
          (hs.take left) ∧
        t.Holds (hs.take left) := by
  have hne : hs ≠ [] := by
    rintro rfl
    rw [h.localTip_eq] at htip
    cases htip
  have hlen : tip - s.startPoint + 1 = hs.length := by
    rw [h.localTip_eq, topHeight_of_ne_nil hne] at htip
    obtain rfl := Option.some.inj htip
    have := List.length_pos_iff.2 hne
    omega
  rw [hlen]
  cases hsync : s.synced with
  | false =>
    exact .inl ⟨_, runAll_rewindOps_of_not_synced hsync _ _, fun _ e => by cases e⟩
  | true =>
    rcases Nat.eq_zero_or_pos (min rewind hs.length) with hzero | hpos
    · have hnone : s.runAll (rewindOps 0 tip) =
          (.error (.invalidTruncate "truncate count must be positive"), s) := by
        refine runAll_cons_error ?_
        simp [run, truncateFile, hsync, HeaderFile.dropLast, orSame]
      rw [hzero]
      exact .inl ⟨_, hnone, fun _ e => by cases e⟩
    · rcases h.runAll_rewindOps_cases hsync hpos (Nat.min_le_right _ _) tip with
        ⟨text, -, he⟩ | ⟨ix, t, he, ht, hold⟩
      · exact .inl ⟨_, he, fun _ e => by cases e⟩
      · exact .inr ⟨_, ix, t, he, ht, hold⟩

/-! ## A store with one header -/

/-- A synced store that holds a single header, at height 0. -/
def holdingOne (x : BlockHeader) : Store where
  startPoint := 0
  file := { headerSize := x.raw.length, content := some x.raw }
  index := Index.empty.insert 0 x
  localTip := some 0
  synced := true
  pinned := none

theorem holds_holdingOne (x : BlockHeader) : (holdingOne x).Holds [x] := by
  refine ⟨⟨(Index.Lists.empty 0).insert x, rfl⟩, ⟨?_, .singleton x⟩, ?_⟩
  · exact List.forall_mem_singleton.2 rfl
  · rw [concat_cons, concat_nil, List.append_nil]
    rfl

end Store
end HeaderFollower
