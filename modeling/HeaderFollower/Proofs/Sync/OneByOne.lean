/-
# Storing a batch at once, or header by header

A catch-up counts the headers of a batch that continue the chain, writes them in one go and puts
them into the index. The headers below an announced one are connected one after the other instead:
the first way carries the header below along, the second looks it up at the local tip each time.

`Store.Indexes.putAll_stack` says what the first way makes of the index, `Holds.connectAll_stack`
what the second way makes of it, and it is the same. `Store.batch_agrees` puts the two together for
every batch of whole headers, wherever it breaks.
-/

import HeaderFollower.Proofs.Store.Smooth
import HeaderFollower.Proofs.Sync.Fork

namespace HeaderFollower

open BlockHeader

namespace HeaderFile

variable {f : HeaderFile} {access : FileAccess} {n : Nat}

/-- The system grants an access as the file is, and again after each of the next changes, `n` times
in all. -/
def Grants (f : HeaderFile) (access : FileAccess) (n : Nat) : Prop :=
  ∀ i < n, f.refusal? access (f.changes.length + i) = none

theorem Grants.of_le {m : Nat} (h : f.Grants access n) (hle : m ≤ n) : f.Grants access m :=
  fun i hi => h i (Nat.lt_of_lt_of_le hi hle)

theorem Grants.not_refuses (h : f.Grants access n) (hpos : 0 < n) {text : String} :
    ¬ f.Refuses access text := by
  intro e
  have hnone := h 0 hpos
  rw [Refuses, ← Nat.add_zero f.changes.length, hnone] at e
  cases e

theorem Grants.change (h : f.Grants access (n + 1)) (content : List UInt8) (c : FileChange) :
    (f.change content c).Grants access n := by
  intro i hi
  have hnext := h (i + 1) (Nat.succ_lt_succ hi)
  rw [← Nat.add_assoc, Nat.add_right_comm] at hnext
  have hlength : (f.change content c).changes.length = f.changes.length + 1 := by
    rw [HeaderFile.change, List.length_append, List.length_singleton]
  rw [hlength]
  exact hnext

end HeaderFile

namespace Store

/-- Two stores have the same headers in index and file, and nothing else tells them apart but how
their files came to be written. -/
structure Alike (s t : Store) : Prop where
  index : s.index = t.index
  localTip : s.localTip = t.localTip
  content : s.file.content = t.file.content
  startPoint : s.startPoint = t.startPoint
  headerSize : s.headerSize = t.headerSize
  synced : s.synced = t.synced
  pinned : s.pinned = t.pinned

variable {s : Store} {hs new : List BlockHeader} {x : BlockHeader}

/-- The store with new headers stacked on the index, over a file that has them as well. -/
abbrev stacked (s : Store) (file : HeaderFile) (hs new : List BlockHeader) : Store :=
  { s with file }.listing (s.index.stack s.nextHeight new) (hs ++ new)

theorem Indexes.stacked_nil (h : s.Indexes hs) : s.stacked s.file hs [] = s := by
  rw [stacked, Index.stack, List.append_nil]
  exact h.listing_self

theorem holds_stacked (h : s.Holds hs) (hnew : Chained s.headerSize (hs ++ new))
    {file : HeaderFile} (hsize : file.headerSize = s.headerSize)
    (hcontent : file.content = some (concat (hs ++ new))) :
    (s.stacked file hs new).Holds (hs ++ new) := by
  have hlists : (s.index.stack s.nextHeight new).Lists s.startPoint (hs ++ new) := by
    rw [h.nextHeight_eq]
    exact h.lists.stack new
  refine ⟨⟨hlists, rfl⟩, ?_, hcontent⟩
  rw [headerSize, hsize]
  exact hnew

/-! ## All at once -/

/-- Headers that continue the chain are written in one go and stacked on the index, even if there
are none of them. -/
theorem Holds.storeRange_stack (h : s.Holds hs) (hnew : Sized s.headerSize new)
    (hfit : s.startPoint + (hs ++ new).length ≤ heightLimit)
    (hgrants : s.file.Grants .append new.length) :
    ∃ file, s.append (concat new) = .ok { s with file } ∧
      { s with file }.storeRange (concat new) s.nextHeight =
        (.ok (), s.stacked file hs new) ∧
      file.headerSize = s.headerSize ∧ file.content = some (concat (hs ++ new)) := by
  have hwritten : ∃ file, s.append (concat new) = .ok { s with file } ∧
      file.headerSize = s.headerSize ∧ file.content = some (concat (hs ++ new)) := by
    rcases List.eq_nil_or_concat new with rfl | ⟨_, _, hconcat⟩
    · refine ⟨s.file, ?_, rfl, ?_⟩
      · simp [append, HeaderFile.append, HeaderFile.checkLength]
      · rw [List.append_nil]
        exact h.content_eq
    · have hne : new ≠ [] := by simp [hconcat]
      have hpos : 0 < new.length := List.length_pos_iff.2 hne
      rcases h.append_cases hnew hne with ⟨text, hr, -⟩ | he
      · exact absurd hr (hgrants.not_refuses hpos)
      · exact ⟨_, he, rfl, congrArg some (concat_append hs new).symm⟩
  obtain ⟨file, happend, hsize, hcontent⟩ := hwritten
  have hlist : { s with file }.Indexes hs := ⟨h.lists, h.localTip_eq⟩
  refine ⟨file, happend, ?_, hsize, hcontent⟩
  have hsized : Sized { s with file }.headerSize new := by
    rw [headerSize, hsize]
    exact hnew
  have hput := hlist.putAll_stack hfit
  rw [storeRange, split_concat hsized, stacked, h.nextHeight_eq]
  exact hput

/-! ## Header by header -/

/-- A header that continues the chain is connected, which puts it on top of the index. -/
theorem Holds.connect_granted (h : s.Holds hs) (hone : Chained s.headerSize (hs ++ [x]))
    (hfit : s.startPoint + hs.length < heightLimit) (hgrants : s.file.Grants .append 1) :
    ∃ t, s.connect x = (.ok .advanced, t) ∧ t.Holds (hs ++ [x]) ∧
      t = (s.afterChange (concat hs) (.append (concat [x]))).listing
        (s.index.insert s.nextHeight x) (hs ++ [x]) := by
  have hconnects : s.connects x = true := h.connects_iff.2 (linked_snoc_iff.1 hone.linked).2
  have hsized : x.raw.length = s.headerSize := (sized_cons.1 (sized_append.1 hone.sized).2).1
  have hlist : (s.afterChange (concat hs) (.append (concat [x]))).Indexes hs :=
    ⟨h.lists, h.localTip_eq⟩
  rw [connect, if_pos hconnects]
  rcases h.extend_cases hsized with ⟨text, hr, -⟩ | he
  · exact absurd hr (hgrants.not_refuses Nat.one_pos)
  · rw [he, hlist.storeOne_eq x hfit, h.nextHeight_eq]
    exact ⟨_, rfl, holds_of_change (h.lists.insert x) hone (concat_append _ _).symm, rfl⟩

/-- Headers that continue the chain are connected one after the other, which stacks them on the
index. The induction is on the headers; each of them changes the file once. -/
theorem Holds.connectAll_stack (h : s.Holds hs) (hnew : Chained s.headerSize (hs ++ new))
    (hfit : s.startPoint + (hs ++ new).length ≤ heightLimit)
    (hgrants : s.file.Grants .append new.length) (start : Nat) :
    ∃ file, s.connectAll start (new.map .ok) = (.ok .advanced, s.stacked file hs new) ∧
      file.headerSize = s.headerSize ∧ file.content = some (concat (hs ++ new)) := by
  induction new generalizing s hs with
  | nil =>
    refine ⟨s.file, ?_, rfl, ?_⟩
    · rw [List.map_nil, Store.connectAll, h.stacked_nil]
    · rw [List.append_nil]
      exact h.content_eq
  | cons x rest ih =>
    rw [List.append_cons] at hnew hfit ⊢
    have hone : Chained s.headerSize (hs ++ [x]) := by
      have := hnew.take (hs ++ [x]).length
      rwa [List.take_left] at this
    have hlt : s.startPoint + hs.length < heightLimit := by
      simp only [List.length_append, List.length_singleton] at hfit
      omega
    obtain ⟨t, hconnect, hold, ht⟩ := h.connect_granted hone hlt
      (hgrants.of_le (Nat.succ_le_succ (Nat.zero_le _)))
    have hnext : t.nextHeight = s.nextHeight + 1 := by
      rw [hold.nextHeight_eq, h.nextHeight_eq, List.length_append, ht]
      rfl
    have hstacked (file : HeaderFile) :
        t.stacked file (hs ++ [x]) rest = s.stacked file hs (x :: rest) := by
      rw [stacked, stacked, Index.stack, ← List.append_cons, ← hnext, ht]
    subst ht
    obtain ⟨file, hrest, hsize, hcontent⟩ := ih hold hnew hfit (hgrants.change _ _)
    refine ⟨file, ?_, hsize, hcontent⟩
    rw [List.map_cons, Store.connectAll, hconnect, ← hstacked]
    exact hrest

/-! ## Both ways -/

/-- What comes of a batch in both ways: `linked` of its `count` headers continue the chain, storing
them at once ends in the store `bulk`, and connecting the headers of the batch one after the other
ends in the store `single`. -/
structure BatchStored (s : Store) (raw : List UInt8) (count start linked : Nat)
    (bulk single : Store) : Prop where
  linkedPrefix_eq : s.linkedPrefix raw = .ok linked
  linked_le : linked ≤ count
  /-- The linked headers are appended to the file and put into the index. -/
  bulk_eq : ∃ written, s.append (raw.take (linked * s.headerSize)) = .ok written ∧
    written.storeRange (raw.take (linked * s.headerSize)) s.nextHeight = (.ok (), bulk)
  /-- All headers of the batch are connected, up to the first that does not continue the chain. -/
  single_eq : s.connectAll start (split s.headerSize raw) =
    (.ok (if linked < count then .broken (s.nextHeight + linked) else .advanced), single)
  /-- The linked ones are those that connect. -/
  connected_eq : s.connectAll start ((split s.headerSize raw).take linked) =
    (.ok .advanced, single)
  nextHeight_eq : single.nextHeight = s.nextHeight + linked

/-- A header that does not continue the chain is not connected, and neither is any above it. -/
theorem Holds.connectAll_stops (h : s.Holds hs) {rest : List BlockHeader}
    (hstop : ∀ above ∈ rest.head?, continues hs above = false) (start : Nat) :
    s.connectAll start (rest.map .ok) =
      (.ok (if 0 < rest.length then .broken s.nextHeight else .advanced), s) := by
  cases rest with
  | nil => rfl
  | cons above rest =>
    have hbroken : ¬ s.connects above = true := by
      rw [h.connects_eq_continues, hstop above rfl]
      decide
    rw [List.map_cons, Store.connectAll, connect, if_neg hbroken, List.length_cons,
      if_pos (Nat.succ_pos _)]

/-- **Storing a batch at once and connecting its headers one after the other come to the same.** The
store is good, and the batch is any whole number of headers, linked or not: both ways take the
headers up to the first that does not continue the chain, and end in the same index, local tip and
file content. -/
theorem batch_agrees (hgood : s.Good) (hsize : baseHeaderSize ≤ s.headerSize) {raw : List UInt8}
    {count : Nat} (hraw : raw.length = count * s.headerSize)
    (hfit : s.nextHeight + count ≤ heightLimit) (hgrants : s.file.Grants .append count)
    (start : Nat) :
    ∃ linked bulk single, s.BatchStored raw count start linked bulk single ∧
      bulk.Alike single ∧ bulk.Good ∧ single.Good := by
  obtain ⟨hs, h⟩ := hgood
  obtain ⟨more, hmore, rfl⟩ := exists_eq_concat hsize (by rw [hraw]; exact Nat.mul_mod_left _ _)
  obtain ⟨new, rest, rfl, -, hlinked, hstop⟩ := exists_grow_eq h.chained.linked more
  obtain rfl : (new ++ rest).length = count := by
    rw [hmore.length_concat] at hraw
    exact Nat.eq_of_mul_eq_mul_right (Nat.lt_of_lt_of_le (by decide) hsize) hraw
  have hnew : Chained s.headerSize (hs ++ new) :=
    ⟨sized_append.2 ⟨h.chained.sized, (sized_append.1 hmore).1⟩, hlinked⟩
  have hfits : s.startPoint + (hs ++ new).length ≤ heightLimit := by
    rw [h.nextHeight_eq] at hfit
    simp only [List.length_append] at hfit ⊢
    omega
  have hle : new.length ≤ (new ++ rest).length := by simp
  have hgrant := hgrants.of_le hle
  have htake : (concat (new ++ rest)).take (new.length * s.headerSize) = concat new := by
    rw [hmore.take_concat, List.take_left]
  obtain ⟨written, happend, hstore, hwsize, hwcontent⟩ :=
    h.storeRange_stack (sized_append.1 hmore).1 hfits hgrant
  obtain ⟨file, hconnect, hfsize, hfcontent⟩ := h.connectAll_stack hnew hfits hgrant start
  have hbulk := holds_stacked h hnew hwsize hwcontent
  have hsingle := holds_stacked h hnew hfsize hfcontent
  have hnext : (s.stacked file hs new).nextHeight = s.nextHeight + new.length := by
    rw [hsingle.nextHeight_eq, h.nextHeight_eq, List.length_append, ← Nat.add_assoc]
  refine ⟨new.length, s.stacked written hs new, s.stacked file hs new,
    ⟨?_, hle, ⟨{ s with file := written }, ?_, ?_⟩, ?_, ?_, hnext⟩,
    ⟨rfl, rfl, hwcontent.trans hfcontent.symm, rfl, hwsize.trans hfsize.symm, rfl, rfl⟩,
    ⟨_, hbulk⟩, ⟨_, hsingle⟩⟩
  · exact h.linkedPrefix_concat hmore hlinked hstop
  · rw [htake]
    exact happend
  · rw [htake]
    exact hstore
  · have hleft : new.length < (new ++ rest).length ↔ 0 < rest.length := by
      rw [List.length_append]
      omega
    rw [split_concat hmore, List.map_append, connectAll_append hconnect,
      hsingle.connectAll_stops hstop start, hnext]
    simp only [hleft]
  · rw [split_concat hmore, List.map_append, List.take_left' (List.length_map _)]
    exact hconnect

/-- A batch of two headers on top of a store with one: the first of them continues the chain, and
the second, which is the same header again, does not. -/
theorem batch_agrees_upperTwice :
    (holdingOne lowestHeader).Good ∧ baseHeaderSize ≤ (holdingOne lowestHeader).headerSize ∧
      (concat [upperHeader, upperHeader]).length = 2 * (holdingOne lowestHeader).headerSize ∧
      (holdingOne lowestHeader).nextHeight + 2 ≤ heightLimit ∧
      (holdingOne lowestHeader).file.Grants .append 2 ∧
      ∃ bulk single, (holdingOne lowestHeader).BatchStored (concat [upperHeader, upperHeader])
          2 1 1 bulk single ∧ bulk.Alike single ∧ bulk.Good ∧ single.Good := by
  have hold := holds_holdingOne lowestHeader
  have hsize : (holdingOne lowestHeader).headerSize = 80 := length_towerHeader 0
  have hbase : baseHeaderSize ≤ (holdingOne lowestHeader).headerSize := by
    rw [hsize]
    decide
  have hsized : Sized (holdingOne lowestHeader).headerSize ([upperHeader] ++ [upperHeader]) := by
    intro x hx
    obtain rfl : x = upperHeader := by simpa using hx
    exact (length_fieldBytes _ _ _ _ _ _).trans hsize.symm
  have hraw := hsized.length_concat
  have hgrants : (holdingOne lowestHeader).file.Grants .append 2 := fun _ _ => rfl
  have hfit : (holdingOne lowestHeader).nextHeight + 2 ≤ heightLimit := by decide
  obtain ⟨linked, bulk, single, hstored, halike, hbulk, hsingle⟩ :=
    batch_agrees ⟨_, hold⟩ hbase hraw hfit hgrants 1
  have hone : (holdingOne lowestHeader).linkedPrefix (concat ([upperHeader] ++ [upperHeader])) =
      .ok 1 := by
    refine hold.linkedPrefix_concat hsized chained_pair.linked fun above habove => ?_
    obtain rfl := Option.some.inj habove
    exact not_continues_pair
  obtain rfl : linked = 1 := Except.ok.inj (hstored.linkedPrefix_eq.symm.trans hone)
  exact ⟨⟨_, hold⟩, hbase, hraw, hfit, hgrants, bulk, single, hstored, halike, hbulk, hsingle⟩

end Store
end HeaderFollower
