/-
# Stores over a file that is never refused

While the system grants every access of the file, an operation on a good store has one outcome only.
`Store.Has` says all about such a store that its later course depends on: the headers it holds and
the height at which its visible tip is pinned. The lemmas of this file tell what loading, growing
and going back make of the two.
-/

import HeaderFollower.Proofs.Store.Held
import HeaderFollower.Proofs.Sync.Batch

namespace HeaderFollower

open BlockHeader

namespace Store

/-- The height at which the visible tip is pinned, once headers below `tip` are fetched anew. -/
def pinAt (pinned : Option Nat) (tip : Nat) : Option Nat :=
  some (match pinned with
    | some pin => max pin tip
    | none => tip)

/-- The store holds the headers `hs` over a file that is always accessible, and its visible tip is
pinned at `pinned`. -/
structure Has (start size : Nat) (hs : List BlockHeader) (pinned : Option Nat) (s : Store) : Prop
    extends s.Holds hs where
  startPoint_eq : s.startPoint = start
  headerSize_eq : s.headerSize = size
  accessible : s.file.Accessible
  pinned_eq : s.pinned = pinned

/-- Once some records have been connected, it is the turn of the others. -/
theorem connectAll_append {height : Nat} {s t : Store}
    {records others : List (Except HeaderError BlockHeader)}
    (h : s.connectAll height records = (.ok .advanced, t)) :
    s.connectAll height (records ++ others) = t.connectAll height others := by
  induction records generalizing s with
  | nil =>
    cases h
    rfl
  | cons record rest ih =>
    cases record with
    | error e => cases h
    | ok x =>
      rw [List.cons_append, Store.connectAll]
      rw [Store.connectAll] at h
      split at h
      · cases h
      · cases h
      · exact ih h

namespace Has

variable {start size : Nat} {hs new : List BlockHeader} {pinned : Option Nat} {s : Store}
  {x : BlockHeader}

/-- A store over a new file holds nothing. -/
theorem of_empty (start size : Nat) :
    (ofFile start { headerSize := size, content := some [] }).Has start size [] none :=
  ⟨⟨⟨Index.Lists.empty start, rfl⟩, chained_nil size, rfl⟩, rfl, rfl, fun _ _ => rfl, rfl⟩

theorem nextHeight (h : s.Has start size hs pinned) : s.nextHeight = start + hs.length := by
  rw [h.nextHeight_eq, h.startPoint_eq]

theorem withSynced (h : s.Has start size hs pinned) (synced : Bool) :
    (s.setSynced synced).Has start size hs pinned :=
  ⟨⟨⟨h.lists, h.localTip_eq⟩, h.chained, h.content_eq⟩, h.startPoint_eq, h.headerSize_eq,
    h.accessible, h.pinned_eq⟩

theorem unpinned (h : s.Has start size hs pinned) : s.clearRecovery.Has start size hs none :=
  ⟨⟨⟨h.lists, h.localTip_eq⟩, h.chained, h.content_eq⟩, h.startPoint_eq, h.headerSize_eq,
    h.accessible, rfl⟩

theorem count (h : s.Has start size hs pinned) : s.file.count = .ok hs.length := by
  rcases HeaderFile.count_cases h.content_eq h.chained.sized with ⟨text, hr, -⟩ | he
  · exact absurd hr h.accessible.not_refuses
  · exact he

/-- The file is loaded as it is. -/
theorem loadAndVerify (h : s.Has start size hs pinned) (hfit : start + hs.length ≤ heightLimit) :
    ∃ t, s.loadAndVerify = (.ok (), t) ∧ t.Has start size hs pinned ∧ t.synced = s.synced := by
  rcases h.loadAndVerify_cases (h.startPoint_eq ▸ hfit) with ⟨text, hr, -⟩ | ⟨ix, he, hold⟩
  · exact absurd hr h.accessible.not_refuses
  · exact ⟨_, he, ⟨hold, h.startPoint_eq, h.headerSize_eq, h.accessible, h.pinned_eq⟩, rfl⟩

/-! ## Growing -/

/-- Headers that continue the chain are written and put into the index. -/
theorem append (h : s.Has start size hs pinned) (hnew : Chained size (hs ++ new))
    (hne : new ≠ []) (hfit : start + (hs ++ new).length ≤ heightLimit) :
    ∃ t u, s.append (concat new) = .ok t ∧
      t.storeRange (concat new) (start + hs.length) = (.ok (), u) ∧
      u.Has start size (hs ++ new) pinned := by
  rw [← h.headerSize_eq] at hnew
  rw [← h.startPoint_eq] at hfit
  rcases h.append_cases (sized_append.1 hnew.sized).2 hne with ⟨text, hr, -⟩ | he
  · exact absurd hr h.accessible.not_refuses
  · obtain ⟨ix, u, rfl, hload, hold⟩ := h.storeRange_written hnew hfit
    rw [h.nextHeight] at hload
    exact ⟨_, _, he, hload, ⟨hold, h.startPoint_eq, h.headerSize_eq, h.accessible, h.pinned_eq⟩⟩

/-- A header that continues the chain is connected. -/
theorem connect (h : s.Has start size hs pinned) (hnew : Chained size (hs ++ [x]))
    (hfit : start + (hs ++ [x]).length ≤ heightLimit) :
    ∃ t, s.connect x = (.ok .advanced, t) ∧ t.Has start size (hs ++ [x]) pinned ∧
      t.synced = s.synced := by
  have hconnects : s.connects x = true := h.connects_iff.2 (linked_snoc_iff.1 hnew.linked).2
  rw [← h.headerSize_eq] at hnew
  rw [← h.startPoint_eq] at hfit
  have hsized := (sized_cons.1 (sized_append.1 hnew.sized).2).1
  rcases h.extend_cases hsized with ⟨text, hr, -⟩ | he
  · exact absurd hr h.accessible.not_refuses
  · obtain ⟨ix, t, ht, he', hold⟩ := h.storeOne_written hnew hfit
    rw [he', ht] at he
    subst ht
    exact ⟨_, by rw [Store.connect, if_pos hconnects, he],
      ⟨hold, h.startPoint_eq, h.headerSize_eq, h.accessible, h.pinned_eq⟩, rfl⟩

/-- A header that is connected is added to the file. -/
theorem changes_of_connect (h : s.Has start size hs pinned) (hnew : Chained size (hs ++ [x]))
    {t : Store} (he : s.connect x = (.ok .advanced, t)) :
    t.file.changes = s.file.changes ++ [.append x.raw] := by
  have hconnects : s.connects x = true := h.connects_iff.2 (linked_snoc_iff.1 hnew.linked).2
  rw [← h.headerSize_eq] at hnew
  rw [Store.connect, if_pos hconnects] at he
  rcases h.extend_cases (sized_cons.1 (sized_append.1 hnew.sized).2).1 with ⟨text, hr, -⟩ | hdone
  · exact absurd hr h.accessible.not_refuses
  · rw [hdone] at he
    obtain rfl := (Prod.mk.inj he).2
    rw [concat_cons, concat_nil, List.append_nil]
    rfl

/-- A header that does not continue the chain is not connected. -/
theorem connect_broken (h : s.Has start size hs pinned) (hx : continues hs x = false) :
    s.connect x = (.ok (.broken s.nextHeight), s) := by
  rw [Store.connect, h.connects_eq_continues, if_neg (by rw [hx]; decide)]

/-- Headers that continue the chain are all connected. -/
theorem connectAll (h : s.Has start size hs pinned) (hnew : Chained size (hs ++ new))
    (hfit : start + (hs ++ new).length ≤ heightLimit) (height : Nat) :
    ∃ t, s.connectAll height (new.map .ok) = (.ok .advanced, t) ∧
      t.Has start size (hs ++ new) pinned ∧ t.synced = s.synced := by
  induction new generalizing s hs with
  | nil =>
    rw [List.append_nil]
    exact ⟨s, rfl, h, rfl⟩
  | cons x rest ih =>
    rw [List.append_cons] at hnew hfit ⊢
    have hx : Chained size (hs ++ [x]) := by
      have := hnew.take (hs ++ [x]).length
      rwa [List.take_left] at this
    obtain ⟨t, he, ht, hsync⟩ := h.connect hx (by
      rw [List.length_append] at hfit
      omega)
    obtain ⟨u, hu, huHas, husync⟩ := ih ht hnew hfit
    exact ⟨u, by rw [List.map_cons, Store.connectAll, he]; exact hu, huHas, husync.trans hsync⟩

/-- Headers are connected up to the first that does not continue the chain. -/
theorem connectAll_broken (h : s.Has start size hs pinned) (hnew : Chained size (hs ++ new))
    (hfit : start + (hs ++ new).length ≤ heightLimit) (hx : continues (hs ++ new) x = false)
    (height : Nat) (rest : List (Except HeaderError BlockHeader)) :
    ∃ t, s.connectAll height (new.map .ok ++ .ok x :: rest) = (.ok (.broken t.nextHeight), t) ∧
      t.Has start size (hs ++ new) pinned ∧ t.synced = s.synced := by
  obtain ⟨t, he, ht, hsync⟩ := h.connectAll hnew hfit height
  refine ⟨t, ?_, ht, hsync⟩
  rw [connectAll_append he, Store.connectAll, ht.connect_broken hx]

/-! ## Going back -/

/-- The topmost headers are taken away, and the visible tip is pinned. -/
theorem rewound (h : s.Has start size hs pinned) (hsync : s.synced = true) {depth : Nat}
    (hpos : 0 < depth) (hle : depth ≤ hs.length) (tip : Nat) :
    ∃ t, s.runAll (rewindOps depth tip) = (.ok (), t) ∧
      t.Has start size (hs.take (hs.length - depth)) (pinAt pinned tip) ∧ t.synced = true := by
  rcases h.runAll_rewindOps_cases hsync hpos hle tip with ⟨text, hr, -⟩ | ⟨ix, t, he, rfl, hold⟩
  · exact absurd hr h.accessible.not_refuses
  · refine ⟨_, he, ⟨⟨⟨hold.lists, hold.localTip_eq⟩, hold.chained, hold.content_eq⟩,
      h.startPoint_eq, h.headerSize_eq, h.accessible, ?_⟩, hsync⟩
    rw [← h.pinned_eq]
    rfl

/-- For this the file is shortened, once. -/
theorem changes_of_rewindOps (h : s.Has start size hs pinned) (hsync : s.synced = true)
    {depth : Nat} (hpos : 0 < depth) (hle : depth ≤ hs.length) {tip : Nat} {t : Store}
    (he : s.runAll (rewindOps depth tip) = (.ok (), t)) :
    ∃ length, t.file.changes = s.file.changes ++ [.shorten length] := by
  rcases h.runAll_rewindOps_cases hsync hpos hle tip with ⟨text, hr, -⟩ | ⟨ix, u, hdone, rfl, -⟩
  · exact absurd hr h.accessible.not_refuses
  · rw [hdone] at he
    obtain rfl := (Prod.mk.inj he).2
    exact ⟨_, rfl⟩

end Has
end Store
end HeaderFollower
