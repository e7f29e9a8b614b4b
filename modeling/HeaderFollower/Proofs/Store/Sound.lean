/-
# The history of a store

`Store.Sound` says of a store, opened on a file with the bytes `origin`, that it is good and that
the file has held linked headers at every moment since: after any number of its changes. Heights are
64-bit words, the greatest of which stands for no header; `Store.HeightsFit` says that no header has
ever lain so high.

`Store.Keeps` is what a piece of the program does to a sound store, whatever the server sends and
whatever the system refuses: it leaves a sound store behind, and finds no broken link. Pieces that
do so can be put behind each other (`Keeps.trans`).
-/

import HeaderFollower.Proofs.Store.Held

namespace HeaderFollower

open BlockHeader FileChange

namespace Store

/-! ## Later states of a store -/

/-- `t` is a later state of the store `s`. -/
structure Precedes (s t : Store) : Prop where
  startPoint_eq : t.startPoint = s.startPoint
  headerSize_eq : t.headerSize = s.headerSize
  changes_prefix : s.file.changes <+: t.file.changes

variable {s t u : Store}

theorem Precedes.refl (s : Store) : s.Precedes s := ⟨rfl, rfl, List.prefix_rfl⟩

theorem Precedes.of_file_eq (hstart : t.startPoint = s.startPoint) (hfile : t.file = s.file) :
    s.Precedes t :=
  ⟨hstart, congrArg HeaderFile.headerSize hfile, hfile ▸ List.prefix_rfl⟩

theorem Precedes.trans (h : s.Precedes t) (k : t.Precedes u) : s.Precedes u :=
  ⟨k.startPoint_eq.trans h.startPoint_eq, k.headerSize_eq.trans h.headerSize_eq,
    h.changes_prefix.trans k.changes_prefix⟩

theorem precedes_putAll (s : Store) (height : Nat) (rs : List (Except HeaderError BlockHeader)) :
    s.Precedes (s.putAll height rs).2 := by
  induction rs generalizing s height with
  | nil => exact .refl s
  | cons r rest ih =>
    cases r with
    | error e => exact .refl s
    | ok h =>
      have hput : s.Precedes (s.put height h) := .of_file_eq rfl rfl
      rw [putAll]
      exact hput.trans (ih (s.put height h) (height + 1))

theorem precedes_of_append {raw : List UInt8} (h : s.append raw = .ok t) : s.Precedes t := by
  unfold append HeaderFile.append at h
  split at h
  · simp at h
  · next f hf =>
    obtain rfl := Except.ok.inj h
    split at hf
    · simp at hf
    · split at hf
      · obtain rfl := Except.ok.inj hf
        exact .refl s
      · split at hf
        · simp at hf
        · obtain rfl := Except.ok.inj hf
          exact ⟨rfl, rfl, List.prefix_append _ _⟩

theorem precedes_of_truncateFile {n : Nat} (h : s.truncateFile n = .ok t) : s.Precedes t := by
  unfold truncateFile HeaderFile.dropLast at h
  split at h
  · split at h
    · simp at h
    · next f hf =>
      obtain rfl := Except.ok.inj h
      split at hf
      · simp at hf
      · split at hf
        · simp at hf
        · split at hf
          · simp at hf
          · obtain rfl := Except.ok.inj hf
            exact ⟨rfl, rfl, List.prefix_append _ _⟩
  · simp at h

theorem precedes_of_removeTip (h : s.removeTip = .ok t) : s.Precedes t := by
  unfold removeTip at h
  split at h
  · simp at h
  · split at h
    · simp at h
    · obtain rfl := Except.ok.inj h
      exact .of_file_eq rfl rfl

theorem precedes_of_extend {x : BlockHeader} (h : s.extend x = .ok t) : s.Precedes t := by
  unfold extend at h
  split at h
  · simp at h
  · next u hu =>
    obtain rfl := Except.ok.inj h
    exact (precedes_of_append hu).trans (.of_file_eq rfl rfl)

theorem precedes_orSame {r : Except ChainError Store} (h : ∀ t, r = .ok t → s.Precedes t) :
    s.Precedes (s.orSame r).2 := by
  cases r with
  | error e => exact .refl s
  | ok t => exact h t rfl

theorem precedes_rebuild (s : Store) : s.Precedes s.rebuild.2 := by
  rw [rebuild]
  split
  · exact .refl s
  · have hreset : s.Precedes s.reset := .of_file_eq rfl rfl
    exact hreset.trans (precedes_putAll s.reset _ _)

/-- An operation leads to a later state, whether it fails or not. -/
theorem precedes_run (s : Store) (op : StoreOp) : s.Precedes (s.run op).2 := by
  cases op with
  | append raw => exact precedes_orSame fun _ => precedes_of_append
  | storeRange raw start => exact precedes_putAll s _ _
  | storeOne h => exact .of_file_eq rfl rfl
  | extend h => exact precedes_orSame fun _ => precedes_of_extend
  | truncateFile n => exact precedes_orSame fun _ => precedes_of_truncateFile
  | removeTip => exact precedes_orSame fun _ => precedes_of_removeTip
  | reset => exact .of_file_eq rfl rfl
  | rebuild => exact precedes_rebuild s
  | beginRecovery height => exact .of_file_eq rfl rfl
  | clearRecovery => exact .of_file_eq rfl rfl
  | setSynced synced => exact .of_file_eq rfl rfl

theorem precedes_runAll (s : Store) (ops : List StoreOp) : s.Precedes (s.runAll ops).2 := by
  induction ops generalizing s with
  | nil => exact .refl s
  | cons op rest ih =>
    have hop := precedes_run s op
    rw [runAll]
    rcases hr : s.run op with ⟨r, t⟩
    rw [hr] at hop
    cases r with
    | error e => exact hop
    | ok => exact hop.trans (ih t)

theorem precedes_loadAndVerify (s : Store) : s.Precedes s.loadAndVerify.2 := by
  have h := precedes_rebuild s
  rw [loadAndVerify]
  rcases hr : s.rebuild with ⟨r, t⟩
  rw [hr] at h
  cases r with
  | error e => exact h
  | ok => exact h

/-! ## Sound stores -/

/-- At no moment since the file held `origin` has a header lain at the height limit. No file is long
enough to break this, see `heightsFit_of_lengths`. -/
def HeightsFit (s : Store) (origin : List UInt8) : Prop :=
  ∀ n, s.startPoint + (replay origin (s.file.changes.take n)).length / s.headerSize ≤ heightLimit

/-- The store is good, and its file has held linked headers at every moment since it held
`origin`. -/
structure Sound (origin : List UInt8) (s : Store) : Prop where
  good : s.Good
  content_eq : s.file.content = some (replay origin s.file.changes)
  chained : ∀ n, ∃ hs, Chained s.headerSize hs ∧ replay origin (s.file.changes.take n) = concat hs

variable {origin : List UInt8} {hs new : List BlockHeader}

theorem HeightsFit.of_precedes (h : s.Precedes t) (hfit : t.HeightsFit origin) :
    s.HeightsFit origin := by
  intro n
  obtain ⟨later, hlater⟩ := h.changes_prefix
  have := hfit (min n s.file.changes.length)
  rw [← hlater, List.take_append_of_le_length (Nat.min_le_right _ _), h.startPoint_eq,
    h.headerSize_eq] at this
  rwa [List.take_eq_take_min]

theorem Sound.of_file_eq (h : s.Sound origin) (hgood : t.Good) (hfile : t.file = s.file) :
    t.Sound origin := by
  refine ⟨hgood, hfile ▸ h.content_eq, fun n => ?_⟩
  rw [hfile, headerSize, hfile]
  exact h.chained n

/-- A change of the file that leaves linked headers behind keeps a store sound. -/
theorem Sound.of_change (h : s.Sound origin) {c : FileChange} {content : List UInt8}
    (hold : t.Holds new) (hfile : t.file = s.file.change content c)
    (hcontent : s.file.content = some content) : t.Sound origin := by
  have hlog : t.file.changes = s.file.changes ++ [c] := by rw [hfile]; rfl
  have hreplay : replay origin t.file.changes = concat new := by
    have hbefore : replay origin s.file.changes = content :=
      Option.some.inj (h.content_eq.symm.trans hcontent)
    have hafter : some (c.apply content) = some (concat new) := by
      rw [← hold.content_eq, hfile]
      rfl
    rw [hlog, replay_snoc, hbefore]
    exact Option.some.inj hafter
  refine ⟨⟨new, hold⟩, by rw [hreplay, hold.content_eq], fun n => ?_⟩
  by_cases hn : n ≤ s.file.changes.length
  · obtain ⟨hs, hch, he⟩ := h.chained n
    refine ⟨hs, ?_, ?_⟩
    · rw [headerSize, hfile]
      exact hch
    · rw [hlog, List.take_append_of_le_length hn, he]
  · refine ⟨new, hold.chained, ?_⟩
    rw [List.take_of_length_le (by rw [hlog, List.length_append, List.length_singleton]; omega)]
    exact hreplay

/-- Headers that the file has held at some moment lie below the height limit. -/
theorem HeightsFit.length_le (hfit : s.HeightsFit origin) {n : Nat}
    (hn : replay origin (s.file.changes.take n) = concat hs) (hs_sized : Sized s.headerSize hs) :
    s.startPoint + hs.length ≤ heightLimit := by
  have h := hfit n
  rw [hn, hs_sized.length_concat] at h
  cases hs with
  | nil => exact Nat.le_trans (Nat.add_le_add_left (Nat.zero_le _) _) h
  | cons x rest =>
    rwa [Nat.mul_div_cancel _ (pos_of_sized_cons hs_sized)] at h

/-- A start point that a configuration can state, which is a signed 64-bit number, and a file whose
length is a 64-bit word, keep all headers below the height limit. -/
theorem heightsFit_of_lengths (hstart : s.startPoint ≤ 0x7fffffffffffffff)
    (hsize : baseHeaderSize ≤ s.headerSize)
    (hlen : ∀ n, (replay origin (s.file.changes.take n)).length ≤ 0xffffffffffffffff) :
    s.HeightsFit origin := by
  intro n
  have hn := hlen n
  have hdiv : (replay origin (s.file.changes.take n)).length / s.headerSize ≤
      (replay origin (s.file.changes.take n)).length / 80 := Nat.div_le_div_left hsize (by decide)
  rw [heightLimit]
  omega

theorem heightsFit_of_added (hstart : s.startPoint ≤ 0x7fffffffffffffff)
    (hsize : baseHeaderSize ≤ s.headerSize)
    (hadded : (origin ++ s.file.changes.flatMap added).length ≤ 0xffffffffffffffff) :
    s.HeightsFit origin :=
  heightsFit_of_lengths hstart hsize fun n =>
    Nat.le_trans (length_replay_take_le origin s.file.changes n) hadded

theorem Sound.fits (h : s.Sound origin) (hold : s.Holds hs) (hfit : s.HeightsFit origin) :
    s.startPoint + hs.length ≤ heightLimit := by
  refine hfit.length_le (n := s.file.changes.length) ?_ hold.chained.sized
  rw [List.take_length, Option.some.inj (h.content_eq.symm.trans hold.content_eq)]

/-- Headers that a change of the file brings lie below the height limit, too. -/
theorem Sound.fits_change (h : s.Sound origin) (hold : s.Holds hs) {c : FileChange}
    (hc : c.apply (concat hs) = concat new) (hnew : Sized s.headerSize new)
    (hfit : (s.afterChange (concat hs) c).HeightsFit origin) :
    s.startPoint + new.length ≤ heightLimit := by
  refine hfit.length_le (n := (s.file.changes ++ [c]).length) ?_ hnew
  have hbefore : replay origin s.file.changes = concat hs :=
    Option.some.inj (h.content_eq.symm.trans hold.content_eq)
  rw [← hc, ← hbefore, ← replay_snoc]
  exact congrArg _ (List.take_length)

/-! ## Steps that keep a store sound -/

/-- From `s` the program goes on to `t`, with an error or without: a sound store stays sound, and
no link of a sound store is found broken. -/
structure Keeps (origin : List UInt8) (s t : Store) (e : Option SyncError) : Prop where
  precedes : s.Precedes t
  sound : t.HeightsFit origin → s.Sound origin →
    t.Sound origin ∧ ∀ height, e ≠ some (.chain (.verifyFailed height))

theorem Keeps.refl (s : Store) {e : Option SyncError}
    (he : ∀ height, e ≠ some (.chain (.verifyFailed height))) : Keeps origin s s e :=
  ⟨.refl s, fun _ h => ⟨h, he⟩⟩

theorem Keeps.trans {e₁ e₂ : Option SyncError} (h : Keeps origin s t e₁)
    (k : Keeps origin t u e₂) : Keeps origin s u e₂ :=
  ⟨h.precedes.trans k.precedes,
    fun hfit hs => k.sound hfit (h.sound (.of_precedes k.precedes hfit) hs).1⟩

/-- The flags and the pin have no part in whether a store is sound. -/
theorem keeps_of_flags (s : Store) (synced : Bool) (pinned : Option Nat) :
    Keeps origin s { s with synced, pinned } none := by
  refine ⟨.of_file_eq rfl rfl, fun _ h => ⟨?_, fun _ e => by cases e⟩⟩
  obtain ⟨hs, hold⟩ := h.good
  exact h.of_file_eq ⟨hs, ⟨hold.lists, hold.localTip_eq⟩, hold.chained, hold.content_eq⟩ rfl

/-- Nor has what the system refuses from now on. -/
theorem keeps_of_refusal (s : Store) (refusal? : FileAccess → Nat → Option String) :
    Keeps origin s { s with file := { s.file with refusal? } } none := by
  refine ⟨⟨rfl, rfl, List.prefix_rfl⟩, fun _ h => ⟨?_, fun _ e => by cases e⟩⟩
  obtain ⟨hs, hold⟩ := h.good
  exact ⟨⟨hs, ⟨hold.lists, hold.localTip_eq⟩, hold.chained, hold.content_eq⟩, h.content_eq,
    h.chained⟩

end Store
end HeaderFollower
