/-
# Headers found by their hash

An index finds headers by height and heights by hash, and an edit changes both. `Index.Sound` says
that every height that is found for a hash holds a header of this hash, and `Index.Complete` that
every header is found. Soundness survives every edit (`Index.Edit.sound`). Completeness does not: a
header that is put at a second height takes the entry of the first one with it, and when either is
replaced or removed the entry is gone. It survives as long as no two heights hold headers of one hash
(`Index.Edit.complete`).

`Store.course` lists the stores that operations pass through, one for each record that is put in
place, so that `Store.heights_found` can speak of every moment of a history.
-/

import HeaderFollower.Proofs.Network
import HeaderFollower.Store.Op

namespace HeaderFollower
namespace Index

variable {ix jx : Index} {height : Nat} {h : BlockHeader}

/-! ## The two ways to look something up -/

/-- Every height that is found for a hash holds a header of this hash. -/
def Sound (ix : Index) : Prop :=
  ∀ hash height, ix.height? hash = some height →
    ∃ h, ix.header? height = some h ∧ h.hash = hash

/-- Every header is found by its hash. -/
def Complete (ix : Index) : Prop :=
  ∀ height h, ix.header? height = some h → ix.height? h.hash = some height

/-- No two heights hold headers of one hash. -/
def Distinct (ix : Index) : Prop :=
  ∀ low high x y, ix.header? low = some x → ix.header? high = some y → x.hash = y.hash → low = high

theorem sound_empty : empty.Sound := by
  intro hash height hfound
  cases (height?_empty hash).symm.trans hfound

theorem complete_empty : empty.Complete := by
  intro height h hheld
  cases (header?_empty height).symm.trans hheld

/-- A header that is put in place is found; the one that it replaces no longer is. -/
theorem height?_insert (ix : Index) (height : Nat) (h : BlockHeader) (hash : Hash256) :
    (ix.insert height h).height? hash =
      if h.hash = hash then some height
      else if (ix.header? height).map BlockHeader.hash = some hash then none
      else ix.height? hash := by
  cases hold : ix.header? height with
  | none => simp [insert, hold, height?, Std.ExtHashMap.getElem?_insert]
  | some old =>
    simp [insert, hold, height?, Std.ExtHashMap.getElem?_insert, Std.ExtHashMap.getElem?_erase]

theorem Sound.insert (hsound : ix.Sound) (height : Nat) (h : BlockHeader) :
    (ix.insert height h).Sound := by
  intro hash found hfound
  rw [height?_insert] at hfound
  rw [header?_insert]
  split at hfound
  · next hnew =>
    obtain rfl := Option.some.inj hfound
    exact ⟨h, if_pos rfl, hnew⟩
  · split at hfound
    · cases hfound
    · next hreplaced =>
      obtain ⟨x, hx, hhash⟩ := hsound hash found hfound
      have hne : height ≠ found := by
        rintro rfl
        rw [hx, Option.map_some, hhash] at hreplaced
        exact hreplaced rfl
      exact ⟨x, (if_neg hne).trans hx, hhash⟩

/-- What is removed was there. -/
theorem exists_header?_of_erase? (he : ix.erase? height = some jx) :
    ∃ h, ix.header? height = some h := by
  refine Option.ne_none_iff_exists'.1 fun hnone => ?_
  cases (erase?_eq_none_iff.2 hnone).symm.trans he

theorem Sound.erase (hsound : ix.Sound) (he : ix.erase? height = some jx) : jx.Sound := by
  intro hash found hfound
  obtain ⟨h, hheld⟩ := exists_header?_of_erase? he
  rw [height?_erase? hheld he] at hfound
  split at hfound
  · cases hfound
  · next hother =>
    obtain ⟨x, hx, hhash⟩ := hsound hash found hfound
    have hne : height ≠ found := by
      rintro rfl
      obtain rfl := Option.some.inj (hheld.symm.trans hx)
      exact hother hhash
    exact ⟨x, by rw [header?_erase? he, if_neg hne, hx], hhash⟩

/-- Headers of two different heights have different hashes. -/
theorem Distinct.hash_ne (hdistinct : ix.Distinct) {low high : Nat} {x y : BlockHeader}
    (hx : ix.header? low = some x) (hy : ix.header? high = some y) (hne : low ≠ high) :
    x.hash ≠ y.hash := fun hhash => hne (hdistinct low high x y hx hy hhash)

theorem Complete.insert (hcomplete : ix.Complete) (hbefore : ix.Distinct)
    (hafter : (ix.insert height h).Distinct) : (ix.insert height h).Complete := by
  intro k x hx
  have hput : (ix.insert height h).header? height = some h := by rw [header?_insert, if_pos rfl]
  rw [height?_insert]
  by_cases hat : height = k
  · subst hat
    obtain rfl := Option.some.inj (hput.symm.trans hx)
    exact if_pos rfl
  · have hold : ix.header? k = some x := by rwa [header?_insert, if_neg hat] at hx
    rw [if_neg (hafter.hash_ne hput hx hat), if_neg, hcomplete k x hold]
    intro hreplaced
    obtain ⟨old, hheld, hhash⟩ := Option.map_eq_some_iff.1 hreplaced
    exact hbefore.hash_ne hheld hold hat hhash

theorem Complete.erase (hcomplete : ix.Complete) (hbefore : ix.Distinct)
    (he : ix.erase? height = some jx) : jx.Complete := by
  intro k x hx
  rw [header?_erase? he] at hx
  split at hx
  · cases hx
  · next hat =>
    obtain ⟨h, hheld⟩ := exists_header?_of_erase? he
    rw [height?_erase? hheld he, if_neg (hbefore.hash_ne hheld hx hat), hcomplete k x hx]

/-! ## Edits -/

/-- What one operation does to an index at a time. -/
inductive Edit (ix : Index) : Index → Prop where
  | keep : Edit ix ix
  | insert (height : Nat) (h : BlockHeader) : Edit ix (ix.insert height h)
  | erase {jx : Index} {height : Nat} (he : ix.erase? height = some jx) : Edit ix jx
  | clear : Edit ix empty

/-- **An edit leaves a sound index sound**, whatever it holds. -/
theorem Edit.sound (hedit : ix.Edit jx) (hsound : ix.Sound) : jx.Sound := by
  cases hedit with
  | keep => exact hsound
  | insert height h => exact hsound.insert height h
  | erase he => exact hsound.erase he
  | clear => exact sound_empty

/-- **An edit leaves a complete index complete**, if the hashes are distinct before and after it. -/
theorem Edit.complete (hedit : ix.Edit jx) (hbefore : ix.Distinct) (hafter : jx.Distinct)
    (hcomplete : ix.Complete) : jx.Complete := by
  cases hedit with
  | keep => exact hcomplete
  | insert height h => exact hcomplete.insert hbefore hafter
  | erase he => exact hcomplete.erase hbefore he
  | clear => exact complete_empty

end Index

namespace Store

/-! ## The moments of a history -/

/-- The stores after each record that is put in place. -/
def putMoments (s : Store) (height : Nat) : List (Except HeaderError BlockHeader) → List Store
  | [] => []
  | .error _ :: _ => []
  | .ok h :: rest => s.put height h :: (s.put height h).putMoments (height + 1) rest

/-- The stores that an operation passes through, the last of which it leaves behind. -/
def moments (s : Store) : StoreOp → List Store
  | .storeRange raw start => s.putMoments start (BlockHeader.split s.headerSize raw)
  | .rebuild =>
    match s.file.readAll with
    | .error _ => []
    | .ok raw => s.reset :: s.reset.putMoments s.startPoint (BlockHeader.split s.headerSize raw)
  | op => [(s.run op).2]

/-- The stores that operations pass through, one operation after the other. -/
def course (s : Store) : List StoreOp → List Store
  | [] => []
  | op :: rest => s.moments op ++ (s.run op).2.course rest

variable {P Q : Index → Prop} {s : Store} {op : StoreOp} {ops : List StoreOp}

/-- `P` survives the edits between indexes that satisfy `Q`. -/
def Survives (P Q : Index → Prop) : Prop :=
  ∀ ix jx : Index, ix.Edit jx → Q ix → Q jx → P ix → P jx

theorem putAll_survives (hkeep : Survives P Q) {height : Nat}
    {rs : List (Except HeaderError BlockHeader)} (hq : Q s.index) (hp : P s.index)
    (hall : ∀ t ∈ s.putMoments height rs, Q t.index) :
    Q (s.putAll height rs).2.index ∧ P (s.putAll height rs).2.index := by
  induction rs generalizing s height with
  | nil => exact ⟨hq, hp⟩
  | cons r rest ih =>
    cases r with
    | error e => exact ⟨hq, hp⟩
    | ok h =>
      rw [putMoments, List.forall_mem_cons] at hall
      have hput : s.index.Edit (s.put height h).index := .insert height h
      exact ih hall.1 (hkeep _ _ hput hq hall.1 hp) hall.2

theorem index_of_append {t : Store} {raw : List UInt8} (h : s.append raw = .ok t) :
    t.index = s.index := by
  rw [append] at h
  split at h
  · cases h
  · rw [← Except.ok.inj h]

theorem edit_orSame {r : Except ChainError Store} (h : ∀ t, r = .ok t → s.index.Edit t.index) :
    s.index.Edit (s.orSame r).2.index := by
  cases r with
  | error e => exact .keep
  | ok t => exact h t rfl

theorem edit_of_extend {t : Store} {x : BlockHeader} (h : s.extend x = .ok t) :
    s.index.Edit t.index := by
  rw [extend] at h
  split at h
  · cases h
  · next u hu =>
    rw [← Except.ok.inj h, storeOne, ← index_of_append hu]
    exact .insert _ _

theorem edit_of_truncateFile {t : Store} {n : Nat} (h : s.truncateFile n = .ok t) :
    s.index.Edit t.index := by
  rw [truncateFile] at h
  split at h
  · split at h
    · cases h
    · rw [← Except.ok.inj h]
      exact .keep
  · cases h

theorem edit_of_removeTip {t : Store} (h : s.removeTip = .ok t) : s.index.Edit t.index := by
  rw [removeTip] at h
  split at h
  · cases h
  · split at h
    · cases h
    · next ix he =>
      rw [← Except.ok.inj h]
      exact .erase he

/-- The index after an operation, if all that it passed through satisfies `Q`. -/
theorem run_survives (hkeep : Survives P Q) (hq : Q s.index) (hp : P s.index)
    (hall : ∀ t ∈ s.moments op, Q t.index) :
    Q (s.run op).2.index ∧ P (s.run op).2.index := by
  -- But for loading records, an operation is one edit.
  have hedit (hone : s.moments op = [(s.run op).2]) (h : s.index.Edit (s.run op).2.index) :
      Q (s.run op).2.index ∧ P (s.run op).2.index := by
    rw [hone, List.forall_mem_singleton] at hall
    exact ⟨hall, hkeep _ _ h hq hall hp⟩
  cases op with
  | append raw =>
    exact hedit rfl (edit_orSame fun t ht => index_of_append ht ▸ .keep)
  | storeRange raw start => exact putAll_survives hkeep hq hp hall
  | storeOne h => exact hedit rfl (.insert _ _)
  | extend h => exact hedit rfl (edit_orSame fun _ => edit_of_extend)
  | truncateFile n => exact hedit rfl (edit_orSame fun _ => edit_of_truncateFile)
  | removeTip => exact hedit rfl (edit_orSame fun _ => edit_of_removeTip)
  | reset => exact hedit rfl .clear
  | rebuild =>
    rw [run, rebuild]
    rw [moments] at hall
    split
    · exact ⟨hq, hp⟩
    · next raw hraw =>
      rw [hraw] at hall
      obtain ⟨hreset, hrest⟩ := List.forall_mem_cons.1 hall
      exact putAll_survives hkeep hreset (hkeep _ _ .clear hq hreset hp) hrest
  | beginRecovery height => exact hedit rfl .keep
  | clearRecovery => exact hedit rfl .keep
  | setSynced synced => exact hedit rfl .keep

/-- The index after a history, if all that it passed through satisfies `Q`. -/
theorem history_survives (hkeep : Survives P Q) (hq : Q s.index) (hp : P s.index)
    (hall : ∀ t ∈ s.course ops, Q t.index) : P (s.history ops).index := by
  induction ops generalizing s with
  | nil => exact hp
  | cons op rest ih =>
    rw [course, List.forall_mem_append] at hall
    obtain ⟨hq', hp'⟩ := run_survives hkeep hq hp hall.1
    exact ih hq' hp' hall.2

theorem header_eq_ok_iff {height : Nat} {h : BlockHeader} :
    s.header height = .ok h ↔ s.index.header? height = some h := by
  rw [header]
  split <;> simp_all

/-- **Headers are found by their hash.** After any operations, failing ones included, a height that is
found for a hash holds a header of this hash. If at no moment two heights held headers of one hash,
every header that is held is found. -/
theorem heights_found (startPoint : Nat) (file : HeaderFile) (ops : List StoreOp) :
    let s := (ofFile startPoint file).history ops
    (∀ hash height, s.heightOf? hash = some height →
      ∃ h, s.header height = .ok h ∧ h.hash = hash) ∧
    ((∀ t ∈ (ofFile startPoint file).course ops, t.index.Distinct) →
      ∀ height h, s.header height = .ok h → s.heightOf? h.hash = some height) := by
  have hdistinct : Index.empty.Distinct := by
    intro low high x y hx
    cases (Index.header?_empty low).symm.trans hx
  constructor
  · intro hash height hfound
    have hsound : ((ofFile startPoint file).history ops).index.Sound :=
      history_survives (Q := fun _ => True) (fun _ _ hedit _ _ => hedit.sound) trivial
        Index.sound_empty fun _ _ => trivial
    obtain ⟨h, hheld, hhash⟩ := hsound hash height hfound
    exact ⟨h, header_eq_ok_iff.2 hheld, hhash⟩
  · intro hall height h hheld
    have hcomplete : ((ofFile startPoint file).history ops).index.Complete :=
      history_survives (fun _ _ hedit => hedit.complete) hdistinct Index.complete_empty hall
    exact hcomplete height h (header_eq_ok_iff.1 hheld)

/-- Two headers with different hashes, one above the other, are both found. -/
theorem heights_found_twoGenesis :
    let s := ofFile 7 { headerSize := 80, content := some [] }
    let ops := [.storeOne Network.mainnet.genesis, .storeOne Network.testnet.genesis]
    (∀ t ∈ s.course ops, t.index.Distinct) ∧
      (s.history ops).heightOf? Network.testnet.genesis.hash = some 8 := by
  have hhash : Network.mainnet.genesis.hash ≠ Network.testnet.genesis.hash := fun h => by
    cases hash_genesis_injective h
  have hall : ∀ t ∈ (ofFile 7 { headerSize := 80, content := some [] }).course
      [.storeOne Network.mainnet.genesis, .storeOne Network.testnet.genesis],
      t.index.Distinct := by
    have hfirst : (Index.empty.insert 7 Network.mainnet.genesis).Distinct := by
      intro low high x y hx hy _
      rw [Index.header?_insert, Index.header?_empty] at hx hy
      split at hx <;> split at hy <;> simp_all
    have hsecond : ((Index.empty.insert 7 Network.mainnet.genesis).insert 8
        Network.testnet.genesis).Distinct := by
      intro low high x y hx hy heq
      rw [Index.header?_insert, Index.header?_insert, Index.header?_empty] at hx hy
      grind
    exact List.forall_mem_cons.2 ⟨hfirst, List.forall_mem_singleton.2 hsecond⟩
  refine ⟨hall, (heights_found 7 _ _).2 hall 8 _ (header_eq_ok_iff.2 ?_)⟩
  exact (Index.header?_insert _ _ _ _).trans (if_pos rfl)

end Store
end HeaderFollower
