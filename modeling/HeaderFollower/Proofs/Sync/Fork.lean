/-
# Where a reorganized chain is joined

A follower holds the chain `L`, and its server has the longer chain `S`. It goes back by `R` headers
at a time until what `S` has above them continues the headers that it keeps (`Joins`), or until it
gives up; `Lands` says so step by step.

If different headers have different hashes, the chains join where they are shared
(`Fork.joins_iff`). Then it depends on numbers only where a follower ends: `lands_joined` and
`lands_stuck` state it in closed form.
-/

import HeaderFollower.Proofs.Bytes.Sha256
import HeaderFollower.Proofs.Store.Smooth

namespace HeaderFollower

open BlockHeader Store

/-! ## Two chains -/

/-- The number of headers at the front that two chains share. -/
def sharedLength : List BlockHeader → List BlockHeader → Nat
  | x :: xs, y :: ys => if x = y then sharedLength xs ys + 1 else 0
  | _, _ => 0

theorem take_sharedLength (L S : List BlockHeader) :
    L.take (sharedLength L S) = S.take (sharedLength L S) := by
  fun_induction sharedLength L S with
  | case1 x xs ys ih => rw [List.take_succ_cons, List.take_succ_cons, ih]
  | case2 x xs y ys hne => rfl
  | case3 L S h => rfl

/-- What is shared is no longer than `sharedLength` says. -/
theorem le_sharedLength {L S : List BlockHeader} {m : Nat} (hL : m ≤ L.length) (hS : m ≤ S.length)
    (h : L.take m = S.take m) : m ≤ sharedLength L S := by
  induction m generalizing L S with
  | zero => exact Nat.zero_le _
  | succ m ih =>
    obtain ⟨x, xs, rfl⟩ := List.exists_cons_of_length_pos (Nat.lt_of_lt_of_le m.succ_pos hL)
    obtain ⟨y, ys, rfl⟩ := List.exists_cons_of_length_pos (Nat.lt_of_lt_of_le m.succ_pos hS)
    rw [List.take_succ_cons, List.take_succ_cons, List.cons.injEq] at h
    rw [sharedLength, if_pos h.1]
    exact Nat.succ_le_succ (ih (Nat.le_of_succ_le_succ hL) (Nat.le_of_succ_le_succ hS) h.2)

theorem take_eq_of_le_sharedLength {L S : List BlockHeader} {m : Nat} (hm : m ≤ sharedLength L S) :
    L.take m = S.take m := by
  have := congrArg (List.take m) (take_sharedLength L S)
  rwa [List.take_take, List.take_take, Nat.min_eq_left hm] at this

/-- Different headers of two chains have different hashes. -/
def HashesTell (L S : List BlockHeader) : Prop :=
  ∀ a ∈ L ++ S, ∀ b ∈ L ++ S, a.hash = b.hash → a = b

/-- Below a common header two linked chains are the same. -/
theorem take_eq_of_getElem_eq {L S : List BlockHeader} (hL : Linked L) (hS : Linked S)
    (hhash : HashesTell L S) {i : Nat} (hiL : i < L.length) (hiS : i < S.length)
    (h : L[i] = S[i]) : L.take (i + 1) = S.take (i + 1) := by
  induction i with
  | zero =>
    rw [List.take_succ_eq_append_getElem hiL, List.take_succ_eq_append_getElem hiS, h]
    rfl
  | succ i ih =>
    have hbelow : L[i] = S[i] := by
      refine hhash _ (List.mem_append_left _ (List.getElem_mem _)) _
        (List.mem_append_right _ (List.getElem_mem _)) ?_
      rw [← hL.prev_eq hiL, ← hS.prev_eq hiS, h]
    rw [List.take_succ_eq_append_getElem hiL, List.take_succ_eq_append_getElem hiS, h,
      ih (by omega) (by omega) hbelow]

/-- The stored chain `L` and the longer chain `S` of a server. -/
structure Fork (size : Nat) (L S : List BlockHeader) : Prop where
  chained_left : Chained size L
  chained_right : Chained size S
  longer : L.length < S.length

/-- The first `m` headers of `L` are continued by what `S` has above them. -/
def Joins (L S : List BlockHeader) (m : Nat) : Prop := Linked (L.take m ++ S.drop m)

theorem joins_zero {L S : List BlockHeader} (hS : Linked S) : Joins L S 0 := hS

namespace Fork

variable {size m : Nat} {L S : List BlockHeader}

theorem chained_of_joins (h : Fork size L S) (hjoins : Joins L S m) :
    Chained size (L.take m ++ S.drop m) :=
  ⟨sized_append.2 ⟨h.chained_left.sized.take m, h.chained_right.sized.drop m⟩, hjoins⟩

theorem length_joined (h : Fork size L S) (hm : m ≤ L.length) :
    (L.take m ++ S.drop m).length = S.length := by
  have := h.longer
  rw [List.length_append, List.length_take, List.length_drop]
  omega

/-- Where the chains join, all that `S` has above is reached. -/
theorem reaches_of_joins (h : Fork size L S) (hm : m ≤ L.length) (hjoins : Joins L S m) :
    Reaches size S m (L.take m ++ S.drop m) := by
  have hlen : (L.take m).length = m := List.length_take_of_le hm
  refine ⟨h.chained_of_joins hjoins, ?_, ?_, ?_⟩
  · rw [h.length_joined hm]
    exact Nat.le_of_lt (Nat.lt_of_le_of_lt hm h.longer)
  · rw [List.drop_left' hlen]
  · rw [h.length_joined hm, List.getElem?_eq_none (Nat.le_refl _)]
    rintro above ⟨⟩

/-- Where they do not join, nothing above is. -/
theorem reaches_of_not_joins (h : Fork size L S) (hm : m ≤ L.length) (hparts : ¬ Joins L S m) :
    Reaches size S m (L.take m) := by
  have hlen : (L.take m).length = m := List.length_take_of_le hm
  refine ⟨h.chained_left.take m, hlen.ge, ?_, fun above habove => ?_⟩
  · rw [List.drop_eq_nil_of_le hlen.le]
    exact List.nil_prefix
  · rw [hlen, ← List.head?_drop] at habove
    refine Bool.eq_false_iff.2 fun hc => hparts ?_
    refine linked_append_iff.2 ⟨h.chained_left.linked.take m, h.chained_right.linked.drop m, ?_⟩
    intro below hbelow first hfirst
    obtain rfl : first = above := Option.mem_unique hfirst habove
    exact continues_iff.1 hc below hbelow

/-- **Chains whose different headers have different hashes join where they are shared.** -/
theorem joins_iff (h : Fork size L S) (hhash : HashesTell L S) (hm : m ≤ L.length) :
    Joins L S m ↔ m ≤ sharedLength L S := by
  have hlonger := h.longer
  constructor
  · intro hjoins
    rcases Nat.eq_zero_or_pos m with rfl | hpos
    · exact Nat.zero_le _
    · obtain ⟨i, rfl⟩ : ∃ i, m = i + 1 := ⟨m - 1, by omega⟩
      have hlink : S[i + 1].linksTo L[i] := by
        refine (linked_append_iff.1 hjoins).2.2 L[i] ?_ S[i + 1] ?_
        · rw [List.take_succ_eq_append_getElem (by omega), List.getLast?_concat]
          rfl
        · rw [List.drop_eq_getElem_cons (show i + 1 < S.length by omega)]
          rfl
      have hprev : S[i + 1].prev = L[i].hash := eq_of_beq hlink
      have hsame : L[i] = S[i] := by
        refine hhash _ (List.mem_append_left _ (List.getElem_mem _)) _
          (List.mem_append_right _ (List.getElem_mem _)) ?_
        rw [← hprev, h.chained_right.linked.prev_eq (by omega)]
      exact le_sharedLength hm (by omega) (take_eq_of_getElem_eq h.chained_left.linked
        h.chained_right.linked hhash (by omega) (by omega) hsame)
  · intro hle
    rw [Joins, take_eq_of_le_sharedLength hle, List.take_append_drop]
    exact h.chained_right.linked

end Fork

/-! ## Going back -/

/-- Where a follower ends. -/
inductive Landing where
  /-- With `kept` of its headers, which the server's continue. -/
  | joined (kept : Nat)
  /-- With `kept` headers that the server's do not continue, its visible tip pinned at `pinned`. -/
  | stuck (kept : Nat) (pinned : Option Nat)

/-- A follower that holds `m` headers goes back by `R` headers at a time until the server's headers
continue its own. If it has gone back before, and would go back by all that it holds, it gives up.
-/
inductive Lands (start R : Nat) (joins : Nat → Prop) : Option Nat → Nat → Landing → Prop where
  | joined {pinned : Option Nat} {m : Nat} (meets : joins m) :
      Lands start R joins pinned m (.joined m)
  | stuck {pinned : Option Nat} {m : Nat} (parts : ¬ joins m) (again : pinned.isSome)
      (low : m ≤ R) : Lands start R joins pinned m (.stuck m pinned)
  | back {pinned : Option Nat} {m : Nat} {landing : Landing} (parts : ¬ joins m)
      (high : pinned.isSome → R < m)
      (next : Lands start R joins (pinAt pinned (start + (m - 1))) (m - R) landing) :
      Lands start R joins pinned m landing

section
variable {start R : Nat} {joins : Nat → Prop}

/-- Going back comes to an end. -/
theorem exists_lands (hR : 0 < R) (hzero : joins 0) (pinned : Option Nat) (m : Nat) :
    ∃ landing, Lands start R joins pinned m landing := by
  induction m using Nat.strongRecOn generalizing pinned with
  | ind m ih =>
    by_cases hm : joins m
    · exact ⟨.joined m, .joined hm⟩
    · by_cases hstop : pinned.isSome ∧ m ≤ R
      · exact ⟨.stuck m pinned, .stuck hm hstop.1 hstop.2⟩
      · have hpos : 0 < m := Nat.pos_of_ne_zero fun e => hm (e ▸ hzero)
        obtain ⟨landing, hnext⟩ := ih (m - R) (by omega) (pinAt pinned (start + (m - 1)))
        refine ⟨landing, .back hm (fun hs => ?_) hnext⟩
        exact Nat.lt_of_not_le fun hle => hstop ⟨hs, hle⟩

/-- Only the heights up to where a follower begins matter. -/
theorem Lands.congr {joins' : Nat → Prop} {pinned : Option Nat} {m : Nat} {landing : Landing}
    (h : Lands start R joins pinned m landing) (heq : ∀ k ≤ m, joins k ↔ joins' k) :
    Lands start R joins' pinned m landing := by
  induction h with
  | joined hjoins => exact .joined ((heq _ (Nat.le_refl _)).1 hjoins)
  | stuck hparts hagain hlow => exact .stuck (mt (heq _ (Nat.le_refl _)).2 hparts) hagain hlow
  | back hparts hhigh hnext ih =>
    exact .back (mt (heq _ (Nat.le_refl _)).2 hparts) hhigh
      (ih fun k hk => heq k (Nat.le_trans hk (Nat.sub_le _ _)))

end

section
variable {start R shared : Nat}

/-- As long as more headers are held than are taken away, `steps` steps back are made. -/
theorem lands_of_lt {steps m : Nat} (pinned : Option Nat) (hle : m ≤ shared + steps * R)
    (hleast : ∀ i < steps, shared + i * R < m) (hlow : steps = 0 ∨ steps * R < m) :
    Lands start R (· ≤ shared) pinned m (.joined (m - steps * R)) := by
  induction steps generalizing m pinned with
  | zero =>
    rw [Nat.zero_mul] at hle ⊢
    exact .joined hle
  | succ steps ih =>
    have hparts := hleast 0 (Nat.succ_pos _)
    rw [Nat.succ_mul] at hle hlow ⊢
    rw [Nat.zero_mul] at hparts
    have hnext : Lands start R (· ≤ shared) (pinAt pinned (start + (m - 1))) (m - R)
        (.joined (m - R - steps * R)) := by
      refine ih _ (by omega) (fun i hi => ?_) (by omega)
      have := hleast (i + 1) (Nat.succ_lt_succ hi)
      rw [Nat.succ_mul] at this
      omega
    rw [show m - (steps * R + R) = m - R - steps * R by omega]
    exact .back (Nat.not_le.2 hparts) (fun _ => by omega) hnext

/-- If the last of `steps` steps would take all headers away, it is not made. -/
theorem lands_of_ge {steps m : Nat} {pinned : Option Nat} (hpinned : pinned.isSome)
    (hpos : 0 < steps) (hleast : ∀ i < steps, shared + i * R < m) (hlow : m ≤ steps * R) :
    ∃ k pin, Lands start R (· ≤ shared) pinned m (.stuck k pin) := by
  induction steps generalizing m pinned with
  | zero => exact absurd hpos (Nat.lt_irrefl 0)
  | succ steps ih =>
    have hparts := hleast 0 (Nat.succ_pos _)
    rw [Nat.succ_mul] at hlow
    rw [Nat.zero_mul] at hparts
    by_cases hm : m ≤ R
    · exact ⟨m, pinned, .stuck (Nat.not_le.2 hparts) hpinned hm⟩
    · have hsteps : 0 < steps := by
        refine Nat.pos_of_ne_zero fun h => ?_
        rw [h, Nat.zero_mul] at hlow
        omega
      have hnext : ∃ k pin,
          Lands start R (· ≤ shared) (pinAt pinned (start + (m - 1))) (m - R) (.stuck k pin) := by
        refine ih rfl hsteps (fun i hi => ?_) (by omega)
        have := hleast (i + 1) (Nat.succ_lt_succ hi)
        rw [Nat.succ_mul] at this
        omega
      obtain ⟨k, pin, hlands⟩ := hnext
      exact ⟨k, pin, .back (Nat.not_le.2 hparts) (fun _ => by omega) hlands⟩

variable {n j : Nat}

/-- **Where a follower joins.** With no recovery active, one step back is always made, and `j` of
them if the last leaves a header. -/
theorem lands_joined (hle : n ≤ shared + j * R) (hleast : ∀ i < j, shared + i * R < n)
    (hlow : j ≤ 1 ∨ j * R < n) : Lands start R (· ≤ shared) none n (.joined (n - j * R)) := by
  by_cases hone : j = 1
  · subst hone
    have hparts := hleast 0 Nat.one_pos
    rw [Nat.zero_mul] at hparts
    rw [Nat.one_mul] at hle ⊢
    exact .back (Nat.not_le.2 hparts) (fun h => by cases h) (.joined (by omega))
  · exact lands_of_lt none hle hleast (by omega)

/-- **Where a follower gives up.** -/
theorem lands_stuck (hleast : ∀ i < j, shared + i * R < n) (hlow : ¬ (j ≤ 1 ∨ j * R < n)) :
    ∃ k pin, Lands start R (· ≤ shared) none n (.stuck k pin) := by
  obtain ⟨i, rfl⟩ : ∃ i, j = i + 1 := ⟨j - 1, by omega⟩
  have hparts := hleast 0 (Nat.succ_pos _)
  rw [Nat.zero_mul] at hparts
  rw [Nat.succ_mul] at hlow
  have hnext : ∃ k pin,
      Lands start R (· ≤ shared) (pinAt none (start + (n - 1))) (n - R) (.stuck k pin) := by
    refine lands_of_ge rfl (show 0 < i by omega) (fun k hk => ?_) (by omega)
    have := hleast (k + 1) (Nat.succ_lt_succ hk)
    rw [Nat.succ_mul] at this
    omega
  obtain ⟨k, pin, hlands⟩ := hnext
  exact ⟨k, pin, .back (Nat.not_le.2 hparts) (fun h => by cases h) hlands⟩

end

/-! ## A short chain -/

/-- A header on top of `lowestHeader`. -/
def upperHeader : BlockHeader := .ofFields 2 lowestHeader.hash .zero 0 0 0

theorem chained_pair : Chained 80 [lowestHeader, upperHeader] := by
  refine ⟨?_, linked_cons_iff.2 ⟨?_, .singleton _⟩⟩
  · intro h hh
    rcases List.mem_pair.1 hh with rfl | rfl
    · exact length_fieldBytes _ _ _ _ _ _
    · exact length_fieldBytes _ _ _ _ _ _
  · rintro above ⟨⟩
    exact linksTo_ofFields _ _ _ _ _ _

theorem hash_pair_ne : lowestHeader.hash ≠ upperHeader.hash := by
  have hraw : upperHeader.raw = fieldBytes 2 lowestHeader.hash .zero 0 0 0 := rfl
  intro h
  have hbytes := congrArg Hash256.bytes h
  rw [BlockHeader.hash, BlockHeader.hash, Hash256.bytes_ofMessage, Hash256.bytes_ofMessage, hraw,
    fieldBytes, BlockHeader.hash, Hash256.bytes_ofMessage] at hbytes
  revert hbytes
  decide +kernel

/-- The upper of the two headers does not come on top of itself. -/
theorem not_continues_pair : continues [lowestHeader, upperHeader] upperHeader = false := by
  refine Bool.eq_false_iff.2 fun hc => hash_pair_ne ?_
  have hprev : upperHeader.prev = upperHeader.hash := eq_of_beq (continues_iff.1 hc _ rfl)
  rwa [upperHeader, prev_ofFields] at hprev

/-- The two headers have different hashes, in whatever chains they are. -/
theorem hashesTell_pair : HashesTell [upperHeader] [lowestHeader, upperHeader] := by
  intro a ha b hb hab
  have hpair (c : BlockHeader) (hc : c ∈ [upperHeader] ++ [lowestHeader, upperHeader]) :
      c = lowestHeader ∨ c = upperHeader := by
    simpa [or_comm] using hc
  rcases hpair a ha with rfl | rfl <;> rcases hpair b hb with rfl | rfl
  · rfl
  · exact absurd hab hash_pair_ne
  · exact absurd hab.symm hash_pair_ne
  · rfl

end HeaderFollower
