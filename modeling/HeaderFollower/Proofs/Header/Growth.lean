/-
# What a chain grows to

A follower takes headers for as long as each of them continues its chain: `grow` says what comes of
it. The headers that a server has need not be linked, so a chain may grow to a height where the next
header does not continue it; `Reaches` says that it has come so far. From whatever part of it the
chain is left with, it grows to the same height again (`Reaches.of_le`, `Reaches.grow_eq`).
-/

import HeaderFollower.Proofs.Header.Chained
import Mathlib.Data.List.Infix

namespace HeaderFollower
namespace BlockHeader

variable {size m k : Nat} {S T hs more : List BlockHeader} {x : BlockHeader}

/-- Whether a header links to the last one of a chain. Any header continues an empty chain. -/
def continues (hs : List BlockHeader) (x : BlockHeader) : Bool := hs.getLast?.all x.linksTo

theorem continues_iff : continues hs x = true ↔ ∀ below ∈ hs.getLast?, x.linksTo below :=
  Option.all_eq_true ..

theorem continues_nil (x : BlockHeader) : continues [] x = true := rfl

theorem continues_concat (hs : List BlockHeader) (below x : BlockHeader) :
    continues (hs ++ [below]) x = x.linksTo below := by
  rw [continues, List.getLast?_concat, Option.all_some]

theorem linked_concat_iff : Linked (hs ++ [x]) ↔ Linked hs ∧ continues hs x = true := by
  rw [linked_snoc_iff, continues_iff]

/-- The chain with the headers of `more` on top, up to the first that does not continue it. -/
def grow (hs : List BlockHeader) : List BlockHeader → List BlockHeader
  | [] => hs
  | x :: rest => if continues hs x then grow (hs ++ [x]) rest else hs

/-- The headers that are taken are linked, and the next one does not continue them. -/
theorem exists_grow_eq (hlinked : Linked hs) (more : List BlockHeader) :
    ∃ new rest, more = new ++ rest ∧ grow hs more = hs ++ new ∧ Linked (hs ++ new) ∧
      ∀ above ∈ rest.head?, continues (hs ++ new) above = false := by
  fun_induction grow hs more with
  | case1 hs => exact ⟨[], [], rfl, (List.append_nil hs).symm, by simpa using hlinked, by simp⟩
  | case2 hs x rest hx ih =>
    obtain ⟨new, left, rfl, he, hnew, hstop⟩ := ih (linked_concat_iff.2 ⟨hlinked, hx⟩)
    rw [List.append_assoc] at he hnew hstop
    exact ⟨x :: new, left, rfl, he, hnew, hstop⟩
  | case3 hs x rest hx =>
    refine ⟨[], x :: rest, rfl, (List.append_nil hs).symm, by simpa using hlinked, ?_⟩
    rintro above ⟨⟩
    rw [List.append_nil]
    exact Bool.eq_false_iff.2 hx

/-- The chain `T` is what a server with the headers `S` brings a chain to that has the first `m`
headers of `T`. The headers above are those of the server, up to the first that does not continue
the chain. -/
structure Reaches (size : Nat) (S : List BlockHeader) (m : Nat) (T : List BlockHeader) : Prop where
  chained : Chained size T
  le : m ≤ T.length
  served : T.drop m <+: S.drop m
  stops : ∀ above ∈ S[T.length]?, continues T above = false

/-- What a server with the headers `S` brings the chain `hs` to. -/
def reached (S hs : List BlockHeader) : List BlockHeader := grow hs (S.drop hs.length)

theorem reaches_reached (h : Chained size hs) (hS : Sized size S) :
    Reaches size S hs.length (reached S hs) ∧ (reached S hs).take hs.length = hs := by
  obtain ⟨new, rest, hmore, he, hlinked, hstop⟩ := exists_grow_eq h.linked (S.drop hs.length)
  have hnew : Sized size new := (sized_append.1 (hmore ▸ hS.drop hs.length)).1
  have hrest : rest = S.drop (hs ++ new).length := by
    rw [List.length_append, ← List.drop_drop, hmore, List.drop_left]
  rw [reached, he]
  refine ⟨⟨⟨sized_append.2 ⟨h.sized, hnew⟩, hlinked⟩, by simp, ?_, ?_⟩, List.take_left⟩
  · rw [List.drop_left, hmore]
    exact List.prefix_append _ _
  · rwa [hrest, List.head?_drop] at hstop

/-- A server with a chain of headers brings a part of it to the whole. -/
theorem Chained.reaches (h : Chained size S) (hm : m ≤ S.length) : Reaches size S m S := by
  refine ⟨h, hm, List.prefix_rfl, ?_⟩
  rw [List.getElem?_eq_none (Nat.le_refl _)]
  rintro above ⟨⟩

namespace Reaches

/-- What a server has above `m` is what the chain takes and what is left. -/
theorem drop_eq (h : Reaches size S m T) : S.drop m = T.drop m ++ S.drop T.length := by
  obtain ⟨rest, hrest⟩ := h.served
  have hdrop := congrArg (List.drop (T.length - m)) hrest
  rw [List.drop_left' (List.length_drop ..), List.drop_drop, Nat.add_sub_cancel' h.le] at hdrop
  rw [← hrest, hdrop]

theorem length_sub_le (h : Reaches size S m T) : T.length - m ≤ S.length - m := by
  have := h.served.length_le
  rwa [List.length_drop, List.length_drop] at this

/-- A chain that has come to a stop below the server's last header is not empty. -/
theorem ne_nil (h : Reaches size S m T) (hlt : T.length < S.length) : T ≠ [] := by
  rintro rfl
  have hstop := h.stops _ (List.getElem?_eq_getElem hlt)
  rw [continues_nil] at hstop
  cases hstop

/-- From a higher part of the chain the same is reached. -/
theorem of_le (h : Reaches size S m T) (hmk : m ≤ k) (hk : k ≤ T.length) : Reaches size S k T := by
  refine ⟨h.chained, hk, ?_, h.stops⟩
  obtain ⟨j, rfl⟩ := Nat.exists_eq_add_of_le hmk
  rw [← List.drop_drop, ← List.drop_drop]
  exact h.served.drop j

/-- Of the next `width` headers of the server the chain takes those that are its own; what is left
over does not continue it. -/
theorem exists_take_eq (h : Reaches size S m T) (width : Nat) :
    ∃ rest, (S.drop m).take width = (T.drop m).take width ++ rest ∧
      ∀ above ∈ rest.head?, continues (T.take (m + width)) above = false := by
  refine ⟨(S.drop T.length).take (width - (T.length - m)), ?_, fun above habove => ?_⟩
  · rw [h.drop_eq, List.take_append, List.length_drop]
  · rw [List.head?_take] at habove
    split at habove
    · cases habove
    · rw [List.head?_drop] at habove
      rw [List.take_of_length_le (by omega)]
      exact h.stops above habove

/-- **What is reached is what the chain grows to.** The induction is on the headers that it takes.
-/
theorem grow_eq (h : Reaches size S m T) : grow (T.take m) (S.drop m) = T := by
  induction hd : T.length - m generalizing m with
  | zero =>
    obtain rfl : m = T.length := Nat.le_antisymm h.le (Nat.le_of_sub_eq_zero hd)
    rw [List.take_length]
    rcases Nat.lt_or_ge T.length S.length with hlt | hge
    · have hstop := h.stops _ (List.getElem?_eq_getElem hlt)
      rw [List.drop_eq_getElem_cons hlt, grow, if_neg (by rw [hstop]; decide)]
    · rw [List.drop_eq_nil_of_le hge, grow]
  | succ d ih =>
    have hm : m < T.length := by omega
    have hnext : T.take m ++ [T[m]] = T.take (m + 1) := (List.take_succ_eq_append_getElem hm).symm
    have hlinked : Linked (T.take m ++ [T[m]]) := hnext ▸ h.chained.linked.take _
    have hmore : S.drop m = T[m] :: S.drop (m + 1) := by
      have hreach := h.of_le (Nat.le_succ m) hm
      rw [h.drop_eq, List.drop_eq_getElem_cons hm, hreach.drop_eq, List.cons_append]
    rw [hmore, grow, if_pos (linked_concat_iff.1 hlinked).2, hnext]
    exact ih (h.of_le (Nat.le_succ m) hm) (by omega)

theorem reached_eq (h : Reaches size S m T) : reached S (T.take m) = T := by
  rw [reached, List.length_take_of_le h.le, h.grow_eq]

end Reaches
end BlockHeader
end HeaderFollower
