/-
# What becomes of the header file

A file that holds headers of its size can be read, appended to and shortened unless the system
refuses; each lemma of this file says which of the two has happened, and what the file is then.

`FileChange.replay` carries out recorded changes on a content, so that the content of a file at any
earlier moment can be spoken of.
-/

import HeaderFollower.Proofs.Header.Chained
import HeaderFollower.Store.File

namespace HeaderFollower

open BlockHeader

/-- The content after changes, the first one first. -/
def FileChange.replay (content : List UInt8) (changes : List FileChange) : List UInt8 :=
  changes.foldl (fun content change => change.apply content) content

namespace FileChange

@[simp] theorem replay_nil (content : List UInt8) : replay content [] = content := rfl

theorem replay_snoc (content : List UInt8) (changes : List FileChange) (c : FileChange) :
    replay content (changes ++ [c]) = c.apply (replay content changes) := by
  simp [replay, List.foldl_append]

/-- The bytes that a change adds. -/
def added : FileChange → List UInt8
  | .append bytes => bytes
  | .shorten _ => []

/-- The content has never been longer than it was first, with all that was added. -/
theorem length_replay_take_le (content : List UInt8) (changes : List FileChange) (n : Nat) :
    (replay content (changes.take n)).length ≤ (content ++ changes.flatMap added).length := by
  induction changes generalizing content n with
  | nil => simp
  | cons c rest ih =>
    cases n with
    | zero => exact (List.prefix_append _ _).length_le
    | succ n =>
      have hrest := ih (c.apply content) n
      have hfirst : (c.apply content).length ≤ (content ++ c.added).length := by
        cases c with
        | append bytes => exact Nat.le_refl _
        | shorten length => exact Nat.le_trans (List.length_take_le' _ _) (by simp [added])
      rw [List.flatMap_cons, ← List.append_assoc, List.length_append]
      rw [List.length_append] at hrest
      exact Nat.le_trans hrest (Nat.add_le_add_right hfirst _)

end FileChange

namespace HeaderFile

variable {f : HeaderFile} {hs : List BlockHeader}

/-- The system never refuses an access. -/
def Accessible (f : HeaderFile) : Prop := ∀ access n, f.refusal? access n = none

/-- The system refuses an access now, for the reason `text`. -/
def Refuses (f : HeaderFile) (access : FileAccess) (text : String) : Prop :=
  f.refusal? access f.changes.length = some text

theorem Accessible.not_refuses (h : f.Accessible) {access : FileAccess} {text : String} :
    ¬ f.Refuses access text := by
  intro e
  rw [Refuses, h] at e
  cases e

theorem checkLength_eq_ok {size length : Nat} (h : length % size = 0) :
    checkLength size length = .ok () := if_pos h

theorem bytes_cases {content : List UInt8} (h : f.content = some content) (access : FileAccess) :
    (∃ text, f.Refuses access text ∧ f.bytes access = .error (.io text)) ∨
      f.bytes access = .ok content := by
  unfold bytes Refuses
  cases f.refusal? access f.changes.length with
  | some text => exact .inl ⟨text, rfl, rfl⟩
  | none => exact .inr (by rw [h])

theorem wholeBytes_cases {content : List UInt8} (h : f.content = some content)
    (hlen : content.length % f.headerSize = 0) (access : FileAccess) :
    (∃ text, f.Refuses access text ∧ f.wholeBytes access = .error (.io text)) ∨
      f.wholeBytes access = .ok content := by
  rw [wholeBytes]
  rcases bytes_cases h access with ⟨text, hr, he⟩ | he
  · exact .inl ⟨text, hr, by rw [he]⟩
  · exact .inr (by simp only [he, checkLength_eq_ok hlen])

theorem count_cases (h : f.content = some (concat hs)) (hs_sized : Sized f.headerSize hs) :
    (∃ text, f.Refuses .count text ∧ f.count = .error (.io text)) ∨ f.count = .ok hs.length := by
  have hlen := hs_sized.length_concat
  have hcount : hs.length * f.headerSize / f.headerSize = hs.length := by
    cases hs with
    | nil => simp
    | cons x rest => exact Nat.mul_div_cancel _ (pos_of_sized_cons hs_sized)
  rw [count]
  rcases wholeBytes_cases h (by rw [hlen, Nat.mul_mod_left]) .count with ⟨text, hr, he⟩ | he
  · exact .inl ⟨text, hr, by rw [he]⟩
  · exact .inr (by simp only [he, hlen, hcount])

/-- A file that cannot be counted has no broken link. -/
theorem count_ne_verifyFailed {e : ChainError} (h : f.count = .error e) (height : Nat) :
    e ≠ .verifyFailed height := by
  rintro rfl
  rw [count] at h
  split at h
  · next e he =>
    cases h
    rw [wholeBytes] at he
    split at he
    · next e hb =>
      cases he
      rw [bytes] at hb
      split at hb <;> cases hb
    · next content _ =>
      rw [checkLength] at he
      split at he
      · next hc => split at hc <;> cases hc; cases he
      · cases he
  · cases h

theorem append_cases {content raw : List UInt8} (h : f.content = some content)
    (hlen : raw.length % f.headerSize = 0) (hne : raw ≠ []) :
    (∃ text, f.Refuses .append text ∧ f.append raw = .error (.io text)) ∨
      f.append raw = .ok (f.change content (.append raw)) := by
  rw [append, checkLength_eq_ok hlen]
  rcases bytes_cases h .append with ⟨text, hr, he⟩ | he
  · exact .inl ⟨text, hr, by simp [hne, he]⟩
  · exact .inr (by simp [hne, he])

theorem dropLast_cases (h : f.content = some (concat hs)) (hs_sized : Sized f.headerSize hs)
    {n : Nat} (hpos : 0 < n) (hn : n ≤ hs.length) :
    (∃ text, f.Refuses .shorten text ∧ f.dropLast n = .error (.io text)) ∨
      f.dropLast n = .ok (f.change (concat hs) (.shorten ((hs.length - n) * f.headerSize))) := by
  have hlen := hs_sized.length_concat
  have hle := Nat.mul_le_mul_right f.headerSize hn
  rw [dropLast, if_neg (by omega)]
  rcases wholeBytes_cases h (by rw [hlen, Nat.mul_mod_left]) .shorten with ⟨text, hr, he⟩ | he
  · exact .inl ⟨text, hr, by rw [he]⟩
  · refine .inr ?_
    simp only [he, hlen, if_neg (Nat.not_lt.2 hle), Nat.sub_mul]

end HeaderFile
end HeaderFollower
