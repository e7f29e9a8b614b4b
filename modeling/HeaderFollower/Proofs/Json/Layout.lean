/-
# Texts in any layout

A value can be written in many ways: with blanks between its parts, with members in any order, and
with the spellings of `NumberText` and `Piece`. `Spells core value?` says that `core` is the text of a
value. What it is depends on how many containers may be opened inside each other, and a text that
follows the grammar need not stand for a value at all: a number can be too large, and half of a
surrogate pair stands for nothing.

`takes_core` says that a value in any layout is read as what it stands for, `passes_core` that it is
passed over whatever it stands for.
-/

import HeaderFollower.Json.Reader
import HeaderFollower.Proofs.Json.Spelling

namespace HeaderFollower
namespace Json

variable {α ι : Type} {rest more s r : List UInt8} {b c close opening : UInt8} {size depth : Nat}

/-! ## Texts -/

/-- Blanks, where a text may have any. -/
structure Blanks where
  bytes : List UInt8
  blank : ∀ b ∈ bytes, isSpace b = true

namespace Blanks

def none : Blanks := ⟨[], fun _ h => absurd h List.not_mem_nil⟩

def append (front back : Blanks) : Blanks where
  bytes := front.bytes ++ back.bytes
  blank b hb := (List.mem_append.1 hb).elim (front.blank b) (back.blank b)

end Blanks

/-- Pieces with commas between them. -/
def commas : List (List UInt8) → List UInt8
  | [] => []
  | first :: others => first ++ others.flatMap (0x2c :: ·)

/-- The text of a value with blanks around it, and the value, if at most so many containers may be
opened inside each other. -/
structure Part where
  front : Blanks
  core : List UInt8
  back : Blanks
  value? : Nat → Option Json

def Part.text (p : Part) : List UInt8 := p.front.bytes ++ (p.core ++ p.back.bytes)

/-- The text of a member. -/
structure MemberText where
  front : Blanks
  key : List Piece
  back : Blanks
  value : Part

namespace MemberText

def text (m : MemberText) : List UInt8 :=
  m.front.bytes ++ (Piece.quoted m.key ++ (m.back.bytes ++ 0x3a :: m.value.text))

/-- The name of the member, if its spelling stands for one. -/
def key? (m : MemberText) : Option String := Piece.value? m.key

/-- The member with its value. -/
def member? (depth : Nat) (m : MemberText) : Option (String × Json) :=
  m.key?.bind fun key => (m.value.value? depth).map (key, ·)

end MemberText

/-- What the text of an array stands for. -/
def arrayValue? (items : List Part) : Nat → Option Json
  | 0 => none
  | depth + 1 => (items.mapM fun p : Part => p.value? depth).map .array

/-- What the text of an object stands for. -/
def objectValue? (members : List MemberText) : Nat → Option Json
  | 0 => none
  | depth + 1 => (members.mapM fun m : MemberText => m.member? depth).map mkObject

/-- The text of a value without blanks around it, and the value. -/
inductive Spells : List UInt8 → (Nat → Option Json) → Prop where
  | null : Spells nullWord fun _ => some .null
  | bool (b : Bool) : Spells (if b then trueWord else falseWord) fun _ => some (.bool b)
  | number (n : NumberText) : Spells n.text fun _ => n.numeral.value?.map .number
  | string (pieces : List Piece) : Spells (Piece.quoted pieces) fun _ => (Piece.value? pieces).map .string
  | array (inside : Blanks) {items : List Part} (spelled : ∀ p ∈ items, Spells p.core p.value?) :
      Spells (0x5b :: (inside.bytes ++ (commas (items.map Part.text) ++ [0x5d])))
        (arrayValue? items)
  | object (inside : Blanks) {members : List MemberText}
      (spelled : ∀ m ∈ members, Spells m.value.core m.value.value?) :
      Spells (0x7b :: (inside.bytes ++ (commas (members.map MemberText.text) ++ [0x7d])))
        (objectValue? members)

/-! ## Blanks -/

theorem skipSpaces_cons (h : isSpace b = false) : skipSpaces (b :: rest) = b :: rest := by
  rw [skipSpaces, List.dropWhile_cons, h]
  rfl

theorem skipSpaces_blanks (blanks : Blanks) (s : List UInt8) :
    skipSpaces (blanks.bytes ++ s) = skipSpaces s :=
  List.dropWhile_append_of_pos blanks.blank

theorem expect?_blanks (blanks : Blanks) (b : UInt8) (s : List UInt8) :
    expect? b (blanks.bytes ++ s) = expect? b s := by
  rw [expect?, expect?, skipSpaces_blanks]

theorem expect?_cons (h : isSpace b = false) : expect? b (b :: rest) = some rest := by
  rw [expect?, skipSpaces_cons h]
  exact if_pos rfl

theorem expect?_cons_ne (h : isSpace c = false) (hne : c ≠ b) : expect? b (c :: rest) = none := by
  rw [expect?, skipSpaces_cons h]
  exact if_neg hne

/-- A byte that is put between values or ends them goes on with no number. -/
theorem apart_cons (h : b = 0x2c ∨ b = 0x3a ∨ b = 0x5d ∨ b = 0x7d) (rest : List UInt8) :
    Apart (b :: rest) := by
  rintro c more heq
  obtain ⟨rfl, -⟩ := List.cons.inj heq
  rcases h with rfl | rfl | rfl | rfl <;> decide

theorem Apart.blanks (h : Apart rest) (blanks : Blanks) : Apart (blanks.bytes ++ rest) := by
  rintro c more heq
  cases hbytes : blanks.bytes with
  | nil => exact h c more (by rw [← heq, hbytes, List.nil_append])
  | cons b others =>
    rw [hbytes] at heq
    obtain ⟨rfl, -⟩ := List.cons.inj heq
    have hspace := blanks.blank b (hbytes ▸ List.mem_cons_self)
    simp only [isSpace, Bool.or_eq_true, beq_iff_eq] at hspace
    rcases hspace with ((rfl | rfl) | rfl) | rfl <;> decide

/-! ## Readers -/

/-- What a reader gives, and the rest. -/
def taken (o : Option (Step α size)) : Option (α × List UInt8) := o.map fun st => (st.value, st.rest)

theorem taken_eq_none {o : Option (Step α size)} : taken o = none ↔ o = none := Option.map_eq_none_iff

theorem taken_eq_some {o : Option (Step α size)} {a : α} :
    taken o = some (a, rest) ↔ ∃ h, o = some ⟨a, rest, h⟩ := by
  constructor
  · intro h
    obtain ⟨⟨value, rest, hshorter⟩, rfl, hpair⟩ := Option.map_eq_some_iff.1 h
    obtain ⟨rfl, rfl⟩ := Prod.mk.inj hpair
    exact ⟨hshorter, rfl⟩
  · rintro ⟨h, rfl⟩
    rfl

/-- From behind blanks, the reader takes this off the front of whatever goes on with no number, but for
blanks. -/
def Takes (read : Reader α) (s : List UInt8) (o : Option α) : Prop :=
  ∀ (front : Blanks) (rest : List UInt8), Apart rest →
    ∃ back : Blanks, taken (read (front.bytes ++ (s ++ rest))) = o.map (·, back.bytes ++ rest)

theorem taken_text (s : List UInt8) : taken (text s) = (expect? 0x22 s).bind stringBody? := by
  unfold text
  split
  · next h => exact (congrArg (·.bind stringBody?) h).symm
  · next body h =>
    refine Eq.trans ?_ (congrArg (·.bind stringBody?) h).symm
    dsimp only [Option.bind_some]
    split
    · next hbody => exact hbody.symm
    · next content rest hbody => exact hbody.symm

/-- A string is taken from behind blanks. -/
theorem taken_text_quoted (front : Blanks) (pieces : List Piece) (rest : List UInt8) :
    taken (text (front.bytes ++ (Piece.quoted pieces ++ rest))) =
      (Piece.value? pieces).map (·, rest) := by
  rw [taken_text, expect?_blanks, Piece.quoted, List.cons_append, expect?_cons rfl,
    Option.bind_some, List.append_assoc]
  exact stringBody?_text pieces

/-- A member is taken if its value is, whatever its name is. -/
theorem takes_member {read : String → Reader α} {m : MemberText} {v? : String → Option α}
    (h : ∀ key, Takes (read key) m.value.text (v? key)) :
    Takes (member read) m.text (m.key?.bind fun key => (v? key).map (key, ·)) := by
  intro front rest hrest
  have htext : front.bytes ++ (m.text ++ rest) = (front.append m.front).bytes ++
      (Piece.quoted m.key ++ (m.back.bytes ++ 0x3a :: (m.value.text ++ rest))) := by
    simp only [MemberText.text, Blanks.append, List.append_assoc, List.cons_append]
  have hkey := taken_text_quoted (front.append m.front) m.key
    (m.back.bytes ++ 0x3a :: (m.value.text ++ rest))
  rw [← htext] at hkey
  have hcolon : expect? 0x3a (m.back.bytes ++ 0x3a :: (m.value.text ++ rest)) =
      some (m.value.text ++ rest) := by rw [expect?_blanks, expect?_cons rfl]
  rw [MemberText.key?, member]
  cases hvalue : Piece.value? m.key with
  | none =>
    rw [hvalue] at hkey
    rw [taken_eq_none.1 hkey]
    exact ⟨.none, rfl⟩
  | some key =>
    rw [hvalue] at hkey
    obtain ⟨hshorter, hkey⟩ := taken_eq_some.1 hkey
    obtain ⟨back, hread⟩ := h key .none rest hrest
    refine ⟨back, ?_⟩
    rw [Blanks.none, List.nil_append] at hread
    rw [hkey]
    dsimp only
    split
    · next hc =>
      rw [hcolon] at hc
      cases hc
    · next body hc =>
      rw [hcolon] at hc
      obtain rfl := Option.some.inj hc
      rw [Option.bind_some]
      cases hv : v? key with
      | none =>
        rw [hv] at hread
        rw [taken_eq_none.1 hread]
        rfl
      | some a =>
        rw [hv] at hread
        obtain ⟨hlast, hread⟩ := taken_eq_some.1 hread
        rw [hread]
        rfl

section Sequences

variable {read : Reader α} {acc : List α} {items : List ι} {first : ι} {piece : ι → List UInt8}
  {v? : ι → Option α} {a : α}

/-- The closing byte of an array or an object. -/
def Closing (b : UInt8) : Prop := b = 0x5d ∨ b = 0x7d

theorem Closing.not_space (h : Closing close) : isSpace close = false := by
  rcases h with rfl | rfl <;> rfl

theorem Closing.not_comma (h : Closing close) : close ≠ 0x2c := by
  rcases h with rfl | rfl <;> decide

theorem Closing.apart (h : Closing close) (rest : List UInt8) : Apart (close :: rest) :=
  apart_cons (.inr (.inr h)) rest

/-- Nothing is read of items if the first one is not. -/
theorem separated_none (hs : s.length ≤ size) (hread : read s = none) :
    separated read close size acc s hs = none := by
  rw [separated, hread]

/-- With a comma behind it, an item is kept and reading goes on. -/
theorem separated_next (hs : s.length ≤ size) (hread : taken (read s) = some (a, r))
    (hcomma : expect? 0x2c r = some rest) :
    ∃ h, separated read close size acc s hs = separated read close size (a :: acc) rest h := by
  obtain ⟨hshorter, hread⟩ := taken_eq_some.1 hread
  have hrest := length_of_expect? hcomma
  refine ⟨by omega, ?_⟩
  rw [separated, hread]
  dsimp only
  split
  · next r' h =>
    rw [hcomma] at h
    cases h
    rfl
  · next h =>
    rw [hcomma] at h
    cases h

/-- With the closing byte behind it, an item is the last. -/
theorem separated_last (hs : s.length ≤ size) (hread : taken (read s) = some (a, r))
    (hcomma : expect? 0x2c r = none) (hclose : expect? close r = some rest) :
    taken (separated read close size acc s hs) = some (acc.reverse ++ [a], rest) := by
  obtain ⟨hshorter, hread⟩ := taken_eq_some.1 hread
  have hrest := length_of_expect? hclose
  refine taken_eq_some.2 ⟨by omega, ?_⟩
  rw [separated, hread]
  dsimp only
  split
  · next r' h =>
    rw [hcomma] at h
    cases h
  · split
    · next h =>
      rw [hclose] at h
      cases h
      simp
    · next h =>
      rw [hclose] at h
      cases h

/-- Items with commas between them are taken one by one. -/
theorem taken_separated (hclosing : Closing close)
    (hitems : ∀ i ∈ first :: items, Takes read (piece i) (v? i)) (front : Blanks)
    (hs : s.length ≤ size)
    (heq : s = front.bytes ++ (commas ((first :: items).map piece) ++ close :: rest)) :
    taken (separated read close size acc s hs) =
      ((first :: items).mapM v?).map (acc.reverse ++ ·, rest) := by
  induction items generalizing first front acc s with
  | nil =>
    rw [List.map_singleton, commas, List.flatMap_nil, List.append_nil] at heq
    obtain ⟨back, hread⟩ := hitems first List.mem_cons_self front _ (hclosing.apart rest)
    rw [← heq] at hread
    rw [List.mapM_cons, List.mapM_nil]
    cases hv : v? first with
    | none =>
      rw [hv] at hread
      rw [separated_none hs (taken_eq_none.1 hread)]
      rfl
    | some a =>
      rw [hv] at hread
      refine separated_last hs hread ?_ ?_
      · rw [expect?_blanks, expect?_cons_ne hclosing.not_space hclosing.not_comma]
      · rw [expect?_blanks, expect?_cons hclosing.not_space]
  | cons next others ih =>
    have htext : s = front.bytes ++ (piece first ++
        0x2c :: (commas ((next :: others).map piece) ++ close :: rest)) := by
      rw [heq]
      simp [commas]
    obtain ⟨back, hread⟩ := hitems first List.mem_cons_self front _ (apart_cons (.inl rfl) _)
    rw [← htext] at hread
    rw [List.mapM_cons]
    cases hv : v? first with
    | none =>
      rw [hv] at hread
      rw [separated_none hs (taken_eq_none.1 hread)]
      rfl
    | some a =>
      rw [hv] at hread
      have hcomma : expect? 0x2c (back.bytes ++
          0x2c :: (commas ((next :: others).map piece) ++ close :: rest)) =
          some (commas ((next :: others).map piece) ++ close :: rest) := by
        rw [expect?_blanks, expect?_cons rfl]
      obtain ⟨h, hnext⟩ : ∃ h, separated read close size acc s hs = separated read close size
          (a :: acc) (commas ((next :: others).map piece) ++ close :: rest) h :=
        separated_next hs hread hcomma
      rw [hnext, ih (fun i hi => hitems i (List.mem_cons_of_mem _ hi)) .none h rfl]
      cases (next :: others).mapM v? with
      | none => rfl
      | some all => simp

/-- A container is taken from behind blanks if each of its items is. -/
theorem taken_enclosed (front inside : Blanks) (hopening : isSpace opening = false)
    (hclosing : Closing close)
    (hhead : ∀ i ∈ items, ∀ rest, expect? close (piece i ++ rest) = none)
    (hitems : ∀ i ∈ items, Takes read (piece i) (v? i)) :
    taken (enclosed read opening close (front.bytes ++ (opening :: (inside.bytes ++
        (commas (items.map piece) ++ close :: rest))))) =
      (items.mapM v?).map (·, rest) := by
  have hopen : expect? opening (front.bytes ++ (opening :: (inside.bytes ++
      (commas (items.map piece) ++ close :: rest)))) =
      some (inside.bytes ++ (commas (items.map piece) ++ close :: rest)) := by
    rw [expect?_blanks, expect?_cons hopening]
  unfold enclosed
  split
  · next h =>
    rw [hopen] at h
    cases h
  · next body h =>
    rw [hopen] at h
    obtain rfl := Option.some.inj h
    cases items with
    | nil =>
      have hclose : expect? close (inside.bytes ++ (commas ([].map piece) ++ close :: rest)) =
          some rest := by
        rw [expect?_blanks]
        exact expect?_cons hclosing.not_space
      dsimp only
      split
      · next h =>
        rw [hclose] at h
        cases h
        rfl
      · next h =>
        rw [hclose] at h
        cases h
    | cons first others =>
      have hclose : expect? close (inside.bytes ++
          (commas ((first :: others).map piece) ++ close :: rest)) = none := by
        rw [expect?_blanks, List.map_cons, commas, List.append_assoc]
        exact hhead first List.mem_cons_self _
      dsimp only
      split
      · next h =>
        rw [hclose] at h
        cases h
      · exact taken_separated hclosing hitems inside _ rfl

end Sequences

/-! ## Values -/

variable {core : List UInt8} {v? : Nat → Option Json} {p : Part} {m : MemberText}

/-- A byte a number begins with. -/
def Leading (b : UInt8) : Prop := b = 0x2d ∨ isDigit b = true

theorem Leading.ne (h : Leading b) (hc : isDigit c = false) (hminus : c ≠ 0x2d) : b ≠ c := by
  rcases h with rfl | h
  · exact hminus.symm
  · exact ne_of_isDigit h hc

theorem Leading.cons_ne {others : List UInt8} (h : Leading b)
    (hc : isDigit c = false ∧ c ≠ 0x2d) : b :: more ≠ c :: others :=
  fun heq => h.ne hc.1 hc.2 (List.cons.inj heq).1

theorem Leading.not_space (h : Leading b) : isSpace b = false := by
  have hne {c : UInt8} (hc : isDigit c = false ∧ c ≠ 0x2d) : (b == c) = false :=
    beq_eq_false_iff_ne.2 (h.ne hc.1 hc.2)
  rw [isSpace, hne (by decide), hne (by decide), hne (by decide), hne (by decide)]
  rfl

theorem Leading.not_closing (h : Leading b) : ¬ Closing b := by
  rintro (rfl | rfl)
  · exact h.ne rfl (by decide) rfl
  · exact h.ne rfl (by decide) rfl

theorem NumberText.exists_cons (n : NumberText) : ∃ b more, n.text = b :: more ∧ Leading b := by
  rw [NumberText.text]
  cases n.negative with
  | true => exact ⟨0x2d, _, rfl, .inl rfl⟩
  | false =>
    obtain ⟨b, more, hwhole, hb⟩ := n.whole.exists_cons
    exact ⟨b, _, by rw [hwhole]; rfl, .inr hb⟩

/-- The text of a value begins with no blank and closes nothing. -/
theorem Spells.exists_cons (h : Spells core v?) :
    ∃ b more, core = b :: more ∧ isSpace b = false ∧ ¬ Closing b := by
  cases h with
  | null => exact ⟨_, _, rfl, rfl, by unfold Closing; decide⟩
  | bool b => cases b <;> exact ⟨_, _, rfl, rfl, by unfold Closing; decide⟩
  | number n =>
    obtain ⟨b, more, htext, hb⟩ := n.exists_cons
    exact ⟨b, more, htext, hb.not_space, hb.not_closing⟩
  | string pieces => exact ⟨_, _, rfl, rfl, by unfold Closing; decide⟩
  | array => exact ⟨_, _, rfl, rfl, by unfold Closing; decide⟩
  | object => exact ⟨_, _, rfl, rfl, by unfold Closing; decide⟩

theorem expect?_part (hclosing : Closing close) (h : Spells p.core p.value?) (rest : List UInt8) :
    expect? close (p.text ++ rest) = none := by
  obtain ⟨b, more, hcore, hspace, hnot⟩ := h.exists_cons
  rw [Part.text, hcore, List.append_assoc, expect?_blanks]
  exact expect?_cons_ne hspace fun heq => hnot (heq ▸ hclosing)

theorem expect?_member (hclosing : Closing close) (m : MemberText) (rest : List UInt8) :
    expect? close (m.text ++ rest) = none := by
  rw [MemberText.text, List.append_assoc, expect?_blanks]
  refine expect?_cons_ne rfl fun heq => ?_
  rcases hclosing with rfl | rfl
  · cases heq
  · cases heq

theorem taken_literal {w : List UInt8} {j : Json} (front : Blanks) (hw : w ≠ [])
    (hspaces : skipSpaces (w ++ rest) = w ++ rest) :
    taken (literal w hw j (front.bytes ++ (w ++ rest))) = some (j, rest) := by
  have hword : word? w (skipSpaces (front.bytes ++ (w ++ rest))) = some rest := by
    rw [skipSpaces_blanks, hspaces, word?,
      if_pos (List.isPrefixOf_iff_prefix.2 (List.prefix_append w rest)), List.drop_left]
  unfold literal
  split
  · next h =>
    rw [hword] at h
    cases h
    rfl
  · next h =>
    rw [hword] at h
    cases h

theorem taken_numberValue (front : Blanks) (n : NumberText) (hrest : Apart rest) :
    taken (numberValue (front.bytes ++ (n.text ++ rest))) =
      (n.numeral.value?.map Json.number).map (·, rest) := by
  obtain ⟨b, more, htext, hb⟩ := n.exists_cons
  have hspaces : skipSpaces (front.bytes ++ (n.text ++ rest)) = n.text ++ rest := by
    rw [skipSpaces_blanks, htext]
    exact skipSpaces_cons hb.not_space
  unfold numberValue
  split
  · next h =>
    rw [hspaces, scan?_text n hrest] at h
    cases h
  · next numeral last h =>
    rw [hspaces, scan?_text n hrest] at h
    cases h
    cases n.numeral.value? <;> rfl

/-- What does not begin like any other value is read as a number. -/
theorem value_number (front : Blanks) (hb : Leading b) :
    value depth (front.bytes ++ (b :: more)) = numberValue (front.bytes ++ (b :: more)) := by
  rw [value.eq_def, skipSpaces_blanks, skipSpaces_cons hb.not_space]
  split
  · next heq => exact absurd heq (hb.cons_ne (by decide))
  · next heq => exact absurd heq (hb.cons_ne (by decide))
  · next heq => exact absurd heq (hb.cons_ne (by decide))
  · next heq => exact absurd heq (hb.cons_ne (by decide))
  · next heq => exact absurd heq (hb.cons_ne (by decide))
  · next heq => exact absurd heq (hb.cons_ne (by decide))
  · rfl

theorem taken_value_text (front : Blanks) :
    taken (value depth (front.bytes ++ (0x22 :: more))) =
      (taken (text (front.bytes ++ (0x22 :: more)))).map fun a => (.string a.1, a.2) := by
  rw [value.eq_def, skipSpaces_blanks, skipSpaces_cons rfl]
  cases text (front.bytes ++ (0x22 :: more)) <;> rfl

theorem taken_value_array (front : Blanks) :
    taken (value (depth + 1) (front.bytes ++ (0x5b :: more))) =
      (taken (arrayOf (value depth) (front.bytes ++ (0x5b :: more)))).map
        fun a => (.array a.1, a.2) := by
  rw [value, skipSpaces_blanks, skipSpaces_cons rfl]
  cases arrayOf (value depth) (front.bytes ++ (0x5b :: more)) <;> rfl

theorem taken_value_object (front : Blanks) :
    taken (value (depth + 1) (front.bytes ++ (0x7b :: more))) =
      (taken (objectOf (fun _ => value depth) (front.bytes ++ (0x7b :: more)))).map
        fun a => (mkObject a.1, a.2) := by
  rw [value, skipSpaces_blanks, skipSpaces_cons rfl]
  cases objectOf (fun _ => value depth) (front.bytes ++ (0x7b :: more)) <;> rfl

theorem Part.text_between (p : Part) (front : Blanks) (rest : List UInt8) :
    front.bytes ++ (p.text ++ rest) =
      (front.append p.front).bytes ++ (p.core ++ (p.back.bytes ++ rest)) := by
  simp only [text, Blanks.append, List.append_assoc]

/-- A value is taken with the blanks around it. -/
theorem takes_part {read : Reader α} {o : Option α} (h : Takes read p.core o) :
    Takes read p.text o := by
  intro front rest hrest
  obtain ⟨back, htaken⟩ := h (front.append p.front) (p.back.bytes ++ rest) (hrest.blanks p.back)
  refine ⟨back.append p.back, ?_⟩
  rw [p.text_between, htaken, Blanks.append, List.append_assoc]

/-- **A value in any layout is read as what it stands for.** -/
theorem takes_core (h : Spells core v?) (depth : Nat) : Takes (value depth) core (v? depth) := by
  induction h generalizing depth with
  | null =>
    intro front rest _
    refine ⟨.none, ?_⟩
    have hspaces : skipSpaces (nullWord ++ rest) = nullWord ++ rest := skipSpaces_cons rfl
    rw [value.eq_def, skipSpaces_blanks, hspaces]
    exact taken_literal front (by decide) hspaces
  | bool b =>
    intro front rest _
    refine ⟨.none, ?_⟩
    cases b with
    | false =>
      have hspaces : skipSpaces (falseWord ++ rest) = falseWord ++ rest := skipSpaces_cons rfl
      rw [if_neg Bool.false_ne_true, value.eq_def, skipSpaces_blanks, hspaces]
      exact taken_literal front (by decide) hspaces
    | true =>
      have hspaces : skipSpaces (trueWord ++ rest) = trueWord ++ rest := skipSpaces_cons rfl
      rw [if_pos rfl, value.eq_def, skipSpaces_blanks, hspaces]
      exact taken_literal front (by decide) hspaces
  | number n =>
    intro front rest hrest
    refine ⟨.none, ?_⟩
    have hread := taken_numberValue front n hrest
    obtain ⟨b, more, htext, hb⟩ := n.exists_cons
    rw [htext, List.cons_append] at hread ⊢
    rw [value_number front hb]
    exact hread
  | string pieces =>
    intro front rest _
    refine ⟨.none, ?_⟩
    have hread := taken_text_quoted front pieces rest
    rw [Piece.quoted, List.cons_append] at hread ⊢
    rw [taken_value_text, hread]
    cases Piece.value? pieces <;> rfl
  | @array inside items spelled ih =>
    intro front rest _
    refine ⟨.none, ?_⟩
    cases depth with
    | zero =>
      rw [value, skipSpaces_blanks]
      rfl
    | succ depth =>
      have hread : taken (arrayOf (value depth) (front.bytes ++ (0x5b :: (inside.bytes ++
          (commas (items.map Part.text) ++ 0x5d :: rest))))) =
          (items.mapM fun p : Part => p.value? depth).map (·, rest) :=
        taken_enclosed front inside rfl (.inl rfl)
          (fun p hp => expect?_part (.inl rfl) (spelled p hp))
          fun p hp => takes_part (ih p hp depth)
      rw [List.cons_append, List.append_assoc, List.append_assoc, List.singleton_append,
        taken_value_array, hread, arrayValue?]
      cases items.mapM fun p : Part => p.value? depth <;> rfl
  | @object inside members spelled ih =>
    intro front rest _
    refine ⟨.none, ?_⟩
    cases depth with
    | zero =>
      rw [value, skipSpaces_blanks]
      rfl
    | succ depth =>
      have hread : taken (objectOf (fun _ => value depth) (front.bytes ++ (0x7b :: (inside.bytes ++
          (commas (members.map MemberText.text) ++ 0x7d :: rest))))) =
          (members.mapM fun m : MemberText => m.member? depth).map (·, rest) :=
        taken_enclosed front inside rfl (.inr rfl)
          (fun m _ => expect?_member (.inr rfl) m)
          fun m hm => takes_member fun _ => takes_part (ih m hm depth)
      rw [List.cons_append, List.append_assoc, List.append_assoc, List.singleton_append,
        taken_value_object, hread, objectValue?]
      cases members.mapM fun m : MemberText => m.member? depth <;> rfl

/-! ## Passing over a value -/

/-- The byte that ends the container. -/
def Frame.closing (frame : Frame) : UInt8 := if frame = .array then 0x5d else 0x7d

/-- What the container has inside. -/
def Frame.inside (frame : Frame) : Expecting := if frame = .array then .value else .key

variable {frame : Frame} {stack : List Frame} {items : List ι} {first : ι} {piece : ι → List UInt8}

theorem Frame.closing_spec (frame : Frame) : Closing frame.closing := by
  cases frame with
  | array => exact .inl rfl
  | object => exact .inr rfl

/-- From behind blanks, this is passed over in front of whatever goes on with no number, but for
blanks. -/
def Passes (next : Expecting) (s : List UInt8) : Prop :=
  ∀ (stack : List Frame) (front : Blanks) (rest : List UInt8), Apart rest →
    ∃ back : Blanks, skipFrom next stack (front.bytes ++ (s ++ rest)) =
      skipFrom .delimiter stack (back.bytes ++ rest)

theorem skipFrom_next (back : Blanks) :
    skipFrom .delimiter (frame :: stack) (back.bytes ++ 0x2c :: rest) =
      skipFrom frame.inside (frame :: stack) rest := by
  have hcomma : expect? 0x2c (back.bytes ++ 0x2c :: rest) = some rest := by
    rw [expect?_blanks, expect?_cons rfl]
  rw [skipFrom]
  split
  · next h =>
    rw [hcomma] at h
    cases h
    rfl
  · next h =>
    rw [hcomma] at h
    cases h

theorem skipFrom_last (back : Blanks) :
    skipFrom .delimiter (frame :: stack) (back.bytes ++ frame.closing :: rest) =
      skipFrom .delimiter stack rest := by
  have hclosing := frame.closing_spec
  have hcomma : expect? 0x2c (back.bytes ++ frame.closing :: rest) = none := by
    rw [expect?_blanks, expect?_cons_ne hclosing.not_space hclosing.not_comma]
  have hclose : expect? frame.closing (back.bytes ++ frame.closing :: rest) = some rest := by
    rw [expect?_blanks, expect?_cons hclosing.not_space]
  rw [skipFrom]
  split
  · next h =>
    rw [hcomma] at h
    cases h
  · split
    · next h =>
      cases hclose.symm.trans h
      rfl
    · next h => cases hclose.symm.trans h

/-- Items with commas between them are passed over one by one. -/
theorem skipFrom_separated (hitems : ∀ i ∈ first :: items, Passes frame.inside (piece i))
    (front : Blanks) :
    skipFrom frame.inside (frame :: stack)
        (front.bytes ++ (commas ((first :: items).map piece) ++ frame.closing :: rest)) =
      skipFrom .delimiter stack rest := by
  induction items generalizing first front with
  | nil =>
    obtain ⟨back, hpass⟩ := hitems first List.mem_cons_self (frame :: stack) front _
      (frame.closing_spec.apart rest)
    rw [List.map_singleton, commas, List.flatMap_nil, List.append_nil, hpass, skipFrom_last]
  | cons next others ih =>
    obtain ⟨back, hpass⟩ := hitems first List.mem_cons_self (frame :: stack) front
      (0x2c :: (commas ((next :: others).map piece) ++ frame.closing :: rest))
      (apart_cons (.inl rfl) _)
    have htext : commas ((first :: next :: others).map piece) ++ frame.closing :: rest =
        piece first ++ 0x2c :: (commas ((next :: others).map piece) ++ frame.closing :: rest) := by
      simp [commas]
    rw [htext, hpass, skipFrom_next]
    exact ih (fun i hi => hitems i (List.mem_cons_of_mem _ hi)) .none

/-- A value that is no container is passed over. -/
theorem skipFrom_scalar (front : Blanks) (hspace : isSpace b = false) (harray : b ≠ 0x5b)
    (hobject : b ≠ 0x7b) (hscalar : skipScalar? (b :: more) = some rest) :
    skipFrom .value stack (front.bytes ++ (b :: more)) = skipFrom .delimiter stack rest := by
  have hno {c : UInt8} (hne : b ≠ c) : expect? c (front.bytes ++ (b :: more)) = none := by
    rw [expect?_blanks, expect?_cons_ne hspace hne]
  have hskip : skipScalar? (skipSpaces (front.bytes ++ (b :: more))) = some rest := by
    rw [skipSpaces_blanks, skipSpaces_cons hspace, hscalar]
  rw [skipFrom]
  split
  · next h => cases (hno harray).symm.trans h
  · split
    · next h => cases (hno hobject).symm.trans h
    · split
      · next h =>
        cases hskip.symm.trans h
        rfl
      · next h => cases hskip.symm.trans h

/-- Behind its opening byte a container ends at once, or its items are passed over. -/
theorem skipFrom_inside (frame : Frame) (stack : List Frame) (inside : Blanks)
    (hhead : ∀ i ∈ items, ∀ rest, expect? frame.closing (piece i ++ rest) = none)
    (hitems : ∀ i ∈ items, Passes frame.inside (piece i))
    (hs : s = inside.bytes ++ (commas (items.map piece) ++ frame.closing :: rest)) :
    expect? frame.closing s = some rest ∨
      expect? frame.closing s = none ∧
        skipFrom frame.inside (frame :: stack) s = skipFrom .delimiter stack rest := by
  rw [hs, expect?_blanks]
  cases items with
  | nil => exact .inl (expect?_cons frame.closing_spec.not_space)
  | cons first others =>
    refine .inr ⟨?_, skipFrom_separated hitems inside⟩
    rw [List.map_cons, commas, List.append_assoc]
    exact hhead first List.mem_cons_self _

theorem skipFrom_array (front inside : Blanks)
    (hhead : ∀ i ∈ items, ∀ rest, expect? 0x5d (piece i ++ rest) = none)
    (hitems : ∀ i ∈ items, Passes .value (piece i)) :
    skipFrom .value stack (front.bytes ++ (0x5b :: (inside.bytes ++
        (commas (items.map piece) ++ 0x5d :: rest)))) = skipFrom .delimiter stack rest := by
  have hopen : expect? 0x5b (front.bytes ++ (0x5b :: (inside.bytes ++
      (commas (items.map piece) ++ 0x5d :: rest)))) =
      some (inside.bytes ++ (commas (items.map piece) ++ 0x5d :: rest)) := by
    rw [expect?_blanks, expect?_cons rfl]
  rw [skipFrom]
  split
  · next h =>
    cases hopen.symm.trans h
    rcases skipFrom_inside .array stack inside hhead hitems rfl with
      hends | ⟨hgoes, hskip⟩
    · split
      · next h =>
        cases hends.symm.trans h
        rfl
      · next h => cases hends.symm.trans h
    · split
      · next h => cases hgoes.symm.trans h
      · exact hskip
  · next h => cases hopen.symm.trans h

theorem skipFrom_object (front inside : Blanks)
    (hhead : ∀ i ∈ items, ∀ rest, expect? 0x7d (piece i ++ rest) = none)
    (hitems : ∀ i ∈ items, Passes .key (piece i)) :
    skipFrom .value stack (front.bytes ++ (0x7b :: (inside.bytes ++
        (commas (items.map piece) ++ 0x7d :: rest)))) = skipFrom .delimiter stack rest := by
  have harray : expect? 0x5b (front.bytes ++ (0x7b :: (inside.bytes ++
      (commas (items.map piece) ++ 0x7d :: rest)))) = none := by
    rw [expect?_blanks, expect?_cons_ne rfl (by decide)]
  have hopen : expect? 0x7b (front.bytes ++ (0x7b :: (inside.bytes ++
      (commas (items.map piece) ++ 0x7d :: rest)))) =
      some (inside.bytes ++ (commas (items.map piece) ++ 0x7d :: rest)) := by
    rw [expect?_blanks, expect?_cons rfl]
  rw [skipFrom]
  split
  · next h => cases harray.symm.trans h
  · split
    · next h =>
      cases hopen.symm.trans h
      rcases skipFrom_inside .object stack inside hhead hitems rfl with
        hends | ⟨hgoes, hskip⟩
      · split
        · next h =>
          cases hends.symm.trans h
          rfl
        · next h => cases hends.symm.trans h
      · split
        · next h => cases hgoes.symm.trans h
        · exact hskip
    · next h => cases hopen.symm.trans h

theorem passes_part (h : Passes .value p.core) : Passes .value p.text := by
  intro stack front rest hrest
  obtain ⟨back, hpass⟩ :=
    h stack (front.append p.front) (p.back.bytes ++ rest) (hrest.blanks p.back)
  refine ⟨back.append p.back, ?_⟩
  rw [p.text_between, hpass, Blanks.append, List.append_assoc]

/-- A member is passed over if its value is. -/
theorem passes_member (h : Passes .value m.value.text) : Passes .key m.text := by
  intro stack front rest hrest
  obtain ⟨back, hpass⟩ := h stack .none rest hrest
  refine ⟨back, ?_⟩
  have hquote : expect? 0x22 (front.bytes ++ (m.text ++ rest)) = some (m.key.flatMap Piece.text ++
      0x22 :: (m.back.bytes ++ 0x3a :: (m.value.text ++ rest))) := by
    rw [MemberText.text, Piece.quoted, expect?_blanks, List.append_assoc, expect?_blanks]
    simp only [List.cons_append, List.append_assoc, List.nil_append]
    exact expect?_cons rfl
  have hcolon : expect? 0x3a (m.back.bytes ++ 0x3a :: (m.value.text ++ rest)) =
      some (m.value.text ++ rest) := by rw [expect?_blanks, expect?_cons rfl]
  rw [skipFrom]
  split
  · next h => cases hquote.symm.trans h
  · next h =>
    cases hquote.symm.trans h
    split
    · next h => cases (skipString?_text m.key).symm.trans h
    · next h =>
      cases (skipString?_text m.key).symm.trans h
      split
      · next h => cases hcolon.symm.trans h
      · next h =>
        cases hcolon.symm.trans h
        exact hpass

/-- **A value in any layout is passed over**, whatever it stands for. -/
theorem passes_core (h : Spells core v?) : Passes .value core := by
  induction h with
  | null =>
    intro stack front rest _
    exact ⟨.none, skipFrom_scalar front rfl (by decide) (by decide) rfl⟩
  | bool b =>
    intro stack front rest _
    cases b with
    | false => exact ⟨.none, skipFrom_scalar front rfl (by decide) (by decide) rfl⟩
    | true => exact ⟨.none, skipFrom_scalar front rfl (by decide) (by decide) rfl⟩
  | number n =>
    intro stack front rest hrest
    obtain ⟨b, more, htext, hb⟩ := n.exists_cons
    have hscan : (scan? (n.text ++ rest)).map Prod.snd = some rest := by
      rw [scan?_text n hrest]
      rfl
    refine ⟨.none, ?_⟩
    rw [htext, List.cons_append] at hscan ⊢
    refine skipFrom_scalar front hb.not_space (hb.ne rfl (by decide)) (hb.ne rfl (by decide)) ?_
    rw [skipScalar?.eq_def]
    split
    · next heq => exact absurd heq (hb.cons_ne (by decide))
    · next heq => exact absurd heq (hb.cons_ne (by decide))
    · next heq => exact absurd heq (hb.cons_ne (by decide))
    · next heq => exact absurd heq (hb.cons_ne (by decide))
    · exact hscan
  | string pieces =>
    intro stack front rest _
    refine ⟨.none, ?_⟩
    rw [Piece.quoted, List.cons_append, List.append_assoc]
    exact skipFrom_scalar front rfl (by decide) (by decide) (skipString?_text pieces)
  | @array inside items spelled ih =>
    intro stack front rest _
    refine ⟨.none, ?_⟩
    rw [List.cons_append, List.append_assoc, List.append_assoc, List.singleton_append]
    exact skipFrom_array front inside (fun p hp => expect?_part (.inl rfl) (spelled p hp))
      fun p hp => passes_part (ih p hp)
  | @object inside members spelled ih =>
    intro stack front rest _
    refine ⟨.none, ?_⟩
    rw [List.cons_append, List.append_assoc, List.append_assoc, List.singleton_append]
    exact skipFrom_object front inside (fun m _ => expect?_member (.inr rfl) m)
      fun m hm => passes_member (passes_part (ih m hm))

end Json
end HeaderFollower
