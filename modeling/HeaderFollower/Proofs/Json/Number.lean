/-
# How integers are written

An integer is written in its decimal digits (`digitBytes`). `exists_numberText` says that they are a
number of the grammar and that its value is the integer, `write_ge` that no byte of it is a control.
-/

import HeaderFollower.Proofs.Json.Spelling

namespace HeaderFollower
namespace Json

variable {n significand taken : Nat} {digits more : List UInt8} {b : UInt8}

/-! ## Decimal digits -/

/-- The decimal digits of a number as bytes. -/
def digitBytes (n : Nat) : List UInt8 := Text.utf8 (toString n)

theorem utf8EncodeChar_digitChar (h : n < 10) :
    String.utf8EncodeChar (Nat.digitChar n) = [UInt8.ofNat (48 + n)] := by
  have hall : (List.range 10).all fun n =>
      String.utf8EncodeChar (Nat.digitChar n) == [UInt8.ofNat (48 + n)] := by decide
  exact beq_iff_eq.1 (List.all_eq_true.1 hall n (List.mem_range.2 h))

theorem digitBytes_of_lt (h : n < 10) : digitBytes n = [UInt8.ofNat (48 + n)] := by
  rw [digitBytes, Text.utf8, Nat.toString_eq_repr, Nat.toList_repr, Nat.toDigits_of_lt_base h,
    List.flatMap_singleton, utf8EncodeChar_digitChar h]

/-- The last digit stands behind the others. -/
theorem digitBytes_of_ge (h : 10 ≤ n) :
    digitBytes n = digitBytes (n / 10) ++ [UInt8.ofNat (48 + n % 10)] := by
  have hlast : n % 10 < 10 := Nat.mod_lt n (by decide)
  rw [digitBytes, digitBytes, Text.utf8, Text.utf8, Nat.toString_eq_repr, Nat.toString_eq_repr,
    Nat.toList_repr, Nat.toList_repr, Nat.toDigits_of_base_le (by decide) h, List.flatMap_append,
    List.flatMap_singleton, utf8EncodeChar_digitChar hlast]

/-- A digit is one, has its value, and is the zero only for zero. -/
theorem digit_facts (h : n < 10) :
    isDigit (UInt8.ofNat (48 + n)) = true ∧ digitValue (UInt8.ofNat (48 + n)) = n ∧
      (n ≠ 0 → UInt8.ofNat (48 + n) ≠ 48) := by
  have hall : (List.range 10).all fun n =>
      isDigit (UInt8.ofNat (48 + n)) && digitValue (UInt8.ofNat (48 + n)) == n &&
        (n == 0 || UInt8.ofNat (48 + n) != 48) := by decide
  have hn := List.all_eq_true.1 hall n (List.mem_range.2 h)
  simp only [Bool.and_eq_true, beq_iff_eq, Bool.or_eq_true, bne_iff_ne, and_assoc] at hn
  exact ⟨hn.1, hn.2.1, fun hzero => hn.2.2.resolve_left hzero⟩

theorem isDigit_of_mem (h : b ∈ digitBytes n) : isDigit b = true := by
  induction n using Nat.strongRecOn with
  | ind n ih =>
    rcases Nat.lt_or_ge n 10 with hn | hn
    · rw [digitBytes_of_lt hn, List.mem_singleton] at h
      exact h ▸ (digit_facts hn).1
    · rw [digitBytes_of_ge hn, List.mem_append, List.mem_singleton] at h
      rcases h with h | rfl
      · exact ih (n / 10) (by omega) h
      · exact (digit_facts (Nat.mod_lt n (by decide))).1

/-- The digits of a number other than zero do not begin with a zero. -/
theorem digitBytes_head (hzero : n ≠ 0) :
    ∃ d digits, digitBytes n = d :: digits ∧ d ≠ 48 := by
  induction n using Nat.strongRecOn with
  | ind n ih =>
    rcases Nat.lt_or_ge n 10 with hn | hn
    · exact ⟨_, [], digitBytes_of_lt hn, (digit_facts hn).2.2 hzero⟩
    · obtain ⟨d, digits, hfirst, hd⟩ := ih (n / 10) (by omega) (by omega)
      exact ⟨d, _, by rw [digitBytes_of_ge hn, hfirst]; rfl, hd⟩

theorem digitBytes_ne_nil (n : Nat) : digitBytes n ≠ [] := by
  by_cases hzero : n = 0
  · subst hzero
    rw [digitBytes_of_lt (by decide)]
    exact List.cons_ne_nil _ _
  · obtain ⟨d, digits, hfirst, -⟩ := digitBytes_head hzero
    rw [hfirst]
    exact List.cons_ne_nil _ _

theorem length_digitBytes_le {k : Nat} (hk : 0 < k) (h : n < Nat.pow 10 k) :
    (digitBytes n).length ≤ k := by
  induction k generalizing n with
  | zero => cases hk
  | succ k ih =>
    rcases Nat.lt_or_ge n 10 with hn | hn
    · rw [digitBytes_of_lt hn]
      exact hk
    · have hmore : 0 < k := by
        refine Nat.pos_of_ne_zero fun hzero => ?_
        rw [hzero] at h
        exact absurd hn (Nat.not_le.2 h)
      have hten : n < 10 * Nat.pow 10 k := Nat.lt_of_lt_of_eq h (Nat.mul_comm (Nat.pow 10 k) 10)
      rw [digitBytes_of_ge hn, List.length_append]
      exact Nat.succ_le_succ (ih hmore (Nat.div_lt_of_lt_mul hten))

/-! ## The value of digits -/

/-- Digits that are all taken are taken before the others. -/
theorem takeDigits_append {value count : Nat}
    (h : takeDigits significand taken digits = (value, count, 0)) :
    takeDigits significand taken (digits ++ more) = takeDigits value count more := by
  induction digits generalizing significand taken with
  | nil =>
    obtain ⟨hvalue, h⟩ := Prod.mk.inj h
    obtain ⟨hcount, -⟩ := Prod.mk.inj h
    rw [List.nil_append, hvalue, hcount]
  | cons d digits ih =>
    rw [takeDigits] at h
    split at h
    · next hnext =>
      rw [List.cons_append, takeDigits, if_pos hnext]
      exact ih h
    · exact absurd (congrArg (·.2.2) h) (Nat.succ_ne_zero _)

/-- The digits of a number of 64 bits are all taken, and give the number. -/
theorem takeDigits_digitBytes (h : n < 0x10000000000000000) :
    ∃ count, takeDigits 0 0 (digitBytes n) = (n, count, 0) := by
  induction n using Nat.strongRecOn with
  | ind n ih =>
    rcases Nat.lt_or_ge n 10 with hn | hn
    · refine ⟨1, ?_⟩
      rw [digitBytes_of_lt hn, takeDigits, (digit_facts hn).2.1, Nat.zero_mul, Nat.zero_add,
        if_pos h]
      rfl
    · obtain ⟨count, htaken⟩ := ih (n / 10) (by omega) (by omega)
      have hlast := (digit_facts (Nat.mod_lt n (show 10 > 0 by decide))).2.1
      have hvalue : n / 10 * 10 + n % 10 = n := Nat.div_add_mod' n 10
      refine ⟨count + 1, ?_⟩
      rw [digitBytes_of_ge hn, takeDigits_append htaken, takeDigits, hlast, hvalue, if_pos h]
      rfl

/-! ## Integers -/

/-- An integer, from `-2 ^ 63` to `2 ^ 64 - 1`. -/
inductive Whole : JsonNumber → Prop where
  | natural (n : UInt64) : Whole (.natural n)
  | negative (n : UInt64) (pos : 0 < n.toNat) (le : n.toNat ≤ 0x8000000000000000) :
      Whole (.negative n)

theorem utf8_write_negative (n : UInt64) :
    Text.utf8 (JsonNumber.negative n).write = 0x2d :: digitBytes n.toNat := by
  rw [JsonNumber.write, Text.utf8_append]
  rfl

/-- The digits of a number as the grammar has them. -/
def digitsOf (n : Nat) : Digits := ⟨digitBytes n, digitBytes_ne_nil n, fun _ => isDigit_of_mem⟩

theorem digitsOf_unpadded (n : Nat) (h : (digitsOf n).bytes.head? = some 48) :
    (digitsOf n).bytes = [48] := by
  by_cases hzero : n = 0
  · subst hzero
    exact digitBytes_of_lt (by decide)
  · obtain ⟨d, digits, hfirst, hd⟩ := digitBytes_head hzero
    have hhead : (digitsOf n).bytes.head? = some d := congrArg List.head? hfirst
    exact absurd (Option.some.inj (hhead.symm.trans h)) hd

/-- **What is written as an integer spells it.** -/
theorem exists_numberText {number : JsonNumber} (h : Whole number) :
    ∃ n : NumberText, n.text = Text.utf8 number.write ∧ n.numeral.value? = some number := by
  have htext (negative : Bool) (n : Nat) : NumberText.text
      ⟨negative, digitsOf n, digitsOf_unpadded n, none, none⟩ =
        (if negative then [0x2d] else []) ++ digitBytes n := by
    rw [← List.append_nil (digitBytes n)]
    rfl
  cases h with
  | natural n =>
    obtain ⟨count, htaken⟩ := takeDigits_digitBytes n.toNat_lt
    refine ⟨⟨false, digitsOf n.toNat, digitsOf_unpadded n.toNat, none, none⟩, htext false n.toNat, ?_⟩
    simp only [Numeral.value?, NumberText.numeral, digitsOf, Option.map_none, htaken, Bool.not_false,
      if_true, UInt64.ofNat_toNat]
  | negative n pos le =>
    obtain ⟨count, htaken⟩ := takeDigits_digitBytes n.toNat_lt
    refine ⟨⟨true, digitsOf n.toNat, digitsOf_unpadded n.toNat, none, none⟩, ?_, ?_⟩
    · rw [htext, utf8_write_negative]
      rfl
    · simp only [Numeral.value?, NumberText.numeral, digitsOf, Option.map_none, htaken,
        Bool.not_true, Bool.false_eq_true, if_false, pos, le, and_self, if_true, UInt64.ofNat_toNat]

/-- Nothing that is written as an integer is a control. -/
theorem write_ge {number : JsonNumber} (hwhole : Whole number) (h : b ∈ Text.utf8 number.write) :
    0x20 ≤ b := by
  have hdigit {n : Nat} (h : b ∈ digitBytes n) : 0x20 ≤ b := by
    have hb := isDigit_of_mem h
    rw [isDigit, Bool.and_eq_true, decide_eq_true_eq] at hb
    exact UInt8.le_trans (by decide) hb.1
  cases hwhole with
  | natural n => exact hdigit h
  | negative n pos le =>
    rw [utf8_write_negative] at h
    rcases List.mem_cons.1 h with rfl | h
    · decide
    · exact hdigit h

end Json
end HeaderFollower
