/-
# How strings are written

A string is written between quotation marks, each of its characters as its UTF-8 bytes or as an
escape (`escape_cases`). `spellText_ge` says that no byte of it is a control, so that it never breaks
a line, and `length_spellText_le` that it is at most six times as long.
-/

import HeaderFollower.Json.Writer
import HeaderFollower.Proofs.Bytes.Hex

namespace HeaderFollower

/-- The UTF-8 bytes of a text. -/
def Text.utf8 (s : String) : List UInt8 := s.toList.flatMap String.utf8EncodeChar

namespace Text

theorem toList_toUTF8 (s : String) : s.toUTF8.toList = utf8 s := by
  rw [Hex.toList_eq_data, String.toUTF8_eq_toByteArray, ← String.utf8Encode_toList,
    List.utf8Encode, List.toList_data_toByteArray, utf8]

theorem length_utf8 (s : String) : (utf8 s).length = s.utf8ByteSize := by
  rw [← toList_toUTF8, Hex.length_toList_toUTF8]

@[simp] theorem utf8_append (s t : String) : utf8 (s ++ t) = utf8 s ++ utf8 t := by
  rw [utf8, String.toList_append, List.flatMap_append]
  rfl

@[simp] theorem utf8_push (s : String) (c : Char) :
    utf8 (s.push c) = utf8 s ++ String.utf8EncodeChar c := by
  rw [utf8, String.toList_push, List.flatMap_append]
  simp [utf8]

/-- Bytes of a text give the text. -/
theorem fromUTF8?_utf8 (s : String) : String.fromUTF8? (utf8 s).toByteArray = some s := by
  have hbytes : (utf8 s).toByteArray = s.toByteArray := by
    rw [utf8, ← List.utf8Encode, String.utf8Encode_toList]
  rw [hbytes, String.fromUTF8?, dif_pos s.isValidUTF8]
  rfl

theorem utf8_injective {s t : String} (h : utf8 s = utf8 t) : s = t := by
  have hs := fromUTF8?_utf8 s
  rw [h, fromUTF8?_utf8] at hs
  exact (Option.some.inj hs).symm

end Text

namespace Json

variable {b : UInt8}

/-! ## How characters are written -/

/-- What a character becomes between quotation marks. -/
def escape (c : Char) : List UInt8 := Text.utf8 (pushEscaped "" c)

/-- A string between its quotation marks. -/
def spellText (s : String) : List UInt8 := 0x22 :: (s.toList.flatMap escape ++ [0x22])

theorem pushEscaped_eq (acc : String) (c : Char) :
    Text.utf8 (pushEscaped acc c) = Text.utf8 acc ++ escape c := by
  unfold escape pushEscaped
  repeat' split
  all_goals simp [Text.utf8]

theorem utf8_pushString (acc s : String) :
    Text.utf8 (pushString acc s) = Text.utf8 acc ++ spellText s := by
  have hfold (cs : List Char) (acc : String) :
      Text.utf8 (cs.foldl pushEscaped acc) = Text.utf8 acc ++ cs.flatMap escape := by
    induction cs generalizing acc with
    | nil => simp
    | cons c rest ih => rw [List.foldl_cons, ih, pushEscaped_eq, List.flatMap_cons,
        List.append_assoc]
  rw [pushString, String.foldl_eq_foldl_toList, Text.utf8_push, hfold, Text.utf8_push, spellText]
  simp [String.utf8EncodeChar]

/-- A byte that stands for itself between quotation marks. -/
def Plain (b : UInt8) : Prop := 0x20 ≤ b ∧ b ≠ 0x22 ∧ b ≠ 0x5c

theorem Plain.not_special (h : Plain b) : ¬ (b < 0x20 ∨ b = 0x5c) := by
  rintro (hlt | heq)
  · exact absurd h.1 (UInt8.not_le.2 hlt)
  · exact h.2.2 heq

theorem plain_of_high (h : 0x80 ≤ b) : Plain b := by
  refine ⟨?_, ?_, ?_⟩
  · exact UInt8.le_trans (by decide) h
  · rintro rfl
    exact absurd h (by decide)
  · rintro rfl
    exact absurd h (by decide)

/-- A byte with its highest bit set. -/
theorem high_of_or (x mark : UInt8) (h : 0x80 ≤ mark) : 0x80 ≤ x ||| mark := by
  rw [UInt8.le_iff_toNat_le] at h ⊢
  rw [UInt8.toNat_or]
  exact Nat.le_trans h Nat.right_le_or

/-- All bytes of a character that is no ASCII character are high. -/
theorem utf8EncodeChar_cases (c : Char) :
    (c.val ≤ 0x7f ∧ String.utf8EncodeChar c = [c.val.toUInt8]) ∨
      ∀ b ∈ String.utf8EncodeChar c, 0x80 ≤ b := by
  rw [String.utf8EncodeChar_eq_utf8EncodeCharFast, String.utf8EncodeCharFast]
  split
  · next h => exact .inl ⟨h, rfl⟩
  · right
    have hlow (x : UInt8) : 0x80 ≤ x ||| 0x80 := high_of_or x 0x80 (by decide)
    split
    · simp only [List.forall_mem_cons, List.not_mem_nil, false_imp_iff, implies_true, and_true]
      exact ⟨high_of_or _ 0xc0 (by decide), hlow _⟩
    · split
      · simp only [List.forall_mem_cons, List.not_mem_nil, false_imp_iff, implies_true, and_true]
        exact ⟨high_of_or _ 0xe0 (by decide), hlow _, hlow _⟩
      · simp only [List.forall_mem_cons, List.not_mem_nil, false_imp_iff, implies_true, and_true]
        exact ⟨high_of_or _ 0xf0 (by decide), hlow _, hlow _, hlow _⟩

/-- A character that needs no escape is written in bytes that stand for themselves. -/
theorem plain_of_mem_utf8EncodeChar {c : Char} (hq : c ≠ '"') (hb : c ≠ '\\') (hc : 0x20 ≤ c.toNat)
    {b : UInt8} (h : b ∈ String.utf8EncodeChar c) : Plain b := by
  rcases utf8EncodeChar_cases c with ⟨hascii, hchar⟩ | hhigh
  · rw [hchar, List.mem_singleton] at h
    subst h
    have hval : c.val.toUInt8.toNat = c.toNat := by
      rw [UInt32.le_iff_toNat_le] at hascii
      rw [UInt32.toNat_toUInt8]
      exact Nat.mod_eq_of_lt (Nat.lt_of_le_of_lt hascii (by decide))
    have hne {d : Char} (hd : c ≠ d) {x : UInt8} (hx : x.toNat = d.toNat) : c.val.toUInt8 ≠ x := by
      intro heq
      refine hd (Char.toNat_inj.1 ?_)
      rw [← hval, heq, hx]
    refine ⟨?_, hne hq rfl, hne hb rfl⟩
    rw [UInt8.le_iff_toNat_le, hval]
    exact hc
  · exact plain_of_high (hhigh b h)

/-- An ASCII character is one byte. -/
theorem utf8EncodeChar_of_ascii {c : Char} (h : c.val ≤ 0x7f) :
    String.utf8EncodeChar c = [c.val.toUInt8] :=
  String.utf8EncodeChar_eq_singleton (Char.utf8Size_eq_one_iff.2 h)

/-- The escape, short or by number, is that of the control with this code. -/
def escapesControl (n : Nat) : List UInt8 → Bool
  | [b, e] => b == 0x5c && 0x20 ≤ e && e != 0x75 && shortEscape? e == some (Char.ofNat n).val.toUInt8
  | [b, u, d₃, d₂, d₁, d₀] =>
    b == 0x5c && u == 0x75 && d₃ == 0x30 && d₂ == 0x30 && 0x20 ≤ d₁ && 0x20 ≤ d₀ &&
      codeUnit? 0x30 0x30 d₁ d₀ == some n
  | _ => false

/-- A control is written as a short escape or by its number. -/
theorem escape_control {c : Char} (hc : c.toNat < 0x20) :
    (∃ e, escape c = [0x5c, e] ∧ 0x20 ≤ e ∧ e ≠ 0x75 ∧ shortEscape? e = some c.val.toUInt8) ∨
      ∃ d₁ d₂, escape c = [0x5c, 0x75, 0x30, 0x30, d₁, d₂] ∧ 0x20 ≤ d₁ ∧ 0x20 ≤ d₂ ∧
        codeUnit? 0x30 0x30 d₁ d₂ = some c.toNat := by
  have hall : (List.range 0x20).all fun n => escapesControl n (escape (Char.ofNat n)) := by
    decide +kernel
  have hn := List.all_eq_true.1 hall c.toNat (List.mem_range.2 hc)
  rw [Char.ofNat_toNat, escapesControl.eq_def] at hn
  split at hn
  · next b e hescape =>
    simp only [Bool.and_eq_true, decide_eq_true_eq, bne_iff_ne, beq_iff_eq, and_assoc] at hn
    obtain ⟨rfl, hge, hne, hshort⟩ := hn
    rw [Char.ofNat_toNat] at hshort
    exact .inl ⟨e, hescape, hge, hne, hshort⟩
  · next b u d₃ d₂ d₁ d₀ hescape =>
    simp only [Bool.and_eq_true, decide_eq_true_eq, beq_iff_eq, and_assoc] at hn
    obtain ⟨rfl, rfl, rfl, rfl, hunit⟩ := hn
    exact .inr ⟨d₁, d₀, hescape, hunit⟩
  · cases hn

/-- A character is written as it is, as a short escape, or by its number. -/
theorem escape_cases (c : Char) :
    (escape c = String.utf8EncodeChar c ∧ ∀ b ∈ escape c, Plain b) ∨
    (∃ e b, escape c = [0x5c, e] ∧ 0x20 ≤ e ∧ e ≠ 0x75 ∧ shortEscape? e = some b ∧
      String.utf8EncodeChar c = [b]) ∨
    ∃ d₁ d₂, escape c = [0x5c, 0x75, 0x30, 0x30, d₁, d₂] ∧ 0x20 ≤ d₁ ∧ 0x20 ≤ d₂ ∧
      codeUnit? 0x30 0x30 d₁ d₂ = some c.toNat ∧ c.toNat < 0x20 := by
  by_cases hq : c = '"'
  · subst hq
    exact .inr (.inl ⟨0x22, 0x22, rfl, by decide, by decide, rfl, rfl⟩)
  · by_cases hb : c = '\\'
    · subst hb
      exact .inr (.inl ⟨0x5c, 0x5c, rfl, by decide, by decide, rfl, rfl⟩)
    · by_cases hc : 0x20 ≤ c.toNat
      · have hescape : escape c = String.utf8EncodeChar c := by
          rw [escape, pushEscaped, if_neg hq, if_neg hb, if_pos hc, Text.utf8_push]
          rfl
        exact .inl ⟨hescape, fun b h => plain_of_mem_utf8EncodeChar hq hb hc (hescape ▸ h)⟩
      · rw [Nat.not_le] at hc
        rcases escape_control hc with ⟨e, hescape, hge, he, hshort⟩ | ⟨d₁, d₂, hescape, hunit⟩
        · have hascii : c.val ≤ 0x7f := by
            rw [UInt32.le_iff_toNat_le]
            exact Nat.le_of_lt (Nat.lt_trans hc (by decide))
          exact .inr (.inl ⟨e, _, hescape, hge, he, hshort, utf8EncodeChar_of_ascii hascii⟩)
        · exact .inr (.inr ⟨d₁, d₂, hescape, hunit.1, hunit.2.1, hunit.2.2, hc⟩)

/-- Nothing that is written as a string is a control. -/
theorem spellText_ge {s : String} (h : b ∈ spellText s) : 0x20 ≤ b := by
  rw [spellText, List.mem_cons, List.mem_append, List.mem_flatMap, List.mem_singleton] at h
  rcases h with rfl | ⟨c, -, h⟩ | rfl
  · decide
  · rcases escape_cases c with ⟨-, hplain⟩ | ⟨e, _, hescape, hge, -⟩ |
      ⟨d₁, d₂, hescape, hge₁, hge₂, -⟩
    · exact (hplain b h).1
    · simp only [hescape, List.mem_cons, List.not_mem_nil, or_false] at h
      rcases h with rfl | rfl
      · decide
      · exact hge
    · simp only [hescape, List.mem_cons, List.not_mem_nil, or_false] at h
      rcases h with rfl | rfl | rfl | rfl | rfl | rfl
      · decide
      · decide
      · decide
      · decide
      · exact hge₁
      · exact hge₂
  · decide

/-- An escape is at most six bytes for each byte. -/
theorem length_escape_le (c : Char) : (escape c).length ≤ 6 * (String.utf8EncodeChar c).length := by
  have hpos : 0 < (String.utf8EncodeChar c).length :=
    String.length_utf8EncodeChar c ▸ c.utf8Size_pos
  rcases escape_cases c with ⟨hescape, -⟩ | ⟨e, b, hescape, -, -, -, hbyte⟩ |
    ⟨d₁, d₂, hescape, -⟩
  · rw [hescape]
    omega
  · rw [hescape, hbyte]
    exact Nat.le_add_left 2 4
  · rw [hescape]
    exact Nat.mul_le_mul_left 6 hpos

/-- What is written as a string is at most six times as long, but for the quotation marks. -/
theorem length_spellText_le (s : String) : (spellText s).length ≤ 6 * s.utf8ByteSize + 2 := by
  have hchars (cs : List Char) :
      (cs.flatMap escape).length ≤ 6 * (cs.flatMap String.utf8EncodeChar).length := by
    induction cs with
    | nil => exact Nat.le_refl 0
    | cons c rest ih =>
      rw [List.flatMap_cons, List.flatMap_cons, List.length_append, List.length_append, Nat.mul_add]
      exact Nat.add_le_add (length_escape_le c) ih
  have hs := hchars s.toList
  rw [← Text.utf8, Text.length_utf8] at hs
  rw [spellText, List.length_cons, List.length_append, List.length_singleton]
  exact Nat.add_le_add_right hs 2

end Json
end HeaderFollower
