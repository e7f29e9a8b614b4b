/-
# Words are read back

A word is the value of its four bytes to the base 256 (`toNat_word`), and its bytes are the digits of
that value (`wordBytes_eq`). So the bytes of a word are read as this word (`word_wordBytes`), and the
word that is read anywhere has the bytes that stand there (`wordBytes_word`).
-/

import HeaderFollower.Bytes.Words

namespace HeaderFollower
namespace Bytes

/-- Four bytes, the least significant first, as one number. -/
theorem toNat_or_bytes (b₀ b₁ b₂ b₃ : UInt8) :
    (b₀.toUInt32 ||| b₁.toUInt32 <<< 8 ||| b₂.toUInt32 <<< 16 ||| b₃.toUInt32 <<< 24).toNat =
      b₀.toNat + b₁.toNat * 256 + b₂.toNat * 65536 + b₃.toNat * 16777216 := by
  have h₀ : b₀.toNat < 2 ^ 8 := b₀.toNat_lt
  have h₁ : b₁.toNat < 2 ^ 8 := b₁.toNat_lt
  have h₂ : b₂.toNat < 2 ^ 8 := b₂.toNat_lt
  have h₃ : b₃.toNat < 2 ^ 8 := b₃.toNat_lt
  -- No byte is shifted out of the word.
  have hfits {b k : Nat} (hb : b < 2 ^ 8) (hk : k ≤ 24) : b <<< k % 2 ^ 32 = b <<< k := by
    refine Nat.mod_eq_of_lt ?_
    calc b <<< k = b * 2 ^ k := Nat.shiftLeft_eq ..
      _ < 2 ^ 8 * 2 ^ k := Nat.mul_lt_mul_of_pos_right hb (Nat.two_pow_pos k)
      _ ≤ 2 ^ 8 * 2 ^ 24 := Nat.mul_le_mul_left _ (Nat.pow_le_pow_right (by decide) hk)
  have hword : (b₀.toUInt32 ||| b₁.toUInt32 <<< 8 ||| b₂.toUInt32 <<< 16 |||
      b₃.toUInt32 <<< 24).toNat = b₀.toNat ||| b₁.toNat <<< 8 ||| b₂.toNat <<< 16 |||
        b₃.toNat <<< 24 := by
    simp only [UInt32.toNat_or, UInt32.toNat_shiftLeft, UInt8.toNat_toUInt32]
    rw [← hfits h₁ (show 8 ≤ 24 by decide), ← hfits h₂ (show 16 ≤ 24 by decide),
      ← hfits h₃ (Nat.le_refl 24)]
    rfl
  -- Bits that are shifted past all others are added to them.
  have hadd {low n k : Nat} (h : low < 2 ^ k) : low ||| n <<< k = low + n * 2 ^ k := by
    rw [Nat.or_comm, ← Nat.shiftLeft_add_eq_or_of_lt h, Nat.shiftLeft_eq, Nat.add_comm]
  have h₀₁ : b₀.toNat + b₁.toNat * 2 ^ 8 < 2 ^ 16 := by omega
  have h₀₂ : b₀.toNat + b₁.toNat * 2 ^ 8 + b₂.toNat * 2 ^ 16 < 2 ^ 24 := by omega
  calc (b₀.toUInt32 ||| b₁.toUInt32 <<< 8 ||| b₂.toUInt32 <<< 16 ||| b₃.toUInt32 <<< 24).toNat
    _ = b₀.toNat + b₁.toNat * 2 ^ 8 + b₂.toNat * 2 ^ 16 + b₃.toNat * 2 ^ 24 := by
      rw [hword, hadd h₀, hadd h₀₁, hadd h₀₂]
    _ = b₀.toNat + b₁.toNat * 256 + b₂.toNat * 65536 + b₃.toNat * 16777216 := by omega

/-- The value of a word is made up of its bytes. -/
theorem toNat_word (s : List UInt8) (start : Nat) :
    (word s start).toNat = (s.getD start 0).toNat + (s.getD (start + 1) 0).toNat * 256 +
      (s.getD (start + 2) 0).toNat * 65536 + (s.getD (start + 3) 0).toNat * 16777216 :=
  toNat_or_bytes _ _ _ _

/-- The bytes of a word are the digits of its value, the last one first. -/
theorem wordBytes_eq (w : UInt32) :
    wordBytes w = [.ofNat w.toNat, .ofNat (w.toNat / 256), .ofNat (w.toNat / 65536),
      .ofNat (w.toNat / 16777216)] := by
  simp only [wordBytes, ← UInt8.toNat_inj, List.cons.injEq, and_true]
  simp [Nat.shiftRight_eq_div_pow]

/-- The bytes of a word are read as this word. -/
theorem word_wordBytes (w : UInt32) : word (wordBytes w) 0 = w := by
  have hw : w.toNat < 2 ^ 32 := w.toNat_lt
  rw [← UInt32.toNat_inj, toNat_word, wordBytes_eq]
  simp only [List.getD_cons_zero, List.getD_cons_succ, UInt8.toNat_ofNat', Nat.zero_add]
  omega

theorem wordBytes_injective {w v : UInt32} (h : wordBytes w = wordBytes v) : w = v := by
  rw [← word_wordBytes w, h, word_wordBytes]

/-- The bytes of the word that stands somewhere are those that stand there. -/
theorem wordBytes_word {s : List UInt8} {start : Nat} (h : start + 4 ≤ s.length) :
    wordBytes (word s start) = (s.drop start).take 4 := by
  have hbyte {i : Nat} (hi : i < s.length) : s.getD i 0 = s[i] := by
    rw [List.getD_eq_getElem?_getD, List.getElem?_eq_getElem hi, Option.getD_some]
  have h₀ : start < s.length := by omega
  have h₁ : start + 1 < s.length := by omega
  have h₂ : start + 2 < s.length := by omega
  have h₃ : start + 3 < s.length := by omega
  have hdrop : (s.drop start).take 4 = [s[start], s[start + 1], s[start + 2], s[start + 3]] := by
    rw [List.drop_eq_getElem_cons h₀, List.drop_eq_getElem_cons h₁, List.drop_eq_getElem_cons h₂,
      List.drop_eq_getElem_cons h₃]
    rfl
  have hlt (b : UInt8) : b.toNat < 256 := b.toNat_lt
  have hlt₀ := hlt s[start]
  have hlt₁ := hlt s[start + 1]
  have hlt₂ := hlt s[start + 2]
  have hlt₃ := hlt s[start + 3]
  rw [hdrop, wordBytes_eq, toNat_word, hbyte h₀, hbyte h₁, hbyte h₂, hbyte h₃]
  simp only [List.cons.injEq, ← UInt8.toNat_inj, UInt8.toNat_ofNat', and_true]
  omega

end Bytes
end HeaderFollower
