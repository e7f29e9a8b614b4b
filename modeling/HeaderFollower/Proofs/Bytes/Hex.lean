/-
# Hexadecimal text is read back

A text spells some bytes exactly if its own bytes, in lower case, are what is written for them
(`decode_eq_ok_iff_map_lower`). So it has two bytes for each byte it spells (`utf8ByteSize_of_decode`),
and the text of some bytes decodes to them (`decode_encode`).

The bytes of a text are those of its characters one after the other; a digit has one.
-/

import HeaderFollower.Bytes.Hex
import HeaderFollower.Text.Blank

namespace HeaderFollower
namespace Hex

theorem toList_eq_data (bytes : ByteArray) : bytes.toList = bytes.data.toList := by
  have hloop (i : Nat) (r : List UInt8) :
      ByteArray.toList.loop bytes i r = r.reverse ++ bytes.data.toList.drop i := by
    fun_induction ByteArray.toList.loop bytes i r with
    | case1 i r h ih =>
      have hi : i < bytes.data.toList.length := by simpa using h
      rw [ih, List.reverse_cons, List.append_assoc, List.drop_eq_getElem_cons hi]
      simp [ByteArray.get!, getElem!_pos bytes.data i (by simpa using h)]
    | case2 i r h =>
      have hi : bytes.data.toList.length ≤ i := by simpa using h
      rw [List.drop_of_length_le hi, List.append_nil]
  exact hloop 0 []

/-! ## Digits -/

/-- What holds of all bytes below a bound can be checked one after the other. -/
theorem of_all_below {n : Nat} (p : UInt8 → Bool) (h : (List.range n).all fun i => p (.ofNat i))
    {b : UInt8} (hb : b.toNat < n) : p b = true := by
  have hp := List.all_eq_true.1 h b.toNat (List.mem_range.2 hb)
  rwa [UInt8.ofNat_toNat] at hp

/-- The byte of the digit of a value below 16. -/
def digitByte (n : UInt8) : UInt8 := if n < 10 then 48 + n else 87 + n

/-- The lower-case form of an ASCII letter; every other byte stays. -/
def lower (b : UInt8) : UInt8 := if 0x41 ≤ b ∧ b ≤ 0x5a then b + 0x20 else b

/-! ### Halves -/

theorem toNat_high (b : UInt8) : (b >>> 4).toNat = b.toNat / 16 := by
  rw [UInt8.toNat_shiftRight, Nat.shiftRight_eq_div_pow]
  rfl

theorem toNat_low (b : UInt8) : (b &&& 15).toNat = b.toNat % 16 :=
  (UInt8.toNat_and b 15).trans (Nat.and_two_pow_sub_one_eq_mod b.toNat 4)

theorem high_lt (b : UInt8) : b >>> 4 < 16 := by
  rw [UInt8.lt_iff_toNat_lt, toNat_high]
  exact Nat.div_lt_of_lt_mul b.toNat_lt

theorem low_lt (b : UInt8) : b &&& 15 < 16 := by
  rw [UInt8.lt_iff_toNat_lt, toNat_low]
  exact Nat.mod_lt _ (by decide)

/-- A byte is made up of its halves. -/
theorem join_halves (b : UInt8) : (b >>> 4) * 16 + (b &&& 15) = b := by
  have hb : b.toNat < 256 := b.toNat_lt
  rw [← UInt8.toNat_inj, UInt8.toNat_add, UInt8.toNat_mul, toNat_high, toNat_low]
  show (b.toNat / 16 * 16 % 256 + b.toNat % 16) % 256 = b.toNat
  omega

/-- Two halves make up a byte. -/
theorem halves {x y : UInt8} (hx : x < 16) (hy : y < 16) :
    (x * 16 + y) >>> 4 = x ∧ (x * 16 + y) &&& 15 = y := by
  have hhigh : x.toNat < 16 := UInt8.lt_iff_toNat_lt.1 hx
  have hlow : y.toNat < 16 := UInt8.lt_iff_toNat_lt.1 hy
  have hsum : (x * 16 + y).toNat = x.toNat * 16 + y.toNat := by
    rw [UInt8.toNat_add, UInt8.toNat_mul]
    show (x.toNat * 16 % 256 + y.toNat) % 256 = x.toNat * 16 + y.toNat
    omega
  rw [← UInt8.toNat_inj, ← UInt8.toNat_inj, toNat_high, toNat_low, hsum]
  omega

/-! ### Values -/

theorem utf8_digit {x : UInt8} (hx : x < 16) : String.utf8EncodeChar (digit x) = [digitByte x] := by
  have h := of_all_below (fun x => String.utf8EncodeChar (digit x) == [digitByte x]) (by decide) hx
  exact eq_of_beq h

theorem utf8_digits (b : UInt8) :
    (digits b).flatMap String.utf8EncodeChar = [digitByte (b >>> 4), digitByte (b &&& 15)] := by
  rw [digits, List.flatMap_cons, List.flatMap_cons, utf8_digit (high_lt b), utf8_digit (low_lt b)]
  rfl

theorem value?_digitByte {x : UInt8} (hx : x < 16) : value? (digitByte x) = some x := by
  have h := of_all_below (fun x => value? (digitByte x) == some x) (by decide) hx
  exact eq_of_beq h

/-- A digit has the same value in either case. -/
theorem value?_lower (b : UInt8) : value? (lower b) = value? b := by
  have hcase : b + 0x20 - 87 = b - 55 := by grind
  grind [value?, lower]

theorem lower_of_value? {b x : UInt8} (h : value? b = some x) : x < 16 ∧ lower b = digitByte x := by
  rw [value?] at h
  split at h
  · obtain rfl := Option.some.inj h
    rw [lower, if_neg (by grind), digitByte, if_pos (by grind)]
    constructor
    · grind
    · grind
  · split at h
    · obtain rfl := Option.some.inj h
      rw [lower, if_neg (by grind), digitByte, if_neg (by grind)]
      constructor
      · grind
      · grind
    · split at h
      · obtain rfl := Option.some.inj h
        rw [lower, if_pos (by grind), digitByte, if_neg (by grind)]
        constructor
        · grind
        · grind
      · cases h

theorem value?_of_lower {b x : UInt8} (hx : x < 16) (h : lower b = digitByte x) :
    value? b = some x := by
  rw [← value?_lower, h, value?_digitByte hx]

theorem lower_digitByte {x : UInt8} (hx : x < 16) : lower (digitByte x) = digitByte x :=
  (lower_of_value? (value?_digitByte hx)).2

/-! ## Pairs of digits -/

/-- The bytes of the text that is written for some bytes. -/
def written (bytes : List UInt8) : List UInt8 :=
  (bytes.flatMap digits).flatMap String.utf8EncodeChar

theorem written_cons (b : UInt8) (rest : List UInt8) :
    written (b :: rest) = digitByte (b >>> 4) :: digitByte (b &&& 15) :: written rest := by
  rw [written, List.flatMap_cons, List.flatMap_append, utf8_digits]
  rfl

theorem length_written (bytes : List UInt8) : (written bytes).length = 2 * bytes.length := by
  induction bytes with
  | nil => rfl
  | cons b rest ih =>
    rw [written_cons, List.length_cons, List.length_cons, ih, List.length_cons, Nat.mul_succ]

/-- What is written is in lower case. -/
theorem map_lower_written (bytes : List UInt8) : (written bytes).map lower = written bytes := by
  induction bytes with
  | nil => rfl
  | cons b rest ih =>
    rw [written_cons, List.map_cons, List.map_cons, lower_digitByte (high_lt b),
      lower_digitByte (low_lt b), ih]

theorem map_lower_of_decodePairs {position : Nat} {ds bytes : List UInt8}
    (h : decodePairs position ds = .ok bytes) : ds.map lower = written bytes := by
  fun_induction decodePairs position ds generalizing bytes with
  | case1 =>
    obtain rfl := Except.ok.inj h
    rfl
  | case2 => cases h
  | case3 => cases h
  | case4 => cases h
  | case5 => cases h
  | case6 position a b rest high low hlow hhigh more hmore ih =>
    obtain rfl := Except.ok.inj h
    obtain ⟨hx, ha⟩ := lower_of_value? hhigh
    obtain ⟨hy, hb⟩ := lower_of_value? hlow
    obtain ⟨hfirst, hsecond⟩ := halves hx hy
    rw [List.map_cons, List.map_cons, ha, hb, ih hmore, written_cons, hfirst, hsecond]

theorem decodePairs_of_map_lower {ds bytes : List UInt8} (position : Nat)
    (h : ds.map lower = written bytes) : decodePairs position ds = .ok bytes := by
  induction bytes generalizing position ds with
  | nil =>
    obtain rfl := List.map_eq_nil_iff.1 h
    rfl
  | cons b rest ih =>
    rw [written_cons] at h
    obtain ⟨a₁, ds, rfl, hhigh, h⟩ := List.map_eq_cons_iff.1 h
    obtain ⟨a₂, ds, rfl, hlow, h⟩ := List.map_eq_cons_iff.1 h
    rw [decodePairs, value?_of_lower (high_lt b) hhigh, value?_of_lower (low_lt b) hlow]
    simp only [ih (position + 2) h, join_halves]

theorem length_of_decodePairs {position : Nat} {ds bytes : List UInt8}
    (h : decodePairs position ds = .ok bytes) : ds.length = 2 * bytes.length := by
  rw [← List.length_map lower, map_lower_of_decodePairs h, length_written]

/-! ## Texts -/

theorem length_toList_toUTF8 (text : String) : text.toUTF8.toList.length = text.utf8ByteSize := by
  rw [toList_eq_data, Array.length_toList]
  rfl

/-- A text spells some bytes exactly if its own bytes, in lower case, are what is written for them. -/
theorem decode_eq_ok_iff_map_lower {text : String} {bytes : List UInt8} :
    decode text = .ok bytes ↔ text.toUTF8.toList.map lower = written bytes := by
  rw [decode]
  constructor
  · intro h
    split at h
    · cases h
    · exact map_lower_of_decodePairs h
  · intro h
    have hpairs := decodePairs_of_map_lower 0 h
    have heven := length_of_decodePairs hpairs
    rw [length_toList_toUTF8] at heven
    rw [if_neg (by omega), hpairs]

/-- A text that decodes has two bytes for each byte it spells. -/
theorem utf8ByteSize_of_decode {text : String} {bytes : List UInt8}
    (h : decode text = .ok bytes) : text.utf8ByteSize = bytes.length * 2 := by
  rw [← length_toList_toUTF8, ← List.length_map lower, decode_eq_ok_iff_map_lower.1 h,
    length_written, Nat.mul_comm]

theorem toList_encode (bytes : List UInt8) : (encode bytes).toUTF8.toList = written bytes := by
  rw [toList_eq_data, encode, String.toUTF8_eq_toByteArray, String.toByteArray_ofList,
    List.utf8Encode, List.toList_data_toByteArray]
  rfl

/-- **The text of some bytes decodes to them.** -/
theorem decode_encode (bytes : List UInt8) : decode (encode bytes) = .ok bytes := by
  rw [decode_eq_ok_iff_map_lower, toList_encode, map_lower_written]

theorem isBlank_digit {x : UInt8} (hx : x < 16) : Text.isBlank (digit x) = false := by
  have h := of_all_below (fun x => !Text.isBlank (digit x)) (by decide) hx
  simpa using h

theorem isBlank_of_mem_digits {b : UInt8} {c : Char} (h : c ∈ digits b) :
    Text.isBlank c = false := by
  rcases List.mem_cons.1 h with rfl | h
  · exact isBlank_digit (high_lt b)
  · rw [List.mem_singleton.1 h]
    exact isBlank_digit (low_lt b)

/-- There is no white space around digits. -/
theorem trim_encode (bytes : List UInt8) : Text.trim (encode bytes) = encode bytes := by
  have hkeep (cs : List Char) (h : ∀ c ∈ cs, Text.isBlank c = false) :
      cs.dropWhile Text.isBlank = cs := by
    cases cs with
    | nil => rfl
    | cons c rest => exact List.dropWhile_cons_of_neg (by simp [h c List.mem_cons_self])
  have hdigits : ∀ c ∈ bytes.flatMap digits, Text.isBlank c = false := by
    intro c hc
    obtain ⟨b, -, hcb⟩ := List.mem_flatMap.1 hc
    exact isBlank_of_mem_digits hcb
  rw [Text.trim, encode, String.toList_ofList, hkeep _ hdigits,
    hkeep _ fun c hc => hdigits c (List.mem_reverse.1 hc), List.reverse_reverse]

end Hex
end HeaderFollower
