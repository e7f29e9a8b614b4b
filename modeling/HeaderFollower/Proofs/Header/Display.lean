/-
# The written form of a hash

Digits may be read in either case, but are written in lower case only. `Hex.decode_eq_ok_iff` says that
a text spells some bytes exactly if, put into lower case, it is what is written for them, so a hash is
read from its written form up to case and from nothing else (`Hash256.ofDisplay_eq_ok_iff`).

Reading works on the bytes of a text. Putting a text into lower case changes the bytes of its ASCII
letters alone (`Hex.map_lower_utf8`).
-/

import HeaderFollower.Proofs.Json.RoundTrip
import HeaderFollower.Protocol.Reply

namespace HeaderFollower

open Text (utf8)

namespace Hex

/-! ## Lower case -/

theorem lower_of_high {b : UInt8} (h : 0x80 ≤ b) : lower b = b := by
  refine if_neg fun hletter => ?_
  exact absurd (UInt8.le_trans h hletter.2) (by decide)

/-- Only ASCII letters have another lower-case form. -/
theorem toLower_of_high {c : Char} (h : 128 ≤ c.toNat) : c.toLower = c := by
  refine dif_neg fun hletter => ?_
  have hle : c.toNat ≤ 90 := hletter.2
  omega

theorem map_lower_utf8EncodeChar (c : Char) :
    (String.utf8EncodeChar c).map lower = String.utf8EncodeChar c.toLower := by
  have hascii : (List.range 128).all fun n =>
      (String.utf8EncodeChar (Char.ofNat n)).map lower ==
        String.utf8EncodeChar (Char.ofNat n).toLower := by decide +kernel
  by_cases hc : c.toNat < 128
  · have h := List.all_eq_true.1 hascii c.toNat (List.mem_range.2 hc)
    rwa [Char.ofNat_toNat, beq_iff_eq] at h
  · rw [toLower_of_high (Nat.le_of_not_lt hc)]
    rcases Json.utf8EncodeChar_cases c with ⟨hle, -⟩ | hhigh
    · rw [UInt32.le_iff_toNat_le] at hle
      exact absurd (Nat.lt_succ_of_le hle) hc
    · exact (List.map_congr_left fun b hb => lower_of_high (hhigh b hb)).trans (List.map_id _)

theorem toList_toLower (s : String) : s.toLower.toList = s.toList.map Char.toLower :=
  String.toList_map

/-- The bytes of a text in lower case. -/
theorem map_lower_utf8 (s : String) : (utf8 s).map lower = utf8 s.toLower := by
  rw [utf8, utf8, toList_toLower, List.map_flatMap, List.flatMap_map]
  simp only [map_lower_utf8EncodeChar]

/-! ## Digits -/

/-- **A text spells some bytes exactly if in lower case it is what is written for them.** -/
theorem decode_eq_ok_iff {text : String} {bytes : List UInt8} :
    decode text = .ok bytes ↔ text.toLower = encode bytes := by
  rw [decode_eq_ok_iff_map_lower, ← toList_encode, Text.toList_toUTF8, Text.toList_toUTF8,
    map_lower_utf8]
  exact ⟨Text.utf8_injective, congrArg utf8⟩

/-- A hexadecimal digit of either case. -/
def IsDigit (c : Char) : Prop :=
  ('0' ≤ c ∧ c ≤ '9') ∨ ('a' ≤ c ∧ c ≤ 'f') ∨ ('A' ≤ c ∧ c ≤ 'F')

instance (c : Char) : Decidable (IsDigit c) := inferInstanceAs (Decidable (_ ∨ _ ∨ _))

/-- The digits are the characters that are written for the values below 16, and their capitals. -/
theorem isDigit_iff {c : Char} : IsDigit c ↔ ∃ x, x < 16 ∧ c.toLower = digit x := by
  have hascii : ∀ n < 128, IsDigit (Char.ofNat n) ↔
      (List.range 16).any fun m => (Char.ofNat n).toLower == digit (UInt8.ofNat m) := by
    decide +kernel
  by_cases hc : c.toNat < 128
  · have h := hascii c.toNat hc
    rw [Char.ofNat_toNat, List.any_eq_true] at h
    rw [h]
    constructor
    · rintro ⟨m, hm, heq⟩
      have hlt : UInt8.ofNat m < 16 := by
        rw [UInt8.lt_iff_toNat_lt, UInt8.toNat_ofNat']
        exact Nat.lt_of_le_of_lt (Nat.mod_le ..) (List.mem_range.1 hm)
      exact ⟨_, hlt, eq_of_beq heq⟩
    · rintro ⟨x, hx, heq⟩
      refine ⟨x.toNat, List.mem_range.2 hx, ?_⟩
      rw [UInt8.ofNat_toNat, heq]
      exact beq_self_eq_true _
  · constructor
    · rintro (⟨-, h⟩ | ⟨-, h⟩ | ⟨-, h⟩)
      · exact absurd (Nat.lt_of_le_of_lt h (by decide)) hc
      · exact absurd (Nat.lt_of_le_of_lt h (by decide)) hc
      · exact absurd (Nat.lt_of_le_of_lt h (by decide)) hc
    · rintro ⟨x, hx, h⟩
      have hlt := of_all_below (fun x => (digit x).toNat < 128) (by decide) hx
      rw [← h, toLower_of_high (Nat.le_of_not_lt hc), decide_eq_true_eq] at hlt
      exact absurd hlt hc

/-- Pairs of digits of either case are, in lower case, what is written for some bytes. -/
theorem exists_flatMap_digits {n : Nat} {cs : List Char} (hlen : cs.length = 2 * n)
    (hdigits : ∀ c ∈ cs, IsDigit c) :
    ∃ bytes : List UInt8, bytes.length = n ∧ cs.map Char.toLower = bytes.flatMap digits := by
  induction n generalizing cs with
  | zero =>
    obtain rfl := List.length_eq_zero_iff.1 hlen
    exact ⟨[], rfl, rfl⟩
  | succ n ih =>
    obtain ⟨c, d, rest, rfl⟩ : ∃ c d rest, cs = c :: d :: rest := by
      rcases cs with _ | ⟨c, _ | ⟨d, rest⟩⟩
      · simp at hlen
      · simp at hlen
        omega
      · exact ⟨c, d, rest, rfl⟩
    rw [List.forall_mem_cons, List.forall_mem_cons] at hdigits
    obtain ⟨x, hx, hc⟩ := isDigit_iff.1 hdigits.1
    obtain ⟨y, hy, hd⟩ := isDigit_iff.1 hdigits.2.1
    obtain ⟨bytes, hn, hrest⟩ := ih (by simp at hlen; omega) hdigits.2.2
    obtain ⟨hhigh, hlow⟩ := halves hx hy
    refine ⟨(x * 16 + y) :: bytes, by rw [List.length_cons, hn], ?_⟩
    rw [List.map_cons, List.map_cons, hc, hd, hrest, List.flatMap_cons, digits, hhigh, hlow]
    rfl

/-- **The texts that spell `n` bytes are those of `2 * n` digits.** -/
theorem exists_decode_iff {text : String} {n : Nat} :
    (∃ bytes, decode text = .ok bytes ∧ bytes.length = n) ↔
      text.length = 2 * n ∧ ∀ c ∈ text.toList, IsDigit c := by
  constructor
  · rintro ⟨bytes, h, rfl⟩
    rw [decode_eq_ok_iff] at h
    have hlist : text.toList.map Char.toLower = bytes.flatMap digits := by
      rw [← toList_toLower, h, encode, String.toList_ofList]
    constructor
    · rw [← length_encode, ← h, ← String.length_toList, ← String.length_toList, toList_toLower,
        List.length_map]
    · intro c hc
      have hmem : c.toLower ∈ bytes.flatMap digits := hlist ▸ List.mem_map_of_mem hc
      obtain ⟨b, -, hb⟩ := List.mem_flatMap.1 hmem
      rcases List.mem_cons.1 hb with hhigh | hb
      · exact isDigit_iff.2 ⟨_, high_lt b, hhigh⟩
      · exact isDigit_iff.2 ⟨_, low_lt b, List.mem_singleton.1 hb⟩
  · rintro ⟨hlen, hdigits⟩
    obtain ⟨bytes, hn, h⟩ := exists_flatMap_digits hlen hdigits
    refine ⟨bytes, decode_eq_ok_iff.2 ?_, hn⟩
    rw [← String.toList_inj, toList_toLower, encode, String.toList_ofList, h]

/-- What is written is in lower case. -/
theorem toLower_encode (bytes : List UInt8) : (encode bytes).toLower = encode bytes :=
  decode_eq_ok_iff.1 (decode_encode bytes)

end Hex

namespace Hash256

/-! ## Hashes -/

variable {text : String} {h k : Hash256}

theorem toLower_display (h : Hash256) : h.display.toLower = h.display := Hex.toLower_encode _

/-- A text is read as a hash if it spells the bytes of the hash backwards. -/
theorem ofDisplay_eq_ok_iff_decode :
    ofDisplay text = .ok h ↔ Hex.decode text = .ok h.bytes.reverse := by
  rw [ofDisplay]
  split
  · next fault hfault => simp [hfault]
  · next bytes hbytes =>
    rw [hbytes, ofBytes, Except.ok.injEq]
    by_cases hlen : bytes.length = 32
    · rw [dif_pos hlen]
      dsimp only
      rw [Except.ok.injEq]
      constructor
      · rintro rfl
        exact (List.reverse_reverse bytes).symm
      · intro hreverse
        exact ext ((congrArg List.reverse hreverse).trans (List.reverse_reverse _))
    · rw [dif_neg hlen]
      constructor
      · intro hread
        cases hread
      · rintro rfl
        rw [List.length_reverse, h.length_bytes] at hlen
        exact absurd rfl hlen

/-- **A text is read as a hash exactly if in lower case it is what is written for the hash.** -/
theorem ofDisplay_eq_ok_iff : ofDisplay text = .ok h ↔ text.toLower = h.display := by
  rw [ofDisplay_eq_ok_iff_decode, Hex.decode_eq_ok_iff, display]

/-- The texts that are read as hashes are those of 64 digits. -/
theorem exists_ofDisplay_iff :
    (∃ h, ofDisplay text = .ok h) ↔ text.length = 64 ∧ ∀ c ∈ text.toList, Hex.IsDigit c := by
  rw [show 64 = 2 * 32 from rfl, ← Hex.exists_decode_iff]
  constructor
  · rintro ⟨h, hread⟩
    exact ⟨_, ofDisplay_eq_ok_iff_decode.1 hread, by rw [List.length_reverse, h.length_bytes]⟩
  · rintro ⟨bytes, hdecode, hlen⟩
    refine ⟨⟨bytes.reverse, by rw [List.length_reverse, hlen]⟩, ofDisplay_eq_ok_iff_decode.2 ?_⟩
    rw [hdecode, List.reverse_reverse]

theorem ofDisplay_display (h : Hash256) : ofDisplay h.display = .ok h :=
  ofDisplay_eq_ok_iff.2 h.toLower_display

/-- Different hashes are written differently. -/
theorem display_injective (hdisplay : h.display = k.display) : h = k := by
  have hread := h.ofDisplay_display
  rw [hdisplay, ofDisplay_display] at hread
  exact (Except.ok.inj hread).symm

/-- A hash is read back from its JSON text. -/
theorem ofJson?_parse (h : Hash256) :
    (Json.parse h.toJson.write.toUTF8.toList).bind ofJson? = some h := by
  rw [Text.toList_toUTF8, Json.utf8_write, toJson, Json.parse_spell (.string _), Option.bind_some,
    ofJson?, ofDisplay_display]
  rfl

/-- **A hash is known by its written form.** The texts that are read are those of 64 digits of either
case. What is written for a hash is read as this hash and is in lower case, so two texts are read as
one hash exactly if they differ in case only. -/
theorem known_by_display :
    (∀ text, (∃ h, ofDisplay text = .ok h) ↔
      text.length = 64 ∧ ∀ c ∈ text.toList, Hex.IsDigit c) ∧
    (∀ h : Hash256, ofDisplay h.display = .ok h) ∧
    (∀ text h, ofDisplay text = .ok h → h.display = text.toLower) ∧
    (∀ s t h k, ofDisplay s = .ok h → ofDisplay t = .ok k → (h = k ↔ s.toLower = t.toLower)) ∧
    ∀ h : Hash256, (Json.parse h.toJson.write.toUTF8.toList).bind ofJson? = some h := by
  refine ⟨fun text => exists_ofDisplay_iff, ofDisplay_display,
    fun text h hread => (ofDisplay_eq_ok_iff.1 hread).symm, ?_, ofJson?_parse⟩
  intro s t h k hs ht
  rw [ofDisplay_eq_ok_iff.1 hs, ofDisplay_eq_ok_iff.1 ht]
  exact ⟨congrArg display, display_injective⟩

/-- Capitals and small letters spell the same hash. -/
theorem known_by_display_capitals :
    ∃ h, ofDisplay (String.ofList (List.replicate 64 'A')) = .ok h ∧
      ofDisplay (String.ofList (List.replicate 64 'a')) = .ok h ∧
      h.display = String.ofList (List.replicate 64 'a') := by
  obtain ⟨haccept, -, hdisplay, hsame, -⟩ := known_by_display
  have hdigits (c : Char) (hc : Hex.IsDigit c) :
      ∃ h, ofDisplay (String.ofList (List.replicate 64 c)) = .ok h := by
    refine (haccept _).2 ⟨?_, fun d hd => ?_⟩
    · rw [String.length_ofList, List.length_replicate]
    · rw [String.toList_ofList] at hd
      rwa [List.eq_of_mem_replicate hd]
  obtain ⟨h, hcapital⟩ := hdigits 'A' (by decide)
  obtain ⟨k, hsmall⟩ := hdigits 'a' (by decide)
  have hlower : (String.ofList (List.replicate 64 'A')).toLower =
      (String.ofList (List.replicate 64 'a')).toLower := by
    rw [← String.toList_inj, Hex.toList_toLower, Hex.toList_toLower, String.toList_ofList,
      String.toList_ofList, List.map_replicate, List.map_replicate]
    rfl
  obtain rfl := (hsame _ _ h k hcapital hsmall).2 hlower
  refine ⟨h, hcapital, hsmall, (hdisplay _ h hsmall).trans ?_⟩
  rw [← String.toList_inj, Hex.toList_toLower, String.toList_ofList, List.map_replicate]
  rfl

end Hash256
end HeaderFollower
