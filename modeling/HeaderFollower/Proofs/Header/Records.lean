/-
# Headers and their bytes

A header is read back from its bytes and from its text (`ofHex_toHex`), and a byte string of any length
is cut into headers with at most one short record behind them (`exists_split_eq`). With what is known
of the fields this makes a header and its bytes the same (`lossless`).
-/

import HeaderFollower.Proofs.Bytes.Hex
import HeaderFollower.Proofs.Header.Chained

namespace HeaderFollower
namespace BlockHeader

/-! ## Bytes and text -/

/-- A header is read back from its bytes. -/
theorem ofBytes_raw (h : BlockHeader) : ofBytes h.raw.length h.raw = .ok h :=
  ofBytes_eq_ok_iff.2 ⟨rfl, rfl⟩

/-- **The text of a header is read back.** -/
theorem ofHex_toHex (h : BlockHeader) : ofHex h.raw.length h.toHex = .ok h := by
  rw [ofHex, toHex, Hex.trim_encode, Hex.decode_encode]
  exact h.ofBytes_raw

/-! ## Concatenations -/

/-- What is behind the last whole record is the only one that is short. -/
theorem split_of_lt {size : Nat} (hsize : baseHeaderSize ≤ size) {rest : List UInt8}
    (h : rest.length < size) :
    split size rest = if rest = [] then [] else [.error (.wrongLength size rest.length)] := by
  rw [split, Bytes.pieces]
  split
  · next hnone =>
    rcases hnone with hzero | hnil
    · rw [hzero] at h
      cases h
    · rw [if_pos hnil, List.map_nil]
  · next hsome =>
    rw [not_or] at hsome
    have hdrop : rest.drop size = [] := List.drop_eq_nil_of_le (Nat.le_of_lt h)
    rw [if_neg hsome.2, List.take_of_length_le (Nat.le_of_lt h), hdrop, Bytes.pieces,
      dif_pos (.inr rfl), List.map_singleton, ofBytes, dif_neg (Nat.not_lt.2 hsize),
      dif_neg (Nat.ne_of_lt h)]

/-- **A byte string is cut into headers, and one short record if it does not come out even.** -/
theorem exists_split_eq {size : Nat} (hsize : baseHeaderSize ≤ size) (bytes : List UInt8) :
    ∃ hs, hs.length = bytes.length / size ∧ concat hs = bytes.take (bytes.length / size * size) ∧
      split size bytes = hs.map .ok ++
        if bytes.length % size = 0 then [] else [.error (.wrongLength size (bytes.length % size))] := by
  have hpos : 0 < size := Nat.lt_of_lt_of_le (by decide) hsize
  have hwhole : bytes.length / size * size ≤ bytes.length := Nat.div_mul_le_self _ _
  have htake : (bytes.take (bytes.length / size * size)).length = bytes.length / size * size := by
    rw [List.length_take, Nat.min_eq_left hwhole]
  have hdrop : (bytes.drop (bytes.length / size * size)).length = bytes.length % size := by
    rw [List.length_drop, Nat.mod_eq_sub_div_mul]
  have heven : (bytes.take (bytes.length / size * size)).length % size = 0 := by
    rw [htake, Nat.mul_mod_left]
  have hrest : (bytes.drop (bytes.length / size * size)).length < size := by
    rw [hdrop]
    exact Nat.mod_lt _ hpos
  obtain ⟨hs, hsized, hconcat⟩ := exists_eq_concat hsize heven
  have hlen : hs.length = bytes.length / size := by
    have := hsized.length_concat
    rw [← hconcat, htake] at this
    exact (Nat.eq_of_mul_eq_mul_right hpos this).symm
  refine ⟨hs, hlen, hconcat.symm, ?_⟩
  have hshort := split_of_lt hsize hrest
  simp only [← List.length_eq_zero_iff, hdrop] at hshort
  rw [← hshort, ← split_concat_append hsized, ← hconcat, List.take_append_drop]

/-- **Headers and their bytes are the same.** The fields that a header of 80 bytes is made with are read
off it, and such a header is the one with its fields. A header of any size is read back from its bytes
and from its text, and its fields are known exactly if its first 80 bytes are. A byte string is cut into
as many headers as fit into it, and one short record if it does not come out even. -/
theorem lossless {size : Nat} (hsize : baseHeaderSize ≤ size) :
    (∀ f : Fields, f.header.raw.length = 80 ∧ f.header.fields = f) ∧
    (∀ h : BlockHeader, h.raw.length = 80 → h.fields.header = h) ∧
    (∀ h : BlockHeader, h.raw.length = size →
      ofHex size h.toHex = .ok h ∧ ofBytes size h.raw = .ok h) ∧
    (∀ h k : BlockHeader, h.fields = k.fields ↔ h.raw.take 80 = k.raw.take 80) ∧
    ∀ bytes, ∃ hs, hs.length = bytes.length / size ∧
      concat hs = bytes.take (bytes.length / size * size) ∧
      split size bytes = hs.map .ok ++
        if bytes.length % size = 0 then []
        else [.error (.wrongLength size (bytes.length % size))] := by
  refine ⟨fun f => ⟨f.length_header, fields_header f⟩, fun h => header_fields, ?_,
    fun h k => fields_eq_iff, exists_split_eq hsize⟩
  rintro h rfl
  exact ⟨h.ofHex_toHex, h.ofBytes_raw⟩

/-- A header of 84 bytes, and 178 bytes that hold two of this size. -/
theorem lossless_shortTail :
    lowestHeader.raw.length = 80 ∧ baseHeaderSize ≤ 84 ∧
      lowestHeader.fields.header = lowestHeader ∧
      (∃ h : BlockHeader, h.raw = List.replicate 84 1 ∧ ofHex 84 h.toHex = .ok h) ∧
      ∃ hs : List BlockHeader, hs.length = 2 ∧
        split 84 (List.replicate 178 1) = hs.map .ok ++ [.error (.wrongLength 84 10)] := by
  have hsize : baseHeaderSize ≤ 84 := by decide
  have hlen : lowestHeader.raw.length = 80 := length_towerHeader 0
  obtain ⟨-, hfields, hread, -, hcut⟩ := lossless hsize
  obtain ⟨hs, htwo, -, hsplit⟩ := hcut (List.replicate 178 1)
  refine ⟨hlen, hsize, hfields _ hlen, ⟨⟨List.replicate 84 1, by decide⟩, rfl, ?_⟩, hs, ?_, ?_⟩
  · exact (hread _ (List.length_replicate ..)).1
  · rw [htwo, List.length_replicate]
  · rw [hsplit, List.length_replicate]
    rfl

end BlockHeader
end HeaderFollower
