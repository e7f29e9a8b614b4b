/-
# Headers and their fields

A header is its bytes; `BlockHeader.fields` is what is read off the first 80 of them, and
`Fields.header` is the header of 80 bytes with given fields. Each is the inverse of the other as far
as the first 80 bytes go (`fields_header`, `raw_header_fields`), so these bytes and the fields are the
same knowledge (`fields_eq_iff`).
-/

import HeaderFollower.Header.Basic
import HeaderFollower.Proofs.Bytes.Words

namespace HeaderFollower
namespace BlockHeader

/-- What the first 80 bytes of a header say. -/
structure Fields where
  version : Int32
  prev : Hash256
  merkle : Hash256
  time : UInt32
  bits : UInt32
  nonce : UInt32
  deriving DecidableEq

/-- The fields of a header. -/
def fields (h : BlockHeader) : Fields := ⟨h.version, h.prev, h.merkle, h.time, h.bits, h.nonce⟩

/-- The header of 80 bytes with given fields. -/
def Fields.header (f : Fields) : BlockHeader :=
  ofFields f.version f.prev f.merkle f.time f.bits f.nonce

theorem Fields.raw_header (f : Fields) :
    f.header.raw = fieldBytes f.version f.prev f.merkle f.time f.bits f.nonce := rfl

theorem Fields.length_header (f : Fields) : f.header.raw.length = 80 := length_fieldBytes _ _ _ _ _ _

/-- **The fields of a header make up its first 80 bytes.** -/
theorem raw_header_fields (h : BlockHeader) : h.fields.header.raw = h.raw.take 80 := by
  have hlen : 80 ≤ h.raw.length := h.base_le
  have hword {start : Nat} (hs : start + 4 ≤ 80) :
      Bytes.wordBytes (Bytes.word h.raw start) = (h.raw.drop start).take 4 :=
    Bytes.wordBytes_word (Nat.le_trans hs hlen)
  have hjoin (start m n : Nat) : (h.raw.drop start).take m ++ (h.raw.drop (start + m)).take n =
      (h.raw.drop start).take (m + n) := by
    rw [List.take_add, List.drop_drop]
  calc h.fields.header.raw
    _ = Bytes.wordBytes (Bytes.word h.raw 0) ++ ((h.raw.drop 4).take 32 ++
        ((h.raw.drop 36).take 32 ++ (Bytes.wordBytes (Bytes.word h.raw 68) ++
          (Bytes.wordBytes (Bytes.word h.raw 72) ++ Bytes.wordBytes (Bytes.word h.raw 76))))) := by
      rw [Fields.raw_header, fieldBytes, fields, version, UInt32.toUInt32_toInt32]
      rfl
    _ = (h.raw.drop 0).take 4 ++ ((h.raw.drop 4).take 32 ++ ((h.raw.drop 36).take 32 ++
        ((h.raw.drop 68).take 4 ++ ((h.raw.drop 72).take 4 ++ (h.raw.drop 76).take 4)))) := by
      rw [hword (by decide), hword (by decide), hword (by decide), hword (by decide)]
    _ = h.raw.take 80 := by
      rw [hjoin 72, hjoin 68, hjoin 36, hjoin 4, hjoin 0]
      rfl

/-- Each field has its place, so headers with different fields are different. -/
theorem Fields.header_injective {f g : Fields} (h : f.header = g.header) : f = g := by
  have hraw : f.header.raw = g.header.raw := congrArg raw h
  rw [raw_header, raw_header, fieldBytes, fieldBytes] at hraw
  obtain ⟨hversion, hraw⟩ := List.append_inj hraw rfl
  obtain ⟨hprev, hraw⟩ := List.append_inj hraw (f.prev.length_bytes.trans g.prev.length_bytes.symm)
  obtain ⟨hmerkle, hraw⟩ :=
    List.append_inj hraw (f.merkle.length_bytes.trans g.merkle.length_bytes.symm)
  obtain ⟨htime, hraw⟩ := List.append_inj hraw rfl
  obtain ⟨hbits, hnonce⟩ := List.append_inj hraw rfl
  have hsigned : f.version = g.version := by
    rw [← Int32.toInt32_toUInt32 f.version, Bytes.wordBytes_injective hversion,
      Int32.toInt32_toUInt32]
  cases f
  cases g
  rw [Fields.mk.injEq]
  exact ⟨hsigned, Hash256.ext hprev, Hash256.ext hmerkle,
    Bytes.wordBytes_injective htime, Bytes.wordBytes_injective hbits,
    Bytes.wordBytes_injective hnonce⟩

/-- **The fields that a header is made with are read off it.** -/
theorem fields_header (f : Fields) : f.header.fields = f := by
  refine Fields.header_injective (ext ?_)
  rw [raw_header_fields, List.take_of_length_le (Nat.le_of_eq f.length_header)]

/-- A header of 80 bytes is the one with its fields. -/
theorem header_fields {h : BlockHeader} (hlen : h.raw.length = 80) : h.fields.header = h := by
  refine ext ?_
  rw [raw_header_fields, List.take_of_length_le (Nat.le_of_eq hlen)]

/-- The fields are read off the first 80 bytes, and they tell what these are. -/
theorem fields_eq_iff {h k : BlockHeader} :
    h.fields = k.fields ↔ h.raw.take 80 = k.raw.take 80 := by
  rw [← raw_header_fields h, ← raw_header_fields k]
  constructor
  · intro hfields
    rw [hfields]
  · intro hraw
    exact Fields.header_injective (ext hraw)

end BlockHeader
end HeaderFollower
