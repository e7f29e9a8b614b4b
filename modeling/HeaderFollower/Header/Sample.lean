/-
# Sample chains

Headers made to order, each linked to the one before it. Two chains on one parent differ if their
salts do, so that a chain can be forked at any height.
-/

import HeaderFollower.Header.Basic

namespace HeaderFollower
namespace BlockHeader

/-- The Merkle root of a sample header: the salt, the index, and zeros. -/
def sampleMerkle (salt index : UInt32) : Hash256 :=
  ⟨Bytes.wordBytes salt ++ (Bytes.wordBytes index ++ List.replicate 24 0), by
    simp only [List.length_append, Bytes.length_wordBytes, List.length_replicate]⟩

/-- The sample header at an index; `pad` makes its record longer. -/
def sample (salt index : Nat) (prev : Hash256) (pad : List UInt8) : BlockHeader :=
  let index := UInt32.ofNat index
  let h := ofFields 1 prev (sampleMerkle (.ofNat salt) index) (1600000000 + index) 0x207fffff index
  ⟨h.raw ++ pad, Nat.le_trans h.base_le (by simp)⟩

/-- Sample headers from an index on, linked to each other and to `prev`. -/
def sampleChain (salt : Nat) (pad : List UInt8) : (index count : Nat) → (prev : Hash256) →
    List BlockHeader
  | _, 0, _ => []
  | index, count + 1, prev =>
    let h := sample salt index prev pad
    h :: sampleChain salt pad (index + 1) count h.hash

end BlockHeader
end HeaderFollower
