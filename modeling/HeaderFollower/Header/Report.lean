/-
# What is known of a header

A report of a header for people and other programs, with the hashes in the form in which servers write
them. The Merkle root alone is given as it stands in the record.
-/

import HeaderFollower.Header.Basic
import HeaderFollower.Json.Basic

namespace HeaderFollower

/-- All that is known of a header. -/
def BlockHeader.report (h : BlockHeader) : Json :=
  .mkObject [("hex", .string h.toHex), ("len", .nat h.raw.length), ("empty", .bool h.raw.isEmpty),
    ("hash", .string h.hash.display), ("version", .int h.version.toInt),
    ("prev", .string h.prev.display), ("merkle", .string h.merkle.toHex),
    ("time", .nat h.time.toNat), ("bits", .nat h.bits.toNat), ("nonce", .nat h.nonce.toNat),
    ("debug", .string h.summary)]

end HeaderFollower
