/-
# SHA-256

The message is read through `paddedByte`, as if the padding stood behind it: a byte `0x80`, zeros,
and the length in bits as eight big-endian bytes, up to a whole number of 64-byte blocks. Each
block is spread into 64 words (`schedule`) and mixed into the state (`compress`).

`length_hash` says that a digest has 32 bytes.
-/

namespace HeaderFollower
namespace Sha256

/-- The working state: eight words. -/
structure State where
  a : UInt32
  b : UInt32
  c : UInt32
  d : UInt32
  e : UInt32
  f : UInt32
  g : UInt32
  h : UInt32

/-- The state before the first block. -/
def State.initial : State :=
  ⟨0x6a09e667, 0xbb67ae85, 0x3c6ef372, 0xa54ff53a, 0x510e527f, 0x9b05688c, 0x1f83d9ab, 0x5be0cd19⟩

/-- Word by word sum, each modulo `2 ^ 32`. -/
def State.add (s t : State) : State :=
  ⟨s.a + t.a, s.b + t.b, s.c + t.c, s.d + t.d, s.e + t.e, s.f + t.f, s.g + t.g, s.h + t.h⟩

/-- The constant of each of the 64 rounds. -/
def roundConstants : Array UInt32 := #[
  0x428a2f98, 0x71374491, 0xb5c0fbcf, 0xe9b5dba5, 0x3956c25b, 0x59f111f1, 0x923f82a4, 0xab1c5ed5,
  0xd807aa98, 0x12835b01, 0x243185be, 0x550c7dc3, 0x72be5d74, 0x80deb1fe, 0x9bdc06a7, 0xc19bf174,
  0xe49b69c1, 0xefbe4786, 0x0fc19dc6, 0x240ca1cc, 0x2de92c6f, 0x4a7484aa, 0x5cb0a9dc, 0x76f988da,
  0x983e5152, 0xa831c66d, 0xb00327c8, 0xbf597fc7, 0xc6e00bf3, 0xd5a79147, 0x06ca6351, 0x14292967,
  0x27b70a85, 0x2e1b2138, 0x4d2c6dfc, 0x53380d13, 0x650a7354, 0x766a0abb, 0x81c2c92e, 0x92722c85,
  0xa2bfe8a1, 0xa81a664b, 0xc24b8b70, 0xc76c51a3, 0xd192e819, 0xd6990624, 0xf40e3585, 0x106aa070,
  0x19a4c116, 0x1e376c08, 0x2748774c, 0x34b0bcb5, 0x391c0cb3, 0x4ed8aa4a, 0x5b9cca4f, 0x682e6ff3,
  0x748f82ee, 0x78a5636f, 0x84c87814, 0x8cc70208, 0x90befffa, 0xa4506ceb, 0xbef9a3f7, 0xc67178f2]

/-- Rotation to the right by `n < 32` places. -/
def rotr (x : UInt32) (n : UInt32) : UInt32 :=
  (x >>> n) ||| (x <<< (32 - n))

/-- Number of 64-byte blocks that a message of `size` bytes fills with its padding. -/
def blockCount (size : Nat) : Nat :=
  (size + 8) / 64 + 1

/-- Byte `i` of the padded message. -/
def paddedByte (message : ByteArray) (i : Nat) : UInt8 :=
  if h : i < message.size then message[i]
  else if i = message.size then 0x80
  else
    let last := 64 * blockCount message.size
    if i + 8 < last then 0
    else UInt8.ofNat (8 * message.size / Nat.pow 256 (last - 1 - i))

/-- The big-endian word that starts at byte `i` of the padded message. -/
def word (message : ByteArray) (i : Nat) : UInt32 :=
  ((paddedByte message i).toUInt32 <<< 24) ||| ((paddedByte message (i + 1)).toUInt32 <<< 16) |||
    ((paddedByte message (i + 2)).toUInt32 <<< 8) ||| (paddedByte message (i + 3)).toUInt32

/-- The schedule grown by `n` further words. -/
def extend : Nat → Array UInt32 → Array UInt32
  | 0, w => w
  | n + 1, w =>
    let t := w.size
    let x := w.getD (t - 15) 0
    let y := w.getD (t - 2) 0
    let s0 := rotr x 7 ^^^ rotr x 18 ^^^ (x >>> 3)
    let s1 := rotr y 17 ^^^ rotr y 19 ^^^ (y >>> 10)
    extend n (w.push (w.getD (t - 16) 0 + s0 + w.getD (t - 7) 0 + s1))

/-- The 64 words of block `block`. -/
def schedule (message : ByteArray) (block : Nat) : Array UInt32 :=
  extend 48 (Array.ofFn fun i : Fin 16 => word message (64 * block + 4 * i.val))

/-- One round with its constant and its word. -/
def round (k w : UInt32) (s : State) : State :=
  let s1 := rotr s.e 6 ^^^ rotr s.e 11 ^^^ rotr s.e 25
  let choice := (s.e &&& s.f) ^^^ (~~~s.e &&& s.g)
  let t1 := s.h + s1 + choice + k + w
  let s0 := rotr s.a 2 ^^^ rotr s.a 13 ^^^ rotr s.a 22
  let majority := (s.a &&& s.b) ^^^ (s.a &&& s.c) ^^^ (s.b &&& s.c)
  ⟨t1 + s0 + majority, s.a, s.b, s.c, s.d + t1, s.e, s.f, s.g⟩

/-- The last `n` of the 64 rounds. -/
def rounds (w : Array UInt32) : Nat → State → State
  | 0, s => s
  | n + 1, s => rounds w n (round (roundConstants.getD (63 - n) 0) (w.getD (63 - n) 0) s)

/-- The state after one more block. -/
def compress (message : ByteArray) (s : State) (block : Nat) : State :=
  s.add (rounds (schedule message block) 64 s)

/-- The bytes of a word, most significant first. -/
def wordBytes (x : UInt32) : List UInt8 :=
  [(x >>> 24).toUInt8, (x >>> 16).toUInt8, (x >>> 8).toUInt8, x.toUInt8]

/-- The bytes of a state. -/
def State.bytes (s : State) : List UInt8 :=
  [s.a, s.b, s.c, s.d, s.e, s.f, s.g, s.h].flatMap wordBytes

theorem State.length_bytes (s : State) : s.bytes.length = 32 := rfl

/-- The digest of a message. -/
def hash (message : ByteArray) : List UInt8 :=
  ((List.range (blockCount message.size)).foldl (compress message) State.initial).bytes

theorem length_hash (message : ByteArray) : (hash message).length = 32 :=
  State.length_bytes _

/-- The digest of the digest. -/
def hashTwice (message : ByteArray) : List UInt8 :=
  hash (hash message).toByteArray

theorem length_hashTwice (message : ByteArray) : (hashTwice message).length = 32 :=
  State.length_bytes _

end Sha256
end HeaderFollower
