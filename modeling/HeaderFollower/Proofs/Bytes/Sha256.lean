/-
# Digests by numbers

A digest is computed on words, and the kernel carries along how each of them has come about. `digest`
computes it on the values of the words, each worked out before it is used, and `toNat_hash` says that
it is the same digest. `Hash256.bytes_ofMessage` puts the hash of a message into this form, in which the
hash of a message that is written down can be looked up.

Number by number, `Values` follows the states of the digest: a round (`values_round`), the rounds of a
block (`values_compress`), the blocks of a message (`values_foldl`). The words of a schedule are kept the
last one first, as each depends on the last 16 before it.
-/

import HeaderFollower.Header.Hash
import HeaderFollower.Proofs.Bytes.Words

namespace HeaderFollower
namespace Sha256

/-! ## Numbers for words -/

/-- Works a number out and goes on with its value. -/
def onValue {α : Type} (n : Nat) (f : Nat → α) : α :=
  match n with
  | .zero => f .zero
  | .succ m => f (.succ m)

theorem onValue_eq {α : Type} (n : Nat) (f : Nat → α) : onValue n f = f n := by
  cases n <;> rfl

/-- What a word holds of a sum. -/
def wrap (n : Nat) : Nat := n % 4294967296

/-- Rotation of a word to the right by `n < 32` places. -/
def rotate (x n : Nat) : Nat := x >>> n ||| wrap (x <<< (32 - n))

theorem toNat_rotr (x : UInt32) {n : UInt32} (hpos : 0 < n) (hlt : n < 32) :
    (rotr x n).toNat = rotate x.toNat n.toNat := by
  have hplaces : n.toNat < 32 := UInt32.lt_iff_toNat_lt.1 hlt
  have hsub : (32 - n).toNat = 32 - n.toNat := UInt32.toNat_sub_of_le _ _ (UInt32.le_of_lt hlt)
  have hback : 32 - n.toNat < 32 := Nat.sub_lt (by decide) (UInt32.lt_iff_toNat_lt.1 hpos)
  rw [rotr, UInt32.toNat_or, UInt32.toNat_shiftRight, UInt32.toNat_shiftLeft, hsub, rotate, wrap,
    Nat.mod_eq_of_lt hplaces, Nat.mod_eq_of_lt hback]

/-- The values of the words of a state. -/
structure Values where
  a : Nat
  b : Nat
  c : Nat
  d : Nat
  e : Nat
  f : Nat
  g : Nat
  h : Nat

def State.values (s : State) : Values :=
  ⟨s.a.toNat, s.b.toNat, s.c.toNat, s.d.toNat, s.e.toNat, s.f.toNat, s.g.toNat, s.h.toNat⟩

namespace Values

def add : Values → Values → Values
  | ⟨a, b, c, d, e, f, g, h⟩, ⟨a', b', c', d', e', f', g', h'⟩ =>
    ⟨wrap (a + a'), wrap (b + b'), wrap (c + c'), wrap (d + d'), wrap (e + e'), wrap (f + f'),
      wrap (g + g'), wrap (h + h')⟩

/-- One round with the values of its constant and its word. -/
def round (k w : Nat) : Values → Values
  | ⟨a, b, c, d, e, f, g, h⟩ =>
    let s1 := rotate e 6 ^^^ rotate e 11 ^^^ rotate e 25
    let choice := (e &&& f) ^^^ ((4294967295 - e) &&& g)
    let s0 := rotate a 2 ^^^ rotate a 13 ^^^ rotate a 22
    let majority := (a &&& b) ^^^ (a &&& c) ^^^ (b &&& c)
    onValue (wrap (h + s1 + choice + k + w)) fun t1 =>
      onValue (wrap (t1 + (s0 + majority))) fun x =>
        onValue (wrap (d + t1)) fun y => ⟨x, a, b, c, y, e, f, g⟩

/-- As many rounds as there are constants and words. -/
def rounds : List Nat → List Nat → Values → Values
  | k :: ks, w :: ws, s => rounds ks ws (s.round k w)
  | _, _, s => s

/-- The values of the bytes of a state. -/
def bytes : Values → List Nat
  | ⟨a, b, c, d, e, f, g, h⟩ => [a, b, c, d, e, f, g, h].flatMap fun x =>
    [x / 16777216 % 256, x / 65536 % 256, x / 256 % 256, x % 256]

end Values

theorem values_add (s t : State) : (s.add t).values = s.values.add t.values := rfl

theorem values_round (k w : UInt32) (s : State) :
    (round k w s).values = s.values.round k.toNat w.toNat := by
  obtain ⟨a, b, c, d, e, f, g, h⟩ := s
  simp only [State.values, Values.round, onValue_eq, round, Values.mk.injEq, UInt32.toNat_add,
    UInt32.toNat_xor, UInt32.toNat_and, UInt32.toNat_not]
  simp (disch := decide) only [toNat_rotr]
  simp [wrap, UInt32.size, Nat.mod_add_mod, Nat.add_mod_mod, Nat.add_assoc]

theorem values_bytes (s : State) : s.bytes.map UInt8.toNat = s.values.bytes := by
  have hbytes (x : UInt32) : (wordBytes x).map UInt8.toNat =
      [x.toNat / 16777216 % 256, x.toNat / 65536 % 256, x.toNat / 256 % 256, x.toNat % 256] := by
    simp [wordBytes, Nat.shiftRight_eq_div_pow]
  rw [State.bytes, List.map_flatMap]
  simp only [hbytes]
  rfl

/-! ## Schedules -/

/-- The word that comes next in a schedule. -/
def nextWord (ws : List Nat) : Nat :=
  let x := ws.getD 14 0
  let y := ws.getD 1 0
  let s0 := rotate x 7 ^^^ rotate x 18 ^^^ x >>> 3
  let s1 := rotate y 17 ^^^ rotate y 19 ^^^ y >>> 10
  wrap (ws.getD 15 0 + s0 + ws.getD 6 0 + s1)

/-- The schedule grown by `n` further words. -/
def grown : Nat → List Nat → List Nat
  | 0, ws => ws
  | n + 1, ws => onValue (nextWord ws) fun w => grown n (w :: ws)

/-- The values of the words of an array, the last one first. -/
def backwards (w : Array UInt32) : List Nat := (w.toList.map UInt32.toNat).reverse

theorem getD_backwards {w : Array UInt32} {i : Nat} (h : i < w.size) :
    (backwards w).getD i 0 = (w.getD (w.size - (i + 1)) 0).toNat := by
  have hback : w.size - 1 - i < w.size := by omega
  rw [Nat.add_comm i 1, ← Nat.sub_sub]
  simp [backwards, h, hback]

theorem backwards_push (w : Array UInt32) (x : UInt32) :
    backwards (w.push x) = x.toNat :: backwards w := by
  simp [backwards]

theorem size_extend (n : Nat) (w : Array UInt32) : (extend n w).size = w.size + n := by
  induction n generalizing w with
  | zero => rfl
  | succ n ih => rw [extend, ih, Array.size_push, Nat.add_assoc, Nat.add_comm 1]

theorem backwards_extend (n : Nat) {w : Array UInt32} (h : 16 ≤ w.size) :
    backwards (extend n w) = grown n (backwards w) := by
  induction n generalizing w with
  | zero => rfl
  | succ n ih =>
    have hget {i : Nat} (hi : i < 16) :
        (w.getD (w.size - (i + 1)) 0).toNat = (backwards w).getD i 0 :=
      (getD_backwards (Nat.lt_of_lt_of_le hi h)).symm
    rw [extend, ih (by rw [Array.size_push]; omega), backwards_push, grown, onValue_eq, nextWord]
    simp only [UInt32.toNat_add, UInt32.toNat_xor, UInt32.toNat_shiftRight]
    simp (disch := decide) only [toNat_rotr]
    rw [hget (show 15 < 16 by decide), hget (show 14 < 16 by decide), hget (show 6 < 16 by decide),
      hget (show 1 < 16 by decide)]
    simp [wrap, Nat.mod_add_mod]

/-! ## Blocks -/

/-- The values of the words of an array from a position on. -/
def valuesFrom (w : Array UInt32) (i : Nat) : List Nat := (w.toList.drop i).map UInt32.toNat

theorem valuesFrom_zero (w : Array UInt32) : valuesFrom w 0 = (backwards w).reverse := by
  rw [valuesFrom, List.drop_zero, backwards, List.reverse_reverse]

theorem valuesFrom_of_lt {w : Array UInt32} {i : Nat} (h : i < w.size) :
    valuesFrom w i = (w.getD i 0).toNat :: valuesFrom w (i + 1) := by
  have hlt : i < w.toList.length := by rwa [Array.length_toList]
  rw [valuesFrom, List.drop_eq_getElem_cons hlt, List.map_cons, Array.getD, dif_pos h]
  rfl

theorem values_rounds {w : Array UInt32} (hw : w.size = 64) {n : Nat} (hn : n ≤ 64) (s : State) :
    (rounds w n s).values =
      s.values.rounds (valuesFrom roundConstants (64 - n)) (valuesFrom w (64 - n)) := by
  induction n generalizing s with
  | zero => rfl
  | succ n ih =>
    have hnext : 64 - n = 64 - (n + 1) + 1 := by omega
    have hk : 64 - (n + 1) < roundConstants.size := Nat.sub_lt (by decide) (Nat.succ_pos n)
    have hlt : 64 - (n + 1) < w.size := hw.symm ▸ hk
    rw [rounds, ih (Nat.le_of_succ_le hn), values_round, hnext, valuesFrom_of_lt hk,
      valuesFrom_of_lt hlt, Values.rounds, Nat.sub_add_eq, Nat.sub_right_comm]

/-- The state after a block of 16 words. -/
def Values.compress (block : List Nat) (s : Values) : Values :=
  s.add (s.rounds (valuesFrom roundConstants 0) (grown 48 block.reverse).reverse)

/-- The state after `n` blocks. -/
def Values.absorb : Nat → List Nat → Values → Values
  | 0, _, s => s
  | n + 1, ws, s => absorb n (ws.drop 16) (s.compress (ws.take 16))

/-- The values of `n` words of the padded message, from a word on. -/
def messageWords (message : ByteArray) (start n : Nat) : List Nat :=
  (List.range' start n).map fun i => (word message (4 * i)).toNat

theorem values_compress (message : ByteArray) (s : State) (block : Nat) :
    (compress message s block).values =
      s.values.compress (messageWords message (16 * block) 16) := by
  have hsize : (schedule message block).size = 64 := by
    rw [schedule, size_extend, Array.size_ofFn]
  have hblock : backwards (Array.ofFn fun i : Fin 16 => word message (64 * block + 4 * i.val)) =
      (messageWords message (16 * block) 16).reverse := by
    rw [backwards, messageWords, Array.toList_ofFn]
    refine congrArg List.reverse (List.ext_getElem (by simp) fun i _ _ => ?_)
    simp only [List.getElem_map, List.getElem_ofFn, List.getElem_range']
    rw [Nat.one_mul, Nat.mul_add, ← Nat.mul_assoc]
  have hschedule : backwards (schedule message block) =
      grown 48 (messageWords message (16 * block) 16).reverse := by
    rw [schedule, backwards_extend 48 (Nat.le_of_eq Array.size_ofFn.symm), hblock]
  rw [compress, values_add, values_rounds hsize (Nat.le_refl 64), Nat.sub_self,
    valuesFrom_zero (schedule message block), hschedule, Values.compress]

theorem values_foldl (message : ByteArray) (block n : Nat) (s : State) :
    ((List.range' block n).foldl (compress message) s).values =
      s.values.absorb n (messageWords message (16 * block) (16 * n)) := by
  induction n generalizing block s with
  | zero => rfl
  | succ n ih =>
    have hcut : messageWords message (16 * block) (16 * (n + 1)) =
        messageWords message (16 * block) 16 ++ messageWords message (16 * (block + 1)) (16 * n) := by
      rw [messageWords, messageWords, messageWords, ← List.map_append, Nat.mul_succ, Nat.mul_succ,
        Nat.add_comm (16 * n), ← List.range'_append_1]
    have hlen : (messageWords message (16 * block) 16).length = 16 := by
      rw [messageWords, List.length_map, List.length_range']
    rw [List.range'_succ, List.foldl_cons, ih, values_compress, Values.absorb, hcut,
      List.take_left' hlen, List.drop_left' hlen]

/-! ## Messages -/

/-- The values of the bytes behind a message. -/
def padding (size : Nat) : List Nat :=
  let last := 64 * blockCount size
  (List.range' size (last - size)).map fun i =>
    if i = size then 128
    else if i + 8 < last then 0
    else 8 * size / Nat.pow 256 (last - 1 - i) % 256

/-- The words that bytes make up. -/
def wordsOf : List Nat → List Nat
  | b₃ :: b₂ :: b₁ :: b₀ :: rest =>
    onValue (b₀ + b₁ * 256 + b₂ * 65536 + b₃ * 16777216) fun w => w :: wordsOf rest
  | _ => []

/-- The digest of a message whose bytes have these values. -/
def digest (bytes : List Nat) : List Nat :=
  (State.initial.values.absorb (blockCount bytes.length)
    (wordsOf (bytes ++ padding bytes.length))).bytes

theorem toNat_word (message : ByteArray) (i : Nat) :
    (word message i).toNat = (paddedByte message (i + 3)).toNat +
      (paddedByte message (i + 2)).toNat * 256 + (paddedByte message (i + 1)).toNat * 65536 +
        (paddedByte message i).toNat * 16777216 := by
  have hback (a b c d : UInt32) : a ||| b ||| c ||| d = d ||| c ||| b ||| a := by ac_rfl
  rw [word, hback, Bytes.toNat_or_bytes]

theorem wordsOf_paddedByte (message : ByteArray) (start n : Nat) :
    wordsOf ((List.range' (4 * start) (4 * n)).map fun i => (paddedByte message i).toNat) =
      messageWords message start n := by
  induction n generalizing start with
  | zero => rfl
  | succ n ih =>
    rw [messageWords, List.range'_succ, List.map_cons, ← messageWords, ← ih, toNat_word,
      Nat.mul_succ 4 n]
    simp only [List.range'_succ, List.map_cons, wordsOf, onValue_eq]
    rfl

theorem length_toNat_bytes (message : ByteArray) :
    (message.data.toList.map UInt8.toNat).length = message.size := by
  rw [List.length_map, Array.length_toList]
  rfl

/-- The bytes of a message and those behind it are the bytes of the padded message. -/
theorem append_padding (message : ByteArray) :
    message.data.toList.map UInt8.toNat ++ padding message.size =
      (List.range' 0 (64 * blockCount message.size)).map fun i => (paddedByte message i).toNat := by
  have hle : message.size ≤ 64 * blockCount message.size := by
    rw [blockCount]
    omega
  have hmessage : message.data.toList.map UInt8.toNat =
      (List.range' 0 message.size).map fun i => (paddedByte message i).toNat := by
    refine List.ext_getElem ?_ fun i hi _ => ?_
    · rw [length_toNat_bytes, List.length_map, List.length_range']
    · rw [length_toNat_bytes] at hi
      rw [List.getElem_map, List.getElem_map, List.getElem_range', Nat.one_mul, Nat.zero_add,
        paddedByte, dif_pos hi]
      rfl
  have hpadding : padding message.size =
      (List.range' message.size (64 * blockCount message.size - message.size)).map
        fun i => (paddedByte message i).toNat := by
    refine List.map_congr_left fun i hi => ?_
    have hge : ¬ i < message.size := Nat.not_lt.2 (List.mem_range'_1.1 hi).1
    rw [paddedByte, dif_neg hge]
    dsimp only
    split
    · rfl
    · split
      · rfl
      · exact UInt8.toNat_ofNat'.symm
  have hcut : List.range' 0 message.size ++
      List.range' (0 + message.size) (64 * blockCount message.size - message.size) =
        List.range' 0 (64 * blockCount message.size) := by
    rw [List.range'_append_1, Nat.add_sub_cancel' hle]
  rw [hmessage, hpadding, ← List.map_append, ← hcut, Nat.zero_add]

/-- **The digest of a message is the one that is computed by numbers.** -/
theorem toNat_hash (message : ByteArray) :
    (hash message).map UInt8.toNat = digest (message.data.toList.map UInt8.toNat) := by
  have hwords : wordsOf (message.data.toList.map UInt8.toNat ++ padding message.size) =
      messageWords message (16 * 0) (16 * blockCount message.size) := by
    rw [append_padding, ← wordsOf_paddedByte, Nat.mul_zero, ← Nat.mul_assoc]
  rw [digest, length_toNat_bytes, hwords, hash, values_bytes, List.range_eq_range', values_foldl]

end Sha256

/-- The hash of a message is the digest of its digest, computed by numbers. -/
theorem Hash256.bytes_ofMessage (message : List UInt8) :
    (ofMessage message).bytes =
      (Sha256.digest (Sha256.digest (message.map UInt8.toNat))).map UInt8.ofNat := by
  have hback (bytes : List UInt8) : bytes = (bytes.map UInt8.toNat).map UInt8.ofNat := by
    rw [List.map_map]
    exact (List.map_id'' (fun b => UInt8.ofNat_toNat) bytes).symm
  have hdata (bytes : List UInt8) : bytes.toByteArray.data.toList = bytes :=
    List.toList_data_toByteArray
  calc (ofMessage message).bytes
    _ = Sha256.hash (Sha256.hash message.toByteArray).toByteArray := rfl
    _ = (Sha256.digest (Sha256.digest (message.map UInt8.toNat))).map UInt8.ofNat := by
      rw [hback (Sha256.hash _), Sha256.toNat_hash, hdata, Sha256.toNat_hash, hdata]

end HeaderFollower
