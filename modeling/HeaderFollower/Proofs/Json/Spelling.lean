/-
# How numbers and strings may be spelled

A number may be spelled with a fraction and an exponent, a string with escapes. `NumberText` and
`Piece` are all the spellings that the grammar has, and the readers take each of them off the front of
a text: `scan?_text`, `stringBody?_text` and, where the string does not matter, `skipString?_text`.

Not every spelling stands for something: the two halves of a surrogate pair have to stand together
(`Piece.bytes?`), and bytes have to be UTF-8.
-/

import HeaderFollower.Json.Number
import HeaderFollower.Proofs.Json.Text

namespace HeaderFollower
namespace Json

variable {rest more acc : List UInt8} {b : UInt8}

/-! ## Numbers -/

/-- One digit or more. -/
structure Digits where
  bytes : List UInt8
  ne_nil : bytes ≠ []
  digit : ∀ b ∈ bytes, isDigit b = true

/-- An exponent with its mark and sign. -/
structure ExponentText where
  mark : UInt8
  mark_eq : mark = 0x65 ∨ mark = 0x45
  sign : List UInt8
  sign_eq : sign = [] ∨ sign = [0x2b] ∨ sign = [0x2d]
  digits : Digits

/-- A number as the grammar has it. -/
structure NumberText where
  negative : Bool
  whole : Digits
  /-- A zero does not stand in front of other digits. -/
  unpadded : whole.bytes.head? = some 48 → whole.bytes = [48]
  fraction : Option Digits
  exponent : Option ExponentText

namespace ExponentText

def text (e : ExponentText) : List UInt8 := e.mark :: (e.sign ++ e.digits.bytes)

/-- The sign, negative or not, and the digits. -/
def parts (e : ExponentText) : Bool × List UInt8 := (e.sign == [0x2d], e.digits.bytes)

end ExponentText

namespace NumberText

def fractionText (n : NumberText) : List UInt8 := n.fraction.elim [] fun d => 0x2e :: d.bytes

def exponentText (n : NumberText) : List UInt8 := n.exponent.elim [] ExponentText.text

def text (n : NumberText) : List UInt8 :=
  (if n.negative then [0x2d] else []) ++ (n.whole.bytes ++ (n.fractionText ++ n.exponentText))

/-- The parts of the number. -/
def numeral (n : NumberText) : Numeral :=
  ⟨n.negative, n.whole.bytes, n.fraction.map Digits.bytes, n.exponent.map ExponentText.parts⟩

end NumberText

/-- What follows goes on with no digits. -/
def Undigited (rest : List UInt8) : Prop := ∀ b more, rest = b :: more → isDigit b = false

/-- What follows goes on with no number. -/
def Apart (rest : List UInt8) : Prop :=
  ∀ b more, rest = b :: more → isDigit b = false ∧ b ≠ 0x2e ∧ b ≠ 0x65 ∧ b ≠ 0x45

theorem Apart.undigited (h : Apart rest) : Undigited rest := fun b more heq => (h b more heq).1

theorem Digits.exists_cons (d : Digits) : ∃ b more, d.bytes = b :: more ∧ isDigit b = true := by
  obtain ⟨b, more, heq⟩ := List.exists_cons_of_ne_nil d.ne_nil
  exact ⟨b, more, heq, d.digit b (heq ▸ List.mem_cons_self)⟩

theorem ne_of_isDigit {c : UInt8} (h : isDigit b = true) (hc : isDigit c = false) : b ≠ c := by
  rintro rfl
  rw [h] at hc
  cases hc

theorem digits?_bytes (d : Digits) (h : Undigited rest) :
    digits? (d.bytes ++ rest) = some (d.bytes, rest) := by
  have hrest : rest.takeWhile isDigit = [] ∧ rest.dropWhile isDigit = rest := by
    cases rest with
    | nil => exact ⟨rfl, rfl⟩
    | cons b more =>
      have hb := h b more rfl
      rw [List.takeWhile_cons, List.dropWhile_cons, hb]
      exact ⟨rfl, rfl⟩
  have htake : (d.bytes ++ rest).takeWhile isDigit = d.bytes := by
    rw [List.takeWhile_append_of_pos d.digit, hrest.1, List.append_nil]
  rw [digits?, htake, List.dropWhile_append_of_pos d.digit, hrest.2]
  split
  · next hnil => exact absurd hnil d.ne_nil
  · rfl

theorem whole?_bytes (n : NumberText) (h : Undigited rest) :
    whole? (n.whole.bytes ++ rest) = some (n.whole.bytes, rest) := by
  rw [whole?, digits?_bytes _ h]
  split
  · next d digits _ heq =>
    obtain ⟨heq, -⟩ := Prod.mk.inj (Option.some.inj heq)
    have hzero := n.unpadded (heq ▸ rfl)
    rw [heq] at hzero
    cases hzero
  · rfl

/-- No minus stands before digits. -/
theorem takeMinus_bytes (d : Digits) (rest : List UInt8) :
    takeMinus (d.bytes ++ rest) = (false, d.bytes ++ rest) := by
  obtain ⟨b, more, heq, hb⟩ := d.exists_cons
  rw [heq, List.cons_append, takeMinus.eq_2]
  rintro r hminus
  exact ne_of_isDigit (c := 0x2d) hb rfl (List.cons.inj hminus).1

theorem takeSign_sign (e : ExponentText) (rest : List UInt8) :
    takeSign (e.sign ++ (e.digits.bytes ++ rest)) = (e.sign == [0x2d], e.digits.bytes ++ rest) := by
  rcases e.sign_eq with heq | heq | heq
  · rw [heq, List.nil_append]
    obtain ⟨b, more, hdigits, hb⟩ := e.digits.exists_cons
    have hplus (r : List UInt8) : e.digits.bytes ++ rest ≠ 0x2b :: r := by
      rw [hdigits]
      exact fun hsign => ne_of_isDigit (c := 0x2b) hb rfl (List.cons.inj hsign).1
    rw [takeSign.eq_2 _ hplus, takeMinus_bytes]
    rfl
  · rw [heq]
    rfl
  · rw [heq]
    rfl

theorem exponent?_text (n : NumberText) (h : Apart rest) :
    exponent? (n.exponentText ++ rest) = some (n.exponent.map ExponentText.parts, rest) := by
  rw [NumberText.exponentText]
  cases n.exponent with
  | none =>
    cases rest with
    | nil => rfl
    | cons b more =>
      obtain ⟨-, -, hlower, hupper⟩ := h b more rfl
      exact if_neg (not_or.2 ⟨hlower, hupper⟩)
  | some e =>
    rw [Option.elim_some, ExponentText.text, List.cons_append, exponent?, if_pos e.mark_eq,
      List.append_assoc, takeSign_sign, digits?_bytes _ h.undigited]
    rfl

theorem undigited_exponentText (n : NumberText) (h : Apart rest) :
    Undigited (n.exponentText ++ rest) := by
  rw [NumberText.exponentText]
  cases n.exponent with
  | none => exact h.undigited
  | some e =>
    rintro b more heq
    rw [← (List.cons.inj heq).1]
    rcases e.mark_eq with hmark | hmark
    · rw [hmark]
      rfl
    · rw [hmark]
      rfl

theorem fraction?_text (n : NumberText) (h : Apart rest) :
    fraction? (n.fractionText ++ (n.exponentText ++ rest)) =
      some (n.fraction.map Digits.bytes, n.exponentText ++ rest) := by
  rw [NumberText.fractionText]
  cases n.fraction with
  | some d =>
    rw [Option.elim_some, List.cons_append, fraction?.eq_1,
      digits?_bytes _ (undigited_exponentText n h)]
    rfl
  | none =>
    refine fraction?.eq_2 _ fun r hpoint => ?_
    rw [Option.elim_none, List.nil_append, NumberText.exponentText] at hpoint
    cases hexponent : n.exponent with
    | none =>
      rw [hexponent] at hpoint
      exact (h _ _ hpoint).2.1 rfl
    | some e =>
      rw [hexponent] at hpoint
      have hmark : e.mark = 0x2e := (List.cons.inj hpoint).1
      rcases e.mark_eq with heq | heq
      · cases heq.symm.trans hmark
      · cases heq.symm.trans hmark

theorem undigited_fractionText (n : NumberText) (h : Apart rest) :
    Undigited (n.fractionText ++ (n.exponentText ++ rest)) := by
  rw [NumberText.fractionText]
  cases n.fraction with
  | none => exact undigited_exponentText n h
  | some d =>
    rintro b more heq
    rw [← (List.cons.inj heq).1]
    rfl

/-- **A number is taken off the front of a text**, whatever goes on with no number. -/
theorem scan?_text (n : NumberText) (h : Apart rest) :
    scan? (n.text ++ rest) = some (n.numeral, rest) := by
  have hminus : takeMinus (n.text ++ rest) =
      (n.negative, n.whole.bytes ++ (n.fractionText ++ (n.exponentText ++ rest))) := by
    rw [NumberText.text, List.append_assoc, List.append_assoc, List.append_assoc]
    cases n.negative with
    | true => rfl
    | false => exact takeMinus_bytes _ _
  rw [scan?, hminus, whole?_bytes n (undigited_fractionText n h)]
  dsimp only
  rw [fraction?_text n h]
  dsimp only
  rw [exponent?_text n h]
  rfl

/-! ## Strings -/

/-- What may stand between quotation marks. -/
inductive Piece where
  /-- A byte that stands for itself. -/
  | plain (b : UInt8) (h : Plain b)
  /-- A short escape. -/
  | short (e b : UInt8) (h : shortEscape? e = some b)
  /-- An escape of a code unit by its number. -/
  | unit (d₁ d₂ d₃ d₄ : UInt8) (n : Nat) (h : codeUnit? d₁ d₂ d₃ d₄ = some n)

namespace Piece

def text : Piece → List UInt8
  | plain b _ => [b]
  | short e _ _ => [0x5c, e]
  | unit d₁ d₂ d₃ d₄ _ _ => [0x5c, 0x75, d₁, d₂, d₃, d₄]

/-- The UTF-8 bytes of a code point. -/
def codePoint (n : Nat) : List UInt8 := String.utf8EncodeChar (Char.ofNat n)

/-- The bytes that pieces stand for. A high surrogate needs a low one behind it. -/
def bytes? : List Piece → Option (List UInt8)
  | [] => some []
  | plain b _ :: rest => (bytes? rest).map (b :: ·)
  | short _ b _ :: rest => (bytes? rest).map (b :: ·)
  | unit _ _ _ _ n _ :: rest =>
    if n < 0xd800 ∨ 0xdfff < n then (bytes? rest).map (codePoint n ++ ·)
    else if 0xdbff < n then none
    else
      match rest with
      | unit _ _ _ _ low _ :: more =>
        if 0xdc00 ≤ low ∧ low ≤ 0xdfff then
          (bytes? more).map (codePoint ((n - 0xd800) * 0x400 + (low - 0xdc00) + 0x10000) ++ ·)
        else none
      | _ => none

/-- The string that pieces stand for. -/
def value? (pieces : List Piece) : Option String :=
  (bytes? pieces).bind fun bytes => String.fromUTF8? bytes.toByteArray

/-- Pieces between quotation marks. -/
def quoted (pieces : List Piece) : List UInt8 := 0x22 :: (pieces.flatMap text ++ [0x22])

end Piece

theorem shortEscape?_ne {e : UInt8} (h : shortEscape? e = some b) : e ≠ 0x75 := by
  rintro rfl
  cases h

theorem stringBytes?_byte (h : Plain b) :
    stringBytes? acc (b :: rest) = stringBytes? (b :: acc) rest := by
  rw [stringBytes?.eq_def]
  split
  · next heq => cases heq
  · next heq => exact absurd (List.cons.inj heq).1 h.2.1
  · next heq => exact absurd (List.cons.inj heq).1 h.2.2
  · next heq => exact absurd (List.cons.inj heq).1 h.2.2
  · next heq =>
    obtain ⟨rfl, rfl⟩ := List.cons.inj heq
    exact if_neg h.not_special

theorem stringBytes?_short {e : UInt8} (h : shortEscape? e = some b) :
    stringBytes? acc (0x5c :: e :: rest) = stringBytes? (b :: acc) rest := by
  rw [stringBytes?.eq_def]
  split
  · next heq => cases heq
  · next heq => cases heq
  · next heq => exact absurd (List.cons.inj (List.cons.inj heq).2).1 (shortEscape?_ne h)
  · next heq =>
    obtain ⟨-, heq⟩ := List.cons.inj heq
    obtain ⟨rfl, rfl⟩ := List.cons.inj heq
    rw [h]
  · next hne heq =>
    obtain ⟨rfl, rfl⟩ := List.cons.inj heq
    exact absurd rfl (hne _ _ rfl)

/-- Only a code unit is spelled like one. -/
theorem text_ne_unit {pieces : List Piece}
    (h : ∀ d₁ d₂ d₃ d₄ n hn others, pieces ≠ .unit d₁ d₂ d₃ d₄ n hn :: others) :
    pieces.flatMap Piece.text ++ 0x22 :: rest ≠ 0x5c :: 0x75 :: more := by
  intro heq
  cases pieces with
  | nil => cases (List.cons.inj heq).1
  | cons piece others =>
    cases piece with
    | plain b hb => exact hb.2.2 (List.cons.inj heq).1
    | short e b he => exact shortEscape?_ne he (List.cons.inj (List.cons.inj heq).2).1
    | unit => exact h _ _ _ _ _ _ _ rfl

/-- The bytes of pieces are read up to the closing mark. -/
theorem stringBytes?_text (pieces : List Piece) :
    stringBytes? acc (pieces.flatMap Piece.text ++ 0x22 :: rest) =
      (Piece.bytes? pieces).map fun bytes => (acc.reverse ++ bytes, rest) := by
  -- Behind what stands for the bytes of `front`, the others are read.
  have hgoes (front : List UInt8) {others : List Piece} {acc : List UInt8}
      (ih : ∀ {acc : List UInt8}, stringBytes? acc (others.flatMap Piece.text ++ 0x22 :: rest) =
        (Piece.bytes? others).map fun bytes => (acc.reverse ++ bytes, rest)) :
      stringBytes? (front.reverse ++ acc) (others.flatMap Piece.text ++ 0x22 :: rest) =
        ((Piece.bytes? others).map (front ++ ·)).map fun bytes => (acc.reverse ++ bytes, rest) := by
    rw [ih, Option.map_map, List.reverse_append, List.reverse_reverse]
    simp only [Function.comp_def, List.append_assoc]
  fun_induction Piece.bytes? pieces generalizing acc with
  | case1 =>
    rw [List.flatMap_nil, List.nil_append, stringBytes?, Option.map_some, List.append_nil]
  | case2 b h others ih =>
    rw [List.flatMap_cons, Piece.text, List.append_assoc, List.singleton_append,
      stringBytes?_byte h]
    exact hgoes [b] ih
  | case3 e b h others ih =>
    rw [List.flatMap_cons, Piece.text, List.append_assoc]
    exact (stringBytes?_short h).trans (hgoes [b] ih)
  | case4 d₁ d₂ d₃ d₄ n h others hrange ih =>
    change stringBytes? acc (0x5c :: 0x75 :: d₁ :: d₂ :: d₃ :: d₄ ::
      (others.flatMap Piece.text ++ 0x22 :: rest)) = _
    rw [stringBytes?, h]
    dsimp only
    rw [if_pos hrange]
    exact hgoes _ ih
  | case5 d₁ d₂ d₃ d₄ n h others hrange hhigh =>
    change stringBytes? acc (0x5c :: 0x75 :: d₁ :: d₂ :: d₃ :: d₄ ::
      (others.flatMap Piece.text ++ 0x22 :: rest)) = _
    rw [stringBytes?, h]
    dsimp only
    rw [if_neg hrange, if_pos hhigh]
    rfl
  | case6 d₁ d₂ d₃ d₄ n h hrange hhigh e₁ e₂ e₃ e₄ low hlow others hpair ih =>
    change stringBytes? acc (0x5c :: 0x75 :: d₁ :: d₂ :: d₃ :: d₄ :: 0x5c :: 0x75 :: e₁ :: e₂ ::
      e₃ :: e₄ :: (others.flatMap Piece.text ++ 0x22 :: rest)) = _
    rw [stringBytes?, h]
    dsimp only
    rw [if_neg hrange, if_neg hhigh]
    split
    · next heq =>
      simp only [List.cons.injEq, true_and] at heq
      obtain ⟨rfl, rfl, rfl, rfl, rfl⟩ := heq
      rw [hlow]
      dsimp only
      rw [if_pos hpair]
      exact hgoes _ ih
    · next hne => exact absurd rfl (hne _ _ _ _ _)
  | case7 d₁ d₂ d₃ d₄ n h hrange hhigh e₁ e₂ e₃ e₄ low hlow others hpair =>
    change stringBytes? acc (0x5c :: 0x75 :: d₁ :: d₂ :: d₃ :: d₄ :: 0x5c :: 0x75 :: e₁ :: e₂ ::
      e₃ :: e₄ :: (others.flatMap Piece.text ++ 0x22 :: rest)) = _
    rw [stringBytes?, h]
    dsimp only
    rw [if_neg hrange, if_neg hhigh]
    split
    · next heq =>
      simp only [List.cons.injEq, true_and] at heq
      obtain ⟨rfl, rfl, rfl, rfl, rfl⟩ := heq
      rw [hlow]
      dsimp only
      rw [if_neg hpair]
      rfl
    · rfl
  | case8 d₁ d₂ d₃ d₄ n h others hrange hhigh hother =>
    change stringBytes? acc (0x5c :: 0x75 :: d₁ :: d₂ :: d₃ :: d₄ ::
      (others.flatMap Piece.text ++ 0x22 :: rest)) = _
    rw [stringBytes?, h]
    dsimp only
    rw [if_neg hrange, if_neg hhigh]
    split
    · next heq => exact absurd heq (text_ne_unit hother)
    · rfl

/-- **A string is read up to the closing mark**, if it stands for anything. -/
theorem stringBody?_text (pieces : List Piece) :
    stringBody? (pieces.flatMap Piece.text ++ 0x22 :: rest) =
      (Piece.value? pieces).map fun text => (text, rest) := by
  rw [stringBody?, stringBytes?_text, Piece.value?]
  cases Piece.bytes? pieces with
  | none => rfl
  | some bytes =>
    dsimp only [Option.map_some, Option.bind_some, List.reverse_nil, List.nil_append]
    cases String.fromUTF8? bytes.toByteArray <;> rfl

theorem skipString?_byte (h : Plain b) : skipString? (b :: rest) = skipString? rest := by
  rw [skipString?.eq_def]
  split
  · next heq => cases heq
  · next heq => exact absurd (List.cons.inj heq).1 h.2.1
  · next heq => exact absurd (List.cons.inj heq).1 h.2.2
  · next heq => exact absurd (List.cons.inj heq).1 h.2.2
  · next heq =>
    obtain ⟨rfl, rfl⟩ := List.cons.inj heq
    exact if_neg h.not_special

theorem skipString?_short {e : UInt8} (h : shortEscape? e = some b) :
    skipString? (0x5c :: e :: rest) = skipString? rest := by
  rw [skipString?.eq_def]
  split
  · next heq => cases heq
  · next heq => cases (List.cons.inj heq).1
  · next heq => exact absurd (List.cons.inj (List.cons.inj heq).2).1 (shortEscape?_ne h)
  · next heq =>
    obtain ⟨-, heq⟩ := List.cons.inj heq
    obtain ⟨rfl, rfl⟩ := List.cons.inj heq
    rw [h]
    rfl
  · next hne heq =>
    obtain ⟨rfl, rfl⟩ := List.cons.inj heq
    exact absurd rfl (hne _ _ rfl)

/-- **A string is passed over up to the closing mark**, whatever it stands for. -/
theorem skipString?_text (pieces : List Piece) :
    skipString? (pieces.flatMap Piece.text ++ 0x22 :: rest) = some rest := by
  induction pieces with
  | nil => rw [List.flatMap_nil, List.nil_append, skipString?]
  | cons piece others ih =>
    cases piece with
    | plain b h =>
      change skipString? (b :: (others.flatMap Piece.text ++ 0x22 :: rest)) = _
      rw [skipString?_byte h, ih]
    | short e b h =>
      change skipString? (0x5c :: e :: (others.flatMap Piece.text ++ 0x22 :: rest)) = _
      rw [skipString?_short h, ih]
    | unit d₁ d₂ d₃ d₄ n h =>
      change skipString? (0x5c :: 0x75 :: d₁ :: d₂ :: d₃ :: d₄ ::
        (others.flatMap Piece.text ++ 0x22 :: rest)) = _
      rw [skipString?, h, ih]
      rfl

/-! ## The spelling that is written -/

/-- Bytes that stand for themselves are pieces. -/
theorem exists_plain {bytes : List UInt8} (h : ∀ b ∈ bytes, Plain b) (others : List Piece) :
    ∃ pieces, pieces.flatMap Piece.text = bytes ++ others.flatMap Piece.text ∧
      Piece.bytes? pieces = (Piece.bytes? others).map (bytes ++ ·) := by
  induction bytes with
  | nil => exact ⟨others, rfl, Option.map_id'.symm⟩
  | cons b more ih =>
    obtain ⟨pieces, htext, hbytes⟩ := ih fun b hb => h b (List.mem_cons_of_mem _ hb)
    refine ⟨.plain b (h b List.mem_cons_self) :: pieces, ?_, ?_⟩
    · rw [List.flatMap_cons, htext]
      rfl
    · rw [Piece.bytes?, hbytes, Option.map_map]
      rfl

theorem exists_escape (c : Char) (others : List Piece) :
    ∃ pieces, pieces.flatMap Piece.text = escape c ++ others.flatMap Piece.text ∧
      Piece.bytes? pieces = (Piece.bytes? others).map (String.utf8EncodeChar c ++ ·) := by
  rcases escape_cases c with ⟨hescape, hplain⟩ | ⟨e, b, hescape, -, -, hshort, hbyte⟩ |
    ⟨d₁, d₂, hescape, -, -, hunit, hc⟩
  · exact hescape ▸ exists_plain hplain others
  · refine ⟨.short e b hshort :: others, ?_, ?_⟩
    · rw [hescape]
      rfl
    · rw [hbyte]
      rfl
  · refine ⟨.unit 0x30 0x30 d₁ d₂ c.toNat hunit :: others, ?_, ?_⟩
    · rw [hescape]
      rfl
    · rw [Piece.bytes?.eq_def]
      dsimp only
      rw [if_pos (.inl (by omega)), Piece.codePoint, Char.ofNat_toNat]

/-- What is written as a string spells it. -/
theorem exists_quoted (s : String) :
    ∃ pieces, Piece.quoted pieces = spellText s ∧ Piece.value? pieces = some s := by
  have hchars (cs : List Char) : ∃ pieces, pieces.flatMap Piece.text = cs.flatMap escape ∧
      Piece.bytes? pieces = some (cs.flatMap String.utf8EncodeChar) := by
    induction cs with
    | nil => exact ⟨[], rfl, rfl⟩
    | cons c more ih =>
      obtain ⟨others, htexts, hothers⟩ := ih
      obtain ⟨pieces, htext, hbytes⟩ := exists_escape c others
      exact ⟨pieces, by rw [htext, htexts, List.flatMap_cons],
        by rw [hbytes, hothers, Option.map_some, List.flatMap_cons]⟩
  obtain ⟨pieces, htext, hbytes⟩ := hchars s.toList
  refine ⟨pieces, ?_, ?_⟩
  · rw [Piece.quoted, htext, spellText]
  · rw [Piece.value?, hbytes, Option.bind_some, ← Text.utf8, Text.fromUTF8?_utf8]

end Json
end HeaderFollower
