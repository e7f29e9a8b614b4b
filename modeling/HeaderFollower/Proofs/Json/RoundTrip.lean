/-
# What was written is read back

`spell` is the text of a value as bytes, written by recursion on the value instead of from left to
right (`utf8_push`). A value that text carries without loss (`Lossless`) is one of those that its text
spells (`exists_part`), so `parse_spell` reads it back. No byte of the text is a control
(`spell_ge`), so a text is one line.
-/

import HeaderFollower.Proofs.Json.Layout
import HeaderFollower.Proofs.Json.Number

namespace HeaderFollower
namespace Json

variable {b close : UInt8} {depth : Nat} {j : Json}

/-! ## Texts as bytes -/

mutual

/-- The text of a value. -/
def spell : Json → List UInt8
  | .null => nullWord
  | .bool true => trueWord
  | .bool false => falseWord
  | .number n => Text.utf8 n.write
  | .string s => spellText s
  | .array items => 0x5b :: (commas (spellItems items) ++ [0x5d])
  | .object members => 0x7b :: (commas (spellMembers members) ++ [0x7d])

/-- The texts of items. -/
def spellItems : List Json → List (List UInt8)
  | [] => []
  | item :: rest => spell item :: spellItems rest

/-- The texts of members. -/
def spellMembers : List (String × Json) → List (List UInt8)
  | [] => []
  | (key, item) :: rest => (spellText key ++ 0x3a :: spell item) :: spellMembers rest

end

/-- The text of a member. -/
def spellMember (m : String × Json) : List UInt8 := spellText m.1 ++ 0x3a :: spell m.2

theorem spellItems_eq (items : List Json) : spellItems items = items.map spell := by
  induction items with
  | nil => rfl
  | cons item rest ih => rw [spellItems, ih, List.map_cons]

theorem spellMembers_eq (members : List (String × Json)) :
    spellMembers members = members.map spellMember := by
  induction members with
  | nil => rfl
  | cons m rest ih => rw [spellMembers, ih, List.map_cons, spellMember]

/-- Pieces behind the first have commas in front of them. -/
def joinBehind (first : Bool) (pieces : List (List UInt8)) : List UInt8 :=
  if first then commas pieces else pieces.flatMap (0x2c :: ·)

mutual

/-- The writer appends the text of a value. -/
theorem utf8_push (acc : String) : (j : Json) → Text.utf8 (push acc j) = Text.utf8 acc ++ spell j
  | .null => by rw [push, Text.utf8_append]; rfl
  | .bool true => by rw [push, Text.utf8_append]; rfl
  | .bool false => by rw [push, Text.utf8_append]; rfl
  | .number n => by rw [push, Text.utf8_append]; rfl
  | .string s => by rw [push, utf8_pushString]; rfl
  | .array items => by
    rw [push, Text.utf8_push, utf8_pushItems, Text.utf8_push, joinBehind, if_pos rfl, spell]
    simp [String.utf8EncodeChar]
  | .object members => by
    rw [push, Text.utf8_push, utf8_pushMembers, Text.utf8_push, joinBehind, if_pos rfl, spell]
    simp [String.utf8EncodeChar]

theorem utf8_pushItems (acc : String) (first : Bool) : (items : List Json) →
    Text.utf8 (pushItems acc first items) = Text.utf8 acc ++ joinBehind first (spellItems items)
  | [] => by cases first <;> simp [pushItems, joinBehind, spellItems, commas]
  | item :: rest => by
    rw [pushItems, utf8_pushItems _ false rest, utf8_push _ item]
    cases first <;> simp [joinBehind, spellItems, commas, String.utf8EncodeChar]

theorem utf8_pushMembers (acc : String) (first : Bool) : (members : List (String × Json)) →
    Text.utf8 (pushMembers acc first members) =
      Text.utf8 acc ++ joinBehind first (spellMembers members)
  | [] => by cases first <;> simp [pushMembers, joinBehind, spellMembers, commas]
  | (key, item) :: rest => by
    rw [pushMembers, utf8_pushMembers _ false rest, utf8_push _ item, Text.utf8_push,
      utf8_pushString]
    cases first <;> simp [joinBehind, spellMembers, commas, String.utf8EncodeChar]

end

theorem utf8_write (j : Json) : Text.utf8 j.write = spell j := utf8_push "" j

/-! ## Objects -/

/-- The keys rise from one member to the next, as they do in an object. -/
def Sorted (members : List (String × Json)) : Prop := members.Pairwise (·.1 < ·.1)

theorem insertMember_of_lt {key : String} {members : List (String × Json)}
    (h : ∀ m ∈ members, m.1 < key) : insertMember key j members = members ++ [(key, j)] := by
  induction members with
  | nil => rfl
  | cons m others ih =>
    have hlt := h m List.mem_cons_self
    have hne : key ≠ m.1 := fun heq => String.lt_irrefl key (heq ▸ hlt)
    rw [insertMember, if_neg (String.lt_asymm hlt), if_neg hne,
      ih fun m hm => h m (List.mem_cons_of_mem _ hm), List.cons_append]

theorem foldl_insertMember {before members : List (String × Json)} (h : Sorted (before ++ members)) :
    members.foldl (fun sorted m => insertMember m.1 m.2 sorted) before = before ++ members := by
  induction members generalizing before with
  | nil => rw [List.foldl_nil, List.append_nil]
  | cons m others ih =>
    have hbefore : ∀ m' ∈ before, m'.1 < m.1 :=
      fun m' hm' => (List.pairwise_append.1 h).2.2 m' hm' m List.mem_cons_self
    have hsplit : before ++ m :: others = before ++ [m] ++ others := by simp
    rw [List.foldl_cons, insertMember_of_lt hbefore, ih (hsplit ▸ h), hsplit]

/-- Members in order make the object they are the members of. -/
theorem mkObject_of_sorted {members : List (String × Json)} (h : Sorted members) :
    mkObject members = .object members := by
  rw [mkObject, foldl_insertMember (List.nil_append members ▸ h), List.nil_append]

/-! ## Values -/

/-- Values that text carries without loss, by the containers that may be opened inside each other. -/
inductive Lossless : Nat → Json → Prop where
  | null {d : Nat} : Lossless d .null
  | bool {d : Nat} (b : Bool) : Lossless d (.bool b)
  | number {d : Nat} {n : JsonNumber} (whole : Whole n) : Lossless d (.number n)
  | string {d : Nat} (s : String) : Lossless d (.string s)
  | array {d : Nat} {items : List Json} (items_lossless : ∀ item ∈ items, Lossless d item) :
      Lossless (d + 1) (.array items)
  | object {d : Nat} {members : List (String × Json)} (sorted : Sorted members)
      (members_lossless : ∀ m ∈ members, Lossless d m.2) : Lossless (d + 1) (.object members)

/-- The value with no blanks around it. -/
def bare (core : List UInt8) (value? : Nat → Option Json) : Part := ⟨.none, core, .none, value?⟩

theorem bare_text (core : List UInt8) (value? : Nat → Option Json) :
    (bare core value?).text = core :=
  List.append_nil core

/-- The text of the part is what is written of `j`, and stands for it. -/
def Writes (depth : Nat) (p : Part) (j : Json) : Prop :=
  p.text = spell j ∧ Spells p.core p.value? ∧ p.value? depth = some j

theorem exists_writes {core : List UInt8} {value? : Nat → Option Json} (h : Spells core value?)
    (hcore : core = spell j) (hvalue : value? depth = some j) : ∃ p, Writes depth p j :=
  ⟨bare core value?, (bare_text core value?).trans hcore, h, hvalue⟩

/-- Items that are written in parts are written as a sequence of them. -/
theorem exists_parts {items : List Json} (h : ∀ item ∈ items, ∃ p, Writes depth p item) :
    ∃ parts : List Part, parts.map Part.text = items.map spell ∧
      (∀ p ∈ parts, Spells p.core p.value?) ∧
      parts.mapM (fun p : Part => p.value? depth) = some items := by
  induction items with
  | nil => exact ⟨[], rfl, fun _ h => absurd h List.not_mem_nil, rfl⟩
  | cons item others ih =>
    obtain ⟨p, htext, hspells, hvalue⟩ := h item List.mem_cons_self
    obtain ⟨parts, htexts, hall, hvalues⟩ := ih fun item hitem => h item (List.mem_cons_of_mem _ hitem)
    refine ⟨p :: parts, ?_, List.forall_mem_cons.2 ⟨hspells, hall⟩, ?_⟩
    · rw [List.map_cons, List.map_cons, htext, htexts]
    · rw [List.mapM_cons, hvalue, hvalues]
      rfl

/-- A member of this name has a text. -/
theorem exists_memberText (front back : Blanks) (key : String) (p : Part) :
    ∃ m : MemberText, m.text = front.bytes ++ (spellText key ++ (back.bytes ++ 0x3a :: p.text)) ∧
      m.key? = some key ∧ m.value = p := by
  obtain ⟨pieces, hquoted, hkey⟩ := exists_quoted key
  exact ⟨⟨front, pieces, back, p⟩, by rw [MemberText.text, hquoted], hkey, rfl⟩

/-- So are the members of an object. -/
theorem exists_memberTexts {members : List (String × Json)}
    (h : ∀ m ∈ members, ∃ p, Writes depth p m.2) :
    ∃ texts : List MemberText, texts.map MemberText.text = members.map spellMember ∧
      (∀ m ∈ texts, Spells m.value.core m.value.value?) ∧
      texts.mapM (fun m : MemberText => m.member? depth) = some members := by
  induction members with
  | nil => exact ⟨[], rfl, fun _ h => absurd h List.not_mem_nil, rfl⟩
  | cons m others ih =>
    obtain ⟨p, htext, hspells, hvalue⟩ := h m List.mem_cons_self
    obtain ⟨first, hfirst, hkey, rfl⟩ := exists_memberText .none .none m.1 p
    obtain ⟨texts, htexts, hall, hvalues⟩ := ih fun m hm => h m (List.mem_cons_of_mem _ hm)
    refine ⟨first :: texts, ?_, List.forall_mem_cons.2 ⟨hspells, hall⟩, ?_⟩
    · rw [List.map_cons, List.map_cons, htexts, spellMember, hfirst, htext]
      rfl
    · have hmember : first.member? depth = some m := by
        rw [MemberText.member?, hkey, hvalue]
        rfl
      rw [List.mapM_cons, hmember, hvalues]
      rfl

/-- **What is written of a value is a text that stands for it.** -/
theorem exists_part (h : Lossless depth j) : ∃ p, Writes depth p j := by
  -- What is inside an array or an object is written with one level less to go.
  induction h with
  | null => exact exists_writes .null rfl rfl
  | bool b => exact exists_writes (.bool b) (by cases b <;> rfl) rfl
  | number whole =>
    obtain ⟨n, htext, hvalue⟩ := exists_numberText whole
    exact exists_writes (.number n) htext (by rw [hvalue]; rfl)
  | string s =>
    obtain ⟨pieces, hquoted, hvalue⟩ := exists_quoted s
    exact exists_writes (.string pieces) hquoted (by rw [hvalue]; rfl)
  | @array d items _ ih =>
    obtain ⟨parts, htexts, hall, hvalues⟩ := exists_parts ih
    refine exists_writes (.array .none hall) ?_ ?_
    · rw [htexts, spell, spellItems_eq]
      rfl
    · rw [arrayValue?, hvalues]
      rfl
  | @object d members sorted _ ih =>
    obtain ⟨texts, htexts, hall, hvalues⟩ := exists_memberTexts ih
    refine exists_writes (.object .none hall) ?_ ?_
    · rw [htexts, spell, spellMembers_eq]
      rfl
    · rw [objectValue?, hvalues, Option.map_some, mkObject_of_sorted sorted]

/-- What was written is the text of the value. -/
theorem parse_spell (h : Lossless maxDepth j) : parse (spell j) = some j := by
  obtain ⟨p, htext, hspells, hvalue⟩ := exists_part h
  obtain ⟨back, hread⟩ := takes_part (takes_core hspells maxDepth) .none [] fun _ _ heq => nomatch heq
  have hend : skipSpaces (back.bytes ++ []) = [] := skipSpaces_blanks back []
  rw [Blanks.none, List.nil_append, List.append_nil, htext, hvalue] at hread
  obtain ⟨hshorter, hread⟩ := taken_eq_some.1 hread
  rw [parse, hread]
  exact if_pos hend

/-! ## No controls -/

theorem mem_commas {pieces : List (List UInt8)} (h : b ∈ commas pieces) :
    b = 0x2c ∨ ∃ piece ∈ pieces, b ∈ piece := by
  cases pieces with
  | nil => cases h
  | cons first others =>
    rw [commas, List.mem_append, List.mem_flatMap] at h
    rcases h with h | ⟨piece, hpiece, h⟩
    · exact .inr ⟨first, List.mem_cons_self, h⟩
    · rcases List.mem_cons.1 h with rfl | h
      · exact .inl rfl
      · exact .inr ⟨piece, List.mem_cons_of_mem _ hpiece, h⟩

theorem enclosed_ge {pieces : List (List UInt8)} {opening : UInt8} (hopening : 0x20 ≤ opening)
    (hclose : 0x20 ≤ close) (hpieces : ∀ piece ∈ pieces, ∀ b ∈ piece, 0x20 ≤ b)
    (h : b ∈ opening :: (commas pieces ++ [close])) : 0x20 ≤ b := by
  rw [List.mem_cons, List.mem_append, List.mem_singleton] at h
  rcases h with rfl | h | rfl
  · exact hopening
  · rcases mem_commas h with rfl | ⟨piece, hpiece, h⟩
    · decide
    · exact hpieces piece hpiece b h
  · exact hclose

theorem literal_ge {w : List UInt8} (hw : (w.all fun b => decide (0x20 ≤ b)) = true) (hb : b ∈ w) :
    0x20 ≤ b :=
  of_decide_eq_true (List.all_eq_true.1 hw b hb)

/-- Nothing that is written of a value is a control. -/
theorem spell_ge (h : Lossless depth j) (hb : b ∈ spell j) : 0x20 ≤ b := by
  induction h generalizing b with
  | null => exact literal_ge (w := nullWord) rfl hb
  | bool v =>
    cases v with
    | false => exact literal_ge (w := falseWord) rfl hb
    | true => exact literal_ge (w := trueWord) rfl hb
  | number whole => exact write_ge whole hb
  | string s => exact spellText_ge hb
  | array items_lossless ih =>
    rw [spell, spellItems_eq] at hb
    refine enclosed_ge (by decide) (by decide) (fun piece hpiece b hb => ?_) hb
    obtain ⟨item, hitem, rfl⟩ := List.mem_map.1 hpiece
    exact ih item hitem hb
  | object sorted members_lossless ih =>
    rw [spell, spellMembers_eq] at hb
    refine enclosed_ge (by decide) (by decide) (fun piece hpiece b hb => ?_) hb
    obtain ⟨m, hm, rfl⟩ := List.mem_map.1 hpiece
    rcases List.mem_append.1 hb with hb | hb
    · exact spellText_ge hb
    · rcases List.mem_cons.1 hb with rfl | hb
      · decide
      · exact ih m hm hb

end Json
end HeaderFollower
