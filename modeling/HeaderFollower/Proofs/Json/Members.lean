/-
# Records in any layout

An object may have its members in any order, with others between them and blanks everywhere
(`ObjectText`). The record that it is read as holds for each name what the member of this name stands
for (`ObjectText.field?`). The names of all members count, but of the values only those that the
record has a name for: `readRecord_eq_none` and `readRecord_eq_fields` say that nothing else decides.
-/

import HeaderFollower.Json.Record
import HeaderFollower.Proofs.Json.Layout

namespace HeaderFollower
namespace Json

variable {rest : List UInt8} {names : List String} {name key : String} {depth : Nat}
  {members : List MemberText} {m : MemberText} {p : Part}

/-! ## Objects -/

/-- The text of an object with blanks around it. -/
structure ObjectText where
  front : Blanks
  inside : Blanks
  members : List MemberText
  back : Blanks
  spelled : ∀ m ∈ members, Spells m.value.core m.value.value?

/-- The name of the member can be held, and so can its value if the name is one of `names`. -/
def MemberText.Legible (names : List String) (depth : Nat) (m : MemberText) : Prop :=
  ∃ key, m.key? = some key ∧ (key ∈ names → ∃ j, m.value.value? depth = some j)

/-- What the member of this name stands for, the first one if there are more. -/
def memberNamed? (depth : Nat) (members : List MemberText) (name : String) : Option Json :=
  (members.find? fun m => m.key? == some name).bind fun m => m.value.value? depth

namespace ObjectText

def text (o : ObjectText) : List UInt8 :=
  o.front.bytes ++ (0x7b :: (o.inside.bytes ++
    (commas (o.members.map MemberText.text) ++ 0x7d :: o.back.bytes)))

/-- Every name can be held, and so can every value that has one of `names`. -/
def Legible (o : ObjectText) (names : List String) : Prop :=
  ∀ m ∈ o.members, m.Legible names (maxDepth - 1)

/-- No member with one of `names` occurs twice. -/
def Once (o : ObjectText) (names : List String) : Prop :=
  ∀ name ∈ names, (o.members.filterMap MemberText.key?).count name ≤ 1

/-- What the member of this name stands for. -/
def field? (o : ObjectText) (name : String) : Option Json :=
  memberNamed? (maxDepth - 1) o.members name

end ObjectText

/-! ## Members -/

theorem taken_skip (s : List UInt8) : taken (skip s) = (skipFrom .value [] s).map ((), ·) := by
  unfold skip
  split
  · next h => exact (congrArg (Option.map ((), ·)) h).symm
  · next h => exact (congrArg (Option.map ((), ·)) h).symm

theorem takes_skip (h : Spells p.core p.value?) : Takes skip p.text (some ()) := by
  intro front rest hrest
  obtain ⟨back, hpass⟩ := passes_part (passes_core h) [] front rest hrest
  refine ⟨back, ?_⟩
  rw [taken_skip, hpass, skipFrom]
  rfl

/-- What is kept of the member's value. -/
def kept? (names : List String) (depth : Nat) (p : Part) (key : String) : Option (Option Json) :=
  if names.contains key then (p.value? depth).map some else some none

theorem takes_knownMember (h : Spells p.core p.value?) (key : String) :
    Takes (knownMember names depth key) p.text (kept? names depth p key) := by
  intro front rest hrest
  unfold kept?
  by_cases hknown : names.contains key = true
  · obtain ⟨back, htaken⟩ := takes_part (takes_core h depth) front rest hrest
    refine ⟨back, ?_⟩
    rw [knownMember, if_pos hknown, if_pos hknown]
    cases hvalue : p.value? depth with
    | none =>
      rw [hvalue] at htaken
      rw [taken_eq_none.1 htaken]
      rfl
    | some j =>
      rw [hvalue] at htaken
      obtain ⟨_, hread⟩ := taken_eq_some.1 htaken
      rw [hread]
      rfl
  · obtain ⟨back, htaken⟩ := takes_skip h front rest hrest
    refine ⟨back, ?_⟩
    obtain ⟨_, hread⟩ := taken_eq_some.1 htaken
    rw [knownMember, if_neg hknown, if_neg hknown, hread]
    rfl

/-- The member as it is read. -/
def readMember? (names : List String) (depth : Nat) (m : MemberText) :
    Option (String × Option Json) :=
  m.key?.bind fun key => (kept? names depth m.value key).map (key, ·)

theorem readMember?_eq_none (h : ¬ m.Legible names depth) : readMember? names depth m = none := by
  rw [readMember?]
  cases hkey : m.key? with
  | none => rfl
  | some key =>
    by_cases hknown : key ∈ names
    · cases hvalue : m.value.value? depth with
      | none =>
        rw [Option.bind_some, kept?, if_pos (List.contains_iff_mem.2 hknown), hvalue]
        rfl
      | some j => exact absurd ⟨key, hkey, fun _ => ⟨j, hvalue⟩⟩ h
    · exact absurd ⟨key, hkey, fun hmem => absurd hmem hknown⟩ h

/-- One member that is not legible is enough. -/
theorem mapM_readMember?_eq_none (hm : m ∈ members) (h : ¬ m.Legible names depth) :
    members.mapM (readMember? names depth) = none := by
  induction members with
  | nil => cases hm
  | cons first others ih =>
    rw [List.mapM_cons]
    rcases List.mem_cons.1 hm with rfl | hm
    · rw [readMember?_eq_none h]
      rfl
    · rw [ih hm]
      cases readMember? names depth first <;> rfl

/-- The members that a record keeps. -/
def known (all : List (String × Option Json)) : List (String × Json) :=
  all.filterMap fun m => m.2.map fun j => (m.1, j)

theorem memberNamed?_cons (hkey : m.key? = some key) :
    memberNamed? depth (m :: members) name =
      if name = key then m.value.value? depth else memberNamed? depth members name := by
  rw [memberNamed?, List.find?_cons, hkey]
  by_cases hname : name = key
  · rw [if_pos hname, hname, beq_self_eq_true]
    rfl
  · have hne : (some key == some name) = false :=
      beq_eq_false_iff_ne.2 fun heq => hname (Option.some.inj heq).symm
    rw [if_neg hname, hne]
    rfl

/-- Legible members are read, and of these the record keeps those it knows. -/
theorem exists_mapM_readMember? (h : ∀ m ∈ members, m.Legible names depth) :
    ∃ all, members.mapM (readMember? names depth) = some all ∧
      (known all).map Prod.fst = (members.filterMap MemberText.key?).filter (names.contains ·) ∧
      ∀ name ∈ names, (known all).lookup name = memberNamed? depth members name := by
  induction members with
  | nil => exact ⟨[], rfl, rfl, fun _ _ => rfl⟩
  | cons first others ih =>
    obtain ⟨all, hread, hnames, hlookup⟩ := ih fun m hm => h m (List.mem_cons_of_mem _ hm)
    obtain ⟨key, hkey, hvalue⟩ := h first List.mem_cons_self
    by_cases hknown : key ∈ names
    · obtain ⟨j, hj⟩ := hvalue hknown
      have hcontains : names.contains key = true := List.contains_iff_mem.2 hknown
      have hfirst : readMember? names depth first = some (key, some j) := by
        rw [readMember?, hkey, Option.bind_some, kept?, if_pos hcontains, hj]
        rfl
      refine ⟨(key, some j) :: all, ?_, ?_, fun name hname => ?_⟩
      · rw [List.mapM_cons, hfirst, hread]
        rfl
      · rw [List.filterMap_cons_some hkey, List.filter_cons_of_pos hcontains, ← hnames]
        rfl
      · have hcons : known ((key, some j) :: all) = (key, j) :: known all := rfl
        rw [hcons, List.lookup_cons, memberNamed?_cons hkey, ← hlookup name hname, hj]
        by_cases heq : name = key
        · rw [if_pos heq, heq, beq_self_eq_true]
        · rw [if_neg heq, beq_eq_false_iff_ne.2 heq]
    · have hcontains : names.contains key ≠ true := fun hc => hknown (List.contains_iff_mem.1 hc)
      have hfirst : readMember? names depth first = some (key, none) := by
        rw [readMember?, hkey, Option.bind_some, kept?, if_neg hcontains]
        rfl
      refine ⟨(key, none) :: all, ?_, ?_, fun name hname => ?_⟩
      · rw [List.mapM_cons, hfirst, hread]
        rfl
      · rw [List.filterMap_cons_some hkey, List.filter_cons_of_neg hcontains, ← hnames]
        rfl
      · have hne : name ≠ key := fun heq => hknown (heq ▸ hname)
        rw [memberNamed?_cons hkey, if_neg hne, ← hlookup name hname]
        rfl

/-! ## Records -/

theorem hasDuplicate_eq_false_iff {all : List String} : hasDuplicate all = false ↔ all.Nodup := by
  induction all with
  | nil => exact iff_of_true rfl .nil
  | cons first others ih =>
    rw [hasDuplicate, Bool.or_eq_false_iff, ih, List.nodup_cons]
    simp

namespace ObjectText

variable {o : ObjectText}

/-- The members are read one by one. -/
theorem taken_objectOf (o : ObjectText) (names : List String) :
    taken (objectOf (knownMember names (maxDepth - 1)) o.text) =
      (o.members.mapM (readMember? names (maxDepth - 1))).map (·, o.back.bytes) :=
  taken_enclosed o.front o.inside rfl (.inr rfl) (fun m _ => expect?_member (.inr rfl) m)
    fun m hm => takes_member fun key => takes_knownMember (o.spelled m hm) key

theorem recordAt_text (o : ObjectText) (names : List String) :
    recordAt names o.text = match objectOf (knownMember names (maxDepth - 1)) o.text with
      | some ⟨members, rest, h⟩ =>
        if hasDuplicate ((known members).map Prod.fst) then none
        else some ⟨fieldsOfMembers names (known members), rest, h⟩
      | none => none := by
  have hspaces : skipSpaces o.text = 0x7b :: (o.inside.bytes ++
      (commas (o.members.map MemberText.text) ++ 0x7d :: o.back.bytes)) := by
    rw [text, skipSpaces_blanks]
    exact skipSpaces_cons rfl
  rw [recordAt, hspaces]
  cases objectOf (knownMember names (maxDepth - 1)) o.text <;> rfl

/-- **An object is no record if one of its members is not legible.** -/
theorem readRecord_eq_none (h : ¬ o.Legible names) : readRecord names o.text = none := by
  obtain ⟨m, hm, hnot⟩ : ∃ m ∈ o.members, ¬ m.Legible names (maxDepth - 1) := by
    simpa [Legible] using h
  have hread := o.taken_objectOf names
  rw [mapM_readMember?_eq_none hm hnot] at hread
  rw [readRecord, recordAt_text, taken_eq_none.1 hread]

/-- **An object whose members are legible is the record of what they stand for**, if none of them
occurs twice. -/
theorem readRecord_eq_fields (h : o.Legible names) (honce : o.Once names) :
    readRecord names o.text = some (names.map o.field?) := by
  obtain ⟨all, hall, hnames, hlookup⟩ := exists_mapM_readMember? h
  have hread := o.taken_objectOf names
  rw [hall] at hread
  obtain ⟨hshorter, hread⟩ := taken_eq_some.1 hread
  have hunique : hasDuplicate ((known all).map Prod.fst) = false := by
    rw [hasDuplicate_eq_false_iff, hnames, List.nodup_iff_count]
    intro name
    by_cases hname : name ∈ names
    · exact Nat.le_trans (List.filter_sublist.count_le name) (honce name hname)
    · rw [List.count_eq_zero.2 fun hmem => hname (List.contains_iff_mem.1 (List.mem_filter.1 hmem).2)]
      exact Nat.zero_le 1
  have hend : skipSpaces o.back.bytes = [] := by
    have hblank := skipSpaces_blanks o.back []
    rw [List.append_nil] at hblank
    exact hblank
  have hfields : fieldsOfMembers names (known all) = names.map o.field? :=
    List.map_congr_left hlookup
  rw [readRecord, recordAt_text, hread]
  dsimp only
  rw [hunique, if_neg Bool.false_ne_true]
  dsimp only
  rw [if_pos hend, hfields]

end ObjectText

end Json
end HeaderFollower
