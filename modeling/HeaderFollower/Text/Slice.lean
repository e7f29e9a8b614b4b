/-
# Cuts by bytes

A text can be cut where a character begins or at its end, and the place is counted in bytes of
UTF-8. `splitAtByte?_eq_some_iff` says that a cut is found exactly where there is one.
-/

namespace HeaderFollower
namespace Text

/-- The number of bytes of some characters. -/
def byteLength : List Char → Nat
  | [] => 0
  | c :: rest => c.utf8Size + byteLength rest

/-- What stands before and behind the byte `n`; none if a character goes across it or the text is
too short. -/
def splitAtByte? (n : Nat) : List Char → Option (List Char × List Char)
  | [] => if n = 0 then some ([], []) else none
  | c :: rest =>
    if n = 0 then some ([], c :: rest)
    else if n < c.utf8Size then none
    else (splitAtByte? (n - c.utf8Size) rest).map fun (before, behind) => (c :: before, behind)

/-- What stands from the byte `first` to the byte `last`. -/
def slice? (first last : Nat) (cs : List Char) : Option (List Char) :=
  match splitAtByte? last cs with
  | none => none
  | some (before, _) => (splitAtByte? first before).map (·.2)

theorem splitAtByte?_eq_some_iff {n : Nat} {cs before behind : List Char} :
    splitAtByte? n cs = some (before, behind) ↔ before ++ behind = cs ∧ byteLength before = n := by
  induction cs generalizing n before behind with
  | nil =>
    by_cases hn : n = 0
    · simp +contextual [splitAtByte?, hn, byteLength, eq_comm]
    · simp only [splitAtByte?, hn, if_false, reduceCtorEq, List.append_eq_nil_iff, false_iff]
      rintro ⟨⟨rfl, rfl⟩, h⟩
      exact hn h.symm
  | cons c rest ih =>
    have hc := c.utf8Size_pos
    by_cases hn : n = 0
    · subst hn
      cases before with
      | nil => simp [splitAtByte?, byteLength, eq_comm]
      | cons d ds =>
        have hd := d.utf8Size_pos
        simp only [splitAtByte?, if_true, Option.some.injEq, Prod.mk.injEq, reduceCtorEq, false_and,
          byteLength, false_iff]
        omega
    · cases before with
      | nil =>
        simp only [splitAtByte?, hn, if_false]
        split
        · simp [byteLength, Ne.symm hn]
        · simp [byteLength, Ne.symm hn]
      | cons d ds =>
        simp only [splitAtByte?, hn, if_false]
        split
        · simp only [reduceCtorEq, List.cons_append, List.cons.injEq, byteLength, false_iff]
          rintro ⟨⟨rfl, _⟩, h⟩
          omega
        · simp only [Option.map_eq_some_iff, Prod.exists, ih, Prod.mk.injEq, List.cons.injEq,
            List.cons_append, byteLength]
          constructor
          · rintro ⟨a, b, ⟨rfl, h⟩, ⟨rfl, rfl⟩, rfl⟩
            exact ⟨⟨rfl, rfl⟩, by omega⟩
          · rintro ⟨⟨rfl, rfl⟩, h⟩
            exact ⟨ds, behind, ⟨rfl, by omega⟩, ⟨rfl, rfl⟩, rfl⟩

end Text
end HeaderFollower
