/-
# What any byte stream turns out to hold

The line feeds of a stream cut it into segments. A segment within the limit comes out as a line, a
longer one is reported once and skipped whole, wherever it stands (`events_eq_segments`). The pieces
in which the stream arrives do not matter.

Bytes that wait behind a report are looked at later, so `settle` looks at them at once: in terms of
it, a piece is its bytes one after the other (`settle_read`). What is left is a single reading of
all bytes, whose state is that of the segment that has been begun (`within`).
-/

import HeaderFollower.Proofs.Wire.Lines

namespace HeaderFollower
namespace LineReader

/-- The segments of a byte string between its line feeds. Behind the last line feed there is one
only if bytes follow. -/
def segments (bytes : List UInt8) : List (List UInt8) :=
  let all := bytes.splitOn 0x0a
  if all.getLast? = some [] then all.dropLast else all

/-- What a segment comes out as. -/
def eventOf (limit : Nat) (segment : List UInt8) : LineEvent :=
  if segment.length ≤ limit then .line segment.toByteArray else .oversized

variable {limit : Nat} {r : LineReader} {p : Progress} {bytes segment : List UInt8}

/-! ## Cuts do not matter -/

/-- The state once the bytes that wait have been looked at, with what they complete, newest
first. -/
def settle (r : LineReader) (before : List LineEvent) : LineReader × List LineEvent :=
  r.takeBacklog.2.data.foldl pushLast (r.takeBacklog.1, before)

/-- Bytes wait only where reading has stopped. -/
def Progress.Sound (p : Progress) : Prop := p.stopped = true ∨ p.reader.backlog = .empty

theorem settle_of_no_backlog (h : r.backlog = .empty) (before : List LineEvent) :
    r.settle before = (r, before) := by
  obtain ⟨limit, line, discarding, backlog⟩ := r
  cases h
  rfl

/-- A byte that is looked at leaves alone what waits. -/
theorem backlog_eq (r : LineReader) (b : UInt8) : (r.push b).1.backlog = r.backlog := by
  obtain ⟨limit, line, discarding, backlog⟩ := r
  cases discarding with
  | true => rfl
  | false =>
    rw [push]
    split
    · rfl
    · split <;> rfl

/-- A byte of a piece counts at once, even where it is only kept. -/
theorem settle_push (h : p.Sound) (b : UInt8) :
    (p.push b).Sound ∧
      (p.push b).reader.settle (p.push b).events = pushLast (p.reader.settle p.events) b := by
  obtain ⟨reader, events, stopped⟩ := p
  cases stopped with
  | true =>
    obtain ⟨limit, line, discarding, backlog⟩ := reader
    exact ⟨.inl rfl, by simp [Progress.push, keep, settle, takeBacklog]⟩
  | false =>
    have hempty : reader.backlog = .empty := h.resolve_left Bool.false_ne_true
    have hbehind : (reader.push b).1.backlog = .empty := by rw [backlog_eq, hempty]
    rw [settle_of_no_backlog hempty, pushLast, Progress.push]
    split
    · next behind hread =>
      rw [hread] at hbehind ⊢
      exact ⟨.inr hbehind, settle_of_no_backlog hbehind _⟩
    · next behind line hread =>
      rw [hread] at hbehind ⊢
      exact ⟨.inr hbehind, settle_of_no_backlog hbehind _⟩
    · next behind hread =>
      rw [hread] at hbehind ⊢
      exact ⟨.inl rfl, settle_of_no_backlog hbehind _⟩

theorem settle_foldl (h : p.Sound) (bytes : List UInt8) :
    (bytes.foldl Progress.push p).reader.settle (bytes.foldl Progress.push p).events =
      bytes.foldl pushLast (p.reader.settle p.events) := by
  induction bytes generalizing p with
  | nil => rfl
  | cons b rest ih =>
    obtain ⟨hsound, hpush⟩ := settle_push h b
    rw [List.foldl_cons, List.foldl_cons, ih hsound, hpush]

/-- **A piece is its bytes one after the other.** -/
theorem settle_read (r : LineReader) (piece : ByteArray) (before : List LineEvent) :
    (r.read piece).1.settle ((r.read piece).2.reverse ++ before) =
      piece.toList.foldl pushLast (r.settle before) := by
  have hbegun : (⟨r.takeBacklog.1, before, false⟩ : Progress).Sound := .inr rfl
  have hevents := foldl_events (r.takeBacklog.2.toList ++ piece.toList) r.takeBacklog.1 before [] false
  have hsettle := settle_foldl hbegun (r.takeBacklog.2.toList ++ piece.toList)
  have hnone : r.takeBacklog.1.settle before = (r.takeBacklog.1, before) :=
    settle_of_no_backlog rfl before
  rw [List.nil_append] at hevents
  rw [hevents, hnone, List.foldl_append, List.foldl_append] at hsettle
  simp only [Hex.toList_eq_data, Array.foldl_toList] at hsettle ⊢
  rw [read]
  simp only [List.reverse_reverse]
  exact hsettle

/-- Pieces are their bytes one after the other. -/
theorem settle_readAll (r : LineReader) (pieces : List ByteArray) (before : List LineEvent) :
    (r.readAll pieces).1.settle ((r.readAll pieces).2.reverse ++ before) =
      (pieces.flatMap ByteArray.toList).foldl pushLast (r.settle before) := by
  induction pieces generalizing r before with
  | nil => rfl
  | cons piece rest ih =>
    rw [List.flatMap_cons, List.foldl_append, ← settle_read, ← ih, readAll, List.reverse_append,
      List.append_assoc]

/-- Looking at bytes adds to the events so far. -/
theorem foldl_pushLast (bytes : List UInt8) (r : LineReader) (events before : List LineEvent) :
    bytes.foldl pushLast (r, events ++ before) =
      ((bytes.foldl pushLast (r, events)).1, (bytes.foldl pushLast (r, events)).2 ++ before) := by
  induction bytes generalizing r events with
  | nil => rfl
  | cons b rest ih =>
    rw [List.foldl_cons, List.foldl_cons, pushLast, pushLast]
    split
    · exact ih _ events
    · exact ih _ (_ :: events)

/-- What the end of the stream brings out of a state, behind what came before. -/
def conclude : LineReader × List LineEvent → List LineEvent
  | (last, events) => (if last.line.isEmpty then events else .line last.line :: events).reverse

theorem conclude_append (r : LineReader) (events before : List LineEvent) :
    conclude (r, events ++ before) = before.reverse ++ conclude (r, events) := by
  rw [conclude, conclude]
  split
  · exact List.reverse_append
  · rw [← List.cons_append]
    exact List.reverse_append

theorem finish_eq (r : LineReader) (before : List LineEvent) :
    before.reverse ++ r.finish = conclude (r.settle before) := by
  have hfinish : r.finish = conclude (r.settle []) := rfl
  have hshift := foldl_pushLast r.takeBacklog.2.data.toList r.takeBacklog.1 [] before
  simp only [List.nil_append, Array.foldl_toList] at hshift
  rw [hfinish, settle, settle, hshift, conclude_append]

theorem events_eq_conclude (limit : Nat) (pieces : List ByteArray) :
    events limit pieces = conclude
      ((pieces.flatMap ByteArray.toList).foldl pushLast ((start limit).settle [])) := by
  rw [← settle_readAll, ← finish_eq, List.append_nil, List.reverse_reverse]
  rfl

/-! ## One reading of all bytes -/

/-- The state behind the bytes of a segment that has not ended. -/
def within (limit : Nat) (segment : List UInt8) : LineReader :=
  if segment.length ≤ limit then ⟨limit, segment.toByteArray, false, .empty⟩
  else ⟨limit, .empty, true, .empty⟩

/-- What has been said of a segment that has not ended. -/
def said (limit : Nat) (segment : List UInt8) : List LineEvent :=
  if segment.length ≤ limit then [] else [.oversized]

theorem within_short (h : segment.length ≤ limit) :
    within limit segment = ⟨limit, segment.toByteArray, false, .empty⟩ ∧
      said limit segment = [] := ⟨if_pos h, if_pos h⟩

theorem within_long (h : limit < segment.length) :
    within limit segment = ⟨limit, .empty, true, .empty⟩ ∧ said limit segment = [.oversized] :=
  ⟨if_neg (Nat.not_le.2 h), if_neg (Nat.not_le.2 h)⟩

theorem pushLast_within {b : UInt8} (hb : b ≠ 0x0a) (before : List LineEvent) :
    pushLast (within limit segment, said limit segment ++ before) b =
      (within limit (segment ++ [b]), said limit (segment ++ [b]) ++ before) := by
  have hpush : (segment ++ [b]).toByteArray = segment.toByteArray.push b := by
    refine ByteArray.ext (Array.toList_inj.1 ?_)
    simp
  have hlength : (segment ++ [b]).length = segment.length + 1 := List.length_append
  rcases Nat.lt_trichotomy segment.length limit with hlt | heq | hgt
  · obtain ⟨hstate, hsaid⟩ := within_short (Nat.le_of_lt hlt)
    have hshort : (segment ++ [b]).length ≤ limit := by omega
    obtain ⟨hnext, hnew⟩ := within_short hshort
    have hroom : segment.toByteArray.size < limit := by rwa [List.size_toByteArray]
    rw [hstate, hsaid, hnext, hnew, hpush, pushLast, push, if_neg hb, if_pos hroom]
  · obtain ⟨hstate, hsaid⟩ := within_short (Nat.le_of_eq heq)
    have hlong : limit < (segment ++ [b]).length := by omega
    obtain ⟨hnext, hnew⟩ := within_long hlong
    have hfull : ¬ segment.toByteArray.size < limit := by
      rw [List.size_toByteArray]
      omega
    rw [hstate, hsaid, hnext, hnew, pushLast, push, if_neg hb, if_neg hfull]
    rfl
  · obtain ⟨hstate, hsaid⟩ := within_long hgt
    have hlong : limit < (segment ++ [b]).length := by omega
    obtain ⟨hnext, hnew⟩ := within_long hlong
    rw [hstate, hsaid, hnext, hnew, pushLast, push, bne_iff_ne.2 hb]

/-- A line feed ends the segment. -/
theorem pushLast_feed (before : List LineEvent) :
    pushLast (within limit segment, said limit segment ++ before) 0x0a =
      (start limit, eventOf limit segment :: before) := by
  rcases Nat.lt_or_ge limit segment.length with hlong | hshort
  · obtain ⟨hstate, hsaid⟩ := within_long hlong
    rw [hstate, hsaid, eventOf, if_neg (Nat.not_le.2 hlong)]
    rfl
  · obtain ⟨hstate, hsaid⟩ := within_short hshort
    rw [hstate, hsaid, eventOf, if_pos hshort]
    rfl

theorem conclude_within (before : List LineEvent) :
    conclude (within limit segment, said limit segment ++ before) =
      before.reverse ++ if segment = [] then [] else [eventOf limit segment] := by
  rcases Nat.lt_or_ge limit segment.length with hlong | hshort
  · obtain ⟨hstate, hsaid⟩ := within_long hlong
    have hne : segment ≠ [] := List.ne_nil_of_length_pos (Nat.zero_lt_of_lt hlong)
    rw [hstate, hsaid, conclude, eventOf, if_neg (Nat.not_le.2 hlong), if_neg hne]
    simp [ByteArray.isEmpty]
  · obtain ⟨hstate, hsaid⟩ := within_short hshort
    rw [hstate, hsaid, conclude, eventOf, if_pos hshort]
    cases segment with
    | nil => simp [ByteArray.isEmpty]
    | cons b rest => simp [ByteArray.isEmpty]

theorem segments_of_unbroken (h : 0x0a ∉ segment) :
    segments segment = if segment = [] then [] else [segment] := by
  rw [segments, List.splitOn_eq_singleton h]
  split <;> simp_all

theorem segments_append_feed (h : 0x0a ∉ segment) (rest : List UInt8) :
    segments (segment ++ 0x0a :: rest) = segment :: segments rest := by
  have hsplit : (segment ++ 0x0a :: rest).splitOn 0x0a = segment :: rest.splitOn 0x0a := by
    have hone := List.splitOn_eq_singleton h
    rw [List.splitOn] at hone ⊢
    have hcut := List.splitOnP_append_cons (p := (· == (0x0a : UInt8))) segment rest
      (beq_self_eq_true 0x0a)
    rw [hcut, hone]
    rfl
  obtain ⟨first, others, hrest⟩ := List.exists_cons_of_ne_nil (List.splitOn_ne_nil 0x0a rest)
  rw [segments, segments, hsplit, hrest, List.getLast?_cons_cons, List.dropLast_cons_cons]
  split <;> rfl

/-- The induction is on the bytes that are left; `segment` is what has been read of the present
one. -/
theorem conclude_foldl (h : 0x0a ∉ segment) (before : List LineEvent) :
    conclude (bytes.foldl pushLast (within limit segment, said limit segment ++ before)) =
      before.reverse ++ (segments (segment ++ bytes)).map (eventOf limit) := by
  induction bytes generalizing segment before with
  | nil =>
    rw [List.foldl_nil, conclude_within, List.append_nil, segments_of_unbroken h]
    split <;> rfl
  | cons b rest ih =>
    rw [List.foldl_cons]
    by_cases hb : b = 0x0a
    · subst hb
      have hnext := ih List.not_mem_nil (eventOf limit segment :: before)
      rw [List.nil_append, List.reverse_cons, List.append_assoc] at hnext
      rw [pushLast_feed, segments_append_feed h, List.map_cons]
      exact hnext
    · have hunbroken : 0x0a ∉ segment ++ [b] := by
        simp [h, Ne.symm hb]
      rw [pushLast_within hb, ih hunbroken, List.append_assoc, List.singleton_append]

/-- **A stream turns out to hold its segments**, in whatever pieces it arrives: each of them a line
if it stays within the limit, and otherwise a report. -/
theorem events_eq_segments (limit : Nat) (pieces : List ByteArray) :
    events limit pieces =
      (segments (pieces.flatMap ByteArray.toList)).map (eventOf limit) := by
  rw [events_eq_conclude, settle_of_no_backlog rfl]
  exact conclude_foldl List.not_mem_nil []

/-- An empty line is a segment, and so are bytes that no line feed ends. -/
example : segments [0x61, 0x0a, 0x0a, 0x62] = [[0x61], [], [0x62]] := by decide

end LineReader
end HeaderFollower
