/-
# Lines come out as they went in

A stream of lines that stay within the limit, cut into pieces anywhere, is read as these lines and
nothing else (`events_feeds`). As long as no line is reported as too long, reading stops nowhere, so
reading pieces is reading their bytes one after the other (`readAll_eq`), and the cuts do not matter.
-/

import HeaderFollower.Wire.Lines
import HeaderFollower.Proofs.Bytes.Hex

namespace HeaderFollower
namespace LineReader

/-- Pieces one after the other: the state behind them, and what they complete. -/
def readAll (r : LineReader) : List ByteArray → LineReader × List LineEvent
  | [] => (r, [])
  | piece :: rest =>
    let (behind, new) := r.read piece
    let (last, more) := behind.readAll rest
    (last, new ++ more)

/-- Everything that a stream that arrives in pieces turns out to hold. -/
def events (limit : Nat) (pieces : List ByteArray) : List LineEvent :=
  ((start limit).readAll pieces).2 ++ ((start limit).readAll pieces).1.finish

variable {limit : Nat} {r : LineReader} {p : Progress} {bytes line : List UInt8}

/-! ## Reading without a stop -/

/-- Reading that stopped goes on no more. -/
theorem stopped_of_push (b : UInt8) (h : (p.push b).stopped = false) : p.stopped = false := by
  obtain ⟨reader, events, stopped⟩ := p
  cases stopped with
  | true => cases h
  | false => rfl

theorem stopped_of_foldl (h : (bytes.foldl Progress.push p).stopped = false) :
    p.stopped = false := by
  induction bytes generalizing p with
  | nil => exact h
  | cons b rest ih => exact stopped_of_push b (ih h)

/-- Nothing waits unless reading stopped. -/
theorem backlog_push (b : UInt8) (h : (p.push b).stopped = false) :
    (p.push b).reader.backlog = p.reader.backlog := by
  obtain ⟨⟨limit, line, discarding, backlog⟩, events, stopped⟩ := p
  cases stopped with
  | true => cases h
  | false =>
    cases discarding with
    | true => rfl
    | false =>
      by_cases hb : b = 0x0a
      · simp [Progress.push, LineReader.push, hb]
      · by_cases hsize : line.size < limit <;>
          simp [Progress.push, LineReader.push, hb, hsize]

theorem backlog_foldl (h : (bytes.foldl Progress.push p).stopped = false) :
    (bytes.foldl Progress.push p).reader.backlog = p.reader.backlog := by
  induction bytes generalizing p with
  | nil => rfl
  | cons b rest ih => exact (ih h).trans (backlog_push b (stopped_of_foldl h))

/-- Reading does not look at the events so far. -/
theorem push_events (r : LineReader) (before events : List LineEvent) (stopped : Bool) (b : UInt8) :
    Progress.push ⟨r, events ++ before, stopped⟩ b =
      { Progress.push ⟨r, events, stopped⟩ b with
        events := (Progress.push ⟨r, events, stopped⟩ b).events ++ before } := by
  cases stopped with
  | true => rfl
  | false =>
    unfold Progress.push
    dsimp only
    split <;> rfl

theorem foldl_events (bytes : List UInt8) (r : LineReader) (before events : List LineEvent)
    (stopped : Bool) :
    bytes.foldl Progress.push ⟨r, events ++ before, stopped⟩ =
      { bytes.foldl Progress.push ⟨r, events, stopped⟩ with
        events := (bytes.foldl Progress.push ⟨r, events, stopped⟩).events ++ before } := by
  induction bytes generalizing r events stopped with
  | nil => rfl
  | cons b rest ih =>
    rw [List.foldl_cons, push_events, ih]
    rfl

/-- A piece is its bytes if nothing waits. -/
theorem read_eq (hwaits : r.backlog = .empty) (piece : ByteArray) :
    r.read piece = ((piece.toList.foldl Progress.push ⟨r, [], false⟩).reader,
      (piece.toList.foldl Progress.push ⟨r, [], false⟩).events.reverse) := by
  obtain ⟨limit, line, discarding, backlog⟩ := r
  cases hwaits
  rw [Hex.toList_eq_data, Array.foldl_toList]
  rfl

/-- **Pieces are their bytes one after the other** as long as reading stops nowhere. -/
theorem readAll_eq (hwaits : r.backlog = .empty) {pieces : List ByteArray}
    (hgoes : ((pieces.flatMap ByteArray.toList).foldl Progress.push ⟨r, [], false⟩).stopped = false) :
    r.readAll pieces =
      (((pieces.flatMap ByteArray.toList).foldl Progress.push ⟨r, [], false⟩).reader,
        ((pieces.flatMap ByteArray.toList).foldl Progress.push ⟨r, [], false⟩).events.reverse) := by
  induction pieces generalizing r with
  | nil => rfl
  | cons piece rest ih =>
    rw [List.flatMap_cons, List.foldl_append] at hgoes ⊢
    have hfirst := stopped_of_foldl hgoes
    have hbacklog := (backlog_foldl hfirst).trans hwaits
    have hread := read_eq hwaits piece
    generalize piece.toList.foldl Progress.push ⟨r, [], false⟩ = first at *
    obtain ⟨reader, events, stopped⟩ := first
    obtain rfl : stopped = false := hfirst
    have hevents := foldl_events (rest.flatMap ByteArray.toList) reader events [] false
    rw [List.nil_append] at hevents
    rw [hevents] at hgoes ⊢
    rw [readAll, hread]
    dsimp only at hgoes ⊢
    rw [ih hbacklog hgoes, List.reverse_append]

/-! ## Lines within the limit -/

/-- Bytes of a line are kept while there is room. -/
theorem foldl_line {kept : ByteArray} {backlog : ByteArray} {events : List LineEvent}
    (hfeed : 0x0a ∉ line) (hfits : kept.size + line.length ≤ limit) :
    line.foldl Progress.push ⟨⟨limit, kept, false, backlog⟩, events, false⟩ =
      ⟨⟨limit, kept ++ line.toByteArray, false, backlog⟩, events, false⟩ := by
  induction line generalizing kept with
  | nil => simp
  | cons b rest ih =>
    rw [List.mem_cons, not_or] at hfeed
    rw [List.length_cons] at hfits
    have hroom : kept.size < limit := by omega
    have hpush : Progress.push ⟨⟨limit, kept, false, backlog⟩, events, false⟩ b =
        ⟨⟨limit, kept.push b, false, backlog⟩, events, false⟩ := by
      simp only [Progress.push, LineReader.push, if_neg (Ne.symm hfeed.1), if_pos hroom]
    rw [List.foldl_cons, hpush, ih hfeed.2 (by rw [ByteArray.size_push]; omega)]
    have hjoin : kept.push b ++ rest.toByteArray = kept ++ (b :: rest).toByteArray := by
      refine ByteArray.ext (Array.toList_inj.1 ?_)
      simp
    rw [hjoin]

/-- Bytes that are lines with their line feeds. -/
def feeds (lines : List (List UInt8)) : List UInt8 := lines.flatMap (· ++ [0x0a])

/-- A line may be sent: no line feed breaks it, and it stays within the limit. -/
structure Fits (limit : Nat) (line : List UInt8) : Prop where
  unbroken : 0x0a ∉ line
  short : line.length ≤ limit

theorem foldl_feeds {lines : List (List UInt8)} (hfits : ∀ line ∈ lines, Fits limit line)
    (before : List LineEvent) :
    (feeds lines).foldl Progress.push ⟨start limit, before, false⟩ =
      ⟨start limit, (lines.map fun line => .line line.toByteArray).reverse ++ before, false⟩ := by
  -- Behind a line feed the reader is as it was at the start, so only the events grow.
  induction lines generalizing before with
  | nil => rfl
  | cons line rest ih =>
    obtain ⟨hunbroken, hshort⟩ := hfits line List.mem_cons_self
    have hline : (line ++ [0x0a]).foldl Progress.push ⟨start limit, before, false⟩ =
        ⟨start limit, .line line.toByteArray :: before, false⟩ := by
      rw [List.foldl_append, start, foldl_line hunbroken (by simpa using hshort)]
      simp [Progress.push, LineReader.push]
    rw [feeds, List.flatMap_cons, List.foldl_append, hline, ← feeds,
      ih fun line hline => hfits line (List.mem_cons_of_mem _ hline)]
    simp

/-- A piece of whole lines is read as these lines. -/
theorem read_feeds {lines : List (List UInt8)} {piece : ByteArray}
    (hfits : ∀ line ∈ lines, Fits limit line) (hpiece : piece.toList = feeds lines) :
    (start limit).read piece = (start limit, lines.map fun line => .line line.toByteArray) := by
  rw [read_eq rfl, hpiece, foldl_feeds hfits, List.append_nil, List.reverse_reverse]

theorem read_toByteArray_feeds {lines : List (List UInt8)} (hfits : ∀ line ∈ lines, Fits limit line) :
    (start limit).read (feeds lines).toByteArray =
      (start limit, lines.map fun line => .line line.toByteArray) := by
  apply read_feeds hfits
  rw [Hex.toList_eq_data, List.toList_data_toByteArray]

/-- **Lines within the limit come out as they went in**, however the stream was cut. -/
theorem events_feeds {lines : List (List UInt8)} {pieces : List ByteArray}
    (hfits : ∀ line ∈ lines, Fits limit line)
    (hpieces : pieces.flatMap ByteArray.toList = feeds lines) :
    events limit pieces = lines.map fun line => .line line.toByteArray := by
  have hfold := foldl_feeds hfits []
  have hread := readAll_eq (r := start limit) rfl (by rw [hpieces, hfold])
  rw [events, hread, hpieces, hfold, List.append_nil, List.reverse_reverse]
  exact List.append_nil _

end LineReader
end HeaderFollower
