/-
# Lines out of a byte stream

Bytes arrive in pieces of any size, and a line ends with a line feed. A line longer than the limit
is reported as soon as it is, once, and passed over up to its line feed. After such a report the
bytes that had already arrived are looked at again only when more of them come, or when the stream
ends.

`LineReader.read` takes the next piece, `LineReader.finish` the end of the stream: a last line
without a line feed counts if it is not empty.
-/

namespace HeaderFollower

/-- What a stream of bytes turns out to hold. -/
inductive LineEvent where
  /-- A line without its line feed. -/
  | line (bytes : ByteArray)
  /-- The current line is longer than the limit. -/
  | oversized

/-- The state between two pieces. -/
structure LineReader where
  limit : Nat
  /-- The line so far; empty while an oversized line is passed over. -/
  line : ByteArray
  /-- An oversized line is being passed over. -/
  discarding : Bool
  /-- Bytes that wait for more to come after a report. -/
  backlog : ByteArray

namespace LineReader

/-- Before the first byte. -/
def start (limit : Nat) : LineReader := ⟨limit, .empty, false, .empty⟩

/-- One byte: the state after it, and what it completes. -/
def push : LineReader → UInt8 → LineReader × Option LineEvent
  | ⟨limit, line, true, backlog⟩, b => (⟨limit, line, b != 0x0a, backlog⟩, none)
  | ⟨limit, line, false, backlog⟩, b =>
    if b = 0x0a then (⟨limit, .empty, false, backlog⟩, some (.line line))
    else if line.size < limit then (⟨limit, line.push b, false, backlog⟩, none)
    else (⟨limit, .empty, true, backlog⟩, some .oversized)

/-- One byte that is kept for later. -/
def keep : LineReader → UInt8 → LineReader
  | ⟨limit, line, discarding, backlog⟩, b => ⟨limit, line, discarding, backlog.push b⟩

/-- The state without the bytes that wait, and these. -/
def takeBacklog : LineReader → LineReader × ByteArray
  | ⟨limit, line, discarding, backlog⟩ => (⟨limit, line, discarding, .empty⟩, backlog)

/-- A piece in the middle of being read: the events so far, newest first, and whether reading has
stopped at a report. -/
structure Progress where
  reader : LineReader
  events : List LineEvent
  stopped : Bool

/-- One byte of a piece; behind a report it is only kept. -/
def Progress.push : Progress → UInt8 → Progress
  | ⟨reader, events, true⟩, b => ⟨reader.keep b, events, true⟩
  | ⟨reader, events, false⟩, b =>
    match reader.push b with
    | (r, none) => ⟨r, events, false⟩
    | (r, some (.line l)) => ⟨r, .line l :: events, false⟩
    | (r, some .oversized) => ⟨r, .oversized :: events, true⟩

/-- The next piece of the stream. -/
def read (r : LineReader) (piece : ByteArray) : LineReader × List LineEvent :=
  let (begun, waiting) := r.takeBacklog
  let p := piece.data.foldl Progress.push (waiting.data.foldl Progress.push ⟨begun, [], false⟩)
  (p.reader, p.events.reverse)

/-- One byte when no more will come: nothing has to wait. -/
def pushLast : LineReader × List LineEvent → UInt8 → LineReader × List LineEvent
  | (reader, events), b =>
    match reader.push b with
    | (r, none) => (r, events)
    | (r, some e) => (r, e :: events)

/-- The end of the stream. -/
def finish (r : LineReader) : List LineEvent :=
  let (begun, waiting) := r.takeBacklog
  let (last, events) := waiting.data.foldl pushLast (begun, [])
  (if last.line.isEmpty then events else .line last.line :: events).reverse

end LineReader
end HeaderFollower
