/-
# What reaches the server

The server takes the bytes of a connection apart into lines, and sees when no more will come.
-/

import HeaderFollower.Client.Timeline

namespace HeaderFollower

/-- The server's end of a connection. -/
structure ServerSide where
  lines : LineReader := .start maxFrame
  /-- It has been told that no more will come. -/
  ended : Bool := false

namespace ServerSide

/-- One effect: the lines that it completes. -/
def see (s : ServerSide) : Effect → List LineEvent × ServerSide
  | .write bytes =>
    let (lines, new) := s.lines.read bytes.toByteArray
    (new, { s with lines })
  | .endOfStream => ([], { s with ended := true })
  | .charge _ _ => ([], s)

/-- Effects one after the other: the lines that they complete. -/
def seeAll (s : ServerSide) : List Effect → List LineEvent × ServerSide
  | [] => ([], s)
  | e :: rest =>
    let (lines, s) := s.see e
    let (more, s) := s.seeAll rest
    (lines ++ more, s)

end ServerSide

/-- What was done since the last time, the first first. -/
def Timeline.takeEffects (t : Timeline) : List Effect × Timeline :=
  (t.effects.reverse, { t with effects := [] })

end HeaderFollower
