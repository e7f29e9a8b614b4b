/-
# Requests as frames

A request is one line: an object with id, method and params, in this order, and a line feed behind
it. A request whose text reaches `maxFrame` bytes is refused.
-/

import HeaderFollower.Json.Writer

namespace HeaderFollower

/-- The longest line, in bytes. -/
def maxFrame : Nat := 8 * 1024 * 1024

namespace Request

/-- The text of a request, without the line feed. -/
def text (id : Nat) (method : String) (params : Json) : String :=
  let opened := Json.pushString ("\x7b\"id\":" ++ toString id ++ ",\"method\":") method
  (Json.push (opened ++ ",\"params\":") params).push '\x7d'

/-- What is said of a request of `size` bytes that is too long. -/
def tooLarge (size : Nat) : String :=
  "Request too large: " ++ toString size ++ " bytes (max: " ++ toString maxFrame ++ ")"

/-- The line of a request with its line feed, or why there is none. -/
def frame (id : Nat) (method : String) (params : Json) : Except String ByteArray :=
  let line := text id method params
  if maxFrame ≤ line.utf8ByteSize then .error (tooLarge line.utf8ByteSize)
  else .ok (line.push '\n').toUTF8

end Request
end HeaderFollower
