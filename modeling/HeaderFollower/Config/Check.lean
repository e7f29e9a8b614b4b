/-
# Checking a configuration

A configuration can be well formed and still not be meant. `fault?` names the first thing that is
wrong with it, in a fixed order.
-/

import HeaderFollower.Config.Basic
import HeaderFollower.Config.Error
import HeaderFollower.Text.Quoted

namespace HeaderFollower
namespace Config

/-- The text is 32 bytes as hexadecimal digits. -/
def isScripthash (s : String) : Bool :=
  s.utf8ByteSize == 64 && Hex.isHex s

/-- The reply to a ping could come too late. -/
def deadlineFault? (c : Config) : Option String :=
  if c.server.readSeconds ≤ c.server.keepAliveSeconds then
    some ("server.read_timeout_secs (" ++ toString c.server.readSeconds ++
      ") must exceed keepalive_interval_secs (" ++ toString c.server.keepAliveSeconds ++ ")")
  else if c.server.keepAliveSeconds = 0 ∨ c.server.requestSeconds = 0 then
    some "server timeouts must be positive"
  else none

/-- A number of headers is zero. -/
def headerFault? (c : Config) : Option String :=
  if c.headers.chunkSize = 0 ∨ c.headers.rewind = 0 ∨ c.headers.queueDepth = 0 then
    some "headers.chunk_size, rewind and queue_depth must be positive"
  else none

/-- Costs would never decay, or delays would shrink. -/
def paceFault? (c : Config) : Option String :=
  if c.session.decayMillis = 0 then some "session.decay_interval_ms must be positive"
  else if c.reconnect.multiplier < 1.0 ∨
      ¬ (0.0 ≤ c.reconnect.jitter ∧ c.reconnect.jitter < 1.0) then
    some "reconnect.multiplier must be >= 1 and jitter in [0, 1)"
  else none

/-- A word of the logging section is not known. -/
def loggingFault? (c : Config) : Option String :=
  if c.logging.format ≠ "pretty" ∧ c.logging.format ≠ "json" then
    some ("unknown logging.format " ++ Text.quoted c.logging.format)
  else if c.logging.output ≠ "stdout" ∧ c.logging.output ≠ "file" then
    some ("unknown logging.output " ++ Text.quoted c.logging.output)
  else none

/-- Something that is to be watched is no scripthash. -/
def walletFault? (c : Config) : Option String :=
  (c.wallet.scripthashes.find? (!isScripthash ·)).map fun s =>
    "watch scripthash " ++ Text.quoted s ++ " is not 32 bytes of hex"

/-- The server's address cannot be read. -/
def addressFault? (c : Config) : Option String :=
  match c.address? with
  | some _ => none
  | none => some (ConnectError.invalidAddress c.server.address).message

/-- What is wrong with each part, in the order in which it is looked for. -/
def faults (c : Config) : List (Option String) :=
  [c.deadlineFault?, c.headerFault?, c.paceFault?, c.loggingFault?, c.walletFault?,
    c.addressFault?]

/-- The first thing that is wrong. -/
def fault? (c : Config) : Option String := c.faults.findSome? fun fault => fault

/-- The configuration, if nothing is wrong with it. -/
def checked (c : Config) : Except ConfigError Config :=
  match c.fault? with
  | some text => .error (.invalid text)
  | none => .ok c

theorem address_of_checked {c d : Config} (h : c.checked = .ok d) : d = c ∧ c.address?.isSome := by
  unfold checked at h
  split at h
  · simp at h
  · rename_i hf
    rw [fault?, List.findSome?_eq_none_iff] at hf
    have ha : c.addressFault? = none := hf c.addressFault? (by simp [faults])
    refine ⟨(Except.ok.inj h).symm, ?_⟩
    unfold addressFault? at ha
    split at ha
    · rename_i hs
      rw [hs]
      rfl
    · simp at ha

end Config
end HeaderFollower
