/-
# The log

A line of the log has a level, and is written by the part of the program that `logPart` names. A
line is shown up to a limit, or not at all.
-/

import HeaderFollower.Address
import HeaderFollower.Daemon.Error
import HeaderFollower.Text.Lowercase

namespace HeaderFollower

/-- How much a line of the log matters. -/
inductive LogLevel where
  | error
  | warn
  | info
  | debug
  | trace
  deriving DecidableEq, Repr

/-- A line of the log. -/
structure LogLine where
  level : LogLevel
  text : String
  deriving DecidableEq, Repr

/-- The line about an error that ends the daemon. -/
def DaemonError.line (e : DaemonError) : LogLine := ⟨.error, "❌ " ++ e.message⟩

/-- The part of the program whose lines these are. -/
def logPart : String := "exsyncd"

/-- What a line has besides its level and its part. -/
def logFields : List String := ["message"]

/-- The last level that is shown, if any is. -/
abbrev LogLimit := Option LogLevel

namespace LogLevel

/-- Larger for a level that is shown less often. -/
def rank : LogLevel → Nat
  | error => 1
  | warn => 2
  | info => 3
  | debug => 4
  | trace => 5

end LogLevel

namespace LogLimit

/-- The limits with their names, from nothing to everything. -/
def names : List (String × LogLimit) :=
  [("off", none), ("error", some .error), ("warn", some .warn), ("info", some .info),
    ("debug", some .debug), ("trace", some .trace)]

/-- The limit that a text stands for: a name, in upper or lower case, or its place in `names`. -/
def ofText? (text : String) : Option LogLimit :=
  match Text.numeralBelow? names.length text.toList with
  | some n => names[n]?.map (·.2)
  | none => (names.find? fun name => Text.eqIgnoreAsciiCase name.1 text).map (·.2)

end LogLimit

/-- The lines that are shown up to a limit. -/
def LogLine.shown (limit : LogLimit) (lines : List LogLine) : List LogLine :=
  lines.filter fun l => limit.any fun last => decide (l.level.rank ≤ last.rank)

end HeaderFollower
