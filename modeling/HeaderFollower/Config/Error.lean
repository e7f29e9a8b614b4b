/-
# Configuration errors
-/

namespace HeaderFollower

inductive ConfigError where
  | io (text : String)
  | parse (text : String)
  | serialize (text : String)
  /-- The text is well formed and says something that cannot be meant. -/
  | invalid (text : String)
  deriving DecidableEq, Repr

/-- A short name for the error. -/
def ConfigError.kind : ConfigError → String
  | .io _ => "Io"
  | .parse _ => "Parse"
  | .serialize _ => "Serialize"
  | .invalid _ => "Invalid"

def ConfigError.message : ConfigError → String
  | .io text => "failed to read or write config: " ++ text
  | .parse text => "failed to parse config: " ++ text
  | .serialize text => "failed to serialize config: " ++ text
  | .invalid text => "invalid config: " ++ text

end HeaderFollower
