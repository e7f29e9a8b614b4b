/-
# Store errors

What can be wrong with the stored headers or with a request for them. `ChainError.corruption` holds
for the errors that mean that the file cannot be trusted.
-/

namespace HeaderFollower

/-- An optional height as messages show it. -/
def heightText : Option Nat → String
  | some h => "Some(" ++ toString h ++ ")"
  | none => "None"

inductive ChainError where
  /-- The bytes are no whole number of headers. -/
  | corruptLength (length headerSize : Nat)
  | deserialize (height : Nat) (reason : String)
  /-- The header at this height does not link to the one below. -/
  | verifyFailed (height : Nat)
  | notFound (height : Nat)
  | range (start count startPoint : Nat) (tip : Option Nat)
  | invalidTruncate (text : String)
  | truncateBeforeSync
  | io (text : String)
  deriving DecidableEq, Repr

namespace ChainError

def message : ChainError → String
  | .corruptLength length headerSize =>
    "corrupt length: " ++ toString length ++ " bytes is not a multiple of header size " ++
      toString headerSize
  | .deserialize height reason =>
    "failed to deserialize header at height " ++ toString height ++ ": " ++ reason
  | .verifyFailed height => "chain verification failed at height " ++ toString height
  | .notFound height => "header not found at height " ++ toString height
  | .range start count startPoint tip =>
    "invalid header range: start " ++ toString start ++ ", count " ++ toString count ++
      " (start point " ++ toString startPoint ++ ", tip " ++ heightText tip ++ ")"
  | .invalidTruncate text => "invalid truncate: " ++ text
  | .truncateBeforeSync => "cannot truncate the header file before initial sync has completed"
  | .io text => "header file I/O error: " ++ text

/-- A short name for the error. -/
def kind : ChainError → String
  | .corruptLength _ _ => "CorruptLength"
  | .deserialize _ _ => "Deserialize"
  | .verifyFailed _ => "ChainVerifyFailed"
  | .notFound _ => "NotFound"
  | .range _ _ _ _ => "Range"
  | .invalidTruncate _ => "InvalidTruncate"
  | .truncateBeforeSync => "TruncateBeforeSync"
  | .io _ => "Io"

/-- The stored chain cannot be trusted. -/
def corruption : ChainError → Bool
  | .corruptLength _ _ => true
  | .deserialize _ _ => true
  | .verifyFailed _ => true
  | .notFound _ => false
  | .range _ _ _ _ => false
  | .invalidTruncate _ => false
  | .truncateBeforeSync => false
  | .io _ => false

end ChainError
end HeaderFollower
