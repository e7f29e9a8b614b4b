/-
# Shutdown

At shutdown every task is told to end, and then the tasks are waited for, one after the other, but
not longer than `joinLimit` in all.
-/

import HeaderFollower.Duration

namespace HeaderFollower
namespace Shutdown

/-- When a task ends. -/
inductive TaskEnd where
  /-- As soon as it is told to. -/
  | whenTold
  /-- A time after the shutdown began, told or not. -/
  | after (wait : Duration)
  | never
  deriving DecidableEq, Repr

/-- How long tasks are waited for. -/
def joinLimit : Duration := .ofSeconds 10

/-- The time at which a task has ended, none if it does not. -/
def TaskEnd.time? : TaskEnd → Option Duration
  | .whenTold => some ⟨0⟩
  | .after wait => some wait
  | .never => none

/-- How long a shutdown takes: until the last task has ended, cut at the limit. -/
def elapsed (tasks : List TaskEnd) : Duration :=
  tasks.foldl (fun waited t =>
    match t.time? with
    | some ended => ⟨min joinLimit.nanos (max waited.nanos ended.nanos)⟩
    | none => joinLimit) ⟨0⟩

end Shutdown
end HeaderFollower
