/-
# Going back

When a header does not connect, the server is on another branch. The topmost headers are taken away
and fetched anew, while readers go on to see the tip that was there before. A second step back that
would reach the start point gives up: nothing above the start point is shared with the server.
-/

import HeaderFollower.Sync.Basic

namespace HeaderFollower

/-- The operations that take the topmost `depth` headers away. -/
def rewindOps (depth tip : Nat) : List StoreOp :=
  .truncateFile depth :: (List.replicate depth .removeTip ++ [.beginRecovery tip])

namespace Synchronizer

/-- Gives up, for no common header was found. -/
def giveUp (s : Synchronizer) : Except SyncError Unit × Synchronizer :=
  (.error (.exhausted s.store.tip s.store.startPoint), { s with phase := .exhausted })

/-- Takes the topmost headers away. -/
def rewind (s : Synchronizer) : Except SyncError Unit × Synchronizer :=
  match s.store.localTip with
  | none => s.giveUp
  | some tip =>
    let above := tip - s.store.startPoint
    if s.store.pinned.isSome ∧ above < s.settings.rewind then s.giveUp
    else
      match s.store.runAll (rewindOps (min s.settings.rewind (above + 1)) tip) with
      | (.error e, store) => (.error (.chain e), { s with store, phase := .reorgRecovering })
      | (.ok (), store) => (.ok (), { s with store, phase := .reorgRecovering })

end Synchronizer
end HeaderFollower
