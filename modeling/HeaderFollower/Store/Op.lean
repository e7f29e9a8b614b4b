/-
# Operations on the store

The operations as data, so that a history of a store is a list of them. `Store.runAll` stops at the
first failure, `Store.history` goes on.
-/

import HeaderFollower.Store.Basic

namespace HeaderFollower

/-- One atomic operation of the single writer. -/
inductive StoreOp where
  | append (raw : List UInt8)
  | storeRange (raw : List UInt8) (start : Nat)
  | storeOne (h : BlockHeader)
  | extend (h : BlockHeader)
  | truncateFile (n : Nat)
  | removeTip
  | reset
  | rebuild
  | beginRecovery (height : Nat)
  | clearRecovery
  | setSynced (synced : Bool)

namespace Store

/-- The result of an operation that changes nothing if it fails. -/
def orSame (s : Store) : Except ChainError Store → Except ChainError Unit × Store
  | .ok t => (.ok (), t)
  | .error e => (.error e, s)

/-- Carries out an operation. -/
def run (s : Store) : StoreOp → Except ChainError Unit × Store
  | .append raw => s.orSame (s.append raw)
  | .storeRange raw start => s.storeRange raw start
  | .storeOne h => (.ok (), s.storeOne h)
  | .extend h => s.orSame (s.extend h)
  | .truncateFile n => s.orSame (s.truncateFile n)
  | .removeTip => s.orSame s.removeTip
  | .reset => (.ok (), s.reset)
  | .rebuild => s.rebuild
  | .beginRecovery height => (.ok (), s.beginRecovery height)
  | .clearRecovery => (.ok (), s.clearRecovery)
  | .setSynced synced => (.ok (), s.setSynced synced)

/-- Carries out operations up to the first that fails. -/
def runAll (s : Store) : List StoreOp → Except ChainError Unit × Store
  | [] => (.ok (), s)
  | op :: rest =>
    match s.run op with
    | (.ok (), t) => t.runAll rest
    | (.error e, t) => (.error e, t)

/-- The store after all operations, whether they fail or not. -/
def history (s : Store) (ops : List StoreOp) : Store := ops.foldl (fun s op => (s.run op).2) s

@[simp] theorem history_nil (s : Store) : s.history [] = s := rfl

@[simp] theorem history_cons (s : Store) (op : StoreOp) (ops : List StoreOp) :
    s.history (op :: ops) = (s.run op).2.history ops := rfl

theorem runAll_append (s : Store) (xs ys : List StoreOp) :
    s.runAll (xs ++ ys) =
      match s.runAll xs with
      | (.ok (), t) => t.runAll ys
      | (.error e, t) => (.error e, t) := by
  induction xs generalizing s with
  | nil => rfl
  | cons op rest ih =>
    simp only [List.cons_append, runAll]
    rcases s.run op with ⟨r, t⟩
    cases r with
    | error e => rfl
    | ok => exact ih t

end Store
end HeaderFollower
