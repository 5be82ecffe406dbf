import JobDispatch.Dispatch.Lease
import JobDispatch.Store.Backend

namespace JobDispatch

inductive LockBackend where
  | memory
  | unreachable
  | acquireOnly
  deriving DecidableEq, Repr

structure LockError where
  detail : String
  deriving DecidableEq, Repr

def LockError.message (e : LockError) : String := "lock backend error: " ++ e.detail

structure Leases where
  backend : LockBackend := .memory
  table : LeaseTable := {}
  deriving Inhabited

namespace Leases

def tryAcquire (l : Leases) (key : String) (ttl now : Nat) : Except LockError Bool × Leases :=
  match l.backend with
  | .unreachable => (.error ⟨unreachableDatabase⟩, l)
  | _ =>
    let (ok, table) := l.table.tryAcquire key ttl now
    (.ok ok, { l with table })

def purge (l : Leases) (now : Nat) : Except LockError Nat × Leases :=
  match l.backend with
  | .unreachable => (.error ⟨unreachableDatabase⟩, l)
  | .acquireOnly => (.ok 0, l)
  | .memory =>
    let (n, table) := l.table.purge now
    (.ok n, { l with table })

end Leases

end JobDispatch
