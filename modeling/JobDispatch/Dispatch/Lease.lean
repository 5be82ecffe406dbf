namespace JobDispatch

structure LeaseTable where
  leases : List (String × Nat) := []
  deriving Repr, Inhabited

namespace LeaseTable

def expiryOf (t : LeaseTable) (key : String) : Option Nat := t.leases.lookup key

def put (key : String) (expiry : Nat) : List (String × Nat) → List (String × Nat)
  | [] => [(key, expiry)]
  | (k, e) :: rest => if k = key then (key, expiry) :: rest else (k, e) :: put key expiry rest

-- Takes the lease on `key` at `now` for `ttl`, unless a lease on it lasts beyond `now`.
def tryAcquire (t : LeaseTable) (key : String) (ttl now : Nat) : Bool × LeaseTable :=
  match t.expiryOf key with
  | some e => if now < e then (false, t) else (true, ⟨put key (now + ttl) t.leases⟩)
  | none => (true, ⟨put key (now + ttl) t.leases⟩)

-- Drops the leases lapsed at `now`, answering how many there were.
def purge (t : LeaseTable) (now : Nat) : Nat × LeaseTable :=
  let kept := t.leases.filter fun (_, e) => now < e
  (t.leases.length - kept.length, ⟨kept⟩)

end LeaseTable

end JobDispatch
