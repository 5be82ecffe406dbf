import JobDispatch.Config
import JobDispatch.Store.Backend
import JobDispatch.Dispatch.Admission
import JobDispatch.Dispatch.Watermark
import JobDispatch.Dispatch.Error
import JobDispatch.Dispatch.Event
import JobDispatch.Dispatch.Payload
import JobDispatch.Blob.Store
import JobDispatch.Metrics

namespace JobDispatch

structure Orchestrator where
  config : Config
  store : Store := {}
  leases : Leases := {}
  gate : Gate
  watermarks : Watermarks := {}
  blobs : BlobStore := .memory []
  metrics : Metrics := {}
  resolvers : Resolvers := Resolvers.standard
  events : List JobEvent := []
  maintenance : Bool
  wallClock : Timestamp
  clock : Nat := 0
  mintedRunners : Nat := 0
  -- How many runners fixtures have put in directly; their identities are numbered by it.
  seededRunners : Nat := 0

abbrev Op := ExceptT DispatchError (StateM Orchestrator)

namespace Orchestrator

-- The first wall-clock reading of a fresh orchestrator: 2026-01-01T00:00:00Z.
def epoch : Timestamp := ⟨1767225600 * Timestamp.nanosPerSecond⟩

-- A fresh orchestrator with the given configuration and empty stores.
def create (c : Config) : Orchestrator :=
  { config := c
    gate := { limit := c.pollingLimit, queueLimit := c.pollingQueueLimit, timeoutMs := c.pollingTimeoutMs }
    maintenance := c.maintenanceMode
    wallClock := epoch }

def now : Op Timestamp :=
  modifyGet fun o => (o.wallClock, { o with wallClock := o.wallClock.addNanos 1 })

def call {α} (c : StoreCall) (op : JobStore → α × JobStore) (absent : Option α := none) : Op α := do
  let o ← get
  let (r, store) := o.store.run c op absent
  set { o with store }
  match r with
  | .ok a => pure a
  | .error e => throw (.store e)

-- Runs a store call whose failure is only logged, answering `none` then.
def tryCall {α} (c : StoreCall) (op : JobStore → α × JobStore) (absent : Option α := none) :
    Op (Option α) :=
  tryCatch (some <$> call c op absent) fun _ => pure none

def read {α} (c : StoreCall) (f : JobStore → α) (absent : Option α := none) : Op α :=
  call c (fun s => (f s, s)) absent

def publish (e : JobEvent) : Op Unit := modify fun o => { o with events := o.events ++ [e] }

def record (f : Metrics → Metrics) : Op Unit := modify fun o => { o with metrics := f o.metrics }

-- Runs an operation that cannot fail on its own terms, logging its failure.
def logged (m : Op Unit) : Op Unit := tryCatch m fun _ => pure ()

end Orchestrator

end JobDispatch
