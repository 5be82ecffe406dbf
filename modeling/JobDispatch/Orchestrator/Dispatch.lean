import JobDispatch.Orchestrator.Runners
import JobDispatch.Orchestrator.Jobs
import JobDispatch.Text.Numeral

namespace JobDispatch

namespace Orchestrator

-- The message of the trace line and event of a job whose payload could not be made.
def payloadFailure : String := "Failed to fetch job payload."

def leaseKey (id : Int) : String := "dispatch:job:" ++ toString id

def setMaintenance (enabled : Bool) : Op Unit := modify fun o => { o with maintenance := enabled }

-- The watermark of a group and zone at the paused clock's reading.
def watermark (group : JobKind) (zone : String) : Op (Option Int) :=
  modifyGet fun o =>
    let (m, watermarks) := o.watermarks.get group zone o.clock
    (m, { o with watermarks })

-- The scan a runner's request starts with.
def eligibleFilter (r : Runner) : Op JobFilter := do
  let limit := (← get).config.dispatchBatchSize
  let kinds := if r.kind = .all then none else some r.kind.group
  if r.zone = unknownZone then return { kinds, limit }
  let afterId ← watermark r.kind.leader r.zone
  return { zone := some r.zone, kinds, afterId, limit }

def tryLease (key : String) : Op (Except LockError Bool) :=
  modifyGet fun o =>
    let (r, leases) := o.leases.tryAcquire key o.config.dispatchLockTtlMs o.clock
    (r, { o with leases })

-- Seals a job whose payload could not be made and tells consumers why.
def payloadFailed (j : Job) (err : String) : Op Unit := do
  let stamp := (← now).millis
  let entry : TraceEntry := ⟨.error, stamp, payloadFailure, [.str err]⟩
  logged do let _ ← jobDone j .done 0 true [entry]
  publish (.error j.ref payloadFailure)

-- Claims candidates in order until one is dispatched.
def claimEach (r : Runner) : List Job → Op (Option DispatchedJob)
  | [] => return none
  | c :: rest => do
    match ← tryLease (leaseKey c.id) with
    | .ok true =>
      let startedAt ← now
      match ← call .assignRunner (·.assignRunner c.id r.id startedAt) (some none) with
      | none => claimEach r rest
      | some j =>
        if let some s := j.startedAt then
          record (·.dispatched j.kind (s.millisBetween j.createdAt))
        let o ← get
        match o.resolvers.resolve j.kind j.entityId j.extra with
        | .ok payload =>
          return some ⟨j.id, j.kind, o.config.executionTimeoutMs / 1000, payload⟩
        | .error err =>
          payloadFailed j err
          claimEach r rest
    | _ => claimEach r rest

-- One scan: find the candidates, record the watermark of an unbounded scan, claim.
def claimFirst (r : Runner) (f : JobFilter) : Op (Option DispatchedJob) := do
  let candidates ← read .findPending (·.findPending f)
  if f.afterId.isNone then
    if let (some zone, some first) := (f.zone, candidates.head?) then
      modify fun o => { o with watermarks := o.watermarks.record r.kind.leader zone first.id o.clock }
  claimEach r candidates

def nextJob (r : Runner) : Op (Option DispatchedJob) := do
  let f ← eligibleFilter r
  if let some job ← claimFirst r f then return some job
  if f.afterId.isNone then return none
  -- ids below the bound can still turn up; only a full scan sees them
  if let some zone := f.zone then
    modify fun o => { o with watermarks := o.watermarks.forget r.kind.leader zone }
  claimFirst r { f with afterId := none }

-- Enters the admission gate at the paused clock; a timeout moves the clock to its deadline.
def enterGate : Op Admission :=
  modifyGet fun o =>
    let (r, gate, answeredAt) := o.gate.enter o.clock
    (r, { o with gate, clock := answeredAt })

def requestJob (token : String) (info : Option RunnerReport) : Op PollAnswer := do
  if (← get).maintenance then return {}
  let runner ← authenticate token info
  if !runner.active then return {}
  let settings := some (RunnerSettings.ofKind runner.kind)
  let started := (← get).clock
  let job ← match ← enterGate with
    | .refused _ =>
      record (·.refused)
      pure none
    | .panicked => throw (.panicked instantOverflow)
    | .admitted =>
      let result : Except DispatchError (Option DispatchedJob) ←
        tryCatch (Except.ok <$> nextJob runner) fun e => pure (Except.error e)
      modify fun o => { o with gate := o.gate.leave o.clock }
      match result with
      | .ok job => pure job
      | .error e => throw e
  let elapsed := (← get).clock - started
  record (·.requestTook elapsed job.isSome)
  return { job, settings }

-- Stores a trace chunk and, on the last report, seals the job. Answers whether the job was
-- canceled, in which case nothing else happens.
def updateTrace (token : String) (p : TraceReport) : Op Bool := do
  let runner ← authenticate token none
  let job ← getJob p.jobId
  if job.runnerId.any (· ≠ runner.id) then
    throw (.forbidden ("job " ++ toString job.id ++ " is not assigned to runner " ++ runner.id.toString))
  if job.status = .canceled then return true
  logged do let _ ← appendTrace job p.trace
  if p.done then
    let (status, errored) := if p.failedReason.isSome then (JobStatus.failed, true) else (.done, false)
    let _ ← jobDone job status (p.duration.getD 0) errored []
  if p.updates.isSome || p.done then
    publish (.update job.ref p.done p.updates)
  if let some reason := p.failedReason then
    publish (.error job.ref reason)
  return false

-- Stores an artifact of the runner's current job under its project.
def uploadArtifact (token jobId key : String) (data : List UInt8) : Op (String × Nat) := do
  let some id := (Numeral.signed? 64 jobId).filter (· > 0)
    | throw (.forbidden "invalid jobId")
  let runner ← authenticate token none
  let job ← getJob id
  if job.runnerId ≠ some runner.id then
    throw (.forbidden ("job " ++ toString job.id ++ " is not assigned to runner " ++ runner.id.toString))
  let finalKey := artifactKey job.projectId key
  let (blobs, r) := (← get).blobs.upload finalKey data
  modify fun o => { o with blobs }
  match r with
  | .ok () => pure ()
  | .error (.invalidKey k) => throw (.badRequest ("invalid key " ++ k))
  | .error e => throw (.storage e)
  publish (.upload job.ref finalKey data.length)
  return (finalKey, data.length)

-- Opens any stored blob for an authenticated runner.
def downloadArtifact (token key : String) : Op BlobReader := do
  let _ ← authenticate token none
  match (← get).blobs.openBlob key with
  | .ok reader => return reader
  | .error (.notFound k) | .error (.invalidKey k) => throw (.notFound ("Artifact " ++ k))
  | .error e => throw (.storage e)

end Orchestrator

end JobDispatch
