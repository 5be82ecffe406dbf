import JobDispatch.Orchestrator.Basic
import JobDispatch.Orchestrator.Requests
import JobDispatch.Json.Parse
import JobDispatch.Json.Print
import JobDispatch.Text.Bytes

namespace JobDispatch

namespace Orchestrator

def createJob (req : JobRequest) : Op Job := do
  if req.kind = .all then throw (.badRequest "jobs need a concrete job type")
  let zone := req.zone.getD (← get).config.defaultJobZone
  let now ← now
  let job : NewJob :=
    { kind := req.kind, projectId := req.projectId, entityId := req.entityId, zone, extra := req.extra }
  call .createJob fun s => s.createJob job now

-- Job counts per project, ascending by project.
def perProject (jobs : List Job) : List (Int × Int) :=
  let projects := (jobs.map (·.projectId)).eraseDups.mergeSort (· ≤ ·)
  projects.map fun p => (p, ((jobs.filter (·.projectId = p)).length : Int))

-- Creates each job, skipping failures; the jobs created are counted and charged.
def createJobs (reqs : List JobRequest) : Op (List Job) := do
  let jobs ← reqs.filterMapM fun r => tryCatch (some <$> createJob r) fun _ => pure none
  for j in jobs do
    record (·.count j.kind .created)
  for (p, n) in perProject jobs do
    let _ ← tryCall .recordUsage fun s => ((), s.recordUsage p n 0)
  return jobs

def getJob (id : Int) : Op Job := do
  let some job ← read .findJob (·.findJob id) (some none)
    | throw (.notFound ("Job " ++ toString id))
  return job

def traceKeyOf (j : Job) : String := traceKey j.projectId j.kind.name j.id

-- Reads the entries of a stored trace, if the bytes are a JSON array of entries.
def traceOfBytes (b : List UInt8) : Option (List TraceEntry) := do
  let text ← Bytes.utf8? b
  let json ← ((Shape.list TraceEntry.shape).readText text).toOption
  (Decoder.list TraceEntry.decode json).toOption

-- The stored trace under a key: missing or unreadable is expired.
def readTrace (key : String) : Op (List TraceEntry) := do
  match (← get).blobs.get key with
  | .error (.notFound _) => throw .traceExpired
  | .error e => throw (.storage e)
  | .ok bytes =>
    match traceOfBytes bytes with
    | some entries => return entries
    | none => throw .traceExpired

def upload (key : String) (data : List UInt8) : Op Unit := do
  let (blobs, r) := (← get).blobs.upload key data
  modify fun o => { o with blobs }
  if let .error e := r then throw (.storage e)

-- Appends a chunk to a job's trace, answering the last stamp of the merged trace; an empty
-- chunk writes nothing.
def appendTrace (j : Job) (chunk : List TraceEntry) : Op (Option Int) := do
  if chunk.isEmpty then return none
  let key := traceKeyOf j
  let previous ← tryCatch (readTrace key) fun _ => pure []
  let merged := TraceEntry.merge previous chunk
  upload key (Bytes.ofString (Json.compact (.arr (merged.map TraceEntry.toJson))))
  return merged.getLast?.map (·.timestamp)

-- A page of a job's trace: with a positive `after`, the entries past that position.
def getTrace (j : Job) (after : Option Int) : Op TracePage := do
  let entries ← readTrace (traceKeyOf j)
  let page := match after with
    | some a => if a > 0 then entries.drop (a.toNat + 1) else entries
    | none => entries
  return ⟨page, (entries.length : Int) - 1, j.endedAt.isNone⟩

-- Seals a running job. `errored` counts it as failed whatever its status.
def jobDone (j : Job) (status : JobStatus) (durationMs : Int) (errored : Bool)
    (logs : List TraceEntry) : Op (Option Job) := do
  let endedAt ← now
  let some done ← call .completeJob (·.completeJob j.id ⟨status, durationMs, endedAt⟩) (some none)
    | return none
  call .recordUsage fun s => ((), s.recordUsage done.projectId 0 durationMs)
  logged do let _ ← appendTrace done logs
  record (·.count done.kind (if errored then .failed else .succeeded))
  return some done

def cancelJob (id : Int) : Op Job := do
  let job ← getJob id
  let endedAt ← now
  let canceled ← call .cancelJob (·.cancelJob id endedAt) (some none)
  return canceled.getD job

-- Pending counts of every kind a job can have, in kind order.
def pendingCounts : Op (List (JobKind × Int)) := do
  let counts ← read .countPendingByType (·.pendingByKind)
  return JobKind.concrete.map fun k => (k, (counts.lookup k).getD 0)

def projectUsage (project : Int) : Op Usage := read .projectUsage (·.projectUsage project)

end Orchestrator

end JobDispatch
