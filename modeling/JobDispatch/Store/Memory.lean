import JobDispatch.Store.Filter
import JobDispatch.Wrapping

namespace JobDispatch

-- A job as it is submitted: the store adds ids, state and creation time.
structure NewJob where
  kind : JobKind
  projectId : Int
  entityId : Int
  zone : String
  extra : Option Json := none
  deriving Inhabited

-- How a running job ends.
structure Completion where
  status : JobStatus
  durationMs : Int
  endedAt : Timestamp

-- What a project has used: how many jobs it created and how long its jobs ran.
structure Usage where
  projectId : Int
  jobCount : Int := 0
  jobDurationMs : Int := 0
  deriving Inhabited

def Usage.toJson (u : Usage) : Json :=
  .obj [("project_id", .int u.projectId), ("job_count", .int u.jobCount),
    ("job_duration_ms", .int u.jobDurationMs)]

def Usage.decode : Decoder Usage := fun j => do
  let ms ← readRecord "ProjectUsage"
    [.req "project_id" Decoder.i64, .req "job_count" Decoder.i64, .req "job_duration_ms" Decoder.i64] j
  return {
    projectId := ← Record.field ms "project_id" Decoder.i64 0
    jobCount := ← Record.field ms "job_count" Decoder.i64 0
    jobDurationMs := ← Record.field ms "job_duration_ms" Decoder.i64 0 }

structure PendingEntry where
  id : Int
  kind : JobKind
  zone : String

structure JobStore where
  jobs : List Job := []
  pending : List PendingEntry := []
  runners : List Runner := []
  lastJobId : Int := 0
  displayIds : List (Int × Int) := []
  zones : List String := []
  usage : List Usage := []
  deriving Inhabited

namespace JobStore

-- Inserts a job into a list ascending by id, replacing the job with the same id.
def insertJob (j : Job) : List Job → List Job
  | [] => [j]
  | k :: rest =>
    if j.id < k.id then j :: k :: rest
    else if j.id = k.id then j :: rest
    else k :: insertJob j rest

-- Inserts an entry into the pending index, ascending by id.
def insertPending (e : PendingEntry) : List PendingEntry → List PendingEntry
  | [] => [e]
  | k :: rest =>
    if e.id < k.id then e :: k :: rest
    else if e.id = k.id then e :: rest
    else k :: insertPending e rest

def dropPending (s : JobStore) (id : Int) : List PendingEntry := s.pending.filter (·.id ≠ id)

def findJob (s : JobStore) (id : Int) : Option Job := s.jobs.find? (·.id == id)

-- Replaces the job with the same id, if there is one.
def updateJob (s : JobStore) (j : Job) : JobStore :=
  { s with jobs := s.jobs.map fun k => if k.id = j.id then j else k }

-- Stores a job as given; the pending index follows its state.
def putJob (s : JobStore) (j : Job) : JobStore :=
  { s with
    jobs := insertJob j s.jobs
    pending := if j.status = .pending then insertPending ⟨j.id, j.kind, j.zone⟩ s.pending
      else s.dropPending j.id
    lastJobId := max s.lastJobId j.id }

-- The next display id of a project and the counters after taking it.
def nextDisplayId (project : Int) : List (Int × Int) → Int × List (Int × Int)
  | [] => (1, [(project, 1)])
  | (p, n) :: rest =>
    if p = project then (wrapI64 (n + 1), (p, wrapI64 (n + 1)) :: rest)
    else
      let (m, rest') := nextDisplayId project rest
      (m, (p, n) :: rest')

-- Creates a pending job created at `now`.
def createJob (s : JobStore) (n : NewJob) (now : Timestamp) : Job × JobStore :=
  let id := wrapI64 (s.lastJobId + 1)
  let (iid, displayIds) := nextDisplayId n.projectId s.displayIds
  let job : Job :=
    { id, iid, projectId := n.projectId, kind := n.kind, entityId := n.entityId, zone := n.zone,
      status := .pending, runnerId := none, createdAt := now, startedAt := none,
      endedAt := none, duration := none, extra := n.extra }
  (job, { s with
    jobs := insertJob job s.jobs
    pending := insertPending ⟨id, n.kind, n.zone⟩ s.pending
    lastJobId := id
    displayIds })

-- Pending jobs the filter admits, walking the index ascending, at most `limit`.
def findPending (s : JobStore) (f : JobFilter) : List Job :=
  (s.pending.filter (fun e => f.admits e.id e.kind e.zone)).filterMap (fun e => s.findJob e.id)
    |>.filter (·.status == .pending) |>.take f.limit

-- Hands a pending job to a runner; any other job is left alone.
def assignRunner (s : JobStore) (id : Int) (runner : Uuid) (startedAt : Timestamp) :
    Option Job × JobStore :=
  match s.findJob id with
  | some j =>
    if j.status = .pending then
      let j' := { j with status := .running, runnerId := some runner, startedAt := some startedAt }
      (some j', { s.updateJob j' with pending := s.dropPending id })
    else (none, s)
  | none => (none, s)

-- Seals a running job; any other job is left alone.
def completeJob (s : JobStore) (id : Int) (c : Completion) : Option Job × JobStore :=
  match s.findJob id with
  | some j =>
    if j.status = .running then
      let j' := { j with status := c.status, duration := some c.durationMs, endedAt := some c.endedAt }
      (some j', s.updateJob j')
    else (none, s)
  | none => (none, s)

-- Cancels a job that is not sealed. The job leaves the pending index in any case.
def cancelJob (s : JobStore) (id : Int) (endedAt : Timestamp) : Option Job × JobStore :=
  let s := { s with pending := s.dropPending id }
  match s.findJob id with
  | some j =>
    if j.status.sealed then (none, s)
    else
      let j' := { j with status := .canceled, endedAt := some endedAt }
      (some j', s.updateJob j')
  | none => (none, s)

-- Running jobs that started strictly before `before`, ascending by id.
def runningStartedBefore (s : JobStore) (before : Timestamp) : List Job :=
  s.jobs.filter fun j => j.status == .running && j.startedAt.any (decide <| · < before)

-- Running jobs of a runner, ascending by id.
def runningBy (s : JobStore) (runner : Uuid) : List Job :=
  s.jobs.filter fun j => j.status == .running && j.runnerId == some runner

-- How many jobs of a kind are pending.
def pendingCount (s : JobStore) (k : JobKind) : Int :=
  (s.jobs.filter fun j => j.status == .pending && j.kind == k).length

-- Pending counts of the kinds that have pending jobs, in kind order.
def pendingByKind (s : JobStore) : List (JobKind × Int) :=
  (JobKind.variants.map fun k => (k, s.pendingCount k)).filter (·.2 ≠ 0)

def projectUsage (s : JobStore) (project : Int) : Usage :=
  (s.usage.find? (·.projectId == project)).getD { projectId := project }

-- Adds to a project's job count and run time.
def recordUsage (s : JobStore) (project count durationMs : Int) : JobStore :=
  let u := s.projectUsage project
  let u' := { u with
    jobCount := wrapI64 (u.jobCount + count)
    jobDurationMs := wrapI64 (u.jobDurationMs + durationMs) }
  { s with usage := u' :: s.usage.filter (·.projectId ≠ project) }

def findRunner (s : JobStore) (id : Uuid) : Option Runner := s.runners.find? (·.id == id)

def findRunnerByToken (s : JobStore) (token : String) : Option Runner :=
  s.runners.find? (·.token == token)

-- Stores a runner, replacing one with the same id.
def createRunner (s : JobStore) (r : Runner) : JobStore :=
  if (s.findRunner r.id).isSome then { s with runners := s.runners.map fun q => if q.id = r.id then r else q }
  else { s with runners := s.runners ++ [r] }

-- Overwrites a stored runner; an unknown one is not added.
def saveRunner (s : JobStore) (r : Runner) : JobStore :=
  { s with runners := s.runners.map fun q => if q.id = r.id then r else q }

-- The runners a filter admits, the most recently created first.
def listRunners (s : JobStore) (f : RunnerFilter) : List Runner :=
  (s.runners.filter f.admits).mergeSort fun a b => decide (b.createdAt ≤ a.createdAt)

-- Removes a runner, answering whether it was there.
def deleteRunner (s : JobStore) (id : Uuid) : Bool × JobStore :=
  ((s.findRunner id).isSome, { s with runners := s.runners.filter (·.id ≠ id) })

-- Adds a zone unless it is known, answering whether it was new.
def addKnownZone (s : JobStore) (zone : String) : Bool × JobStore :=
  if s.zones.contains zone then (false, s) else (true, { s with zones := s.zones ++ [zone] })

end JobStore

end JobDispatch
