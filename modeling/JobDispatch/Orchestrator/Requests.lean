import JobDispatch.Runner.Basic
import JobDispatch.Trace.Entry

namespace JobDispatch

-- A request to create a job; the zone defaults to the configured one.
structure JobRequest where
  kind : JobKind
  projectId : Int
  entityId : Int
  zone : Option String := none
  extra : Option Json := none

def JobRequest.shape : Shape :=
  .record [("job_type", true, JobKind.shape), ("project_id", true, .signed),
    ("entity_id", true, .signed), ("zone", false, .option .string), ("extra", false, .option .any)]

def JobRequest.decode : Decoder JobRequest := fun j => do
  let ms ← readRecord "CreateJob"
    [.req "job_type" JobKind.decode, .req "project_id" Decoder.i64, .req "entity_id" Decoder.i64,
      .opt "zone" Decoder.string, .opt "extra" Decoder.any] j
  return {
    kind := ← Record.field ms "job_type" JobKind.decode .all
    projectId := ← Record.field ms "project_id" Decoder.i64 0
    entityId := ← Record.field ms "entity_id" Decoder.i64 0
    zone := ← Record.optional ms "zone" Decoder.string
    extra := ← Record.optional ms "extra" Decoder.any }

-- A runner's registration: its name, the secret it registers with and what it reports.
structure Registration where
  name : String
  secret : String
  info : RunnerReport := {}

-- How a registration is written; the report may be left out but is not `null`.
def Registration.shape : Shape :=
  .record [("name", true, .string), ("token", true, .string), ("info", false, RunnerReport.shape)]

def Registration.decode : Decoder Registration := fun j => do
  let ms ← readRecord "RegisterRunner"
    [.req "name" Decoder.string, .req "token" Decoder.string, .dflt "info" RunnerReport.decode] j
  return {
    name := ← Record.field ms "name" Decoder.string ""
    secret := ← Record.field ms "token" Decoder.string ""
    info := ← Record.field ms "info" RunnerReport.decode {} }

def Registration.toJson (r : Registration) : Json :=
  .obj [("name", .str r.name), ("token", .str r.secret), ("info", r.info.toJson)]

-- How the body of a job request is written: an object with an optional report.
def pollInfoShape : Shape := .record [("info", false, .option RunnerReport.shape)]

-- The optional runner report a job request carries.
def decodePollInfo : Decoder (Option RunnerReport) := fun j => do
  let ms ← readRecord "JobRequestParams" [.opt "info" RunnerReport.decode] j
  Record.optional ms "info" RunnerReport.decode

-- The body of a job request: the report, `null` when there is none.
def pollInfoJson (info : Option RunnerReport) : Json :=
  .obj [("info", Json.ofOption RunnerReport.toJson info)]

-- A runner's report on a job: trace lines, and on the last report the outcome.
structure TraceReport where
  jobId : Int
  trace : List TraceEntry := []
  done : Bool := false
  duration : Option Int := none
  failedReason : Option String := none
  updates : Option Json := none

def TraceReport.shape : Shape :=
  .record [("job_id", true, .signed), ("trace", false, .list TraceEntry.shape),
    ("done", false, .bool), ("duration", false, .option .signed),
    ("failed_reason", false, .option .string), ("job_updates", false, .option .any)]

def TraceReport.decode : Decoder TraceReport := fun j => do
  let entries := Decoder.list TraceEntry.decode
  let ms ← readRecord "UpdateJobTrace"
    [.req "job_id" Decoder.i64, .dflt "trace" entries, .dflt "done" Decoder.bool,
      .opt "duration" Decoder.i64, .opt "failed_reason" Decoder.string, .opt "job_updates" Decoder.any] j
  return {
    jobId := ← Record.field ms "job_id" Decoder.i64 0
    trace := ← Record.field ms "trace" entries []
    done := ← Record.field ms "done" Decoder.bool false
    duration := ← Record.optional ms "duration" Decoder.i64
    failedReason := ← Record.optional ms "failed_reason" Decoder.string
    updates := ← Record.optional ms "job_updates" Decoder.any }

-- Which runners a listing shows; `online` means contacted within the last two hours.
structure RunnerQuery where
  kind : Option JobKind := none
  active : Option Bool := none
  zone : Option String := none
  online : Option Bool := none

def RunnerQuery.decode : Decoder RunnerQuery := fun j => do
  let ms ← readRecord "RunnerQuery"
    [.opt "job_type" JobKind.decode, .opt "active" Decoder.bool, .opt "zone" Decoder.string,
      .opt "online" Decoder.bool] j
  return {
    kind := ← Record.optional ms "job_type" JobKind.decode
    active := ← Record.optional ms "active" Decoder.bool
    zone := ← Record.optional ms "zone" Decoder.string
    online := ← Record.optional ms "online" Decoder.bool }

structure RunnerUpdate where
  active : Option Bool := none
  kind : Option JobKind := none
  zone : Option String := none

def RunnerUpdate.shape : Shape :=
  .record [("active", false, .option .bool), ("job_type", false, .option JobKind.shape),
    ("zone", false, .option .string)]

def RunnerUpdate.decode : Decoder RunnerUpdate := fun j => do
  let ms ← readRecord "UpdateRunner"
    [.opt "active" Decoder.bool, .opt "job_type" JobKind.decode, .opt "zone" Decoder.string] j
  return {
    active := ← Record.optional ms "active" Decoder.bool
    kind := ← Record.optional ms "job_type" JobKind.decode
    zone := ← Record.optional ms "zone" Decoder.string }

-- A job handed to a runner: its id and kind, how many seconds it may run, and its payload.
structure DispatchedJob where
  jobId : Int
  kind : JobKind
  timeoutS : Nat
  payload : Json

def DispatchedJob.toJson (d : DispatchedJob) : Json :=
  .obj [("job_id", .int d.jobId), ("job_type", d.kind.toJson), ("timeout", .int d.timeoutS),
    ("payload", d.payload)]

def DispatchedJob.decode : Decoder DispatchedJob := fun j => do
  let ms ← readRecord "DispatchedJob"
    [.req "job_id" Decoder.i64, .req "job_type" JobKind.decode, .req "timeout" Decoder.u64,
      .req "payload" Decoder.any] j
  return {
    jobId := ← Record.field ms "job_id" Decoder.i64 0
    kind := ← Record.field ms "job_type" JobKind.decode .all
    timeoutS := ← Record.field ms "timeout" Decoder.u64 0
    payload := ← Record.field ms "payload" Decoder.any .null }

-- The answer to a job request: nothing, the runner's settings, or a job and the settings.
structure PollAnswer where
  job : Option DispatchedJob := none
  settings : Option RunnerSettings := none

def PollAnswer.toJson (a : PollAnswer) : Json :=
  Json.ofMembers <| (a.job.map fun d => [("job", d.toJson)]).getD [] ++
    (a.settings.map fun s => [("set", s.toJson)]).getD []

def PollAnswer.decode : Decoder PollAnswer := fun j => do
  let ms ← readRecord "JobRequestResponse"
    [.opt "job" DispatchedJob.decode, .opt "set" RunnerSettings.decode] j
  return {
    job := ← Record.optional ms "job" DispatchedJob.decode
    settings := ← Record.optional ms "set" RunnerSettings.decode }

-- What a registration hands the runner: its bearer token and its settings.
structure Credentials where
  token : String
  settings : RunnerSettings

def Credentials.toJson (c : Credentials) : Json :=
  .obj [("token", .str c.token), ("set", c.settings.toJson)]

def Credentials.decode : Decoder Credentials := fun j => do
  let ms ← readRecord "RegisterRunnerResponse" [.req "token" Decoder.string, .req "set" RunnerSettings.decode] j
  return {
    token := ← Record.field ms "token" Decoder.string ""
    settings := ← Record.field ms "set" RunnerSettings.decode (.ofKind .all) }

-- A registered runner: its id, its bearer token and its settings.
structure Registered where
  runner : Uuid
  token : String
  settings : RunnerSettings

def Registered.credentials (r : Registered) : Credentials := ⟨r.token, r.settings⟩

def Registered.toJson (r : Registered) : Json := r.credentials.toJson

structure TracePage where
  entries : List TraceEntry
  endCursor : Int
  hasMore : Bool

def TracePage.toJson (p : TracePage) : Json :=
  .obj [("entries", .arr (p.entries.map TraceEntry.toJson)), ("end_cursor", .int p.endCursor),
    ("has_more", .bool p.hasMore)]

def TracePage.decode : Decoder TracePage := fun j => do
  let entries := Decoder.list TraceEntry.decode
  let ms ← readRecord "JobTracePage"
    [.req "entries" entries, .req "end_cursor" Decoder.i64, .req "has_more" Decoder.bool] j
  return {
    entries := ← Record.field ms "entries" entries []
    endCursor := ← Record.field ms "end_cursor" Decoder.i64 0
    hasMore := ← Record.field ms "has_more" Decoder.bool false }

-- A runner as a listing shows it, with how many jobs it is running.
structure RunnerSummary where
  id : Uuid
  name : String
  kind : JobKind
  zone : String
  active : Bool
  contactedAt : Timestamp
  runningJobs : Nat

def RunnerSummary.toJson (s : RunnerSummary) : Json :=
  .obj [("id", .str s.id.toString), ("name", .str s.name), ("job_type", s.kind.toJson),
    ("zone", .str s.zone), ("active", .bool s.active),
    ("contacted_at", .str s.contactedAt.toText), ("running_jobs", .int s.runningJobs)]

def RunnerSummary.decode : Decoder RunnerSummary := fun j => do
  let ms ← readRecord "RunnerSummary"
    [.req "id" Uuid.decode, .req "name" Decoder.string, .req "job_type" JobKind.decode,
      .req "zone" Decoder.string, .req "active" Decoder.bool, .req "contacted_at" Timestamp.decode,
      .req "running_jobs" Decoder.usize] j
  return {
    id := ← Record.field ms "id" Uuid.decode Uuid.nil
    name := ← Record.field ms "name" Decoder.string ""
    kind := ← Record.field ms "job_type" JobKind.decode .all
    zone := ← Record.field ms "zone" Decoder.string ""
    active := ← Record.field ms "active" Decoder.bool false
    contactedAt := ← Record.field ms "contacted_at" Timestamp.decode ⟨0⟩
    runningJobs := ← Record.field ms "running_jobs" Decoder.usize 0 }

def Runner.summary (r : Runner) (running : Nat) : RunnerSummary :=
  ⟨r.id, r.name, r.kind, r.zone, r.active, r.contactedAt, running⟩

-- A runner in a listing, with how many jobs it is running.
def Runner.summaryJson (r : Runner) (running : Nat) : Json := (r.summary running).toJson

-- How many jobs of a kind wait for a runner.
structure PendingCount where
  kind : JobKind
  count : Int

def PendingCount.toJson (p : PendingCount) : Json :=
  .obj [("job_type", p.kind.toJson), ("count", .int p.count)]

def PendingCount.decode : Decoder PendingCount := fun j => do
  let ms ← readRecord "PendingJobCount" [.req "job_type" JobKind.decode, .req "count" Decoder.i64] j
  return {
    kind := ← Record.field ms "job_type" JobKind.decode .all
    count := ← Record.field ms "count" Decoder.i64 0 }

-- An artifact as stored: its key and its size in bytes.
structure StoredArtifact where
  key : String
  size : Nat

def StoredArtifact.toJson (a : StoredArtifact) : Json :=
  .obj [("key", .str a.key), ("size", .int a.size)]

def StoredArtifact.decode : Decoder StoredArtifact := fun j => do
  let ms ← readRecord "ArtifactUploaded" [.req "key" Decoder.string, .req "size" Decoder.usize] j
  return {
    key := ← Record.field ms "key" Decoder.string ""
    size := ← Record.field ms "size" Decoder.usize 0 }

-- The answer to a trace report: whether the runner is to stop working on the job.
structure TraceAck where
  canceled : Bool

def TraceAck.toJson (a : TraceAck) : Json := .obj [("canceled", .bool a.canceled)]

def TraceAck.decode : Decoder TraceAck := fun j => do
  let ms ← readRecord "UpdateJobTraceResponse" [.req "canceled" Decoder.bool] j
  return { canceled := ← Record.field ms "canceled" Decoder.bool false }

-- The query of an artifact upload: the job, as text, and the key; written `jobId` and `key`.
structure UploadQuery where
  jobId : String
  key : String

def UploadQuery.toJson (q : UploadQuery) : Json := .obj [("jobId", .str q.jobId), ("key", .str q.key)]

def UploadQuery.decode : Decoder UploadQuery := fun j => do
  let ms ← readRecord "ArtifactUploadQuery" [.req "jobId" Decoder.string, .req "key" Decoder.string] j
  return { jobId := ← Record.field ms "jobId" Decoder.string "", key := ← Record.field ms "key" Decoder.string "" }

-- The query of an artifact download: the key.
structure DownloadQuery where
  key : String

def DownloadQuery.toJson (q : DownloadQuery) : Json := .obj [("key", .str q.key)]

def DownloadQuery.decode : Decoder DownloadQuery := fun j => do
  let ms ← readRecord "ArtifactDownloadQuery" [.req "key" Decoder.string] j
  return { key := ← Record.field ms "key" Decoder.string "" }

-- The query of a trace page: the cursor to read after, if any.
structure TraceQuery where
  after : Option Int := none

def TraceQuery.toJson (q : TraceQuery) : Json := .obj [("after", Json.ofOption .int q.after)]

def TraceQuery.decode : Decoder TraceQuery := fun j => do
  let ms ← readRecord "TraceQuery" [.opt "after" Decoder.i64] j
  return { after := ← Record.optional ms "after" Decoder.i64 }

-- A runner listing's filters as JSON: every field, `null` when not given.
def RunnerQuery.toJson (q : RunnerQuery) : Json :=
  .obj [("job_type", Json.ofOption JobKind.toJson q.kind), ("active", Json.ofOption .bool q.active),
    ("zone", Json.ofOption .str q.zone), ("online", Json.ofOption .bool q.online)]

end JobDispatch
