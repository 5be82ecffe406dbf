import JobDispatch.Orchestrator.Dispatch
import JobDispatch.Orchestrator.Reaper
import JobDispatch.Json.Print

namespace JobDispatch

namespace Console

def okAnswer (v : Json) : Json := .obj [("ok", v)]

def failure (kind message : String) : Json := .obj [("error", .str kind), ("message", .str message)]

def errorKind : DispatchError → String
  | .forbidden _ => "Forbidden"
  | .notFound _ => "NotFound"
  | .badRequest _ => "BadRequest"
  | .traceExpired => "TraceExpired"
  | .store _ => "Store"
  | .lock _ => "Lock"
  | .storage _ => "Storage"
  | .panicked _ => "Panic"

def dispatchFailure (e : DispatchError) : Json := failure (errorKind e) e.message

def storageFailure (e : StorageError) : Json :=
  match e with
  | .notFound _ => failure "NotFound" e.message
  | .invalidKey _ => failure "InvalidKey" e.message
  | .io _ => failure "Io" e.message

-- Reading a command's arguments; a failure is the answer.
abbrev Args := Except Json

def need {α} (o : Option α) (what : String) : Args α :=
  match o with
  | some a => .ok a
  | none => .error (failure "command" ("bad " ++ what))

def decoded {α} (r : Except DecodeError α) : Args α := r.mapError fun e => failure "decode" e.message

def variant {α} (r : Except UnknownName α) : Args α := r.mapError fun e => failure "UnknownVariant" e.message

def str (j : Json) (k : String) : Args String := need ((j.get? k).bind Json.asString?) k
def int (j : Json) (k : String) : Args Int := need ((j.get? k).bind Json.asInt?) k
def nat (j : Json) (k : String) : Args Nat := return (← int j k).toNat
def optStr (j : Json) (k : String) : Option String := (j.field? k).bind Json.asString?
def optInt (j : Json) (k : String) : Option Int := (j.field? k).bind Json.asInt?
def optBool (j : Json) (k : String) : Option Bool := (j.field? k).bind Json.asBool?

def token (j : Json) : String := (optStr j "token").getD ""
def runnerId (j : Json) : Args Uuid := do need (Uuid.parse? (← str j "runner_id")) "runner_id"
def kindArg (j : Json) (k d : String) : Args JobKind := variant (JobKind.parse ((optStr j k).getD d))

def info (j : Json) : Args (Option RunnerReport) :=
  match j.field? "info" with
  | some i => some <$> decoded (RunnerReport.decode i)
  | none => pure none

-- Bytes given as `data` (text) or `data_hex`.
def bytesArg (j : Json) : Args (List UInt8) :=
  match optStr j "data", optStr j "data_hex" with
  | some d, _ => pure (Bytes.ofString d)
  | none, some h => need (Bytes.ofHex? h) "data_hex"
  | none, none => need none "data"

-- Bytes as `{data}` when they are UTF-8, else `{data_hex}`.
def bytesJson (b : List UInt8) : Json :=
  match Bytes.utf8? b with
  | some s => .obj [("data", .str s)]
  | none => .obj [("data_hex", .str (Bytes.toHex b))]

def jobsJson (l : List Job) : Json := .arr (l.map Job.toJson)

def gateJson (g : Gate) : Json :=
  .obj [("accepted", .int g.accepted), ("waiting", .int g.waiting),
    ("holders", .obj (g.holders.map fun (n, s) => (n, .str s.label)))]

-- The counters of the metrics, touching every series they read: jobs per kind and step and
-- pending-time samples per kind, zeros left out.
def metricsSummary (m : Metrics) : Json × Metrics := Id.run do
  let mut m := m
  let mut jobs : List (String × Json) := []
  let mut pending : List (String × Json) := []
  for k in JobKind.variants do
    for o in Outcome.variants do
      let (n, m') := m.jobCount k o
      m := m'
      if n ≠ 0 then jobs := jobs ++ [(k.name ++ "/" ++ o.name, .int n)]
  for k in JobKind.variants do
    let (n, m') := m.pendingSamples k
    m := m'
    if n ≠ 0 then pending := pending ++ [(k.name, .int n)]
  return (.obj [("jobs", Json.ofMembers jobs), ("pending_samples", Json.ofMembers pending),
    ("backpressure", .int m.backpressure)], m)

-- The text exposition as lines, without the sums of pending times, which depend on when
-- the jobs were created to the nanosecond.
def metricsLines (m : Metrics) : List String :=
  m.render.filter fun l => !l.startsWith "conveyor_job_pending_seconds_sum"

-- What a sweep that cannot run reports before the service stops.
def sweepOverflow : String := "`DateTime - TimeDelta` overflowed"

-- A command's effect: an operation answered by an encoder.
def perform {α} (m : Op α) (enc : α → Json) : StateM Orchestrator (Except String Json) := do
  match ← m.run with
  | .ok a => pure (.ok (okAnswer (enc a)))
  | .error (.panicked m) => pure (.error m)
  | .error e => pure (.ok (dispatchFailure e))

-- A command that only reads or writes the orchestrator's state directly.
def direct (f : Orchestrator → Json × Orchestrator) : StateM Orchestrator (Except String Json) :=
  modifyGet fun o => let (j, o) := f o; (.ok j, o)

def wallNow : StateM Orchestrator Timestamp :=
  modifyGet fun o => (o.wallClock, { o with wallClock := o.wallClock.addNanos 1 })

def withStore (o : Orchestrator) (f : JobStore → JobStore) : Orchestrator :=
  { o with store := { o.store with data := f o.store.data } }

def ago (now : Timestamp) (j : Json) (k : String) : Option Timestamp :=
  (optInt j k).map fun n => now.addSeconds (-n)

-- A job put into the store as given.
def seededJob (now : Timestamp) (j : Json) : Args Job := do
  let id ← int j "id"
  let runnerId ← if (j.field? "runner_id").isSome then some <$> runnerId j else pure none
  return {
    id, iid := (optInt j "iid").getD id, projectId := (optInt j "project_id").getD 1
    kind := ← kindArg j "job_type" "LabAnalyze", entityId := (optInt j "entity_id").getD id
    zone := (optStr j "zone").getD "eu"
    status := ← variant (JobStatus.parse ((optStr j "status").getD "Pending")), runnerId
    createdAt := (ago now j "created_ago_s").getD now, startedAt := ago now j "started_ago_s"
    endedAt := if optBool j "ended" == some true then some now else none
    duration := optInt j "duration", extra := j.field? "extra" }

-- A runner put into the store as given.
def seededRunner (now : Timestamp) (j : Json) (id : Uuid) (name : String) : Args Runner := do
  return {
    id, token := ← str j "token", name := (optStr j "name").getD name, kind := ← kindArg j "job_type" "All"
    zone := (optStr j "zone").getD unknownZone, active := (optBool j "active").getD true
    contactedAt := (ago now j "contacted_ago_s").getD now, createdAt := (ago now j "created_ago_s").getD now
    version := optStr j "version", platform := optStr j "platform", arch := optStr j "arch"
    extra := (j.field? "extra").bind fun e => (Decoder.map Decoder.string e).toOption }

-- The operation a command names, once its arguments read.
def command (j : Json) : Args (StateM Orchestrator (Except String Json)) := do
  match ← str j "do" with
  | "register" =>
    let req ← decoded (Registration.decode (j.getD "req"))
    return perform (Orchestrator.register req) fun r =>
      .obj [("runner_id", .str r.runner.toString), ("token", .str r.token), ("set", r.settings.toJson)]
  | "request_job" => return perform (Orchestrator.requestJob (token j) (← info j)) PollAnswer.toJson
  | "update_trace" =>
    let p ← decoded (TraceReport.decode (j.getD "params"))
    return perform (Orchestrator.updateTrace (token j) p) fun c => TraceAck.toJson ⟨c⟩
  | "upload_artifact" =>
    let m := Orchestrator.uploadArtifact (token j) (← str j "job_id") (← str j "key") (← bytesArg j)
    return perform m fun (k, n) => StoredArtifact.toJson ⟨k, n⟩
  | "download_artifact" =>
    let m := Orchestrator.downloadArtifact (token j) (← str j "key")
    return do
      match ← m.run with
      | .ok reader => pure (.ok (match reader.readAll with
        | .ok b => okAnswer (bytesJson b)
        | .error e => failure "Io" e.message))
      | .error e => pure (.ok (dispatchFailure e))
  | "authenticate" => return perform (Orchestrator.authenticate (token j) (← info j)) Runner.toJson
  | "create_job" => return perform (Orchestrator.createJob (← decoded (JobRequest.decode (j.getD "req")))) Job.toJson
  | "create_jobs" =>
    return perform (Orchestrator.createJobs (← decoded (Decoder.list JobRequest.decode (j.getD "reqs")))) jobsJson
  | "get_job" => return perform (Orchestrator.getJob (← int j "id")) Job.toJson
  | "cancel_job" => return perform (Orchestrator.cancelJob (← int j "id")) Job.toJson
  | "get_trace" =>
    let id ← int j "id"
    return perform (do Orchestrator.getTrace (← Orchestrator.getJob id) (optInt j "after")) TracePage.toJson
  | "append_trace" =>
    let chunk ← decoded (Decoder.list TraceEntry.decode (j.getD "chunk"))
    let id ← int j "id"
    return perform (do Orchestrator.appendTrace (← Orchestrator.getJob id) chunk) (Json.ofOption .int)
  | "job_done" =>
    let status ← variant (JobStatus.parse (← str j "status"))
    let logs ← decoded (Decoder.list TraceEntry.decode ((j.field? "logs").getD (.arr [])))
    let id ← int j "id"
    let duration := (optInt j "duration").getD 0
    let errored := (optBool j "errored").getD false
    return perform (do Orchestrator.jobDone (← Orchestrator.getJob id) status duration errored logs)
      (Json.ofOption Job.toJson)
  | "pending_counts" =>
    return perform Orchestrator.pendingCounts fun l =>
      .arr (l.map fun (k, n) => PendingCount.toJson ⟨k, n⟩)
  | "project_usage" => return perform (Orchestrator.projectUsage (← int j "project_id")) Usage.toJson
  | "list_runners" =>
    let q ← decoded (RunnerQuery.decode ((j.field? "query").getD (.obj [])))
    return perform (Orchestrator.listRunners q) fun l => .arr (l.map fun (r, n) => r.summaryJson n)
  | "get_runner" => return perform (Orchestrator.getRunner (← runnerId j)) Runner.toJson
  | "update_runner" =>
    let u ← decoded (RunnerUpdate.decode (j.getD "update"))
    return perform (Orchestrator.updateRunner (← runnerId j) u) Runner.toJson
  | "delete_runner" => return perform (Orchestrator.deleteRunner (← runnerId j)) fun _ => .null
  | "running_jobs" => return perform (Orchestrator.runningJobs (← runnerId j)) jobsJson
  | "known_zones" => return perform Orchestrator.knownZones fun l => .arr (l.map .str)
  | "set_maintenance" =>
    let b ← need (optBool j "enabled") "enabled"
    return perform (Orchestrator.setMaintenance b) fun _ => .bool b
  | "reap" =>
    return do
      match ← Orchestrator.sweep.run with
      | .ok (some jobs) => pure (.ok (okAnswer (jobsJson jobs)))
      | .ok none => pure (.error sweepOverflow)
      | .error e => pure (.ok (dispatchFailure e))
  | "run_reaper" =>
    let ticks ← nat j "ticks"
    return do
      let o ← get
      if Orchestrator.reaperPassesLastInstant o.clock o.config.reapIntervalMs ticks then
        return .error instantOverflow
      match ← (Orchestrator.runReaper ticks).run with
      | .ok (some ids) => pure (.ok (okAnswer (.obj [("reaped", .arr (ids.map .int))])))
      | .ok none => pure (.error sweepOverflow)
      | .error e => pure (.ok (dispatchFailure e))
  | "advance" =>
    let ms ← nat j "ms"
    return direct fun o =>
      (okAnswer .null, { o with clock := o.clock + ms, gate := o.gate.settle (o.clock + ms) })
  | "hold_admission" =>
    let n ← str j "as"
    return direct fun o => let g := o.gate.acquire n o.clock; (okAnswer (gateJson g), { o with gate := g })
  | "release_admission" =>
    let n ← str j "of"
    return direct fun o => let g := o.gate.release n o.clock; (okAnswer (gateJson g), { o with gate := g })
  | "abort_admission" =>
    let n ← str j "of"
    return direct fun o => let g := o.gate.abort n o.clock; (okAnswer (gateJson g), { o with gate := g })
  | "queue" =>
    return direct fun o => let g := o.gate.settle o.clock; (okAnswer (gateJson g), { o with gate := g })
  | "lock" =>
    let key ← str j "key"
    let ttl := ((optInt j "ttl_ms").getD 3000).toNat
    return direct fun o =>
      let (r, leases) := o.leases.tryAcquire key ttl o.clock
      (match r with | .ok b => okAnswer (.bool b) | .error e => failure "LockError" e.message, { o with leases })
  | "purge_locks" =>
    return direct fun o =>
      let (r, leases) := o.leases.purge o.clock
      (match r with | .ok n => okAnswer (.int n) | .error e => failure "LockError" e.message, { o with leases })
  | "watermark" =>
    let group ← kindArg j "group" ""
    return perform (Orchestrator.watermark group (← str j "zone")) (Json.ofOption .int)
  | "invalidate_watermarks" =>
    return direct fun o => (okAnswer .null, { o with watermarks := o.watermarks.invalidate })
  | "metrics" =>
    let text := (optBool j "text").getD false
    return direct fun o =>
      let (summary, m) := metricsSummary o.metrics
      let summary := match summary with
        | .obj ms => if text then .obj (ms ++ [("text", .arr ((metricsLines m).map .str))]) else summary
        | other => other
      (okAnswer summary, { o with metrics := m })
  | "put_blob" =>
    let key ← str j "key"
    let data ← bytesArg j
    return direct fun o =>
      let (blobs, r) := o.blobs.upload key data
      (match r with | .ok () => okAnswer .null | .error e => storageFailure e, { o with blobs })
  | "get_blob" =>
    let key ← str j "key"
    return direct fun o =>
      (match o.blobs.get key with | .ok b => okAnswer (bytesJson b) | .error e => storageFailure e, o)
  | "has_blob" =>
    let key ← str j "key"
    return direct fun o => (okAnswer (.bool (o.blobs.contains key)), o)
  | "resolvers" =>
    return direct fun o =>
      let rs := o.resolvers
      (okAnswer (.obj [("contains", .obj (JobKind.variants.map fun k => (k.name, .bool (rs.contains k)))),
        ("debug", .str rs.debugText), ("job_types", .arr (rs.kinds.map JobKind.toJson))]), o)
  | "seed_job" =>
    return do
      let now ← wallNow
      match seededJob now j with
      | .ok job => modifyGet fun o => (.ok (okAnswer job.toJson), withStore o (·.putJob job))
      | .error e => pure (.ok e)
  | "seed_runner" =>
    return do
      let now ← wallNow
      let id ← modifyGet fun o =>
        (Uuid.seeded (o.seededRunners + 1),
          { o with mintedRunners := o.mintedRunners + 1, seededRunners := o.seededRunners + 1 })
      match seededRunner now j id "seeded" with
      | .ok r => modifyGet fun o =>
        (.ok (okAnswer (.obj [("runner_id", .str id.toString), ("token", .str r.token)])), withStore o (·.createRunner r))
      | .error e => pure (.ok e)
  | "jobs" => return direct fun o => (okAnswer (jobsJson o.store.data.jobs), o)
  | other => need none ("command " ++ other)

-- Runs one command: its answer, or the message the service stops with.
def run (j : Json) : StateM Orchestrator (Except String Json) :=
  match command j with
  | .ok m => m
  | .error answer => pure (.ok answer)

end Console

end JobDispatch
