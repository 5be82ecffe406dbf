import JobDispatch.Orchestrator.Dispatch
import JobDispatch.Text.FormUrl
import JobDispatch.Api.MediaType

namespace JobDispatch

-- A request as the API receives it. `token` is the runner token header as sent, `""` if
-- absent.
structure HttpRequest where
  method : String
  path : String
  query : Option String := none
  token : String := ""
  contentType : Option String := none
  body : List UInt8 := []

-- Whether a character may stand in a header value read as text: visible ASCII, space or tab.
def isHeaderTextChar (c : Char) : Bool := (32 ≤ c.toNat ∧ c.toNat < 127) || c = '\t'

-- The runner token the request carries: a header value that is not plain text counts as no
-- token.
def HttpRequest.runnerToken (r : HttpRequest) : String :=
  if r.token.all isHeaderTextChar then r.token else ""

inductive HttpBody where
  | empty
  | json (j : Json)
  | text (s : String)
  | stream (r : BlobReader)

structure HttpResponse where
  status : Nat
  body : HttpBody

namespace Api

def respond (status : Nat) (j : Json) : HttpResponse := ⟨status, .json j⟩

-- A client error whose plain-text body nobody reads.
def rejected (status : Nat) : HttpResponse := ⟨status, .text "rejected"⟩

def errorBody (text : String) : Json := .obj [("error", .str text)]

def ofError : DispatchError → HttpResponse
  | .forbidden r => respond 403 (errorBody r)
  | .notFound w => respond 404 (errorBody (w ++ " not found"))
  | .badRequest r => respond 400 (errorBody r)
  | .traceExpired => respond 410 (errorBody "job trace has expired")
  | .store _ => respond 500 (errorBody "Internal server error")
  | e => respond 500 (errorBody e.message)

-- Whether a content type names JSON (`MediaType.isJson`).
def isJsonType (ct : String) : Bool := (MediaType.parse? ct).any MediaType.isJson

-- The JSON body of a request read as shape `s`: 415 without a JSON content type, 400 for
-- text that is no JSON, 422 for JSON of another shape.
def jsonBody (req : HttpRequest) (s : Shape) : Except HttpResponse Json :=
  match req.contentType with
  | some ct =>
    if isJsonType ct then
      match (Bytes.utf8? req.body).map s.readText with
      | some (.ok j) => .ok j
      | some (.error .mismatched) => .error (rejected 422)
      | _ => .error (rejected 400)
    else .error (rejected 415)
  | none => .error (rejected 415)

def readJson {α} (req : HttpRequest) (s : Shape) (d : Decoder α) : Except HttpResponse α := do
  let j ← jsonBody req s
  (d j).mapError fun _ => rejected 422

-- An optional JSON body: none without a content type.
def readOptionalJson {α} (req : HttpRequest) (s : Shape) (d : Decoder α) :
    Except HttpResponse (Option α) :=
  match req.contentType with
  | none => .ok none
  | some _ => some <$> readJson req s d

-- A percent-decoded path parameter.
def param (raw : String) : Except HttpResponse String :=
  match Bytes.utf8? (FormUrl.percentDecode raw) with
  | some s => .ok s
  | none => .error (rejected 400)

def intParam (raw : String) : Except HttpResponse Int := do
  match Numeral.signed? 64 (← param raw) with
  | some n => .ok n
  | none => .error (rejected 400)

def uuidParam (raw : String) : Except HttpResponse Uuid := do
  match Uuid.parse? (← param raw) with
  | some u => .ok u
  | none => .error (rejected 400)

-- The fields of a query string that reads into a record with the `known` fields: other
-- fields are ignored, and a known field given twice does not read.
def queryFields (req : HttpRequest) (known : List String) : Except HttpResponse (List (String × String)) :=
  let pairs := FormUrl.parse (req.query.getD "")
  let keys := (pairs.map (·.1)).filter known.contains
  if keys.eraseDups.length = keys.length then .ok pairs else .error (rejected 400)

-- An optional query field read by `f`.
def queryField {α} (fields : List (String × String)) (name : String) (f : String → Option α) :
    Except HttpResponse (Option α) :=
  match fields.lookup name with
  | none => .ok none
  | some v => match f v with
    | some a => .ok (some a)
    | none => .error (rejected 400)

def requiredField (fields : List (String × String)) (name : String) : Except HttpResponse String :=
  match fields.lookup name with
  | some v => .ok v
  | none => .error (rejected 400)

-- How the body of job creation is written: an array of jobs or one job.
def jobBatchShape : Shape := .oneOf [.list JobRequest.shape, JobRequest.shape]

-- The request body of job creation: an array of jobs or one job.
def decodeJobBatch : Decoder (List JobRequest) := fun j =>
  match Decoder.list JobRequest.decode j with
  | .ok jobs => .ok jobs
  | .error _ => match JobRequest.decode j with
    | .ok job => .ok [job]
    | .error _ => .error (.custom "data did not match any variant of untagged enum CreateJobsRequest")

def jobsJson (l : List Job) : Json := .arr (l.map Job.toJson)

-- Runs an operation, answering its error as the API does.
def run (m : Op HttpResponse) : StateM Orchestrator HttpResponse := do
  match ← m.run with
  | .ok r => pure r
  | .error e => pure (ofError e)

-- Answers a request that was read, or the rejection of the part that did not read.
def handle (read : Except HttpResponse (Op HttpResponse)) : StateM Orchestrator HttpResponse :=
  match read with
  | .ok m => run m
  | .error r => pure r

def ok (j : Json) : Op HttpResponse := pure (respond 200 j)

def metricsText (m : Metrics) : String := String.join (m.render.map (· ++ "\n"))

-- What a route answers for a method, or `none` when the method is not allowed.
def route (req : HttpRequest) : List String → Option (StateM Orchestrator HttpResponse)
  | ["health"] => if req.method = "GET" then some (pure ⟨200, .text "OK"⟩) else none
  | ["api", "metrics"] =>
    if req.method = "GET" then some do pure ⟨200, .text (metricsText (← get).metrics)⟩ else none
  | ["api", "maintenance"] =>
    match req.method with
    | "GET" => some do pure (respond 200 (.obj [("enabled", .bool (← get).maintenance)]))
    | "PUT" => some <| handle do
      let enabled ← readJson req (.record [("enabled", true, .bool)]) fun j => do
        let ms ← readRecord "Maintenance" [.req "enabled" Decoder.bool] j
        Record.field ms "enabled" Decoder.bool false
      pure do
        Orchestrator.setMaintenance enabled
        ok (.obj [("enabled", .bool enabled)])
    | _ => none
  | ["api", "runners", "register"] =>
    if req.method ≠ "POST" then none else some <| handle do
      let r ← readJson req Registration.shape Registration.decode
      pure do pure (respond 201 (← Orchestrator.register r).toJson)
  | ["api", "jobs", "request"] =>
    if req.method ≠ "POST" then none else some <| handle do
      let info ← readOptionalJson req pollInfoShape decodePollInfo
      pure do ok (← Orchestrator.requestJob req.runnerToken info.join).toJson
  | ["api", "jobs", "trace"] =>
    if req.method ≠ "POST" then none else some <| handle do
      let p ← readJson req TraceReport.shape TraceReport.decode
      pure do ok (TraceAck.toJson ⟨← Orchestrator.updateTrace req.runnerToken p⟩)
  | ["api", "jobs", "artifacts"] =>
    match req.method with
    | "POST" => some <| handle do
      let fields ← queryFields req ["jobId", "key"]
      let q : UploadQuery := ⟨← requiredField fields "jobId", ← requiredField fields "key"⟩
      pure do
        let (k, n) ← Orchestrator.uploadArtifact req.runnerToken q.jobId q.key req.body
        pure (respond 201 (StoredArtifact.toJson ⟨k, n⟩))
    | "GET" => some <| handle do
      let q : DownloadQuery := ⟨← requiredField (← queryFields req ["key"]) "key"⟩
      pure do pure ⟨200, .stream (← Orchestrator.downloadArtifact req.runnerToken q.key)⟩
    | _ => none
  | ["api", "jobs"] =>
    if req.method ≠ "POST" then none else some <| handle do
      let reqs ← readJson req jobBatchShape decodeJobBatch
      pure do
        let jobs ← Orchestrator.createJobs reqs
        if jobs.isEmpty && !reqs.isEmpty then throw (.badRequest "no job could be created")
        pure (respond 201 (jobsJson jobs))
  | ["api", "jobs", "pending"] =>
    if req.method ≠ "GET" then none else some <| run do
      let counts ← Orchestrator.pendingCounts
      ok (.arr (counts.map fun (k, n) => PendingCount.toJson ⟨k, n⟩))
  | ["api", "jobs", id] =>
    if req.method ≠ "GET" then none else some <| handle do
      let id ← intParam id
      pure do ok (← Orchestrator.getJob id).toJson
  | ["api", "jobs", id, "trace"] =>
    if req.method ≠ "GET" then none else some <| handle do
      let id ← intParam id
      let q : TraceQuery := ⟨← queryField (← queryFields req ["after"]) "after" (Numeral.signed? 64)⟩
      pure do ok (← Orchestrator.getTrace (← Orchestrator.getJob id) q.after).toJson
  | ["api", "jobs", id, "cancel"] =>
    if req.method ≠ "POST" then none else some <| handle do
      let id ← intParam id
      pure do ok (← Orchestrator.cancelJob id).toJson
  | ["api", "projects", id, "usage"] =>
    if req.method ≠ "GET" then none else some <| handle do
      let id ← intParam id
      pure do ok (← Orchestrator.projectUsage id).toJson
  | ["api", "runners"] =>
    if req.method ≠ "GET" then none else some <| handle do
      let fields ← queryFields req ["job_type", "active", "zone", "online"]
      let q : RunnerQuery := {
        kind := ← queryField fields "job_type" JobKind.ofName?
        active := ← queryField fields "active" Numeral.flag?
        zone := ← queryField fields "zone" some
        online := ← queryField fields "online" Numeral.flag? }
      pure do
        let runners ← Orchestrator.listRunners q
        ok (.arr (runners.map fun (r, n) => r.summaryJson n))
  | ["api", "runners", id] =>
    match req.method with
    | "GET" => some <| handle do
      let id ← uuidParam id
      pure do ok (← Orchestrator.getRunner id).toJson
    | "PATCH" => some <| handle do
      let id ← uuidParam id
      let u ← readJson req RunnerUpdate.shape RunnerUpdate.decode
      pure do
        let runner ← Orchestrator.updateRunner id u
        -- a new zone or kind changes which jobs the runner scans for
        modify fun o => { o with watermarks := o.watermarks.invalidate }
        ok runner.toJson
    | "DELETE" => some <| handle do
      let id ← uuidParam id
      pure do
        Orchestrator.deleteRunner id
        pure ⟨204, .empty⟩
    | _ => none
  | ["api", "runners", id, "jobs"] =>
    if req.method ≠ "GET" then none else some <| handle do
      let id ← uuidParam id
      pure do ok (jobsJson (← Orchestrator.runningJobs id))
  | ["api", "zones"] =>
    if req.method ≠ "GET" then none else some <| run do
      ok (.arr ((← Orchestrator.knownZones).map .str))
  | _ => some (pure ⟨404, .empty⟩)

def serve (req : HttpRequest) : StateM Orchestrator HttpResponse :=
  match req.path.splitOn "/" with
  | "" :: segments =>
    -- no route has an empty segment, and parameters are never empty
    if segments.contains "" then pure ⟨404, .empty⟩ else
    -- a GET route also answers HEAD, with the same status and no body
    if req.method = "HEAD" then
      match route { req with method := "GET" } segments with
      | some answer => do return { (← answer) with body := .empty }
      | none => pure ⟨405, .empty⟩
    else
    match route req segments with
    | some answer => answer
    | none => pure ⟨405, .empty⟩
  | _ => pure ⟨404, .empty⟩

end Api

end JobDispatch
