import JobDispatch.Orchestrator.Requests
import JobDispatch.Text.Url
import JobDispatch.Json.Parse
import JobDispatch.Store.Memory

namespace JobDispatch

inductive ClientError where
  -- No response came; `none` when the request could not even be built.
  | requestFailed (url : Option String)
  | api (status : Nat) (message : String)
  | parse (detail : String)
  | missingToken

namespace ClientError

def message : ClientError → String
  | .requestFailed (some url) => "HTTP request failed: error sending request for url (" ++ url ++ ")"
  | .requestFailed none => "HTTP request failed: builder error"
  | .api status m => "API error (status " ++ toString status ++ "): " ++ m
  | .parse d => "Failed to parse response: " ++ d
  | .missingToken => "No runner token, register first"

def status? : ClientError → Option Nat
  | .api s _ => some s
  | _ => none

def isNotFound (e : ClientError) : Bool := e.status? == some 404
def isForbidden (e : ClientError) : Bool := e.status? == some 403
def isExpired (e : ClientError) : Bool := e.status? == some 410
def isClientError (e : ClientError) : Bool := e.status?.any fun s => 400 ≤ s && s < 500
def isServerError (e : ClientError) : Bool := e.status?.any (500 ≤ ·)

end ClientError

structure Outgoing where
  method : String
  url : String
  token : Option String := none
  json : Option Json := none
  bytes : Option (List UInt8) := none

inductive ClientCall where
  | register (name secret : String) (info : RunnerReport)
  | requestJob (info : Option RunnerReport)
  | reportTrace (report : TraceReport)
  | uploadArtifact (jobId : Int) (key : String) (data : List UInt8)
  | downloadArtifact (key : String)
  | createJobs (jobs : List JobRequest)
  | getJob (id : Int)
  | getTrace (id : Int) (after : Option Int)
  | cancelJob (id : Int)
  | pendingCounts
  | projectUsage (project : Int)
  | listRunners (query : RunnerQuery)
  | getRunner (id : Uuid)
  | updateRunner (id : Uuid) (update : RunnerUpdate)
  | deleteRunner (id : Uuid)
  | runnerJobs (id : Uuid)
  | knownZones

def JobRequest.toJson (r : JobRequest) : Json :=
  .obj [("job_type", r.kind.toJson), ("project_id", .int r.projectId), ("entity_id", .int r.entityId),
    ("zone", Json.ofOption .str r.zone), ("extra", r.extra.getD .null)]

def TraceReport.toJson (r : TraceReport) : Json :=
  .obj [("job_id", .int r.jobId), ("trace", .arr (r.trace.map TraceEntry.toJson)), ("done", .bool r.done),
    ("duration", Json.ofOption .int r.duration), ("failed_reason", Json.ofOption .str r.failedReason),
    ("job_updates", r.updates.getD .null)]

def RunnerUpdate.toJson (u : RunnerUpdate) : Json :=
  .obj [("active", Json.ofOption .bool u.active), ("job_type", Json.ofOption JobKind.toJson u.kind),
    ("zone", Json.ofOption .str u.zone)]

-- The query pairs of a runner listing: the given fields, in declaration order.
def RunnerQuery.pairs (q : RunnerQuery) : List (String × String) :=
  let flag (b : Bool) : String := if b then "true" else "false"
  (q.kind.map fun k => [("job_type", k.name)]).getD [] ++
  (q.active.map fun b => [("active", flag b)]).getD [] ++
  (q.zone.map fun z => [("zone", z)]).getD [] ++
  (q.online.map fun b => [("online", flag b)]).getD []

-- What a call sends: its method and path, query pairs (`none` for a call without a query),
-- body, and whether it needs the runner token.
structure CallRequest where
  method : String
  path : String
  pairs : Option (List (String × String)) := none
  json : Option Json := none
  bytes : Option (List UInt8) := none
  needsToken : Bool := false

def ClientCall.request : ClientCall → CallRequest
  | .register name secret info =>
    { method := "POST", path := "/api/runners/register"
      json := some (Registration.toJson ⟨name, secret, info⟩) }
  | .requestJob info =>
    { method := "POST", path := "/api/jobs/request", needsToken := true
      json := some (pollInfoJson info) }
  | .reportTrace r =>
    { method := "POST", path := "/api/jobs/trace", json := some r.toJson, needsToken := true }
  | .uploadArtifact id key data =>
    { method := "POST", path := "/api/jobs/artifacts", pairs := some [("jobId", toString id), ("key", key)]
      bytes := some data, needsToken := true }
  | .downloadArtifact key =>
    { method := "GET", path := "/api/jobs/artifacts", pairs := some [("key", key)], needsToken := true }
  | .createJobs jobs =>
    { method := "POST", path := "/api/jobs", json := some (.arr (jobs.map JobRequest.toJson)) }
  | .getJob id => { method := "GET", path := "/api/jobs/" ++ toString id }
  | .getTrace id after =>
    { method := "GET", path := "/api/jobs/" ++ toString id ++ "/trace"
      pairs := after.map fun a => [("after", toString a)] }
  | .cancelJob id => { method := "POST", path := "/api/jobs/" ++ toString id ++ "/cancel" }
  | .pendingCounts => { method := "GET", path := "/api/jobs/pending" }
  | .projectUsage p => { method := "GET", path := "/api/projects/" ++ toString p ++ "/usage" }
  | .listRunners q => { method := "GET", path := "/api/runners", pairs := some q.pairs }
  | .getRunner id => { method := "GET", path := "/api/runners/" ++ id.toString }
  | .updateRunner id u => { method := "PATCH", path := "/api/runners/" ++ id.toString, json := some u.toJson }
  | .deleteRunner id => { method := "DELETE", path := "/api/runners/" ++ id.toString }
  | .runnerJobs id => { method := "GET", path := "/api/runners/" ++ id.toString ++ "/jobs" }
  | .knownZones => { method := "GET", path := "/api/zones" }

def Decoder.accepts {α : Type} (d : Decoder α) (j : Json) : Bool :=
  match d j with
  | .ok _ => true
  | .error _ => false

-- Whether a success's JSON decodes as what the call answers. Downloads answer bytes and
-- deletions nothing, so their answers are never decoded.
def ClientCall.decodesAnswer : ClientCall → Json → Bool
  | .register .. => Decoder.accepts Credentials.decode
  | .requestJob _ => Decoder.accepts PollAnswer.decode
  | .reportTrace _ => Decoder.accepts TraceAck.decode
  | .uploadArtifact .. => Decoder.accepts StoredArtifact.decode
  | .downloadArtifact _ | .deleteRunner _ => fun _ => true
  | .createJobs _ | .runnerJobs _ => Decoder.accepts (Decoder.list Job.decode)
  | .getJob _ | .cancelJob _ => Decoder.accepts Job.decode
  | .getTrace .. => Decoder.accepts TracePage.decode
  | .pendingCounts => Decoder.accepts (Decoder.list PendingCount.decode)
  | .projectUsage _ => Decoder.accepts Usage.decode
  | .listRunners _ => Decoder.accepts (Decoder.list RunnerSummary.decode)
  | .getRunner _ | .updateRunner .. => Decoder.accepts Runner.decode
  | .knownZones => Decoder.accepts (Decoder.list Decoder.string)

structure Client where
  baseUrl : String
  token : Option String := none

namespace Client

-- A client of the orchestrator at `base`, without a token.
def new (base : String) : Client :=
  ⟨String.ofList ((base.toList.reverse.dropWhile (· = '/')).reverse), none⟩

def withToken (c : Client) (token : String) : Client := { c with token := some token }

-- The URL without its credentials, which travel in a header instead. They stay when the
-- user name does not percent-decode to UTF-8.
def withoutCredentials (u : Url) : Url :=
  if u.username.isEmpty && u.password.isNone then u
  else if (Bytes.utf8? (FormUrl.percentDecode u.username)).isNone then u
  else { u with username := "", password := none }

-- The URL of a call's path with its query pairs, if any, in its normal form and without
-- credentials.
def url (c : Client) (path : String) (pairs : Option (List (String × String))) :
    Except ClientError String :=
  match Url.parse (c.baseUrl ++ path) with
  | .ok u =>
    let u := withoutCredentials u
    .ok (match pairs with
      | some ps => u.appendPairs ps
      | none => u).serialize
  | .error _ => .error (.requestFailed none)

-- Whether a text may be sent as a header value: no control characters but tabs.
def isHeaderValue (t : String) : Bool :=
  t.toList.all fun ch => ch = '\t' || (32 ≤ ch.toNat && ch.toNat ≠ 127)

-- The request of a call, or why it cannot be sent: a runner call without a token fails
-- first, then a URL that does not parse or a token that is no header value.
def prepare (c : Client) (k : ClientCall) : Except ClientError Outgoing := do
  let r := k.request
  if r.needsToken && c.token.isNone then throw .missingToken
  let url ← c.url r.path r.pairs
  if r.needsToken && !(c.token.all isHeaderValue) then throw (.requestFailed none)
  return { method := r.method, url, token := if r.needsToken then c.token else none, json := r.json,
           bytes := r.bytes }

-- What a call answers: a JSON value, raw bytes (downloads) or nothing (deletions).
inductive ClientAnswer where
  | json (j : Json)
  | bytes (b : List UInt8)
  | done

-- Judges a response: a success carries the call's answer, anything else is an API error. A
-- body that is no JSON and one that does not decode as the answer fail alike.
def judge (k : ClientCall) (status : Nat) (body : List UInt8) : Except ClientError ClientAnswer :=
  if status < 200 || status ≥ 300 then .error (.api status (Bytes.utf8Lossy body))
  else match k with
    | .downloadArtifact _ => .ok (.bytes body)
    | .deleteRunner _ => .ok .done
    | _ =>
      let failed := ClientError.parse "Failed to parse JSON response: error decoding response body"
      match (Bytes.utf8? body).bind Json.parse? with
      | some j => if k.decodesAnswer j then .ok (.json j) else .error failed
      | none => .error failed

-- Makes a call through a transport, which answers a request with a status and a body, or
-- with nothing when the request could not be sent.
def call (c : Client) (send : Outgoing → Option (Nat × List UInt8)) (k : ClientCall) :
    Except ClientError ClientAnswer := do
  let o ← c.prepare k
  match send o with
  | some (status, body) => judge k status body
  | none => .error (.requestFailed (some o.url))

end Client

end JobDispatch
