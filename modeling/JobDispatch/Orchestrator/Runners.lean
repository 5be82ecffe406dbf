import JobDispatch.Orchestrator.Basic
import JobDispatch.Orchestrator.Requests

namespace JobDispatch

namespace Orchestrator

-- Who a registration secret belongs to: the installation, or a user.
inductive Registrant where
  | global
  | user (name : String)

-- Runners contacted within this many hours count as online.
def onlineWindowHours : Int := 2

def registrant (secret : String) : Op Registrant := do
  let c := (← get).config
  if secret = "" then throw (.forbidden "registration token required")
  if c.registrationToken = some secret then return .global
  -- a token listed twice belongs to its last entry
  match (c.accessTokens.reverse.lookup secret) with
  | some user => return .user user
  | none => throw (.forbidden "invalid registration token")

def mintRunnerId : Op Uuid :=
  modifyGet fun o =>
    (Uuid.mint ("runner:" ++ toString o.mintedRunners), { o with mintedRunners := o.mintedRunners + 1 })

def register (req : Registration) : Op Registered := do
  let who ← registrant req.secret
  let id ← mintRunnerId
  let token := deriveToken id req.secret
  let kind := req.info.requestedKind.getD .all
  let zone := req.info.zone.getD unknownZone
  let zone := match who with
    | .global => zone
    | .user name => userZone name zone
  let now ← now
  let runner : Runner :=
    { id, name := req.name, token, kind, zone, active := true, contactedAt := now, createdAt := now,
      version := req.info.version, platform := req.info.platform, arch := req.info.arch,
      extra := req.info.extra }
  call .createRunner fun s => ((), s.createRunner runner)
  if let .global := who then
    let _ ← call .addKnownZone fun s => s.addKnownZone runner.zone
  return ⟨id, token, RunnerSettings.ofKind kind⟩

def authenticate (token : String) (info : Option RunnerReport) : Op Runner := do
  if token = "" then throw (.forbidden "missing runner token")
  let some runner ← read .findRunnerByToken (·.findRunnerByToken token) (some none)
    | throw (.forbidden "invalid runner token")
  if !runner.active then return runner
  let runner := match info with
    | some i => runner.applyReport i
    | none => runner
  let runner := { runner with contactedAt := ← now }
  call .saveRunner fun s => ((), s.saveRunner runner)
  return runner

def getRunner (id : Uuid) : Op Runner := do
  let some runner ← read .findRunner (·.findRunner id) (some none)
    | throw (.notFound ("Runner " ++ id.toString))
  return runner

-- The runners a query selects, newest first, each with its running-job count.
def listRunners (q : RunnerQuery) : Op (List (Runner × Nat)) := do
  let online ← match q.online with
    | some b => do
      let now ← now
      pure (some (b, now.addSeconds (-(onlineWindowHours * 3600))))
    | none => pure none
  let filter : RunnerFilter := { kind := q.kind, active := q.active, zone := q.zone, online }
  let runners ← read .listRunners (·.listRunners filter)
  runners.mapM fun r => do
    let running ← read .findRunningByRunner (·.runningBy r.id)
    return (r, running.length)

def updateRunner (id : Uuid) (u : RunnerUpdate) : Op Runner := do
  let runner ← getRunner id
  let runner := { runner with
    active := u.active.getD runner.active
    kind := u.kind.getD runner.kind
    zone := u.zone.getD runner.zone }
  call .saveRunner fun s => ((), s.saveRunner runner)
  return runner

def deleteRunner (id : Uuid) : Op Unit := do
  let existed ← call .deleteRunner (·.deleteRunner id)
  if !existed then throw (.notFound ("Runner " ++ id.toString))

def runningJobs (id : Uuid) : Op (List Job) := do
  let _ ← getRunner id
  read .findRunningByRunner (·.runningBy id)

def knownZones : Op (List String) := read .knownZones (·.zones)

end Orchestrator

end JobDispatch
