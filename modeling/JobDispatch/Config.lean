import JobDispatch.Text.Numeral
import JobDispatch.Job.Basic

namespace JobDispatch

structure Config where
  databaseUrl : Option String := none
  bindAddr : String := "0.0.0.0:8080"
  registrationToken : Option String := none
  accessTokens : List (String × String) := []
  defaultJobZone : String := unknownZone
  pollingLimit : Nat := 10
  pollingQueueLimit : Nat := 10
  pollingTimeoutMs : Nat := 5000
  executionTimeoutMs : Nat := 1800000
  reapIntervalMs : Nat := 3600000
  runningDeadlineMs : Nat := 3600000
  dispatchLockTtlMs : Nat := 3000
  dispatchBatchSize : Nat := 20
  storageDir : String := "./data"
  maintenanceMode : Bool := false
  deriving Inhabited

def accessTokenEntryError : String := "ACCESS_TOKENS entry must be token:username"

-- Splits at the first occurrence of `c`.
def splitOnce (c : Char) (s : String) : Option (String × String) :=
  let cs := s.toList
  if cs.contains c then
    some (String.ofList (cs.takeWhile (· ≠ c)), String.ofList ((cs.dropWhile (· ≠ c)).drop 1))
  else none

-- The pieces of a text between the occurrences of `c`: one more than there are occurrences.
def splitChar (c : Char) (s : String) : List String := (s.toList.splitOn c).map String.ofList

-- The entries of an access-token list: the pieces between commas, trimmed, empty ones skipped.
def accessEntries (raw : String) : List String :=
  (splitChar ',' raw).map trimBlanks |>.filter (· ≠ "")

-- One access-token entry, split at its first colon into token and user.
def readAccessEntry (entry : String) : Except String (String × String) :=
  match splitOnce ':' entry with
  | some pair => .ok pair
  | none => .error accessTokenEntryError

-- Reads the access-token list: every entry must hold a colon.
def parseAccessTokens (raw : String) : Except String (List (String × String)) :=
  (accessEntries raw).mapM readAccessEntry

namespace Config

def environmentNames : List String :=
  ["DATABASE_URL", "ORCHESTRATOR_BIND_ADDR", "REGISTRATION_TOKEN", "ACCESS_TOKENS", "DEFAULT_JOB_ZONE",
    "POLLING_LIMIT", "POLLING_QUEUE_LIMIT", "POLLING_TIMEOUT_SEC", "EXECUTION_TIMEOUT_SEC",
    "REAP_INTERVAL_SEC", "RUNNING_DEADLINE_SEC", "DISPATCH_LOCK_TTL_MS", "DISPATCH_BATCH_SIZE",
    "STORAGE_DIR", "MAINTENANCE_MODE"]

-- The configuration an environment gives, `env` answering each variable's value.
def fromEnv (env : String → Option String) : Except String Config := do
  let d : Config := {}
  let num (name : String) (fallback : Nat) : Nat :=
    ((env name).bind (Numeral.unsigned? 64)).getD fallback
  let secs (name : String) (fallback : Nat) : Nat :=
    ((env name).bind (Numeral.unsigned? 64)).map (· * 1000) |>.getD fallback
  let tokens ← match env "ACCESS_TOKENS" with
    | some raw => parseAccessTokens raw
    | none => pure []
  return {
    databaseUrl := env "DATABASE_URL"
    bindAddr := (env "ORCHESTRATOR_BIND_ADDR").getD d.bindAddr
    registrationToken := env "REGISTRATION_TOKEN"
    accessTokens := tokens
    defaultJobZone := (env "DEFAULT_JOB_ZONE").getD d.defaultJobZone
    pollingLimit := num "POLLING_LIMIT" d.pollingLimit
    pollingQueueLimit := num "POLLING_QUEUE_LIMIT" d.pollingQueueLimit
    pollingTimeoutMs := secs "POLLING_TIMEOUT_SEC" d.pollingTimeoutMs
    executionTimeoutMs := secs "EXECUTION_TIMEOUT_SEC" d.executionTimeoutMs
    reapIntervalMs := secs "REAP_INTERVAL_SEC" d.reapIntervalMs
    runningDeadlineMs := secs "RUNNING_DEADLINE_SEC" d.runningDeadlineMs
    dispatchLockTtlMs := num "DISPATCH_LOCK_TTL_MS" d.dispatchLockTtlMs
    dispatchBatchSize := num "DISPATCH_BATCH_SIZE" d.dispatchBatchSize
    storageDir := (env "STORAGE_DIR").getD d.storageDir
    maintenanceMode := ((env "MAINTENANCE_MODE").bind Numeral.flag?).getD d.maintenanceMode }

-- The first setting that keeps the service from running, as its message.
def check (c : Config) : Option String :=
  if c.bindAddr.isEmpty then some "bind_addr cannot be empty"
  else if c.pollingLimit = 0 then some "polling_limit must be greater than 0"
  else if c.pollingTimeoutMs = 0 then some "polling_timeout must be greater than 0"
  else if c.reapIntervalMs = 0 then some "reap_interval must be greater than 0"
  else if c.dispatchLockTtlMs = 0 then some "dispatch_lock_ttl must be greater than 0"
  else if c.dispatchBatchSize = 0 then some "dispatch_batch_size must be greater than 0"
  else if c.registrationToken = some "" then some "registration_token cannot be empty when set"
  else none

-- A duration in milliseconds as the settings report it: a 64-bit count, so a longer one
-- keeps only its low 64 bits.
def reportedMs (ms : Nat) : Json := .int (ms % Nat.pow 2 64)

-- The settings as JSON, by their snake_case names.
def toJson (c : Config) : Json :=
  .obj [("database_url", Json.ofOption .str c.databaseUrl), ("bind_addr", .str c.bindAddr),
    ("registration_token", Json.ofOption .str c.registrationToken),
    ("access_tokens", .arr (c.accessTokens.map fun (t, u) => .arr [.str t, .str u])),
    ("default_job_zone", .str c.defaultJobZone), ("polling_limit", .int c.pollingLimit),
    ("polling_queue_limit", .int c.pollingQueueLimit), ("polling_timeout_ms", reportedMs c.pollingTimeoutMs),
    ("execution_timeout_ms", reportedMs c.executionTimeoutMs), ("reap_interval_ms", reportedMs c.reapIntervalMs),
    ("running_deadline_ms", reportedMs c.runningDeadlineMs), ("dispatch_lock_ttl_ms", .int c.dispatchLockTtlMs),
    ("dispatch_batch_size", .int c.dispatchBatchSize), ("storage_dir", .str c.storageDir),
    ("maintenance_mode", .bool c.maintenanceMode)]

end Config

-- Why a variable cannot be put into the process environment, as the service reports it: a
-- NUL byte in its name or value cannot be passed on, and a name that is empty or holds `=` is
-- refused.
def envAssignmentFault (name value : String) : Option String :=
  let nul := Char.ofNat 0
  let why :=
    if name.contains nul || value.contains nul then some "file name contained an unexpected NUL byte"
    else if name.isEmpty || name.contains '=' then some "Invalid argument (os error 22)"
    else none
  why.map fun w =>
    "failed to set environment variable `" ++ debugQuote name ++ "` to `" ++ debugQuote value ++ "`: " ++ w

-- The first variable, in the order of their names, that cannot be put into the process
-- environment.
def environmentFault (vars : List (String × String)) : Option String :=
  ((vars.mergeSort fun a b => decide (a.1 ≤ b.1)).filterMap fun (n, v) => envAssignmentFault n v).head?

end JobDispatch
