import JobDispatch.Store.Memory

namespace JobDispatch

-- The store's calls, by the names fault maps use.
inductive StoreCall where
  | createJob | findJob | findPending | assignRunner | completeJob | cancelJob
  | findRunningStartedBefore | findRunningByRunner | countPendingByType | recordUsage
  | projectUsage | createRunner | findRunner | findRunnerByToken | saveRunner | listRunners
  | deleteRunner | knownZones | addKnownZone
  deriving DecidableEq, Repr

def StoreCall.name : StoreCall → String
  | .createJob => "create_job"
  | .findJob => "find_job"
  | .findPending => "find_pending"
  | .assignRunner => "assign_runner"
  | .completeJob => "complete_job"
  | .cancelJob => "cancel_job"
  | .findRunningStartedBefore => "find_running_started_before"
  | .findRunningByRunner => "find_running_by_runner"
  | .countPendingByType => "count_pending_by_type"
  | .recordUsage => "record_usage"
  | .projectUsage => "project_usage"
  | .createRunner => "create_runner"
  | .findRunner => "find_runner"
  | .findRunnerByToken => "find_runner_by_token"
  | .saveRunner => "save_runner"
  | .listRunners => "list_runners"
  | .deleteRunner => "delete_runner"
  | .knownZones => "known_zones"
  | .addKnownZone => "add_known_zone"

-- What a fault does to a call.
inductive Fault where
  | fail
  | absent
  deriving DecidableEq, Repr

namespace Fault

def name : Fault → String
  | .fail => "error"
  | .absent => "none"

def ofName? : String → Option Fault
  | "error" => some .fail
  | "none" => some .absent
  | _ => none

end Fault

inductive StoreError where
  | database (detail : String)
  | invalidRow (detail : String)
  deriving DecidableEq, Repr

def StoreError.message : StoreError → String
  | .database d => "database error: " ++ d
  | .invalidRow d => "invalid row: " ++ d

-- The error of a database that cannot be reached over its socket.
def unreachableDatabase : String :=
  "error communicating with database: No such file or directory (os error 2)"

inductive Backend where
  | memory
  | unreachable
  deriving DecidableEq, Repr

structure Store where
  backend : Backend := .memory
  faults : List (String × Fault) := []
  data : JobStore := {}
  deriving Inhabited

namespace Store

-- Runs a call. `op` is the call on the data; `absent` is the empty answer of a call that
-- answers an optional value, which an `absent` fault gives.
def run {α} (s : Store) (c : StoreCall) (op : JobStore → α × JobStore) (absent : Option α := none) :
    Except StoreError α × Store :=
  match s.backend with
  | .unreachable => (.error (.database unreachableDatabase), s)
  | .memory =>
    match s.faults.lookup c.name, absent with
    | some .fail, _ => (.error (.invalidRow ("injected " ++ c.name ++ " fault")), s)
    | some .absent, some a => (.ok a, s)
    | _, _ =>
      let (a, data) := op s.data
      (.ok a, { s with data })

end Store

end JobDispatch
