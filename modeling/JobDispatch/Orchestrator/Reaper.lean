import JobDispatch.Orchestrator.Jobs

namespace JobDispatch

namespace Orchestrator

-- What a job without a start is charged.
def fallbackDurationMs : Int := 60 * 60 * 1000

-- The largest number of seconds a calendar duration holds.
def maxDurationSeconds : Nat := 9223372036854775

-- The instant before which running jobs are stale, if the calendar reaches it.
def staleBefore (now : Timestamp) (deadlineS : Nat) : Option Timestamp :=
  let s : Int := if deadlineS > maxDurationSeconds then 3600 else deadlineS
  let before := now.addSeconds (-s)
  if Timestamp.earliest ≤ before then some before else none

-- Project charges of reaped jobs, ascending by project.
def chargeOf (reaped : List (Job × Int)) : List (Int × Int) :=
  let projects := (reaped.map (·.1.projectId)).eraseDups.mergeSort (· ≤ ·)
  projects.map fun p =>
    (p, (reaped.filter (·.1.projectId = p)).foldl (fun acc (_, d) => wrapI64 (acc + d)) 0)

-- Seals the stale jobs one by one, skipping those that are not sealed.
def reapEach (now : Timestamp) : List Job → Op (List (Job × Int))
  | [] => return []
  | j :: rest => do
    let duration := (j.startedAt.map fun s => now.millisBetween s).getD fallbackDurationMs
    let sealed ← tryCall .completeJob (·.completeJob j.id ⟨.done, duration, now⟩) (some none)
    match sealed.join with
    | none => reapEach now rest
    | some done =>
      record (·.count done.kind .failed)
      publish (.error done.ref "Timeout")
      return (done, duration) :: (← reapEach now rest)

def purgeLeases : Op (Except LockError Nat) :=
  modifyGet fun o =>
    let (r, leases) := o.leases.purge o.clock
    (r, { o with leases })

-- One sweep; `none` when the deadline reaches before the calendar.
def sweep : Op (Option (List Job)) := do
  let now ← now
  let some before := staleBefore now ((← get).config.runningDeadlineMs / 1000)
    | return none
  let some stale ← tryCall .findRunningStartedBefore fun s => (s.runningStartedBefore before, s)
    | return some []
  let reaped ← reapEach now stale
  for (p, d) in chargeOf reaped do
    let _ ← tryCall .recordUsage fun s => ((), s.recordUsage p 0 d)
  let _ ← purgeLeases
  return some (reaped.map (·.1))

-- Whether running the reaper for `ticks` intervals from the paused clock at `clockMs` passes
-- the last monotonic instant: its first tick is set one interval ahead, and every tick moves the
-- clock on by one interval.
def reaperPassesLastInstant (clockMs intervalMs ticks : Nat) : Bool :=
  passesLastInstant (clockMs + max 1 ticks * intervalMs)

-- Runs the periodic sweep for `ticks` intervals of the paused clock, answering the ids of
-- the jobs reaped, in order; `none` when a sweep cannot run.
def runReaper : Nat → Op (Option (List Int))
  | 0 => return some []
  | ticks + 1 => do
    modify fun o => { o with clock := o.clock + o.config.reapIntervalMs }
    let some jobs ← sweep | return none
    let some rest ← runReaper ticks | return none
    return some (jobs.map (·.id) ++ rest)

end Orchestrator

end JobDispatch
