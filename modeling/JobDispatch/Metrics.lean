import JobDispatch.Job.Kind
import JobDispatch.Json.Double

namespace JobDispatch

-- The lifecycle steps a job is counted at.
inductive Outcome where
  | created
  | dispatched
  | succeeded
  | failed
  deriving DecidableEq, Repr

def Outcome.name : Outcome → String
  | .created => "created"
  | .dispatched => "dispatched"
  | .succeeded => "succeeded"
  | .failed => "failed"

def Outcome.variants : List Outcome := [.created, .dispatched, .succeeded, .failed]

-- One histogram series: per bound the observations at or below it, their count and sum.
structure Histogram where
  bounds : List Double
  atOrBelow : List Nat
  count : Nat := 0
  sum : Double := Double.ofNat 0
  deriving Inhabited

namespace Histogram

def empty (bounds : List Double) : Histogram := ⟨bounds, bounds.map fun _ => 0, 0, Double.ofNat 0⟩

def observe (h : Histogram) (v : Float) : Histogram :=
  { h with
    atOrBelow := (h.bounds.zip h.atOrBelow).map fun (b, n) => if v ≤ b.toFloat then n + 1 else n
    count := h.count + 1
    sum := Double.ofFloat (h.sum.toFloat + v) }

end Histogram

-- Bounds of the pending-time buckets, in seconds.
def pendingBounds : List Double :=
  [Double.ofDecimal false 1 (-1), Double.ofDecimal false 5 (-1), Double.ofNat 1, Double.ofNat 5,
    Double.ofNat 15, Double.ofNat 60, Double.ofNat 300, Double.ofNat 900, Double.ofNat 3600]

-- Bounds of the request-duration buckets, in seconds.
def dispatchBounds : List Double :=
  [Double.ofDecimal false 1 (-3), Double.ofDecimal false 5 (-3), Double.ofDecimal false 1 (-2),
    Double.ofDecimal false 5 (-2), Double.ofDecimal false 1 (-1), Double.ofDecimal false 5 (-1),
    Double.ofNat 1, Double.ofNat 5]

-- Seconds of a span of milliseconds, as whole seconds plus the nanosecond remainder.
def secondsOfMillis (ms : Nat) : Float :=
  Float.ofNat (ms / 1000) + Float.ofNat (ms % 1000 * 1000000) / 1000000000

structure Metrics where
  jobs : List ((JobKind × Outcome) × Nat) := []
  pending : List (JobKind × Histogram) := []
  dispatch : List (Bool × Histogram) := []
  backpressure : Nat := 0
  deriving Inhabited

namespace Metrics

-- The series of `key`, created empty when missing.
def series {κ β} [BEq κ] (fresh : β) (key : κ) (l : List (κ × β)) : β × List (κ × β) :=
  match l.lookup key with
  | some v => (v, l)
  | none => (fresh, l ++ [(key, fresh)])

def setSeries {κ β} [BEq κ] (key : κ) (v : β) (l : List (κ × β)) : List (κ × β) :=
  l.map fun (k, w) => if k == key then (k, v) else (k, w)

-- Reads the job counter of a kind and step, creating its series.
def jobCount (m : Metrics) (k : JobKind) (o : Outcome) : Nat × Metrics :=
  let (n, jobs) := series 0 (k, o) m.jobs
  (n, { m with jobs })

def count (m : Metrics) (k : JobKind) (o : Outcome) : Metrics :=
  let (n, jobs) := series 0 (k, o) m.jobs
  { m with jobs := setSeries (k, o) (n + 1) jobs }

-- Reads how many pending times of a kind were observed, creating its series.
def pendingSamples (m : Metrics) (k : JobKind) : Nat × Metrics :=
  let (h, pending) := series (Histogram.empty pendingBounds) k m.pending
  (h.count, { m with pending })

-- A job of kind `k` left the pending state after `ms` milliseconds.
def dispatched (m : Metrics) (k : JobKind) (ms : Int) : Metrics :=
  let m := m.count k .dispatched
  let (h, pending) := series (Histogram.empty pendingBounds) k m.pending
  let h := h.observe (Float.ofInt (max ms 0) / 1000)
  { m with pending := setSeries k h pending }

-- A job request took `ms` milliseconds and found a job or not.
def requestTook (m : Metrics) (ms : Nat) (found : Bool) : Metrics :=
  let (h, dispatch) := series (Histogram.empty dispatchBounds) found m.dispatch
  { m with dispatch := setSeries found (h.observe (secondsOfMillis ms)) dispatch }

def refused (m : Metrics) : Metrics := { m with backpressure := m.backpressure + 1 }

def byLabel {κ β} (label : κ → String) (l : List (κ × β)) : List (κ × β) :=
  l.mergeSort fun a b => decide (label a.1 ≤ label b.1)

def labels (pairs : List (String × String)) : String :=
  "\x7b" ++ ",".intercalate (pairs.map fun (k, v) => k ++ "=\"" ++ v ++ "\"") ++ "\x7d"

def header (name help kind : String) : List String :=
  ["# HELP " ++ name ++ " " ++ help, "# TYPE " ++ name ++ " " ++ kind]

def histogramLines (name : String) (label : List (String × String)) (h : Histogram) :
    List String :=
  (h.bounds.zip h.atOrBelow).map (fun (b, n) =>
      name ++ "_bucket" ++ labels (label ++ [("le", b.toPlainText)]) ++ " " ++ toString n) ++
    [name ++ "_bucket" ++ labels (label ++ [("le", "+Inf")]) ++ " " ++ toString h.count,
     name ++ "_sum" ++ labels label ++ " " ++ h.sum.toPlainText,
     name ++ "_count" ++ labels label ++ " " ++ toString h.count]

-- The text exposition, one line per element.
def render (m : Metrics) : List String :=
  let back := "conveyor_backpressure_rejections_total"
  let disp := "conveyor_dispatch_duration_seconds"
  let pend := "conveyor_job_pending_seconds"
  let jobs := "conveyor_jobs_total"
  let flag (b : Bool) : String := if b then "true" else "false"
  header back "Job requests refused by the admission queue" "counter" ++
    [back ++ " " ++ toString m.backpressure] ++
  (if m.dispatch.isEmpty then [] else
    header disp "Duration of a job request, admission wait included" "histogram" ++
      (byLabel flag m.dispatch).flatMap fun (b, h) => histogramLines disp [("found", flag b)] h) ++
  (if m.pending.isEmpty then [] else
    header pend "Time between job creation and dispatch" "histogram" ++
      (byLabel JobKind.name m.pending).flatMap fun (k, h) =>
        histogramLines pend [("job_type", k.name)] h) ++
  (if m.jobs.isEmpty then [] else
    header jobs "Jobs per type and lifecycle step" "counter" ++
      (byLabel (fun (k, o) => k.name ++ "\x00" ++ o.name) m.jobs).map fun ((k, o), n) =>
        jobs ++ labels [("job_type", k.name), ("outcome", o.name)] ++ " " ++ toString n)

end Metrics

end JobDispatch
