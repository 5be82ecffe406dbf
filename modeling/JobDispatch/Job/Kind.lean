import JobDispatch.Json.Decode
import JobDispatch.Json.Shape

namespace JobDispatch

inductive JobKind where
  | all
  | bundleAnalyze
  | labAnalyze
  | e2eAnalyze
  | labPing
  | sourceAnalyze
  | packageAnalyze
  deriving DecidableEq, Repr, Inhabited

namespace JobKind

-- Every kind, in their canonical order.
def variants : List JobKind :=
  [.all, .bundleAnalyze, .labAnalyze, .e2eAnalyze, .labPing, .sourceAnalyze, .packageAnalyze]

-- The group leaders, one per capability group.
def leaders : List JobKind := [.bundleAnalyze, .labAnalyze, .sourceAnalyze, .packageAnalyze]

-- The kinds a job can have: every kind but `all`.
def concrete : List JobKind := variants.filter (· ≠ .all)

def name : JobKind → String
  | .all => "All"
  | .bundleAnalyze => "BundleAnalyze"
  | .labAnalyze => "LabAnalyze"
  | .e2eAnalyze => "E2EAnalyze"
  | .labPing => "LabPing"
  | .sourceAnalyze => "SourceAnalyze"
  | .packageAnalyze => "PackageAnalyze"

-- The kind with exactly this name.
def ofName? (s : String) : Option JobKind := variants.find? (·.name == s)

-- The leader of the kind's group; `all` leads itself.
def leader : JobKind → JobKind
  | .labAnalyze | .e2eAnalyze | .labPing => .labAnalyze
  | k => k

-- Every kind that shares the kind's group; empty for `all`.
def group (k : JobKind) : List JobKind :=
  match k.leader with
  | .all => []
  | .labAnalyze => [.labAnalyze, .e2eAnalyze, .labPing]
  | .e2eAnalyze | .labPing => []
  | l => [l]

-- How many jobs of the group a runner should run at once.
def concurrency (k : JobKind) : Nat :=
  match k.leader with
  | .bundleAnalyze | .sourceAnalyze => 3
  | _ => 1

def toJson (k : JobKind) : Json := .str k.name

-- How a kind is written in a request: a unit variant named after it.
def shape : Shape := .variant (variants.map name)

-- A kind given by its name, or as a one-member map `{name: null}`.
def decode : Decoder JobKind := fun j => do
  let n ← Decoder.variant (variants.map name) j
  match ofName? n with
  | some k => pure k
  | none => throw (.unknownVariant n (variants.map name))

end JobKind

inductive JobStatus where
  | pending
  | running
  | done
  | canceled
  | failed
  deriving DecidableEq, Repr, Inhabited

namespace JobStatus

def variants : List JobStatus := [.pending, .running, .done, .canceled, .failed]

def name : JobStatus → String
  | .pending => "Pending"
  | .running => "Running"
  | .done => "Done"
  | .canceled => "Canceled"
  | .failed => "Failed"

def ofName? (s : String) : Option JobStatus := variants.find? (·.name == s)

-- No transition leaves a sealed state.
def sealed : JobStatus → Bool
  | .done | .canceled | .failed => true
  | _ => false

def toJson (s : JobStatus) : Json := .str s.name

def decode : Decoder JobStatus := fun j => do
  let n ← Decoder.variant (variants.map name) j
  match ofName? n with
  | some s => pure s
  | none => throw (.unknownVariant n (variants.map name))

end JobStatus

-- A name that is no kind or state.
structure UnknownName where
  text : String

def UnknownName.message (u : UnknownName) : String := "unknown variant: " ++ u.text

def JobKind.parse (s : String) : Except UnknownName JobKind :=
  match JobKind.ofName? s with
  | some k => .ok k
  | none => .error ⟨s⟩

def JobStatus.parse (s : String) : Except UnknownName JobStatus :=
  match JobStatus.ofName? s with
  | some k => .ok k
  | none => .error ⟨s⟩

-- The capability a runner announces with its kind: the kind, and how many jobs at once.
structure RunnerSettings where
  kind : JobKind
  concurrency : Nat
  deriving DecidableEq, Repr

def RunnerSettings.ofKind (k : JobKind) : RunnerSettings := ⟨k, k.concurrency⟩

def RunnerSettings.toJson (s : RunnerSettings) : Json :=
  .obj [("job_type", s.kind.toJson), ("concurrency", .int s.concurrency)]

def RunnerSettings.decode : Decoder RunnerSettings := fun j => do
  let ms ← readRecord "RunnerSettings" [.req "job_type" JobKind.decode, .req "concurrency" Decoder.u32] j
  return {
    kind := ← Record.field ms "job_type" JobKind.decode .all
    concurrency := ← Record.field ms "concurrency" Decoder.u32 0 }

end JobDispatch
