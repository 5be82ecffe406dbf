import JobDispatch.Job.Kind
import JobDispatch.Uuid
import JobDispatch.Time

namespace JobDispatch

-- The zone meaning "no routing preference": jobs in it can go to any runner, and runners in
-- it see jobs of every zone.
def unknownZone : String := "unknown"

structure Job where
  id : Int
  iid : Int
  projectId : Int
  kind : JobKind
  entityId : Int
  zone : String
  status : JobStatus
  runnerId : Option Uuid
  createdAt : Timestamp
  startedAt : Option Timestamp
  endedAt : Option Timestamp
  duration : Option Int
  extra : Option Json
  deriving Inhabited

namespace Job

def toJson (j : Job) : Json :=
  .obj [("id", .int j.id), ("iid", .int j.iid), ("project_id", .int j.projectId),
    ("job_type", j.kind.toJson), ("entity_id", .int j.entityId), ("zone", .str j.zone),
    ("status", j.status.toJson),
    ("runner_id", Json.ofOption (fun u => .str u.toString) j.runnerId),
    ("created_at", .str j.createdAt.toText),
    ("started_at", Json.ofOption (fun t => .str t.toText) j.startedAt),
    ("ended_at", Json.ofOption (fun t => .str t.toText) j.endedAt),
    ("duration", Json.ofOption .int j.duration),
    ("extra", j.extra.getD .null)]

-- A job as a field holds it. Its optional fields may be left out of an object but not off an
-- array, as they have no default.
def decode : Decoder Job := fun j => do
  let ms ← readRecord "Job"
    [.req "id" Decoder.i64, .req "iid" Decoder.i64, .req "project_id" Decoder.i64,
      .req "job_type" JobKind.decode, .req "entity_id" Decoder.i64, .req "zone" Decoder.string,
      .req "status" JobStatus.decode, .nullable "runner_id" Uuid.decode,
      .req "created_at" Timestamp.decode, .nullable "started_at" Timestamp.decode,
      .nullable "ended_at" Timestamp.decode, .nullable "duration" Decoder.i64,
      .nullable "extra" Decoder.any] j
  return {
    id := ← Record.field ms "id" Decoder.i64 0
    iid := ← Record.field ms "iid" Decoder.i64 0
    projectId := ← Record.field ms "project_id" Decoder.i64 0
    kind := ← Record.field ms "job_type" JobKind.decode .all
    entityId := ← Record.field ms "entity_id" Decoder.i64 0
    zone := ← Record.field ms "zone" Decoder.string ""
    status := ← Record.field ms "status" JobStatus.decode .pending
    runnerId := ← Record.optional ms "runner_id" Uuid.decode
    createdAt := ← Record.field ms "created_at" Timestamp.decode ⟨0⟩
    startedAt := ← Record.optional ms "started_at" Timestamp.decode
    endedAt := ← Record.optional ms "ended_at" Timestamp.decode
    duration := ← Record.optional ms "duration" Decoder.i64
    extra := ← Record.optional ms "extra" Decoder.any }

end Job

end JobDispatch
