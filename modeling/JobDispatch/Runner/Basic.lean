import JobDispatch.Job.Kind
import JobDispatch.Uuid
import JobDispatch.Time

namespace JobDispatch

-- Self-reported runner data, sent at registration and with every poll.
structure RunnerReport where
  name : Option String := none
  zone : Option String := none
  version : Option String := none
  platform : Option String := none
  arch : Option String := none
  extra : Option (List (String × String)) := none
  deriving Inhabited

namespace RunnerReport

-- The capability asked for through the `jobType` hint, when it names a kind.
def requestedKind (r : RunnerReport) : Option JobKind :=
  r.extra.bind (·.lookup "jobType") |>.bind JobKind.ofName?

-- How a report is written: an object of optional strings and an optional map of hints.
def shape : Shape :=
  .record [("name", false, .option .string), ("zone", false, .option .string),
    ("version", false, .option .string), ("platform", false, .option .string),
    ("arch", false, .option .string), ("extra", false, .option .stringMap)]

def decode : Decoder RunnerReport := fun j => do
  let string := Decoder.string
  let hints := Decoder.map Decoder.string
  let ms ← readRecord "RunnerInfo"
    [.opt "name" string, .opt "zone" string, .opt "version" string, .opt "platform" string,
      .opt "arch" string, .opt "extra" hints] j
  return {
    name := ← Record.optional ms "name" string
    zone := ← Record.optional ms "zone" string
    version := ← Record.optional ms "version" string
    platform := ← Record.optional ms "platform" string
    arch := ← Record.optional ms "arch" string
    extra := ← Record.optional ms "extra" hints }

def hintsToJson (hs : List (String × String)) : Json := .obj (hs.map fun (k, v) => (k, .str v))

def toJson (r : RunnerReport) : Json :=
  .obj [("name", Json.ofOption .str r.name), ("zone", Json.ofOption .str r.zone),
    ("version", Json.ofOption .str r.version), ("platform", Json.ofOption .str r.platform),
    ("arch", Json.ofOption .str r.arch), ("extra", Json.ofOption hintsToJson r.extra)]

end RunnerReport

structure Runner where
  id : Uuid
  name : String
  token : String
  kind : JobKind
  zone : String
  active : Bool
  contactedAt : Timestamp
  createdAt : Timestamp
  version : Option String := none
  platform : Option String := none
  arch : Option String := none
  extra : Option (List (String × String)) := none
  deriving Inhabited

namespace Runner

-- Merges a report: name, version, platform, architecture and hints follow it when given.
def applyReport (r : Runner) (info : RunnerReport) : Runner :=
  { r with
    name := info.name.getD r.name
    version := info.version.orElse fun _ => r.version
    platform := info.platform.orElse fun _ => r.platform
    arch := info.arch.orElse fun _ => r.arch
    extra := info.extra.orElse fun _ => r.extra }

-- The runner as the API shows it; the token is never shown.
def toJson (r : Runner) : Json :=
  .obj [("id", .str r.id.toString), ("name", .str r.name), ("job_type", r.kind.toJson),
    ("zone", .str r.zone), ("active", .bool r.active),
    ("contacted_at", .str r.contactedAt.toText), ("created_at", .str r.createdAt.toText),
    ("version", Json.ofOption .str r.version), ("platform", Json.ofOption .str r.platform),
    ("arch", Json.ofOption .str r.arch), ("extra", Json.ofOption RunnerReport.hintsToJson r.extra)]

-- A runner as a field holds it. The token is never written, so it reads as empty when absent;
-- the optional fields may be left out of an object but not off an array.
def decode : Decoder Runner := fun j => do
  let hints := Decoder.map Decoder.string
  let ms ← readRecord "Runner"
    [.req "id" Uuid.decode, .req "name" Decoder.string, .dflt "token" Decoder.string,
      .req "job_type" JobKind.decode, .req "zone" Decoder.string, .req "active" Decoder.bool,
      .req "contacted_at" Timestamp.decode, .req "created_at" Timestamp.decode,
      .nullable "version" Decoder.string, .nullable "platform" Decoder.string,
      .nullable "arch" Decoder.string, .nullable "extra" hints] j
  return {
    id := ← Record.field ms "id" Uuid.decode Uuid.nil
    name := ← Record.field ms "name" Decoder.string ""
    token := ← Record.field ms "token" Decoder.string ""
    kind := ← Record.field ms "job_type" JobKind.decode .all
    zone := ← Record.field ms "zone" Decoder.string ""
    active := ← Record.field ms "active" Decoder.bool false
    contactedAt := ← Record.field ms "contacted_at" Timestamp.decode ⟨0⟩
    createdAt := ← Record.field ms "created_at" Timestamp.decode ⟨0⟩
    version := ← Record.optional ms "version" Decoder.string
    platform := ← Record.optional ms "platform" Decoder.string
    arch := ← Record.optional ms "arch" Decoder.string
    extra := ← Record.optional ms "extra" hints }

end Runner

-- The zone of a runner registered with a user's access token: the user's name, then the
-- reported zone, written without escaping.
def userZone (user zone : String) : String := "[USER:" ++ user ++ "]-" ++ zone

-- The bearer token of a runner: the hex SHA-256 of its identity and the registration secret.
def deriveToken (id : Uuid) (secret : String) : String :=
  Sha256.hexDigest (id.toString ++ ":" ++ secret)

end JobDispatch
