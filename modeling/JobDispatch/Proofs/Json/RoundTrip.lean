import Mathlib
import JobDispatch.Client
import JobDispatch.Proofs.Json.Records
import JobDispatch.Proofs.Trace.Wire
import JobDispatch.Proofs.Time.Text
import JobDispatch.Proofs.Uuid.Text

namespace JobDispatch

theorem JobKind.decode_toJson (k : JobKind) : JobKind.decode k.toJson = .ok k := by
  cases k <;> rfl

theorem JobStatus.decode_toJson (s : JobStatus) : JobStatus.decode s.toJson = .ok s := by
  cases s <;> rfl

theorem TraceEntry.decode_toJson {e : TraceEntry} (h : FitsI64 e.timestamp) : decode e.toJson = .ok e :=
  decode_eq_ok.mpr ⟨_, rfl, Severity.decode_eq_ok.mpr (.inl rfl), h.1, h.2⟩

namespace RunnerSettings

-- Settings as the wire holds them: a concurrency of 32 bits.
def Representable (s : RunnerSettings) : Prop := s.concurrency < 2 ^ 32

theorem decode_toJson {s : RunnerSettings} (h : s.Representable) : decode s.toJson = .ok s := by
  have hc : Decoder.u32 (.int s.concurrency) = .ok s.concurrency := Decoder.inverts_u32 _ h
  unfold decode toJson
  rw [readRecord_of_matches ?nodup ?fields]
  case nodup => decide
  case fields =>
    exact .field (FieldRule.req_check (JobKind.decode_toJson _)) <| .field (FieldRule.req_check hc) .nil
  simp only [Except.ok_bind, Record.field, List.lookup, beq_self_eq_true, String.reduceBEq,
    JobKind.decode_toJson, hc]
  rfl

end RunnerSettings

namespace DispatchedJob

-- A dispatched job as the wire holds it: a 64-bit id and timeout.
def Representable (d : DispatchedJob) : Prop := FitsI64 d.jobId ∧ d.timeoutS < 2 ^ 64

theorem decode_toJson {d : DispatchedJob} (h : d.Representable) : decode d.toJson = .ok d := by
  have hid : Decoder.i64 (.int d.jobId) = .ok d.jobId := Decoder.inverts_i64 _ h.1
  have htimeout : Decoder.u64 (.int d.timeoutS) = .ok d.timeoutS := Decoder.inverts_u64 _ h.2
  unfold decode toJson
  rw [readRecord_of_matches ?nodup ?fields]
  case nodup => decide
  case fields =>
    exact .field (FieldRule.req_check hid) <| .field (FieldRule.req_check (JobKind.decode_toJson _)) <|
      .field (FieldRule.req_check htimeout) <| .field (FieldRule.req_check (Decoder.any_eq _)) .nil
  simp only [Except.ok_bind, Record.field, List.lookup, beq_self_eq_true, String.reduceBEq,
    JobKind.decode_toJson, hid, htimeout, Decoder.any_eq]
  rfl

end DispatchedJob

namespace PollAnswer

-- An answer to a job request as the wire holds it: its job and settings are.
def Representable (a : PollAnswer) : Prop :=
  (∀ d ∈ a.job, d.Representable) ∧ ∀ s ∈ a.settings, s.Representable

-- The members written: those of the parts that are present, in key order.
theorem toJson_eq (a : PollAnswer) :
    a.toJson = .obj ((a.job.map fun d => [("job", d.toJson)]).getD [] ++
      (a.settings.map fun s => [("set", s.toJson)]).getD []) := by
  obtain ⟨_ | d, _ | s⟩ := a <;> rfl

-- Parts that are absent are left out of the object rather than written as `null`; the reader
-- takes both as absent, so each of the four combinations reads back.
theorem decode_toJson {a : PollAnswer} (h : a.Representable) : decode a.toJson = .ok a := by
  obtain ⟨job, settings⟩ := a
  obtain ⟨hjob, hset⟩ := h
  have hd : ∀ d ∈ job, Decoder.option DispatchedJob.decode d.toJson = .ok (some d) := fun d hd =>
    Decoder.option_ok (by simp [DispatchedJob.toJson]) (DispatchedJob.decode_toJson (hjob d hd))
  have hs : ∀ s ∈ settings, Decoder.option RunnerSettings.decode s.toJson = .ok (some s) := fun s hs =>
    Decoder.option_ok (by simp [RunnerSettings.toJson]) (RunnerSettings.decode_toJson (hset s hs))
  unfold decode
  rw [toJson_eq]
  cases job with
  | none =>
    cases settings with
    | none =>
      simp only [Option.map_none, Option.getD_none, List.nil_append]
      rw [readRecord_of_matches ?nodup ?fields]
      case nodup => decide
      case fields => exact .skip rfl (.skip rfl .nil)
      rfl
    | some s =>
      have hs := hs s rfl
      simp only [Option.map_none, Option.map_some, Option.getD_none, Option.getD_some, List.nil_append]
      rw [readRecord_of_matches ?nodup ?fields]
      case nodup => decide
      case fields => exact .skip rfl (.field (FieldRule.opt_check hs) .nil)
      simp only [Except.ok_bind, Record.optional, Record.field, List.lookup, beq_self_eq_true, String.reduceBEq, hs]
      rfl
  | some d =>
    have hd := hd d rfl
    cases settings with
    | none =>
      simp only [Option.map_none, Option.map_some, Option.getD_none, Option.getD_some, List.append_nil]
      rw [readRecord_of_matches ?nodup ?fields]
      case nodup => decide
      case fields => exact .field (FieldRule.opt_check hd) (.skip rfl .nil)
      simp only [Except.ok_bind, Record.optional, Record.field, List.lookup, beq_self_eq_true, String.reduceBEq, hd]
      rfl
    | some s =>
      have hs := hs s rfl
      simp only [Option.map_some, Option.getD_some, List.singleton_append]
      rw [readRecord_of_matches ?nodup ?fields]
      case nodup => decide
      case fields => exact .field (FieldRule.opt_check hd) (.field (FieldRule.opt_check hs) .nil)
      simp only [Except.ok_bind, Record.optional, Record.field, List.lookup, beq_self_eq_true, String.reduceBEq,
        hd, hs]
      rfl

end PollAnswer

namespace RunnerReport

theorem hints_decode (hs : List (String × String)) : Decoder.map Decoder.string (hintsToJson hs) = .ok hs := by
  exact @Decoder.Inverts.membersOf _ _ _ _ Decoder.inverts_string hs fun _ _ => trivial

theorem decode_toJson (r : RunnerReport) : decode r.toJson = .ok r := by
  have hextra : Decoder.option (Decoder.map Decoder.string) (Json.ofOption hintsToJson r.extra) = .ok r.extra :=
    Decoder.Inverts.option (fun hs _ => hints_decode hs) (fun _ _ => by simp [hintsToJson]) _ fun _ _ => trivial
  unfold decode toJson
  dsimp only
  rw [readRecord_of_matches ?nodup ?fields]
  case nodup => decide
  case fields =>
    exact .field (FieldRule.opt_check (Decoder.option_ofOption_str _)) <|
      .field (FieldRule.opt_check (Decoder.option_ofOption_str _)) <|
      .field (FieldRule.opt_check (Decoder.option_ofOption_str _)) <|
      .field (FieldRule.opt_check (Decoder.option_ofOption_str _)) <|
      .field (FieldRule.opt_check (Decoder.option_ofOption_str _)) <| .field (FieldRule.opt_check hextra) .nil
  simp only [Except.ok_bind, Record.optional, Record.field, List.lookup, beq_self_eq_true, String.reduceBEq,
    Decoder.option_ofOption_str, hextra]
  rfl

end RunnerReport

namespace Decoder

theorem inverts_jobKind : Inverts JobKind.decode JobKind.toJson fun _ => True :=
  fun k _ => JobKind.decode_toJson k

theorem inverts_uuid : Inverts Uuid.decode (fun u => .str u.toString) (·.value < 2 ^ 128) :=
  fun _ h => Uuid.decode_toString h

theorem inverts_timestamp : Inverts Timestamp.decode (fun t => .str t.toText) Timestamp.FourDigitYear :=
  fun _ h => Timestamp.decode_toText h

theorem inverts_traceEntry : Inverts TraceEntry.decode TraceEntry.toJson (FitsI64 ·.timestamp) :=
  fun _ h => TraceEntry.decode_toJson h

theorem inverts_report : Inverts RunnerReport.decode RunnerReport.toJson fun _ => True :=
  fun r _ => RunnerReport.decode_toJson r

theorem option_ofOption_i64 {o : Option Int} (h : ∀ n ∈ o, FitsI64 n) :
    option i64 (Json.ofOption .int o) = .ok o :=
  inverts_i64.option (fun _ _ => by simp) o h

theorem option_ofOption_jobKind (o : Option JobKind) :
    option JobKind.decode (Json.ofOption JobKind.toJson o) = .ok o :=
  inverts_jobKind.option (fun _ _ => by simp [JobKind.toJson]) o fun _ _ => trivial

theorem option_ofOption_uuid {o : Option Uuid} (h : ∀ u ∈ o, u.value < 2 ^ 128) :
    option Uuid.decode (Json.ofOption (fun u => .str u.toString) o) = .ok o :=
  inverts_uuid.option (fun _ _ => by simp) o h

theorem option_ofOption_timestamp {o : Option Timestamp} (h : ∀ t ∈ o, t.FourDigitYear) :
    option Timestamp.decode (Json.ofOption (fun t => .str t.toText) o) = .ok o :=
  inverts_timestamp.option (fun _ _ => by simp) o h

theorem option_ofOption_hints (o : Option (List (String × String))) :
    option (map string) (Json.ofOption RunnerReport.hintsToJson o) = .ok o :=
  Inverts.option (fun hs _ => RunnerReport.hints_decode hs)
    (fun _ _ => by simp [RunnerReport.hintsToJson]) o fun _ _ => trivial

theorem option_ofOption_report (o : Option RunnerReport) :
    option RunnerReport.decode (Json.ofOption RunnerReport.toJson o) = .ok o :=
  inverts_report.option (fun _ _ => by simp [RunnerReport.toJson]) o fun _ _ => trivial

theorem list_traceEntries {es : List TraceEntry} (h : ∀ e ∈ es, FitsI64 e.timestamp) :
    list TraceEntry.decode (.arr (es.map TraceEntry.toJson)) = .ok es :=
  inverts_traceEntry.list es h

end Decoder

namespace Job

-- A job as the wire holds it: 64-bit numbers, a 128-bit runner id, instants in the years 0 to
-- 9999, and free-form data that is not `null`.
def Representable (j : Job) : Prop :=
  FitsI64 j.id ∧ FitsI64 j.iid ∧ FitsI64 j.projectId ∧ FitsI64 j.entityId ∧
    (∀ u ∈ j.runnerId, u.value < 2 ^ 128) ∧ j.createdAt.FourDigitYear ∧
    (∀ t ∈ j.startedAt, t.FourDigitYear) ∧ (∀ t ∈ j.endedAt, t.FourDigitYear) ∧
    (∀ d ∈ j.duration, FitsI64 d) ∧ j.extra ≠ some .null

theorem decode_toJson {j : Job} (h : j.Representable) : decode j.toJson = .ok j := by
  obtain ⟨hid, hiid, hproject, hentity, hrunner, hcreated, hstarted, hended, hduration, hextra⟩ := h
  have hid := Decoder.inverts_i64 _ hid
  have hiid := Decoder.inverts_i64 _ hiid
  have hproject := Decoder.inverts_i64 _ hproject
  have hentity := Decoder.inverts_i64 _ hentity
  have hrunner := Decoder.option_ofOption_uuid hrunner
  have hcreated := Decoder.inverts_timestamp _ hcreated
  have hstarted := Decoder.option_ofOption_timestamp hstarted
  have hended := Decoder.option_ofOption_timestamp hended
  have hduration := Decoder.option_ofOption_i64 hduration
  have hextra := Decoder.inverts_option_any _ hextra
  unfold decode toJson
  rw [readRecord_of_matches ?nodup ?fields]
  case nodup => decide
  case fields =>
    exact .field (FieldRule.req_check hid) <| .field (FieldRule.req_check hiid) <|
      .field (FieldRule.req_check hproject) <| .field (FieldRule.req_check (JobKind.decode_toJson _)) <|
      .field (FieldRule.req_check hentity) <| .field (FieldRule.req_check (Decoder.string_str _)) <|
      .field (FieldRule.req_check (JobStatus.decode_toJson _)) <| .field (FieldRule.nullable_check hrunner) <|
      .field (FieldRule.req_check hcreated) <| .field (FieldRule.nullable_check hstarted) <|
      .field (FieldRule.nullable_check hended) <| .field (FieldRule.nullable_check hduration) <|
      .field (FieldRule.nullable_check hextra) .nil
  simp only [Except.ok_bind, Record.optional, Record.field, List.lookup, beq_self_eq_true,
    String.reduceBEq, hid, hiid, hproject, hentity, hrunner, hcreated, hstarted, hended, hduration,
    hextra, JobKind.decode_toJson, JobStatus.decode_toJson, Decoder.string_str]
  rfl

end Job

namespace JobRequest

-- A job request as the wire holds it: 64-bit ids and free-form data that is not `null`.
def Representable (r : JobRequest) : Prop :=
  FitsI64 r.projectId ∧ FitsI64 r.entityId ∧ r.extra ≠ some .null

theorem decode_toJson {r : JobRequest} (h : r.Representable) : decode r.toJson = .ok r := by
  have hproject := Decoder.inverts_i64 _ h.1
  have hentity := Decoder.inverts_i64 _ h.2.1
  have hextra := Decoder.inverts_option_any _ h.2.2
  unfold decode toJson
  rw [readRecord_of_matches ?nodup ?fields]
  case nodup => decide
  case fields =>
    exact .field (FieldRule.req_check (JobKind.decode_toJson _)) <|
      .field (FieldRule.req_check hproject) <| .field (FieldRule.req_check hentity) <|
      .field (FieldRule.opt_check (Decoder.option_ofOption_str _)) <|
      .field (FieldRule.opt_check hextra) .nil
  simp only [Except.ok_bind, Record.optional, Record.field, List.lookup, beq_self_eq_true,
    String.reduceBEq, hproject, hentity, hextra, JobKind.decode_toJson, Decoder.option_ofOption_str]
  rfl

end JobRequest

-- The body of a job request holds the report or `null`, and `null` reads as no report.
theorem decodePollInfo_pollInfoJson (info : Option RunnerReport) :
    decodePollInfo (pollInfoJson info) = .ok info := by
  have hinfo := Decoder.option_ofOption_report info
  unfold decodePollInfo pollInfoJson
  rw [readRecord_of_matches ?nodup ?fields]
  case nodup => decide
  case fields => exact .field (FieldRule.opt_check hinfo) .nil
  simp only [Except.ok_bind, Record.optional, Record.field, List.lookup, beq_self_eq_true, hinfo]

namespace PendingCount

def Representable (p : PendingCount) : Prop := FitsI64 p.count

theorem decode_toJson {p : PendingCount} (h : p.Representable) : decode p.toJson = .ok p := by
  have hcount := Decoder.inverts_i64 _ h
  unfold decode toJson
  rw [readRecord_of_matches ?nodup ?fields]
  case nodup => decide
  case fields =>
    exact .field (FieldRule.req_check (JobKind.decode_toJson _)) <| .field (FieldRule.req_check hcount) .nil
  simp only [Except.ok_bind, Record.field, List.lookup, beq_self_eq_true, String.reduceBEq,
    JobKind.decode_toJson, hcount]
  rfl

end PendingCount

namespace StoredArtifact

-- An artifact as the wire holds it: a size that fits in a machine word.
def Representable (a : StoredArtifact) : Prop := a.size < 2 ^ 64

theorem decode_toJson {a : StoredArtifact} (h : a.Representable) : decode a.toJson = .ok a := by
  have hsize : Decoder.usize (.int a.size) = .ok a.size := Decoder.inverts_usize _ h
  unfold decode toJson
  rw [readRecord_of_matches ?nodup ?fields]
  case nodup => decide
  case fields =>
    exact .field (FieldRule.req_check (Decoder.string_str _)) <| .field (FieldRule.req_check hsize) .nil
  simp only [Except.ok_bind, Record.field, List.lookup, beq_self_eq_true, String.reduceBEq,
    Decoder.string_str, hsize]
  rfl

end StoredArtifact

theorem UploadQuery.decode_toJson (q : UploadQuery) : UploadQuery.decode q.toJson = .ok q := by
  unfold UploadQuery.decode UploadQuery.toJson
  rw [readRecord_of_matches ?nodup ?fields]
  case nodup => decide
  case fields =>
    exact .field (FieldRule.req_check (Decoder.string_str _)) <|
      .field (FieldRule.req_check (Decoder.string_str _)) .nil
  simp only [Except.ok_bind, Record.field, List.lookup, beq_self_eq_true, String.reduceBEq,
    Decoder.string_str]
  rfl

theorem DownloadQuery.decode_toJson (q : DownloadQuery) : DownloadQuery.decode q.toJson = .ok q := by
  unfold DownloadQuery.decode DownloadQuery.toJson
  rw [readRecord_of_matches ?nodup ?fields]
  case nodup => decide
  case fields => exact .field (FieldRule.req_check (Decoder.string_str _)) .nil
  simp only [Except.ok_bind, Record.field, List.lookup, beq_self_eq_true, Decoder.string_str]
  rfl

namespace Usage

def Representable (u : Usage) : Prop := FitsI64 u.projectId ∧ FitsI64 u.jobCount ∧ FitsI64 u.jobDurationMs

theorem decode_toJson {u : Usage} (h : u.Representable) : decode u.toJson = .ok u := by
  have hproject := Decoder.inverts_i64 _ h.1
  have hcount := Decoder.inverts_i64 _ h.2.1
  have hduration := Decoder.inverts_i64 _ h.2.2
  unfold decode toJson
  rw [readRecord_of_matches ?nodup ?fields]
  case nodup => decide
  case fields =>
    exact .field (FieldRule.req_check hproject) <| .field (FieldRule.req_check hcount) <|
      .field (FieldRule.req_check hduration) .nil
  simp only [Except.ok_bind, Record.field, List.lookup, beq_self_eq_true, String.reduceBEq,
    hproject, hcount, hduration]
  rfl

end Usage

theorem Registration.decode_toJson (r : Registration) : Registration.decode r.toJson = .ok r := by
  have hinfo := RunnerReport.decode_toJson r.info
  unfold Registration.decode Registration.toJson
  rw [readRecord_of_matches ?nodup ?fields]
  case nodup => decide
  case fields =>
    exact .field (FieldRule.req_check (Decoder.string_str _)) <|
      .field (FieldRule.req_check (Decoder.string_str _)) <| .field (FieldRule.dflt_check hinfo) .nil
  simp only [Except.ok_bind, Record.field, List.lookup, beq_self_eq_true, String.reduceBEq,
    Decoder.string_str, hinfo]
  rfl

namespace Credentials

def Representable (c : Credentials) : Prop := c.settings.Representable

theorem decode_toJson {c : Credentials} (h : c.Representable) : decode c.toJson = .ok c := by
  have hset := RunnerSettings.decode_toJson h
  unfold decode toJson
  rw [readRecord_of_matches ?nodup ?fields]
  case nodup => decide
  case fields =>
    exact .field (FieldRule.req_check (Decoder.string_str _)) <| .field (FieldRule.req_check hset) .nil
  simp only [Except.ok_bind, Record.field, List.lookup, beq_self_eq_true, String.reduceBEq,
    Decoder.string_str, hset]
  rfl

end Credentials

-- Fields left unchanged are written as `null`, which reads back as unchanged.
theorem RunnerUpdate.decode_toJson (u : RunnerUpdate) : RunnerUpdate.decode u.toJson = .ok u := by
  unfold RunnerUpdate.decode RunnerUpdate.toJson
  rw [readRecord_of_matches ?nodup ?fields]
  case nodup => decide
  case fields =>
    exact .field (FieldRule.opt_check (Decoder.option_ofOption_bool _)) <|
      .field (FieldRule.opt_check (Decoder.option_ofOption_jobKind _)) <|
      .field (FieldRule.opt_check (Decoder.option_ofOption_str _)) .nil
  simp only [Except.ok_bind, Record.optional, Record.field, List.lookup, beq_self_eq_true,
    String.reduceBEq, Decoder.option_ofOption_bool, Decoder.option_ofOption_jobKind,
    Decoder.option_ofOption_str]
  rfl

theorem RunnerQuery.decode_toJson (q : RunnerQuery) : RunnerQuery.decode q.toJson = .ok q := by
  unfold RunnerQuery.decode RunnerQuery.toJson
  rw [readRecord_of_matches ?nodup ?fields]
  case nodup => decide
  case fields =>
    exact .field (FieldRule.opt_check (Decoder.option_ofOption_jobKind _)) <|
      .field (FieldRule.opt_check (Decoder.option_ofOption_bool _)) <|
      .field (FieldRule.opt_check (Decoder.option_ofOption_str _)) <|
      .field (FieldRule.opt_check (Decoder.option_ofOption_bool _)) .nil
  simp only [Except.ok_bind, Record.optional, Record.field, List.lookup, beq_self_eq_true,
    String.reduceBEq, Decoder.option_ofOption_bool, Decoder.option_ofOption_jobKind,
    Decoder.option_ofOption_str]
  rfl

namespace RunnerSummary

-- A listed runner as the wire holds it: a 128-bit id, an instant in the years 0 to 9999 and a
-- count that fits in a machine word.
def Representable (s : RunnerSummary) : Prop :=
  s.id.value < 2 ^ 128 ∧ s.contactedAt.FourDigitYear ∧ s.runningJobs < 2 ^ 64

theorem decode_toJson {s : RunnerSummary} (h : s.Representable) : decode s.toJson = .ok s := by
  have hid := Decoder.inverts_uuid _ h.1
  have hcontacted := Decoder.inverts_timestamp _ h.2.1
  have hrunning : Decoder.usize (.int s.runningJobs) = .ok s.runningJobs := Decoder.inverts_usize _ h.2.2
  unfold decode toJson
  rw [readRecord_of_matches ?nodup ?fields]
  case nodup => decide
  case fields =>
    exact .field (FieldRule.req_check hid) <| .field (FieldRule.req_check (Decoder.string_str _)) <|
      .field (FieldRule.req_check (JobKind.decode_toJson _)) <|
      .field (FieldRule.req_check (Decoder.string_str _)) <|
      .field (FieldRule.req_check (Decoder.bool_bool _)) <| .field (FieldRule.req_check hcontacted) <|
      .field (FieldRule.req_check hrunning) .nil
  simp only [Except.ok_bind, Record.field, List.lookup, beq_self_eq_true, String.reduceBEq,
    hid, hcontacted, hrunning, Decoder.string_str, Decoder.bool_bool, JobKind.decode_toJson]
  rfl

end RunnerSummary

namespace TraceReport

-- A trace report as the wire holds it: 64-bit numbers and free-form updates that are not
-- `null`.
def Representable (r : TraceReport) : Prop :=
  FitsI64 r.jobId ∧ (∀ e ∈ r.trace, FitsI64 e.timestamp) ∧ (∀ d ∈ r.duration, FitsI64 d) ∧
    r.updates ≠ some .null

theorem decode_toJson {r : TraceReport} (h : r.Representable) : decode r.toJson = .ok r := by
  obtain ⟨hjob, htrace, hduration, hupdates⟩ := h
  have hjob := Decoder.inverts_i64 _ hjob
  have htrace := Decoder.list_traceEntries htrace
  have hduration := Decoder.option_ofOption_i64 hduration
  have hupdates := Decoder.inverts_option_any _ hupdates
  unfold decode toJson
  dsimp only
  rw [readRecord_of_matches ?nodup ?fields]
  case nodup => decide
  case fields =>
    exact .field (FieldRule.req_check hjob) <| .field (FieldRule.dflt_check htrace) <|
      .field (FieldRule.dflt_check (Decoder.bool_bool _)) <| .field (FieldRule.opt_check hduration) <|
      .field (FieldRule.opt_check (Decoder.option_ofOption_str _)) <|
      .field (FieldRule.opt_check hupdates) .nil
  simp only [Except.ok_bind, Record.optional, Record.field, List.lookup, beq_self_eq_true,
    String.reduceBEq, hjob, htrace, hduration, hupdates, Decoder.bool_bool,
    Decoder.option_ofOption_str]
  rfl

end TraceReport

theorem TraceAck.decode_toJson (a : TraceAck) : TraceAck.decode a.toJson = .ok a := by
  unfold TraceAck.decode TraceAck.toJson
  rw [readRecord_of_matches ?nodup ?fields]
  case nodup => decide
  case fields => exact .field (FieldRule.req_check (Decoder.bool_bool _)) .nil
  simp only [Except.ok_bind, Record.field, List.lookup, beq_self_eq_true, Decoder.bool_bool]
  rfl

namespace TraceQuery

def Representable (q : TraceQuery) : Prop := ∀ n ∈ q.after, FitsI64 n

theorem decode_toJson {q : TraceQuery} (h : q.Representable) : decode q.toJson = .ok q := by
  have hafter := Decoder.option_ofOption_i64 h
  unfold decode toJson
  rw [readRecord_of_matches ?nodup ?fields]
  case nodup => decide
  case fields => exact .field (FieldRule.opt_check hafter) .nil
  simp only [Except.ok_bind, Record.optional, Record.field, List.lookup, beq_self_eq_true, hafter]
  rfl

end TraceQuery

namespace TracePage

def Representable (p : TracePage) : Prop := (∀ e ∈ p.entries, FitsI64 e.timestamp) ∧ FitsI64 p.endCursor

theorem decode_toJson {p : TracePage} (h : p.Representable) : decode p.toJson = .ok p := by
  have hentries := Decoder.list_traceEntries h.1
  have hcursor := Decoder.inverts_i64 _ h.2
  unfold decode toJson
  dsimp only
  rw [readRecord_of_matches ?nodup ?fields]
  case nodup => decide
  case fields =>
    exact .field (FieldRule.req_check hentries) <| .field (FieldRule.req_check hcursor) <|
      .field (FieldRule.req_check (Decoder.bool_bool _)) .nil
  simp only [Except.ok_bind, Record.field, List.lookup, beq_self_eq_true, String.reduceBEq,
    hentries, hcursor, Decoder.bool_bool]
  rfl

end TracePage

namespace Runner

-- A runner as the wire holds it: a 128-bit id and instants in the years 0 to 9999.
def Representable (r : Runner) : Prop :=
  r.id.value < 2 ^ 128 ∧ r.contactedAt.FourDigitYear ∧ r.createdAt.FourDigitYear

-- The token is not written, and the reader takes an absent token as empty.
theorem decode_toJson {r : Runner} (h : r.Representable) :
    decode r.toJson = .ok { r with token := "" } := by
  have hid := Decoder.inverts_uuid _ h.1
  have hcontacted := Decoder.inverts_timestamp _ h.2.1
  have hcreated := Decoder.inverts_timestamp _ h.2.2
  unfold decode toJson
  dsimp only
  rw [readRecord_of_matches ?nodup ?fields]
  case nodup => decide
  case fields =>
    exact .field (FieldRule.req_check hid) <| .field (FieldRule.req_check (Decoder.string_str _)) <|
      .skip rfl <| .field (FieldRule.req_check (JobKind.decode_toJson _)) <|
      .field (FieldRule.req_check (Decoder.string_str _)) <|
      .field (FieldRule.req_check (Decoder.bool_bool _)) <| .field (FieldRule.req_check hcontacted) <|
      .field (FieldRule.req_check hcreated) <|
      .field (FieldRule.nullable_check (Decoder.option_ofOption_str _)) <|
      .field (FieldRule.nullable_check (Decoder.option_ofOption_str _)) <|
      .field (FieldRule.nullable_check (Decoder.option_ofOption_str _)) <|
      .field (FieldRule.nullable_check (Decoder.option_ofOption_hints _)) .nil
  simp only [Except.ok_bind, Record.optional, Record.field, List.lookup, beq_self_eq_true,
    String.reduceBEq, hid, hcontacted, hcreated, Decoder.string_str, Decoder.bool_bool,
    JobKind.decode_toJson, Decoder.option_ofOption_str, Decoder.option_ofOption_hints]
  rfl

end Runner

-- Every body the service and its client exchange reads back as what was written, for every
-- value the wire types hold; a runner reads back with an empty token.
theorem bodies_read_back :
    Decoder.Inverts Job.decode Job.toJson Job.Representable ∧
    Decoder.Inverts JobRequest.decode JobRequest.toJson JobRequest.Representable ∧
    Decoder.Inverts decodePollInfo pollInfoJson (fun _ => True) ∧
    Decoder.Inverts PollAnswer.decode PollAnswer.toJson PollAnswer.Representable ∧
    Decoder.Inverts DispatchedJob.decode DispatchedJob.toJson DispatchedJob.Representable ∧
    Decoder.Inverts PendingCount.decode PendingCount.toJson PendingCount.Representable ∧
    Decoder.Inverts StoredArtifact.decode StoredArtifact.toJson StoredArtifact.Representable ∧
    Decoder.Inverts UploadQuery.decode UploadQuery.toJson (fun _ => True) ∧
    Decoder.Inverts DownloadQuery.decode DownloadQuery.toJson (fun _ => True) ∧
    Decoder.Inverts Usage.decode Usage.toJson Usage.Representable ∧
    Decoder.Inverts Registration.decode Registration.toJson (fun _ => True) ∧
    Decoder.Inverts Credentials.decode Credentials.toJson Credentials.Representable ∧
    Decoder.Inverts RunnerSettings.decode RunnerSettings.toJson RunnerSettings.Representable ∧
    Decoder.Inverts RunnerUpdate.decode RunnerUpdate.toJson (fun _ => True) ∧
    Decoder.Inverts RunnerQuery.decode RunnerQuery.toJson (fun _ => True) ∧
    Decoder.Inverts RunnerSummary.decode RunnerSummary.toJson RunnerSummary.Representable ∧
    Decoder.Inverts RunnerReport.decode RunnerReport.toJson (fun _ => True) ∧
    Decoder.Inverts TraceReport.decode TraceReport.toJson TraceReport.Representable ∧
    Decoder.Inverts TraceAck.decode TraceAck.toJson (fun _ => True) ∧
    Decoder.Inverts TraceQuery.decode TraceQuery.toJson TraceQuery.Representable ∧
    Decoder.Inverts TracePage.decode TracePage.toJson TracePage.Representable ∧
    ∀ r : Runner, r.Representable → Runner.decode r.toJson = .ok { r with token := "" } :=
  ⟨fun _ h => Job.decode_toJson h, fun _ h => JobRequest.decode_toJson h,
    fun info _ => decodePollInfo_pollInfoJson info, fun _ h => PollAnswer.decode_toJson h,
    fun _ h => DispatchedJob.decode_toJson h, fun _ h => PendingCount.decode_toJson h,
    fun _ h => StoredArtifact.decode_toJson h, fun q _ => UploadQuery.decode_toJson q,
    fun q _ => DownloadQuery.decode_toJson q, fun _ h => Usage.decode_toJson h,
    fun r _ => Registration.decode_toJson r, fun _ h => Credentials.decode_toJson h,
    fun _ h => RunnerSettings.decode_toJson h, fun u _ => RunnerUpdate.decode_toJson u,
    fun q _ => RunnerQuery.decode_toJson q, fun _ h => RunnerSummary.decode_toJson h,
    Decoder.inverts_report, fun _ h => TraceReport.decode_toJson h,
    fun a _ => TraceAck.decode_toJson a, fun _ h => TraceQuery.decode_toJson h,
    fun _ h => TracePage.decode_toJson h, fun _ h => Runner.decode_toJson h⟩

-- A job a runner has finished: every optional field is set.
def finishedJob : Job :=
  { id := 7, iid := 3, projectId := 1, kind := .labPing, entityId := 42, zone := "eu",
    status := .done, runnerId := some ⟨5⟩, createdAt := ⟨1700000000000000000⟩,
    startedAt := some ⟨1700000001000000000⟩, endedAt := some ⟨1700000002500000000⟩,
    duration := some 1500, extra := some (.obj [("attempt", .int 1)]) }

theorem finished_job_reads_back : Job.decode finishedJob.toJson = .ok finishedJob :=
  bodies_read_back.1 finishedJob
    ⟨by decide, by decide, by decide, by decide, by decide, by decide, by decide, by decide,
      by decide, by simp [finishedJob]⟩

end JobDispatch
