import JobDispatch.Proofs.Orchestrator.Exec

namespace JobDispatch

namespace Orchestrator

variable {R : Orchestrator → Orchestrator → Prop} (hR : Moves R)
include hR

theorem now_safe : Within R now := Within.modifyGet hR fun _ => ⟨rfl, rfl⟩

theorem record_safe (f : Metrics → Metrics) : Within R (record f) :=
  Within.modify hR fun _ => ⟨rfl, rfl⟩

theorem publish_safe (e : JobEvent) : Within R (publish e) := Within.modify hR fun _ => ⟨rfl, rfl⟩

theorem tryLease_safe (key : String) : Within R (tryLease key) :=
  Within.modifyGet hR fun _ => ⟨rfl, rfl⟩

theorem enterGate_safe : Within R enterGate := Within.modifyGet hR fun _ => ⟨rfl, rfl⟩

theorem getJob_safe (id : Int) : Within R (getJob id) := by
  unfold getJob
  refine Within.bind hR.chain (Within.read hR) fun x => ?_
  split
  · exact Within.pure hR.chain _
  · exact Within.throw hR.chain _

theorem readTrace_safe (key : String) : Within R (readTrace key) := by
  unfold readTrace
  refine Within.bind hR.chain (Within.get hR.chain) fun o => ?_
  split
  · exact Within.throw hR.chain _
  · exact Within.throw hR.chain _
  · split
    · exact Within.pure hR.chain _
    · exact Within.throw hR.chain _

theorem upload_safe (key : String) (data : List UInt8) : Within R (upload key data) := by
  unfold upload
  refine Within.bind hR.chain (Within.get hR.chain) fun o =>
    Within.bind hR.chain (Within.modify hR fun _ => ⟨rfl, rfl⟩) fun _ => ?_
  split
  · exact Within.throw hR.chain _
  · exact Within.pure hR.chain _

theorem appendTrace_safe (j : Job) (chunk : List TraceEntry) : Within R (appendTrace j chunk) := by
  unfold appendTrace
  split
  · exact Within.pure hR.chain _
  · exact Within.bind hR.chain (Within.tryCatch hR.chain (readTrace_safe hR _) fun _ => Within.pure hR.chain _) fun _ =>
      Within.bind hR.chain (upload_safe hR _ _) fun _ => Within.pure hR.chain _

-- Sealing a job stays within `R` when the status it is sealed with is a sealed one.
theorem jobDone_safe (j : Job) {status : JobStatus} (d : Int) (errored : Bool)
    (logs : List TraceEntry) (hs : status.sealed = true) :
    Within R (jobDone j status d errored logs) := by
  unfold jobDone
  refine Within.bind hR.chain (now_safe hR) fun t => ?_
  refine Within.bind hR.chain (Within.callOp hR (.complete j.id ⟨status, d, t⟩) hs fun _ => rfl) fun x => ?_
  split
  · exact Within.bind hR.chain (Within.callOp hR (.recordUsage _ 0 d) trivial fun _ => rfl) fun _ =>
      Within.bind hR.chain (Within.logged hR.chain (Within.bind hR.chain (appendTrace_safe hR _ _) fun _ =>
        Within.pure hR.chain _)) fun _ => Within.bind hR.chain (record_safe hR _) fun _ => Within.pure hR.chain _
  · exact Within.pure hR.chain _

theorem payloadFailed_safe (j : Job) (err : String) : Within R (payloadFailed j err) := by
  unfold payloadFailed
  exact Within.bind hR.chain (now_safe hR) fun _ =>
    Within.bind hR.chain (Within.logged hR.chain (Within.bind hR.chain (jobDone_safe hR _ _ _ _ rfl) fun _ =>
      Within.pure hR.chain _)) fun _ => publish_safe hR _

-- Claiming candidates takes leases, assigns and seals jobs whose payload fails: store calls
-- and frames only.
theorem claimEach_safe (r : Runner) : ∀ cs : List Job, Within R (claimEach r cs)
  | [] => Within.pure hR.chain _
  | c :: rest => by
    rw [claimEach]
    dsimp only
    refine Within.bind hR.chain (tryLease_safe hR _) fun lease => ?_
    split
    · refine Within.bind hR.chain (now_safe hR) fun t => ?_
      refine Within.bind hR.chain (Within.callOp hR (.assign c.id r.id t) trivial fun _ => rfl) fun x => ?_
      split
      · exact claimEach_safe r rest
      · -- after the assignment: the payload, or the seal of a job whose payload fails
        split
        · refine Within.bind hR.chain (record_safe hR _) fun _ => Within.bind hR.chain (Within.get hR.chain) fun o => ?_
          split
          · exact Within.pure hR.chain _
          · exact Within.bind hR.chain (payloadFailed_safe hR _ _) fun _ => claimEach_safe r rest
        · refine Within.bind hR.chain (Within.get hR.chain) fun o => ?_
          split
          · exact Within.pure hR.chain _
          · exact Within.bind hR.chain (payloadFailed_safe hR _ _) fun _ => claimEach_safe r rest
    · exact claimEach_safe r rest

theorem authenticate_safe (token : String) (info : Option RunnerReport) :
    Within R (authenticate token info) := by
  unfold authenticate
  dsimp only
  split
  · exact Within.throw_bind hR.chain _ _
  · refine Within.bind hR.chain (Within.read hR) fun x => ?_
    split
    · split
      · exact Within.pure hR.chain _
      · exact Within.bind hR.chain (now_safe hR) fun _ =>
          Within.bind hR.chain (Within.callOp hR (.saveRunner _) trivial fun _ => rfl) fun _ =>
            Within.pure hR.chain _
    · exact Within.throw hR.chain _

theorem updateTrace_safe (token : String) (p : TraceReport) : Within R (updateTrace token p) := by
  unfold updateTrace
  dsimp only
  refine Within.bind hR.chain (authenticate_safe hR _ _) fun runner => ?_
  refine Within.bind hR.chain (getJob_safe hR _) fun job => ?_
  split
  · exact Within.throw_bind hR.chain _ _
  split
  · exact Within.pure hR.chain _
  refine Within.bind hR.chain (Within.logged hR.chain (Within.bind hR.chain (appendTrace_safe hR _ _) fun _ =>
    Within.pure hR.chain _)) fun _ => ?_
  -- the seal, with `failed` or `done`, comes before the events in both branches
  split
  · split <;>
    · refine Within.bind hR.chain (jobDone_safe hR _ _ _ _ rfl) fun _ => ?_
      repeat (first | exact Within.pure hR.chain _ | refine Within.bind hR.chain (publish_safe hR _) fun _ => ?_ | split)
  · repeat (first | exact Within.pure hR.chain _ | refine Within.bind hR.chain (publish_safe hR _) fun _ => ?_ | split)

theorem uploadArtifact_safe (token jobId key : String) (data : List UInt8) :
    Within R (uploadArtifact token jobId key data) := by
  unfold uploadArtifact
  dsimp only
  split
  · refine Within.bind hR.chain (authenticate_safe hR _ _) fun runner => ?_
    refine Within.bind hR.chain (getJob_safe hR _) fun job => ?_
    split
    · exact Within.throw_bind hR.chain _ _
    refine Within.bind hR.chain (Within.get hR.chain) fun o => ?_
    -- the three answers of the blob store, each after the blob store is written back
    split <;> refine Within.bind hR.chain (Within.modify hR fun _ => ⟨rfl, rfl⟩) fun _ => ?_
    · exact Within.bind hR.chain (publish_safe hR _) fun _ => Within.pure hR.chain _
    · exact Within.throw_bind hR.chain _ _
    · exact Within.throw_bind hR.chain _ _
  · exact Within.throw hR.chain _

theorem createJob_safe (req : JobRequest) : Within R (createJob req) := by
  unfold createJob
  dsimp only
  split
  · exact Within.throw_bind hR.chain _ _
  · exact Within.bind hR.chain (Within.get hR.chain) fun _ => Within.bind hR.chain (now_safe hR) fun _ =>
      Within.callOp hR (.create _ _) trivial fun _ => rfl

theorem createJobs_safe (reqs : List JobRequest) : Within R (createJobs reqs) := by
  unfold createJobs
  have create : ∀ r, Within R (tryCatch (some <$> createJob r) fun _ => pure none) :=
    fun r => Within.tryCatch hR.chain (Within.map _ (createJob_safe hR r)) fun _ => Within.pure hR.chain _
  refine Within.bind hR.chain (Within.filterMapM hR.chain create _) fun jobs => ?_
  refine Within.bind hR.chain (Within.forIn hR.chain (fun _ _ => Within.bind hR.chain (record_safe hR _) fun _ =>
    Within.pure hR.chain _) _ _) fun _ => ?_
  refine Within.bind hR.chain (Within.forIn hR.chain (fun x _ => ?_) _ _) fun _ => Within.pure hR.chain _
  obtain ⟨p, n⟩ := x
  exact Within.bind hR.chain (Within.tryCallOp hR (.recordUsage _ _ _) trivial fun _ => rfl) fun _ =>
    Within.pure hR.chain _

theorem cancelJob_safe (id : Int) : Within R (cancelJob id) := by
  unfold cancelJob
  exact Within.bind hR.chain (getJob_safe hR _) fun _ => Within.bind hR.chain (now_safe hR) fun t =>
    Within.bind hR.chain (Within.callOp hR (.cancel id t) trivial fun _ => rfl) fun _ => Within.pure hR.chain _

-- The reaper seals with `done`, a sealed status, so its completions are service steps.
theorem reapEach_safe (now : Timestamp) : ∀ stale : List Job, Within R (reapEach now stale)
  | [] => Within.pure hR.chain _
  | j :: rest => by
    rw [reapEach]
    refine Within.bind hR.chain (Within.tryCallOp hR (.complete j.id ⟨.done, _, now⟩) rfl fun _ => rfl)
      fun sealed => ?_
    split
    · exact reapEach_safe now rest
    · exact Within.bind hR.chain (record_safe hR _) fun _ => Within.bind hR.chain (publish_safe hR _) fun _ =>
        Within.bind hR.chain (reapEach_safe now rest) fun _ => Within.pure hR.chain _

theorem sweep_safe : Within R sweep := by
  unfold sweep
  refine Within.bind hR.chain (now_safe hR) fun t => Within.bind hR.chain (Within.get hR.chain) fun o => ?_
  split
  · refine Within.bind hR.chain (Within.tryCall hR fun _ => .inl rfl) fun stale => ?_
    split
    · refine Within.bind hR.chain (reapEach_safe hR _ _) fun reaped => ?_
      refine Within.bind hR.chain (Within.forIn hR.chain (fun x _ => ?_) _ _) fun _ =>
        Within.bind hR.chain (Within.modifyGet hR fun _ => ⟨rfl, rfl⟩) fun _ => Within.pure hR.chain _
      obtain ⟨p, d⟩ := x
      exact Within.bind hR.chain (Within.tryCallOp hR (.recordUsage _ _ _) trivial fun _ => rfl) fun _ =>
        Within.pure hR.chain _
    · exact Within.pure hR.chain _
  · exact Within.pure hR.chain _

end Orchestrator

end JobDispatch
