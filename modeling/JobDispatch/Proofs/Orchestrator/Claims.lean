import JobDispatch.Proofs.Orchestrator.Services

namespace JobDispatch

namespace Orchestrator

-- `m` changes the store by calls of the services, and every job id that `job` reads off its
-- answer is one that `known` allows or one that the run claimed for the runner `rid`.
def Claims {β : Type} (rid : Uuid) (known : Int → Prop) (job : β → Option Int) (m : Op β) : Prop :=
  ∀ o, ∃ ops, StoreRun (fun _ op => op.ByService) o.store.data ops (exec m o).2.store.data ∧
    ∀ b i, (exec m o).1 = .ok b → job b = some i → known i ∨ (i, rid) ∈ claims o.store.data ops

namespace Claims

variable {α β : Type} {rid : Uuid} {known : Int → Prop} {job : β → Option Int}

theorem mono {known' : Int → Prop} {m : Op β} (h : Claims rid known job m)
    (hk : ∀ i, known i → known' i) : Claims rid known' job m := by
  intro o
  obtain ⟨ops, hr, hc⟩ := h o
  exact ⟨ops, hr, fun b i hb hi => (hc b i hb hi).imp (hk i) id⟩

theorem pure (b : β) (h : ∀ i, job b = some i → known i) : Claims rid known job (Pure.pure b) := by
  intro o
  refine ⟨[], .nil _, fun b' i hb hi => .inl (h i ?_)⟩
  simp only [exec_pure, Except.ok.injEq] at hb
  rwa [hb]

-- The answer of the second call is read in the light of the first: the ids the first one
-- answered are known to the second.
theorem bind {m : Op α} {f : α → Op β} {job₁ : α → Option Int} (hm : Claims rid known job₁ m)
    (hf : ∀ a, Claims rid (fun i => known i ∨ job₁ a = some i) job (f a)) :
    Claims rid known job (m >>= f) := by
  intro o
  obtain ⟨ops₁, h₁, hc₁⟩ := hm o
  rw [exec_bind]
  rcases hx : exec m o with ⟨_ | a, o₁⟩
  · rw [hx] at h₁
    exact ⟨ops₁, h₁, by simp⟩
  · rw [hx] at h₁ hc₁
    obtain ⟨ops₂, h₂, hc₂⟩ := hf a o₁
    refine ⟨ops₁ ++ ops₂, h₁.append h₂, fun b i hb hi => ?_⟩
    rw [h₁.claims_append]
    rcases hc₂ b i hb hi with (hk | hj) | hc
    · exact .inl hk
    · rcases hc₁ a i rfl hj with hk | hc
      · exact .inl hk
      · exact .inr (List.mem_append_left _ hc)
    · exact .inr (List.mem_append_right _ hc)

theorem safe_bind {m : Op α} {f : α → Op β} (hm : StoreSafe m) (hf : ∀ a, Claims rid known job (f a)) :
    Claims rid known job (m >>= f) := by
  have hm' : Claims rid known (fun _ : α => none) m := by
    intro o
    obtain ⟨ops, hr⟩ := hm o
    exact ⟨ops, hr, fun _ _ _ hi => nomatch hi⟩
  exact bind hm' fun a => (hf a).mono fun _ => .inl

theorem tryCatch {m : Op β} {h : DispatchError → Op β} (hm : Claims rid known job m)
    (hh : ∀ e, Claims rid known job (h e)) : Claims rid known job (tryCatch m h) := by
  intro o
  obtain ⟨ops₁, h₁, hc₁⟩ := hm o
  rw [exec_tryCatch]
  rcases hx : exec m o with ⟨e | b, o₁⟩
  · rw [hx] at h₁
    obtain ⟨ops₂, h₂, hc₂⟩ := hh e o₁
    refine ⟨ops₁ ++ ops₂, h₁.append h₂, fun b i hb hi => ?_⟩
    rw [h₁.claims_append]
    exact (hc₂ b i hb hi).imp id (List.mem_append_right _)
  · rw [hx] at h₁ hc₁
    exact ⟨ops₁, h₁, hc₁⟩

theorem map {job₁ : α → Option Int} {m : Op α} (f : α → β) (hm : Claims rid known job₁ m)
    (hf : ∀ a, job (f a) = job₁ a) : Claims rid known job (f <$> m) := by
  intro o
  obtain ⟨ops, hr, hc⟩ := hm o
  rw [exec_map]
  rcases hx : exec m o with ⟨_ | a, o₁⟩
  · rw [hx] at hr
    exact ⟨ops, hr, by simp⟩
  · rw [hx] at hr hc
    refine ⟨ops, hr, fun b i hb hi => ?_⟩
    simp only [Except.ok.injEq] at hb
    subst hb
    exact hc a i rfl (by rwa [← hf])

-- An assignment answers a job only when it found it pending and made it running for `rid`:
-- that call is a claim of the run.
theorem assign (id : Int) (t : Timestamp) :
    Claims rid known (Option.map Job.id) (call .assignRunner (·.assignRunner id rid t) (some none)) := by
  intro o
  rw [exec_call]
  rcases Store.run_cases o.store .assignRunner (·.assignRunner id rid t) (some none) with
    h | ⟨e, h⟩ | ⟨a, ha, h⟩
  · rw [h]
    refine ⟨[.assign id rid t], .single trivial, fun b i hb hi => .inr ?_⟩
    simp only [Except.ok.injEq] at hb
    subst hb
    obtain ⟨j, hj, rfl⟩ := Option.map_eq_some_iff.mp hi
    rw [JobStore.id_of_assignRunner hj]
    simp [claims, StoreOp.claim?, hj]
  · rw [h]
    exact ⟨[], .nil _, by simp⟩
  · rw [h]
    cases ha
    refine ⟨[], .nil _, fun b i hb hi => ?_⟩
    simp only [Except.ok.injEq] at hb
    subst hb
    cases hi

theorem throw_bind (e : DispatchError) (f : α → Op β) :
    Claims rid known job ((MonadExcept.throw e : Op α) >>= f) :=
  fun _ => ⟨[], .nil _, by simp⟩

end Claims

-- An authenticated runner is the stored runner its token names, with its report merged.
theorem authenticate_found {token : String} {info : Option RunnerReport} {o : Orchestrator}
    {R : Runner} (h : (exec (authenticate token info) o).1 = .ok R) :
    ∃ R₀, o.store.data.findRunnerByToken token = some R₀ ∧ R₀.id = R.id := by
  unfold authenticate at h
  dsimp only at h
  split at h
  · simp at h
  rw [exec_bind, read, exec_call] at h
  rcases Store.run_cases o.store .findRunnerByToken (fun s => (s.findRunnerByToken token, s))
    (some none) with hr | ⟨e, hr⟩ | ⟨a, ha, hr⟩ <;> rw [hr] at h
  · dsimp only at h
    cases hf : o.store.data.findRunnerByToken token with
    | none => simp [hf] at h
    | some R₀ =>
      refine ⟨R₀, rfl, ?_⟩
      rw [hf] at h
      dsimp only at h
      split at h
      · simp only [exec_pure, Except.ok.injEq] at h
        rw [h]
      · simp only [exec_bind, now, exec_modifyGet, exec_call] at h
        split at h <;> simp at h
        rw [← h]
        cases info <;> rfl
  · simp at h
  · cases ha
    simp at h


-- The scan's filter reads a watermark, which leaves the store alone.
theorem eligibleFilter_safe (r : Runner) : StoreSafe (eligibleFilter r) := by
  unfold eligibleFilter watermark
  refine Within.bind storeMoves.chain (Within.get storeMoves.chain) fun o => ?_
  dsimp only
  by_cases hz : r.zone = unknownZone
  · rw [if_pos hz]
    exact Within.pure storeMoves.chain _
  · rw [if_neg hz]
    exact Within.bind storeMoves.chain (StoreSafe.of_data fun _ => rfl) fun _ => Within.pure storeMoves.chain _

section Dispatch

variable (r : Runner) (known : Int → Prop)

-- The scan tries the candidates in order; a job is answered only right after its own
-- assignment, and a job whose payload fails is sealed and passed over.
theorem claimEach_claims :
    ∀ cs, Claims r.id known (Option.map DispatchedJob.jobId) (claimEach r cs)
  | [] => Claims.pure _ (by simp)
  | c :: rest => by
    rw [claimEach]
    dsimp only
    refine Claims.safe_bind (tryLease_safe storeMoves _) fun lease => ?_
    split
    · refine Claims.safe_bind (now_safe storeMoves) fun t => Claims.bind (Claims.assign _ _) fun x => ?_
      split
      · exact (claimEach_claims rest).mono fun _ => .inl
      · rename_i j
        have answer : ∀ (o : Orchestrator) p,
            Claims r.id (fun i => known i ∨ Option.map Job.id (some j) = some i)
              (Option.map DispatchedJob.jobId)
              (Pure.pure (some ⟨j.id, j.kind, o.config.executionTimeoutMs / 1000, p⟩)) :=
          fun _ _ => Claims.pure _ fun i h => .inr (by simpa using h)
        split
        · refine Claims.safe_bind (record_safe storeMoves _) fun _ => Claims.safe_bind (Within.get storeMoves.chain) fun o => ?_
          split
          · exact answer o _
          · exact Claims.safe_bind (payloadFailed_safe storeMoves _ _) fun _ => (claimEach_claims rest).mono fun _ => .inl
        · refine Claims.safe_bind (Within.get storeMoves.chain) fun o => ?_
          split
          · exact answer o _
          · exact Claims.safe_bind (payloadFailed_safe storeMoves _ _) fun _ => (claimEach_claims rest).mono fun _ => .inl
    · exact claimEach_claims rest

theorem claimFirst_claims (f : JobFilter) :
    Claims r.id known (Option.map DispatchedJob.jobId) (claimFirst r f) := by
  unfold claimFirst
  refine Claims.safe_bind (Within.read storeMoves) fun candidates => ?_
  split
  · split
    · exact Claims.safe_bind (StoreSafe.of_data fun _ => rfl) fun _ => claimEach_claims r known _
    · exact claimEach_claims r known _
  · exact claimEach_claims r known _

theorem nextJob_claims : Claims r.id known (Option.map DispatchedJob.jobId) (nextJob r) := by
  unfold nextJob
  refine Claims.safe_bind (eligibleFilter_safe r) fun f => ?_
  refine Claims.bind (claimFirst_claims r known f) fun x => ?_
  split
  · exact Claims.pure _ fun i h => .inr h
  · split
    · exact Claims.pure _ (by simp)
    · split
      · exact Claims.safe_bind (StoreSafe.of_data fun _ => rfl) fun _ => claimFirst_claims r _ _
      · exact claimFirst_claims r _ _

end Dispatch

-- What a poll hands out, it claimed for the runner its token named when it started.
theorem Claims.poll_of_authenticated (token : String) (info : Option RunnerReport)
    {f : Runner → Op PollAnswer}
    (hf : ∀ R, Claims R.id (fun _ => False) (fun a => a.job.map DispatchedJob.jobId) (f R))
    (o : Orchestrator) :
    ∃ ops, StoreRun (fun _ op => op.ByService) o.store.data ops
        (exec (authenticate token info >>= f) o).2.store.data ∧
      ∀ a d, (exec (authenticate token info >>= f) o).1 = .ok a → a.job = some d →
        ∃ R, o.store.data.findRunnerByToken token = some R ∧ (d.jobId, R.id) ∈ claims o.store.data ops := by
  obtain ⟨ops₁, h₁⟩ := authenticate_safe storeMoves token info o
  rw [exec_bind]
  rcases hx : exec (authenticate token info) o with ⟨_ | R, o₁⟩
  · rw [hx] at h₁
    exact ⟨ops₁, h₁, by simp⟩
  · rw [hx] at h₁
    obtain ⟨R₀, hR₀, hid⟩ := authenticate_found (by rw [hx])
    obtain ⟨ops₂, h₂, hc₂⟩ := hf R o₁
    refine ⟨ops₁ ++ ops₂, h₁.append h₂, fun a d ha hd => ⟨R₀, hR₀, ?_⟩⟩
    rw [h₁.claims_append, hid]
    rcases hc₂ a d.jobId ha (by simp [hd]) with hk | hc
    · exact hk.elim
    · exact List.mem_append_right _ hc

-- The job answered by one poll: a claim of that poll, for the runner of its token.
theorem requestJob_claims (token : String) (info : Option RunnerReport) (o : Orchestrator) :
    ∃ ops, StoreRun (fun _ op => op.ByService) o.store.data ops
        (exec (requestJob token info) o).2.store.data ∧
      ∀ a d, (exec (requestJob token info) o).1 = .ok a → a.job = some d →
        ∃ R, o.store.data.findRunnerByToken token = some R ∧ (d.jobId, R.id) ∈ claims o.store.data ops := by
  unfold requestJob
  dsimp only
  rw [exec_bind, exec_get]
  dsimp only
  split
  · refine ⟨[], .nil _, fun a d ha hd => ?_⟩
    simp only [exec_pure, Except.ok.injEq] at ha
    subst ha
    cases hd
  refine Claims.poll_of_authenticated token info (fun R => ?_) o
  split
  · exact Claims.pure _ (by simp)
  refine Claims.safe_bind (Within.get storeMoves.chain) fun started => Claims.safe_bind (enterGate_safe storeMoves) fun gate => ?_
  -- both ways through the gate end by timing the request and answering the job they hold
  have answer : ∀ (known : Int → Prop) (job : Option DispatchedJob),
      Claims R.id (fun i => known i ∨ job.map DispatchedJob.jobId = some i)
        (fun a : PollAnswer => a.job.map DispatchedJob.jobId)
        (do
          let o ← get
          record fun x => x.requestTook (o.clock - started.clock) job.isSome
          Pure.pure ({ job := job, settings := some (RunnerSettings.ofKind R.kind) } : PollAnswer)) :=
    fun _ _ => Claims.safe_bind (Within.get storeMoves.chain) fun _ => Claims.safe_bind (record_safe storeMoves _) fun _ =>
      Claims.pure _ fun _ h => .inr h
  split
  · refine Claims.safe_bind (record_safe storeMoves _) fun _ => ?_
    exact Claims.bind (Claims.pure none (by simp) : Claims R.id _ (Option.map DispatchedJob.jobId) _)
      (answer _)
  · exact Claims.throw_bind _ _
  refine Claims.bind (?_ : Claims R.id _
    (fun r : Except DispatchError (Option DispatchedJob) => r.toOption.bind (Option.map DispatchedJob.jobId)) _)
    fun result => ?_
  · exact Claims.tryCatch (Claims.map _ (nextJob_claims R _) fun _ => rfl) fun _ =>
      Claims.pure _ fun _ h => nomatch h
  refine Claims.safe_bind (StoreSafe.of_data fun _ => rfl) fun _ => ?_
  split
  · exact Claims.bind
      (Claims.pure _ fun _ h => .inr h : Claims R.id _ (Option.map DispatchedJob.jobId) _) (answer _)
  · exact Claims.throw_bind _ _


section Exclusive

-- Exclusive dispatch and the forward-only job lifecycle. On the store, over every run of atomic
-- calls from the empty store (any interleaving of the services' calls and of fixtures putting
-- fresh pending jobs, while creations stay below the largest id): no job is claimed twice, a
-- claimed job keeps its runner, pending jobs have neither runner nor start, and one more call
-- moves a job only along `JobMove`. On the services: a poll answers only a job that its own
-- calls claimed for the runner of its token, and the other services call the store only in
-- those ways.
theorem exclusive_claims_forward_lifecycle (ops : List StoreOp) (t : JobStore)
    (h : StoreRun StoreOp.Issued {} ops t) :
    ((claims {} ops).map Prod.fst).Nodup ∧
    (∀ p ∈ claims {} ops, ∃ j, t.findJob p.1 = some j ∧ j.runnerId = some p.2) ∧
    t.PendingFresh ∧
    (∀ op : StoreOp, op.Issued t → ∀ i, JobMove (t.findJob i) ((op.apply t).findJob i)) ∧
    (∀ token info o, ∃ ops, StoreRun (fun _ op => op.ByService) o.store.data ops
        (exec (requestJob token info) o).2.store.data ∧
      ∀ a d, (exec (requestJob token info) o).1 = .ok a → a.job = some d →
        ∃ R, o.store.data.findRunnerByToken token = some R ∧ (d.jobId, R.id) ∈ claims o.store.data ops) ∧
    (∀ token p, StoreSafe (updateTrace token p)) ∧
    (∀ token jobId key data, StoreSafe (uploadArtifact token jobId key data)) ∧
    (∀ req, StoreSafe (createJob req)) ∧ (∀ reqs, StoreSafe (createJobs reqs)) ∧
    (∀ id, StoreSafe (cancelJob id)) ∧ StoreSafe sweep := by
  have hi := JobStore.idsBelow_empty
  exact ⟨h.claims_nodup hi, h.claimed_runner hi, h.pendingFresh hi JobStore.pendingFresh_empty,
    fun op hop => op.jobMove (h.idsBelow hi) hop, requestJob_claims, updateTrace_safe storeMoves,
    uploadArtifact_safe storeMoves, createJob_safe storeMoves, createJobs_safe storeMoves,
    cancelJob_safe storeMoves, sweep_safe storeMoves⟩

-- Two runners race for the one job created: the second assignment finds it running.
theorem exclusive_claims_of_race :
    claims {} [.create default ⟨0⟩, .assign 1 ⟨1⟩ ⟨0⟩, .assign 1 ⟨2⟩ ⟨0⟩] = [(1, ⟨1⟩)] ∧
      ((claims {} [.create default ⟨0⟩, .assign 1 ⟨1⟩ ⟨0⟩, .assign 1 ⟨2⟩ ⟨0⟩]).map Prod.fst).Nodup :=
  ⟨by decide, (exclusive_claims_forward_lifecycle _ _
    (.cons (.create default ⟨0⟩) ⟨trivial, trivial, by unfold StoreOp.BelowMax; decide⟩
      (.cons (.assign 1 ⟨1⟩ ⟨0⟩) ⟨trivial, trivial, trivial⟩
        (.cons (.assign 1 ⟨2⟩ ⟨0⟩) ⟨trivial, trivial, trivial⟩ (.nil _))))).1⟩

end Exclusive

end Orchestrator

end JobDispatch
