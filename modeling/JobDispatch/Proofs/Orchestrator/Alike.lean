import JobDispatch.Proofs.Trace.Resend

namespace JobDispatch

namespace Orchestrator

-- Two orchestrators alike in every field but their blob stores, which `R` relates.
structure Alike (R : BlobStore → BlobStore → Prop) (o o' : Orchestrator) : Prop where
  rest : o' = { o with blobs := o'.blobs }
  blobs : R o.blobs o'.blobs

-- From alike states `m` answers alike and leaves the states alike.
def KeepsAlike {α : Type} (R : BlobStore → BlobStore → Prop) (m : Op α) : Prop :=
  ∀ o o', Alike R o o' → (exec m o).1 = (exec m o').1 ∧ Alike R (exec m o).2 (exec m o').2

-- `m` neither reads the blob store nor writes it.
def Blind {α : Type} (m : Op α) : Prop :=
  ∀ o b, exec m { o with blobs := b } = ((exec m o).1, { (exec m o).2 with blobs := b })

section Combinators

variable {α β : Type} {R : BlobStore → BlobStore → Prop}

theorem Blind.blobs {m : Op α} (h : Blind m) (o : Orchestrator) : (exec m o).2.blobs = o.blobs :=
  congrArg (fun p => p.2.blobs) (h o o.blobs)

-- What does not look at the blob store keeps every relation between blob stores.
theorem Blind.keepsAlike {m : Op α} (h : Blind m) : KeepsAlike R m := by
  intro o o' ho
  have hx : exec m o' = ((exec m o).1, { (exec m o).2 with blobs := o'.blobs }) :=
    (congrArg (exec m) ho.rest).trans (h o o'.blobs)
  rw [hx]
  exact ⟨rfl, rfl, by rw [h.blobs o]; exact ho.blobs⟩

theorem KeepsAlike.pure (a : α) : KeepsAlike R (pure a : Op α) := fun _ _ h => ⟨rfl, h⟩

theorem KeepsAlike.throw (e : DispatchError) : KeepsAlike R (throw e : Op α) := fun _ _ h => ⟨rfl, h⟩

theorem KeepsAlike.bind {m : Op α} {f : α → Op β} (hm : KeepsAlike R m) (hf : ∀ a, KeepsAlike R (f a)) :
    KeepsAlike R (m >>= f) := by
  intro o o' h
  obtain ⟨hans, h₁⟩ := hm o o' h
  rw [exec_bind, exec_bind]
  rcases hx : exec m o with ⟨_ | a, o₁⟩ <;> rcases hx' : exec m o' with ⟨_ | a', o₁'⟩ <;>
    rw [hx, hx'] at hans h₁ <;> cases hans
  · exact ⟨rfl, h₁⟩
  · exact hf a o₁ o₁' h₁

theorem KeepsAlike.throw_bind (e : DispatchError) (f : α → Op β) :
    KeepsAlike R ((MonadExcept.throw e : Op α) >>= f) :=
  fun _ _ h => ⟨rfl, h⟩

theorem KeepsAlike.tryCatch {m : Op α} {k : DispatchError → Op α} (hm : KeepsAlike R m)
    (hk : ∀ e, KeepsAlike R (k e)) : KeepsAlike R (tryCatch m k) := by
  intro o o' h
  obtain ⟨hans, h₁⟩ := hm o o' h
  rw [exec_tryCatch, exec_tryCatch]
  rcases hx : exec m o with ⟨e | _, o₁⟩ <;> rcases hx' : exec m o' with ⟨_ | _, o₁'⟩ <;>
    rw [hx, hx'] at hans h₁ <;> cases hans
  · exact hk e o₁ o₁' h₁
  · exact ⟨rfl, h₁⟩

theorem KeepsAlike.map (f : α → β) {m : Op α} (hm : KeepsAlike R m) : KeepsAlike R (f <$> m) := by
  intro o o' h
  obtain ⟨hans, h₁⟩ := hm o o' h
  rw [exec_map, exec_map]
  rcases hx : exec m o with ⟨_ | _, o₁⟩ <;> rcases hx' : exec m o' with ⟨_ | _, o₁'⟩ <;>
    rw [hx, hx'] at hans h₁ <;> cases hans <;> exact ⟨rfl, h₁⟩

theorem KeepsAlike.logged {m : Op Unit} (hm : KeepsAlike R m) : KeepsAlike R (Orchestrator.logged m) :=
  hm.tryCatch fun _ => pure _

-- A read of the state whose continuation does not look at the blob store.
theorem KeepsAlike.get_bind {g : Orchestrator → Op α} (hg : ∀ o b, g { o with blobs := b } = g o)
    (hk : ∀ o, KeepsAlike R (g o)) : KeepsAlike R (get >>= g) := by
  intro o o' h
  have hgo : g o' = g o := (congrArg g h.rest).trans (hg o o'.blobs)
  simp only [exec_bind, exec_get]
  rw [hgo]
  exact hk o o o' h

theorem blind_modifyGet {f : Orchestrator → α × Orchestrator}
    (hf : ∀ o b, f { o with blobs := b } = ((f o).1, { (f o).2 with blobs := b })) :
    Blind (modifyGet f : Op α) := by
  intro o b
  rw [exec_modifyGet, exec_modifyGet, hf]

theorem blind_modify {f : Orchestrator → Orchestrator} (hf : ∀ o b, f { o with blobs := b } = { f o with blobs := b }) :
    Blind (modify f : Op Unit) := by
  intro o b
  rw [exec_modify, exec_modify, hf]

theorem blind_call (c : StoreCall) (op : JobStore → α × JobStore) (absent : Option α) :
    Blind (call c op absent) := by
  intro o b
  rw [exec_call, exec_call]
  rcases o.store.run c op absent with ⟨_ | _, _⟩ <;> rfl

end Combinators

section Steps

variable {α : Type} {R : BlobStore → BlobStore → Prop}

theorem now_alike : KeepsAlike R now := (blind_modifyGet fun _ _ => rfl).keepsAlike

theorem record_alike (f : Metrics → Metrics) : KeepsAlike R (record f) :=
  (blind_modify fun _ _ => rfl).keepsAlike

theorem publish_alike (e : JobEvent) : KeepsAlike R (publish e) := (blind_modify fun _ _ => rfl).keepsAlike

theorem tryLease_alike (key : String) : KeepsAlike R (tryLease key) :=
  (blind_modifyGet fun _ _ => rfl).keepsAlike

theorem enterGate_alike : KeepsAlike R enterGate := (blind_modifyGet fun _ _ => rfl).keepsAlike

theorem call_alike (c : StoreCall) (op : JobStore → α × JobStore) (absent : Option α) :
    KeepsAlike R (call c op absent) :=
  (blind_call c op absent).keepsAlike

theorem read_alike (c : StoreCall) (f : JobStore → α) (absent : Option α) :
    KeepsAlike R (read c f absent) :=
  (blind_call c _ absent).keepsAlike

theorem authenticate_alike (token : String) (info : Option RunnerReport) :
    KeepsAlike R (authenticate token info) := by
  unfold authenticate
  dsimp only
  split
  · exact KeepsAlike.throw_bind _ _
  · refine (read_alike _ _ _).bind fun x => ?_
    split
    · split
      · exact KeepsAlike.pure _
      · exact now_alike.bind fun _ => (call_alike _ _ _).bind fun _ => KeepsAlike.pure _
    · exact KeepsAlike.throw _

theorem eligibleFilter_alike (r : Runner) : KeepsAlike R (eligibleFilter r) := by
  unfold eligibleFilter watermark
  refine KeepsAlike.get_bind (fun _ _ => rfl) fun o => ?_
  dsimp only
  split
  · exact KeepsAlike.pure _
  · exact (blind_modifyGet fun _ _ => rfl).keepsAlike.bind fun _ => KeepsAlike.pure _

end Steps

section TraceWrites

variable (o : Orchestrator)

-- An upload moves the blob store as the store's own upload does, and answers its failure as a
-- storage error.
theorem exec_upload (key : String) (data : List UInt8) :
    exec (upload key data) o =
      ((match (o.blobs.upload key data).2 with
        | .ok () => .ok ()
        | .error e => .error (.storage e)), { o with blobs := (o.blobs.upload key data).1 }) := by
  unfold upload
  simp only [exec_bind, exec_get, exec_modify]
  rcases (o.blobs.upload key data).2 with _ | _ <;> rfl

-- An append reads the trace as best it can, a missing or unreadable one as empty, and uploads
-- the merge of its chunk onto it; the store's answer to the upload is the append's.
theorem exec_appendTrace_upload (j : Job) {chunk : List TraceEntry} (hc : chunk ≠ []) :
    exec (appendTrace j chunk) o =
      let merged := TraceEntry.merge (seenTrace o (traceKeyOf j)) chunk
      ((match (o.blobs.upload (traceKeyOf j) (traceBytes merged)).2 with
        | .ok () => .ok (merged.getLast?.map (·.timestamp))
        | .error e => .error (.storage e)),
        { o with blobs := (o.blobs.upload (traceKeyOf j) (traceBytes merged)).1 }) := by
  have hempty : chunk.isEmpty = false := List.isEmpty_eq_false_iff.mpr hc
  unfold appendTrace
  simp only [hempty, Bool.false_eq_true, if_false, exec_bind, exec_readOrEmpty]
  rw [← traceBytes, exec_upload]
  rcases (o.blobs.upload (traceKeyOf j) (traceBytes (TraceEntry.merge (seenTrace o (traceKeyOf j)) chunk))).2
    with _ | _ <;> rfl

-- Whatever the blob store answers, a logged append answers `ok` and moves the blob store alone.
theorem exec_logged_appendTrace (j : Job) (chunk : List TraceEntry) :
    ∃ b, exec (logged do let _ ← appendTrace j chunk) o = (.ok (), { o with blobs := b }) := by
  unfold logged
  rw [exec_tryCatch, exec_bind]
  by_cases hc : chunk = []
  · subst hc
    exact ⟨o.blobs, by rw [exec_appendTrace_nil]; rfl⟩
  · rw [exec_appendTrace_upload o j hc]
    dsimp only
    rcases (o.blobs.upload (traceKeyOf j)
      (traceBytes (TraceEntry.merge (seenTrace o (traceKeyOf j)) chunk))).2 with _ | _ <;> exact ⟨_, rfl⟩

end TraceWrites

-- Logged trace writes keep orchestrators alike in all but their blob stores.
theorem logged_appendTrace_alike (j : Job) (chunk : List TraceEntry) :
    KeepsAlike (fun _ _ => True) (logged do let _ ← appendTrace j chunk) := by
  intro o o' h
  obtain ⟨b, hb⟩ := exec_logged_appendTrace o j chunk
  obtain ⟨b', hb'⟩ := exec_logged_appendTrace o' j chunk
  rw [hb, hb']
  refine ⟨rfl, ⟨?_, trivial⟩⟩
  rw [h.rest]

section Writes

-- The steps of a poll keep the states alike as far as the logged trace writes keep them alike.
variable {R : BlobStore → BlobStore → Prop} (hlog : ∀ j c, KeepsAlike R (logged do let _ ← appendTrace j c))
include hlog

theorem jobDone_alike (j : Job) (status : JobStatus) (d : Int) (errored : Bool) (logs : List TraceEntry) :
    KeepsAlike R (jobDone j status d errored logs) := by
  unfold jobDone
  refine now_alike.bind fun t => (call_alike _ _ _).bind fun x => ?_
  split
  · exact (call_alike _ _ _).bind fun _ => (hlog _ _).bind fun _ =>
      (record_alike _).bind fun _ => KeepsAlike.pure _
  · exact KeepsAlike.pure _

theorem payloadFailed_alike (j : Job) (err : String) : KeepsAlike R (payloadFailed j err) := by
  unfold payloadFailed
  exact now_alike.bind fun _ =>
    (((jobDone_alike hlog _ _ _ _ _).bind fun _ => KeepsAlike.pure _).logged).bind fun _ => publish_alike _

theorem claimEach_alike (r : Runner) : ∀ cs : List Job, KeepsAlike R (claimEach r cs)
  | [] => KeepsAlike.pure _
  | c :: rest => by
    rw [claimEach]
    dsimp only
    refine (tryLease_alike _).bind fun lease => ?_
    split
    · refine now_alike.bind fun t => (call_alike _ _ _).bind fun x => ?_
      split
      · exact claimEach_alike r rest
      · -- after the assignment: the payload, or the seal of a job whose payload fails
        split
        · refine (record_alike _).bind fun _ => KeepsAlike.get_bind (fun _ _ => rfl) fun o => ?_
          split
          · exact KeepsAlike.pure _
          · exact (payloadFailed_alike hlog _ _).bind fun _ => claimEach_alike r rest
        · refine KeepsAlike.get_bind (fun _ _ => rfl) fun o => ?_
          split
          · exact KeepsAlike.pure _
          · exact (payloadFailed_alike hlog _ _).bind fun _ => claimEach_alike r rest
    · exact claimEach_alike r rest

theorem claimFirst_alike (r : Runner) (f : JobFilter) : KeepsAlike R (claimFirst r f) := by
  unfold claimFirst
  refine (read_alike _ _ _).bind fun candidates => ?_
  dsimp only
  split
  · split
    · exact (blind_modify fun _ _ => rfl).keepsAlike.bind fun _ => claimEach_alike hlog r _
    · exact claimEach_alike hlog r _
  · exact claimEach_alike hlog r _

theorem nextJob_alike (r : Runner) : KeepsAlike R (nextJob r) := by
  unfold nextJob
  refine (eligibleFilter_alike r).bind fun f => (claimFirst_alike hlog r f).bind fun job => ?_
  split
  · exact KeepsAlike.pure _
  split
  · exact KeepsAlike.pure _
  split
  · exact (blind_modify fun _ _ => rfl).keepsAlike.bind fun _ => claimFirst_alike hlog r _
  · exact claimFirst_alike hlog r _

theorem requestJob_alike (token : String) (info : Option RunnerReport) :
    KeepsAlike R (requestJob token info) := by
  unfold requestJob
  dsimp only
  refine KeepsAlike.get_bind (fun _ _ => rfl) fun o => ?_
  split
  · exact KeepsAlike.pure _
  refine (authenticate_alike _ _).bind fun runner => ?_
  split
  · exact KeepsAlike.pure _
  refine KeepsAlike.get_bind (fun _ _ => rfl) fun started => enterGate_alike.bind fun gate => ?_
  have answer : ∀ job : Option DispatchedJob, KeepsAlike R (do
      let o ← get
      record fun x => x.requestTook (o.clock - started.clock) job.isSome
      Pure.pure ({ job := job, settings := some (RunnerSettings.ofKind runner.kind) } : PollAnswer)) :=
    fun _ => KeepsAlike.get_bind (fun _ _ => rfl) fun _ => (record_alike _).bind fun _ => KeepsAlike.pure _
  split
  · exact (record_alike _).bind fun _ => (KeepsAlike.pure _).bind answer
  · exact KeepsAlike.throw_bind _ _
  refine (((nextJob_alike hlog runner).map _).tryCatch fun _ => KeepsAlike.pure _).bind fun result => ?_
  refine (blind_modify fun _ _ => rfl).keepsAlike.bind fun _ => ?_
  split
  · exact (KeepsAlike.pure _).bind answer
  · exact KeepsAlike.throw_bind _ _

end Writes

-- A poll does not depend on the blob store. From two orchestrators that differ in their blob
-- stores alone, kept in memory or in files, it answers the same and leaves them differing in
-- their blob stores alone. The one write it makes there, the trace line of a job whose payload
-- fails, is logged, so what the store answers never reaches the poll.
theorem poll_ignores_blob_store (token : String) (info : Option RunnerReport) (o : Orchestrator)
    (b : BlobStore) :
    (exec (requestJob token info) { o with blobs := b }).1 = (exec (requestJob token info) o).1 ∧
      ∃ b', (exec (requestJob token info) { o with blobs := b }).2 =
        { (exec (requestJob token info) o).2 with blobs := b' } := by
  obtain ⟨hans, hrest, -⟩ :=
    requestJob_alike logged_appendTrace_alike token info o { o with blobs := b } ⟨rfl, trivial⟩
  exact ⟨hans.symm, _, hrest⟩

end Orchestrator

end JobDispatch
