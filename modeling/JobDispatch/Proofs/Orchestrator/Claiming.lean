import JobDispatch.Proofs.Orchestrator.Poll
import JobDispatch.Proofs.Orchestrator.Frames
import JobDispatch.Proofs.Trace.Resend
import JobDispatch.Proofs.Blob.Scope
import JobDispatch.Proofs.Api.Outage

namespace JobDispatch

theorem slash_not_mem_name (k : JobKind) : '/' ∉ k.name.toList := by
  cases k <;> decide

theorem splitPath_traceKey (p : Int) (k : JobKind) (i : Int) :
    splitPath (traceKey p k.name i) = ["logs", toString p, k.name, toString i ++ ".json"] := by
  have hkey : (traceKey p k.name i).toList =
      "logs".toList ++ '/' ::
        ((toString p).toList ++ '/' :: (k.name.toList ++ '/' :: (toString i ++ ".json").toList)) := by
    simp [traceKey]
  have hlast : '/' ∉ (toString i ++ ".json").toList := by
    simp only [String.toList_append, List.mem_append, not_or]
    exact ⟨slash_not_mem_toString_int i, by decide⟩
  simp only [splitPath, hkey, List.splitOn_append_cons_self_of_not_mem (by decide : '/' ∉ "logs".toList),
    List.splitOn_append_cons_self_of_not_mem (slash_not_mem_toString_int p),
    List.splitOn_append_cons_self_of_not_mem (slash_not_mem_name k), List.splitOn_eq_singleton hlast,
    List.map_cons, List.map_nil, String.ofList_toList]

-- Traces of jobs with distinct ids are kept under distinct keys.
theorem id_eq_of_traceKeyOf_eq {j j' : Job} (h : Orchestrator.traceKeyOf j = Orchestrator.traceKeyOf j') :
    j.id = j'.id := by
  have hs := congrArg splitPath h
  simp only [Orchestrator.traceKeyOf, splitPath_traceKey, List.cons.injEq] at hs
  obtain ⟨-, -, -, hlast, -⟩ := hs
  have h' : toString j.id = toString j'.id := by
    rw [← String.toList_inj] at hlast ⊢
    simpa using hlast
  exact Int.repr_injective h'

theorem BlobStore.get_memory_putBlob_of_ne {k k' : String} (h : k' ≠ k) (v : List UInt8)
    (bs : List (String × List UInt8)) :
    (BlobStore.memory (BlobStore.putBlob k v bs)).get k' = (BlobStore.memory bs).get k' := by
  simp only [BlobStore.get, BlobStore.lookup_putBlob_of_ne h]

theorem length_filter_kind_singleton (c : Job) (k : JobKind) :
    ([c].filter (·.kind = k)).length = if k = c.kind then 1 else 0 := by
  by_cases hk : k = c.kind
  · simp [hk]
  · simp [hk, Ne.symm hk]

namespace Orchestrator

-- A running job as a payload failure seals it at `t`.
def failedRecord (j : Job) (t : Timestamp) : Job :=
  { j with status := .done, duration := some 0, endedAt := some t }

-- The trace line a payload failure writes, stamped at `t`, with the resolver's error.
def failureEntry (t : Timestamp) (err : String) : TraceEntry := ⟨.error, t.millis, payloadFailure, [.str err]⟩

variable {o : Orchestrator}

-- The trace an append reads depends on the blob under its key only.
theorem seenTrace_congr {o' : Orchestrator} {key : String} (h : o'.blobs.get key = o.blobs.get key) :
    seenTrace o' key = seenTrace o key := by
  unfold seenTrace readTrace
  simp only [exec_bind, exec_get, h]
  rcases o.blobs.get key with e | bytes
  · cases e <;> rfl
  · rcases hbytes : traceOfBytes bytes with _ | es <;> simp only [hbytes] <;> rfl

-- A store that answers every call answers it whatever data it holds.
theorem Store.run_data_of_reliable {s : Store} (h : s.Reliable) (d : JobStore) {α : Type} (c : StoreCall)
    (op : JobStore → α × JobStore) (absent : Option α) :
    ({ s with data := d } : Store).run c op absent = (.ok (op d).1, { s with data := (op d).2 }) :=
  Store.run_of_reliable (s := { s with data := d }) h c op absent

-- An append from any state with the same blobs as `o₀` writes the merge onto what `o₀` stores.
theorem exec_appendTrace_at {o₀ o' : Orchestrator} {bs : List (String × List UInt8)}
    (hb : o₀.blobs = .memory bs) (h : o'.blobs = o₀.blobs) (j : Job) {chunk : List TraceEntry}
    (hc : chunk ≠ []) :
    exec (appendTrace j chunk) o' =
      (.ok ((TraceEntry.merge (seenTrace o₀ (traceKeyOf j)) chunk).getLast?.map (·.timestamp)),
        { o' with blobs := .memory (BlobStore.putBlob (traceKeyOf j)
          (traceBytes (TraceEntry.merge (seenTrace o₀ (traceKeyOf j)) chunk)) bs) }) := by
  rw [exec_appendTrace_seen (h.trans hb) j hc, @seenTrace_congr o₀ o' _ (by rw [h])]

theorem exec_tryLease (key : String) (o : Orchestrator) :
    exec (tryLease key) o = (.ok (o.leases.tryAcquire key o.config.dispatchLockTtlMs o.clock).1,
      { o with leases := (o.leases.tryAcquire key o.config.dispatchLockTtlMs o.clock).2 }) := rfl

-- A payload failure of a running job seals it done with no time, writes the error line onto its
-- trace, counts it as failed and announces it.
theorem exec_payloadFailed {bs : List (String × List UInt8)} (hrel : o.store.Reliable) (hb : o.blobs = .memory bs)
    {j : Job} (hf : o.store.data.findJob j.id = some j) (hr : j.status = .running) (err : String) :
    exec (payloadFailed j err) o =
      (.ok (), { o with
        wallClock := (o.wallClock.addNanos 1).addNanos 1
        store := { o.store with
          data := (o.store.data.updateJob (failedRecord j (o.wallClock.addNanos 1))).recordUsage j.projectId 0 0 }
        blobs := .memory (BlobStore.putBlob (traceKeyOf j)
          (traceBytes (TraceEntry.merge (seenTrace o (traceKeyOf j)) [failureEntry o.wallClock err])) bs)
        metrics := o.metrics.count j.kind .failed
        events := o.events ++ [.error j.ref payloadFailure] }) := by
  unfold payloadFailed jobDone logged
  simp only [exec_bind, now, exec_modifyGet, exec_tryCatch, exec_call, Store.run_of_reliable hrel,
    Store.run_data_of_reliable hrel, JobStore.completeJob_of_running _ hf hr,
    exec_appendTrace_at hb, ne_eq, List.cons_ne_nil, not_false_eq_true, exec_pure, record, publish,
    exec_modify, if_true]
  rfl

-- The jobs of a poll sealed for want of a payload: all it claimed, or all but the last when it
-- dispatched one.
def failedOf (claimed : List Job) (job : Option DispatchedJob) : List Job :=
  if job.isSome then claimed.dropLast else claimed

-- What a stretch of a poll did, given the jobs it claimed in order and what it dispatched. The
-- claimed jobs were pending and `Scanned`, with distinct ids, and no other job changed. The
-- dispatched job is the last claimed one, running on the runner, with the resolver's payload. Each
-- other claimed job is sealed done with no time, the error line merged onto its trace, announced
-- with one error event and counted once as failed; every other blob reads as before.
structure Polled (Scanned : Job → Prop) (rid : Uuid) (o o' : Orchestrator) (claimed : List Job)
    (job : Option DispatchedJob) : Prop where
  backend : o'.store.backend = o.store.backend ∧ o'.store.faults = o.store.faults
  resolvers : o'.resolvers = o.resolvers
  config : o'.config = o.config
  memory : ∃ bs, o'.blobs = .memory bs
  scanned : ∀ c ∈ claimed, Scanned c
  pending : ∀ c ∈ claimed, o.store.data.findJob c.id = some c ∧ c.status = .pending
  nodup : (claimed.map (·.id)).Nodup
  frame : ∀ i, i ∉ claimed.map (·.id) → o'.store.data.findJob i = o.store.data.findJob i
  dispatched : ∀ d, job = some d → ∃ c p t, claimed.getLast? = some c ∧
    d = ⟨c.id, c.kind, o.config.executionTimeoutMs / 1000, p⟩ ∧
    o.resolvers.resolve c.kind c.entityId c.extra = .ok p ∧
    o'.store.data.findJob c.id = some { c with status := .running, runnerId := some rid, startedAt := some t }
  failed : ∀ c ∈ failedOf claimed job, ∃ err t t' stamp,
    o.resolvers.resolve c.kind c.entityId c.extra = .error err ∧
    o'.store.data.findJob c.id =
      some { c with status := .done, runnerId := some rid, startedAt := some t, duration := some 0,
                    endedAt := some t' } ∧
    o'.blobs.get (traceKeyOf c) =
      .ok (traceBytes (TraceEntry.merge (seenTrace o (traceKeyOf c)) [⟨.error, stamp, payloadFailure, [.str err]⟩]))
  blobs : ∀ key, key ∉ (failedOf claimed job).map traceKeyOf → o'.blobs.get key = o.blobs.get key
  events : o'.events = o.events ++ (failedOf claimed job).map fun c => .error c.ref payloadFailure
  failedCount : ∀ k, o'.metrics.total k .failed =
    o.metrics.total k .failed + ((failedOf claimed job).filter (·.kind = k)).length
  dispatchedCount : ∀ k, o'.metrics.total k .dispatched =
    o.metrics.total k .dispatched + (claimed.filter (·.kind = k)).length

theorem failedOf_none (claimed : List Job) : failedOf claimed none = claimed := rfl

theorem failedOf_append (cl₁ : List Job) {cl₂ : List Job} {job : Option DispatchedJob}
    (h : ∀ d, job = some d → cl₂ ≠ []) : failedOf (cl₁ ++ cl₂) job = cl₁ ++ failedOf cl₂ job := by
  unfold failedOf
  cases job with
  | none => rfl
  | some d => simp [List.dropLast_append_of_ne_nil (h d rfl)]

theorem failedOf_subset {claimed : List Job} {job : Option DispatchedJob} {c : Job}
    (h : c ∈ failedOf claimed job) : c ∈ claimed := by
  unfold failedOf at h
  split at h
  · exact List.dropLast_subset _ h
  · exact h

namespace Polled

variable {S S' : Job → Prop} {r : Uuid} {o o₁ o₂ : Orchestrator} {cl cl₁ cl₂ : List Job}
  {job : Option DispatchedJob}

-- A stretch that claims nothing and leaves jobs, blobs, events and job counts alone.
theorem of_untouched (h : Untouched o o₁) (hres : o₁.resolvers = o.resolvers) (hconf : o₁.config = o.config)
    (hmem : ∃ bs, o.blobs = .memory bs) : Polled S r o o₁ [] none where
  backend := ⟨h.backend, h.faults⟩
  resolvers := hres
  config := hconf
  memory := h.blobs ▸ hmem
  scanned := fun _ hc => nomatch hc
  pending := fun _ hc => nomatch hc
  nodup := List.nodup_nil
  frame := fun i _ => JobStore.findJob_of_jobs h.jobs i
  dispatched := fun _ hd => nomatch hd
  failed := fun _ hc => nomatch hc
  blobs := fun _ _ => by rw [h.blobs]
  events := by rw [h.events, failedOf_none, List.map_nil, List.append_nil]
  failedCount := fun _ => by rw [h.metrics]; rfl
  dispatchedCount := fun _ => by rw [h.metrics]; rfl

-- A claimed job was found pending where the stretch began, so `Scanned` may draw on that.
theorem mono (h : Polled S r o o₁ cl job) (hS : ∀ c, o.store.data.findJob c.id = some c → S c → S' c) :
    Polled S' r o o₁ cl job :=
  { h with scanned := fun c hc => hS c (h.pending c hc).1 (h.scanned c hc) }

-- A job claimed later was still pending, so the first stretch did not claim it.
theorem not_claimed_before (h₁ : Polled S r o o₁ cl₁ none) (h₂ : Polled S' r o₁ o₂ cl₂ job) :
    ∀ c ∈ cl₂, c.id ∉ cl₁.map (·.id) := by
  intro c hc hmem
  obtain ⟨c₁, hc₁, hid⟩ := List.mem_map.mp hmem
  obtain ⟨_, _, _, _, _, hsealed, _⟩ := h₁.failed c₁ hc₁
  obtain ⟨hfound, hpend⟩ := h₂.pending c hc
  rw [← hid, hsealed] at hfound
  cases Option.some.inj hfound
  simp at hpend

theorem trans (h₁ : Polled S r o o₁ cl₁ none) (h₂ : Polled S r o₁ o₂ cl₂ job) :
    Polled S r o o₂ (cl₁ ++ cl₂) job := by
  have hdisj := h₁.not_claimed_before h₂
  have hne : ∀ d, job = some d → cl₂ ≠ [] := fun d hd hnil => by
    obtain ⟨c, -, -, hlast, -⟩ := h₂.dispatched d hd
    simp [hnil] at hlast
  have hfail := failedOf_append cl₁ hne
  -- a key written by the second stretch is no key of the first one's jobs
  have hkeys : ∀ c ∈ cl₁, traceKeyOf c ∉ (failedOf cl₂ job).map traceKeyOf := by
    intro c hc hmem
    obtain ⟨c₂, hc₂, hkey⟩ := List.mem_map.mp hmem
    exact hdisj c₂ (failedOf_subset hc₂) (List.mem_map.mpr ⟨c, hc, (id_eq_of_traceKeyOf_eq hkey).symm⟩)
  have hkeys' : ∀ c ∈ failedOf cl₂ job, traceKeyOf c ∉ cl₁.map traceKeyOf := by
    intro c hc hmem
    obtain ⟨c₁, hc₁, hkey⟩ := List.mem_map.mp hmem
    exact hdisj c (failedOf_subset hc) (List.mem_map.mpr ⟨c₁, hc₁, id_eq_of_traceKeyOf_eq hkey⟩)
  refine
    { backend := ⟨h₂.backend.1.trans h₁.backend.1, h₂.backend.2.trans h₁.backend.2⟩
      resolvers := h₂.resolvers.trans h₁.resolvers
      config := h₂.config.trans h₁.config
      memory := h₂.memory
      scanned := fun c hc => ?_
      pending := fun c hc => ?_
      nodup := ?_
      frame := fun i hi => ?_
      dispatched := fun d hd => ?_
      failed := fun c hc => ?_
      blobs := fun key hkey => ?_
      events := ?_
      failedCount := fun k => ?_
      dispatchedCount := fun k => ?_ }
  · rcases List.mem_append.mp hc with hc | hc
    · exact h₁.scanned c hc
    · exact h₂.scanned c hc
  · rcases List.mem_append.mp hc with hc | hc
    · exact h₁.pending c hc
    · rw [← h₁.frame c.id (hdisj c hc)]
      exact h₂.pending c hc
  · rw [List.map_append, List.nodup_append]
    refine ⟨h₁.nodup, h₂.nodup, fun a ha b hb hab => ?_⟩
    obtain ⟨c, hc, rfl⟩ := List.mem_map.mp hb
    exact hdisj c hc (hab ▸ ha)
  · rw [List.map_append, List.mem_append, not_or] at hi
    rw [h₂.frame i hi.2, h₁.frame i hi.1]
  · obtain ⟨c, p, t, hlast, rfl, hpay, hrun⟩ := h₂.dispatched d hd
    refine ⟨c, p, t, ?_, by rw [h₁.config], by rw [← h₁.resolvers]; exact hpay, hrun⟩
    rw [List.getLast?_append, hlast]
    rfl
  · rw [hfail] at hc
    rcases List.mem_append.mp hc with hc | hc
    · obtain ⟨err, t, t', stamp, hres, hsealed, hblob⟩ := h₁.failed c hc
      have hcl : c ∈ cl₁ := hc
      refine ⟨err, t, t', stamp, hres, ?_, ?_⟩
      · rw [h₂.frame c.id fun hmem => ?_]
        · exact hsealed
        · obtain ⟨c₂, hc₂, hid⟩ := List.mem_map.mp hmem
          exact hdisj c₂ hc₂ (hid ▸ List.mem_map.mpr ⟨c, hcl, rfl⟩)
      · rw [h₂.blobs _ (hkeys c hcl)]
        exact hblob
    · obtain ⟨err, t, t', stamp, hres, hsealed, hblob⟩ := h₂.failed c hc
      refine ⟨err, t, t', stamp, by rw [← h₁.resolvers]; exact hres, hsealed, ?_⟩
      rw [hblob, seenTrace_congr (h₁.blobs _ (hkeys' c hc))]
  · rw [hfail, List.map_append, List.mem_append, not_or] at hkey
    rw [h₂.blobs key hkey.2, h₁.blobs key hkey.1]
  · rw [h₂.events, h₁.events, hfail, failedOf_none, List.map_append, List.append_assoc]
  · rw [h₂.failedCount, h₁.failedCount, hfail, failedOf_none, List.filter_append, List.length_append]
    omega
  · rw [h₂.dispatchedCount, h₁.dispatchedCount, List.filter_append, List.length_append]
    omega

theorem reliable (h : Polled S r o o₁ cl job) (hrel : o.store.Reliable) : o₁.store.Reliable :=
  ⟨h.backend.1.trans hrel.1, h.backend.2.trans hrel.2⟩

-- Steps afterwards that touch no job, blob or event and move no failure or dispatch count keep
-- what the stretch did.
theorem after (h : Polled S r o o₁ cl job) (hjobs : o₂.store.data.jobs = o₁.store.data.jobs)
    (hblobs : o₂.blobs = o₁.blobs) (hevents : o₂.events = o₁.events)
    (htotal : ∀ k x, o₂.metrics.total k x = o₁.metrics.total k x)
    (hback : o₂.store.backend = o₁.store.backend ∧ o₂.store.faults = o₁.store.faults)
    (hres : o₂.resolvers = o₁.resolvers) (hconf : o₂.config = o₁.config) : Polled S r o o₂ cl job where
  backend := ⟨hback.1.trans h.backend.1, hback.2.trans h.backend.2⟩
  resolvers := hres.trans h.resolvers
  config := hconf.trans h.config
  memory := hblobs ▸ h.memory
  scanned := h.scanned
  pending := h.pending
  nodup := h.nodup
  frame := fun i hi => (JobStore.findJob_of_jobs hjobs i).trans (h.frame i hi)
  dispatched := fun d hd => by
    obtain ⟨c, p, t, hlast, hd', hpay, hrun⟩ := h.dispatched d hd
    exact ⟨c, p, t, hlast, hd', hpay, (JobStore.findJob_of_jobs hjobs _).trans hrun⟩
  failed := fun c hc => by
    obtain ⟨err, t, t', stamp, hres, hsealed, hblob⟩ := h.failed c hc
    exact ⟨err, t, t', stamp, hres, (JobStore.findJob_of_jobs hjobs _).trans hsealed, by rw [hblobs]; exact hblob⟩
  blobs := fun key hk => by rw [hblobs]; exact h.blobs key hk
  events := by rw [hevents]; exact h.events
  failedCount := fun k => by rw [htotal]; exact h.failedCount k
  dispatchedCount := fun k => by rw [htotal]; exact h.dispatchedCount k

-- A stretch that claimed one pending job and handed it over: the job runs on the runner, its
-- dispatch is counted, and nothing else moved.
theorem dispatch_one {c : Job} {p : Json} {t : Timestamp} (hS : S c)
    (hf : o.store.data.findJob c.id = some c) (hpend : c.status = .pending)
    (hpay : o.resolvers.resolve c.kind c.entityId c.extra = .ok p)
    (hfound : ∀ i, o₁.store.data.findJob i = if c.id = i then
      some { c with status := .running, runnerId := some r, startedAt := some t } else o.store.data.findJob i)
    (hback : o₁.store.backend = o.store.backend ∧ o₁.store.faults = o.store.faults)
    (hres : o₁.resolvers = o.resolvers) (hconf : o₁.config = o.config)
    (hmem : ∃ bs, o.blobs = .memory bs) (hblobs : o₁.blobs = o.blobs) (hevents : o₁.events = o.events)
    (hmetrics : ∃ ms, o₁.metrics = o.metrics.dispatched c.kind ms) :
    Polled S r o o₁ [c] (some ⟨c.id, c.kind, o.config.executionTimeoutMs / 1000, p⟩) := by
  obtain ⟨ms, hm⟩ := hmetrics
  exact
    { backend := hback
      resolvers := hres
      config := hconf
      memory := hblobs ▸ hmem
      scanned := fun c' hc' => List.mem_singleton.mp hc' ▸ hS
      pending := fun c' hc' => List.mem_singleton.mp hc' ▸ ⟨hf, hpend⟩
      nodup := List.nodup_singleton _
      frame := fun i hi => by
        rw [hfound, if_neg]
        rintro rfl
        exact hi List.mem_cons_self
      dispatched := fun d hd => by
        cases hd
        exact ⟨c, p, t, rfl, rfl, hpay, by rw [hfound, if_pos rfl]⟩
      failed := fun c' hc' => by simp [failedOf] at hc'
      blobs := fun _ _ => by rw [hblobs]
      events := by simp [failedOf, hevents]
      failedCount := fun k => by simp [hm, Metrics.total_dispatched, failedOf]
      dispatchedCount := fun k => by simp [hm, Metrics.total_dispatched, length_filter_kind_singleton] }

-- A stretch that claimed one pending job whose payload failed: the job is sealed done with no
-- time, the error line merged onto its trace, one error event and one failure counted, and its
-- dispatch counted too.
theorem fail_one {c : Job} {err : String} {t t' s : Timestamp}
    {bs : List (String × List UInt8)} (hS : S c)
    (hf : o.store.data.findJob c.id = some c) (hpend : c.status = .pending)
    (herr : o.resolvers.resolve c.kind c.entityId c.extra = .error err)
    (hfound : ∀ i, o₁.store.data.findJob i = if c.id = i then
      some { c with status := .done, runnerId := some r, startedAt := some t, duration := some 0,
                    endedAt := some t' }
      else o.store.data.findJob i)
    (hback : o₁.store.backend = o.store.backend ∧ o₁.store.faults = o.store.faults)
    (hres : o₁.resolvers = o.resolvers) (hconf : o₁.config = o.config) (hb : o.blobs = .memory bs)
    (hblobs : o₁.blobs = .memory (BlobStore.putBlob (traceKeyOf c)
      (traceBytes (TraceEntry.merge (seenTrace o (traceKeyOf c)) [failureEntry s err])) bs))
    (hevents : o₁.events = o.events ++ [.error c.ref payloadFailure])
    (hmetrics : ∃ ms, o₁.metrics = (o.metrics.dispatched c.kind ms).count c.kind .failed) :
    Polled S r o o₁ [c] none := by
  obtain ⟨ms, hm⟩ := hmetrics
  exact
    { backend := hback
      resolvers := hres
      config := hconf
      memory := ⟨_, hblobs⟩
      scanned := fun c' hc' => List.mem_singleton.mp hc' ▸ hS
      pending := fun c' hc' => List.mem_singleton.mp hc' ▸ ⟨hf, hpend⟩
      nodup := List.nodup_singleton _
      frame := fun i hi => by
        rw [hfound, if_neg]
        rintro rfl
        exact hi List.mem_cons_self
      dispatched := fun d hd => by cases hd
      failed := fun c' hc' => by
        obtain rfl := List.mem_singleton.mp hc'
        exact ⟨err, t, t', s.millis, herr, by rw [hfound, if_pos rfl],
          by rw [hblobs]; exact BlobStore.get_memory_putBlob _ _ bs⟩
      blobs := fun key hkey => by
        have hne : key ≠ traceKeyOf c := by simpa [failedOf] using hkey
        rw [hblobs, hb]
        exact BlobStore.get_memory_putBlob_of_ne hne _ bs
      events := by rw [hevents, failedOf_none, List.map_singleton]
      failedCount := fun k => by
        simp [hm, Metrics.total_count, Metrics.total_dispatched, failedOf, length_filter_kind_singleton]
      dispatchedCount := fun k => by
        simp [hm, Metrics.total_count, Metrics.total_dispatched, length_filter_kind_singleton] }

end Polled

theorem claimEach_polled (r : Runner) : ∀ (cs : List Job) (o : Orchestrator), o.store.Reliable →
    (∃ bs, o.blobs = .memory bs) → ∃ claimed job, (exec (claimEach r cs) o).1 = .ok job ∧
      Polled (fun c => c.id ∈ cs.map (·.id)) r.id o (exec (claimEach r cs) o).2 claimed job
  | [], o, _, hmem => ⟨[], none, rfl, Polled.of_untouched (Untouched.refl o) rfl rfl hmem⟩
  | c :: rest, o, hrel, hmem => by
    have hS : ∀ c' : Job, c'.id ∈ rest.map (·.id) → c'.id ∈ (c :: rest).map (·.id) :=
      fun c' h => List.mem_cons_of_mem _ h
    -- after a stretch that dispatched nothing, the rest of the list claims on from where it stopped
    have cont : ∀ (o₁ : Orchestrator) cl₁,
        Polled (fun j => j.id ∈ (c :: rest).map (·.id)) r.id o o₁ cl₁ none →
        ∃ claimed job, (exec (claimEach r rest) o₁).1 = .ok job ∧
          Polled (fun j => j.id ∈ (c :: rest).map (·.id)) r.id o (exec (claimEach r rest) o₁).2 claimed job := by
      intro o₁ cl₁ h₁
      obtain ⟨claimed, job, hx, hp⟩ := claimEach_polled r rest o₁ (h₁.reliable hrel) h₁.memory
      exact ⟨cl₁ ++ claimed, job, hx, h₁.trans (hp.mono fun c' _ => hS c')⟩
    have skip : ∀ o₁ : Orchestrator, Untouched o o₁ → o₁.resolvers = o.resolvers →
        o₁.config = o.config →
        ∃ claimed job, (exec (claimEach r rest) o₁).1 = .ok job ∧
          Polled (fun j => j.id ∈ (c :: rest).map (·.id)) r.id o (exec (claimEach r rest) o₁).2 claimed job :=
      fun o₁ hu hres hconf => cont o₁ [] (Polled.of_untouched hu hres hconf hmem)
    rw [claimEach, exec_bind, exec_tryLease]
    dsimp only
    split
    · rw [exec_bind, now, exec_modifyGet]
      dsimp only
      rw [exec_bind, exec_call, Store.run_of_reliable hrel]
      dsimp only
      by_cases hp : ∃ c₀, o.store.data.findJob c.id = some c₀ ∧ c₀.status = .pending
      · obtain ⟨c₀, hf, hpend⟩ := hp
        have hid : c₀.id = c.id := JobStore.findJob_id hf
        have hassign : (o.store.data.assignRunner c.id r.id o.wallClock).1 =
            some { c₀ with status := .running, runnerId := some r.id, startedAt := some o.wallClock } := by
          rw [JobStore.assignRunner_of_pending _ _ hf hpend]
        have hfound := JobStore.findJob_assignRunner_of_pending r.id o.wallClock hf hpend
        have hscan : c₀.id ∈ (c :: rest).map (·.id) := hid ▸ List.mem_cons_self
        have hf₀ : o.store.data.findJob c₀.id = some c₀ := hid ▸ hf
        rw [hassign]
        dsimp only
        rw [exec_bind, record, exec_modify]
        dsimp only
        rw [exec_bind, exec_get]
        dsimp only
        split
        · -- the payload resolves: the job is handed over
          rename_i payload hpay
          rw [exec_pure]
          refine ⟨[c₀], _, rfl, Polled.dispatch_one (t := o.wallClock) hscan hf₀ hpend hpay
            (fun i => ?_) ⟨rfl, rfl⟩ rfl rfl hmem rfl rfl ⟨_, rfl⟩⟩
          rw [hfound, hid]
        · -- the payload fails: the job is sealed and the claim goes on with the rest
          rename_i err herr
          obtain ⟨bs, hb⟩ := hmem
          -- the failed claim seals the running record, wherever it stood among the others
          have hsealed : ∀ t i, (((o.store.data.assignRunner c.id r.id o.wallClock).2.updateJob
              (failedRecord
                { c₀ with status := .running, runnerId := some r.id, startedAt := some o.wallClock }
                t)).recordUsage c₀.projectId 0 0).findJob i =
              if c.id = i then
                some (failedRecord
                  { c₀ with status := .running, runnerId := some r.id, startedAt := some o.wallClock } t)
              else o.store.data.findJob i := by
            intro t i
            rw [JobStore.findJob_of_jobs (JobStore.recordUsage_jobs _ _ _ _),
              JobStore.findJob_updateJob_of_found ((hfound c.id).trans (if_pos rfl))
                (failedRecord
                  { c₀ with status := .running, runnerId := some r.id, startedAt := some o.wallClock } t)
                rfl,
              hfound]
            by_cases h : c.id = i <;> simp [h]
          rw [exec_bind, @exec_payloadFailed _ bs]
          · dsimp only
            refine cont _ [c₀] (Polled.fail_one (t := o.wallClock) (s := o.wallClock.addNanos 1) hscan hf₀
              hpend herr (fun i => by rw [hsealed, hid]; rfl) ⟨rfl, rfl⟩ rfl rfl hb ?_ rfl ⟨_, rfl⟩)
            exact congrArg (fun t => BlobStore.memory (BlobStore.putBlob (traceKeyOf c₀)
              (traceBytes (TraceEntry.merge t _)) bs)) (seenTrace_congr rfl)
          · exact hrel
          · exact hb
          · rw [hfound, if_pos hid.symm]
          · rfl
      · rw [JobStore.assignRunner_of_not_pending _ _ fun c₀ hf hpend => hp ⟨c₀, hf, hpend⟩]
        exact skip _ ⟨rfl, rfl, rfl, rfl, rfl, rfl, rfl⟩ rfl rfl
    · exact skip _ ⟨rfl, rfl, rfl, rfl, rfl, rfl, rfl⟩ rfl rfl

-- A candidate of a scan, found again under its id, is a job the filter admits.
theorem admits_of_scanned {s : JobStore} (hi : s.Indexed) {f : JobFilter} {c : Job}
    (hc : c.id ∈ (s.findPending f).map (·.id)) (hf : s.findJob c.id = some c) :
    f.admits c.id c.kind c.zone = true := by
  obtain ⟨c', hc', hid⟩ := List.mem_map.mp hc
  rw [JobStore.findPending_eq_scan hi] at hc'
  have hmem := List.mem_filter.mp (List.mem_of_mem_take hc')
  have hfound := JobStore.findJob_of_mem hi.ascending hmem.1
  rw [hid, hf] at hfound
  cases hfound
  simp only [Bool.and_eq_true, beq_iff_eq] at hmem
  exact hmem.2.2

theorem claimFirst_polled (r : Runner) (f : JobFilter) (o : Orchestrator) (hrel : o.store.Reliable)
    (hi : o.store.data.Indexed) (hmem : ∃ bs, o.blobs = .memory bs) :
    ∃ claimed job, (exec (claimFirst r f) o).1 = .ok job ∧
      Polled (fun c => f.admits c.id c.kind c.zone = true) r.id o (exec (claimFirst r f) o).2 claimed job := by
  -- the scan claims its candidates under whatever mark it records, which claiming never reads
  have claim : ∀ w, ∃ claimed job,
      (exec (claimEach r (o.store.data.findPending f)) { o with watermarks := w }).1 = .ok job ∧
      Polled (fun c => f.admits c.id c.kind c.zone = true) r.id o
        (exec (claimEach r (o.store.data.findPending f)) { o with watermarks := w }).2 claimed job := by
    intro w
    obtain ⟨claimed, job, hx, hp⟩ := claimEach_polled r _ { o with watermarks := w } hrel hmem
    have hw : Polled (fun c => f.admits c.id c.kind c.zone = true) r.id o { o with watermarks := w } [] none :=
      Polled.of_untouched ⟨rfl, rfl, rfl, rfl, rfl, rfl, rfl⟩ rfl rfl hmem
    exact ⟨[] ++ claimed, job, hx, hw.trans (hp.mono fun c hf hc => admits_of_scanned hi hc hf)⟩
  unfold claimFirst
  rw [exec_bind, exec_read_of_reliable hrel]
  dsimp only
  split
  · split
    · rw [exec_bind, exec_modify]
      exact claim _
    · exact claim o.watermarks
  · exact claim o.watermarks

-- A poll's scans claim only eligible jobs: one scan above the mark it reads and, when that
-- dispatches nothing, one more without it.
theorem nextJob_polled (r : Runner) (o : Orchestrator) (hrel : o.store.Reliable) (hi : o.store.data.Indexed)
    (hmem : ∃ bs, o.blobs = .memory bs) :
    ∃ claimed job, (exec (nextJob r) o).1 = .ok job ∧
      Polled r.Eligible r.id o (exec (nextJob r) o).2 claimed job := by
  rw [nextJob, exec_bind, exec_eligibleFilter]
  by_cases hz : r.zone = unknownZone
  · -- no zone: a single scan, with no mark to forget
    rw [if_pos hz]
    dsimp only
    obtain ⟨claimed, job, hx, hp⟩ := claimFirst_polled r _ o hrel hi hmem
    rw [exec_bind]
    rcases hrun : exec (claimFirst r _) o with ⟨res, o₁⟩
    rw [hrun] at hx hp
    subst hx
    have hp' := hp.mono fun c _ hc => (Runner.admits_anywhere r hz _ c).mp hc
    cases job with
    | some d => exact ⟨claimed, some d, rfl, hp'⟩
    | none => exact ⟨claimed, none, rfl, hp'⟩
  rw [if_neg hz]
  dsimp only
  have hadm := Runner.admits_zoned r hz
  set o₁ : Orchestrator := { o with watermarks := (o.watermarks.get r.kind.leader r.zone o.clock).2 } with ho₁
  have h₀ : Polled r.Eligible r.id o o₁ [] none :=
    Polled.of_untouched ⟨rfl, rfl, rfl, rfl, rfl, rfl, rfl⟩ rfl rfl hmem
  obtain ⟨cl₁, job₁, hx, hp⟩ := claimFirst_polled r
    { zone := some r.zone, kinds := r.kind.scope, afterId := (o.watermarks.get r.kind.leader r.zone o.clock).1,
      limit := o.config.dispatchBatchSize } o₁ hrel hi hmem
  have hp₁ := hp.mono fun c _ hc => ((hadm _ _ c).mp hc).1
  rw [exec_bind]
  rcases hrun : exec (claimFirst r _) o₁ with ⟨res, o₂⟩
  rw [hrun] at hx hp₁
  subst hx
  have hi₂ : o₂.store.data.Indexed := by
    have := claimFirst_framed indexKept r
      { zone := some r.zone, kinds := r.kind.scope, afterId := (o.watermarks.get r.kind.leader r.zone o.clock).1,
        limit := o.config.dispatchBatchSize } o₁ hi
    rw [hrun] at this
    exact this
  cases job₁ with
  | some d => exact ⟨[] ++ cl₁, some d, rfl, h₀.trans hp₁⟩
  | none =>
    dsimp only
    cases hb : (o.watermarks.get r.kind.leader r.zone o.clock).1 with
    | none => exact ⟨[] ++ cl₁, none, rfl, h₀.trans hp₁⟩
    | some b =>
      -- the mark hid every eligible job: forget it and scan the whole zone once more
      simp only [Option.isNone_some, Bool.false_eq_true, if_false, exec_bind, exec_modify]
      set o₃ : Orchestrator := { o₂ with watermarks := o₂.watermarks.forget r.kind.leader r.zone } with ho₃
      have h₂₃ : Polled r.Eligible r.id o₂ o₃ [] none :=
        Polled.of_untouched ⟨rfl, rfl, rfl, rfl, rfl, rfl, rfl⟩ rfl rfl hp₁.memory
      obtain ⟨cl₂, job₂, hx₂, hp₂⟩ := claimFirst_polled r
        { zone := some r.zone, kinds := r.kind.scope, afterId := none, limit := o.config.dispatchBatchSize }
        o₃ (hp₁.reliable hrel) hi₂ hp₁.memory
      exact ⟨[] ++ (cl₁ ++ ([] ++ cl₂)), job₂, hx₂,
        h₀.trans (hp₁.trans (h₂₃.trans (hp₂.mono fun c _ hc => ((hadm _ _ c).mp hc).1)))⟩

theorem exec_authenticate_inactive (h : o.store.Reliable) {token : String} (ht : token ≠ "") {R : Runner}
    (hR : o.store.data.findRunnerByToken token = some R) (ha : R.active = false) (info : Option RunnerReport) :
    exec (authenticate token info) o = (.ok R, o) := by
  unfold authenticate
  simp only [ht, if_false, exec_bind, exec_read_of_reliable h, hR, ha, Bool.not_false, if_true, exec_pure]

theorem exec_requestJob_inactive (hrel : o.store.Reliable) {token : String} (info : Option RunnerReport)
    (hm : o.maintenance = false) (ht : token ≠ "") {R : Runner} (hR : o.store.data.findRunnerByToken token = some R)
    (ha : R.active = false) : exec (requestJob token info) o = (.ok {}, o) := by
  unfold requestJob
  rw [exec_bind, exec_get]
  dsimp only
  rw [if_neg (by simp [hm]), exec_bind, exec_authenticate_inactive hrel ht hR ha]
  dsimp only
  rw [if_pos (by simp [ha])]
  rfl

theorem requestJob_active_polled (hrel : o.store.Reliable) (hi : o.store.data.Indexed)
    (hmem : ∃ bs, o.blobs = .memory bs) {token : String} (info : Option RunnerReport) (hm : o.maintenance = false)
    (ht : token ≠ "") {R : Runner} (hR : o.store.data.findRunnerByToken token = some R) (ha : R.active = true) :
    ∃ job claimed,
      ((exec (requestJob token info) o).1 = .ok { job, settings := some (.ofKind R.kind) } ∨
        (exec (requestJob token info) o).1 = .error (.panicked instantOverflow) ∧
          (o.gate.enter o.clock).1 = .panicked) ∧
      Polled R.Eligible R.id o (exec (requestJob token info) o).2 claimed job := by
  obtain ⟨R', hid, hkind, hzone, hactive, hauth⟩ := exec_authenticate_active hrel ht hR ha info
  have helig : ∀ j, R'.Eligible j → R.Eligible j := fun j h => by
    simpa only [Runner.Eligible, hkind, hzone] using h
  unfold requestJob
  rw [exec_bind, exec_get]
  dsimp only
  rw [if_neg (by simp [hm]), exec_bind, hauth]
  dsimp only
  rw [if_neg (by simp [hactive]), exec_bind, exec_get]
  dsimp only
  rw [exec_bind, enterGate, exec_modifyGet]
  dsimp only
  split
  · -- the gate refuses: nothing is claimed, and only the refusal and the wait are counted
    simp only [exec_bind, record, exec_modify, exec_pure, exec_get]
    exact ⟨none, [], .inl (by rw [hkind]),
      (Polled.of_untouched (Untouched.refl o) rfl rfl hmem).after rfl rfl rfl (fun k x => by simp)
        ⟨rfl, rfl⟩ rfl rfl⟩
  · -- the caller's deadline cannot be held: the poll panics before it scans
    rename_i hgate
    simp only [exec_bind, exec_throw]
    exact ⟨none, [], .inr ⟨trivial, hgate⟩, Polled.of_untouched ⟨rfl, rfl, rfl, rfl, rfl, rfl, rfl⟩ rfl rfl hmem⟩
  · set o₂ : Orchestrator := { o with
      store := { o.store with data := o.store.data.saveRunner R' }, wallClock := o.wallClock.addNanos 1,
      gate := (o.gate.enter o.clock).2.1, clock := (o.gate.enter o.clock).2.2 } with ho₂
    have h₀ : Polled R.Eligible R.id o o₂ [] none :=
      Polled.of_untouched ⟨rfl, rfl, rfl, rfl, rfl, rfl, rfl⟩ rfl rfl hmem
    obtain ⟨cl, job, hx, hp⟩ := nextJob_polled R' o₂ hrel ⟨hi.1, hi.2⟩ hmem
    have hp' : Polled R.Eligible R.id o₂ (exec (nextJob R') o₂).2 cl job := hid ▸ hp.mono fun c _ h => helig c h
    rw [exec_bind, exec_tryCatch, exec_map]
    rcases hrun : exec (nextJob R') o₂ with ⟨res, o₃⟩
    rw [hrun] at hx hp'
    subst hx
    simp only [exec_bind, record, exec_modify, exec_pure, exec_get]
    exact ⟨job, [] ++ cl, .inl (by rw [hkind]),
      (h₀.trans hp').after rfl rfl rfl (fun k x => by simp) ⟨rfl, rfl⟩ rfl rfl⟩

-- A poll in maintenance, or by an inactive runner, answers nothing and changes nothing. A poll by an
-- active runner is answered with the settings of its kind and the job it dispatched, if any, and
-- changes only the jobs it claimed: each was pending and eligible for the runner when its scan
-- found it; the last one is handed over running on the runner, and every other one is sealed for
-- want of a payload, with the error line merged onto its trace, one error event and one failure
-- counted. The error line is merged, so a trace that already ends past its stamp keeps it out.
theorem poll_changes_only_claimed_jobs (o : Orchestrator) (token : String) (info : Option RunnerReport)
    (hrel : o.store.Reliable) (hi : o.store.data.Indexed) (hmem : ∃ bs, o.blobs = .memory bs) :
    (o.maintenance = true → exec (requestJob token info) o = (.ok {}, o)) ∧
    ∀ R, o.maintenance = false → token ≠ "" → o.store.data.findRunnerByToken token = some R →
      (R.active = false → exec (requestJob token info) o = (.ok {}, o)) ∧
      (R.active = true → ∃ job claimed,
        ((exec (requestJob token info) o).1 = .ok { job, settings := some (.ofKind R.kind) } ∨
          (exec (requestJob token info) o).1 = .error (.panicked instantOverflow) ∧
            (o.gate.enter o.clock).1 = .panicked) ∧
        Polled R.Eligible R.id o (exec (requestJob token info) o).2 claimed job) :=
  ⟨fun hm => exec_requestJob_maintenance hm token info, fun _ hm ht hR =>
    ⟨exec_requestJob_inactive hrel info hm ht hR, requestJob_active_polled hrel hi hmem info hm ht hR⟩⟩

-- The runner of the served state with two pending jobs, and a resolver that fails for the entity
-- of the first.
def failingState : Orchestrator :=
  { servedState with
    store := { data := (StoreOp.create ⟨.labAnalyze, 1, 2, "zone", none⟩ ⟨0⟩).apply servedStore }
    resolvers := Resolvers.standard.register .labAnalyze (.fail "boom" (some [7]) none)
    wallClock := ⟨0⟩ }

-- The poll claims job 1, whose payload fails: it is sealed done, with one error event and one
-- failure counted. The poll goes on to job 2 and hands it out running.
theorem failing_payload_poll_seals_claim :
    failingState.store.Reliable ∧ failingState.store.data.Indexed ∧
      (∃ bs, failingState.blobs = .memory bs) ∧
      ((failingState.maintenance = true →
          exec (requestJob "token" none) failingState = (.ok {}, failingState)) ∧
        ∀ R, failingState.maintenance = false → "token" ≠ "" →
          failingState.store.data.findRunnerByToken "token" = some R →
          (R.active = false → exec (requestJob "token" none) failingState = (.ok {}, failingState)) ∧
          (R.active = true → ∃ job claimed,
            ((exec (requestJob "token" none) failingState).1 =
                .ok { job, settings := some (.ofKind R.kind) } ∨
              (exec (requestJob "token" none) failingState).1 = .error (.panicked instantOverflow) ∧
                (failingState.gate.enter failingState.clock).1 = .panicked) ∧
            Polled R.Eligible R.id failingState (exec (requestJob "token" none) failingState).2
              claimed job)) ∧
      ((exec (requestJob "token" none) failingState).2.store.data.findJob 1).map (·.status) =
        some .done ∧
      ((exec (requestJob "token" none) failingState).2.store.data.findJob 2).map (·.status) =
        some .running ∧
      (exec (requestJob "token" none) failingState).2.events.length = 1 ∧
      (exec (requestJob "token" none) failingState).2.metrics.total .labAnalyze .failed = 1 := by
  have hrel : failingState.store.Reliable := ⟨rfl, rfl⟩
  have hi : failingState.store.data.Indexed := ⟨by unfold JobStore.Ascending; decide, rfl⟩
  have hmem : ∃ bs, failingState.blobs = .memory bs := ⟨[], rfl⟩
  exact ⟨hrel, hi, hmem, poll_changes_only_claimed_jobs failingState "token" none hrel hi hmem,
    by decide +kernel, by decide +kernel, by decide +kernel, by decide +kernel⟩

-- A job running since the clock's zero.
def aheadJob : Job :=
  { id := 1, iid := 1, projectId := 1, kind := .labAnalyze, entityId := 1, zone := "eu",
    status := .running, runnerId := none, createdAt := ⟨0⟩, startedAt := some ⟨0⟩, endedAt := none,
    duration := none, extra := none }

-- A trace line stamped 5 ms past the clock's zero.
def aheadLine : TraceEntry := ⟨.info, 5, "later", []⟩

-- An orchestrator whose clock stands at zero, whose store holds the job and whose trace of it
-- ends with that line.
def aheadState : Orchestrator :=
  { Orchestrator.create {} with
    wallClock := ⟨0⟩
    store := { data := { jobs := [aheadJob] } }
    blobs := .memory [(traceKeyOf aheadJob, traceBytes [aheadLine])] }

-- The failure's line is stamped before the line the trace ends with, so the merge drops it and the
-- stored trace stays as it was.
theorem failure_line_lost_behind_later_trace :
    (exec (payloadFailed aheadJob "boom") aheadState).2.blobs.get (traceKeyOf aheadJob) =
      .ok (traceBytes [aheadLine]) := by
  have hseen : seenTrace aheadState (traceKeyOf aheadJob) = [aheadLine] :=
    Stored.seen ⟨⟨_, rfl, by rw [List.lookup_cons_self]; rfl⟩, fun _ => by cbv⟩
  have hmerge : TraceEntry.merge [aheadLine] [failureEntry ⟨0⟩ "boom"] = [aheadLine] := rfl
  rw [exec_payloadFailed ⟨rfl, rfl⟩ rfl rfl rfl, BlobStore.get_memory_putBlob, hseen]
  exact congrArg (fun es => Except.ok (traceBytes es)) hmerge

end Orchestrator

end JobDispatch
