import JobDispatch.Proofs.Orchestrator.Ledger

namespace JobDispatch

namespace Orchestrator

-- Started where `P` holds, `m` answers, and `Q` holds of the answer and the state it leaves.
def Spec {α : Type} (P : Orchestrator → Prop) (m : Op α) (Q : α → Orchestrator → Prop) : Prop :=
  ∀ o, P o → ∃ a o', exec m o = (.ok a, o') ∧ Q a o'

namespace Spec

variable {α β γ : Type} {P : Orchestrator → Prop} {Q : α → Orchestrator → Prop}
  {R : β → Orchestrator → Prop}

theorem pure (a : α) (h : ∀ o, P o → Q a o) : Spec P (Pure.pure a : Op α) Q :=
  fun o ho => ⟨a, o, rfl, h o ho⟩

theorem bind {m : Op α} {f : α → Op β} (hm : Spec P m Q) (hf : ∀ a, Spec (Q a) (f a) R) :
    Spec P (m >>= f) R := by
  intro o ho
  obtain ⟨a, o₁, hx, hq⟩ := hm o ho
  obtain ⟨b, o₂, hy, hr⟩ := hf a o₁ hq
  exact ⟨b, o₂, by rw [exec_bind, hx]; exact hy, hr⟩

-- On a store that answers, a call answers what its operation computes.
theorem call {c : StoreCall} {op : JobStore → α × JobStore} {absent : Option α}
    (h : ∀ o, P o → o.store.Reliable ∧
      Q (op o.store.data).1 { o with store := { o.store with data := (op o.store.data).2 } }) :
    Spec P (Orchestrator.call c op absent) Q :=
  fun o ho => ⟨_, _, exec_call_of_reliable (h o ho).1 c op absent, (h o ho).2⟩

theorem tryCall {c : StoreCall} {op : JobStore → α × JobStore} {absent : Option α}
    {Q : Option α → Orchestrator → Prop}
    (h : ∀ o, P o → o.store.Reliable ∧
      Q (some (op o.store.data).1) { o with store := { o.store with data := (op o.store.data).2 } }) :
    Spec P (Orchestrator.tryCall c op absent) Q := by
  intro o ho
  refine ⟨_, _, ?_, (h o ho).2⟩
  rw [Orchestrator.tryCall, exec_tryCatch, exec_map, exec_call_of_reliable (h o ho).1]

theorem get' : Spec P (MonadState.get : Op Orchestrator) fun _ => P :=
  fun o ho => ⟨o, o, rfl, ho⟩

-- Reading the clock moves nothing the books read.
theorem now (hP : ∀ o, P o → P { o with wallClock := o.wallClock.addNanos 1 }) :
    Spec P Orchestrator.now fun _ => P :=
  fun o ho => ⟨_, _, exec_modifyGet o _, hP o ho⟩

-- An operation that answers, with its failures turned into `none`.
theorem optional {m : Op α} {h : DispatchError → Op (Option α)} {Q : Option α → Orchestrator → Prop}
    (hm : Spec P m fun a => Q (some a)) : Spec P (tryCatch (some <$> m) h) Q := by
  intro o ho
  obtain ⟨a, o', hx, hq⟩ := hm o ho
  exact ⟨some a, o', by rw [exec_tryCatch, exec_map, hx], hq⟩

-- A loop whose body always goes on, with an invariant that reads the elements left.
theorem forIn (I : List γ → Orchestrator → Prop) {f : γ → PUnit → Op (ForInStep PUnit)}
    (hf : ∀ x rest, Spec (I (x :: rest)) (f x ⟨⟩) fun r o => r = .yield ⟨⟩ ∧ I rest o) :
    ∀ xs : List γ, Spec (I xs) (ForIn.forIn xs ⟨⟩ f) fun _ => I []
  | [] => pure _ fun _ h => h
  | x :: xs => by
    rw [List.forIn_cons]
    refine bind (hf x xs) fun r => ?_
    intro o ⟨hr, hI⟩
    subst hr
    exact forIn I hf xs o hI

theorem forIn_const {f : γ → PUnit → Op (ForInStep PUnit)} (xs : List γ)
    (hf : ∀ x, Spec P (f x ⟨⟩) fun r o => r = .yield ⟨⟩ ∧ P o) :
    Spec P (ForIn.forIn xs ⟨⟩ f) fun _ => P :=
  forIn (fun _ => P) (fun x _ => hf x) xs

theorem pre {P' : Orchestrator → Prop} {m : Op α} (hP : ∀ o, P o → P' o) (h : Spec P' m Q) :
    Spec P m Q :=
  fun o ho => h o (hP o ho)

end Spec

-- The move of an operation that keeps balanced books balanced.
def Keeps (o o' : Orchestrator) : Prop := Ledger o → Ledger o'

theorem Keeps.chain : Chain Keeps := ⟨fun _ h => h, fun h₁ h₂ hL => h₂ (h₁ hL)⟩

theorem Keeps.of_quiet {α : Type} {m : Op α} (h : Within Quiet m) : Within Keeps m :=
  fun o hL => Owing.quiet hL (h o)

theorem Keeps.of_spec {α : Type} {m : Op α} (h : Spec Ledger m fun _ => Ledger) : Within Keeps m := by
  intro o hL
  obtain ⟨a, o', hx, h'⟩ := h o hL
  rw [hx]
  exact h'

section Steps

variable {a : Arrears}

theorem spec_now : Spec (Owing a) now fun _ => Owing a :=
  Spec.now fun _ h => h.quiet (Quiet.of_store rfl rfl)

theorem spec_publish (e : JobEvent) : Spec (Owing a) (publish e) fun _ => Owing a :=
  fun o h => ⟨_, _, exec_modify o _, h.quiet (Quiet.of_store rfl rfl)⟩

theorem spec_logged {m : Op Unit} (hm : Within Quiet m) : Spec (Owing a) (logged m) fun _ => Owing a :=
  fun o h => ⟨(), _, Prod.ext (exec_logged_ok m o) rfl, h.quiet (Within.logged Quiet.chain hm o)⟩

theorem spec_recordUsage (p n d : Int) (hn : 0 ≤ n) (hle : n ≤ a.jobs p) :
    Spec (Owing a) (call .recordUsage fun s => ((), s.recordUsage p n d)) fun _ => Owing (a.pay p n d) :=
  Spec.call fun _ h => ⟨h.reliable, h.recordUsage p n d hn hle⟩

theorem spec_tryRecordUsage (p n d : Int) (hn : 0 ≤ n) (hle : n ≤ a.jobs p) :
    Spec (Owing a) (tryCall .recordUsage fun s => ((), s.recordUsage p n d)) fun _ => Owing (a.pay p n d) :=
  Spec.tryCall fun _ h => ⟨h.reliable, h.recordUsage p n d hn hle⟩

theorem spec_tryRead {α : Type} (c : StoreCall) (g : JobStore → α) (absent : Option α) :
    Spec (Owing a) (tryCall c (fun s => (g s, s)) absent) fun _ => Owing a :=
  Spec.tryCall fun _ h => ⟨h.reliable, h⟩

theorem spec_created (k : JobKind) : Spec (Owing a) (record fun m => m.count k .created) fun _ => Owing a :=
  fun o h => ⟨_, _, exec_modify o _, h.quiet ⟨rfl, rfl, rfl, rfl, fun k' x hx => by
    simp [Metrics.total_count, hx], rfl, rfl⟩⟩

theorem spec_count (k : JobKind) {x : Outcome} (hx : x = .succeeded ∨ x = .failed) :
    Spec (Owing a) (record fun m => m.count k x) fun _ => Owing (a.count k) :=
  fun o h => ⟨_, _, exec_modify o _, h.count hx k⟩

-- A seal charged and counted is paid.
theorem Owing.settle_finish {o : Orchestrator} {p : Int} {k : JobKind} {d : Int}
    (h : Owing (((a.finish p k d).pay p 0 d).count k) o) : Owing a o := by
  refine h.congr (fun q => ?_) (fun q => ?_) (fun k' => ?_) (fun k' => rfl)
  · simp [Arrears.count, Arrears.pay, Arrears.finish]
  · simp [Arrears.count, Arrears.pay, Arrears.finish]
  · simp [Arrears.count, Arrears.pay, Arrears.finish]

-- A dispatch counted is paid.
theorem Owing.settle_start {o : Orchestrator} {k : JobKind} (h : Owing ((a.start k).dispatch k) o) :
    Owing a o := by
  refine h.congr (fun _ => rfl) (fun _ => rfl) (fun _ => rfl) (fun k' => ?_)
  simp [Arrears.dispatch, Arrears.start]

-- Sealing a running job with a finished status owes its project the time and its kind the
-- count; any other job is left alone.
theorem Owing.completeJob {o : Orchestrator} (h : Owing a o) (id : Int) (c : Completion)
    (hc : c.status.finished = true) :
    match (o.store.data.completeJob id c).1 with
    | none => Owing a { o with store := { o.store with data := (o.store.data.completeJob id c).2 } }
    | some J => Owing (a.finish J.projectId J.kind c.durationMs)
        { o with store := { o.store with data := (o.store.data.completeJob id c).2 } } := by
  by_cases hrun : ∃ J, o.store.data.findJob id = some J ∧ J.status = .running
  · obtain ⟨J, hf, hr⟩ := hrun
    have h' := h.complete hf hr c hc
    rw [JobStore.completeJob_of_running _ hf hr] at h' ⊢
    exact h'
  · rw [JobStore.completeJob_of_not_running _ fun J hf hr => hrun ⟨J, hf, hr⟩]
    exact h

theorem spec_complete (id : Int) (c : Completion) (hc : c.status.finished = true) :
    Spec (Owing a) (call .completeJob (·.completeJob id c) (some none)) fun r o => match r with
      | none => Owing a o
      | some J => Owing (a.finish J.projectId J.kind c.durationMs) o :=
  Spec.call fun _ h => ⟨h.reliable, h.completeJob id c hc⟩

theorem spec_tryComplete (id : Int) (c : Completion) (hc : c.status.finished = true) :
    Spec (Owing a) (tryCall .completeJob (·.completeJob id c) (some none)) fun r o => match r.join with
      | none => Owing a o
      | some J => Owing (a.finish J.projectId J.kind c.durationMs) o :=
  Spec.tryCall fun _ h => ⟨h.reliable, h.completeJob id c hc⟩

theorem spec_purgeLeases : Spec (Owing a) purgeLeases fun _ => Owing a :=
  fun o h => ⟨_, _, exec_modifyGet o _, h.quiet (Quiet.of_store rfl rfl)⟩

theorem spec_cancel (id : Int) (t : Timestamp) :
    Spec (Owing a) (call .cancelJob (·.cancelJob id t) (some none)) fun _ => Owing a :=
  Spec.call fun _ h => ⟨h.reliable, h.cancel id t⟩

end Steps

theorem quiet_eligibleFilter (r : Runner) : Within Quiet (eligibleFilter r) := by
  unfold eligibleFilter watermark
  refine Within.bind Quiet.chain (Within.get Quiet.chain) fun _ => ?_
  dsimp only
  split
  · exact Within.pure Quiet.chain _
  · exact Within.bind Quiet.chain (Quiet.modifyGet fun _ => ⟨rfl, rfl⟩) fun _ => Within.pure Quiet.chain _

-- Sealing a job with a finished status charges its project the time and counts the job before
-- it answers; a job that is no longer running is left alone.
theorem spec_jobDone (j : Job) {st : JobStatus} (hst : st.finished = true) (d : Int) (errored : Bool)
    (logs : List TraceEntry) : Spec Ledger (jobDone j st d errored logs) fun _ => Ledger := by
  unfold jobDone
  refine Spec.bind spec_now fun t => ?_
  refine Spec.bind (spec_complete j.id ⟨st, d, t⟩ hst) fun r => ?_
  cases r with
  | none => exact Spec.pure _ fun _ h => h
  | some J =>
    refine Spec.bind (spec_recordUsage J.projectId 0 d le_rfl (by simp [Arrears.finish, Arrears.settled]))
      fun _ => ?_
    refine Spec.bind (spec_logged (Within.bind Quiet.chain (quiet_appendTrace _ _) fun _ =>
      Within.pure Quiet.chain _)) fun _ => ?_
    refine Spec.bind (spec_count J.kind (by split <;> simp)) fun _ => ?_
    exact Spec.pure _ fun _ h => Owing.settle_finish h

theorem keeps_payloadFailed (j : Job) (err : String) : Within Keeps (payloadFailed j err) := by
  unfold payloadFailed
  exact Within.bind Keeps.chain (Keeps.of_quiet quiet_now) fun _ =>
    Within.bind Keeps.chain (Within.logged Keeps.chain (Within.bind Keeps.chain
      (Keeps.of_spec (spec_jobDone _ rfl _ _ _)) fun _ => Within.pure Keeps.chain _)) fun _ =>
        Keeps.of_quiet (quiet_publish _)

-- A claim hands a pending job to the runner and counts its dispatch in one step.
theorem spec_assign (c : Job) (r : Runner) (t : Timestamp) :
    Spec Ledger (call .assignRunner (·.assignRunner c.id r.id t) (some none))
      fun x o => match x with
        | none => Ledger o
        | some J => J.startedAt.isSome ∧ Owing (Arrears.settled.start J.kind) o := by
  refine Spec.call fun o hL => ⟨hL.reliable, ?_⟩
  by_cases hpend : ∃ J, o.store.data.findJob c.id = some J ∧ J.status = .pending
  · obtain ⟨J, hf, hp⟩ := hpend
    have h := hL.assign hf hp r.id t
    rw [JobStore.assignRunner_of_pending _ _ hf hp] at h ⊢
    exact ⟨rfl, h⟩
  · rw [JobStore.assignRunner_of_not_pending _ _ fun J hf hp => hpend ⟨J, hf, hp⟩]
    exact hL

theorem keeps_claimEach (r : Runner) : ∀ cs : List Job, Within Keeps (claimEach r cs)
  | [] => Within.pure Keeps.chain _
  | c :: rest => by
    rw [claimEach]
    dsimp only
    refine Within.bind Keeps.chain (Keeps.of_quiet (Quiet.modifyGet fun _ => ⟨rfl, rfl⟩)) fun lease => ?_
    split
    · refine Within.bind Keeps.chain (Keeps.of_quiet quiet_now) fun t => ?_
      intro o hL
      obtain ⟨x, o₁, hx, hq⟩ := spec_assign c r t o hL
      rw [exec_bind, hx]
      dsimp only
      cases x with
      | none => exact keeps_claimEach r rest o₁ hq
      | some J =>
        obtain ⟨hs, hA⟩ := hq
        obtain ⟨s, hsome⟩ := Option.isSome_iff_exists.mp hs
        -- the job was started just now, so its dispatch is counted before anything else
        dsimp only
        rw [hsome]
        dsimp only
        rw [exec_bind, record, exec_modify]
        refine (Within.bind Keeps.chain (Within.get Keeps.chain) fun o' => ?_) _
          (hA.dispatched J.kind (s.millisBetween J.createdAt)).settle_start
        split
        · exact Within.pure Keeps.chain _
        · exact Within.bind Keeps.chain (keeps_payloadFailed _ _) fun _ => keeps_claimEach r rest
    · exact keeps_claimEach r rest

theorem keeps_claimFirst (r : Runner) (f : JobFilter) : Within Keeps (claimFirst r f) := by
  unfold claimFirst
  refine Within.bind Keeps.chain (Keeps.of_quiet Quiet.read) fun candidates => ?_
  dsimp only
  split
  · split
    · exact Within.bind Keeps.chain (Keeps.of_quiet (Quiet.modify fun _ => ⟨rfl, rfl⟩)) fun _ =>
        keeps_claimEach r candidates
    · exact keeps_claimEach r candidates
  · exact keeps_claimEach r candidates

theorem keeps_nextJob (r : Runner) : Within Keeps (nextJob r) := by
  unfold nextJob
  refine Within.bind Keeps.chain (Keeps.of_quiet (quiet_eligibleFilter r)) fun f => ?_
  refine Within.bind Keeps.chain (keeps_claimFirst r f) fun job => ?_
  split
  · exact Within.pure Keeps.chain _
  split
  · exact Within.pure Keeps.chain _
  split
  · exact Within.bind Keeps.chain (Keeps.of_quiet (Quiet.modify fun _ => ⟨rfl, rfl⟩)) fun _ =>
      keeps_claimFirst r _
  · exact keeps_claimFirst r _

theorem keeps_requestJob (token : String) (info : Option RunnerReport) :
    Within Keeps (requestJob token info) := by
  unfold requestJob
  dsimp only
  refine Within.bind Keeps.chain (Within.get Keeps.chain) fun o => ?_
  split
  · exact Within.pure Keeps.chain _
  refine Within.bind Keeps.chain (Keeps.of_quiet (quiet_authenticate _ _)) fun runner => ?_
  split
  · exact Within.pure Keeps.chain _
  refine Within.bind Keeps.chain (Within.get Keeps.chain) fun started =>
    Within.bind Keeps.chain (Keeps.of_quiet (Quiet.modifyGet fun _ => ⟨rfl, rfl⟩)) fun gate => ?_
  have answer : ∀ job : Option DispatchedJob, Within Keeps (do
      let o ← get
      record fun x => x.requestTook (o.clock - started.clock) job.isSome
      Pure.pure ({ job := job, settings := some (RunnerSettings.ofKind runner.kind) } : PollAnswer)) :=
    fun _ => Within.bind Keeps.chain (Within.get Keeps.chain) fun _ =>
      Within.bind Keeps.chain (Keeps.of_quiet (Quiet.record fun _ _ _ _ => rfl)) fun _ =>
        Within.pure Keeps.chain _
  split
  · exact Within.bind Keeps.chain (Keeps.of_quiet (Quiet.record fun _ _ _ _ => rfl)) fun _ =>
      Within.bind Keeps.chain (Within.pure Keeps.chain _) answer
  · exact Within.throw_bind Keeps.chain _ _
  refine Within.bind Keeps.chain (Within.tryCatch Keeps.chain (Within.map _ (keeps_nextJob runner))
    fun _ => Within.pure Keeps.chain _) fun result => ?_
  refine Within.bind Keeps.chain (Keeps.of_quiet (Quiet.modify fun _ => ⟨rfl, rfl⟩)) fun _ => ?_
  split
  · exact Within.bind Keeps.chain (Within.pure Keeps.chain _) answer
  · exact Within.throw_bind Keeps.chain _ _

theorem keeps_updateTrace (token : String) (p : TraceReport) : Within Keeps (updateTrace token p) := by
  unfold updateTrace
  dsimp only
  refine Within.bind Keeps.chain (Keeps.of_quiet (quiet_authenticate _ _)) fun runner => ?_
  refine Within.bind Keeps.chain (Keeps.of_quiet (quiet_getJob _)) fun job => ?_
  split
  · exact Within.throw_bind Keeps.chain _ _
  split
  · exact Within.pure Keeps.chain _
  refine Within.bind Keeps.chain (Within.logged Keeps.chain (Keeps.of_quiet (Within.bind Quiet.chain
    (quiet_appendTrace _ _) fun _ => Within.pure Quiet.chain _))) fun _ => ?_
  -- the seal, with `failed` or `done`, comes before the events in both branches
  split
  · split <;>
    · refine Within.bind Keeps.chain (Keeps.of_spec (spec_jobDone _ rfl _ _ _)) fun _ => ?_
      repeat (first | exact Within.pure Keeps.chain _ |
        refine Within.bind Keeps.chain (Keeps.of_quiet (quiet_publish _)) fun _ => ?_ | split)
  · repeat (first | exact Within.pure Keeps.chain _ |
      refine Within.bind Keeps.chain (Keeps.of_quiet (quiet_publish _)) fun _ => ?_ | split)

theorem keeps_cancelJob (id : Int) : Within Keeps (cancelJob id) := by
  unfold cancelJob
  exact Within.bind Keeps.chain (Keeps.of_quiet (quiet_getJob _)) fun _ => Keeps.of_spec
    (Spec.bind spec_now fun t => Spec.bind (spec_cancel id t) fun _ => Spec.pure _ fun _ h => h)

section Rows

-- The charges of a batch and of a sweep are tables of one row per project, ascending.

theorem nodup_eraseDups {α : Type} [BEq α] [LawfulBEq α] : (xs : List α) → xs.eraseDups.Nodup
  | [] => List.nodup_nil
  | a :: as => by
    rw [List.eraseDups_cons]
    refine List.nodup_cons.mpr ⟨fun h => ?_, nodup_eraseDups _⟩
    rw [List.mem_eraseDups, List.mem_filter] at h
    simp at h
termination_by xs => xs.length
decreasing_by exact Nat.lt_succ_of_le (List.length_filter_le _ _)

theorem lookup_map_row (ps : List Int) (v : Int → Int) (q : Int) :
    (ps.map fun p => (p, v p)).lookup q = if q ∈ ps then some (v q) else none := by
  induction ps with
  | nil => simp
  | cons p rest ih =>
    by_cases hq : q = p
    · subst hq; simp
    · simp [List.lookup_cons, beq_eq_false_iff_ne.mpr hq, hq, ih]

theorem lookup_projectRows (xs : List Int) (v : Int → Int) (q : Int) :
    ((xs.eraseDups.mergeSort fun a b => decide (a ≤ b)).map fun p => (p, v p)).lookup q =
      if q ∈ xs then some (v q) else none := by
  have hmem : q ∈ (xs.eraseDups.mergeSort fun a b => decide (a ≤ b)) ↔ q ∈ xs := by
    rw [(List.mergeSort_perm _ _).mem_iff, List.mem_eraseDups]
  rw [lookup_map_row]
  by_cases hq : q ∈ xs
  · rw [if_pos (hmem.mpr hq), if_pos hq]
  · rw [if_neg (mt hmem.mp hq), if_neg hq]

theorem nodup_projectRows (xs : List Int) (v : Int → Int) :
    (((xs.eraseDups.mergeSort fun a b => decide (a ≤ b)).map fun p => (p, v p)).map Prod.fst).Nodup := by
  have hkeys : ((xs.eraseDups.mergeSort fun a b => decide (a ≤ b)).map fun p => (p, v p)).map Prod.fst =
      xs.eraseDups.mergeSort fun a b => decide (a ≤ b) := by
    simp [List.map_map, Function.comp_def]
  rw [hkeys]
  exact (List.mergeSort_perm _ _).nodup_iff.mpr (nodup_eraseDups xs)

-- Paying the first row of a table with distinct keys leaves the other rows owed.
theorem lookup_pay_row {p v : Int} {rest : List (Int × Int)} (hnd : (((p, v) :: rest).map Prod.fst).Nodup)
    (q : Int) : (((p, v) :: rest).lookup q).getD 0 - (if p = q then v else 0) = (rest.lookup q).getD 0 := by
  by_cases hq : p = q
  · subst hq
    have hout : p ∉ rest.map Prod.fst := (List.nodup_cons.mp hnd).1
    have hnone : rest.lookup p = none := by
      induction rest with
      | nil => rfl
      | cons e rest ih =>
        obtain ⟨k, w⟩ := e
        have hk : p ≠ k := fun h => hout (by simp [h])
        simp only [List.lookup_cons, beq_eq_false_iff_ne.mpr hk]
        exact ih (List.nodup_cons.mpr ⟨fun h => hout (by simp_all), ((List.nodup_cons.mp hnd).2.sublist
          (by simp))⟩) (fun h => hout (by simp_all))
    simp [hnone]
  · simp [List.lookup_cons, beq_eq_false_iff_ne.mpr (Ne.symm hq), hq]

theorem lookup_perProject (jobs : List Job) (q : Int) :
    ((perProject jobs).lookup q).getD 0 = ((jobs.filter fun j => decide (j.projectId = q)).length : Int) := by
  unfold perProject
  rw [lookup_projectRows]
  split
  · rfl
  · rename_i hq
    have hnone : jobs.filter (fun j => decide (j.projectId = q)) = [] :=
      List.filter_eq_nil_iff.mpr fun j hj hp => hq (List.mem_map.mpr ⟨j, hj, by simpa using hp⟩)
    simp [hnone]

-- Adding up with a wrap after every addition is adding up and wrapping once.
theorem foldl_wrap {f : Int → Job × Int → Int} (hf : ∀ acc x, f acc x = wrapI64 (acc + x.2)) :
    ∀ (xs : List (Job × Int)) (a : Int), xs.foldl f (wrapI64 a) = wrapI64 (a + (xs.map (·.2)).sum)
  | [], a => by simp
  | x :: rest, a => by
    rw [List.foldl_cons, hf, wrapI64_add_wrapI64, foldl_wrap hf rest, List.map_cons, List.sum_cons]
    congr 1
    omega

theorem lookup_chargeOf (reaped : List (Job × Int)) (q : Int) :
    ((chargeOf reaped).lookup q).getD 0 =
      wrapI64 (((reaped.filter fun x => decide (x.1.projectId = q)).map (·.2)).sum) := by
  unfold chargeOf
  rw [lookup_projectRows]
  split
  · rw [Option.getD_some, ← wrapI64_zero, foldl_wrap (fun _ x => by cases x; rfl), Int.zero_add]
  · rename_i hq
    have hnone : reaped.filter (fun x => decide (x.1.projectId = q)) = [] :=
      List.filter_eq_nil_iff.mpr fun x hx hp => hq (List.mem_map.mpr ⟨x, hx, by simpa using hp⟩)
    simp [hnone, wrapI64_zero]

end Rows

-- The ids left below the largest 64-bit id cover one creation for each request of a concrete
-- kind.
def IdsFor (reqs : List JobRequest) (o : Orchestrator) : Prop :=
  o.store.data.lastJobId + ((reqs.filter fun r => decide (r.kind ≠ .all)).length : Int) ≤ maxJobId

section Create

variable {a : Arrears}

theorem spec_createJob (req : JobRequest) (hk : req.kind ≠ .all) (n : Int) :
    Spec (fun o => Owing a o ∧ o.store.data.lastJobId = n ∧ n < maxJobId) (createJob req)
      fun j o => Owing (a.create req.projectId) o ∧ o.store.data.lastJobId = n + 1 ∧
        j.projectId = req.projectId := by
  unfold createJob
  dsimp only
  split
  · rename_i h; exact absurd h hk
  · refine Spec.bind Spec.get' fun o₀ => Spec.bind (Spec.now fun o ⟨h, h1, h2⟩ =>
      ⟨h.quiet (Quiet.of_store rfl rfl), h1, h2⟩) fun t => Spec.call fun o ⟨h, hn, hmax⟩ => ?_
    have hb : o.store.data.lastJobId < maxJobId := by rw [hn]; exact hmax
    refine ⟨h.reliable,
      h.create hb ⟨req.kind, req.projectId, req.entityId, req.zone.getD o₀.config.defaultJobZone, req.extra⟩ t,
      ?_, rfl⟩
    rw [JobStore.createJob_lastJobId, wrapI64_succ h.sound.numbered.nonneg hb, hn]

-- A request of a concrete kind creates one job, and a request of every kind is skipped.
theorem spec_createOrSkip (req : JobRequest) (rest : List JobRequest) :
    Spec (fun o => Owing a o ∧ IdsFor (req :: rest) o) (tryCatch (some <$> createJob req) fun _ => pure none)
      fun x o => match x with
        | none => Owing a o ∧ IdsFor rest o
        | some j => Owing (a.create j.projectId) o ∧ IdsFor rest o := by
  intro o ⟨h, hids⟩
  unfold IdsFor at hids
  by_cases hk : req.kind = .all
  · refine ⟨none, o, ?_, h, by simpa [IdsFor, hk] using hids⟩
    simp [createJob, hk, exec_tryCatch]
  · have hcount : o.store.data.lastJobId + 1 +
        ((rest.filter fun r => decide (r.kind ≠ .all)).length : Int) ≤ maxJobId := by
      rw [List.filter_cons_of_pos (by simpa using hk), List.length_cons, Nat.cast_succ] at hids
      omega
    have h0 : 0 ≤ ((rest.filter fun r => decide (r.kind ≠ .all)).length : Int) := Int.natCast_nonneg _
    obtain ⟨j, o', hx, hA, hl, hp⟩ :=
      spec_createJob req hk o.store.data.lastJobId o ⟨h, rfl, by omega⟩
    refine ⟨some j, o', by rw [exec_tryCatch, exec_map, hx], ?_, ?_⟩
    · rw [hp]; exact hA
    · unfold IdsFor
      rw [hl]
      omega

theorem spec_createEach : ∀ (reqs : List JobRequest) (a : Arrears),
    Spec (fun o => Owing a o ∧ IdsFor reqs o)
      (reqs.filterMapM fun r => tryCatch (some <$> createJob r) fun _ => pure none)
      fun jobs => Owing { a with jobs := fun q => a.jobs q + ((jobs.filter fun j => decide (j.projectId = q)).length : Int) }
  | [], a => Spec.pure _ fun _ h => h.1.congr (fun q => by simp) (fun _ => rfl) (fun _ => rfl) (fun _ => rfl)
  | req :: rest, a => by
    rw [List.filterMapM_cons]
    refine Spec.bind (spec_createOrSkip req rest) fun x => ?_
    cases x with
    | none => exact spec_createEach rest a
    | some j =>
      refine Spec.bind (spec_createEach rest (a.create j.projectId)) fun jobs => Spec.pure _ fun _ h => ?_
      refine h.congr (fun q => ?_) (fun _ => rfl) (fun _ => rfl) (fun _ => rfl)
      by_cases hq : j.projectId = q
      · simp [Arrears.create, hq]
        omega
      · simp [Arrears.create, hq]

theorem perProject_rows (jobs : List Job) :
    ((perProject jobs).map Prod.fst).Nodup ∧ ∀ e ∈ perProject jobs, 0 ≤ e.2 := by
  unfold perProject
  refine ⟨nodup_projectRows _ _, fun e he => ?_⟩
  obtain ⟨p, -, rfl⟩ := List.mem_map.mp he
  exact Int.natCast_nonneg _

-- A batch creation counts each created job on its project's row before it answers.
theorem spec_createJobs (reqs : List JobRequest) :
    Spec (fun o => Ledger o ∧ IdsFor reqs o) (createJobs reqs) fun _ => Ledger := by
  unfold createJobs
  refine Spec.bind (spec_createEach reqs Arrears.settled) fun jobs => ?_
  -- the created jobs are counted in the metrics, which the books do not read
  refine Spec.bind (Spec.forIn_const jobs fun j => Spec.bind (spec_created j.kind) fun _ =>
    Spec.pure _ fun _ h => ⟨rfl, h⟩) fun _ => ?_
  -- each project's row is charged its jobs once: the rows left are what is still owed
  let owed : List (Int × Int) → Orchestrator → Prop := fun rows o =>
    Owing ⟨fun q => (rows.lookup q).getD 0, fun _ => 0, fun _ => 0, fun _ => 0⟩ o ∧
      (rows.map Prod.fst).Nodup ∧ ∀ e ∈ rows, 0 ≤ e.2
  refine Spec.bind (Spec.pre (fun o h => ?_) (Spec.forIn owed (fun x rest => ?_) _)) fun _ =>
    Spec.pure _ fun o h => h.1.congr (fun _ => rfl) (fun _ => rfl) (fun _ => rfl) (fun _ => rfl)
  · refine ⟨h.congr (fun q => ?_) (fun _ => rfl) (fun _ => rfl) (fun _ => rfl), perProject_rows jobs⟩
    dsimp only
    rw [lookup_perProject]
    simp [Arrears.settled]
  · obtain ⟨p, n⟩ := x
    intro o ⟨h, hnd, hpos⟩
    have hn : 0 ≤ n := hpos (p, n) List.mem_cons_self
    obtain ⟨_, o', hx, h'⟩ := spec_tryRecordUsage p n 0 hn (by simp) o h
    refine ⟨_, o', by dsimp only; rw [exec_bind, hx]; rfl, rfl, ?_, (List.nodup_cons.mp hnd).2,
      fun e he => hpos e (List.mem_cons_of_mem _ he)⟩
    refine h'.congr (fun q => (lookup_pay_row hnd q).symm) (fun q => by simp [Arrears.pay]) (fun _ => rfl)
      (fun _ => rfl)

end Create

section Sweep

-- The reaper seals a stale job as done and counts it as failed; its time stays owed on its
-- project's row until the sweep charges it.
theorem spec_reapEach (now : Timestamp) : ∀ (stale : List Job) (a : Arrears),
    Spec (Owing a) (reapEach now stale) fun reaped => Owing { a with
      ms := fun q => a.ms q + ((reaped.filter fun x => decide (x.1.projectId = q)).map (·.2)).sum }
  | [], a => Spec.pure _ fun _ h => h.congr (fun _ => rfl) (fun q => by simp) (fun _ => rfl) (fun _ => rfl)
  | j :: rest, a => by
    rw [reapEach]
    refine Spec.bind (spec_tryComplete j.id _ rfl) fun sealed => ?_
    rcases sealed with _ | _ | J
    · exact spec_reapEach now rest a
    · exact spec_reapEach now rest a
    · refine Spec.bind (spec_count J.kind (Or.inr rfl)) fun _ => Spec.bind (spec_publish _) fun _ =>
        Spec.bind (spec_reapEach now rest _) fun reaped => Spec.pure _ fun o h => ?_
      refine h.congr (fun _ => rfl) (fun q => ?_) (fun k => ?_) (fun _ => rfl)
      · congr 1
        by_cases hq : J.projectId = q
        · simp [Arrears.count, Arrears.finish, hq]
          omega
        · simp [Arrears.count, Arrears.finish, hq]
      · simp [Arrears.count, Arrears.finish]

-- A sweep charges each project the time of the jobs it reaped, so it leaves the books balanced.
theorem spec_sweep : Spec Ledger sweep fun _ => Ledger := by
  unfold sweep
  refine Spec.bind spec_now fun t => Spec.bind Spec.get' fun o₀ => ?_
  split
  · refine Spec.bind (spec_tryRead _ _ _) fun stale => ?_
    split
    · refine Spec.bind (spec_reapEach t _ Arrears.settled) fun reaped => ?_
      -- each project's row is charged its reaped time once: the rows left are still owed
      let owed : List (Int × Int) → Orchestrator → Prop := fun rows o =>
        Owing ⟨fun _ => 0, fun q => (rows.lookup q).getD 0, fun _ => 0, fun _ => 0⟩ o ∧
          (rows.map Prod.fst).Nodup
      have hentry : ∀ o, Owing { Arrears.settled with ms := fun q => Arrears.settled.ms q +
          ((reaped.filter fun x => decide (x.1.projectId = q)).map (·.2)).sum } o → owed (chargeOf reaped) o := by
        intro o h
        refine ⟨h.congr (fun _ => rfl) (fun q => ?_) (fun _ => rfl) (fun _ => rfl), ?_⟩
        · dsimp only
          rw [lookup_chargeOf, wrapI64_emod]
          simp [Arrears.settled]
        · unfold chargeOf
          exact nodup_projectRows _ _
      have hexit : ∀ o, owed [] o → Ledger o :=
        fun o h => h.1.congr (fun _ => rfl) (fun _ => rfl) (fun _ => rfl) (fun _ => rfl)
      refine Spec.bind (Spec.pre hentry (Spec.forIn owed (fun x rest => ?_) _)) fun _ =>
        Spec.pre hexit (Spec.bind spec_purgeLeases fun _ => Spec.pure _ fun _ h => h)
      obtain ⟨p, d⟩ := x
      intro o ⟨h, hnd⟩
      obtain ⟨_, o', hx, h'⟩ := spec_tryRecordUsage p 0 d le_rfl le_rfl o h
      refine ⟨_, o', by dsimp only; rw [exec_bind, hx]; rfl, rfl, ?_, (List.nodup_cons.mp hnd).2⟩
      refine h'.congr (fun q => by simp [Arrears.pay]) (fun q => ?_) (fun _ => rfl) (fun _ => rfl)
      simp only [Arrears.pay]
      rw [lookup_pay_row hnd q]
    · exact Spec.pure _ fun _ h => h
  · exact Spec.pure _ fun _ h => h

end Sweep

section Runs

-- One operation of the service on its books: a batch creation whose requests of a concrete
-- kind all fit below the largest 64-bit id, a poll for a job (with the claim, its dispatch count
-- and the payload failures it seals), a trace report, a cancellation, a sweep of the reaper, or a
-- change that leaves the jobs, the usage rows and the job metrics other than creations alone,
-- such as registering a runner or moving a clock.
inductive BookStep : Orchestrator → Orchestrator → Prop
  | createJobs (reqs : List JobRequest) (o : Orchestrator) : IdsFor reqs o →
      BookStep o (exec (createJobs reqs) o).2
  | requestJob (token : String) (info : Option RunnerReport) (o : Orchestrator) :
      BookStep o (exec (requestJob token info) o).2
  | updateTrace (token : String) (p : TraceReport) (o : Orchestrator) :
      BookStep o (exec (updateTrace token p) o).2
  | cancelJob (id : Int) (o : Orchestrator) : BookStep o (exec (cancelJob id) o).2
  | sweep (o : Orchestrator) : BookStep o (exec sweep o).2
  | quiet {o o' : Orchestrator} : Quiet o o' → BookStep o o'

theorem ledger_create (c : Config) : Ledger (Orchestrator.create c) where
  reliable := ⟨rfl, rfl⟩
  sound := JobStore.sound_empty
  jobCount _ := rfl
  counted _ := le_rfl
  jobDuration _ := wrapI64_zero.symm
  finished _ := rfl
  started _ := rfl

theorem BookStep.ledger {o o' : Orchestrator} (h : BookStep o o') (hL : Ledger o) : Ledger o' := by
  cases h with
  | createJobs reqs _ hids =>
    obtain ⟨_, o', hx, h'⟩ := spec_createJobs reqs o ⟨hL, hids⟩
    rw [hx]
    exact h'
  | requestJob token info => exact keeps_requestJob token info o hL
  | updateTrace token p => exact keeps_updateTrace token p o hL
  | cancelJob id => exact keeps_cancelJob id o hL
  | sweep => exact Keeps.of_spec spec_sweep o hL
  | quiet hq => exact hL.quiet hq

theorem ledger_of_run {c : Config} {o : Orchestrator}
    (hrun : Relation.ReflTransGen BookStep (Orchestrator.create c) o) : Ledger o := by
  induction hrun with
  | refl => exact ledger_create c
  | tail _ hs ih => exact hs.ledger ih

-- Every job is accounted for exactly once. Along every run of the service from a fresh one,
-- each project's row counts the project's jobs and holds the run time of its done and failed
-- jobs, summed and wrapped at 64 bits; per kind, the succeeded and failed counters together count
-- the done and failed jobs, canceled ones never, and the dispatch counter counts the jobs that
-- were started by a claim.
theorem usage_and_metrics_count_each_job {c : Config} {o : Orchestrator}
    (hrun : Relation.ReflTransGen BookStep (Orchestrator.create c) o) :
    (∀ p, (o.store.data.projectUsage p).jobCount =
      ((o.store.data.jobs.filter fun j => j.projectId = p).length : Int)) ∧
    (∀ p, (o.store.data.projectUsage p).jobDurationMs =
      wrapI64 (((o.store.data.jobs.filter fun j => j.projectId = p ∧ j.status.finished).map
        fun j => j.duration.getD 0).sum)) ∧
    (∀ k, o.metrics.total k .succeeded + o.metrics.total k .failed =
      (o.store.data.jobs.filter fun j => j.kind = k ∧ j.status.finished).length) ∧
    (∀ k, o.metrics.total k .dispatched =
      (o.store.data.jobs.filter fun j => j.kind = k ∧ j.startedAt.isSome).length) := by
  have hL := ledger_of_run hrun
  refine ⟨fun p => ?_, fun p => ?_, fun k => ?_, fun k => ?_⟩
  · have h := hL.jobCount p
    rw [JobStore.jobsOf, JobStore.tally_ite_one] at h
    simpa [Arrears.settled] using h
  · rw [hL.jobDuration p, JobStore.ranMs, JobStore.tally_ite]
    simp [Arrears.settled]
  · have h := hL.finished k
    rw [JobStore.finishedOf, JobStore.tally_ite_one] at h
    simp only [Arrears.settled, add_zero] at h
    exact_mod_cast h
  · have h := hL.started k
    rw [JobStore.startedOf, JobStore.tally_ite_one] at h
    simp only [Arrears.settled, add_zero] at h
    exact_mod_cast h

-- A runner of every kind, seeded into a fresh service whose wall clock stands at zero.
def ledgerRunner : Runner :=
  { id := ⟨1⟩, name := "runner", token := "token", kind := .all, zone := unknownZone,
    active := true, contactedAt := ⟨0⟩, createdAt := ⟨0⟩ }

def ledgerOpened : Orchestrator :=
  { Orchestrator.create {} with
    store := { data := ({} : JobStore).createRunner ledgerRunner }
    wallClock := ⟨0⟩ }

-- A batch of two jobs of project 7.
def ledgerBatch : Orchestrator :=
  (exec (createJobs [{ kind := .labAnalyze, projectId := 7, entityId := 1 },
    { kind := .labAnalyze, projectId := 7, entityId := 2 }]) ledgerOpened).2

-- The runner takes job 1 and reports it done after `i64::MAX` milliseconds.
def ledgerFirstDone : Orchestrator :=
  (exec (updateTrace "token" { jobId := 1, done := true, duration := some 9223372036854775807 })
    (exec (requestJob "token" none) ledgerBatch).2).2

-- The runner takes job 2 and never reports; two hours later the reaper seals it.
def ledgerSecondTaken : Orchestrator := (exec (requestJob "token" none) ledgerFirstDone).2

def ledgerReaped : Orchestrator :=
  (exec sweep { ledgerSecondTaken with wallClock := ledgerSecondTaken.wallClock.addSeconds 7200 }).2

theorem ledgerReaped_run : Relation.ReflTransGen BookStep (Orchestrator.create {}) ledgerReaped := by
  -- seeding the runner and moving the wall clock leave the books alone
  have hopen : Quiet (Orchestrator.create {}) ledgerOpened :=
    ⟨rfl, rfl, rfl, rfl, fun _ _ _ => rfl, rfl, rfl⟩
  have hlater : Quiet ledgerSecondTaken
      { ledgerSecondTaken with wallClock := ledgerSecondTaken.wallClock.addSeconds 7200 } :=
    ⟨rfl, rfl, rfl, rfl, fun _ _ _ => rfl, rfl, rfl⟩
  have hids : IdsFor [{ kind := .labAnalyze, projectId := 7, entityId := 1 },
      { kind := .labAnalyze, projectId := 7, entityId := 2 }] ledgerOpened := by
    unfold IdsFor
    decide
  exact .tail (.tail (.tail (.tail (.tail (.tail (.single (.quiet hopen)) (.createJobs _ _ hids))
    (.requestJob _ _ _)) (.updateTrace _ _ _)) (.requestJob _ _ _)) (.quiet hlater)) (.sweep _)

-- Both jobs are dispatched; one completes and one is reaped, so one success and one failure are
-- counted, and project 7's run time, `i64::MAX` plus the two hours of the reaped job, wraps below
-- zero, as the sum wrapped at 64 bits does.
theorem reaped_batch_counted :
    Relation.ReflTransGen BookStep (Orchestrator.create {}) ledgerReaped ∧
      ((∀ p, (ledgerReaped.store.data.projectUsage p).jobCount =
        ((ledgerReaped.store.data.jobs.filter fun j => j.projectId = p).length : Int)) ∧
      (∀ p, (ledgerReaped.store.data.projectUsage p).jobDurationMs =
        wrapI64 (((ledgerReaped.store.data.jobs.filter fun j => j.projectId = p ∧ j.status.finished).map
          fun j => j.duration.getD 0).sum)) ∧
      (∀ k, ledgerReaped.metrics.total k .succeeded + ledgerReaped.metrics.total k .failed =
        (ledgerReaped.store.data.jobs.filter fun j => j.kind = k ∧ j.status.finished).length) ∧
      (∀ k, ledgerReaped.metrics.total k .dispatched =
        (ledgerReaped.store.data.jobs.filter fun j => j.kind = k ∧ j.startedAt.isSome).length)) ∧
      ledgerReaped.metrics.total .labAnalyze .dispatched = 2 ∧
      ledgerReaped.metrics.total .labAnalyze .succeeded = 1 ∧
      ledgerReaped.metrics.total .labAnalyze .failed = 1 ∧
      (ledgerReaped.store.data.projectUsage 7).jobCount = 2 ∧
      (ledgerReaped.store.data.projectUsage 7).jobDurationMs < 0 :=
  ⟨ledgerReaped_run, usage_and_metrics_count_each_job ledgerReaped_run, by decide +kernel,
    by decide +kernel, by decide +kernel, by decide +kernel, by decide +kernel⟩

end Runs

end Orchestrator

end JobDispatch
