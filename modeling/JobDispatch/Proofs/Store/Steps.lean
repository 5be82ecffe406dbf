import JobDispatch.Store.Memory

namespace JobDispatch

-- The largest id a signed 64-bit counter holds.
def maxJobId : Int := Int.pow 2 63 - 1

theorem maxJobId_eq : maxJobId = 9223372036854775807 := by decide

-- Wrapping leaves alone a value that already fits in 64 bits.
theorem wrapI64_of_fits {n : Int} (lo : -Int.pow 2 63 ≤ n) (hi : n < Int.pow 2 63) :
    wrapI64 n = n := by
  have h63 : Int.pow 2 63 = 9223372036854775808 := by decide
  have h64 : Int.pow 2 64 = 18446744073709551616 := by decide
  simp only [wrapI64, h63, h64] at *
  split <;> omega

-- The next id after a counter in `[0, maxJobId)` does not wrap.
theorem wrapI64_succ {n : Int} (lo : 0 ≤ n) (hi : n < maxJobId) : wrapI64 (n + 1) = n + 1 := by
  have h63 : Int.pow 2 63 = 9223372036854775808 := by decide
  rw [maxJobId_eq] at hi
  exact wrapI64_of_fits (by omega) (by omega)

namespace JobStore

theorem find?_insertJob (j : Job) (js : List Job) (i : Int) :
    (insertJob j js).find? (·.id == i) = if j.id = i then some j else js.find? (·.id == i) := by
  induction js with
  | nil => by_cases h : j.id = i <;> simp [insertJob, h]
  | cons k rest ih =>
    unfold insertJob
    by_cases hlt : j.id < k.id
    · rw [if_pos hlt]
      by_cases h : j.id = i <;> simp [h]
    rw [if_neg hlt]
    by_cases heq : j.id = k.id
    · rw [if_pos heq]
      by_cases h : j.id = i <;> simp [h, ← heq]
    rw [if_neg heq, List.find?_cons, ih, List.find?_cons]
    -- `k` sits before the place of `j`, so it answers for its own id
    by_cases hk : k.id = i
    · have hj : j.id ≠ i := by omega
      simp [hk, hj]
    · have hb : (k.id == i) = false := by simpa using hk
      simp only [hb]

theorem findJob_id {s : JobStore} {i : Int} {j : Job} (h : s.findJob i = some j) : j.id = i := by
  simpa using List.find?_some h

theorem findJob_mem {s : JobStore} {i : Int} {j : Job} (h : s.findJob i = some j) : j ∈ s.jobs :=
  List.mem_of_find?_eq_some h

theorem findJob_updateJob (s : JobStore) (j : Job) (i : Int) :
    (s.updateJob j).findJob i = if j.id = i then (s.findJob i).map fun _ => j else s.findJob i := by
  have hp : ((·.id == i) ∘ fun k : Job => if k.id = j.id then j else k) = (·.id == i) := by
    funext k
    by_cases h : k.id = j.id <;> simp [h]
  simp only [findJob, updateJob, List.find?_map, hp]
  cases hf : s.jobs.find? (·.id == i) with
  | none => simp
  | some k =>
    have hk : k.id = i := findJob_id hf
    by_cases h : j.id = i <;> simp [hk, h, eq_comm]

@[simp] theorem findJob_putJob (s : JobStore) (j : Job) (i : Int) :
    (s.putJob j).findJob i = if j.id = i then some j else s.findJob i :=
  find?_insertJob j s.jobs i

@[simp] theorem putJob_lastJobId (s : JobStore) (j : Job) :
    (s.putJob j).lastJobId = max s.lastJobId j.id := rfl

section Create

variable (s : JobStore) (n : NewJob) (now : Timestamp)

@[simp] theorem createJob_id : (s.createJob n now).1.id = wrapI64 (s.lastJobId + 1) := rfl
@[simp] theorem createJob_status : (s.createJob n now).1.status = .pending := rfl
@[simp] theorem createJob_runnerId : (s.createJob n now).1.runnerId = none := rfl
@[simp] theorem createJob_startedAt : (s.createJob n now).1.startedAt = none := rfl
@[simp] theorem createJob_endedAt : (s.createJob n now).1.endedAt = none := rfl
@[simp] theorem createJob_kind : (s.createJob n now).1.kind = n.kind := rfl
@[simp] theorem createJob_zone : (s.createJob n now).1.zone = n.zone := rfl
@[simp] theorem createJob_projectId : (s.createJob n now).1.projectId = n.projectId := rfl
@[simp] theorem createJob_iid :
    (s.createJob n now).1.iid = (nextDisplayId n.projectId s.displayIds).1 := rfl

@[simp] theorem createJob_jobs : (s.createJob n now).2.jobs = insertJob (s.createJob n now).1 s.jobs :=
  rfl

@[simp] theorem createJob_pending :
    (s.createJob n now).2.pending = insertPending ⟨wrapI64 (s.lastJobId + 1), n.kind, n.zone⟩ s.pending :=
  rfl

@[simp] theorem createJob_lastJobId : (s.createJob n now).2.lastJobId = wrapI64 (s.lastJobId + 1) := rfl

@[simp] theorem createJob_displayIds :
    (s.createJob n now).2.displayIds = (nextDisplayId n.projectId s.displayIds).2 := rfl

theorem findJob_createJob (i : Int) :
    (s.createJob n now).2.findJob i =
      if (s.createJob n now).1.id = i then some (s.createJob n now).1 else s.findJob i :=
  find?_insertJob _ s.jobs i

end Create

section Conditional

variable {s : JobStore} {id : Int} {j : Job}

theorem assignRunner_of_pending (r : Uuid) (t : Timestamp) (h : s.findJob id = some j)
    (hp : j.status = .pending) :
    s.assignRunner id r t =
      (some { j with status := .running, runnerId := some r, startedAt := some t },
        { s.updateJob { j with status := .running, runnerId := some r, startedAt := some t } with
          pending := s.dropPending id }) := by
  simp [assignRunner, h, hp]

theorem assignRunner_of_not_pending (r : Uuid) (t : Timestamp)
    (h : ∀ j, s.findJob id = some j → j.status ≠ .pending) : s.assignRunner id r t = (none, s) := by
  unfold assignRunner
  cases hf : s.findJob id with
  | none => rfl
  | some j => simp [h j hf]

-- What an assignment answers is the job under the id it was asked for.
theorem id_of_assignRunner {r : Uuid} {t : Timestamp} (h : (s.assignRunner id r t).1 = some j) :
    j.id = id := by
  unfold assignRunner at h
  cases hf : s.findJob id with
  | none => simp [hf] at h
  | some j₀ =>
    rw [hf] at h
    by_cases hp : j₀.status = .pending
    · simp only [hp, if_true, Option.some.injEq] at h
      subst h
      exact findJob_id (j := j₀) hf
    · simp [hp] at h

theorem completeJob_of_running (c : Completion) (h : s.findJob id = some j)
    (hr : j.status = .running) :
    s.completeJob id c =
      (some { j with status := c.status, duration := some c.durationMs, endedAt := some c.endedAt },
        s.updateJob { j with status := c.status, duration := some c.durationMs, endedAt := some c.endedAt }) := by
  simp [completeJob, h, hr]

theorem completeJob_of_not_running (c : Completion)
    (h : ∀ j, s.findJob id = some j → j.status ≠ .running) : s.completeJob id c = (none, s) := by
  unfold completeJob
  cases hf : s.findJob id with
  | none => rfl
  | some j => simp [h j hf]

-- Canceling drops the index row first; the jobs are read from that store.
theorem cancelJob_eq (t : Timestamp) :
    s.cancelJob id t =
      match s.findJob id with
      | some j =>
        if j.status.sealed then (none, { s with pending := s.dropPending id })
        else (some { j with status := .canceled, endedAt := some t },
          ({ s with pending := s.dropPending id } : JobStore).updateJob
            { j with status := .canceled, endedAt := some t })
      | none => (none, { s with pending := s.dropPending id }) := rfl

-- Rewriting the job found under an id changes what that id answers, and nothing else.
theorem findJob_updateJob_of_found (hj : s.findJob id = some j) (j' : Job) (hid : j'.id = j.id)
    (i : Int) : (s.updateJob j').findJob i = if id = i then some j' else s.findJob i := by
  rw [findJob_updateJob, hid, findJob_id hj]
  by_cases h : id = i
  · subst h; simp [hj]
  · simp [h]

theorem findJob_assignRunner_of_pending (r : Uuid) (t : Timestamp) (h : s.findJob id = some j)
    (hp : j.status = .pending) (i : Int) :
    (s.assignRunner id r t).2.findJob i =
      if id = i then some { j with status := .running, runnerId := some r, startedAt := some t }
      else s.findJob i := by
  rw [assignRunner_of_pending r t h hp]
  exact findJob_updateJob_of_found h { j with status := .running, runnerId := some r, startedAt := some t }
    rfl i

theorem findJob_completeJob_of_running (c : Completion) (h : s.findJob id = some j)
    (hr : j.status = .running) (i : Int) :
    (s.completeJob id c).2.findJob i =
      if id = i then some { j with status := c.status, duration := some c.durationMs, endedAt := some c.endedAt }
      else s.findJob i := by
  rw [completeJob_of_running c h hr]
  exact findJob_updateJob_of_found h
    { j with status := c.status, duration := some c.durationMs, endedAt := some c.endedAt } rfl i

theorem findJob_cancelJob_of_open (t : Timestamp) (h : s.findJob id = some j)
    (hs : j.status.sealed = false) (i : Int) :
    (s.cancelJob id t).2.findJob i =
      if id = i then some { j with status := .canceled, endedAt := some t } else s.findJob i := by
  have h' : ({ s with pending := s.dropPending id } : JobStore).findJob id = some j := h
  rw [cancelJob_eq, h]
  simp only [hs, Bool.false_eq_true, if_false]
  exact findJob_updateJob_of_found h' { j with status := .canceled, endedAt := some t } rfl i

-- Canceling a sealed or missing job changes no job.
theorem findJob_cancelJob_of_closed (t : Timestamp)
    (h : ∀ j, s.findJob id = some j → j.status.sealed = true) (i : Int) :
    (s.cancelJob id t).2.findJob i = s.findJob i := by
  rw [cancelJob_eq]
  cases hf : s.findJob id with
  | none => rfl
  | some j => simp [h j hf]; rfl

end Conditional

end JobStore

-- The atomic calls that change the store, with their arguments.
inductive StoreOp where
  | create (job : NewJob) (now : Timestamp)
  | put (job : Job)
  | assign (id : Int) (runner : Uuid) (startedAt : Timestamp)
  | complete (id : Int) (c : Completion)
  | cancel (id : Int) (endedAt : Timestamp)
  | recordUsage (project count durationMs : Int)
  | createRunner (r : Runner)
  | saveRunner (r : Runner)
  | deleteRunner (id : Uuid)
  | addZone (zone : String)

namespace StoreOp

def apply : StoreOp → JobStore → JobStore
  | create n now, s => (s.createJob n now).2
  | put j, s => s.putJob j
  | assign id r t, s => (s.assignRunner id r t).2
  | complete id c, s => (s.completeJob id c).2
  | cancel id t, s => (s.cancelJob id t).2
  | recordUsage p n d, s => s.recordUsage p n d
  | createRunner r, s => s.createRunner r
  | saveRunner r, s => s.saveRunner r
  | deleteRunner id, s => (s.deleteRunner id).2
  | addZone z, s => (s.addKnownZone z).2

-- The job a call hands to a runner, and the runner: an assignment that found the job pending.
def claim? : StoreOp → JobStore → Option (Int × Uuid)
  | assign id r t, s => (s.assignRunner id r t).1.map fun _ => (id, r)
  | _, _ => none

end StoreOp

-- A run of atomic store calls, each allowed by `P` in the store it meets.
inductive StoreRun (P : JobStore → StoreOp → Prop) : JobStore → List StoreOp → JobStore → Prop
  | nil (s : JobStore) : StoreRun P s [] s
  | cons {s t : JobStore} {ops : List StoreOp} (op : StoreOp) :
      P s op → StoreRun P (op.apply s) ops t → StoreRun P s (op :: ops) t

def claims : JobStore → List StoreOp → List (Int × Uuid)
  | _, [] => []
  | s, op :: ops => (op.claim? s).toList ++ claims (op.apply s) ops

namespace StoreRun

variable {P Q : JobStore → StoreOp → Prop}

theorem append {s t u : JobStore} {ops₁ ops₂ : List StoreOp} (h₁ : StoreRun P s ops₁ t)
    (h₂ : StoreRun P t ops₂ u) : StoreRun P s (ops₁ ++ ops₂) u := by
  induction h₁ with
  | nil => exact h₂
  | cons op hp _ ih => exact .cons op hp (ih h₂)

theorem claims_append {s t : JobStore} {ops₁ : List StoreOp} (h₁ : StoreRun P s ops₁ t)
    (ops₂ : List StoreOp) : claims s (ops₁ ++ ops₂) = claims s ops₁ ++ claims t ops₂ := by
  induction h₁ with
  | nil => rfl
  | cons op _ _ ih => simp [claims, ih]

theorem single {s : JobStore} {op : StoreOp} (h : P s op) : StoreRun P s [op] (op.apply s) :=
  .cons op h (.nil _)

theorem mono {s t : JobStore} {ops : List StoreOp} (h : StoreRun P s ops t)
    (hPQ : ∀ s op, P s op → Q s op) : StoreRun Q s ops t := by
  induction h with
  | nil => exact .nil _
  | cons op hp _ ih => exact .cons op (hPQ _ _ hp) ih

-- Two properties of the calls of one run hold together.
theorem and {s t : JobStore} {ops : List StoreOp} (hP : StoreRun P s ops t) (hQ : StoreRun Q s ops t) :
    StoreRun (fun s op => P s op ∧ Q s op) s ops t := by
  induction hP with
  | nil => exact .nil _
  | cons op hp _ ih =>
    cases hQ with
    | cons _ hq hrest => exact .cons op ⟨hp, hq⟩ (ih hrest)

-- What holds of every call in the list holds at every step of the run.
theorem of_mem {R : StoreOp → Prop} {s t : JobStore} {ops : List StoreOp} (h : StoreRun P s ops t)
    (hR : ∀ op ∈ ops, R op) : StoreRun (fun s op => P s op ∧ R op) s ops t := by
  induction h with
  | nil => exact .nil _
  | cons op hp _ ih =>
    exact .cons op ⟨hp, hR op (List.mem_cons_self ..)⟩ (ih fun o ho => hR o (List.mem_cons_of_mem _ ho))

-- A property that every allowed call keeps holds at the end of every run.
theorem invariant {I : JobStore → Prop} {s t : JobStore} {ops : List StoreOp}
    (h : StoreRun P s ops t) (hs : I s) (step : ∀ s op, I s → P s op → I (op.apply s)) : I t := by
  induction h with
  | nil => exact hs
  | cons op hp _ ih => exact ih (step _ op hs hp)

end StoreRun

end JobDispatch
