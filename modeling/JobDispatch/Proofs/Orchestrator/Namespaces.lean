import Mathlib
import JobDispatch.Proofs.Orchestrator.Frames
import JobDispatch.Proofs.Orchestrator.RunnerWrites

namespace JobDispatch

namespace Orchestrator

@[simp] theorem pollCopy_token (r : Runner) (info : Option RunnerReport) (t : Timestamp) :
    (pollCopy r info t).token = r.token := by
  cases info <;> rfl

theorem userZone_ne_unknown (user zone : String) : userZone user zone ≠ unknownZone := by
  intro h
  have := congrArg (fun z : String => z.toList.head?) h
  simp [userZone, unknownZone] at this

-- Runner records

-- `cur` is the one record of its id among the store's runners.
def Sole (cur : Runner) (s : JobStore) : Prop :=
  cur ∈ s.runners ∧ ∀ q ∈ s.runners, q.id = cur.id → q = cur

section Sole

variable {cur r : Runner} {s : JobStore}

-- Creating a runner replaces every record of its id, or adds the first one.
theorem sole_createRunner (s : JobStore) (r : Runner) : Sole r (s.createRunner r) := by
  unfold JobStore.createRunner
  split
  · rename_i h
    obtain ⟨q, hq⟩ := Option.isSome_iff_exists.mp h
    have hid : q.id = r.id := by simpa using List.find?_some hq
    refine ⟨List.mem_map.mpr ⟨q, List.mem_of_find?_eq_some hq, by simp [hid]⟩, fun p hp hpid => ?_⟩
    obtain ⟨p', -, rfl⟩ := List.mem_map.mp hp
    by_cases h' : p'.id = r.id <;> simp_all
  · rename_i h
    refine ⟨List.mem_append_right _ (List.mem_singleton_self _), fun p hp hpid => ?_⟩
    rcases List.mem_append.mp hp with hp | hp
    · have hnone : s.findRunner r.id = none := by simpa using h
      exact absurd (by simpa using hpid) (List.find?_eq_none.mp hnone p hp)
    · exact List.mem_singleton.mp hp

theorem Sole.findRunner (h : Sole cur s) : s.findRunner cur.id = some cur := by
  unfold JobStore.findRunner
  cases hf : s.runners.find? (·.id == cur.id) with
  | none => exact absurd (by simp) (List.find?_eq_none.mp hf cur h.1)
  | some q => exact congrArg some (h.2 q (List.mem_of_find?_eq_some hf) (by simpa using List.find?_some hf))

-- The runner a token names is the record itself when it has the record's id.
theorem Sole.eq_of_token (h : Sole cur s) {token : String} (hf : s.findRunnerByToken token = some r)
    (hid : r.id = cur.id) : r = cur :=
  h.2 r (List.mem_of_find?_eq_some hf) hid

theorem Sole.saveRunner_self (h : Sole cur s) (hr : r.id = cur.id) : Sole r (s.saveRunner r) := by
  unfold JobStore.saveRunner
  refine ⟨List.mem_map.mpr ⟨cur, h.1, by simp [hr]⟩, fun p hp hpid => ?_⟩
  obtain ⟨q, -, rfl⟩ := List.mem_map.mp hp
  by_cases hq : q.id = r.id <;> simp_all

theorem Sole.saveRunner_other (h : Sole cur s) (hr : r.id ≠ cur.id) : Sole cur (s.saveRunner r) := by
  unfold JobStore.saveRunner
  refine ⟨List.mem_map.mpr ⟨cur, h.1, by simp [Ne.symm hr]⟩, fun p hp hpid => ?_⟩
  obtain ⟨q, hq, rfl⟩ := List.mem_map.mp hp
  by_cases hqr : q.id = r.id
  · simp only [hqr, if_true] at hpid
    exact absurd hpid hr
  · simp only [hqr, if_false] at hpid ⊢
    exact h.2 q hq hpid

end Sole

-- Authentication

-- What authenticating with a token does to the data: nothing, or it saves the poll copy of
-- the active runner the token names.
def Authenticates (token : String) (info : Option RunnerReport) (s s' : JobStore) : Prop :=
  s' = s ∨ ∃ r t, s.findRunnerByToken token = some r ∧ r.active = true ∧
    s' = s.saveRunner (pollCopy r info t)

-- A store read answers what it reads, fails, or answers the empty answer of an `absent` fault;
-- the state is as it was in every case.
theorem exec_read_bind {α β : Type} (c : StoreCall) (f : JobStore → α) (absent : Option α)
    (g : α → Op β) (o : Orchestrator) :
    exec (read c f absent >>= g) o = exec (g (f o.store.data)) o ∨
      (∃ e, exec (read c f absent >>= g) o = (.error (.store e), o)) ∨
      ∃ a, absent = some a ∧ exec (read c f absent >>= g) o = exec (g a) o := by
  rw [exec_bind, read, exec_call]
  rcases Store.run_cases o.store c (fun s => (f s, s)) absent with h | ⟨e, h⟩ | ⟨a, ha, h⟩ <;> rw [h]
  · exact .inl rfl
  · exact .inr (.inl ⟨e, rfl⟩)
  · exact .inr (.inr ⟨a, ha, rfl⟩)

-- Authentication answers the runner its token names: as stored when it is inactive, or else
-- the poll copy, which it saves; when it fails, or the save does, the data is as it was.
theorem authenticate_cases (token : String) (info : Option RunnerReport) (o : Orchestrator) :
    (exec (authenticate token info) o).2.store.data = o.store.data ∧
      (∀ R, (exec (authenticate token info) o).1 = .ok R → o.store.data.findRunnerByToken token = some R) ∨
    ∃ r t, o.store.data.findRunnerByToken token = some r ∧ r.active = true ∧
      (exec (authenticate token info) o).1 = .ok (pollCopy r info t) ∧
      (exec (authenticate token info) o).2.store.data = o.store.data.saveRunner (pollCopy r info t) := by
  unfold authenticate
  dsimp only
  split
  · exact .inl ⟨rfl, by simp⟩
  rcases exec_read_bind .findRunnerByToken (·.findRunnerByToken token) (some none) _ o with
    h | ⟨e, h⟩ | ⟨a, ha, h⟩ <;> rw [h]
  · cases hf : o.store.data.findRunnerByToken token with
    | none => exact .inl ⟨rfl, by simp⟩
    | some r =>
      dsimp only
      split
      · exact .inl ⟨rfl, by simp⟩
      · rename_i hact
        simp only [Bool.not_eq_true', Bool.not_eq_false] at hact
        simp only [exec_bind, now, exec_modifyGet, exec_call]
        -- once the report is known, the copy written back is the poll copy as the call sees it
        rcases Store.run_cases o.store .saveRunner
          (fun s => ((), s.saveRunner (pollCopy r info o.wallClock))) none with hs | ⟨e, hs⟩ | ⟨a, ha, hs⟩
        · cases info <;> dsimp only [pollCopy, Option.elim] at hs ⊢ <;> rw [hs]
          all_goals exact .inr ⟨r, o.wallClock, rfl, hact, rfl, rfl⟩
        · cases info <;> dsimp only [pollCopy, Option.elim] at hs ⊢ <;> rw [hs]
          all_goals exact .inl ⟨rfl, by simp⟩
        · cases ha
  · exact .inl ⟨rfl, by simp⟩
  · cases ha
    exact .inl ⟨rfl, by simp⟩

theorem authenticate_within (token : String) (info : Option RunnerReport) :
    Within (OnData (Authenticates token info)) (authenticate token info) := by
  intro o
  rcases authenticate_cases token info o with ⟨h, -⟩ | ⟨r, t, hf, ha, -, h⟩
  · exact .inl h
  · exact .inr ⟨r, t, hf, ha, h⟩

-- The calls of the runner protocol

section Calls

variable {Q : JobStore → JobStore → Prop} (hQ : JobFrame Q)
include hQ

theorem requestJob_framed (token : String) (info : Option RunnerReport) :
    Within (OnData (Relation.Comp (Authenticates token info) Q)) (requestJob token info) := by
  unfold requestJob
  refine OnData.get_bind fun o => ?_
  split
  · exact fun _ => ⟨_, .inl rfl, hQ.refl _⟩
  refine OnData.comp_bind (authenticate_within token info) (fun R => ?_) hQ.refl
  split
  · exact Within.pure hQ.chain _
  refine Within.bind hQ.chain (Within.get hQ.chain) fun started =>
    Within.bind hQ.chain (enterGate_framed hQ) fun gate => ?_
  -- both ways through the gate end by timing the request
  have answer : ∀ job : Option DispatchedJob, Within (OnData Q) (do
      let o ← get
      record fun x => x.requestTook (o.clock - started.clock) job.isSome
      Pure.pure ({ job := job, settings := some (RunnerSettings.ofKind R.kind) } : PollAnswer)) :=
    fun _ => Within.bind hQ.chain (Within.get hQ.chain) fun _ =>
      Within.bind hQ.chain (record_framed hQ _) fun _ => Within.pure hQ.chain _
  split
  · exact Within.bind hQ.chain (record_framed hQ _) fun _ =>
      Within.bind hQ.chain (Within.pure hQ.chain none) answer
  · exact Within.throw_bind hQ.chain _ _
  refine Within.bind hQ.chain (Within.tryCatch hQ.chain (Within.map _ (nextJob_framed hQ R)) fun _ =>
    Within.pure hQ.chain _) fun result => ?_
  refine Within.bind hQ.chain (OnData.modify hQ.refl fun _ => rfl) fun _ => ?_
  split
  · exact Within.bind hQ.chain (Within.pure hQ.chain _) answer
  · exact Within.throw_bind hQ.chain _ _

theorem updateTrace_framed (token : String) (p : TraceReport) :
    Within (OnData (Relation.Comp (Authenticates token none) Q)) (updateTrace token p) := by
  unfold updateTrace
  dsimp only
  refine OnData.comp_bind (authenticate_within token none) (fun runner => ?_) hQ.refl
  refine Within.bind hQ.chain (getJob_framed hQ _) fun job => ?_
  split
  · exact Within.throw_bind hQ.chain _ _
  split
  · exact Within.pure hQ.chain _
  refine Within.bind hQ.chain (Within.logged hQ.chain (Within.bind hQ.chain (appendTrace_framed hQ _ _)
    fun _ => Within.pure hQ.chain _)) fun _ => ?_
  -- the seal, with `failed` or `done`, comes before the events in both branches
  split
  · split <;>
    · refine Within.bind hQ.chain (jobDone_framed hQ _ _ _ _ rfl) fun _ => ?_
      repeat (first | exact Within.pure hQ.chain _ | refine Within.bind hQ.chain (publish_framed hQ _) fun _ => ?_ | split)
  · repeat (first | exact Within.pure hQ.chain _ | refine Within.bind hQ.chain (publish_framed hQ _) fun _ => ?_ | split)

theorem uploadArtifact_framed (token jobId key : String) (data : List UInt8) :
    Within (OnData (Relation.Comp (Authenticates token none) Q)) (uploadArtifact token jobId key data) := by
  unfold uploadArtifact
  dsimp only
  split
  · refine OnData.comp_bind (authenticate_within token none) (fun runner => ?_) hQ.refl
    refine Within.bind hQ.chain (getJob_framed hQ _) fun job => ?_
    split
    · exact Within.throw_bind hQ.chain _ _
    refine Within.bind hQ.chain (Within.get hQ.chain) fun o => ?_
    -- the three answers of the blob store, each after the blob store is written back
    split <;> refine Within.bind hQ.chain (OnData.modify hQ.refl fun _ => rfl) fun _ => ?_
    · exact Within.bind hQ.chain (publish_framed hQ _) fun _ => Within.pure hQ.chain _
    · exact Within.throw_bind hQ.chain _ _
    · exact Within.throw_bind hQ.chain _ _
  · exact fun _ => ⟨_, .inl rfl, hQ.refl _⟩

theorem downloadArtifact_framed (token key : String) :
    Within (OnData (Relation.Comp (Authenticates token none) Q)) (downloadArtifact token key) := by
  unfold downloadArtifact
  refine OnData.comp_bind (authenticate_within token none) (fun _ => ?_) hQ.refl
  refine Within.bind hQ.chain (Within.get hQ.chain) fun o => ?_
  split
  · exact Within.pure hQ.chain _
  · exact Within.throw hQ.chain _
  · exact Within.throw hQ.chain _
  · exact Within.throw hQ.chain _

end Calls

-- The job side of the protocol keeps every job's zone and the pending index.
def Steady (s s' : JobStore) : Prop := JobSide s s' ∧ (s.Indexed → s'.Indexed)

theorem steady : JobFrame Steady := jobSide.and indexKept

-- A call of the runner protocol, made with a runner's bearer token.
inductive ProtocolCall where
  | authenticate (token : String) (info : Option RunnerReport)
  | requestJob (token : String) (info : Option RunnerReport)
  | updateTrace (token : String) (report : TraceReport)
  | uploadArtifact (token jobId key : String) (data : List UInt8)
  | downloadArtifact (token key : String)

namespace ProtocolCall

def token : ProtocolCall → String
  | authenticate t _ | requestJob t _ | updateTrace t _ | uploadArtifact t _ _ _ | downloadArtifact t _ => t

-- The report a call carries: polls carry one, the other calls authenticate without.
def report : ProtocolCall → Option RunnerReport
  | authenticate _ i | requestJob _ i => i
  | _ => none

def step : ProtocolCall → Orchestrator → Orchestrator
  | authenticate t i, o => (exec (Orchestrator.authenticate t i) o).2
  | requestJob t i, o => (exec (Orchestrator.requestJob t i) o).2
  | updateTrace t p, o => (exec (Orchestrator.updateTrace t p) o).2
  | uploadArtifact t j k d, o => (exec (Orchestrator.uploadArtifact t j k d) o).2
  | downloadArtifact t k, o => (exec (Orchestrator.downloadArtifact t k) o).2

def run (o : Orchestrator) (cs : List ProtocolCall) : Orchestrator := cs.foldl (fun o c => c.step o) o

-- Every call authenticates first, and after that stays on the job side.
theorem step_data {Q : JobStore → JobStore → Prop} (hQ : JobFrame Q) (c : ProtocolCall) (o : Orchestrator) :
    Relation.Comp (Authenticates c.token c.report) Q o.store.data (c.step o).store.data := by
  cases c with
  | authenticate t i => exact ⟨_, authenticate_within t i o, hQ.refl _⟩
  | requestJob t i => exact requestJob_framed hQ t i o
  | updateTrace t p => exact updateTrace_framed hQ t p o
  | uploadArtifact t j k d => exact uploadArtifact_framed hQ t j k d o
  | downloadArtifact t k => exact downloadArtifact_framed hQ t k o

end ProtocolCall

-- The namespace invariant

-- What a runner registered as `X` keeps while the protocol runs: one record `cur`, which
-- agrees with `X` in id, token, kind, zone and active flag; the known zones `known`; and the
-- pending index.
structure Namespaced (X : Runner) (known : List String) (s : JobStore) (cur : Runner) : Prop where
  sole : Sole cur s
  id : cur.id = X.id
  token : cur.token = X.token
  kind : cur.kind = X.kind
  zone : cur.zone = X.zone
  active : cur.active = X.active
  known : s.zones = known
  indexed : s.Indexed

namespace Namespaced

variable {X cur : Runner} {known : List String} {s s' : JobStore}

theorem of_steady (h : Namespaced X known s cur) (hs : Steady s s') : Namespaced X known s' cur where
  __ := h
  sole := by
    unfold Sole
    rw [hs.1.1]
    exact h.sole
  known := hs.1.2.1.trans h.known
  indexed := hs.2 h.indexed

-- Authentication saves at most one runner; when it is this one, the token named it and the
-- copy saved is its poll copy.
theorem authenticates {token : String} {info : Option RunnerReport} (h : Namespaced X known s cur)
    (ha : Authenticates token info s s') :
    ∃ cur', Namespaced X known s' cur' ∧ (cur' = cur ∨ ∃ t, cur' = pollCopy cur info t) := by
  rcases ha with rfl | ⟨r, t, hf, -, rfl⟩
  · exact ⟨cur, h, .inl rfl⟩
  have hi : (s.saveRunner (pollCopy r info t)).Indexed :=
    @StoreOp.indexed_apply s (.saveRunner _) h.indexed trivial
  by_cases hid : r.id = cur.id
  · obtain rfl := h.sole.eq_of_token hf hid
    refine ⟨pollCopy r info t, ⟨h.sole.saveRunner_self (by simp), ?_, ?_, ?_, ?_, ?_, h.known, hi⟩,
      .inr ⟨t, rfl⟩⟩ <;> simp [h.id, h.token, h.kind, h.zone, h.active]
  · exact ⟨cur, { h with sole := h.sole.saveRunner_other (by simpa using hid), indexed := hi }, .inl rfl⟩

-- One call: the record stays, or becomes the poll copy of the call's report.
theorem step {o : Orchestrator} (h : Namespaced X known o.store.data cur) (c : ProtocolCall) :
    ∃ cur', Namespaced X known (c.step o).store.data cur' ∧
      (cur' = cur ∨ ∃ t, cur' = pollCopy cur c.report t) := by
  obtain ⟨s₁, ha, hs⟩ := c.step_data steady o
  obtain ⟨cur', h₁, hc⟩ := h.authenticates ha
  exact ⟨cur', h₁.of_steady hs, hc⟩

theorem run : ∀ (cs : List ProtocolCall) {o : Orchestrator} {cur : Runner},
    Namespaced X known o.store.data cur → ∃ cur', Namespaced X known (ProtocolCall.run o cs).store.data cur'
  | [], _, cur, h => ⟨cur, h⟩
  | c :: cs, _, _, h => by
    obtain ⟨cur', h', -⟩ := h.step c
    exact run cs h'

end Namespaced

-- Dispatch in the runner's zone

-- The job of id `i` is stored, in zone `Z`.
def ZonedIn (Z : String) (s : JobStore) (i : Int) : Prop := (s.findJob i).map Job.zone = some Z

section Zoned

variable {Z : String}

theorem stable_zoned (cs : List Job) : Stable JobSide fun s => ∀ c ∈ cs, ZonedIn Z s c.id :=
  fun h hz c hc => (h.2.2 c.id).trans (hz c hc)

-- An assignment answers the job it was asked for.
theorem assign_ensures {P : JobStore → Prop} (hP : Stable JobSide P) (id : Int) (rid : Uuid)
    (t : Timestamp) :
    Ensures P (call .assignRunner (·.assignRunner id rid t) (some none)) fun x s => P s ∧ ∀ j ∈ x, j.id = id :=
  Ensures.call (fun s hs => ⟨hP (jobSide_assignRunner s id rid t) hs, fun _ hj => JobStore.id_of_assignRunner hj⟩)
    fun a ha _ hs => by
      cases ha
      exact ⟨hs, by simp⟩

-- Claiming answers one of its candidates; every step keeps the zones of the jobs.
theorem claimEach_zoned (r : Runner) : ∀ cs : List Job,
    Ensures (fun s => ∀ c ∈ cs, ZonedIn Z s c.id) (claimEach r cs) fun x s => ∀ d ∈ x, ZonedIn Z s d.jobId
  | [] => fun _ _ b hb d hd => by
    simp only [claimEach, exec_pure, Except.ok.injEq] at hb
    subst hb
    cases hd
  | c :: rest => by
    have tail : Ensures (fun s => ∀ c' ∈ c :: rest, ZonedIn Z s c'.id) (claimEach r rest)
        fun x s => ∀ d ∈ x, ZonedIn Z s d.jobId :=
      (claimEach_zoned r rest).conseq (fun _ hs c' hc' => hs c' (List.mem_cons_of_mem _ hc'))
        fun _ _ h => h
    rw [claimEach]
    dsimp only
    refine Ensures.within_bind (tryLease_framed jobSide _) (stable_zoned _) fun lease => ?_
    split
    · refine Ensures.within_bind (now_framed jobSide) (stable_zoned _) fun t => ?_
      refine Ensures.bind (assign_ensures (stable_zoned _) _ _ _) fun x => ?_
      refine Ensures.of_prop fun hx => ?_
      split
      · exact tail
      · rename_i j
        have hj : j.id = c.id := hx j rfl
        have answer : ∀ (o : Orchestrator) p,
            Ensures (fun s => ∀ c' ∈ c :: rest, ZonedIn Z s c'.id)
              (Pure.pure (some ⟨j.id, j.kind, o.config.executionTimeoutMs / 1000, p⟩ : Option DispatchedJob))
              fun x s => ∀ d ∈ x, ZonedIn Z s d.jobId :=
          fun _ _ => (Ensures.ret _).conseq (fun s hs d hd => by
            cases hd
            rw [hj]
            exact hs c (List.mem_cons_self ..)) fun _ _ h => h
        split
        · refine Ensures.within_bind (record_framed jobSide _) (stable_zoned _) fun _ =>
            Ensures.within_bind (Within.get jobSide.chain) (stable_zoned _) fun o => ?_
          split
          · exact answer o _
          · exact Ensures.within_bind (payloadFailed_framed jobSide _ _) (stable_zoned _) fun _ => tail
        · refine Ensures.within_bind (Within.get jobSide.chain) (stable_zoned _) fun o => ?_
          split
          · exact answer o _
          · exact Ensures.within_bind (payloadFailed_framed jobSide _ _) (stable_zoned _) fun _ => tail
    · exact tail

-- A scan with a zone finds pending jobs of that zone only: the pending index answers what a
-- scan of the jobs would.
theorem findPending_zoned {f : JobFilter} (hf : f.zone = some Z) :
    Ensures JobStore.Indexed (read .findPending (·.findPending f)) fun cs s => ∀ c ∈ cs, ZonedIn Z s c.id :=
  Ensures.call (fun s hi c hc => by
    dsimp only at hc ⊢
    rw [JobStore.findPending_eq_scan hi] at hc
    obtain ⟨hmem, hcond⟩ := List.mem_filter.mp (List.mem_of_mem_take hc)
    have hz : c.zone = Z := by
      simp only [JobFilter.admits, hf, Option.all_some, Bool.and_eq_true, beq_iff_eq] at hcond
      exact hcond.2.1.1.symm
    simp [ZonedIn, JobStore.findJob_of_mem hi.ascending hmem, hz]) fun _ ha => by cases ha

theorem claimFirst_zoned (r : Runner) {f : JobFilter} (hf : f.zone = some Z) :
    Ensures JobStore.Indexed (claimFirst r f) fun x s => ∀ d ∈ x, ZonedIn Z s d.jobId := by
  unfold claimFirst
  refine Ensures.bind (findPending_zoned hf) fun candidates => ?_
  split
  · split
    · exact Ensures.within_bind (OnData.modify jobSide.refl fun _ => rfl) (stable_zoned _) fun _ =>
        claimEach_zoned r _
    · exact claimEach_zoned r _
  · exact claimEach_zoned r _

theorem stable_indexed : Stable (fun s s' => s.Indexed → s'.Indexed) JobStore.Indexed := fun h hi => h hi

-- The index also holds after a scan, for the full scan that may follow it.
theorem claimFirst_zoned_indexed (r : Runner) {f : JobFilter} (hf : f.zone = some Z) :
    Ensures JobStore.Indexed (claimFirst r f) fun x s => (∀ d ∈ x, ZonedIn Z s d.jobId) ∧ s.Indexed :=
  ((claimFirst_zoned r hf).frame (claimFirst_framed indexKept r f) stable_indexed).conseq
    (fun _ hi => ⟨hi, hi⟩) fun _ _ h => h

-- A runner outside the unknown zone scans its own zone.
theorem eligibleFilter_zone {P : JobStore → Prop} {r : Runner} (hz : r.zone ≠ unknownZone) :
    Ensures P (eligibleFilter r) fun f s => P s ∧ f.zone = some r.zone := by
  intro o ho f hf
  rw [exec_eligibleFilter, if_neg hz] at hf ⊢
  simp only [Except.ok.injEq] at hf
  subst hf
  exact ⟨ho, rfl⟩

theorem nextJob_zoned (r : Runner) (hz : r.zone = Z) (hZ : Z ≠ unknownZone) :
    Ensures JobStore.Indexed (nextJob r) fun x s => ∀ d ∈ x, ZonedIn Z s d.jobId := by
  subst hz
  unfold nextJob
  refine Ensures.bind (eligibleFilter_zone hZ) fun f => ?_
  refine Ensures.of_prop fun hf => ?_
  refine Ensures.bind (claimFirst_zoned_indexed r hf) fun x => ?_
  cases x with
  | some job => exact (Ensures.ret _).conseq (fun _ hs => hs.1) fun _ _ h => h
  | none =>
    dsimp only
    refine Ensures.conseq ?_ (fun _ hs => hs.2) fun _ _ h => h
    -- the second scan is the first one without its bound, in the same zone
    have hf' : ({ f with afterId := none } : JobFilter).zone = some r.zone := hf
    split
    · exact (Ensures.ret _).conseq (fun _ _ d hd => by cases hd) fun _ _ h => h
    · split
      · exact Ensures.within_bind (OnData.modify indexKept.refl fun _ => rfl) stable_indexed fun _ =>
          claimFirst_zoned r hf'
      · exact claimFirst_zoned r hf'

theorem authenticate_zoned (token : String) (info : Option RunnerReport) :
    Ensures (fun s => s.Indexed ∧ ∃ r, s.findRunnerByToken token = some r ∧ r.zone = Z)
      (authenticate token info) fun R s => s.Indexed ∧ R.zone = Z := by
  rintro o ⟨hi, r, hf, hz⟩ R hR
  rcases authenticate_cases token info o with ⟨hd, hans⟩ | ⟨r', t, hf', -, hres, hd⟩
  · rw [hd]
    have hr := hans R hR
    rw [hf] at hr
    cases hr
    exact ⟨hi, hz⟩
  · rw [hf] at hf'
    cases hf'
    rw [hres] at hR
    cases hR
    rw [hd]
    exact ⟨@StoreOp.indexed_apply _ (.saveRunner _) hi trivial, by simp [hz]⟩

-- A poll by a token that names a runner of zone `Z` hands out jobs of zone `Z` only.
theorem requestJob_zoned (hZ : Z ≠ unknownZone) (token : String) (info : Option RunnerReport) :
    Ensures (fun s => s.Indexed ∧ ∃ r, s.findRunnerByToken token = some r ∧ r.zone = Z)
      (requestJob token info) fun a s => ∀ d ∈ a.job, ZonedIn Z s d.jobId := by
  unfold requestJob
  refine Ensures.bind (Ensures.of_data fun _ => rfl) fun o => ?_
  split
  · exact (Ensures.ret _).conseq (fun _ _ d hd => by cases hd) fun _ _ h => h
  refine Ensures.bind (authenticate_zoned token info) fun R => ?_
  refine Ensures.of_prop fun hR => ?_
  split
  · exact (Ensures.ret _).conseq (fun _ _ d hd => by cases hd) fun _ _ h => h
  refine Ensures.bind (Ensures.of_data fun _ => rfl) fun started =>
    Ensures.bind (Ensures.of_data fun _ => rfl) fun gate => ?_
  -- both ways through the gate end by answering the job they hold
  have answer : ∀ job : Option DispatchedJob,
      Ensures (fun s => ∀ d ∈ job, ZonedIn Z s d.jobId) (do
        let o ← get
        record fun x => x.requestTook (o.clock - started.clock) job.isSome
        Pure.pure ({ job := job, settings := some (RunnerSettings.ofKind R.kind) } : PollAnswer))
        fun a s => ∀ d ∈ a.job, ZonedIn Z s d.jobId :=
    fun _ => Ensures.bind (Ensures.of_data fun _ => rfl) fun _ =>
      Ensures.bind (Ensures.of_data fun _ => rfl) fun _ =>
        (Ensures.ret _).conseq (fun _ h => h) fun _ _ h => h
  have polled : Ensures JobStore.Indexed
      (tryCatch (Except.ok <$> nextJob R) fun e => Pure.pure (Except.error e))
      fun res s => ∀ job, res = .ok job → ∀ d ∈ job, ZonedIn Z s d.jobId :=
    Ensures.tryCatch ((nextJob_zoned R hR hZ).map fun _ _ h _ hj => by cases hj; exact h)
      fun _ => (Ensures.ret _).conseq (fun _ _ _ hj => by cases hj) fun _ _ h => h
  split
  · exact Ensures.bind (Ensures.of_data fun _ => rfl) fun _ =>
      Ensures.bind ((Ensures.ret none).conseq (fun _ _ d hd => by cases hd) fun _ _ h => h) answer
  · exact Ensures.bind (Ensures.throw _) answer
  refine Ensures.bind polled fun result => Ensures.bind (Ensures.of_data fun _ => rfl) fun _ => ?_
  cases result with
  | ok job => exact Ensures.bind ((Ensures.ret job).conseq (fun _ hs => hs job rfl) fun _ _ h => h) answer
  | error e => exact Ensures.bind (Ensures.throw e) answer

end Zoned

-- Registration with a user's access token

theorem createRunner_zones (s : JobStore) (r : Runner) : (s.createRunner r).zones = s.zones := by
  unfold JobStore.createRunner
  split <;> rfl

-- A user's registration creates one runner, active, in the user's namespace of its reported
-- zone, and announces no zone.
theorem register_user {o : Orchestrator} {req : Registration} {user : String} {reg : Registered}
    (hg : o.config.registrationToken ≠ some req.secret)
    (hu : o.config.accessTokens.reverse.lookup req.secret = some user)
    (hr : (exec (register req) o).1 = .ok reg) :
    ∃ X : Runner, (exec (register req) o).2.store.data = o.store.data.createRunner X ∧
      X.id = reg.runner ∧ X.token = reg.token ∧ X.kind = req.info.requestedKind.getD .all ∧
      X.zone = userZone user (req.info.zone.getD unknownZone) ∧ X.active = true := by
  unfold register registrant at *
  by_cases he : req.secret = ""
  · simp [exec_bind, he] at hr
  simp only [exec_bind, exec_get, he, hg, hu, if_false, exec_pure, mintRunnerId, now, exec_modifyGet,
    exec_call] at hr ⊢
  let X : Runner :=
    { id := Uuid.mint ("runner:" ++ toString o.mintedRunners), name := req.name,
      token := deriveToken (Uuid.mint ("runner:" ++ toString o.mintedRunners)) req.secret,
      kind := req.info.requestedKind.getD .all, zone := userZone user (req.info.zone.getD unknownZone),
      active := true, contactedAt := o.wallClock, createdAt := o.wallClock, version := req.info.version,
      platform := req.info.platform, arch := req.info.arch, extra := req.info.extra }
  rcases Store.run_cases o.store .createRunner (fun s => ((), s.createRunner X)) none with
    hs | ⟨e, hs⟩ | ⟨a, ha, hs⟩
  · rw [hs] at hr ⊢
    simp only [Except.ok.injEq] at hr
    subst hr
    exact ⟨X, rfl, rfl, rfl, rfl, rfl, rfl⟩
  · rw [hs] at hr
    simp at hr
  · cases ha

-- A runner registered with a user's access token stays in the user's namespace. Over any calls
-- of the runner protocol after its registration, from a store built by calls that seal what
-- they complete: the runner has one record, with the id, token and kind it registered with, the
-- zone `userZone user z` of its reported zone `z` (the unknown zone when it reports none), and
-- active; each further call leaves that record alone or replaces it with its poll copy, which
-- follows the call's report only in name, version, platform, architecture and hints; the known
-- zones are those from before the registration; and a job request made with a token that names
-- the runner hands out only jobs of its zone.
theorem user_runner_stays_in_namespace {o : Orchestrator} {ops : List StoreOp} {req : Registration}
    {user : String} {reg : Registered}
    (hs : StoreRun (fun _ op => op.Sealing) {} ops o.store.data)
    (hg : o.config.registrationToken ≠ some req.secret)
    (hu : o.config.accessTokens.reverse.lookup req.secret = some user)
    (hr : (exec (register req) o).1 = .ok reg) (cs : List ProtocolCall) :
    let o' := ProtocolCall.run (exec (register req) o).2 cs
    ∃ cur, o'.store.data.findRunner reg.runner = some cur ∧
      (∀ q ∈ o'.store.data.runners, q.id = reg.runner → q = cur) ∧
      cur.id = reg.runner ∧ cur.token = reg.token ∧ cur.kind = req.info.requestedKind.getD .all ∧
      cur.zone = userZone user (req.info.zone.getD unknownZone) ∧ cur.active = true ∧
      o'.store.data.zones = o.store.data.zones ∧
      (∀ c : ProtocolCall, ∃ cur', (c.step o').store.data.findRunner reg.runner = some cur' ∧
        (cur' = cur ∨ ∃ t, cur' = pollCopy cur c.report t)) ∧
      ∀ token info a d, (o'.store.data.findRunnerByToken token).map Runner.id = some reg.runner →
        (exec (requestJob token info) o').1 = .ok a → a.job = some d →
        ((exec (requestJob token info) o').2.store.data.findJob d.jobId).map Job.zone =
          some (userZone user (req.info.zone.getD unknownZone)) := by
  intro o'
  obtain ⟨X, hdata, hid, htok, hkind, hzone, hact⟩ := register_user hg hu hr
  have h₀ : Namespaced X o.store.data.zones (exec (register req) o).2.store.data X := by
    rw [hdata]
    exact ⟨sole_createRunner _ _, rfl, rfl, rfl, rfl, rfl, createRunner_zones _ _,
      @StoreOp.indexed_apply _ (.createRunner X) (hs.indexed JobStore.indexed_empty) trivial⟩
  obtain ⟨cur, hcur⟩ := h₀.run cs
  have hcid : cur.id = reg.runner := hcur.id.trans hid
  refine ⟨cur, hcid ▸ hcur.sole.findRunner, fun q hq hqid => hcur.sole.2 q hq (hqid.trans hcid.symm),
    hcid, hcur.token.trans htok, hcur.kind.trans hkind, hcur.zone.trans hzone, hcur.active.trans hact,
    hcur.known, fun c => ?_, fun token info a d htk ha hd => ?_⟩
  · obtain ⟨cur', h', hc⟩ := hcur.step c
    refine ⟨cur', ?_, hc⟩
    rw [← hid, ← h'.id]
    exact h'.sole.findRunner
  · -- the token names the runner's one record, whose zone the poll scans
    obtain ⟨r, hf, hrid⟩ := Option.map_eq_some_iff.mp htk
    have hrc : r = cur := hcur.sole.eq_of_token hf (hrid.trans hcid.symm)
    exact requestJob_zoned (userZone_ne_unknown _ _) token info o'
      ⟨hcur.indexed, r, hf, by rw [hrc, hcur.zone, hzone]⟩ a ha d hd

-- A fresh orchestrator that knows one user, alice, by her access token.
def aliceState : Orchestrator := Orchestrator.create { accessTokens := [("alice-token", "alice")] }

-- Alice's runner registers in zone `eu` without asking for a kind.
def aliceRegistration : Registration :=
  { name := "laptop", secret := "alice-token", info := { zone := some "eu" } }

def aliceRegistered : Registered :=
  ⟨Uuid.mint ("runner:" ++ toString 0), deriveToken (Uuid.mint ("runner:" ++ toString 0)) "alice-token",
    RunnerSettings.ofKind .all⟩

-- A poll that reports another zone and asks for one kind.
def aliceMovingPoll : ProtocolCall :=
  .requestJob aliceRegistered.token (some { zone := some "us", extra := some [("jobType", "LabPing")] })

-- Reporting zone `us` and kind `LabPing` leaves the runner in `[USER:alice]-eu`, of every kind.
theorem alice_runner_keeps_her_zone :
    ∃ cur, (ProtocolCall.run (exec (register aliceRegistration) aliceState).2 [aliceMovingPoll]).store.data.findRunner
        aliceRegistered.runner = some cur ∧ cur.zone = "[USER:alice]-eu" ∧ cur.kind = .all := by
  obtain ⟨cur, hf, -, -, -, hk, hz, -⟩ := @user_runner_stays_in_namespace aliceState [] aliceRegistration
    "alice" aliceRegistered (.nil _) (by decide) rfl rfl [aliceMovingPoll]
  exact ⟨cur, hf, hz.trans rfl, hk.trans rfl⟩

end Orchestrator

end JobDispatch
