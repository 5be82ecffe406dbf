import Mathlib
import JobDispatch.Proofs.Orchestrator.Ledger

namespace JobDispatch

namespace Orchestrator

-- A relation on the store's data, read on states.
def OnData (Q : JobStore → JobStore → Prop) (o o' : Orchestrator) : Prop := Q o.store.data o'.store.data

namespace OnData

variable {α β : Type} {Q : JobStore → JobStore → Prop}

-- A step that leaves the store's data alone stays within every reflexive frame.
theorem of_data (hQ : ∀ s, Q s s) {m : Op α} (h : ∀ o, (exec m o).2.store.data = o.store.data) :
    Within (OnData Q) m := by
  intro o
  unfold OnData
  rw [h o]
  exact hQ _

theorem modify (hQ : ∀ s, Q s s) {f : Orchestrator → Orchestrator} (hf : ∀ o, (f o).store.data = o.store.data) :
    Within (OnData Q) (MonadState.modifyGet fun o => ((), f o) : Op Unit) :=
  of_data hQ hf

theorem modifyGet (hQ : ∀ s, Q s s) {f : Orchestrator → α × Orchestrator}
    (hf : ∀ o, (f o).2.store.data = o.store.data) : Within (OnData Q) (MonadState.modifyGet f : Op α) :=
  of_data hQ hf

-- A store call stays within the frame when its effect on the data does: a failing or absent
-- call leaves the data alone.
theorem call (hQ : ∀ s, Q s s) {c : StoreCall} {op : JobStore → α × JobStore} {absent : Option α}
    (hop : ∀ s, Q s (op s).2) : Within (OnData Q) (Orchestrator.call c op absent) := by
  intro o
  unfold OnData
  rw [exec_call]
  rcases Store.run_cases o.store c op absent with h | ⟨e, h⟩ | ⟨a, -, h⟩ <;> rw [h]
  · exact hop _
  · exact hQ _
  · exact hQ _

theorem read (hQ : ∀ s, Q s s) {c : StoreCall} {f : JobStore → α} {absent : Option α} :
    Within (OnData Q) (Orchestrator.read c f absent) :=
  call hQ hQ

-- A first step that moves the data by `A`, followed by steps within a reflexive `Q`, moves it by
-- `A` and then `Q`; `A` need not compose with itself.
theorem comp_bind {A : JobStore → JobStore → Prop} {m : Op α} {f : α → Op β} (hm : Within (OnData A) m)
    (hf : ∀ a, Within (OnData Q) (f a)) (hQ : ∀ s, Q s s) :
    Within (OnData (Relation.Comp A Q)) (m >>= f) := by
  intro o
  have h₁ := hm o
  unfold OnData at h₁ ⊢
  rw [exec_bind]
  rcases hx : exec m o with ⟨_ | a, o₁⟩ <;> rw [hx] at h₁
  · exact ⟨_, h₁, hQ _⟩
  · exact ⟨_, h₁, hf a o₁⟩

theorem get_bind {R : Orchestrator → Orchestrator → Prop} {f : Orchestrator → Op β}
    (hf : ∀ o, Within R (f o)) : Within R ((MonadState.get : Op Orchestrator) >>= f) :=
  fun o => hf o o

end OnData

-- A frame that the job side of the runner protocol stays within: it assigns, seals and
-- charges jobs, and otherwise leaves the store's data alone.
structure JobFrame (Q : JobStore → JobStore → Prop) : Prop where
  refl : ∀ s, Q s s
  trans : ∀ {a b c}, Q a b → Q b c → Q a c
  assign : ∀ s id r t, Q s (s.assignRunner id r t).2
  complete : ∀ s id c, c.status.sealed = true → Q s (s.completeJob id c).2
  charge : ∀ s p n d, Q s (s.recordUsage p n d)

theorem JobFrame.chain {Q : JobStore → JobStore → Prop} (hQ : JobFrame Q) : Chain (OnData Q) :=
  ⟨fun _ => hQ.refl _, hQ.trans⟩

theorem JobFrame.and {Q₁ Q₂ : JobStore → JobStore → Prop} (h₁ : JobFrame Q₁) (h₂ : JobFrame Q₂) :
    JobFrame fun s s' => Q₁ s s' ∧ Q₂ s s' where
  refl s := ⟨h₁.refl s, h₂.refl s⟩
  trans a b := ⟨h₁.trans a.1 b.1, h₂.trans a.2 b.2⟩
  assign s id r t := ⟨h₁.assign s id r t, h₂.assign s id r t⟩
  complete s id c hs := ⟨h₁.complete s id c hs, h₂.complete s id c hs⟩
  charge s p n d := ⟨h₁.charge s p n d, h₂.charge s p n d⟩

section Steps

variable {Q : JobStore → JobStore → Prop} (hQ : JobFrame Q)
include hQ

theorem now_framed : Within (OnData Q) now := OnData.modifyGet hQ.refl fun _ => rfl

theorem record_framed (f : Metrics → Metrics) : Within (OnData Q) (record f) :=
  OnData.modify hQ.refl fun _ => rfl

theorem publish_framed (e : JobEvent) : Within (OnData Q) (publish e) := OnData.modify hQ.refl fun _ => rfl

theorem tryLease_framed (key : String) : Within (OnData Q) (tryLease key) :=
  OnData.modifyGet hQ.refl fun _ => rfl

theorem enterGate_framed : Within (OnData Q) enterGate := OnData.modifyGet hQ.refl fun _ => rfl

theorem watermark_framed (k : JobKind) (zone : String) : Within (OnData Q) (watermark k zone) :=
  OnData.modifyGet hQ.refl fun _ => rfl

theorem getJob_framed (id : Int) : Within (OnData Q) (getJob id) := by
  unfold getJob
  refine Within.bind hQ.chain (OnData.read hQ.refl) fun x => ?_
  split
  · exact Within.pure hQ.chain _
  · exact Within.throw hQ.chain _

theorem readTrace_framed (key : String) : Within (OnData Q) (readTrace key) := by
  unfold readTrace
  refine Within.bind hQ.chain (Within.get hQ.chain) fun o => ?_
  split
  · exact Within.throw hQ.chain _
  · exact Within.throw hQ.chain _
  · split
    · exact Within.pure hQ.chain _
    · exact Within.throw hQ.chain _

theorem upload_framed (key : String) (data : List UInt8) : Within (OnData Q) (upload key data) := by
  unfold upload
  refine Within.bind hQ.chain (Within.get hQ.chain) fun o =>
    Within.bind hQ.chain (OnData.modify hQ.refl fun _ => rfl) fun _ => ?_
  split
  · exact Within.throw hQ.chain _
  · exact Within.pure hQ.chain _

theorem appendTrace_framed (j : Job) (chunk : List TraceEntry) : Within (OnData Q) (appendTrace j chunk) := by
  unfold appendTrace
  split
  · exact Within.pure hQ.chain _
  · exact Within.bind hQ.chain (Within.tryCatch hQ.chain (readTrace_framed hQ _) fun _ =>
      Within.pure hQ.chain _) fun _ => Within.bind hQ.chain (upload_framed hQ _ _) fun _ =>
        Within.pure hQ.chain _

theorem jobDone_framed (j : Job) {status : JobStatus} (d : Int) (errored : Bool) (logs : List TraceEntry)
    (hs : status.sealed = true) : Within (OnData Q) (jobDone j status d errored logs) := by
  unfold jobDone
  refine Within.bind hQ.chain (now_framed hQ) fun t => ?_
  refine Within.bind hQ.chain (OnData.call hQ.refl fun s => hQ.complete s _ _ hs) fun x => ?_
  split
  · exact Within.bind hQ.chain (OnData.call hQ.refl fun s => hQ.charge s _ _ _) fun _ =>
      Within.bind hQ.chain (Within.logged hQ.chain (Within.bind hQ.chain (appendTrace_framed hQ _ _)
        fun _ => Within.pure hQ.chain _)) fun _ =>
          Within.bind hQ.chain (record_framed hQ _) fun _ => Within.pure hQ.chain _
  · exact Within.pure hQ.chain _

theorem payloadFailed_framed (j : Job) (err : String) : Within (OnData Q) (payloadFailed j err) := by
  unfold payloadFailed
  exact Within.bind hQ.chain (now_framed hQ) fun _ =>
    Within.bind hQ.chain (Within.logged hQ.chain (Within.bind hQ.chain (jobDone_framed hQ _ _ _ _ rfl)
      fun _ => Within.pure hQ.chain _)) fun _ => publish_framed hQ _

-- Claiming takes leases, assigns candidates and seals those whose payload fails.
theorem claimEach_framed (r : Runner) : ∀ cs : List Job, Within (OnData Q) (claimEach r cs)
  | [] => Within.pure hQ.chain _
  | c :: rest => by
    rw [claimEach]
    dsimp only
    refine Within.bind hQ.chain (tryLease_framed hQ _) fun lease => ?_
    split
    · refine Within.bind hQ.chain (now_framed hQ) fun t => ?_
      refine Within.bind hQ.chain (OnData.call hQ.refl fun s => hQ.assign s _ _ _) fun x => ?_
      split
      · exact claimEach_framed r rest
      · split
        · refine Within.bind hQ.chain (record_framed hQ _) fun _ =>
            Within.bind hQ.chain (Within.get hQ.chain) fun o => ?_
          split
          · exact Within.pure hQ.chain _
          · exact Within.bind hQ.chain (payloadFailed_framed hQ _ _) fun _ => claimEach_framed r rest
        · refine Within.bind hQ.chain (Within.get hQ.chain) fun o => ?_
          split
          · exact Within.pure hQ.chain _
          · exact Within.bind hQ.chain (payloadFailed_framed hQ _ _) fun _ => claimEach_framed r rest
    · exact claimEach_framed r rest

theorem eligibleFilter_framed (r : Runner) : Within (OnData Q) (eligibleFilter r) := by
  unfold eligibleFilter
  refine Within.bind hQ.chain (Within.get hQ.chain) fun o => ?_
  dsimp only
  split
  · exact Within.pure hQ.chain _
  · exact Within.bind hQ.chain (watermark_framed hQ _ _) fun _ => Within.pure hQ.chain _

theorem claimFirst_framed (r : Runner) (f : JobFilter) : Within (OnData Q) (claimFirst r f) := by
  unfold claimFirst
  refine Within.bind hQ.chain (OnData.read hQ.refl) fun candidates => ?_
  split
  · split
    · exact Within.bind hQ.chain (OnData.modify hQ.refl fun _ => rfl) fun _ => claimEach_framed hQ r _
    · exact claimEach_framed hQ r _
  · exact claimEach_framed hQ r _

theorem nextJob_framed (r : Runner) : Within (OnData Q) (nextJob r) := by
  unfold nextJob
  refine Within.bind hQ.chain (eligibleFilter_framed hQ r) fun f => ?_
  refine Within.bind hQ.chain (claimFirst_framed hQ r f) fun x => ?_
  split
  · exact Within.pure hQ.chain _
  · split
    · exact Within.pure hQ.chain _
    · split
      · exact Within.bind hQ.chain (OnData.modify hQ.refl fun _ => rfl) fun _ => claimFirst_framed hQ r _
      · exact claimFirst_framed hQ r _

end Steps

-- The job side of the protocol: the runners, the known zones and the zone of every job stay.
def JobSide (s s' : JobStore) : Prop :=
  s'.runners = s.runners ∧ s'.zones = s.zones ∧
    ∀ i, (s'.findJob i).map Job.zone = (s.findJob i).map Job.zone

section JobSide

variable (s : JobStore)

theorem jobSide_refl : JobSide s s := ⟨rfl, rfl, fun _ => rfl⟩

-- Rewriting a job into a copy in the same zone keeps every job's zone.
theorem jobSide_updateJob {j : Job} (h : ∀ k, s.findJob j.id = some k → k.zone = j.zone) :
    JobSide s (s.updateJob j) := by
  refine ⟨rfl, rfl, fun i => ?_⟩
  rw [JobStore.findJob_updateJob]
  split
  · rename_i hi
    subst hi
    cases hf : s.findJob j.id with
    | none => rfl
    | some k => simp [h k hf]
  · rfl

theorem jobSide_assignRunner (id : Int) (r : Uuid) (t : Timestamp) :
    JobSide s (s.assignRunner id r t).2 := by
  cases hj : s.findJob id with
  | none => rw [JobStore.assignRunner_of_not_pending r t (by simp [hj])]; exact jobSide_refl s
  | some j =>
    by_cases hp : j.status = .pending
    · rw [JobStore.assignRunner_of_pending r t hj hp]
      have hid : j.id = id := JobStore.findJob_id hj
      have hup : JobSide s (s.updateJob { j with status := .running, runnerId := some r, startedAt := some t }) :=
        jobSide_updateJob s fun k hk => by
          have hk' : s.findJob id = some k := by simpa [hid] using hk
          rw [hj] at hk'
          cases hk'
          rfl
      exact ⟨hup.1, hup.2.1, fun i => by rw [JobStore.findJob_setPending]; exact hup.2.2 i⟩
    · rw [JobStore.assignRunner_of_not_pending r t (by simp [hj, hp])]; exact jobSide_refl s

theorem jobSide_completeJob (id : Int) (c : Completion) : JobSide s (s.completeJob id c).2 := by
  cases hj : s.findJob id with
  | none => rw [JobStore.completeJob_of_not_running c (by simp [hj])]; exact jobSide_refl s
  | some j =>
    by_cases hr : j.status = .running
    · rw [JobStore.completeJob_of_running c hj hr]
      have hid : j.id = id := JobStore.findJob_id hj
      exact jobSide_updateJob s fun k hk => by
        have hk' : s.findJob id = some k := by simpa [hid] using hk
        rw [hj] at hk'
        cases hk'
        rfl
    · rw [JobStore.completeJob_of_not_running c (by simp [hj, hr])]; exact jobSide_refl s

end JobSide

theorem jobSide : JobFrame JobSide where
  refl := jobSide_refl
  trans := fun ⟨r₁, z₁, j₁⟩ ⟨r₂, z₂, j₂⟩ => ⟨r₂.trans r₁, z₂.trans z₁, fun i => (j₂ i).trans (j₁ i)⟩
  assign := jobSide_assignRunner
  complete s id c _ := jobSide_completeJob s id c
  charge _ _ _ _ := ⟨rfl, rfl, fun _ => rfl⟩

-- The job side keeps the pending index in step with the jobs: its completions seal.
theorem indexKept : JobFrame fun s s' => s.Indexed → s'.Indexed where
  refl _ := id
  trans h₁ h₂ := h₂ ∘ h₁
  assign s id r t hi := @StoreOp.indexed_apply s (.assign id r t) hi trivial
  complete s id c hs hi := @StoreOp.indexed_apply s (.complete id c) hi hs
  charge s p n d hi := @StoreOp.indexed_apply s (.recordUsage p n d) hi trivial

-- Partial correctness on the store's data: from data satisfying `P`, every run of `m` that
-- answers `b` ends in data satisfying `Q b`.
def Ensures {β : Type} (P : JobStore → Prop) (m : Op β) (Q : β → JobStore → Prop) : Prop :=
  ∀ o, P o.store.data → ∀ b, (exec m o).1 = .ok b → Q b (exec m o).2.store.data

-- `P` survives every move that the frame `F` allows.
def Stable (F : JobStore → JobStore → Prop) (P : JobStore → Prop) : Prop :=
  ∀ {s s'}, F s s' → P s → P s'

namespace Ensures

variable {α β : Type} {P : JobStore → Prop} {Q : β → JobStore → Prop}

theorem conseq {P' : JobStore → Prop} {Q' : β → JobStore → Prop} {m : Op β} (h : Ensures P m Q)
    (hp : ∀ s, P' s → P s) (hq : ∀ b s, Q b s → Q' b s) : Ensures P' m Q' :=
  fun o ho b hb => hq b _ (h o (hp _ ho) b hb)

theorem ret (b : β) : Ensures (Q b) (Pure.pure b : Op β) Q := by
  intro o ho b' hb
  simp only [exec_pure, Except.ok.injEq] at hb
  subst hb
  exact ho

theorem throw (e : DispatchError) : Ensures P (MonadExcept.throw e : Op β) Q := by
  intro o _ b hb
  simp at hb

theorem bind {m : Op α} {f : α → Op β} {R : α → JobStore → Prop} (hm : Ensures P m R)
    (hf : ∀ a, Ensures (R a) (f a) Q) : Ensures P (m >>= f) Q := by
  intro o ho b hb
  rw [exec_bind] at hb ⊢
  rcases hx : exec m o with ⟨_ | a, o₁⟩ <;> rw [hx] at hb
  · simp at hb
  · have h₁ := hm o ho a (by rw [hx])
    rw [hx] at h₁
    exact hf a o₁ h₁ b hb

theorem map {m : Op α} {f : α → β} {R : α → JobStore → Prop} (hm : Ensures P m R)
    (hf : ∀ a s, R a s → Q (f a) s) : Ensures P (f <$> m) Q := by
  intro o ho b hb
  rw [exec_map] at hb ⊢
  rcases hx : exec m o with ⟨_ | a, o₁⟩ <;> rw [hx] at hb
  · simp at hb
  · simp only [Except.ok.injEq] at hb
    subst hb
    have h₁ := hm o ho a (by rw [hx])
    rw [hx] at h₁
    exact hf a o₁.store.data h₁

-- A handler starts from whatever the failed operation left, so it is taken from any data.
theorem tryCatch {m : Op β} {h : DispatchError → Op β} (hm : Ensures P m Q)
    (hh : ∀ e, Ensures (fun _ => True) (h e) Q) : Ensures P (tryCatch m h) Q := by
  intro o ho b hb
  rw [exec_tryCatch] at hb ⊢
  rcases hx : exec m o with ⟨e | a, o₁⟩ <;> rw [hx] at hb
  · exact hh e o₁ trivial b hb
  · have h₁ := hm o ho a (by rw [hx])
    rw [hx] at h₁
    simp only [Except.ok.injEq] at hb
    subst hb
    exact h₁

-- A fact that does not depend on the data moves into the context.
theorem of_prop {φ : Prop} {m : Op β} (h : φ → Ensures P m Q) : Ensures (fun s => P s ∧ φ) m Q :=
  fun o ho => h ho.2 o ho.1

theorem of_data {m : Op β} (h : ∀ o, (exec m o).2.store.data = o.store.data) : Ensures P m fun _ => P := by
  intro o ho _ _
  rw [h o]
  exact ho

theorem of_within {F : JobStore → JobStore → Prop} {m : Op β} (hm : Within (OnData F) m) (hP : Stable F P) :
    Ensures P m fun _ => P :=
  fun o ho _ _ => hP (hm o) ho

-- A step within a frame that `P` survives hands `P` on to the rest.
theorem within_bind {F : JobStore → JobStore → Prop} {m : Op α} {f : α → Op β} (hm : Within (OnData F) m)
    (hP : Stable F P) (hf : ∀ a, Ensures P (f a) Q) : Ensures P (m >>= f) Q :=
  bind (of_within hm hP) hf

theorem frame {F : JobStore → JobStore → Prop} {R : JobStore → Prop} {m : Op β} (h : Ensures P m Q)
    (hm : Within (OnData F) m) (hR : Stable F R) : Ensures (fun s => P s ∧ R s) m fun b s => Q b s ∧ R s :=
  fun o ho b hb => ⟨h o ho.1 b hb, hR (hm o) ho.2⟩

-- A store call answers what its operation answers on the data, or an `absent` fault's answer.
theorem call {c : StoreCall} {op : JobStore → β × JobStore} {absent : Option β}
    (hop : ∀ s, P s → Q (op s).1 (op s).2) (habs : ∀ a ∈ absent, ∀ s, P s → Q a s) :
    Ensures P (Orchestrator.call c op absent) Q := by
  intro o ho b hb
  rw [exec_call] at hb ⊢
  rcases Store.run_cases o.store c op absent with h | ⟨e, h⟩ | ⟨a, ha, h⟩ <;> rw [h] at hb ⊢
  · simp only [Except.ok.injEq] at hb
    subst hb
    exact hop _ ho
  · simp at hb
  · simp only [Except.ok.injEq] at hb
    subst hb
    exact habs a ha _ ho

end Ensures

end Orchestrator

end JobDispatch
