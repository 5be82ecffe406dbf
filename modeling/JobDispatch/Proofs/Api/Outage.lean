import Mathlib
import JobDispatch.Api.Router
import JobDispatch.Proofs.Orchestrator.Exec

namespace JobDispatch

namespace Store

-- The error every call to an unreachable database answers.
def outage : StoreError := .database unreachableDatabase

theorem run_unreachable {α : Type} {s : Store} (hu : s.backend = .unreachable) (c : StoreCall)
    (op : JobStore → α × JobStore) (absent : Option α) : s.run c op absent = (.error outage, s) := by
  unfold run
  rw [hu]
  rfl

end Store

namespace Orchestrator

-- What a request must leave as it was: dispatch leases, watermarks, blobs, published events,
-- metrics and the maintenance switch; and the store, which an outage keeps as it is. Only the
-- clocks and the count of minted runner ids may move.
structure Undisturbed (o o' : Orchestrator) : Prop where
  leases : o'.leases = o.leases
  watermarks : o'.watermarks = o.watermarks
  blobs : o'.blobs = o.blobs
  events : o'.events = o.events
  metrics : o'.metrics = o.metrics
  maintenance : o'.maintenance = o.maintenance
  store : o'.store = o.store

namespace Undisturbed

theorem refl (o : Orchestrator) : Undisturbed o o := ⟨rfl, rfl, rfl, rfl, rfl, rfl, rfl⟩

theorem trans {o₁ o₂ o₃ : Orchestrator} (h₁ : Undisturbed o₁ o₂) (h₂ : Undisturbed o₂ o₃) : Undisturbed o₁ o₃ :=
  ⟨h₂.leases.trans h₁.leases, h₂.watermarks.trans h₁.watermarks, h₂.blobs.trans h₁.blobs,
    h₂.events.trans h₁.events, h₂.metrics.trans h₁.metrics, h₂.maintenance.trans h₁.maintenance,
    h₂.store.trans h₁.store⟩

theorem unreachable {o o' : Orchestrator} (h : Undisturbed o o') (hu : o.store.backend = .unreachable) :
    o'.store.backend = .unreachable := by
  rw [h.store, hu]

theorem wallClock (o : Orchestrator) (t : Timestamp) : Undisturbed o { o with wallClock := t } :=
  ⟨rfl, rfl, rfl, rfl, rfl, rfl, rfl⟩

theorem mintedRunners (o : Orchestrator) (n : Nat) : Undisturbed o { o with mintedRunners := n } :=
  ⟨rfl, rfl, rfl, rfl, rfl, rfl, rfl⟩

end Undisturbed

section Outage

variable {α β : Type}

-- Run from `o`, the operation fails with a store error, leaving `o` untouched.
def FailsOnStore (o : Orchestrator) (m : Op α) : Prop :=
  ∃ e, (exec m o).1 = .error (.store e) ∧ Undisturbed o (exec m o).2

-- Run from `o`, the operation never reaches the store: from `o` with any other store it
-- answers the same and leaves the same state, with that store.
def StoreFree (o : Orchestrator) (m : Op α) : Prop :=
  ∀ s : Store, exec m { o with store := s } = ((exec m o).1, { (exec m o).2 with store := s })

theorem exec_call_unreachable {o : Orchestrator} (hu : o.store.backend = .unreachable) (c : StoreCall)
    (op : JobStore → α × JobStore) (absent : Option α) :
    exec (call c op absent) o = (.error (.store Store.outage), o) := by
  rw [exec_call, Store.run_unreachable hu]

theorem FailsOnStore.call {o : Orchestrator} (hu : o.store.backend = .unreachable) (c : StoreCall)
    (op : JobStore → α × JobStore) (absent : Option α) : FailsOnStore o (call c op absent) := by
  refine ⟨Store.outage, ?_, ?_⟩ <;> rw [exec_call_unreachable hu]
  exact Undisturbed.refl o

theorem FailsOnStore.read {o : Orchestrator} (hu : o.store.backend = .unreachable) (c : StoreCall)
    (f : JobStore → α) (absent : Option α) : FailsOnStore o (read c f absent) :=
  FailsOnStore.call hu c _ absent

-- A failure ends the operation there.
theorem FailsOnStore.bind {o : Orchestrator} {m : Op α} (h : FailsOnStore o m) (f : α → Op β) :
    FailsOnStore o (m >>= f) := by
  obtain ⟨e, he, hu⟩ := h
  rw [FailsOnStore, exec_bind]
  rcases hx : exec m o with ⟨_ | a, o'⟩
  · rw [hx] at he hu
    cases he
    exact ⟨e, rfl, hu⟩
  · rw [hx] at he
    cases he

-- Steps that touch nothing, then an operation that fails on the store, fail on the store.
theorem FailsOnStore.after {o o₁ : Orchestrator} {m : Op α} {f : α → Op β} {a : α}
    (hm : exec m o = (.ok a, o₁)) (hq : Undisturbed o o₁) (hf : FailsOnStore o₁ (f a)) :
    FailsOnStore o (m >>= f) := by
  obtain ⟨e, he, hu⟩ := hf
  rw [FailsOnStore, exec_bind, hm]
  exact ⟨e, he, hq.trans hu⟩

-- An operation that answers the same from every store, leaving the state as it was.
theorem StoreFree.of_const {o : Orchestrator} {m : Op α} {r : Except DispatchError α}
    (h : ∀ s : Store, exec m { o with store := s } = (r, { o with store := s })) : StoreFree o m := by
  intro s
  have h₀ : exec m o = (r, o) := h o.store
  rw [h s, h₀]

theorem StoreFree.bind {o : Orchestrator} {m : Op α} {f : α → Op β} (hm : StoreFree o m)
    (hf : ∀ a, (exec m o).1 = .ok a → StoreFree (exec m o).2 (f a)) : StoreFree o (m >>= f) := by
  intro s
  rw [exec_bind, exec_bind, hm s]
  rcases hx : exec m o with ⟨_ | a, o'⟩
  · rfl
  · have := hf a (by rw [hx])
    rw [hx] at this
    exact this s

theorem StoreFree.pure (o : Orchestrator) (a : α) : StoreFree o (Pure.pure a : Op α) :=
  StoreFree.of_const fun _ => rfl

theorem StoreFree.throw (o : Orchestrator) (e : DispatchError) : StoreFree o (throw e : Op α) :=
  StoreFree.of_const fun _ => rfl

-- A failure of the first step ends the operation before anything else could reach the store.
theorem StoreFree.bind_error {o : Orchestrator} {m : Op α} {e : DispatchError} (hm : StoreFree o m)
    (he : (exec m o).1 = .error e) (f : α → Op β) : StoreFree o (m >>= f) :=
  hm.bind fun a ha => by rw [he] at ha; cases ha

-- Run from `o`, the operation either fails on the store leaving `o` untouched, or never
-- reaches the store.
def SafeInOutage (o : Orchestrator) (m : Op α) : Prop := FailsOnStore o m ∨ StoreFree o m

-- What follows an operation that is safe is safe when it never reaches the store.
theorem SafeInOutage.bind {o : Orchestrator} {m : Op α} (h : SafeInOutage o m) {f : α → Op β}
    (hf : ∀ a o', StoreFree o' (f a)) : SafeInOutage o (m >>= f) := by
  rcases h with h | h
  · exact .inl (h.bind f)
  · exact .inr (h.bind fun a _ => hf a _)

end Outage

theorem exec_now (o : Orchestrator) :
    exec now o = (.ok o.wallClock, { o with wallClock := o.wallClock.addNanos 1 }) := rfl

section Services

variable {o : Orchestrator}

theorem exec_authenticate_missing (o : Orchestrator) (info : Option RunnerReport) :
    exec (authenticate "" info) o = (.error (.forbidden "missing runner token"), o) := by
  simp [authenticate]

-- A runner with a token is looked up in the store first.
theorem authenticate_fails (hu : o.store.backend = .unreachable) {token : String} (ht : token ≠ "")
    (info : Option RunnerReport) : FailsOnStore o (authenticate token info) := by
  unfold authenticate
  simp only [ht, if_false]
  exact (FailsOnStore.read hu _ _ _).bind _

theorem getJob_fails (hu : o.store.backend = .unreachable) (id : Int) : FailsOnStore o (getJob id) := by
  unfold getJob
  exact (FailsOnStore.read hu _ _ _).bind _

theorem exec_requestJob_maintenance (h : o.maintenance = true) (token : String) (info : Option RunnerReport) :
    exec (requestJob token info) o = (.ok {}, o) := by
  unfold requestJob
  simp only [exec_bind, exec_get, h, if_true]
  rfl

theorem exec_requestJob_missing (h : o.maintenance = false) (info : Option RunnerReport) :
    exec (requestJob "" info) o = (.error (.forbidden "missing runner token"), o) := by
  unfold requestJob
  simp only [exec_bind, exec_get, h, Bool.false_eq_true, if_false, exec_authenticate_missing]

theorem requestJob_fails (hu : o.store.backend = .unreachable) (h : o.maintenance = false) {token : String}
    (ht : token ≠ "") (info : Option RunnerReport) : FailsOnStore o (requestJob token info) := by
  unfold requestJob
  refine FailsOnStore.after (exec_get o) (Undisturbed.refl o) ?_
  simp only [h, Bool.false_eq_true, if_false]
  exact (authenticate_fails hu ht info).bind _

-- Without a token a runner is refused before the store is asked.
theorem authenticate_bind_outage (hu : o.store.backend = .unreachable) (token : String)
    (info : Option RunnerReport) (f : Runner → Op α) : SafeInOutage o (authenticate token info >>= f) := by
  by_cases ht : token = ""
  · subst ht
    refine .inr (StoreFree.of_const (r := .error (.forbidden "missing runner token")) fun s => ?_)
    rw [exec_bind, exec_authenticate_missing]
  · exact .inl ((authenticate_fails hu ht info).bind f)

theorem requestJob_outage (hu : o.store.backend = .unreachable) (token : String) (info : Option RunnerReport) :
    SafeInOutage o (requestJob token info) := by
  cases hm : o.maintenance with
  | true => exact .inr (StoreFree.of_const fun s => exec_requestJob_maintenance (o := { o with store := s }) hm _ _)
  | false =>
    by_cases ht : token = ""
    · subst ht
      exact .inr (StoreFree.of_const fun s => exec_requestJob_missing (o := { o with store := s }) hm _)
    · exact .inl (requestJob_fails hu hm ht info)

theorem updateTrace_outage (hu : o.store.backend = .unreachable) (token : String) (p : TraceReport) :
    SafeInOutage o (updateTrace token p) := by
  unfold updateTrace
  exact authenticate_bind_outage hu _ _ _

theorem downloadArtifact_outage (hu : o.store.backend = .unreachable) (token key : String) :
    SafeInOutage o (downloadArtifact token key) := by
  unfold downloadArtifact
  exact authenticate_bind_outage hu _ _ _

theorem exec_uploadArtifact_invalid {jobId : String} (h : (Numeral.signed? 64 jobId).filter (· > 0) = none)
    (token key : String) (data : List UInt8) :
    exec (uploadArtifact token jobId key data) o = (.error (.forbidden "invalid jobId"), o) := by
  unfold uploadArtifact
  simp only [h]
  rfl

-- A job id that is no positive number is refused before the token is looked at.
theorem uploadArtifact_outage (hu : o.store.backend = .unreachable) (token jobId key : String)
    (data : List UInt8) : SafeInOutage o (uploadArtifact token jobId key data) := by
  cases hid : (Numeral.signed? 64 jobId).filter (· > 0) with
  | none => exact .inr (StoreFree.of_const fun s => exec_uploadArtifact_invalid (o := { o with store := s }) hid _ _ _)
  | some id =>
    unfold uploadArtifact
    simp only [hid]
    exact authenticate_bind_outage hu _ _ _

theorem createJob_fails (hu : o.store.backend = .unreachable) {req : JobRequest} (hk : req.kind ≠ .all) :
    FailsOnStore o (createJob req) := by
  unfold createJob
  simp only [hk, ↓reduceIte]
  refine FailsOnStore.after (exec_get o) (Undisturbed.refl o) ?_
  refine FailsOnStore.after (exec_now o) (Undisturbed.wallClock _ _) ?_
  exact FailsOnStore.call ((Undisturbed.wallClock _ _).unreachable hu) _ _ _

-- A job the batch cannot create is skipped, whatever refused it.
theorem exec_createOrSkip (hu : o.store.backend = .unreachable) (req : JobRequest) :
    ∃ o', exec (tryCatch (some <$> createJob req) fun _ => pure none) o = (.ok none, o') ∧ Undisturbed o o' := by
  by_cases hk : req.kind = .all
  · refine ⟨o, ?_, Undisturbed.refl o⟩
    simp [createJob, hk, exec_tryCatch]
  · obtain ⟨e, he, hq⟩ := createJob_fails hu hk
    refine ⟨(exec (createJob req) o).2, ?_, hq⟩
    rw [exec_tryCatch, exec_map]
    rcases hx : exec (createJob req) o with ⟨_ | _, o'⟩
    · rfl
    · rw [hx] at he
      cases he

theorem exec_createEach (reqs : List JobRequest) :
    ∀ o : Orchestrator, o.store.backend = .unreachable →
      ∃ o', exec (reqs.filterMapM fun r => tryCatch (some <$> createJob r) fun _ => pure none) o = (.ok [], o') ∧
        Undisturbed o o' := by
  induction reqs with
  | nil => exact fun o _ => ⟨o, rfl, Undisturbed.refl o⟩
  | cons req rest ih =>
    intro o hu
    obtain ⟨o₁, h₁, hq₁⟩ := exec_createOrSkip hu req
    obtain ⟨o₂, h₂, hq₂⟩ := ih o₁ (hq₁.unreachable hu)
    refine ⟨o₂, ?_, hq₁.trans hq₂⟩
    rw [List.filterMapM_cons, exec_bind, h₁]
    exact h₂

-- The batch creates nothing, so nothing is counted or charged.
theorem exec_createJobs (hu : o.store.backend = .unreachable) (reqs : List JobRequest) :
    ∃ o', exec (createJobs reqs) o = (.ok [], o') ∧ Undisturbed o o' := by
  obtain ⟨o', h, hq⟩ := exec_createEach reqs o hu
  refine ⟨o', ?_, hq⟩
  unfold createJobs
  rw [exec_bind, h]
  simp [perProject]

theorem exec_createJobs_nil (o : Orchestrator) : exec (createJobs []) o = (.ok [], o) := by
  simp [createJobs, perProject]

theorem cancelJob_fails (hu : o.store.backend = .unreachable) (id : Int) : FailsOnStore o (cancelJob id) := by
  unfold cancelJob
  exact (getJob_fails hu id).bind _

theorem pendingCounts_fails (hu : o.store.backend = .unreachable) : FailsOnStore o pendingCounts := by
  unfold pendingCounts
  exact (FailsOnStore.read hu _ _ _).bind _

theorem projectUsage_fails (hu : o.store.backend = .unreachable) (project : Int) :
    FailsOnStore o (projectUsage project) :=
  FailsOnStore.read hu _ _ _

theorem knownZones_fails (hu : o.store.backend = .unreachable) : FailsOnStore o knownZones :=
  FailsOnStore.read hu _ _ _

-- Registration reads only the configuration before it stores the runner: a refused secret
-- answers the same from every store, and an accepted one mints an id and reads the clock, which
-- no request sees, before the store refuses the runner.

theorem exec_registrant (secret : String) (s : Store) :
    exec (registrant secret) { o with store := s } = ((exec (registrant secret) o).1, { o with store := s }) := by
  unfold registrant
  cases hl : o.config.accessTokens.reverse.lookup secret <;>
  · simp only [exec_bind, exec_get, hl]
    split_ifs <;> rfl

theorem exec_registrant_state (secret : String) : (exec (registrant secret) o).2 = o :=
  congrArg Prod.snd (exec_registrant (o := o) secret o.store)

theorem exec_mintRunnerId (o : Orchestrator) : exec mintRunnerId o =
    (.ok (Uuid.mint ("runner:" ++ toString o.mintedRunners)), { o with mintedRunners := o.mintedRunners + 1 }) :=
  rfl

theorem register_outage (hu : o.store.backend = .unreachable) (req : Registration) :
    SafeInOutage o (register req) := by
  unfold register
  rcases hx : exec (registrant req.secret) o with ⟨_ | who, o₁⟩
  · refine .inr (StoreFree.bind_error (StoreFree.of_const (exec_registrant req.secret)) (by rw [hx]) _)
  · have ho : o₁ = o := by rw [← exec_registrant_state (o := o) req.secret, hx]
    subst ho
    refine .inl (FailsOnStore.after hx (Undisturbed.refl _) ?_)
    refine FailsOnStore.after (exec_mintRunnerId _) (Undisturbed.mintedRunners _ _) ?_
    refine FailsOnStore.after (exec_now _) (Undisturbed.wallClock _ _) ?_
    -- neither step moved the store
    refine (FailsOnStore.call ?_ _ _ _).bind _
    exact hu

-- The runners' registry.

theorem getRunner_fails (hu : o.store.backend = .unreachable) (id : Uuid) : FailsOnStore o (getRunner id) := by
  unfold getRunner
  exact (FailsOnStore.read hu _ _ _).bind _

theorem updateRunner_fails (hu : o.store.backend = .unreachable) (id : Uuid) (u : RunnerUpdate) :
    FailsOnStore o (updateRunner id u) := by
  unfold updateRunner
  exact (getRunner_fails hu id).bind _

theorem deleteRunner_fails (hu : o.store.backend = .unreachable) (id : Uuid) : FailsOnStore o (deleteRunner id) := by
  unfold deleteRunner
  exact (FailsOnStore.call hu _ _ _).bind _

theorem runningJobs_fails (hu : o.store.backend = .unreachable) (id : Uuid) : FailsOnStore o (runningJobs id) := by
  unfold runningJobs
  exact (getRunner_fails hu id).bind _

-- Asking for online runners reads the clock first.
theorem listRunners_fails (hu : o.store.backend = .unreachable) (q : RunnerQuery) :
    FailsOnStore o (listRunners q) := by
  unfold listRunners
  cases hq : q.online with
  | none =>
    refine FailsOnStore.after (exec_pure o none) (Undisturbed.refl o) ?_
    exact (FailsOnStore.read hu _ _ _).bind _
  | some b =>
    refine FailsOnStore.after (exec_now o) (Undisturbed.wallClock _ _) ?_
    refine FailsOnStore.after (exec_pure _ _) (Undisturbed.refl _) ?_
    -- reading the clock did not move the store
    refine (FailsOnStore.read ?_ _ _ _).bind _
    exact hu

theorem exec_tryCall_unreachable (hu : o.store.backend = .unreachable) (c : StoreCall)
    (op : JobStore → α × JobStore) (absent : Option α) : exec (tryCall c op absent) o = (.ok none, o) := by
  rw [tryCall, exec_tryCatch, exec_map, exec_call_unreachable hu]
  rfl

-- The query for stale jobs fails, so the sweep seals nothing and charges nothing.
theorem exec_sweep_outage (hu : o.store.backend = .unreachable) :
    (exec sweep o).1 = .ok ((staleBefore o.wallClock (o.config.runningDeadlineMs / 1000)).map fun _ => []) ∧
      Undisturbed o (exec sweep o).2 := by
  unfold sweep
  rw [exec_bind, exec_now]
  dsimp only
  rw [exec_bind, exec_get]
  dsimp only
  cases hs : staleBefore o.wallClock (o.config.runningDeadlineMs / 1000) with
  | none => exact ⟨rfl, Undisturbed.wallClock _ _⟩
  | some before =>
    rw [exec_bind, exec_tryCall_unreachable (o := { o with wallClock := o.wallClock.addNanos 1 }) hu]
    exact ⟨rfl, Undisturbed.wallClock _ _⟩

end Services

end Orchestrator

namespace Api

open Orchestrator

section Outage

variable {o : Orchestrator}

-- Served from `o`, the request is answered `r`, leaving `o` untouched.
def AnswersUntouched (o : Orchestrator) (a : StateM Orchestrator HttpResponse) (r : HttpResponse) : Prop :=
  (a.run o).1 = r ∧ Undisturbed o (a.run o).2

-- Served from `o`, the request gets the same answer and has the same effects whatever the
-- store holds.
def StoreBlind (o : Orchestrator) (a : StateM Orchestrator HttpResponse) : Prop :=
  ∀ s : Store, a.run { o with store := s } = ((a.run o).1, { (a.run o).2 with store := s })

-- Served from `o` while the store is out: answered as a store failure, leaving `o`
-- untouched, or the same whatever the store.
def Served (o : Orchestrator) (a : StateM Orchestrator HttpResponse) : Prop :=
  AnswersUntouched o a (respond 500 (errorBody "Internal server error")) ∨ StoreBlind o a

theorem StoreBlind.pure (o : Orchestrator) (r : HttpResponse) : StoreBlind o (Pure.pure r) := fun _ => rfl

theorem run_error {m : Op HttpResponse} {e : DispatchError} {o' : Orchestrator}
    (h : exec m o = (.error e, o')) : (run m).run o = (ofError e, o') := by
  have h' : (ExceptT.run m).run o = (.error e, o') := h
  simp only [run, StateT.run_bind, h']
  rfl

theorem run_ok {m : Op HttpResponse} {r : HttpResponse} {o' : Orchestrator}
    (h : exec m o = (.ok r, o')) : (run m).run o = (r, o') := by
  have h' : (ExceptT.run m).run o = (.ok r, o') := h
  simp only [run, StateT.run_bind, h']
  rfl

theorem answers_of_exec {m : Op HttpResponse} {e : DispatchError} {o' : Orchestrator}
    (h : exec m o = (.error e, o')) (hq : Undisturbed o o') : AnswersUntouched o (run m) (ofError e) := by
  rw [AnswersUntouched, run_error h]
  exact ⟨rfl, hq⟩

theorem run_fails {m : Op HttpResponse} (h : FailsOnStore o m) :
    AnswersUntouched o (run m) (respond 500 (errorBody "Internal server error")) := by
  obtain ⟨e, he, hq⟩ := h
  exact answers_of_exec (Prod.ext he rfl) hq

theorem run_storeFree {m : Op HttpResponse} (h : StoreFree o m) : StoreBlind o (run m) := by
  intro s
  have hs := h s
  rcases hx : exec m o with ⟨_ | r, o'⟩ <;> rw [hx] at hs
  · rw [run_error hs, run_error hx]
  · rw [run_ok hs, run_ok hx]

theorem run_served {m : Op HttpResponse} (h : SafeInOutage o m) : Served o (run m) := by
  rcases h with h | h
  · exact .inl (run_fails h)
  · exact .inr (run_storeFree h)

-- Every operation a request is read into is safe in an outage from `o`.
def ReadsSafe (o : Orchestrator) (read : Except HttpResponse (Op HttpResponse)) : Prop :=
  ∀ m, read = .ok m → SafeInOutage o m

theorem ReadsSafe.bind {β : Type} {e : Except HttpResponse β} {f : β → Except HttpResponse (Op HttpResponse)}
    (h : ∀ b, ReadsSafe o (f b)) : ReadsSafe o (e >>= f) := by
  intro m hm
  cases e with
  | error r => cases hm
  | ok b => exact h b m hm

theorem ReadsSafe.pure {m : Op HttpResponse} (h : SafeInOutage o m) : ReadsSafe o (Pure.pure m) := by
  intro m' hm
  cases hm
  exact h

-- A request that does not read is rejected before any operation runs.
theorem handle_served {read : Except HttpResponse (Op HttpResponse)} (h : ReadsSafe o read) :
    Served o (handle read) := by
  cases read with
  | error r => exact .inr (StoreBlind.pure o r)
  | ok m => exact run_served (h m rfl)

-- Most routes read one value from the request, then call a service that fails on the store.
theorem handle_served_of_fails {β γ : Type} {read : Except HttpResponse β} {svc : β → Op γ}
    {k : β → γ → Op HttpResponse} (h : ∀ b, FailsOnStore o (svc b)) :
    Served o (handle (read >>= fun b => Pure.pure (svc b >>= k b))) :=
  handle_served (ReadsSafe.bind fun b => ReadsSafe.pure (.inl ((h b).bind _)))

-- Each route, with the method it answers, runs one service: a route table, one case a route.
theorem route_outage (hu : o.store.backend = .unreachable) (req : HttpRequest) (segs : List String)
    {a : StateM Orchestrator HttpResponse} (h : route req segs = some a) :
    Served o a ∨ req.method = "POST" ∧ segs = ["api", "jobs"] ∧
      AnswersUntouched o a (respond 400 (errorBody "no job could be created")) := by
  unfold route at h
  split at h
  case h_1 => -- health
    obtain ⟨-, h⟩ := Option.ite_none_right_eq_some.mp h
    cases h
    exact .inl (.inr (StoreBlind.pure o _))
  case h_2 => -- metrics
    obtain ⟨-, h⟩ := Option.ite_none_right_eq_some.mp h
    cases h
    exact .inl (.inr fun _ => rfl)
  case h_3 => -- the maintenance switch lives outside the store
    split at h
    · cases h
      exact .inl (.inr fun _ => rfl)
    · cases h
      refine .inl (handle_served ?_)
      exact ReadsSafe.bind fun _ => ReadsSafe.pure (.inr fun _ => rfl)
    · cases h
  case h_4 => -- registration
    obtain ⟨-, h⟩ := Option.ite_none_left_eq_some.mp h
    cases h
    refine .inl (handle_served (ReadsSafe.bind fun r => ReadsSafe.pure ?_))
    exact (register_outage hu r).bind fun _ _ => StoreFree.pure _ _
  case h_5 => -- a runner asks for a job
    obtain ⟨-, h⟩ := Option.ite_none_left_eq_some.mp h
    cases h
    refine .inl (handle_served (ReadsSafe.bind fun _ => ReadsSafe.pure ?_))
    exact (requestJob_outage hu _ _).bind fun _ _ => StoreFree.pure _ _
  case h_6 => -- a runner reports on its job
    obtain ⟨-, h⟩ := Option.ite_none_left_eq_some.mp h
    cases h
    refine .inl (handle_served (ReadsSafe.bind fun _ => ReadsSafe.pure ?_))
    exact (updateTrace_outage hu _ _).bind fun _ _ => StoreFree.pure _ _
  case h_7 => -- artifacts
    split at h
    · cases h
      refine .inl (handle_served ?_)
      repeat refine ReadsSafe.bind fun _ => ?_
      refine ReadsSafe.pure ((uploadArtifact_outage hu _ _ _ _).bind fun x _ => ?_)
      cases x
      exact StoreFree.pure _ _
    · cases h
      refine .inl (handle_served ?_)
      repeat refine ReadsSafe.bind fun _ => ?_
      exact ReadsSafe.pure ((downloadArtifact_outage hu _ _).bind fun _ _ => StoreFree.pure _ _)
    · cases h
  case h_8 => -- job creation skips the jobs the store refuses
    obtain ⟨hpost, h⟩ := Option.ite_none_left_eq_some.mp h
    cases h
    cases hr : readJson req jobBatchShape decodeJobBatch with
    | error r => exact .inl (.inr (StoreBlind.pure o r))
    | ok reqs =>
      cases reqs with
      | nil =>
        -- an empty batch asks nothing of the store
        refine .inl (.inr (run_storeFree (StoreFree.of_const (r := .ok (respond 201 (jobsJson []))) fun s => ?_)))
        rw [exec_bind, exec_createJobs_nil]
        rfl
      | cons q qs =>
        obtain ⟨o', hx, hq⟩ := exec_createJobs hu (q :: qs)
        refine .inr ⟨not_not.mp hpost, rfl, answers_of_exec (e := .badRequest "no job could be created") ?_ hq⟩
        rw [exec_bind, hx]
        rfl
  case h_9 => -- pending counts
    obtain ⟨-, h⟩ := Option.ite_none_left_eq_some.mp h
    cases h
    exact .inl (run_served (.inl ((pendingCounts_fails hu).bind _)))
  case h_10 => -- one job
    obtain ⟨-, h⟩ := Option.ite_none_left_eq_some.mp h
    cases h
    exact .inl (handle_served_of_fails (getJob_fails hu))
  case h_11 => -- a job's trace
    obtain ⟨-, h⟩ := Option.ite_none_left_eq_some.mp h
    cases h
    refine .inl (handle_served ?_)
    repeat refine ReadsSafe.bind fun _ => ?_
    exact ReadsSafe.pure (.inl ((getJob_fails hu _).bind _))
  case h_12 => -- cancellation
    obtain ⟨-, h⟩ := Option.ite_none_left_eq_some.mp h
    cases h
    exact .inl (handle_served_of_fails (cancelJob_fails hu))
  case h_13 => -- a project's usage
    obtain ⟨-, h⟩ := Option.ite_none_left_eq_some.mp h
    cases h
    exact .inl (handle_served_of_fails (projectUsage_fails hu))
  case h_14 => -- the runners a query selects
    obtain ⟨-, h⟩ := Option.ite_none_left_eq_some.mp h
    cases h
    refine .inl (handle_served ?_)
    repeat refine ReadsSafe.bind fun _ => ?_
    exact ReadsSafe.pure (.inl ((listRunners_fails hu _).bind _))
  case h_15 => -- one runner
    split at h
    · cases h
      exact .inl (handle_served_of_fails (getRunner_fails hu))
    · -- the watermarks are invalidated only after the runner is saved
      cases h
      refine .inl (handle_served (ReadsSafe.bind fun id => ReadsSafe.bind fun u => ReadsSafe.pure ?_))
      exact .inl ((updateRunner_fails hu id u).bind _)
    · cases h
      exact .inl (handle_served_of_fails (deleteRunner_fails hu))
    · cases h
  case h_16 => -- a runner's jobs
    obtain ⟨-, h⟩ := Option.ite_none_left_eq_some.mp h
    cases h
    exact .inl (handle_served_of_fails (runningJobs_fails hu))
  case h_17 => -- known zones
    obtain ⟨-, h⟩ := Option.ite_none_left_eq_some.mp h
    cases h
    exact .inl (run_served (.inl ((knownZones_fails hu).bind _)))
  case h_18 => -- no such path
    cases h
    exact .inl (.inr (StoreBlind.pure o _))

-- A `HEAD` request is answered as its `GET` route, without a body.

theorem AnswersUntouched.emptyBody {a : StateM Orchestrator HttpResponse} {r : HttpResponse}
    (h : AnswersUntouched o a r) :
    AnswersUntouched o (a >>= fun x => Pure.pure { x with body := .empty }) { r with body := .empty } := by
  obtain ⟨hr, hq⟩ := h
  exact ⟨by rw [← hr]; rfl, hq⟩

theorem StoreBlind.emptyBody {a : StateM Orchestrator HttpResponse} (h : StoreBlind o a) :
    StoreBlind o (a >>= fun x => Pure.pure { x with body := .empty }) := by
  intro s
  have hs := h s
  show (fun p : HttpResponse × Orchestrator => ({ p.1 with body := .empty }, p.2)) (a.run { o with store := s }) = _
  rw [hs]
  rfl

-- What serving `req` from `o` comes to while the store is out: a store failure answered
-- `500`, without a body for `HEAD`; for a batch of jobs, none created; or an answer and effects
-- that are the same whatever the store.
def OutageAnswer (o : Orchestrator) (req : HttpRequest) (a : StateM Orchestrator HttpResponse) : Prop :=
  AnswersUntouched o a (respond 500 (errorBody "Internal server error")) ∨
  req.method = "HEAD" ∧ AnswersUntouched o a ⟨500, .empty⟩ ∨
  req.method = "POST" ∧ req.path.splitOn "/" = ["", "api", "jobs"] ∧
    AnswersUntouched o a (respond 400 (errorBody "no job could be created")) ∨
  StoreBlind o a

theorem OutageAnswer.blind (req : HttpRequest) (r : HttpResponse) : OutageAnswer o req (Pure.pure r) :=
  .inr (.inr (.inr (StoreBlind.pure o r)))

theorem serve_outage (hu : o.store.backend = .unreachable) (req : HttpRequest) :
    OutageAnswer o req (serve req) := by
  unfold serve
  split
  case h_1 _ segs hsplit =>
    split_ifs with hc hhead
    · exact OutageAnswer.blind req _
    · -- the GET route answers, and its body is dropped
      split
      case h_1 a ha =>
        rcases route_outage hu _ segs ha with (h | h) | ⟨hget, -, -⟩
        · exact .inr (.inl ⟨hhead, h.emptyBody⟩)
        · exact .inr (.inr (.inr h.emptyBody))
        · exact absurd hget (by simp)
      case h_2 => exact OutageAnswer.blind req _
    · split
      case h_1 a ha =>
        rcases route_outage hu req segs ha with (h | h) | ⟨hpost, rfl, h⟩
        · exact .inl h
        · exact .inr (.inr (.inr h))
        · exact .inr (.inr (.inl ⟨hpost, hsplit, h⟩))
      case h_2 => exact OutageAnswer.blind req _
  case h_2 => exact OutageAnswer.blind req _

-- A batch that reads to at least one job gets none created, and is refused.
theorem serve_batch_outage (hu : o.store.backend = .unreachable) {req : HttpRequest}
    (hpost : req.method = "POST") (hpath : req.path.splitOn "/" = ["", "api", "jobs"]) {q : JobRequest}
    {qs : List JobRequest} (hr : readJson req jobBatchShape decodeJobBatch = .ok (q :: qs)) :
    AnswersUntouched o (serve req) (respond 400 (errorBody "no job could be created")) := by
  obtain ⟨o', hx, hq⟩ := exec_createJobs hu (q :: qs)
  have hhead : req.method ≠ "HEAD" := by rw [hpost]; decide
  unfold serve
  rw [hpath]
  simp only [show (["api", "jobs"].contains "") = false by decide, Bool.false_eq_true, hhead, ↓reduceIte]
  simp only [route, hpost, ne_eq, not_true_eq_false, ↓reduceIte, hr]
  exact answers_of_exec (e := .badRequest "no job could be created") (by rw [exec_bind, hx]; rfl) hq

-- While the database cannot be reached, every request is answered `500 {"error": "Internal
-- server error"}` (no body for `HEAD`), or, for a batch of jobs, `400 {"error": "no job could be
-- created"}`, and then leaves every lease, watermark, blob, published event, metric and the
-- maintenance switch as it was; or else it never reaches the store, and is answered and acts the
-- same whatever the store holds. A sweep of the reaper finds no job and changes none of them.
theorem serve_during_outage (req : HttpRequest) (o : Orchestrator) (hu : o.store.backend = .unreachable) :
    (Undisturbed o ((serve req).run o).2 ∧
        (((serve req).run o).1 = respond 500 (errorBody "Internal server error") ∨
          req.method = "HEAD" ∧ ((serve req).run o).1 = ⟨500, .empty⟩ ∨
          req.method = "POST" ∧ req.path.splitOn "/" = ["", "api", "jobs"] ∧
            ((serve req).run o).1 = respond 400 (errorBody "no job could be created")) ∨
      ∀ s : Store, (serve req).run { o with store := s } =
        (((serve req).run o).1, { ((serve req).run o).2 with store := s })) ∧
    (exec sweep o).1 = .ok ((staleBefore o.wallClock (o.config.runningDeadlineMs / 1000)).map fun _ => []) ∧
      Undisturbed o (exec sweep o).2 := by
  refine ⟨?_, exec_sweep_outage hu⟩
  rcases serve_outage hu req with ⟨h, hq⟩ | ⟨hhead, h, hq⟩ | ⟨hpost, hsplit, h, hq⟩ | h
  · exact .inl ⟨hq, .inl h⟩
  · exact .inl ⟨hq, .inr (.inl ⟨hhead, h⟩)⟩
  · exact .inl ⟨hq, .inr (.inr ⟨hpost, hsplit, h⟩)⟩
  · exact .inr h

-- A fresh orchestrator whose database cannot be reached.
def outageStart : Orchestrator := { Orchestrator.create {} with store := { backend := .unreachable } }

def jobBatchRequest : HttpRequest :=
  { method := "POST", path := "/api/jobs", contentType := some "application/json",
    body := Bytes.ofString "[\x7b\"job_type\":\"LabPing\",\"project_id\":1,\"entity_id\":2\x7d]" }

theorem outage_sweep_finds_nothing :
    outageStart.store.backend = .unreachable ∧ (exec sweep outageStart).1 = .ok (some []) ∧
      Undisturbed outageStart (exec sweep outageStart).2 := by
  obtain ⟨-, hs, hq⟩ := serve_during_outage jobBatchRequest outageStart rfl
  have hstale : (staleBefore outageStart.wallClock (outageStart.config.runningDeadlineMs / 1000)).isSome := by
    decide +kernel
  obtain ⟨before, hb⟩ := Option.isSome_iff_exists.mp hstale
  refine ⟨rfl, ?_, hq⟩
  rw [hs, hb]
  rfl

theorem jobBatchRequest_path : jobBatchRequest.path.splitOn "/" = ["", "api", "jobs"] := by
  unfold String.splitOn
  simp only [show ("/" == "") = false by decide, Bool.false_eq_true, if_false]
  -- the legacy splitter is well-founded: unfold it one character at a time
  repeat (rw [String.splitOnAux]; simp +decide only [↓reduceIte])

-- A batch of jobs that the store refuses is answered as a bad request, not as a server error.
theorem outage_refuses_batch : ((serve jobBatchRequest).run outageStart).1.status = 400 := by
  obtain ⟨q, hr⟩ : ∃ q, readJson jobBatchRequest jobBatchShape decodeJobBatch = .ok [q] := by
    have hlen : (readJson jobBatchRequest jobBatchShape decodeJobBatch).toOption.map List.length = some 1 := by
      decide +kernel
    cases h : readJson jobBatchRequest jobBatchShape decodeJobBatch with
    | error e =>
      rw [h] at hlen
      cases hlen
    | ok l =>
      rw [h] at hlen
      obtain ⟨q, rfl⟩ := List.length_eq_one_iff.mp (Option.some.inj hlen)
      exact ⟨q, rfl⟩
  rw [(serve_batch_outage rfl rfl jobBatchRequest_path hr).1]
  rfl

end Outage

end Api

end JobDispatch
