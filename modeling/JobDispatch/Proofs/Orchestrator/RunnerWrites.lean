import Mathlib
import JobDispatch.Proofs.Orchestrator.Poll

namespace JobDispatch

namespace Orchestrator

-- The copy a poll writes back: its report merged in and its contact time set.
def pollCopy (r : Runner) (info : Option RunnerReport) (t : Timestamp) : Runner :=
  { info.elim r r.applyReport with contactedAt := t }

-- The copy an administrative update writes back.
def adminCopy (r : Runner) (u : RunnerUpdate) : Runner :=
  { r with active := u.active.getD r.active, kind := u.kind.getD r.kind, zone := u.zone.getD r.zone }

section Copies

variable (r : Runner)

-- A report names neither the runner nor its settings.
@[simp] theorem pollCopy_id (info : Option RunnerReport) (t : Timestamp) : (pollCopy r info t).id = r.id := by
  cases info <;> rfl

@[simp] theorem pollCopy_active (info : Option RunnerReport) (t : Timestamp) :
    (pollCopy r info t).active = r.active := by
  cases info <;> rfl

@[simp] theorem pollCopy_kind (info : Option RunnerReport) (t : Timestamp) : (pollCopy r info t).kind = r.kind := by
  cases info <;> rfl

@[simp] theorem pollCopy_zone (info : Option RunnerReport) (t : Timestamp) : (pollCopy r info t).zone = r.zone := by
  cases info <;> rfl

@[simp] theorem adminCopy_id (u : RunnerUpdate) : (adminCopy r u).id = r.id := rfl

@[simp] theorem adminCopy_active (u : RunnerUpdate) : (adminCopy r u).active = u.active.getD r.active := rfl

@[simp] theorem adminCopy_kind (u : RunnerUpdate) : (adminCopy r u).kind = u.kind.getD r.kind := rfl

@[simp] theorem adminCopy_zone (u : RunnerUpdate) : (adminCopy r u).zone = u.zone.getD r.zone := rfl

end Copies

section Store

variable {s : JobStore}

theorem findRunner_id {id : Uuid} {r : Runner} (h : s.findRunner id = some r) : r.id = id := by
  simpa using List.find?_some h

-- Saving a runner the store holds replaces it: reading it back gives the copy saved.
theorem findRunner_saveRunner_self {r : Runner} (h : (s.findRunner r.id).isSome) :
    (s.saveRunner r).findRunner r.id = some r := by
  unfold JobStore.findRunner at h
  unfold JobStore.saveRunner JobStore.findRunner
  dsimp only
  revert h
  induction s.runners with
  | nil => simp
  | cons q rest ih =>
    intro h
    by_cases hq : q.id = r.id
    · simp [hq]
    · rw [List.find?_cons_of_neg (by simpa using hq)] at h
      rw [List.map_cons, if_neg hq, List.find?_cons_of_neg (by simpa using hq)]
      exact ih h

end Store

section Calls

variable {o : Orchestrator}

-- An update reads the runner and writes back its copy; an unknown runner is refused and
-- nothing is written.
theorem exec_updateRunner (h : o.store.Reliable) (id : Uuid) (u : RunnerUpdate) :
    (exec (updateRunner id u) o).2 = match o.store.data.findRunner id with
      | some r => { o with store := { o.store with data := o.store.data.saveRunner (adminCopy r u) } }
      | none => o := by
  unfold updateRunner getRunner
  rw [exec_bind, exec_bind, exec_read_of_reliable h]
  cases o.store.data.findRunner id with
  | none => rfl
  | some r => simp [exec_map, exec_call, Store.run_of_reliable h, adminCopy]

-- A poll with a token that names a runner reads it and, when it is active, writes back its
-- copy with the contact time read from the clock; an inactive runner is answered as it is.
theorem exec_authenticate (h : o.store.Reliable) {token : String} (ht : token ≠ "")
    (info : Option RunnerReport) :
    (exec (authenticate token info) o).2 = match o.store.data.findRunnerByToken token with
      | some r => if r.active then
          { o with wallClock := o.wallClock.addNanos 1,
                   store := { o.store with data := o.store.data.saveRunner (pollCopy r info o.wallClock) } }
        else o
      | none => o := by
  cases hR : o.store.data.findRunnerByToken token with
  | none =>
    unfold authenticate
    simp [ht, exec_bind, exec_read_of_reliable h, hR]
  | some r =>
    cases ha : r.active with
    | true =>
      obtain ⟨R', -, -, -, -, hx⟩ := exec_authenticate_active h ht hR ha info
      have hR' : R' = pollCopy r info o.wallClock := by
        unfold authenticate at hx
        simp only [ht, if_false, exec_bind, exec_read_of_reliable h, hR, ha, Bool.not_true,
          Bool.false_eq_true, now, exec_modifyGet, exec_call, Store.run_of_reliable h] at hx
        cases info <;> simpa [pollCopy] using (congrArg Prod.fst hx).symm
      rw [hx, hR']
      simp [ha]
    | false =>
      unfold authenticate
      simp [ht, exec_bind, exec_read_of_reliable h, hR, ha]

end Calls

-- A call on one runner: a poll with its report and the contact time it reads, or an
-- administrative update.
inductive RunnerCall
  | poll (info : Option RunnerReport) (t : Timestamp)
  | admin (u : RunnerUpdate)

-- What a call writes back, given the runner it read: a poll writes only an active runner.
def RunnerCall.copy : RunnerCall → Runner → Option Runner
  | .poll info t, r => if r.active then some (pollCopy r info t) else none
  | .admin u, r => some (adminCopy r u)

-- The record a call leaves when it writes over the runner it read.
def RunnerCall.after (c : RunnerCall) (r : Runner) : Runner := (c.copy r).getD r

-- The value a call sets for a field: an update's own, none for a poll.
def RunnerCall.sets {β : Type} (field : RunnerUpdate → Option β) : RunnerCall → Option β
  | .poll .. => none
  | .admin u => field u

@[simp] theorem RunnerCall.after_id (c : RunnerCall) (r : Runner) : (c.after r).id = r.id := by
  cases c with
  | poll info t => by_cases ha : r.active <;> simp [after, copy, ha]
  | admin u => rfl

-- A setting of a runner that updates may set and that polls write back as they read it: the
-- active flag, the kind and the zone.
structure Setting (β : Type) where
  get : Runner → β
  field : RunnerUpdate → Option β
  get_after : ∀ (c : RunnerCall) (r : Runner), get (c.after r) = (c.sets field).getD (get r)

namespace Setting

-- A poll writes back the setting it read, or writes nothing.
theorem get_after_poll {β : Type} {get : Runner → β} (hget : ∀ r info t, get (pollCopy r info t) = get r)
    (info : Option RunnerReport) (t : Timestamp) (r : Runner) : get ((RunnerCall.poll info t).after r) = get r := by
  by_cases ha : r.active <;> simp [RunnerCall.after, RunnerCall.copy, ha, hget]

def active : Setting Bool where
  get := (·.active)
  field := (·.active)
  get_after
    | .poll info t, r => get_after_poll (fun _ _ _ => pollCopy_active ..) info t r
    | .admin _, _ => rfl

def kind : Setting JobKind where
  get := (·.kind)
  field := (·.kind)
  get_after
    | .poll info t, r => get_after_poll (fun _ _ _ => pollCopy_kind ..) info t r
    | .admin _, _ => rfl

def zone : Setting String where
  get := (·.zone)
  field := (·.zone)
  get_after
    | .poll info t, r => get_after_poll (fun _ _ _ => pollCopy_zone ..) info t r
    | .admin _, _ => rfl

end Setting

-- A store step of call `i`: its read of the runner, or its write of the copy it made.
inductive Event
  | read (i : Nat)
  | write (i : Nat)
  deriving DecidableEq

-- Calls on one runner between their steps: the store, and the runner each call has read.
structure Flight where
  store : JobStore
  held : Nat → Option Runner

namespace Flight

variable (calls : Nat → RunnerCall) (id : Uuid)

-- One store step of a call on the runner stored under `id`.
def step (f : Flight) : Event → Flight
  | .read i => { f with held := Function.update f.held i (f.store.findRunner id) }
  | .write i => match (f.held i).bind (calls i).copy with
    | some r => { f with store := f.store.saveRunner r }
    | none => f

def run (f : Flight) (evs : List Event) : Flight := evs.foldl (step calls id) f

@[simp] theorem run_nil (f : Flight) : run calls id f [] = f := rfl

@[simp] theorem run_cons (f : Flight) (e : Event) (evs : List Event) :
    run calls id f (e :: evs) = run calls id (step calls id f e) evs := rfl

-- A write leaves the copies the calls hold.
@[simp] theorem held_step_write (f : Flight) (i : Nat) : (step calls id f (.write i)).held = f.held := by
  simp only [step]
  split <;> rfl

theorem step_write_of_copy {f : Flight} {i : Nat} {r c : Runner} (hr : f.held i = some r)
    (hc : (calls i).copy r = some c) : step calls id f (.write i) = { f with store := f.store.saveRunner c } := by
  simp only [step, hr, Option.bind_some, hc]

end Flight

section BackToBack

variable {o : Orchestrator} {calls : Nat → RunnerCall} {i : Nat}

-- Run back to back, the read and the write of an update are the update.
theorem run_admin_eq_exec (h : o.store.Reliable) (f : Flight) (hs : f.store = o.store.data) (id : Uuid)
    {u : RunnerUpdate} (hi : calls i = .admin u) :
    (f.run calls id [.read i, .write i]).store = (exec (updateRunner id u) o).2.store.data := by
  rw [exec_updateRunner h]
  simp only [Flight.run_cons, Flight.run_nil, Flight.step, Function.update_self, hi, hs]
  cases o.store.data.findRunner id <;> rfl

-- Run back to back, the read and the write of a poll are the authentication of a token that
-- names the runner, with the contact time the clock gives.
theorem run_poll_eq_exec (h : o.store.Reliable) (f : Flight) (hs : f.store = o.store.data) (id : Uuid)
    {token : String} (ht : token ≠ "") (htok : o.store.data.findRunnerByToken token = o.store.data.findRunner id)
    {info : Option RunnerReport} (hi : calls i = .poll info o.wallClock) :
    (f.run calls id [.read i, .write i]).store = (exec (authenticate token info) o).2.store.data := by
  rw [exec_authenticate h ht, htok]
  simp only [Flight.run_cons, Flight.run_nil, Flight.step, Function.update_self, hi, hs]
  cases o.store.data.findRunner id with
  | none => rfl
  | some r => cases hr : r.active <;> simp [RunnerCall.copy, hr]

end BackToBack

-- No write falls between a call's read and its write. Scanning the schedule, `cur` holds the
-- calls that read after the last write; a write must be by one of them, and it leaves every
-- earlier read out of date.
def Isolated : List Nat → List Event → Prop
  | _, [] => True
  | cur, .read i :: evs => Isolated (i :: cur) evs
  | cur, .write i :: evs => i ∈ cur ∧ Isolated [] evs

-- The record left by the writes of a schedule, each over the record the one before left.
def replay (calls : Nat → RunnerCall) : Runner → List Event → Runner
  | r, [] => r
  | r, .read _ :: evs => replay calls r evs
  | r, .write i :: evs => replay calls ((calls i).after r) evs

-- The value of a setting after the writes of a schedule: that of the last update that sets
-- it, or `b` when none does.
def lastSet {β : Type} (field : RunnerUpdate → Option β) (calls : Nat → RunnerCall) : β → List Event → β
  | b, [] => b
  | b, .read _ :: evs => lastSet field calls b evs
  | b, .write i :: evs => lastSet field calls (((calls i).sets field).getD b) evs

theorem Setting.get_replay {β : Type} (σ : Setting β) (calls : Nat → RunnerCall) :
    ∀ (r : Runner) (evs : List Event), σ.get (replay calls r evs) = lastSet σ.field calls (σ.get r) evs
  | _, [] => rfl
  | r, .read _ :: evs => σ.get_replay calls r evs
  | r, .write i :: evs => by
    rw [replay, lastSet, σ.get_replay calls _ evs, σ.get_after]

section Schedules

variable {calls : Nat → RunnerCall} {id : Uuid}

-- The store holds `r` under `id`, and each call in `cur` holds it as it read it.
def Current (id : Uuid) (f : Flight) (cur : List Nat) (r : Runner) : Prop :=
  f.store.findRunner id = some r ∧ ∀ i ∈ cur, f.held i = some r

theorem Current.read {f : Flight} {cur : List Nat} {r : Runner} (h : Current id f cur r) (i : Nat) :
    Current id (f.step calls id (.read i)) (i :: cur) r := by
  refine ⟨h.1, fun j hj => ?_⟩
  simp only [Flight.step]
  by_cases hji : j = i
  · subst hji
    rw [Function.update_self, h.1]
  · rw [Function.update_of_ne hji]
    exact h.2 j (List.mem_of_ne_of_mem hji hj)

-- A call that writes over the record the store holds leaves that record as the call made it.
theorem Current.write {f : Flight} {cur : List Nat} {r : Runner} (h : Current id f cur r) {i : Nat}
    (hi : i ∈ cur) : Current id (f.step calls id (.write i)) [] ((calls i).after r) := by
  refine ⟨?_, fun _ hj => absurd hj List.not_mem_nil⟩
  have hid : r.id = id := findRunner_id h.1
  simp only [Flight.step, h.2 i hi, Option.bind_some, RunnerCall.after]
  cases hc : (calls i).copy r with
  | none => exact h.1
  | some r' =>
    have hid' : r'.id = id := by
      rw [← RunnerCall.after_id (calls i) r, RunnerCall.after, hc, Option.getD_some] at hid
      exact hid
    dsimp only
    rw [← hid']
    exact findRunner_saveRunner_self (by rw [hid', h.1]; rfl)

-- An isolated schedule leaves the record each write, in order, makes of the one before.
theorem Current.run_isolated : ∀ (evs : List Event) {f : Flight} {cur : List Nat} {r : Runner},
    Current id f cur r → Isolated cur evs →
      (f.run calls id evs).store.findRunner id = some (replay calls r evs)
  | [], _, _, _, h, _ => h.1
  | .read i :: evs, _, _, _, h, hiso => Current.run_isolated evs (h.read i) hiso
  | .write _ :: evs, _, _, _, h, hiso => Current.run_isolated evs (h.write hiso.1) hiso.2

-- A poll that read an active runner before another call wrote it, and writes after it, leaves
-- its own copy of the runner as it read it, whatever the other call wrote.
theorem run_poll_over {f : Flight} {r : Runner} (hr : f.store.findRunner id = some r)
    (ha : r.active = true) {i : Nat} (j : Nat) {info : Option RunnerReport} {t : Timestamp}
    (hp : calls i = .poll info t) :
    (f.run calls id [.read i, .read j, .write j, .write i]).store.findRunner id = some (pollCopy r info t) := by
  have hid : r.id = id := findRunner_id hr
  -- both calls read `r`; the other call's write keeps the runner in the store
  have h₀ : Current id f [] r := ⟨hr, fun _ h => absurd h List.not_mem_nil⟩
  have h₂ : Current id ((f.step calls id (.read i)).step calls id (.read j)) [j, i] r :=
    Current.read (Current.read h₀ i) j
  have h₃ : Current id (((f.step calls id (.read i)).step calls id (.read j)).step calls id (.write j)) []
      ((calls j).after r) := h₂.write List.mem_cons_self
  have hheld : (((f.step calls id (.read i)).step calls id (.read j)).step calls id (.write j)).held i = some r := by
    rw [Flight.held_step_write calls id]
    exact h₂.2 i (List.mem_cons_of_mem _ List.mem_cons_self)
  have hcopy : (calls i).copy r = some (pollCopy r info t) := by
    simp [hp, RunnerCall.copy, ha]
  simp only [Flight.run_cons, Flight.run_nil]
  rw [Flight.step_write_of_copy calls id hheld hcopy, ← hid, ← pollCopy_id r info t]
  exact findRunner_saveRunner_self (by rw [pollCopy_id, hid, h₃.1]; rfl)

end Schedules

-- Administrative settings of a runner under concurrent polls and updates. When no write falls
-- between a call's read and its own write, the runner's active flag, kind and zone after the
-- calls are those of the last update that set each, or those it had when none did. A poll that
-- read the runner active before another call's write, and writes after it, leaves the active
-- flag, kind and zone it read, whatever the other call wrote.
theorem runner_settings_follow_last_update (calls : Nat → RunnerCall) (f : Flight) {r : Runner}
    (hr : f.store.findRunner r.id = some r) :
    (∀ evs, Isolated [] evs → ∃ r', (f.run calls r.id evs).store.findRunner r.id = some r' ∧
      r'.active = lastSet (·.active) calls r.active evs ∧ r'.kind = lastSet (·.kind) calls r.kind evs ∧
      r'.zone = lastSet (·.zone) calls r.zone evs) ∧
    (∀ i j info t, r.active = true → calls i = .poll info t →
      ∃ r', (f.run calls r.id [.read i, .read j, .write j, .write i]).store.findRunner r.id = some r' ∧
        r'.active = true ∧ r'.kind = r.kind ∧ r'.zone = r.zone) := by
  have h₀ : Current r.id f [] r := ⟨hr, fun _ h => absurd h List.not_mem_nil⟩
  refine ⟨fun evs hiso => ⟨replay calls r evs, h₀.run_isolated evs hiso, ?_, ?_, ?_⟩,
    fun i j info t ha hp => ⟨pollCopy r info t, run_poll_over hr ha j hp, by simp [ha], by simp, by simp⟩⟩
  · exact Setting.active.get_replay calls r evs
  · exact Setting.kind.get_replay calls r evs
  · exact Setting.zone.get_replay calls r evs

-- A runner that polls for one kind of job in one zone.
def soloRunner : Runner := ⟨⟨1⟩, "runner", "t1", .labPing, "eu", true, epoch, epoch, none, none, none, none⟩

-- A poll (call 0) and an update (call 1) that deactivates the runner and moves it to another
-- zone.
def pollAndDeactivate : Nat → RunnerCall
  | 0 => .poll none epoch
  | _ => .admin { active := some false, zone := some "ap" }

-- The deactivation finishes last of the updates, yet the poll that overlapped it leaves the
-- runner active in its old zone.
theorem deactivation_lost_to_overlapping_poll :
    ({ runners := [soloRunner] } : JobStore).findRunner soloRunner.id = some soloRunner ∧
    lastSet (·.active) pollAndDeactivate soloRunner.active [.read 0, .read 1, .write 1, .write 0] = false ∧
    ∃ r', ((⟨{ runners := [soloRunner] }, fun _ => none⟩ : Flight).run pollAndDeactivate soloRunner.id
        [.read 0, .read 1, .write 1, .write 0]).store.findRunner soloRunner.id = some r' ∧
      r'.active = true ∧ r'.kind = soloRunner.kind ∧ r'.zone = soloRunner.zone :=
  ⟨rfl, rfl, (runner_settings_follow_last_update pollAndDeactivate ⟨{ runners := [soloRunner] }, fun _ => none⟩
    rfl).2 0 1 none epoch rfl rfl⟩

end Orchestrator

end JobDispatch
