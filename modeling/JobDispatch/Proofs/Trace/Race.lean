import Mathlib
import JobDispatch.Proofs.Trace.Resend
import JobDispatch.Proofs.Orchestrator.RunnerWrites

namespace JobDispatch

-- `zs` takes the steps of `xs` and of `ys`, each list in its own order.
inductive Interleaving {α : Type} : List α → List α → List α → Prop
  | nil : Interleaving [] [] []
  | left {x : α} {xs ys zs : List α} : Interleaving xs ys zs → Interleaving (x :: xs) ys (x :: zs)
  | right {y : α} {xs ys zs : List α} : Interleaving xs ys zs → Interleaving xs (y :: ys) (y :: zs)

namespace Interleaving

variable {α : Type}

theorem nil_left {ys zs : List α} (h : Interleaving [] ys zs) : zs = ys := by
  induction zs generalizing ys with
  | nil => cases h; rfl
  | cons z zs ih =>
    cases h with
    | right h' => rw [ih h']

theorem nil_right {xs zs : List α} (h : Interleaving xs [] zs) : zs = xs := by
  induction zs generalizing xs with
  | nil => cases h; rfl
  | cons z zs ih =>
    cases h with
    | left h' => rw [ih h']

-- Interleaving one step into a sequence of one step.
theorem one_one {x y : α} {zs : List α} (h : Interleaving [x] [y] zs) : zs = [x, y] ∨ zs = [y, x] := by
  cases h with
  | left h' => exact .inl (by rw [h'.nil_left])
  | right h' => exact .inr (by rw [h'.nil_right])

-- Interleaving one step into a sequence of two.
theorem one_two {x y₁ y₂ : α} {zs : List α} (h : Interleaving [x] [y₁, y₂] zs) :
    zs = [x, y₁, y₂] ∨ zs = [y₁, x, y₂] ∨ zs = [y₁, y₂, x] := by
  cases h with
  | left h' => exact .inl (by rw [h'.nil_left])
  | right h' =>
    rcases one_one h' with rfl | rfl
    · exact .inr (.inl rfl)
    · exact .inr (.inr rfl)

theorem two_one {x₁ x₂ y : α} {zs : List α} (h : Interleaving [x₁, x₂] [y] zs) :
    zs = [x₁, x₂, y] ∨ zs = [x₁, y, x₂] ∨ zs = [y, x₁, x₂] := by
  cases h with
  | left h' =>
    rcases one_one h' with rfl | rfl
    · exact .inl rfl
    · exact .inr (.inl rfl)
  | right h' => exact .inr (.inr (by rw [h'.nil_right]))

-- The six ways of interleaving two sequences of two steps.
theorem two_two {x₁ x₂ y₁ y₂ : α} {zs : List α} (h : Interleaving [x₁, x₂] [y₁, y₂] zs) :
    zs = [x₁, x₂, y₁, y₂] ∨ zs = [x₁, y₁, x₂, y₂] ∨ zs = [x₁, y₁, y₂, x₂] ∨
      zs = [y₁, x₁, x₂, y₂] ∨ zs = [y₁, x₁, y₂, x₂] ∨ zs = [y₁, y₂, x₁, x₂] := by
  cases h with
  | left h' =>
    rcases one_two h' with rfl | rfl | rfl
    · exact .inl rfl
    · exact .inr (.inl rfl)
    · exact .inr (.inr (.inl rfl))
  | right h' =>
    rcases two_one h' with rfl | rfl | rfl
    · exact .inr (.inr (.inr (.inl rfl)))
    · exact .inr (.inr (.inr (.inr (.inl rfl))))
    · exact .inr (.inr (.inr (.inr (.inr rfl))))

end Interleaving

namespace Orchestrator

-- Appends to one job's trace between their steps: the orchestrator, and the trace each call
-- has read.
structure AppendFlight where
  o : Orchestrator
  held : Nat → List TraceEntry

namespace AppendFlight

variable (j : Job) (chunks : Nat → List TraceEntry)

-- One step of the append of `chunks i`: its read of the stored trace, or its write of the
-- merge of its chunk onto what it read. An append of an empty chunk takes no step.
def step (f : AppendFlight) : Event → AppendFlight
  | .read i => if (chunks i).isEmpty then f else
      { f with held := Function.update f.held i (seenTrace f.o (traceKeyOf j)) }
  | .write i => if (chunks i).isEmpty then f else
      { f with o := (exec (upload (traceKeyOf j)
          (traceBytes (TraceEntry.merge (f.held i) (chunks i)))) f.o).2 }

def run (f : AppendFlight) (evs : List Event) : AppendFlight := evs.foldl (step j chunks) f

@[simp] theorem run_nil (f : AppendFlight) : run j chunks f [] = f := rfl

@[simp] theorem run_cons (f : AppendFlight) (e : Event) (evs : List Event) :
    run j chunks f (e :: evs) = run j chunks (step j chunks f e) evs := rfl

-- A write leaves the traces the calls hold.
@[simp] theorem held_step_write (f : AppendFlight) (i : Nat) :
    (step j chunks f (.write i)).held = f.held := by
  simp only [step]
  split <;> rfl

end AppendFlight

-- Run back to back, the read and the write of a call are the append of its chunk.
theorem run_read_write_eq_exec (j : Job) (chunks : Nat → List TraceEntry) (f : AppendFlight) (i : Nat) :
    (f.run j chunks [.read i, .write i]).o = (exec (appendTrace j (chunks i)) f.o).2 := by
  simp only [AppendFlight.run_cons, AppendFlight.run_nil, AppendFlight.step]
  by_cases hc : (chunks i).isEmpty
  · rw [if_pos hc, if_pos hc, List.isEmpty_iff.mp hc, exec_appendTrace_nil]
  · rw [if_neg hc, if_neg hc]
    unfold appendTrace
    simp only [hc, Bool.false_eq_true, if_false, exec_bind, exec_readOrEmpty, Function.update_self]
    rcases hr : exec (upload (traceKeyOf j) (traceBytes (TraceEntry.merge (seenTrace f.o (traceKeyOf j)) (chunks i))))
      f.o with ⟨_ | _, _⟩
    all_goals
      unfold traceBytes at hr
      simp only [hr, exec_pure]

-- The calls that write in a schedule, in the order they write.
def writers : List Event → List Nat
  | [] => []
  | .read _ :: evs => writers evs
  | .write i :: evs => i :: writers evs

-- The trace left by appending the calls' chunks one after another, in the given order.
def appendInOrder (chunks : Nat → List TraceEntry) (T : List TraceEntry) (order : List Nat) :
    List TraceEntry :=
  order.foldl (fun S i => TraceEntry.merge S (chunks i)) T

-- The trace left by writes of calls that all read `T`: each call with a chunk puts back `T`
-- merged with its own chunk, over whatever the writes before it left.
def overwriteInOrder (chunks : Nat → List TraceEntry) (T : List TraceEntry) (order : List Nat) :
    List TraceEntry :=
  order.foldl (fun S i => if (chunks i).isEmpty then S else TraceEntry.merge T (chunks i)) T

section Schedules

variable {j : Job} {chunks : Nat → List TraceEntry}

-- A write of a call that read `T` stores `T` merged with its chunk.
theorem Stored.write {f : AppendFlight} {S T : List TraceEntry} (h : Stored f.o (traceKeyOf j) S) {i : Nat}
    (hread : (chunks i).isEmpty = false → f.held i = T)
    (hrt : chunks i ≠ [] → TraceRoundTrips (TraceEntry.merge T (chunks i))) :
    Stored (f.step j chunks (.write i)).o (traceKeyOf j)
      (if (chunks i).isEmpty then S else TraceEntry.merge T (chunks i)) := by
  obtain ⟨bs, hb, -⟩ := h.memory
  by_cases hc : (chunks i).isEmpty
  · simp only [AppendFlight.step, hc, if_true]
    exact h
  · have hne : chunks i ≠ [] := by simpa using hc
    have hc' : (chunks i).isEmpty = false := by simpa using hc
    have hmerge : TraceEntry.merge T (chunks i) ≠ [] := by
      intro hnil
      have hpre := TraceEntry.prefix_merge T (chunks i)
      rw [hnil] at hpre
      rw [List.prefix_nil.mp hpre, TraceEntry.nil_merge] at hnil
      exact hne hnil
    simp only [AppendFlight.step, hc, Bool.false_eq_true, if_false, hread hc', upload, exec_bind, exec_get,
      exec_modify, hb, BlobStore.upload]
    refine ⟨⟨_, rfl, ?_⟩, fun _ => hrt hne⟩
    simp only [List.isEmpty_iff, hmerge, if_false]
    exact BlobStore.lookup_putBlob _ _ bs

-- The trace is stored as `T`, and each call in `cur` that has a chunk holds `T` as it read it.
def UpToDate (j : Job) (chunks : Nat → List TraceEntry) (f : AppendFlight) (cur : List Nat)
    (T : List TraceEntry) : Prop :=
  Stored f.o (traceKeyOf j) T ∧ ∀ i ∈ cur, (chunks i).isEmpty = false → f.held i = T

theorem UpToDate.read {f : AppendFlight} {cur : List Nat} {T : List TraceEntry} (h : UpToDate j chunks f cur T)
    (i : Nat) : UpToDate j chunks (f.step j chunks (.read i)) (i :: cur) T := by
  by_cases hc : (chunks i).isEmpty
  · refine ⟨by simpa [AppendFlight.step, hc] using h.1, fun k hk hk' => ?_⟩
    simp only [AppendFlight.step, hc, if_true]
    rcases List.mem_cons.mp hk with rfl | hmem
    · rw [hc] at hk'; cases hk'
    · exact h.2 k hmem hk'
  · refine ⟨by simpa [AppendFlight.step, hc] using h.1, fun k hk hk' => ?_⟩
    simp only [AppendFlight.step, hc, Bool.false_eq_true, if_false]
    by_cases hki : k = i
    · subst hki
      rw [Function.update_self, h.1.seen]
    · rw [Function.update_of_ne hki]
      exact h.2 k (List.mem_of_ne_of_mem hki hk) hk'

-- A call that read the stored trace writes it back with its chunk merged on, and every read
-- before is out of date.
theorem UpToDate.write {f : AppendFlight} {cur : List Nat} {T : List TraceEntry} (h : UpToDate j chunks f cur T)
    {i : Nat} (hi : i ∈ cur) (hrt : chunks i ≠ [] → TraceRoundTrips (TraceEntry.merge T (chunks i))) :
    UpToDate j chunks (f.step j chunks (.write i)) [] (TraceEntry.merge T (chunks i)) := by
  have hw := Stored.write h.1 (h.2 i hi) hrt
  refine ⟨?_, fun _ hk => absurd hk List.not_mem_nil⟩
  by_cases hc : (chunks i).isEmpty
  · rw [if_pos hc] at hw
    rwa [List.isEmpty_iff.mp hc, TraceEntry.merge_nil]
  · rwa [if_neg hc] at hw

-- An isolated schedule leaves the trace of the appends run one after another, in the order the
-- calls wrote.
theorem UpToDate.run_isolated : ∀ (evs : List Event) {f : AppendFlight} {cur : List Nat} {T : List TraceEntry},
    UpToDate j chunks f cur T → Isolated cur evs → RoundTripsAlong T ((writers evs).map chunks) →
      Stored (f.run j chunks evs).o (traceKeyOf j) (appendInOrder chunks T (writers evs))
  | [], _, _, _, h, _, _ => h.1
  | .read i :: evs, _, _, _, h, hiso, hrt => UpToDate.run_isolated evs (h.read i) hiso hrt
  | .write _ :: evs, _, _, _, h, hiso, hrt =>
    UpToDate.run_isolated evs (h.write hiso.1 hrt.1) hiso.2 hrt.2

-- Writes of calls that all read `T` each put back `T` with their own chunk merged on.
theorem run_writes {f : AppendFlight} {S T : List TraceEntry} (hS : Stored f.o (traceKeyOf j) S)
    {cur : List Nat} (hheld : ∀ i ∈ cur, (chunks i).isEmpty = false → f.held i = T)
    (hrt : ∀ i ∈ cur, chunks i ≠ [] → TraceRoundTrips (TraceEntry.merge T (chunks i))) :
    ∀ ws : List Nat, (∀ i ∈ ws, i ∈ cur) →
      Stored (f.run j chunks (ws.map Event.write)).o (traceKeyOf j)
        (ws.foldl (fun S i => if (chunks i).isEmpty then S else TraceEntry.merge T (chunks i)) S)
  | [], _ => hS
  | i :: ws, hws => by
    have hi := hws i List.mem_cons_self
    have hstep := Stored.write hS (hheld i hi) (hrt i hi)
    have hkeep : ∀ k ∈ cur, (chunks k).isEmpty = false → (f.step j chunks (.write i)).held k = T := by
      rw [AppendFlight.held_step_write]
      exact hheld
    exact run_writes hstep hkeep hrt ws fun k hk => hws k (List.mem_cons_of_mem i hk)

-- When every call reads before any writes, the writes overwrite one another: the trace left is
-- the stored one merged with the chunk of the last call to write that has a chunk.
theorem run_reads_then_writes {f : AppendFlight} {T : List TraceEntry} (hT : Stored f.o (traceKeyOf j) T)
    (rs ws : List Nat) (hws : ∀ i ∈ ws, i ∈ rs)
    (hrt : ∀ i ∈ rs, chunks i ≠ [] → TraceRoundTrips (TraceEntry.merge T (chunks i))) :
    Stored (f.run j chunks (rs.map Event.read ++ ws.map Event.write)).o (traceKeyOf j)
      (overwriteInOrder chunks T ws) := by
  -- the reads leave the store alone and each reading call holds `T`
  have hreads : ∀ (rs' : List Nat) (f' : AppendFlight) (cur : List Nat), UpToDate j chunks f' cur T →
      UpToDate j chunks (f'.run j chunks (rs'.map Event.read)) (rs'.reverse ++ cur) T := by
    intro rs'
    induction rs' with
    | nil => intro f' cur h; exact h
    | cons i rs' ih =>
      intro f' cur h
      have := ih _ _ (h.read i)
      simpa [List.reverse_cons] using this
  have hcur := hreads rs f [] ⟨hT, fun _ h => absurd h List.not_mem_nil⟩
  rw [AppendFlight.run, List.foldl_append, ← AppendFlight.run]
  exact run_writes hcur.1 hcur.2 (fun i hi => hrt i (by simpa using hi)) ws
    fun i hi => by simpa using hws i hi

end Schedules

-- The trace left when two calls both read `T` and the call with chunk `c'` writes last: its
-- chunk merged onto `T`, or the other's when its own chunk is empty.
def lastWriterWins (T c c' : List TraceEntry) : List TraceEntry :=
  if c'.isEmpty then TraceEntry.merge T c else TraceEntry.merge T c'

theorem overwriteInOrder_pair (chunks : Nat → List TraceEntry) (T : List TraceEntry) (a b : Nat) :
    overwriteInOrder chunks T [a, b] = lastWriterWins T (chunks a) (chunks b) := by
  unfold overwriteInOrder lastWriterWins
  by_cases ha : chunks a = [] <;> by_cases hb : chunks b = [] <;> simp [ha, hb]

-- Two appends to a job's trace that run at the same time, stored in memory as `p`, with each
-- trace they may write reading back. In every interleaving of their reads and writes, the trace
-- left is that of the two appends run one after the other when one call reads only after the
-- other has written, and otherwise, both calls having read `p`, it is `p` with only the chunk of
-- the call that writes last merged onto it: the other call's chunk is lost.
theorem concurrent_appends_keep_last_write {o : Orchestrator} {j : Job} {p : List TraceEntry}
    (hp : Stored o (traceKeyOf j) p) (chunks : Nat → List TraceEntry) (a b : Nat)
    (hrt : RoundTripsAlong p [chunks a, chunks b] ∧ RoundTripsAlong p [chunks b, chunks a])
    (held : Nat → List TraceEntry) {evs : List Event}
    (hevs : Interleaving [.read a, .write a] [.read b, .write b] evs) :
    let final := (AppendFlight.run j chunks ⟨o, held⟩ evs).o
    (evs = [.read a, .write a, .read b, .write b] ∧
      Stored final (traceKeyOf j) (TraceEntry.merge (TraceEntry.merge p (chunks a)) (chunks b))) ∨
    (evs = [.read b, .write b, .read a, .write a] ∧
      Stored final (traceKeyOf j) (TraceEntry.merge (TraceEntry.merge p (chunks b)) (chunks a))) ∨
    ((evs = [.read a, .read b, .write a, .write b] ∨ evs = [.read b, .read a, .write a, .write b]) ∧
      Stored final (traceKeyOf j) (lastWriterWins p (chunks a) (chunks b))) ∨
    ((evs = [.read a, .read b, .write b, .write a] ∨ evs = [.read b, .read a, .write b, .write a]) ∧
      Stored final (traceKeyOf j) (lastWriterWins p (chunks b) (chunks a))) := by
  intro final
  obtain ⟨⟨hpa, hpab, -⟩, ⟨hpb, hpba, -⟩⟩ := hrt
  have h₀ : UpToDate j chunks ⟨o, held⟩ [] p := ⟨hp, fun _ h => absurd h List.not_mem_nil⟩
  have hboth : ∀ i ∈ [a, b], chunks i ≠ [] → TraceRoundTrips (TraceEntry.merge p (chunks i)) := by
    intro i hi
    rcases List.mem_pair.mp hi with rfl | rfl
    · exact hpa
    · exact hpb
  -- both calls read `p` before either writes, in either order of reads
  have hover : ∀ rs ws, rs = [a, b] ∨ rs = [b, a] → ws = [a, b] ∨ ws = [b, a] →
      Stored (AppendFlight.run j chunks ⟨o, held⟩ (rs.map Event.read ++ ws.map Event.write)).o (traceKeyOf j)
        (overwriteInOrder chunks p ws) := by
    rintro rs ws hrs hws
    refine run_reads_then_writes hp rs ws ?_ ?_
    · rcases hrs with rfl | rfl <;> rcases hws with rfl | rfl <;> simp
    · rcases hrs with rfl | rfl
      · exact hboth
      · exact fun i hi => hboth i (by simpa [or_comm] using hi)
  rcases hevs.two_two with rfl | rfl | rfl | rfl | rfl | rfl
  · exact .inl ⟨rfl, h₀.run_isolated _ (by simp [Isolated]) ⟨hpa, hpab, trivial⟩⟩
  · refine .inr (.inr (.inl ⟨.inl rfl, ?_⟩))
    rw [← overwriteInOrder_pair]
    exact hover [a, b] [a, b] (.inl rfl) (.inl rfl)
  · refine .inr (.inr (.inr ⟨.inl rfl, ?_⟩))
    rw [← overwriteInOrder_pair]
    exact hover [a, b] [b, a] (.inl rfl) (.inr rfl)
  · refine .inr (.inr (.inl ⟨.inr rfl, ?_⟩))
    rw [← overwriteInOrder_pair]
    exact hover [b, a] [a, b] (.inr rfl) (.inl rfl)
  · refine .inr (.inr (.inr ⟨.inr rfl, ?_⟩))
    rw [← overwriteInOrder_pair]
    exact hover [b, a] [b, a] (.inr rfl) (.inr rfl)
  · exact .inr (.inl ⟨rfl, h₀.run_isolated _ (by simp [Isolated]) ⟨hpb, hpba, trivial⟩⟩)

-- Two appends racing on a trace of one line: call 0 reports a line stamped 3, call 1 a line
-- stamped 2.
def crossedChunks : Nat → List TraceEntry
  | 0 => [⟨.info, 3, "x", []⟩]
  | _ => [⟨.info, 2, "y", []⟩]

-- A fresh orchestrator whose memory store holds the trace of the default job, one line.
def crossedStart : Orchestrator :=
  { Orchestrator.create {} with blobs := .memory [(traceKeyOf default, traceBytes [⟨.info, 1, "a", []⟩])] }

theorem crossedStart_stored : Stored crossedStart (traceKeyOf default) [⟨.info, 1, "a", []⟩] :=
  ⟨⟨_, rfl, rfl⟩, fun _ => by cbv⟩

-- Both calls read the one-line trace, then call 0 writes and call 1 writes over it.
theorem crossed_appends_keep_second_write :
    Stored crossedStart (traceKeyOf default) [⟨.info, 1, "a", []⟩] ∧
    (RoundTripsAlong [⟨.info, 1, "a", []⟩] [crossedChunks 0, crossedChunks 1] ∧
      RoundTripsAlong [⟨.info, 1, "a", []⟩] [crossedChunks 1, crossedChunks 0]) ∧
    Interleaving [Event.read 0, .write 0] [.read 1, .write 1] [.read 0, .read 1, .write 0, .write 1] ∧
    Stored (AppendFlight.run default crossedChunks ⟨crossedStart, fun _ => []⟩
        [.read 0, .read 1, .write 0, .write 1]).o (traceKeyOf default)
      [⟨.info, 1, "a", []⟩, ⟨.info, 2, "y", []⟩] := by
  have hrt : RoundTripsAlong [⟨.info, 1, "a", []⟩] [crossedChunks 0, crossedChunks 1] ∧
      RoundTripsAlong [⟨.info, 1, "a", []⟩] [crossedChunks 1, crossedChunks 0] :=
    ⟨⟨fun _ => by cbv, fun _ => by cbv, trivial⟩, ⟨fun _ => by cbv, fun _ => by cbv, trivial⟩⟩
  have hevs : Interleaving [Event.read 0, .write 0] [.read 1, .write 1] [.read 0, .read 1, .write 0, .write 1] :=
    .left (.right (.left (.right .nil)))
  refine ⟨crossedStart_stored, hrt, hevs, ?_⟩
  rcases concurrent_appends_keep_last_write crossedStart_stored crossedChunks 0 1 hrt (fun _ => []) hevs with
    ⟨h, -⟩ | ⟨h, -⟩ | ⟨-, hlast⟩ | ⟨h, -⟩
  · simp at h
  · simp at h
  · exact hlast
  · simp at h

-- Two appends whose reads both come before either write, on a trace of one line: the trace
-- left is neither that of call 0 then call 1 nor that of call 1 then call 0.
theorem overlapping_appends_lose_a_chunk :
    seenTrace (AppendFlight.run default crossedChunks ⟨crossedStart, fun _ => []⟩
        [.read 0, .read 1, .write 0, .write 1]).o (traceKeyOf default) ≠
      TraceEntry.merge (TraceEntry.merge [⟨.info, 1, "a", []⟩] (crossedChunks 0)) (crossedChunks 1) ∧
    seenTrace (AppendFlight.run default crossedChunks ⟨crossedStart, fun _ => []⟩
        [.read 0, .read 1, .write 0, .write 1]).o (traceKeyOf default) ≠
      TraceEntry.merge (TraceEntry.merge [⟨.info, 1, "a", []⟩] (crossedChunks 1)) (crossedChunks 0) := by
  have hrt : ∀ i ∈ [0, 1], crossedChunks i ≠ [] →
      TraceRoundTrips (TraceEntry.merge [⟨.info, 1, "a", []⟩] (crossedChunks i)) := by
    intro i hi _
    rcases List.mem_pair.mp hi with rfl | rfl
    · cbv
    · cbv
  have hstored : Stored (AppendFlight.run default crossedChunks ⟨crossedStart, fun _ => []⟩
      ([0, 1].map Event.read ++ [0, 1].map Event.write)).o (traceKeyOf default)
      (overwriteInOrder crossedChunks [⟨.info, 1, "a", []⟩] [0, 1]) :=
    run_reads_then_writes crossedStart_stored [0, 1] [0, 1] (by simp) hrt
  rw [show [0, 1].map Event.read ++ [0, 1].map Event.write = [.read 0, .read 1, .write 0, .write 1] from rfl]
    at hstored
  rw [hstored.seen]
  -- the trace left ends with the line stamped 2, where the sequential ones end with the line
  -- stamped 3
  constructor
  · intro h
    have hstamps := congrArg (List.map (·.timestamp)) h
    simp [overwriteInOrder, crossedChunks, TraceEntry.merge] at hstamps
  · intro h
    have hstamps := congrArg (List.map (·.timestamp)) h
    simp [overwriteInOrder, crossedChunks, TraceEntry.merge] at hstamps

end Orchestrator

end JobDispatch
