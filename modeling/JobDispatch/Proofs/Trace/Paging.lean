import Mathlib
import JobDispatch.Proofs.Orchestrator.Exec

namespace JobDispatch

namespace TraceEntry

-- Merging never drops a stored entry.
theorem prefix_merge (previous chunk : List TraceEntry) : previous <+: merge previous chunk := by
  unfold merge
  cases h : previous.getLast? with
  | none =>
    rw [List.getLast?_eq_none_iff.mp h]
    exact List.nil_prefix
  | some last => exact List.prefix_append _ _

@[simp] theorem merge_nil (previous : List TraceEntry) : merge previous [] = previous := by
  unfold merge
  cases h : previous.getLast? with
  | none => exact (List.getLast?_eq_none_iff.mp h).symm
  | some last => simp

end TraceEntry

namespace BlobStore

@[simp] theorem lookup_putBlob (k : String) (v : List UInt8) (bs : List (String × List UInt8)) :
    (putBlob k v bs).lookup k = some v := by
  induction bs with
  | nil => simp [putBlob]
  | cons b rest ih =>
    obtain ⟨k', v'⟩ := b
    unfold putBlob
    by_cases h : k = k'
    · simp [h]
    · rw [if_neg h, List.lookup_cons, beq_false_of_ne h]
      exact ih

-- What was last put under a key in memory is what reading the key gets.
theorem get_memory_putBlob (k : String) (v : List UInt8) (bs : List (String × List UInt8)) :
    (BlobStore.memory (putBlob k v bs)).get k = .ok v := by
  simp [get]

end BlobStore

namespace Orchestrator

-- The bytes a trace is written as: its entries in one compact JSON array.
def traceBytes (es : List TraceEntry) : List UInt8 :=
  Bytes.ofString (Json.compact (.arr (es.map TraceEntry.toJson)))

-- A trace that reads back as the entries it was written from.
def TraceRoundTrips (es : List TraceEntry) : Prop := traceOfBytes (traceBytes es) = some es

-- Every trace that appending the chunks in turn writes reads back as written; an empty chunk
-- writes nothing.
def RoundTripsAlong : List TraceEntry → List (List TraceEntry) → Prop
  | _, [] => True
  | T, c :: cs =>
    (c ≠ [] → TraceRoundTrips (TraceEntry.merge T c)) ∧ RoundTripsAlong (TraceEntry.merge T c) cs

-- The orchestrator after appending the chunks to a job's trace, one after another.
def appendEach (j : Job) : List (List TraceEntry) → Orchestrator → Orchestrator
  | [], o => o
  | c :: cs, o => appendEach j cs (exec (appendTrace j c) o).2

-- Reading a trace changes nothing.
@[simp] theorem exec_readTrace_state (key : String) (o : Orchestrator) :
    (exec (readTrace key) o).2 = o := by
  unfold readTrace
  simp only [exec_bind, exec_get]
  split
  · rfl
  · rfl
  · split <;> rfl

theorem exec_readTrace_of_ok {key : String} {o : Orchestrator} {es : List TraceEntry}
    (h : (exec (readTrace key) o).1 = .ok es) : exec (readTrace key) o = (.ok es, o) :=
  Prod.ext h (exec_readTrace_state key o)

-- A stored blob that reads as entries is a readable trace.
theorem exec_readTrace_of_stored {key : String} {o : Orchestrator} {bytes : List UInt8}
    {es : List TraceEntry} (hget : o.blobs.get key = .ok bytes) (hes : traceOfBytes bytes = some es) :
    (exec (readTrace key) o).1 = .ok es := by
  unfold readTrace
  simp only [exec_bind, exec_get, hget, hes]
  rfl

theorem exec_appendTrace_nil (j : Job) (o : Orchestrator) : exec (appendTrace j []) o = (.ok none, o) :=
  rfl

-- Appending a chunk to a readable trace in memory writes the merge under the trace's key.
theorem exec_appendTrace {o : Orchestrator} {bs : List (String × List UInt8)}
    (hb : o.blobs = .memory bs) {j : Job} {T : List TraceEntry}
    (hT : (exec (readTrace (traceKeyOf j)) o).1 = .ok T) {chunk : List TraceEntry} (hc : chunk ≠ []) :
    exec (appendTrace j chunk) o =
      (.ok ((TraceEntry.merge T chunk).getLast?.map (·.timestamp)),
        { o with blobs := .memory (BlobStore.putBlob (traceKeyOf j)
          (traceBytes (TraceEntry.merge T chunk)) bs) }) := by
  have hempty : chunk.isEmpty = false := List.isEmpty_eq_false_iff.mpr hc
  unfold appendTrace
  simp only [hempty, Bool.false_eq_true, if_false, exec_bind, exec_tryCatch,
    exec_readTrace_of_ok hT, upload, exec_get, exec_modify, hb, BlobStore.upload]
  rfl

-- Appending the chunks in turn to a readable trace in memory leaves a memory store whose trace
-- reads as the merges of the chunks, one after another.
theorem appendEach_reads (j : Job) (chunks : List (List TraceEntry)) :
    ∀ (o : Orchestrator) (bs : List (String × List UInt8)) (T : List TraceEntry),
      o.blobs = .memory bs → (exec (readTrace (traceKeyOf j)) o).1 = .ok T →
      RoundTripsAlong T chunks →
      (exec (readTrace (traceKeyOf j)) (appendEach j chunks o)).1 = .ok (chunks.foldl TraceEntry.merge T) := by
  induction chunks with
  | nil => intro o bs T _ hT _; exact hT
  | cons c cs ih =>
    intro o bs T hb hT hrt
    obtain ⟨hwritten, hrest⟩ := hrt
    by_cases hc : c = []
    · -- an empty chunk writes nothing
      subst hc
      simp only [TraceEntry.merge_nil] at hrest
      simpa only [appendEach, exec_appendTrace_nil, List.foldl_cons, TraceEntry.merge_nil] using
        ih o bs T hb hT hrest
    · have hstep := exec_appendTrace hb hT hc
      have hread : (exec (readTrace (traceKeyOf j)) (exec (appendTrace j c) o).2).1 =
          .ok (TraceEntry.merge T c) := by
        rw [hstep]
        exact exec_readTrace_of_stored (BlobStore.get_memory_putBlob _ _ bs) (hwritten hc)
      exact ih _ _ _ (by rw [hstep]) hread hrest

-- A page of a readable trace: a positive `after` skips the entries up to and including that
-- index, any other skips none; the end cursor is the index of the last entry.
theorem exec_getTrace {o : Orchestrator} {j : Job} {T : List TraceEntry}
    (h : (exec (readTrace (traceKeyOf j)) o).1 = .ok T) (after : Option Int) :
    exec (getTrace j after) o =
      (.ok ⟨after.elim T (fun a => if 0 < a then T.drop (a.toNat + 1) else T), (T.length : Int) - 1,
        j.endedAt.isNone⟩, o) := by
  unfold getTrace
  rw [exec_bind, exec_readTrace_of_ok h]
  cases after <;> rfl

-- The cursor of a trace of `n` entries is `n - 1`. Passed back, it skips those `n` entries,
-- unless `n = 1`: that cursor is 0, which is no cursor, and nothing is skipped.
theorem skip_from_cursor {α : Type} (n : Nat) (l : List α) :
    (if 0 < (n : Int) - 1 then l.drop (((n : Int) - 1).toNat + 1) else l) =
      if n = 1 then l else l.drop n := by
  by_cases hn : 2 ≤ n
  · have hpos : (0 : Int) < (n : Int) - 1 := by omega
    have hskip : ((n : Int) - 1).toNat + 1 = n := by omega
    rw [if_pos hpos, hskip, if_neg (by omega)]
  · have hnpos : ¬(0 : Int) < (n : Int) - 1 := by omega
    rw [if_neg hnpos]
    -- a trace of no entry has nothing to skip
    rcases Nat.lt_or_ge n 1 with h | h
    · rw [if_neg (by omega), show n = 0 by omega, List.drop_zero]
    · rw [if_pos (by omega)]

-- A trace of two entries reads back as written, and so does the trace a chunk that resends the
-- second and adds a third grows it to.
theorem startStep_roundTrips : TraceRoundTrips [⟨.info, 1, "start", []⟩, ⟨.info, 2, "step", []⟩] := by
  cbv

theorem resent_roundTrips :
    RoundTripsAlong [⟨.info, 1, "start", []⟩, ⟨.info, 2, "step", []⟩]
      [[⟨.info, 2, "step", []⟩, ⟨.info, 3, "end", []⟩]] :=
  ⟨fun _ => by cbv, trivial⟩

end Orchestrator

end JobDispatch
