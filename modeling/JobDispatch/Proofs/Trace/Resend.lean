import Mathlib
import JobDispatch.Proofs.Trace.Paging

namespace JobDispatch

namespace TraceEntry

-- The tail of a trace is stamped no earlier than any entry of a chunk.
def Covers (T c : List TraceEntry) : Prop := ∀ e ∈ c, ∃ l ∈ T.getLast?, e.timestamp ≤ l.timestamp

-- A chunk whose last entry carries its latest stamp, as a chunk in order of time does.
def EndsLatest (c : List TraceEntry) : Prop := Covers c c

theorem merge_of_getLast {T : List TraceEntry} {l : TraceEntry} (h : T.getLast? = some l)
    (c : List TraceEntry) : merge T c = T ++ c.filter fun e => decide (e.timestamp > l.timestamp) := by
  unfold merge
  rw [h]

@[simp] theorem nil_merge (c : List TraceEntry) : merge [] c = c := rfl

-- The chunk adds nothing exactly when the tail is stamped no earlier than each of its entries;
-- an empty trace takes any chunk whole.
theorem merge_eq_self_iff (T c : List TraceEntry) : merge T c = T ↔ Covers T c := by
  cases hT : T.getLast? with
  | none =>
    rw [List.getLast?_eq_none_iff.mp hT, nil_merge]
    simp [Covers, List.eq_nil_iff_forall_not_mem]
  | some l =>
    rw [merge_of_getLast hT, List.append_right_eq_self, List.filter_eq_nil_iff]
    simp [Covers, hT]

-- The stored tail's stamp never goes back: a merge ends with the old tail or with an entry
-- stamped after it.
theorem tail_merge_ge {T : List TraceEntry} {lt : TraceEntry} (h : T.getLast? = some lt)
    (c : List TraceEntry) : ∃ l ∈ (merge T c).getLast?, lt.timestamp ≤ l.timestamp := by
  rw [merge_of_getLast h, List.getLast?_append]
  cases hf : (c.filter fun e => decide (e.timestamp > lt.timestamp)).getLast? with
  | none => exact ⟨lt, by simp [h], le_refl _⟩
  | some lf =>
    have hmem := List.mem_filter.mp (List.mem_of_getLast? hf)
    exact ⟨lf, by simp, le_of_lt (by simpa using hmem.2)⟩

theorem Covers.merge {T c : List TraceEntry} (h : Covers T c) (c' : List TraceEntry) :
    Covers (TraceEntry.merge T c') c := by
  intro e he
  obtain ⟨lt, hlt, hle⟩ := h e he
  obtain ⟨l, hl, hge⟩ := tail_merge_ge (Option.mem_def.mp hlt) c'
  exact ⟨l, hl, le_trans hle hge⟩

theorem Covers.foldl {T c : List TraceEntry} (h : Covers T c) :
    ∀ cs : List (List TraceEntry), Covers (cs.foldl TraceEntry.merge T) c := by
  intro cs
  induction cs generalizing T with
  | nil => exact h
  | cons c' cs ih => exact ih (h.merge c')

-- A merge ends no earlier than the chunk's last entry: that entry is appended when it is stamped
-- after the old tail, and is no later than the old tail otherwise.
theorem chunk_tail_le_merge (T : List TraceEntry) {c : List TraceEntry} {lc : TraceEntry}
    (hc : c.getLast? = some lc) : ∃ l ∈ (merge T c).getLast?, lc.timestamp ≤ l.timestamp := by
  cases hT : T.getLast? with
  | none =>
    rw [List.getLast?_eq_none_iff.mp hT, nil_merge]
    exact ⟨lc, hc, le_refl _⟩
  | some lt =>
    by_cases hnew : lc.timestamp > lt.timestamp
    · obtain ⟨c₀, rfl⟩ := List.getLast?_eq_some_iff.mp hc
      refine ⟨lc, ?_, le_refl _⟩
      rw [merge_of_getLast hT, List.filter_append, List.filter_singleton]
      simp [hnew]
    · obtain ⟨l, hl, hge⟩ := tail_merge_ge hT c
      exact ⟨l, hl, by omega⟩

theorem EndsLatest.covers_merge {c : List TraceEntry} (h : EndsLatest c) (T : List TraceEntry) :
    Covers (merge T c) c := by
  intro e he
  obtain ⟨lc, hlc, hle⟩ := h e he
  obtain ⟨l, hl, hge⟩ := chunk_tail_le_merge T (Option.mem_def.mp hlc)
  exact ⟨l, hl, le_trans hle hge⟩

-- After a run of merges, the tail covers every chunk of the run that ends with its latest stamp.
theorem covers_foldl_of_mem {c : List TraceEntry} (hc : EndsLatest c) :
    ∀ (cs : List (List TraceEntry)) (T : List TraceEntry), c ∈ cs → Covers (cs.foldl merge T) c := by
  intro cs
  induction cs with
  | nil => intro T h; cases h
  | cons c' cs ih =>
    intro T h
    rcases List.mem_cons.mp h with rfl | hmem
    · exact (hc.covers_merge T).foldl cs
    · exact ih (merge T c') hmem

end TraceEntry

namespace BlobStore

-- Putting back the bytes a key already holds leaves the memory store as it is.
theorem putBlob_of_lookup {k : String} {v : List UInt8} :
    ∀ {bs : List (String × List UInt8)}, bs.lookup k = some v → putBlob k v bs = bs
  | [], h => by cases h
  | (k', v') :: rest, h => by
    unfold putBlob
    by_cases hk : k = k'
    · subst hk
      simp only [List.lookup_cons_self, Option.some.injEq] at h
      simp [h]
    · rw [if_neg hk, putBlob_of_lookup (by simpa [List.lookup, beq_false_of_ne hk] using h)]

end BlobStore

namespace Orchestrator

-- The trace an append reads under a key: the stored entries, or none when the trace is
-- missing or does not read.
def seenTrace (o : Orchestrator) (key : String) : List TraceEntry :=
  match (exec (readTrace key) o).1 with
  | .ok es => es
  | .error _ => []

-- The read of an append never fails: a trace that is missing or does not read counts as empty.
theorem exec_readOrEmpty (key : String) (o : Orchestrator) :
    exec (tryCatch (readTrace key) fun _ => pure []) o = (.ok (seenTrace o key), o) := by
  have hstate := exec_readTrace_state key o
  rw [exec_tryCatch]
  unfold seenTrace
  rcases hread : exec (readTrace key) o with ⟨_ | es, o'⟩
  all_goals
    rw [hread] at hstate
    subst hstate
    rfl

-- Appending a chunk to a job's trace in memory writes the merge onto the trace it read.
theorem exec_appendTrace_seen {o : Orchestrator} {bs : List (String × List UInt8)}
    (hb : o.blobs = .memory bs) (j : Job) {chunk : List TraceEntry} (hc : chunk ≠ []) :
    exec (appendTrace j chunk) o =
      (.ok ((TraceEntry.merge (seenTrace o (traceKeyOf j)) chunk).getLast?.map (·.timestamp)),
        { o with blobs := .memory (BlobStore.putBlob (traceKeyOf j)
          (traceBytes (TraceEntry.merge (seenTrace o (traceKeyOf j)) chunk)) bs) }) := by
  have hempty : chunk.isEmpty = false := List.isEmpty_eq_false_iff.mpr hc
  unfold appendTrace
  simp only [hempty, Bool.false_eq_true, if_false, exec_bind, exec_readOrEmpty, upload, exec_get,
    exec_modify, hb, BlobStore.upload]
  rfl

-- A job's trace stored in memory as `T`: no blob while `T` is empty, else the bytes of `T`,
-- which read back as `T`.
structure Stored (o : Orchestrator) (key : String) (T : List TraceEntry) : Prop where
  memory : ∃ bs, o.blobs = .memory bs ∧ bs.lookup key = if T.isEmpty then none else some (traceBytes T)
  reads : T ≠ [] → TraceRoundTrips T

theorem Stored.seen {o : Orchestrator} {key : String} {T : List TraceEntry} (h : Stored o key T) :
    seenTrace o key = T := by
  obtain ⟨bs, hb, hk⟩ := h.memory
  by_cases hT : T = []
  · -- nothing is stored, and a missing trace reads as empty
    subst hT
    have hget : o.blobs.get key = .error (.notFound key) := by
      simp only [List.isEmpty_nil, if_true] at hk
      simp [hb, BlobStore.get, hk]
    unfold seenTrace readTrace
    simp only [exec_bind, exec_get, hget]
    rfl
  · have hget : o.blobs.get key = .ok (traceBytes T) := by
      simp only [List.isEmpty_iff, hT, if_false] at hk
      simp [hb, BlobStore.get, hk]
    unfold seenTrace
    rw [exec_readTrace_of_stored hget (h.reads hT)]

-- One append keeps the trace stored as the merge of the chunk onto it, when that merge reads
-- back.
theorem Stored.append {o : Orchestrator} {j : Job} {T : List TraceEntry} (h : Stored o (traceKeyOf j) T)
    {c : List TraceEntry} (hrt : c ≠ [] → TraceRoundTrips (TraceEntry.merge T c)) :
    Stored (exec (appendTrace j c) o).2 (traceKeyOf j) (TraceEntry.merge T c) := by
  by_cases hc : c = []
  · subst hc
    rw [exec_appendTrace_nil, TraceEntry.merge_nil]
    exact h
  · obtain ⟨bs, hb, -⟩ := h.memory
    have hne : TraceEntry.merge T c ≠ [] := by
      intro hnil
      cases hT : T.getLast? with
      | none =>
        rw [List.getLast?_eq_none_iff.mp hT, TraceEntry.nil_merge] at hnil
        exact hc hnil
      | some l =>
        rw [TraceEntry.merge_of_getLast hT] at hnil
        simp_all
    rw [exec_appendTrace_seen hb j hc, h.seen]
    refine ⟨⟨_, rfl, ?_⟩, fun _ => hrt hc⟩
    simp only [List.isEmpty_iff, hne, if_false]
    exact BlobStore.lookup_putBlob _ _ bs

-- A run of appends keeps the trace stored as the merges of the chunks, one after another.
theorem Stored.appendEach {j : Job} :
    ∀ (chunks : List (List TraceEntry)) {o : Orchestrator} {T : List TraceEntry},
      Stored o (traceKeyOf j) T → RoundTripsAlong T chunks →
        Stored (appendEach j chunks o) (traceKeyOf j) (chunks.foldl TraceEntry.merge T)
  | [], _, _, h, _ => h
  | _ :: cs, _, _, h, hrt => Stored.appendEach cs (h.append hrt.1) hrt.2

-- A chunk whose entries the stored tail covers is written back as the bytes already stored.
theorem Stored.append_covered {o : Orchestrator} {j : Job} {T : List TraceEntry}
    (h : Stored o (traceKeyOf j) T) {c : List TraceEntry} (hcov : TraceEntry.Covers T c) :
    (exec (appendTrace j c) o).2 = o := by
  by_cases hc : c = []
  · subst hc
    rw [exec_appendTrace_nil]
  · obtain ⟨bs, hb, hk⟩ := h.memory
    obtain ⟨e, he⟩ := List.exists_mem_of_ne_nil c hc
    have hT : T ≠ [] := by
      rintro rfl
      obtain ⟨l, hl, -⟩ := hcov e he
      cases hl
    have hsame : TraceEntry.merge T c = T := (TraceEntry.merge_eq_self_iff T c).mpr hcov
    simp only [List.isEmpty_iff, hT, if_false] at hk
    rw [exec_appendTrace_seen hb j hc, h.seen, hsame, BlobStore.putBlob_of_lookup hk, ← hb]

-- No stored trace is the empty trace, stored.
theorem stored_of_absent {o : Orchestrator} {bs : List (String × List UInt8)} (hb : o.blobs = .memory bs)
    {key : String} (habsent : bs.lookup key = none) : Stored o key [] :=
  ⟨⟨bs, hb, by simpa using habsent⟩, fun h => absurd rfl h⟩

end Orchestrator

open TraceEntry Orchestrator in
-- Resending a chunk of a trace. A merge keeps the stored trace as a prefix. Merging a chunk a
-- second time changes nothing exactly when no entry of the chunk is stamped after the last entry
-- of the first merge, so for every chunk that ends with its latest stamp. Appending chunks that
-- each end with their latest stamp to a job's trace, from no stored trace in memory and with each
-- trace written reading back, leaves a state in which re-appending any of them changes nothing.
theorem resent_chunk_changes_nothing :
    (∀ p c : List TraceEntry, p <+: merge p c) ∧
    (∀ p c : List TraceEntry, merge (merge p c) c = merge p c ↔
      ∀ e ∈ c, ∃ l ∈ (merge p c).getLast?, e.timestamp ≤ l.timestamp) ∧
    (∀ p c : List TraceEntry, EndsLatest c → merge (merge p c) c = merge p c) ∧
    ∀ (o : Orchestrator) (bs : List (String × List UInt8)) (j : Job) (chunks : List (List TraceEntry)),
      o.blobs = .memory bs → bs.lookup (traceKeyOf j) = none → (∀ c ∈ chunks, EndsLatest c) →
      RoundTripsAlong [] chunks →
      ∀ c ∈ chunks, (exec (appendTrace j c) (appendEach j chunks o)).2 = appendEach j chunks o := by
  refine ⟨prefix_merge, fun p c => merge_eq_self_iff _ c, fun p c hc => ?_, ?_⟩
  · exact (merge_eq_self_iff _ c).mpr (hc.covers_merge p)
  · intro o bs j chunks hb habsent hends hrt c hc
    have hstored := (stored_of_absent hb habsent).appendEach chunks hrt
    exact hstored.append_covered (covers_foldl_of_mem (hends c hc) chunks [] hc)

-- A chunk in order of time, appended to a fresh orchestrator's memory store and appended
-- again, changes nothing the second time.
theorem resend_of_ordered_chunk_kept :
    (∀ c ∈ [[(⟨.info, 1, "start", []⟩ : TraceEntry), ⟨.info, 2, "step", []⟩]], TraceEntry.EndsLatest c) ∧
    Orchestrator.RoundTripsAlong [] [[⟨.info, 1, "start", []⟩, ⟨.info, 2, "step", []⟩]] ∧
    (Orchestrator.exec (Orchestrator.appendTrace default [⟨.info, 1, "start", []⟩, ⟨.info, 2, "step", []⟩])
        (Orchestrator.appendEach default [[⟨.info, 1, "start", []⟩, ⟨.info, 2, "step", []⟩]]
          (Orchestrator.create {}))).2 =
      Orchestrator.appendEach default [[⟨.info, 1, "start", []⟩, ⟨.info, 2, "step", []⟩]] (Orchestrator.create {}) := by
  have hends : ∀ c ∈ [[(⟨.info, 1, "start", []⟩ : TraceEntry), ⟨.info, 2, "step", []⟩]],
      TraceEntry.EndsLatest c := by
    intro c hc
    simp only [List.mem_singleton] at hc
    subst hc
    intro e he
    refine ⟨⟨.info, 2, "step", []⟩, rfl, ?_⟩
    simp only [List.mem_cons, List.not_mem_nil, or_false] at he
    rcases he with rfl | rfl <;> decide
  have hrt : Orchestrator.RoundTripsAlong [] [[⟨.info, 1, "start", []⟩, ⟨.info, 2, "step", []⟩]] :=
    ⟨fun _ => by cbv, trivial⟩
  exact ⟨hends, hrt, resent_chunk_changes_nothing.2.2.2 _ [] default _ rfl rfl hends hrt _ List.mem_cons_self⟩

-- A chunk that steps back in time, resent onto a trace it was the first chunk of, is appended
-- again in part.
theorem TraceEntry.resend_of_backward_chunk_grows :
    merge (merge [] [⟨.info, 3, "x", []⟩, ⟨.info, 2, "y", []⟩]) [⟨.info, 3, "x", []⟩, ⟨.info, 2, "y", []⟩] ≠
      merge [] [⟨.info, 3, "x", []⟩, ⟨.info, 2, "y", []⟩] := by
  intro h
  have hlen := congrArg List.length h
  simp [merge] at hlen

end JobDispatch
