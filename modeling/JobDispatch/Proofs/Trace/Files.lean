import JobDispatch.Proofs.Blob.Refinement
import JobDispatch.Proofs.Trace.Race
import JobDispatch.Proofs.Orchestrator.Alike

namespace JobDispatch

-- A file store whose tree mirrors a memory store on the keys of `K`.
def FilesMirror (K : Set String) (b b' : BlobStore) : Prop :=
  ∃ t m, b = .files t ∧ b' = .memory m ∧ Mirrors K t m

namespace FilesMirror

variable {K : Set String} {b b' : BlobStore} {k : String}

theorem get (hK : KeptApart K) (h : FilesMirror K b b') (hk : k ∈ K) : b.get k = b'.get k := by
  obtain ⟨t, m, rfl, rfl, hm⟩ := h
  exact hm.get hK hk

-- An upload of a key of `K` succeeds on the file store, as it does on the memory store, and
-- keeps the two in step.
theorem upload (hK : KeptApart K) (h : FilesMirror K b b') (hk : k ∈ K) (data : List UInt8) :
    (b.upload k data).2 = (b'.upload k data).2 ∧ FilesMirror K (b.upload k data).1 (b'.upload k data).1 := by
  obtain ⟨t, m, rfl, rfl, hm⟩ := h
  obtain ⟨hok, hup⟩ := Tree.upload_of_plain (hK.plain k hk) data (hm.noFileOn hK hk) (hm.not_dir hk)
    (hm.not_dir_part hK hk)
  exact ⟨hok, _, _, rfl, rfl, hm.upload hK hk hup⟩

end FilesMirror

namespace Orchestrator

-- What a read of a trace answers depends on what the blob store answers for its key alone.
theorem exec_readTrace_congr {o o' : Orchestrator} {key : String} (h : o.blobs.get key = o'.blobs.get key) :
    (exec (readTrace key) o).1 = (exec (readTrace key) o').1 := by
  unfold readTrace
  simp only [exec_bind, exec_get, h]
  split
  · rfl
  · rfl
  · split <;> rfl

section Mirrored

variable {K : Set String} (hK : KeptApart K)
include hK

theorem readTrace_mirrored {key : String} (hk : key ∈ K) : KeepsAlike (FilesMirror K) (readTrace key) := by
  intro o o' h
  rw [exec_readTrace_state, exec_readTrace_state]
  exact ⟨exec_readTrace_congr (h.blobs.get hK hk), h⟩

theorem upload_mirrored {key : String} (hk : key ∈ K) (data : List UInt8) :
    KeepsAlike (FilesMirror K) (upload key data) := by
  intro o o' h
  obtain ⟨hans, hblobs⟩ := h.blobs.upload hK hk data
  rw [exec_upload, exec_upload, hans]
  refine ⟨rfl, ?_, hblobs⟩
  rw [h.rest]

theorem appendTrace_mirrored {j : Job} (hk : traceKeyOf j ∈ K) (chunk : List TraceEntry) :
    KeepsAlike (FilesMirror K) (appendTrace j chunk) := by
  unfold appendTrace
  split
  · exact KeepsAlike.pure _
  · exact ((readTrace_mirrored hK hk).tryCatch fun _ => KeepsAlike.pure _).bind fun _ =>
      (upload_mirrored hK hk _).bind fun _ => KeepsAlike.pure _

theorem getTrace_mirrored {j : Job} (hk : traceKeyOf j ∈ K) (after : Option Int) :
    KeepsAlike (FilesMirror K) (getTrace j after) := by
  unfold getTrace
  exact (readTrace_mirrored hK hk).bind fun _ => KeepsAlike.pure _

-- A run of appends keeps a file store and its memory twin in step.
theorem appendEach_mirrored {j : Job} (hk : traceKeyOf j ∈ K) :
    ∀ (chunks : List (List TraceEntry)) {o o' : Orchestrator}, Alike (FilesMirror K) o o' →
      Alike (FilesMirror K) (appendEach j chunks o) (appendEach j chunks o')
  | [], _, _, h => h
  | c :: cs, o, o', h => appendEach_mirrored hk cs ((appendTrace_mirrored hK hk c o o' h).2)

-- A trace read the same from two stores in step is the trace an append sees in each.
theorem seenTrace_mirrored {o o' : Orchestrator} (h : Alike (FilesMirror K) o o') {key : String}
    (hk : key ∈ K) : seenTrace o key = seenTrace o' key := by
  unfold seenTrace
  rw [(readTrace_mirrored hK hk o o' h).1]

-- Appending chunks to a readable trace kept in files leaves a trace that reads as the merges
-- of the chunks, one after another, as it does in memory.
theorem appendEach_reads_in_files {o : Orchestrator} {t : Tree} {m : List (String × List UInt8)}
    (hb : o.blobs = .files t) (hm : Mirrors K t m) {j : Job} (hk : traceKeyOf j ∈ K) {T : List TraceEntry}
    (hT : (exec (readTrace (traceKeyOf j)) o).1 = .ok T) {chunks : List (List TraceEntry)}
    (hrt : RoundTripsAlong T chunks) :
    (exec (readTrace (traceKeyOf j)) (appendEach j chunks o)).1 = .ok (chunks.foldl TraceEntry.merge T) := by
  -- the memory store the tree mirrors runs the same appends
  have htwin : Alike (FilesMirror K) o { o with blobs := .memory m } := ⟨rfl, t, m, hb, rfl, hm⟩
  have hT' : (exec (readTrace (traceKeyOf j)) { o with blobs := .memory m }).1 = .ok T := by
    rw [← (readTrace_mirrored hK hk o _ htwin).1, hT]
  rw [(readTrace_mirrored hK hk _ _ (appendEach_mirrored hK hk chunks htwin)).1]
  exact appendEach_reads j chunks _ m T rfl hT' hrt

-- One step of racing appends, read or write, keeps a file store and its memory twin in step, and
-- each call holds the same trace in both.
theorem AppendFlight.step_mirrored {j : Job} (hk : traceKeyOf j ∈ K) (chunks : Nat → List TraceEntry)
    {f f' : AppendFlight} (h : Alike (FilesMirror K) f.o f'.o) (hheld : f.held = f'.held) (e : Event) :
    Alike (FilesMirror K) (f.step j chunks e).o (f'.step j chunks e).o ∧
      (f.step j chunks e).held = (f'.step j chunks e).held := by
  cases e with
  | read i =>
    by_cases hc : (chunks i).isEmpty
    · simp only [AppendFlight.step, hc, if_true]
      exact ⟨h, hheld⟩
    · simp only [AppendFlight.step, hc, Bool.false_eq_true, if_false]
      exact ⟨h, by rw [hheld, seenTrace_mirrored hK h hk]⟩
  | write i =>
    by_cases hc : (chunks i).isEmpty
    · simp only [AppendFlight.step, hc, if_true]
      exact ⟨h, hheld⟩
    · simp only [AppendFlight.step, hc, Bool.false_eq_true, if_false]
      exact ⟨by rw [hheld]; exact ((upload_mirrored hK hk _) _ _ h).2, hheld⟩

end Mirrored

section Files

variable {K : Set String} (hK : KeptApart K) {t : Tree} {m : List (String × List UInt8)}
include hK

-- Paging a trace kept in files, through a run of appends, as it pages in memory. The blob store
-- is a tree that mirrors a memory store on keys the tree keeps apart, the job's trace key among
-- them, and the trace `T` of `n` entries reads. Read with no cursor, the page is `T` and its
-- end cursor `n - 1`; from that cursor after the appends, it is the entries appended since,
-- unless `n = 1`, when it is the whole trace; and every cursor is served, a positive one
-- skipping that many entries plus one.
theorem trace_pages_in_files (o : Orchestrator) (hb : o.blobs = .files t) (hm : Mirrors K t m) (j : Job)
    (hk : traceKeyOf j ∈ K) (T : List TraceEntry) (hT : (exec (readTrace (traceKeyOf j)) o).1 = .ok T)
    (chunks : List (List TraceEntry)) (hrt : RoundTripsAlong T chunks) :
    (exec (getTrace j none) o).1 = .ok ⟨T, (T.length : Int) - 1, j.endedAt.isNone⟩ ∧
    (exec (getTrace j (some ((T.length : Int) - 1))) (appendEach j chunks o)).1 =
      .ok ⟨if T.length = 1 then chunks.foldl TraceEntry.merge T
          else (chunks.foldl TraceEntry.merge T).drop T.length,
        ((chunks.foldl TraceEntry.merge T).length : Int) - 1, j.endedAt.isNone⟩ ∧
    ∀ a : Int, (exec (getTrace j (some a)) (appendEach j chunks o)).1 =
      .ok ⟨if 0 < a then (chunks.foldl TraceEntry.merge T).drop (a.toNat + 1)
          else chunks.foldl TraceEntry.merge T,
        ((chunks.foldl TraceEntry.merge T).length : Int) - 1, j.endedAt.isNone⟩ := by
  have hread := appendEach_reads_in_files hK hb hm hk hT hrt
  refine ⟨by rw [exec_getTrace hT]; rfl, ?_, fun a => ?_⟩
  · rw [exec_getTrace hread, Option.elim_some, skip_from_cursor]
  · rw [exec_getTrace hread]
    rfl

-- A trace of two entries uploaded into an empty root, then a chunk that resends the second and
-- adds a third: from the cursor 1 only the third comes back, as in memory.
omit hK in
theorem trace_pages_in_files_resent :
    KeptApart {k | k ∈ [traceKeyOf default]} ∧
      Mirrors {k | k ∈ [traceKeyOf default]}
        (({} : Tree).upload (traceKeyOf default) (traceBytes [⟨.info, 1, "start", []⟩, ⟨.info, 2, "step", []⟩])).1
        [(traceKeyOf default, traceBytes [⟨.info, 1, "start", []⟩, ⟨.info, 2, "step", []⟩])] ∧
      (exec (getTrace default (some 1))
        (appendEach default [[⟨.info, 2, "step", []⟩, ⟨.info, 3, "end", []⟩]]
          { Orchestrator.create {} with
            blobs := .files (({} : Tree).upload (traceKeyOf default)
              (traceBytes [⟨.info, 1, "start", []⟩, ⟨.info, 2, "step", []⟩])).1 })).1 =
        .ok ⟨[⟨.info, 3, "end", []⟩], 2, true⟩ := by
  have hK : KeptApart {k | k ∈ [traceKeyOf default]} := keptApart_of_list (by decide)
  have hk : traceKeyOf default ∈ {k | k ∈ [traceKeyOf default]} := List.mem_singleton_self _
  -- the upload into the empty root mirrors the same upload into an empty memory store
  obtain ⟨-, t, m, ht, hm', hm⟩ := FilesMirror.upload hK ⟨{}, [], rfl, rfl, Mirrors.empty⟩ hk
    (traceBytes [⟨.info, 1, "start", []⟩, ⟨.info, 2, "step", []⟩])
  cases ht
  cases hm'
  set o : Orchestrator := { Orchestrator.create {} with
    blobs := .files (({} : Tree).upload (traceKeyOf default)
      (traceBytes [⟨.info, 1, "start", []⟩, ⟨.info, 2, "step", []⟩])).1 }
  have hT : (exec (readTrace (traceKeyOf default)) o).1 = .ok [⟨.info, 1, "start", []⟩, ⟨.info, 2, "step", []⟩] := by
    rw [readTrace_mirrored hK hk o { o with blobs := .memory _ } ⟨rfl, _, _, rfl, rfl, hm⟩ |>.1]
    exact exec_readTrace_of_stored (BlobStore.get_memory_putBlob _ _ []) startStep_roundTrips
  exact ⟨hK, hm, (trace_pages_in_files hK o rfl hm default hk _ hT _ resent_roundTrips).2.1⟩

-- Resending a chunk to a trace kept in files. From no stored trace, appending chunks that each
-- end with their latest stamp, with each trace written reading back, leaves the orchestrator
-- mirroring a memory state that a resend of any of the chunks mirrors too: the file at every
-- key the tree keeps apart holds what it held, and nothing outside the blob store moves.
theorem resend_in_files_changes_nothing (o : Orchestrator) (hb : o.blobs = .files t) (hm : Mirrors K t m)
    (j : Job) (hk : traceKeyOf j ∈ K) (habsent : m.lookup (traceKeyOf j) = none)
    (chunks : List (List TraceEntry)) (hends : ∀ c ∈ chunks, TraceEntry.EndsLatest c)
    (hrt : RoundTripsAlong [] chunks) :
    ∀ c ∈ chunks, ∃ o' : Orchestrator, Alike (FilesMirror K) (appendEach j chunks o) o' ∧
      Alike (FilesMirror K) (exec (appendTrace j c) (appendEach j chunks o)).2 o' := by
  intro c hc
  have htwin : Alike (FilesMirror K) o { o with blobs := .memory m } := ⟨rfl, t, m, hb, rfl, hm⟩
  have hafter := appendEach_mirrored hK hk chunks htwin
  -- in memory the resend writes back the bytes already stored
  have hstored := (stored_of_absent (o := { o with blobs := .memory m }) rfl habsent).appendEach chunks hrt
  have hsame := hstored.append_covered (TraceEntry.covers_foldl_of_mem (hends c hc) chunks [] hc)
  refine ⟨_, hafter, ?_⟩
  rw [← hsame]
  exact (appendTrace_mirrored hK hk c _ _ hafter).2

-- Appends racing on a trace kept in files run as they run in memory: in every schedule of their
-- reads and writes, the orchestrator mirrors the one the same schedule leaves in memory, each
-- call holds the trace it holds there, and the trace left reads the same.
theorem racing_appends_in_files {j : Job} (hk : traceKeyOf j ∈ K) (chunks : Nat → List TraceEntry)
    (o : Orchestrator) (hb : o.blobs = .files t) (hm : Mirrors K t m) (held : Nat → List TraceEntry) :
    ∀ evs : List Event,
      Alike (FilesMirror K) (AppendFlight.run j chunks ⟨o, held⟩ evs).o
        (AppendFlight.run j chunks ⟨{ o with blobs := .memory m }, held⟩ evs).o ∧
      seenTrace (AppendFlight.run j chunks ⟨o, held⟩ evs).o (traceKeyOf j) =
        seenTrace (AppendFlight.run j chunks ⟨{ o with blobs := .memory m }, held⟩ evs).o (traceKeyOf j) := by
  -- the induction runs over the schedule, from any two flights in step
  have hrun : ∀ (evs : List Event) (f f' : AppendFlight), Alike (FilesMirror K) f.o f'.o → f.held = f'.held →
      Alike (FilesMirror K) (f.run j chunks evs).o (f'.run j chunks evs).o := by
    intro evs
    induction evs with
    | nil => intro f f' h _; exact h
    | cons e evs ih =>
      intro f f' h hheld
      obtain ⟨h₁, hheld₁⟩ := AppendFlight.step_mirrored hK hk chunks h hheld e
      exact ih _ _ h₁ hheld₁
  intro evs
  have h := hrun evs ⟨o, held⟩ ⟨{ o with blobs := .memory m }, held⟩ ⟨rfl, t, m, hb, rfl, hm⟩ rfl
  exact ⟨h, seenTrace_mirrored hK h hk⟩

end Files

end Orchestrator

end JobDispatch
