import JobDispatch.Proofs.Blob.Refinement
import JobDispatch.Proofs.Trace.Ownership
import JobDispatch.Proofs.Orchestrator.Claims

namespace JobDispatch

namespace Tree

-- Two paths are near when one runs through the other.
def Near (p q : List String) : Prop := q <+: p ∨ p <+: q

-- `t'` differs from `t` only on paths that satisfy `R`.
def Confined (R : List String → Prop) (t t' : Tree) : Prop := ∀ q, ¬ R q → t'.node? q = t.node? q

theorem findIn_of_walkIn {p : List String} {es : List (String × Entry)} (h : walkIn p es = .ok ()) :
    ∃ sub, findIn p es = some (.dir sub) := by
  induction p generalizing es with
  | nil => exact ⟨es, rfl⟩
  | cons n p ih =>
    unfold walkIn at h
    split at h
    · cases h
    · cases hl : es.lookup n with
      | none => simp [hl] at h
      | some e =>
        cases e with
        | file d => simp [hl] at h
        | dir sub =>
          simp only [hl] at h
          obtain ⟨s, hs⟩ := ih h
          exact ⟨s, by rw [findIn_cons_dir hl, hs]⟩

-- An edit of the entry `name` in the directory `p` leaves every path that neither leads to `p`
-- nor runs through `p ++ [name]`.
theorem findIn_alterIn_off {g : List (String × Entry) → List (String × Entry)} {name : String}
    (hg : ∀ m, m ≠ name → ∀ es, (g es).lookup m = es.lookup m) {p q : List String}
    (hq : ¬ (p ++ [name]) <+: q) (hqp : ¬ q <+: p) (es : List (String × Entry)) :
    findIn q (alterIn g p es) = findIn q es := by
  induction p generalizing q es with
  | nil =>
    cases q with
    | nil => exact absurd List.nil_prefix hqp
    | cons m r =>
      have hm : m ≠ name := by
        rintro rfl
        exact hq (by simp)
      exact findIn_cons_congr (hg m hm es) r
  | cons n p ih =>
    cases q with
    | nil => exact absurd List.nil_prefix hqp
    | cons m r =>
      by_cases hmn : m = n
      · subst hmn
        simp only [List.cons_append, List.cons_prefix_cons, true_and] at hq hqp
        cases hl : es.lookup m with
        | none => simp [alterIn, hl]
        | some e =>
          cases e with
          | file d => simp [alterIn, hl]
          | dir sub =>
            -- the path runs into the edited directory's parent, strictly below the name looked up
            cases r with
            | nil => exact absurd List.nil_prefix hqp
            | cons m' r' =>
              rw [findIn_cons_dir (lookup_alterIn_dir hl p), ih hq hqp, findIn_cons_dir hl]
      · apply findIn_cons_congr
        unfold alterIn
        split <;> simp [lookup_setEntry, hmn]

namespace Confined

variable {R S : List String → Prop} {t t' t'' : Tree}

theorem refl (t : Tree) : Confined R t t := fun _ _ => rfl

theorem trans (h₁ : Confined R t t') (h₂ : Confined R t' t'') : Confined R t t'' :=
  fun q hq => (h₂ q hq).trans (h₁ q hq)

theorem mono (h : Confined R t t') (hRS : ∀ q, R q → S q) : Confined S t t' :=
  fun q hq => h q fun hr => hq (hRS q hr)

end Confined

-- Setting or removing one entry changes only the paths on the way to it and below it.
theorem confined_put (t : Tree) (dirs : List String) (name : String) (e : Entry) :
    Confined (Near (dirs ++ [name])) t (t.put dirs name e) := fun q hq =>
  findIn_alterIn_off (fun m hm es => by rw [lookup_setEntry, if_neg hm]) (not_or.mp hq).2
    (fun h => (not_or.mp hq).1 (h.trans (List.prefix_append _ _))) t.entries

theorem confined_remove (t : Tree) (dirs : List String) (name : String) :
    Confined (Near (dirs ++ [name])) t (t.remove dirs name) := fun q hq =>
  findIn_alterIn_off (fun m hm es => by rw [lookup_filter_ne, if_neg hm]) (not_or.mp hq).2
    (fun h => (not_or.mp hq).1 (h.trans (List.prefix_append _ _))) t.entries

variable {t t' : Tree}

-- What a successful `mkdir` did: its parent was a directory and the name was free.
theorem mkdir_ok {p : List String} {bytes : Nat} (h : t.mkdir p bytes = .ok t') :
    ∃ name, p.getLast? = some name ∧ t.walkDirs p.dropLast = .ok () ∧ t.node? p = none ∧
      t' = t.put p.dropLast name (.dir []) := by
  unfold mkdir at h
  dsimp only at h
  split at h
  · cases h
  split at h
  · cases h
  cases hw : t.walkDirs p.dropLast with
  | error e => rw [hw] at h; cases h
  | ok u =>
    rw [hw] at h
    simp only [bind, Except.bind, throw, throwThe, MonadExceptOf.throw] at h
    cases hg : p.getLast? with
    | none => rw [hg] at h; cases h
    | some name =>
      rw [hg] at h
      dsimp only at h
      split at h
      · cases h
      cases hn : t.node? p with
      | some e => rw [hn] at h; cases h
      | none =>
        rw [hn] at h
        cases h
        exact ⟨name, rfl, rfl, rfl, rfl⟩

theorem node?_of_walkDirs {p : List String} (h : t.walkDirs p = .ok ()) : ∃ sub, t.node? p = some (.dir sub) :=
  findIn_of_walkIn h

-- A new directory is empty and stands where nothing stood, so only the paths on the way to it
-- read differently.
theorem confined_mkdir {p : List String} {bytes : Nat} (h : t.mkdir p bytes = .ok t') :
    Confined (· <+: p) t t' := by
  obtain ⟨name, hname, hwalk, habsent, rfl⟩ := mkdir_ok h
  obtain ⟨sub, hsub⟩ := node?_of_walkDirs hwalk
  have hp : p ≠ [] := fun h => by simp [h] at hname
  have hlast : p.getLast hp = name := by
    rw [List.getLast?_eq_some_getLast hp] at hname
    exact Option.some.inj hname
  subst hlast
  exact (dirsMade_put hp hsub habsent).rest

-- Making a path's directories, parents first, changes only the paths on the way to it.
theorem confined_createDirAll : ∀ (ps : List (String × Nat)) (t : Tree),
    Confined (· <+: ps.map (·.1)) t (t.createDirAll ps).1
  | [], t => by
    rw [createDirAll]
    exact Confined.refl t
  | x :: xs, t => by
    have hdrop : ∀ q, q <+: ((x :: xs).dropLast).map (·.1) → q <+: (x :: xs).map (·.1) :=
      fun q hq => hq.trans (by rw [List.map_dropLast]; exact List.dropLast_prefix _)
    have ih := (confined_createDirAll (x :: xs).dropLast t).mono hdrop
    rw [createDirAll]
    split
    · exact confined_mkdir ‹_›
    · split
      · rename_i t' e hrec
        rw [hrec] at ih
        exact ih
      · rename_i t' hrec
        rw [hrec] at ih
        split
        · exact ih.trans (confined_mkdir ‹_›)
        · split
          · exact ih
          · exact ih
    · split
      · exact Confined.refl t
      · exact Confined.refl t
termination_by ps => ps.length
decreasing_by simp

theorem writeFile_ok {p : RawPath} {data : List UInt8} (h : t.writeFile p data = .ok t') :
    t' = t.put p.dirs p.last (.file data) := by
  unfold writeFile at h
  dsimp only at h
  split at h
  · cases h
  split at h
  · cases h
  cases hw : t.walkDirs p.dirs with
  | error e => rw [hw] at h; cases h
  | ok u =>
    rw [hw] at h
    simp only [bind, Except.bind, throw, throwThe, MonadExceptOf.throw] at h
    split at h
    · cases h
    split at h
    · cases h
    · cases h
      rfl

theorem renameFile_ok {src dst : RawPath} (h : t.renameFile src dst = .ok t') :
    ∃ data, t' = (t.remove src.dirs src.last).put dst.dirs dst.last (.file data) := by
  unfold renameFile at h
  dsimp only at h
  split at h
  · cases h
  split at h
  · cases h
  cases hw : t.walkDirs dst.dirs with
  | error e => rw [hw] at h; cases h
  | ok u =>
    rw [hw] at h
    simp only [bind, Except.bind, throw, throwThe, MonadExceptOf.throw] at h
    split at h
    · cases h
    split at h
    · rename_i data _
      split at h
      · cases h
      split at h
      · cases h
      split at h
      · cases h
      · cases h
        exact ⟨data, rfl⟩
    · cases h

-- Writing a file changes only the paths on the way to it and below it.
theorem confined_writeFile {p : RawPath} {data : List UInt8} (h : t.writeFile p data = .ok t') :
    Confined (Near p.names) t t' := by
  rw [writeFile_ok h]
  exact confined_put t p.dirs p.last _

-- Renaming changes only the paths on the way to either name and below it.
theorem confined_renameFile {src dst : RawPath} (h : t.renameFile src dst = .ok t') :
    Confined (fun q => Near src.names q ∨ Near dst.names q) t t' := by
  obtain ⟨data, rfl⟩ := renameFile_ok h
  exact ((confined_remove t src.dirs src.last).mono fun _ => .inl).trans
    ((confined_put _ dst.dirs dst.last _).mono fun _ => .inr)

-- Where an upload under `key` may change the tree: the directories it makes, and the paths on
-- the way to or below its `.part` file and its blob.
def UploadScope (key : String) (q : List String) : Prop :=
  q <+: (parentNames key).map (·.1) ∨ Near (RawPath.ofText (key ++ ".part")).names q ∨
    Near (RawPath.ofText key).names q

-- An upload, whether it succeeds or stops at a failing step, changes only its own paths.
theorem confined_upload (t : Tree) (key : String) (data : List UInt8) :
    Confined (UploadScope key) t (t.upload key data).1 := by
  unfold upload
  split
  · exact Confined.refl t
  have hdirs : Confined (UploadScope key) t (t.createDirAll (parentNames key)).1 :=
    (confined_createDirAll (parentNames key) t).mono fun _ h => Or.inl h
  split
  · rename_i t₁ e hmade
    rw [hmade] at hdirs
    exact hdirs
  · rename_i t₁ hmade
    rw [hmade] at hdirs
    dsimp only
    split
    · exact hdirs
    · rename_i t₂ hwrite
      have hpart : Confined (UploadScope key) t₁ t₂ :=
        (confined_writeFile hwrite).mono fun _ h => Or.inr (Or.inl h)
      split
      · exact hdirs.trans hpart
      · rename_i t₃ hrename
        exact (hdirs.trans hpart).trans ((confined_renameFile hrename).mono fun _ h => Or.inr h)

end Tree

-- An integer is written with digits and a leading minus sign only.
theorem mem_toString_int {p : Int} {c : Char} (h : c ∈ (toString p).toList) : c.isDigit ∨ c = '-' := by
  have hdigits : ∀ n : Nat, c ∈ Nat.toDigits 10 n → c.isDigit := fun n hn =>
    Nat.isDigit_of_mem_toDigits (by decide) (by decide) hn
  cases p with
  | ofNat n => exact .inl (hdigits n (by simpa [toString, Int.repr] using h))
  | negSucc n =>
    simp only [toString, Int.repr, String.toList_append, List.mem_append] at h
    rcases h with h | h
    · exact .inr (by simpa using h)
    · exact .inl (hdigits (n + 1) (by simpa using h))

theorem slash_not_mem_toString_int (p : Int) : '/' ∉ (toString p).toList := fun h => by
  rcases mem_toString_int h with h | h <;> revert h <;> decide

theorem toString_int_ne_empty (p : Int) : toString p ≠ "" := by
  cases p with
  | ofNat n =>
    simp only [toString, Int.repr, ne_eq, ← String.toList_inj, Nat.toList_repr, String.toList_empty]
    exact Nat.toDigits_ne_nil
  | negSucc n => simp [toString, Int.repr]

theorem toString_int_ne_dot (p : Int) (s : String) (hs : s.toList = ['.'] ∨ s.toList = ['.', '.']) :
    toString p ≠ s := by
  intro h
  have hdot : '.' ∈ (toString p).toList := by rw [h]; rcases hs with hs | hs <;> simp [hs]
  rcases mem_toString_int hdot with h | h <;> revert h <;> decide

-- The parts of an artifact key: the artifacts directory, the project, then the key's own parts.
theorem splitPath_artifactKey (p : Int) (k : String) :
    splitPath (artifactKey p k) = "artifacts" :: toString p :: splitPath k := by
  have hkey : (artifactKey p k).toList =
      "artifacts".toList ++ '/' :: ((toString p).toList ++ '/' :: k.toList) := by
    simp [artifactKey]
  simp only [splitPath, hkey, List.splitOn_append_cons_self_of_not_mem (by decide : '/' ∉ "artifacts".toList),
    List.splitOn_append_cons_self_of_not_mem (slash_not_mem_toString_int p), List.map_cons, String.ofList_toList]

-- A name that a path keeps as a directory of its own: not empty and not `.`.
def Kept (x : String) : Prop := x ≠ "" ∧ x ≠ "."

-- Trailing empty parts are dropped, but never the two kept parts in front.
theorem kept_front (a : String) {b : String} (hb : Kept b) (rest : List String) :
    ∃ K, ((a :: b :: rest).reverse.dropWhile (· = "")).reverse = a :: b :: K := by
  have hb' : ((b :: a :: []).dropWhile (fun x => decide (x = ""))) = [b, a] := by
    simp [hb.1]
  rw [show (a :: b :: rest).reverse = rest.reverse ++ [b, a] by simp, List.dropWhile_append]
  split
  · exact ⟨[], by rw [hb']; rfl⟩
  · exact ⟨(rest.reverse.dropWhile (· = "")).reverse, by simp⟩

-- A path whose first two parts are kept names, read as a path, starts with them.
theorem ofText_names_of_front {s a b : String} {rest : List String} (hs : splitPath s = a :: b :: rest)
    (ha : Kept a) (hb : Kept b) : [a, b] <+: (RawPath.ofText s).names := by
  obtain ⟨K, hK⟩ := kept_front a hb rest
  simp only [RawPath.ofText, RawPath.names, hs, hK]
  cases K with
  | nil => simp [ha.1, ha.2]
  | cons c K =>
    rw [List.dropLast_cons_cons, List.dropLast_cons_cons]
    simp [ha.1, ha.2, hb.1, hb.2]

-- The directories an upload makes for such a path: the first name alone, or a path through both.
theorem parentNames_of_front {s a b : String} {rest : List String} (hs : splitPath s = a :: b :: rest)
    (ha : Kept a) (hb : Kept b) :
    (parentNames s).map (·.1) = [a] ∨ [a, b] <+: (parentNames s).map (·.1) := by
  simp only [parentNames, hs, namesFrom, if_neg (not_or.mpr ha), if_neg (not_or.mpr hb)]
  cases hn : namesFrom (0 + a.utf8ByteSize + 1 + b.utf8ByteSize + 1) rest with
  | nil => simp
  | cons x xs =>
    right
    rw [List.dropLast_cons_cons, List.dropLast_cons_cons]
    exact ⟨_, rfl⟩

-- An artifact key is valid exactly when no part of the runner's key is `..`.
theorem validBlobKey_artifactKey (p : Int) (k : String) :
    validBlobKey (artifactKey p k) = !((splitPath k).contains "..") := by
  have hne : (artifactKey p k).isEmpty = false := by
    rw [Bool.eq_false_iff]
    intro h
    have hsplit := splitPath_artifactKey p k
    rw [String.isEmpty_iff.mp h] at hsplit
    simp [splitPath] at hsplit
  have hslash : (artifactKey p k).startsWith "/" = false := by
    rw [Bool.eq_false_iff]
    intro h
    simp [String.startsWith_string_iff, artifactKey] at h
  have hdd : ¬ (".." = p.repr) := fun h => toString_int_ne_dot p ".." (.inr rfl) h.symm
  simp [validBlobKey, splitPath_artifactKey, hne, hslash, hdd]

-- The paths an upload of project `p`'s artifact may change: the root, `artifacts`,
-- `artifacts/p`, and everything below `artifacts/p`.
def ArtifactScope (p : Int) (q : List String) : Prop := Tree.Near ["artifacts", toString p] q

-- A path near one that runs through `A` is near `A`.
theorem near_of_prefix {A N q : List String} (hA : A <+: N) (h : Tree.Near N q) : Tree.Near A q := by
  rcases h with h | h
  · exact List.prefix_or_prefix_of_prefix h hA
  · exact .inr (hA.trans h)

theorem artifactKey_append (p : Int) (k s : String) : artifactKey p k ++ s = artifactKey p (k ++ s) := by
  simp [artifactKey, String.append_assoc]

-- Every path an artifact upload may change lies in its project's scope.
theorem uploadScope_artifactKey {p : Int} {k : String} {q : List String}
    (hq : Tree.UploadScope (artifactKey p k) q) : ArtifactScope p q := by
  have ha : Kept "artifacts" := ⟨by decide, by decide⟩
  have hb : Kept (toString p) := ⟨toString_int_ne_empty p, toString_int_ne_dot p "." (.inl rfl)⟩
  have hpart : splitPath (artifactKey p k ++ ".part") = "artifacts" :: toString p :: splitPath (k ++ ".part") := by
    rw [artifactKey_append, splitPath_artifactKey]
  rcases hq with hq | hq | hq
  · rcases parentNames_of_front (splitPath_artifactKey p k) ha hb with hL | hL
    · rw [hL] at hq
      exact .inl (hq.trans ⟨[toString p], rfl⟩)
    · exact List.prefix_or_prefix_of_prefix hq hL
  · exact near_of_prefix (ofText_names_of_front hpart ha hb) hq
  · exact near_of_prefix (ofText_names_of_front (splitPath_artifactKey p k) ha hb) hq

-- An artifact upload, whatever the key and however far it gets, changes the tree only in its
-- project's scope: outside `artifacts/p` every path reads as before.
theorem upload_artifact_confined (t : Tree) (p : Int) (k : String) (data : List UInt8) :
    Tree.Confined (ArtifactScope p) t (t.upload (artifactKey p k) data).1 :=
  (Tree.confined_upload t _ data).mono fun _ => uploadScope_artifactKey

-- A key with a `..` part is refused before anything is written.
theorem upload_artifact_dotdot (t : Tree) (p : Int) {k : String} (hk : ".." ∈ splitPath k)
    (data : List UInt8) :
    t.upload (artifactKey p k) data = (t, .error (.invalidKey (artifactKey p k))) := by
  simp [Tree.upload, validBlobKey_artifactKey, hk]

-- In particular the traces under `logs` are never touched.
theorem upload_artifact_keeps_logs (t : Tree) (p : Int) (k : String) (data : List UInt8)
    (q : List String) : (t.upload (artifactKey p k) data).1.node? ("logs" :: q) = t.node? ("logs" :: q) := by
  refine upload_artifact_confined t p k data _ ?_
  rintro (⟨r, hr⟩ | ⟨r, hr⟩) <;> simp at hr

-- A key written from the root is no refused key: its slashes collapse, and the blob is the
-- project's artifact `etc/passwd`.
theorem rooted_artifact_key_stored :
    validBlobKey (artifactKey 1 "/etc/passwd") = true ∧
      (({} : Tree).upload (artifactKey 1 "/etc/passwd") [120]).2 = .ok () ∧
      (({} : Tree).upload (artifactKey 1 "/etc/passwd") [120]).1.get (artifactKey 1 "etc/passwd") =
        .ok [120] := by
  have hvalid : validBlobKey (artifactKey 1 "/etc/passwd") = true := by decide +kernel
  have hparents : parentNames (artifactKey 1 "/etc/passwd") = [("artifacts", 9), ("1", 11), ("etc", 16)] := by
    decide +kernel
  refine ⟨hvalid, ?_⟩
  simp only [Tree.upload, hvalid, hparents, Bool.not_true, Bool.false_eq_true, if_false]
  -- the parent directories are made one level at a time, each after its own parent
  simp only [Tree.createDirAll, List.dropLast_cons_cons, List.dropLast_singleton]
  -- the kernel does not evaluate `String.contains`; it reads the characters instead
  simp only [Tree.mkdir, Tree.writeFile, Tree.renameFile, Tree.get, Tree.openBlob, Tree.openPath,
    RawPath.hasNul, String.contains_char_eq]
  decide +kernel

namespace Orchestrator

-- The blob store changes only through the upload of an artifact of a job that the store holds
-- assigned to the runner the token names; a key the store refuses is answered as a bad request.
theorem exec_uploadArtifact_blobs (o : Orchestrator) (token jobId key : String) (data : List UInt8) :
    (exec (uploadArtifact token jobId key data) o).2.blobs = o.blobs ∨
    ∃ R J, o.store.data.findRunnerByToken token = some R ∧ o.store.data.findJob J.id = some J ∧
      J.runnerId = some R.id ∧
      (exec (uploadArtifact token jobId key data) o).2.blobs = (o.blobs.upload (artifactKey J.projectId key) data).1 ∧
      ∀ k, (o.blobs.upload (artifactKey J.projectId key) data).2 = .error (.invalidKey k) →
        (exec (uploadArtifact token jobId key data) o).1 = .error (.badRequest ("invalid key " ++ k)) := by
  unfold uploadArtifact
  split
  · rename_i id hid
    rw [exec_bind]
    rcases hauth : exec (authenticate token none) o with ⟨_ | R, o₁⟩
    · exact .inl (by simpa [hauth] using (untouching_authenticate token none o).blobs)
    have h₁ : Untouched o o₁ := by simpa [hauth] using untouching_authenticate token none o
    dsimp only
    rw [exec_bind]
    rcases hget : exec (getJob id) o₁ with ⟨_ | J, o₂⟩
    · exact .inl (h₁.trans (by simpa [hget] using untouching_getJob id o₁)).blobs
    have h₂ : Untouched o₁ o₂ := by simpa [hget] using untouching_getJob id o₁
    have hfound : o.store.data.findJob id = some J :=
      @findJob_of_report token none id o J (by rw [hauth]; simp [hget])
    dsimp only
    split
    · exact .inl (h₁.trans h₂).blobs
    rename_i howner
    have hR : J.runnerId = some R.id := by simpa using howner
    obtain ⟨R₀, hR₀, hid₀⟩ := authenticate_found (o := o) (by rw [hauth])
    have hJ : J.id = id := JobStore.findJob_id hfound
    have hblobs : o₂.blobs = o.blobs := (h₁.trans h₂).blobs
    refine .inr ⟨R₀, J, hR₀, hJ ▸ hfound, hR.trans (by rw [hid₀]), ?_, ?_⟩
    · rw [exec_bind, exec_get]
      dsimp only
      rw [exec_bind, exec_modify]
      dsimp only
      rw [hblobs]
      split <;> simp [publish, exec_map, exec_modify]
    · intro k hk
      rw [exec_bind, exec_get]
      dsimp only
      rw [exec_bind, exec_modify]
      dsimp only
      rw [hblobs, hk]
      rfl
  · exact .inl rfl

-- Whatever key the runner sends, an artifact upload changes the blob store only for a job the
-- store holds assigned to the calling runner, and only in that job's project: the memory store
-- gains exactly the key `artifacts/p/key`, and in the file store every path but the root,
-- `artifacts`, `artifacts/p` and those below it reads as before. A key with a `..` part is
-- answered as a bad request, and the files are left as they were.
theorem artifact_upload_stays_in_project (o : Orchestrator) (token jobId key : String)
    (data : List UInt8) :
    (exec (uploadArtifact token jobId key data) o).2.blobs = o.blobs ∨
    ∃ R J, o.store.data.findRunnerByToken token = some R ∧ o.store.data.findJob J.id = some J ∧
      J.runnerId = some R.id ∧
      (∀ bs, o.blobs = .memory bs → (exec (uploadArtifact token jobId key data) o).2.blobs =
        .memory (BlobStore.putBlob (artifactKey J.projectId key) data bs)) ∧
      (∀ t, o.blobs = .files t → ∃ t', (exec (uploadArtifact token jobId key data) o).2.blobs = .files t' ∧
        Tree.Confined (ArtifactScope J.projectId) t t' ∧
        (".." ∈ splitPath key → t' = t ∧ (exec (uploadArtifact token jobId key data) o).1 =
          .error (.badRequest ("invalid key " ++ artifactKey J.projectId key)))) := by
  rcases exec_uploadArtifact_blobs o token jobId key data with
    h | ⟨R, J, hR, hJ, howner, hblobs, hinvalid⟩
  · exact .inl h
  refine .inr ⟨R, J, hR, hJ, howner, fun bs hbs => ?_, fun t ht => ?_⟩
  · rw [hblobs, hbs]
    rfl
  · have hup : o.blobs.upload (artifactKey J.projectId key) data =
        (.files (t.upload (artifactKey J.projectId key) data).1,
          (t.upload (artifactKey J.projectId key) data).2) := by
      rw [ht]
      rfl
    refine ⟨_, by rw [hblobs, hup], upload_artifact_confined t J.projectId key data, fun hk => ?_⟩
    have hrefused := upload_artifact_dotdot t J.projectId hk data
    refine ⟨by rw [hrefused], hinvalid _ ?_⟩
    rw [hup, hrefused]

end Orchestrator

end JobDispatch
