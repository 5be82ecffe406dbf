import Mathlib
import JobDispatch.Proofs.Blob.Edits
import JobDispatch.Proofs.Trace.Paging

namespace JobDispatch

section Keys

-- Text without the separator, appended to a list, lengthens its last part.
theorem splitOn_append_of_not_mem {α : Type} [BEq α] [LawfulBEq α] {a : α} {ys : List α}
    (hy : a ∉ ys) (xs : List α) :
    (xs ++ ys).splitOn a =
      (xs.splitOn a).dropLast ++ [(xs.splitOn a).getLast (List.splitOn_ne_nil a xs) ++ ys] := by
  by_cases hx : a ∈ xs
  · -- split at one separator and go on with the shorter text after it
    obtain ⟨pre, post, rfl⟩ := List.append_of_mem hx
    have hpost := splitOn_append_of_not_mem hy post
    have hne := List.splitOn_ne_nil a post
    have hxs := List.splitOn_append_cons_self (a := a) pre post
    rw [List.append_assoc, List.cons_append, List.splitOn_append_cons_self, hpost]
    simp only [hxs, List.dropLast_append_of_ne_nil hne, List.getLast_append_of_ne_nil _ hne,
      List.append_assoc]
  · have hxy : a ∉ xs ++ ys := by simp [hx, hy]
    simp [List.splitOn_eq_singleton hx, List.splitOn_eq_singleton hxy]
termination_by xs.length
decreasing_by subst_vars; simp only [List.length_append, List.length_cons]; omega

theorem splitPath_ne_nil (s : String) : splitPath s ≠ [] := by
  simp [splitPath, List.splitOn_ne_nil]

-- A key is the text of its parts joined by slashes.
theorem intercalate_splitPath (s : String) : "/".intercalate (splitPath s) = s := by
  rw [← String.toList_inj, String.toList_intercalate]
  simp [splitPath, Function.comp_def, String.toList_ofList]

theorem splitPath_injective {s u : String} (h : splitPath s = splitPath u) : s = u := by
  rw [← intercalate_splitPath s, h, intercalate_splitPath]

-- Appending text without a slash to a path lengthens its last part.
theorem splitPath_append {s u : String} (hu : '/' ∉ u.toList) :
    splitPath (s ++ u) =
      (splitPath s).dropLast ++ [(splitPath s).getLast (splitPath_ne_nil s) ++ u] := by
  simp only [splitPath, String.toList_append, splitOn_append_of_not_mem hu, List.map_append,
    List.map_dropLast, List.map_cons, List.map_nil, List.getLast_map, String.ofList_append,
    String.ofList_toList]

-- The parts of a key's `.part` file: the key's directories, then its last name with `.part`.
theorem splitPath_append_part (k : String) :
    splitPath (k ++ ".part") =
      (splitPath k).dropLast ++ [(splitPath k).getLast (splitPath_ne_nil k) ++ ".part"] :=
  splitPath_append (by decide)

-- A part of a key that names itself in its directory: not empty, not `.` or `..`, without a
-- NUL byte, and short enough for a directory entry.
@[mk_iff]
structure PlainName (n : String) : Prop where
  ne_empty : n ≠ ""
  ne_dot : n ≠ "."
  ne_dotdot : n ≠ ".."
  no_nul : Char.ofNat 0 ∉ n.toList
  fits : Tree.nameTooLong n = false

-- A key whose parts are plain names, and whose `.part` file still has a name and a path the
-- system takes.
@[mk_iff]
structure PlainKey (k : String) : Prop where
  names : ∀ n ∈ splitPath k, PlainName n
  part_fits : Tree.nameTooLong ((splitPath k).getLast (splitPath_ne_nil k) ++ ".part") = false
  path_fits : pathTooLong (k ++ ".part").utf8ByteSize = false

instance (n : String) : Decidable (PlainName n) := decidable_of_iff _ (plainName_iff n).symm

instance (k : String) : Decidable (PlainKey k) := decidable_of_iff _ (plainKey_iff k).symm

theorem pathTooLong_mono {a b : Nat} (hab : a ≤ b) (hb : pathTooLong b = false) :
    pathTooLong a = false := by
  simp only [pathTooLong, decide_eq_false_iff_not, ge_iff_le, not_le] at hb ⊢
  omega

theorem PlainName.namesFit {p : List String} (h : ∀ n ∈ p, PlainName n) : Tree.NamesFit p :=
  fun n hn => ⟨(h n hn).no_nul, (h n hn).fits⟩

theorem ne_append_part (n : String) : n ≠ n ++ ".part" := by
  intro h
  have := congrArg String.utf8ByteSize h
  rw [String.utf8ByteSize_append] at this
  have h5 : ".part".utf8ByteSize = 5 := by decide
  omega

-- A plain key passes the store's check of keys.
theorem validBlobKey_of_plain {k : String} (h : ∀ n ∈ splitPath k, PlainName n) :
    validBlobKey k = true := by
  have hne : k ≠ "" := by
    rintro rfl
    exact (h "" (by decide)).ne_empty rfl
  have hslash : k.startsWith "/" = false := by
    rw [Bool.eq_false_iff]
    intro hs
    obtain ⟨rest, hrest⟩ := (String.startsWith_string_iff.1 hs)
    have hfirst : "" ∈ splitPath k := by
      simp only [splitPath, ← hrest]
      simp [List.splitOn_cons_eq_if_modifyHead]
    exact (h "" hfirst).ne_empty rfl
  have hhead : (splitPath k).head? ≠ some "." := by
    intro hd
    exact (h "." (List.mem_of_mem_head? hd)).ne_dot rfl
  have hdd : ".." ∉ splitPath k := fun hc => (h ".." hc).ne_dotdot rfl
  simp [validBlobKey, hne, hslash, hhead, hdd]

-- A path text whose parts are plain names reads as the directories before its last part,
-- that part, and no trailing slash.
theorem ofText_of_plain {s : String} (h : ∀ n ∈ splitPath s, PlainName n) :
    RawPath.ofText s =
      ⟨(splitPath s).dropLast, (splitPath s).getLast (splitPath_ne_nil s), false, s.utf8ByteSize⟩ := by
  have hsplit := List.dropLast_append_getLast (splitPath_ne_nil s)
  have hlast := h _ (List.getLast_mem (splitPath_ne_nil s))
  -- no empty part trails, so none is dropped
  have hkept : ((splitPath s).reverse.dropWhile (· = "")).reverse = splitPath s := by
    conv_lhs => rw [← hsplit]
    rw [List.reverse_append, List.reverse_singleton, List.singleton_append,
      List.dropWhile_cons_of_neg (by simpa using hlast.ne_empty), List.reverse_cons,
      List.reverse_reverse, hsplit]
  have hdirs : (splitPath s).dropLast.filter (fun x => decide (x ≠ "" ∧ x ≠ ".")) =
      (splitPath s).dropLast := by
    rw [List.filter_eq_self]
    intro n hn
    have hp := h n (List.dropLast_subset _ hn)
    simp [hp.ne_empty, hp.ne_dot]
  simp only [RawPath.ofText, hkept, hdirs, List.getLast?_eq_some_getLast (splitPath_ne_nil s),
    Option.getD_some, lt_self_iff_false, decide_false]

theorem RawPath.names_ofText_of_plain {s : String} (h : ∀ n ∈ splitPath s, PlainName n) :
    (RawPath.ofText s).names = splitPath s := by
  rw [ofText_of_plain h]
  exact List.dropLast_append_getLast (splitPath_ne_nil s)

-- Each plain name of a path is listed with where it ends, which is within the path.
theorem namesFrom_of_plain {ps : List String} (h : ∀ n ∈ ps, PlainName n) (start : Nat) :
    (namesFrom start ps).map (·.1) = ps ∧
      ∀ x ∈ namesFrom start ps, x.2 ≤ start + ("/".intercalate ps).utf8ByteSize := by
  induction ps generalizing start with
  | nil => simp [namesFrom]
  | cons part rest ih =>
    have hp := h part List.mem_cons_self
    have hkept : ¬ (part = "" ∨ part = ".") := by simp [hp.ne_empty, hp.ne_dot]
    obtain ⟨hnames, hstops⟩ := ih (fun n hn => h n (List.mem_cons_of_mem _ hn))
      (start + part.utf8ByteSize + 1)
    simp only [namesFrom, if_neg hkept, List.map_cons, hnames, List.mem_cons, forall_eq_or_imp,
      true_and]
    by_cases hr : rest = []
    · subst hr
      simp [namesFrom]
    · rw [String.intercalate_cons_of_ne_nil hr, String.utf8ByteSize_append,
        String.utf8ByteSize_append]
      have h1 : "/".utf8ByteSize = 1 := by decide
      refine ⟨by omega, fun x hx => ?_⟩
      have := hstops x hx
      omega

section PlainKey

variable {k : String} (hk : PlainKey k)
include hk

theorem PlainKey.fit : Tree.NamesFit (splitPath k) := PlainName.namesFit hk.names

theorem PlainKey.part_names : ∀ n ∈ splitPath (k ++ ".part"), PlainName n := by
  rw [splitPath_append_part k]
  intro n hn
  rcases List.mem_append.1 hn with hn | hn
  · exact hk.names n (List.dropLast_subset _ hn)
  · rw [List.mem_singleton] at hn
    subst hn
    set l := (splitPath k).getLast (splitPath_ne_nil k)
    have hsize : (l ++ ".part").utf8ByteSize = l.utf8ByteSize + 5 := by
      rw [String.utf8ByteSize_append]; rfl
    have hsmall : ∀ u : String, u.utf8ByteSize ≤ 2 → l ++ ".part" ≠ u := by
      intro u hu he
      rw [← he, hsize] at hu
      omega
    exact ⟨hsmall "" (by decide), hsmall "." (by decide), hsmall ".." (by decide),
      by simpa [String.toList_append] using (hk.names l (List.getLast_mem _)).no_nul,
      hk.part_fits⟩

theorem PlainKey.ofText :
    RawPath.ofText k =
      ⟨(splitPath k).dropLast, (splitPath k).getLast (splitPath_ne_nil k), false, k.utf8ByteSize⟩ :=
  ofText_of_plain hk.names

theorem PlainKey.ofText_part :
    RawPath.ofText (k ++ ".part") =
      ⟨(splitPath k).dropLast, (splitPath k).getLast (splitPath_ne_nil k) ++ ".part", false,
        (k ++ ".part").utf8ByteSize⟩ := by
  rw [ofText_of_plain hk.part_names]
  have hsplit := splitPath_append_part k
  congr 1
  · rw [hsplit, List.dropLast_concat]
  · simp only [hsplit, List.getLast_append_singleton]

theorem PlainKey.names_last_ne_dot : (splitPath k).getLast (splitPath_ne_nil k) ≠ "." :=
  (hk.names _ (List.getLast_mem _)).ne_dot

theorem PlainKey.fits_key : pathTooLong k.utf8ByteSize = false :=
  pathTooLong_mono (by rw [String.utf8ByteSize_append]; omega) hk.path_fits

-- The parent directories of a plain key are its parts before the last, each written within
-- the key.
theorem PlainKey.parentNames :
    (parentNames k).map (·.1) = (splitPath k).dropLast ∧
      ∀ x ∈ parentNames k, pathTooLong x.2 = false := by
  obtain ⟨hnames, hstops⟩ := namesFrom_of_plain hk.names 0
  refine ⟨by rw [JobDispatch.parentNames, List.map_dropLast, hnames], fun x hx => ?_⟩
  have hx := hstops x (List.dropLast_subset _ hx)
  rw [intercalate_splitPath, Nat.zero_add] at hx
  exact pathTooLong_mono (hx.trans (by rw [String.utf8ByteSize_append]; omega)) hk.path_fits

end PlainKey

end Keys

theorem BlobStore.lookup_putBlob_of_ne {k k' : String} (h : k' ≠ k) (v : List UInt8)
    (bs : List (String × List UInt8)) : (BlobStore.putBlob k v bs).lookup k' = bs.lookup k' := by
  induction bs with
  | nil => simp [BlobStore.putBlob, List.lookup_cons, beq_false_of_ne h]
  | cons b rest ih =>
    obtain ⟨k₀, v₀⟩ := b
    unfold BlobStore.putBlob
    split_ifs with hk
    · subst hk
      simp [List.lookup_cons, beq_false_of_ne h]
    · simp only [List.lookup_cons]
      split <;> simp_all

namespace Tree

theorem append_singleton_prefix_iff {d r : List String} {a b : String} :
    d ++ [a] <+: d ++ b :: r ↔ a = b := by
  rw [List.prefix_append_right_inj, List.cons_prefix_cons]
  simp

theorem append_cons_not_prefix {d r : List String} {a : String} : ¬ d ++ a :: r <+: d := fun h => by
  have := h.length_le
  simp only [List.length_append, List.length_cons] at this
  omega

-- What an upload of `data` to the path `p`, through the `.part` file at `p'` beside it, leaves
-- of the tree `t`: the directories on the way, the file at `p` and nothing below it, nothing at or
-- below `p'`, and every other path as it was.
structure Uploaded (t t' : Tree) (p p' : List String) (data : List UInt8) : Prop where
  dirs : ∀ q, q <+: p.dropLast → ∃ es, t'.node? q = some (.dir es)
  file : ∀ q, p <+: q → t'.node? q = if q = p then some (.file data) else none
  part : ∀ q, p' <+: q → t'.node? q = none
  rest : ∀ q, ¬ q <+: p.dropLast → ¬ p <+: q → ¬ p' <+: q → t'.node? q = t.node? q

-- What the steps of an upload leave: the parent directories made, the `.part` file written
-- beside the key, then moved onto it.
theorem uploaded_of_steps {t t₁ : Tree} {d : List String} {l lp : String} (data : List UInt8)
    (hdirs : DirsMade t t₁ d) (hne : l ≠ lp) :
    Uploaded t (((t₁.put d lp (.file data)).remove d lp).put d l (.file data)) (d ++ [l])
      (d ++ [lp]) data := by
  obtain ⟨sub₁, hsub₁⟩ := hdirs.dirs d (List.prefix_refl d)
  obtain ⟨sub₂, hsub₂⟩ : ∃ sub, (t₁.put d lp (.file data)).node? d = some (.dir sub) :=
    node?_put_prefix hsub₁ (List.prefix_refl d)
  obtain ⟨sub₃, hsub₃⟩ :
      ∃ sub, ((t₁.put d lp (.file data)).remove d lp).node? d = some (.dir sub) :=
    node?_remove_prefix hsub₂ (List.prefix_refl d)
  refine ⟨?dirs, ?file, ?part, ?rest⟩
  case dirs =>
    intro q hq
    rw [List.dropLast_concat] at hq
    exact node?_put_prefix hsub₃ hq
  case file =>
    rintro q ⟨r, rfl⟩
    rw [List.append_assoc, List.singleton_append, node?_put_append hsub₃]
    cases r with
    | nil => simp [findIn_singleton]
    | cons n r =>
      rw [if_neg (fun h => by simpa using congrArg List.length h)]
      exact findIn_cons_of_not_dir (by simp) (List.cons_ne_nil n r)
  case part =>
    rintro q ⟨r, rfl⟩
    rw [List.append_assoc, List.singleton_append,
      node?_put_other hsub₃ (fun h => hne (append_singleton_prefix_iff.1 h)) append_cons_not_prefix]
    exact node?_remove_append hsub₂ _ r
  case rest =>
    intro q hqd hqP hqT
    rw [List.dropLast_concat] at hqd
    rw [node?_put_other hsub₃ hqP hqd, node?_remove_other hsub₂ hqT hqd,
      node?_put_other hsub₁ hqT hqd, hdirs.rest q hqd]

-- An upload of a plain key succeeds where no file stands on the way to it and no directory
-- stands at the key or at its `.part` file.
theorem upload_of_plain {t : Tree} {k : String} (hk : PlainKey k) (data : List UInt8)
    (hnf : NoFileOn t (splitPath k).dropLast)
    (hkey : ∀ es, t.node? (splitPath k) ≠ some (.dir es))
    (hpart : ∀ es, t.node? (splitPath (k ++ ".part")) ≠ some (.dir es)) :
    (t.upload k data).2 = .ok () ∧
      Uploaded t (t.upload k data).1 (splitPath k) (splitPath (k ++ ".part")) data := by
  set d := (splitPath k).dropLast
  set l := (splitPath k).getLast (splitPath_ne_nil k)
  have hP : splitPath k = d ++ [l] := (List.dropLast_append_getLast _).symm
  have hT : splitPath (k ++ ".part") = d ++ [l ++ ".part"] := splitPath_append_part k
  have hfitP : NamesFit (d ++ [l]) := hP ▸ hk.fit
  have hfitT : NamesFit (d ++ [l ++ ".part"]) := hT ▸ PlainName.namesFit hk.part_names
  -- the parent directories
  obtain ⟨hnames, hstops⟩ := hk.parentNames
  have hfitD : NamesFit ((parentNames k).map (·.1)) := by
    rw [hnames]; exact hk.fit.of_prefix (List.dropLast_prefix _)
  obtain ⟨hmade, hdirs⟩ := createDirAll_spec (parentNames k) t hfitD hstops (by rw [hnames]; exact hnf)
  rw [hnames] at hdirs
  set t₁ := (createDirAll t (parentNames k)).1
  obtain ⟨sub₁, hsub₁⟩ := hdirs.dirs d (List.prefix_refl d)
  -- the `.part` file
  have hwrite : t₁.writeFile (RawPath.ofText (k ++ ".part")) data =
      .ok (t₁.put d (l ++ ".part") (.file data)) := by
    rw [hk.ofText_part]
    refine writeFile_eq data hfitT hk.path_fits hsub₁ ?_
    show ∀ es, t₁.node? (d ++ [l ++ ".part"]) ≠ some (.dir es)
    rw [hdirs.rest _ append_cons_not_prefix, ← hT]
    exact hpart
  set t₂ := t₁.put d (l ++ ".part") (.file data)
  obtain ⟨sub₂, hsub₂⟩ : ∃ sub, t₂.node? d = some (.dir sub) :=
    node?_put_prefix hsub₁ (List.prefix_refl d)
  -- the rename onto the key
  have hkey₂ : ∀ es, t₂.node? (d ++ [l]) ≠ some (.dir es) := by
    have hdiv : ¬ (d ++ [l ++ ".part"]) <+: d ++ [l] := fun h =>
      ne_append_part l (append_singleton_prefix_iff.1 h).symm
    rw [node?_put_other hsub₁ hdiv append_cons_not_prefix,
      hdirs.rest _ append_cons_not_prefix, ← hP]
    exact hkey
  have hrename : t₂.renameFile (RawPath.ofText (k ++ ".part")) (RawPath.ofText k) =
      .ok ((t₂.remove d (l ++ ".part")).put d l (.file data)) := by
    rw [hk.ofText_part, hk.ofText]
    exact renameFile_eq hfitT hfitP hk.path_fits hk.fits_key hsub₂ hk.names_last_ne_dot rfl
      (node?_put_self hsub₁ _ _) hkey₂
  have hc : createDirAll t (parentNames k) = (t₁, .ok ()) := Prod.ext rfl hmade
  simp only [upload, validBlobKey_of_plain hk.names, Bool.not_true, Bool.false_eq_true, if_false,
    hc, hwrite, hrename, hP, hT]
  exact ⟨trivial, uploaded_of_steps data hdirs (ne_append_part l)⟩

end Tree

-- Keys the file store keeps apart: each is plain, none leads through another, and no key's
-- `.part` file is another key or on the way to one.
structure KeptApart (K : Set String) : Prop where
  plain : ∀ k ∈ K, PlainKey k
  prefix_free : ∀ k ∈ K, ∀ k' ∈ K, splitPath k <+: splitPath k' → k = k'
  part_free : ∀ k ∈ K, ∀ k' ∈ K, ¬ splitPath (k ++ ".part") <+: splitPath k'

-- The keys of a list are kept apart when each is plain and each two are apart, which evaluation
-- can check.
theorem keptApart_of_list {L : List String}
    (h : (∀ k ∈ L, PlainKey k) ∧ (∀ k ∈ L, ∀ k' ∈ L, splitPath k <+: splitPath k' → k = k') ∧
      ∀ k ∈ L, ∀ k' ∈ L, ¬ splitPath (k ++ ".part") <+: splitPath k') :
    KeptApart {k | k ∈ L} :=
  ⟨h.1, h.2.1, h.2.2⟩

-- The tree holds, at the path of each key of `K`, the bytes the memory store holds under it,
-- and besides those files only directories on the way to them.
structure Mirrors (K : Set String) (t : Tree) (m : List (String × List UInt8)) : Prop where
  files : ∀ k ∈ K, t.node? (splitPath k) = (m.lookup k).map .file
  only : ∀ q e, t.node? q = some e → q ≠ [] →
    (∃ k ∈ K, q = splitPath k) ∨ ((∃ k ∈ K, q <+: splitPath k) ∧ ∃ es, e = .dir es)

namespace Mirrors

variable {K : Set String} {t : Tree} {m : List (String × List UInt8)} {k : String}

theorem empty : Mirrors K {} [] := by
  refine ⟨fun k _ => ?_, fun q e h hq => ?_⟩
  · obtain ⟨n, r, hnr⟩ := List.exists_cons_of_ne_nil (splitPath_ne_nil k)
    simp [Tree.node?, hnr, Tree.findIn_cons_nil]
  · obtain ⟨n, r, rfl⟩ := List.exists_cons_of_ne_nil hq
    simp [Tree.node?, Tree.findIn_cons_nil] at h

theorem not_dir (h : Mirrors K t m) (hk : k ∈ K) : ∀ es, t.node? (splitPath k) ≠ some (.dir es) := by
  intro es he
  rw [h.files k hk] at he
  cases hl : m.lookup k <;> simp [hl] at he

-- No file stands on the way to a key: a file is at some key's path, and a key's path on the
-- way to another key's is that key's.
theorem noFileOn (hK : KeptApart K) (h : Mirrors K t m) (hk : k ∈ K) :
    Tree.NoFileOn t (splitPath k).dropLast := by
  intro q hq hne d hd
  rcases h.only q _ hd hne with ⟨k', hk', rfl⟩ | ⟨_, es, he⟩
  · have hpre := hq.trans (List.dropLast_prefix _)
    have hlen := hq.length_le
    rw [hK.prefix_free k' hk' k hk hpre, List.length_dropLast] at hlen
    have := List.length_pos_of_ne_nil (splitPath_ne_nil k)
    omega
  · cases he

theorem not_dir_part (hK : KeptApart K) (h : Mirrors K t m) (hk : k ∈ K) :
    ∀ es, t.node? (splitPath (k ++ ".part")) ≠ some (.dir es) := by
  intro es he
  rcases h.only _ _ he (by simp [splitPath_append_part]) with ⟨k', hk', heq⟩ | ⟨⟨k', hk', hpre⟩, _⟩
  · exact hK.part_free k hk k' hk' (heq ▸ List.prefix_refl _)
  · exact hK.part_free k hk k' hk' hpre

-- An upload of a key of `K` on both stores keeps them in step.
theorem upload (hK : KeptApart K) (h : Mirrors K t m) (hk : k ∈ K) {t' : Tree} {data : List UInt8}
    (hup : Tree.Uploaded t t' (splitPath k) (splitPath (k ++ ".part")) data) :
    Mirrors K t' (BlobStore.putBlob k data m) := by
  have hd := List.dropLast_prefix (splitPath k)
  constructor
  · intro k' hk'
    by_cases hkk : k' = k
    · subst hkk
      rw [hup.file _ (List.prefix_refl _), if_pos rfl, BlobStore.lookup_putBlob]
      rfl
    -- another key's path is apart from every path the upload touched
    · have hfree : ¬ splitPath k' <+: splitPath k := fun hp => hkk (hK.prefix_free k' hk' k hk hp)
      rw [hup.rest _ (fun hp => hfree (hp.trans hd))
        (fun hp => hkk (hK.prefix_free k hk k' hk' hp).symm) (hK.part_free k hk k' hk'),
        h.files k' hk', BlobStore.lookup_putBlob_of_ne hkk]
  · intro q e hq hne
    by_cases hqd : q <+: (splitPath k).dropLast
    · obtain ⟨es, hes⟩ := hup.dirs q hqd
      rw [hes, Option.some.injEq] at hq
      exact .inr ⟨⟨k, hk, hqd.trans hd⟩, es, hq.symm⟩
    by_cases hqP : splitPath k <+: q
    · rw [hup.file q hqP] at hq
      split_ifs at hq with hqk
      · exact .inl ⟨k, hk, hqk⟩
    by_cases hqT : splitPath (k ++ ".part") <+: q
    · rw [hup.part q hqT] at hq
      cases hq
    rw [hup.rest q hqd hqP hqT] at hq
    exact h.only q e hq hne

-- Opening a key of `K` answers what the memory store answers.
theorem openBlob (hK : KeptApart K) (h : Mirrors K t m) (hk : k ∈ K) :
    (BlobStore.files t).openBlob k = (BlobStore.memory m).openBlob k := by
  have hp := hK.plain k hk
  have hfit : Tree.NamesFit (RawPath.ofText k).names := by
    rw [RawPath.names_ofText_of_plain hp.names]; exact hp.fit
  have hlen : pathTooLong (RawPath.ofText k).bytes = false := by rw [hp.ofText]; exact hp.fits_key
  have hdot : (RawPath.ofText k).last ≠ "." := by rw [hp.ofText]; exact hp.names_last_ne_dot
  have hfile := h.files k hk
  rw [← RawPath.names_ofText_of_plain hp.names] at hfile
  simp only [BlobStore.openBlob, Tree.openBlob, validBlobKey_of_plain hp.names, Bool.not_true,
    Bool.false_eq_true, if_false, BlobStore.get]
  cases hl : m.lookup k with
  | none =>
    rw [hl] at hfile
    have hnf : Tree.NoFileOn t (RawPath.ofText k).dirs := by rw [hp.ofText]; exact h.noFileOn hK hk
    rw [Tree.openPath_of_absent hfit hlen hnf hdot hfile]
    rfl
  | some data =>
    rw [hl] at hfile
    rw [Tree.openPath_of_file hfit hlen hdot (by rw [hp.ofText]) hfile]
    rfl

theorem get (hK : KeptApart K) (h : Mirrors K t m) (hk : k ∈ K) :
    (BlobStore.files t).get k = (BlobStore.memory m).get k := by
  have ho : t.openBlob k = ((BlobStore.memory m).get k).map .bytes := h.openBlob hK hk
  rw [BlobStore.get.eq_2, Tree.get, ho]
  cases (BlobStore.memory m).get k <;> rfl

end Mirrors

-- A call on a blob store: an upload, a read of a whole blob, or opening a blob as a stream.
inductive BlobCall where
  | upload (key : String) (data : List UInt8)
  | get (key : String)
  | stream (key : String)

def BlobCall.key : BlobCall → String
  | .upload k _ => k
  | .get k => k
  | .stream k => k

inductive BlobAnswer where
  | stored (r : Except StorageError Unit)
  | read (r : Except StorageError (List UInt8))
  | opened (r : Except StorageError BlobReader)
  deriving DecidableEq

namespace BlobStore

-- Makes one call: the store after it, and its answer.
def call (s : BlobStore) : BlobCall → BlobStore × BlobAnswer
  | .upload k data => ((s.upload k data).1, .stored (s.upload k data).2)
  | .get k => (s, .read (s.get k))
  | .stream k => (s, .opened (s.openBlob k))

-- The answers to calls made one after another, each on the store the calls before it left.
def answers (s : BlobStore) : List BlobCall → List BlobAnswer
  | [] => []
  | c :: cs => (s.call c).2 :: (s.call c).1.answers cs

end BlobStore

-- Along calls on keys of `K`, a tree that mirrors the memory store answers as the memory store
-- does: each call keeps the two in step.
theorem Mirrors.answers_eq {K : Set String} (hK : KeptApart K) {cs : List BlobCall}
    (hcs : ∀ c ∈ cs, c.key ∈ K) {t : Tree} {m : List (String × List UInt8)} (h : Mirrors K t m) :
    (BlobStore.files t).answers cs = (BlobStore.memory m).answers cs := by
  induction cs generalizing t m with
  | nil => rfl
  | cons c cs ih =>
    have hk : c.key ∈ K := hcs c List.mem_cons_self
    have hcs' : ∀ c' ∈ cs, c'.key ∈ K := fun c' hc' => hcs c' (List.mem_cons_of_mem _ hc')
    cases c with
    | upload k data =>
      change k ∈ K at hk
      obtain ⟨hok, hup⟩ := Tree.upload_of_plain (hK.plain k hk) data (h.noFileOn hK hk)
        (h.not_dir hk) (h.not_dir_part hK hk)
      simp only [BlobStore.answers, BlobStore.call, BlobStore.upload, hok,
        ih hcs' (h.upload hK hk hup)]
    | get k =>
      change k ∈ K at hk
      simp only [BlobStore.answers, BlobStore.call, h.get hK hk, ih hcs' h]
    | stream k =>
      change k ∈ K at hk
      simp only [BlobStore.answers, BlobStore.call, h.openBlob hK hk, ih hcs' h]

-- On keys it keeps apart, the file store over an empty root answers every sequence of uploads,
-- reads and streams as the memory store does.
theorem files_answer_as_memory {K : Set String} (hK : KeptApart K) (cs : List BlobCall)
    (hcs : ∀ c ∈ cs, c.key ∈ K) : (BlobStore.files {}).answers cs = (BlobStore.memory []).answers cs :=
  Mirrors.empty.answers_eq hK hcs

-- A job's trace and an artifact, written, read back and streamed.
def traceAndArtifactCalls : List BlobCall :=
  [.upload (traceKey 1 "LabPing" 7) [91, 93], .get (traceKey 1 "LabPing" 7),
    .stream (artifactKey 1 "report.txt"), .upload (artifactKey 1 "report.txt") [120],
    .upload (traceKey 1 "LabPing" 7) [91, 49, 93], .get (traceKey 1 "LabPing" 7),
    .stream (artifactKey 1 "report.txt")]

theorem trace_and_artifact_answer_as_memory :
    (BlobStore.files {}).answers traceAndArtifactCalls =
      (BlobStore.memory []).answers traceAndArtifactCalls :=
  files_answer_as_memory (keptApart_of_list (L := [traceKey 1 "LabPing" 7, artifactKey 1 "report.txt"])
    (by decide)) _ (by simp [traceAndArtifactCalls, BlobCall.key])

-- `a/./b` and `a/b` are both keys, and the file store keeps them in one file: after an upload of
-- the one, a read of the other finds its bytes, where the memory store finds nothing.
theorem dot_key_shares_file :
    (BlobStore.files {}).answers [.upload "a/./b" [100, 111, 116], .get "a/b"] ≠
      (BlobStore.memory []).answers [.upload "a/./b" [100, 111, 116], .get "a/b"] := by
  have hp : parentNames "a/./b" = [("a", 1)] := by decide
  simp only [BlobStore.answers, BlobStore.call, BlobStore.upload, BlobStore.get, Tree.upload, hp]
  rw [Tree.createDirAll]
  -- the kernel does not evaluate `String.contains`; it reads the characters instead
  simp only [Tree.mkdir, Tree.writeFile, Tree.renameFile, Tree.get, Tree.openBlob, Tree.openPath,
    RawPath.hasNul, String.contains_char_eq]
  decide +kernel

end JobDispatch
