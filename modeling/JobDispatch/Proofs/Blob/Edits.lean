import Mathlib
import JobDispatch.Blob.Store

namespace JobDispatch

namespace Tree

section Lookup

theorem lookup_cons_ne {k n : String} (h : n ≠ k) (v : Entry) (es : List (String × Entry)) :
    ((k, v) :: es).lookup n = es.lookup n := by
  rw [List.lookup_cons, beq_false_of_ne h]

-- Setting an entry replaces the first entry of its name, which is the one a lookup finds.
theorem lookup_setEntry (name : String) (e : Entry) (es : List (String × Entry)) (n : String) :
    (setEntry name e es).lookup n = if n = name then some e else es.lookup n := by
  induction es with
  | nil =>
    by_cases h : n = name
    · subst h
      simp [setEntry]
    · simp [setEntry, h, lookup_cons_ne h]
  | cons x rest ih =>
    obtain ⟨k, v⟩ := x
    by_cases hk : k = name
    · subst hk
      by_cases h : n = k
      · subst h
        simp [setEntry]
      · simp [setEntry, h, lookup_cons_ne h]
    · by_cases h : n = k
      · subst h
        simp [setEntry, hk]
      · simp [setEntry, hk, lookup_cons_ne h, ih]

theorem lookup_filter_ne (name : String) (es : List (String × Entry)) (n : String) :
    (es.filter (·.1 ≠ name)).lookup n = if n = name then none else es.lookup n := by
  induction es with
  | nil => simp
  | cons x rest ih =>
    obtain ⟨k, v⟩ := x
    by_cases hk : k = name
    · -- the entry of that name is dropped
      subst hk
      rw [List.filter_cons_of_neg (by simp), ih]
      by_cases h : n = k
      · simp [h]
      · rw [if_neg h, if_neg h, lookup_cons_ne h]
    · rw [List.filter_cons_of_pos (by simpa using hk)]
      by_cases h : n = k
      · subst h
        simp [hk]
      · rw [lookup_cons_ne h, lookup_cons_ne h, ih]

end Lookup

section Find

variable {es : List (String × Entry)} {sub : List (String × Entry)}

@[simp] theorem findIn_nil (es : List (String × Entry)) : findIn [] es = some (.dir es) := by
  simp [findIn]

theorem findIn_singleton (n : String) (es : List (String × Entry)) : findIn [n] es = es.lookup n := by
  cases h : es.lookup n <;> simp [findIn, h]

theorem findIn_cons_dir {n : String} (h : es.lookup n = some (.dir sub)) (r : List String) :
    findIn (n :: r) es = findIn r sub := by
  cases r <;> simp [findIn, h]

theorem findIn_cons_of_not_dir {n : String} (h : ∀ sub, es.lookup n ≠ some (.dir sub)) {r : List String}
    (hr : r ≠ []) : findIn (n :: r) es = none := by
  obtain ⟨m, r, rfl⟩ := List.exists_cons_of_ne_nil hr
  cases hl : es.lookup n with
  | none => simp [findIn, hl]
  | some e =>
    cases e with
    | file d => simp [findIn, hl]
    | dir sub => exact absurd hl (h sub)

theorem findIn_cons_nil (n : String) (r : List String) : findIn (n :: r) [] = none := by
  cases r <;> simp [findIn]

-- What a path reads depends only on the entry its first name looks up.
theorem findIn_cons_congr {es' : List (String × Entry)} {n : String} (h : es'.lookup n = es.lookup n)
    (r : List String) : findIn (n :: r) es' = findIn (n :: r) es := by
  simp only [findIn, h]

theorem findIn_cons_eq_dir {n : String} {r : List String} (h : findIn (n :: r) es = some (.dir sub)) :
    ∃ sub₀, es.lookup n = some (.dir sub₀) ∧ findIn r sub₀ = some (.dir sub) := by
  cases hl : es.lookup n with
  | none => simp [findIn, hl] at h
  | some e =>
    cases e with
    | file d =>
      cases r <;> simp [findIn, hl] at h
    | dir sub₀ => exact ⟨sub₀, rfl, by rw [← findIn_cons_dir hl]; exact h⟩

theorem findIn_append (h : findIn p es = some (.dir sub)) (r : List String) :
    findIn (p ++ r) es = findIn r sub := by
  induction p generalizing es with
  | nil =>
    simp only [findIn_nil, Option.some.injEq, Entry.dir.injEq] at h
    subst h
    rfl
  | cons n p ih =>
    obtain ⟨sub₀, hl, hp⟩ := findIn_cons_eq_dir h
    rw [List.cons_append, findIn_cons_dir hl, ih hp]

-- Below a missing path nothing is found.
theorem findIn_append_of_none (h : findIn p es = none) {r : List String} (hr : r ≠ []) :
    findIn (p ++ r) es = none := by
  induction p generalizing es with
  | nil => simp at h
  | cons n p ih =>
    cases hl : es.lookup n with
    | none =>
      rw [List.cons_append, findIn_cons_of_not_dir (by simp [hl]) (by simp [hr])]
    | some e =>
      cases e with
      | file d => rw [List.cons_append, findIn_cons_of_not_dir (by simp [hl]) (by simp [hr])]
      | dir sub₀ =>
        rw [findIn_cons_dir hl] at h
        rw [List.cons_append, findIn_cons_dir hl, ih h]

-- Each directory on the way to a directory is a directory.
theorem findIn_prefix_dir (h : findIn p es = some (.dir sub)) (hq : q <+: p) :
    ∃ sub', findIn q es = some (.dir sub') := by
  obtain ⟨r, rfl⟩ := hq
  induction q generalizing es with
  | nil => exact ⟨es, rfl⟩
  | cons n q ih =>
    obtain ⟨sub₀, hl, hp⟩ := findIn_cons_eq_dir h
    rw [findIn_cons_dir hl]
    exact ih hp

end Find

section Alter

variable {f : List (String × Entry) → List (String × Entry)} {es sub : List (String × Entry)}

theorem lookup_alterIn_dir {n : String} {sub₀ : List (String × Entry)} (hl : es.lookup n = some (.dir sub₀))
    (p : List String) : (alterIn f (n :: p) es).lookup n = some (.dir (alterIn f p sub₀)) := by
  simp [alterIn, hl, lookup_setEntry]

-- Below the edited directory lies what the edit made of its entries.
theorem findIn_alterIn_append (h : findIn p es = some (.dir sub)) (r : List String) :
    findIn (p ++ r) (alterIn f p es) = findIn r (f sub) := by
  induction p generalizing es with
  | nil =>
    simp only [findIn_nil, Option.some.injEq, Entry.dir.injEq] at h
    subst h
    rfl
  | cons n p ih =>
    obtain ⟨sub₀, hl, hp⟩ := findIn_cons_eq_dir h
    rw [List.cons_append, findIn_cons_dir (lookup_alterIn_dir hl p), ih hp]

-- The directories on the way to the edited one stay directories.
theorem findIn_alterIn_prefix (h : findIn p es = some (.dir sub)) (hq : q <+: p) :
    ∃ sub', findIn q (alterIn f p es) = some (.dir sub') := by
  obtain ⟨r, rfl⟩ := hq
  induction q generalizing es with
  | nil => exact ⟨_, rfl⟩
  | cons n q ih =>
    obtain ⟨sub₀, hl, hp⟩ := findIn_cons_eq_dir h
    rw [List.cons_append, findIn_cons_dir (lookup_alterIn_dir hl (q ++ r))]
    exact ih hp

-- A path that neither leads to the edited directory nor runs through it reads as before.
theorem findIn_alterIn_of_diverge (hpq : ¬ p <+: q) (hqp : ¬ q <+: p) :
    findIn q (alterIn f p es) = findIn q es := by
  induction p generalizing q es with
  | nil => exact absurd List.nil_prefix hpq
  | cons n p ih =>
    cases q with
    | nil => exact absurd List.nil_prefix hqp
    | cons m q =>
      by_cases hm : m = n
      · subst hm
        simp only [List.cons_prefix_cons, true_and] at hpq hqp
        cases hl : es.lookup m with
        | none => simp [alterIn, hl]
        | some e =>
          cases e with
          | file d => simp [alterIn, hl]
          | dir sub₀ => rw [findIn_cons_dir (lookup_alterIn_dir hl p), ih hpq hqp, findIn_cons_dir hl]
      · -- another name: its lookup is untouched
        apply findIn_cons_congr
        unfold alterIn
        split <;> simp [lookup_setEntry, hm]

-- An edit of one name of a directory leaves every path but that name and what lies below it.
theorem findIn_alterIn_other {g : List (String × Entry) → List (String × Entry)} {name : String}
    (h : findIn p es = some (.dir sub)) (hg : ∀ m, m ≠ name → (g sub).lookup m = sub.lookup m)
    (hq : ¬ (p ++ [name]) <+: q) (hqp : ¬ q <+: p) : findIn q (alterIn g p es) = findIn q es := by
  by_cases hpq : p <+: q
  · obtain ⟨r, rfl⟩ := hpq
    cases r with
    | nil => simp at hqp
    | cons m r =>
      have hm : m ≠ name := by
        rintro rfl
        exact hq (by simp)
      rw [findIn_alterIn_append h, findIn_cons_congr (hg m hm), findIn_append h]
  · exact findIn_alterIn_of_diverge hpq hqp

end Alter

section Edits

variable {t : Tree} {dirs : List String} {sub : List (String × Entry)}

theorem node?_put_self (h : t.node? dirs = some (.dir sub)) (name : String) (e : Entry) :
    (t.put dirs name e).node? (dirs ++ [name]) = some e := by
  simp only [put, node?]
  rw [findIn_alterIn_append h, findIn_singleton, lookup_setEntry, if_pos rfl]

-- Below the new entry lies what that entry holds, as if it stood alone.
theorem node?_put_append (h : t.node? dirs = some (.dir sub)) (name : String) (e : Entry) (r : List String) :
    (t.put dirs name e).node? (dirs ++ name :: r) = findIn (name :: r) [(name, e)] := by
  simp only [put, node?]
  rw [findIn_alterIn_append h]
  exact findIn_cons_congr (by rw [lookup_setEntry, if_pos rfl]; simp) r

theorem node?_put_other {name : String} {e : Entry} (h : t.node? dirs = some (.dir sub))
    (hq : ¬ (dirs ++ [name]) <+: q) (hqp : ¬ q <+: dirs) : (t.put dirs name e).node? q = t.node? q :=
  findIn_alterIn_other h (fun m hm => by rw [lookup_setEntry, if_neg hm]) hq hqp

theorem node?_put_prefix {name : String} {e : Entry} (h : t.node? dirs = some (.dir sub)) (hq : q <+: dirs) :
    ∃ sub', (t.put dirs name e).node? q = some (.dir sub') :=
  findIn_alterIn_prefix h hq

theorem node?_remove_append (h : t.node? dirs = some (.dir sub)) (name : String) (r : List String) :
    (t.remove dirs name).node? (dirs ++ name :: r) = none := by
  simp only [remove, node?]
  rw [findIn_alterIn_append h]
  have hl : (sub.filter (·.1 ≠ name)).lookup name = none := by rw [lookup_filter_ne, if_pos rfl]
  cases r with
  | nil => rw [findIn_singleton, hl]
  | cons m r => exact findIn_cons_of_not_dir (fun s hs => by rw [hl] at hs; cases hs) (by simp)

theorem node?_remove_other {name : String} (h : t.node? dirs = some (.dir sub))
    (hq : ¬ (dirs ++ [name]) <+: q) (hqp : ¬ q <+: dirs) : (t.remove dirs name).node? q = t.node? q :=
  findIn_alterIn_other h (fun m hm => by rw [lookup_filter_ne, if_neg hm]) hq hqp

theorem node?_remove_prefix {name : String} (h : t.node? dirs = some (.dir sub)) (hq : q <+: dirs) :
    ∃ sub', (t.remove dirs name).node? q = some (.dir sub') :=
  findIn_alterIn_prefix h hq

end Edits

section Steps

-- Names the system takes: none holds a NUL byte or is longer than a name may be.
def NamesFit (p : List String) : Prop := ∀ n ∈ p, Char.ofNat 0 ∉ n.toList ∧ nameTooLong n = false

-- No file stands on the way to the path, nor at the path itself.
def NoFileOn (t : Tree) (p : List String) : Prop :=
  ∀ q, q <+: p → q ≠ [] → ∀ d, t.node? q ≠ some (.file d)

theorem NamesFit.of_prefix {p q : List String} (h : NamesFit p) (hq : q <+: p) : NamesFit q :=
  fun n hn => h n (hq.subset hn)

theorem NoFileOn.of_prefix {t : Tree} {p q : List String} (h : NoFileOn t p) (hq : q <+: p) : NoFileOn t q :=
  fun r hr => h r (hr.trans hq)

theorem any_contains_nul {p : List String} (h : NamesFit p) :
    (p.any fun x => x.contains (Char.ofNat 0)) = false := by
  simp only [List.any_eq_false, String.contains_char_eq, decide_eq_true_eq]
  exact fun n hn => (h n hn).1

-- Passing through the directories of a path fails only where one is missing.
theorem walkIn_eq {p : List String} {es : List (String × Entry)} (hn : ∀ n ∈ p, nameTooLong n = false)
    (hnf : ∀ q, q <+: p → q ≠ [] → ∀ d, findIn q es ≠ some (.file d)) :
    walkIn p es = if (findIn p es).isSome then .ok () else .error .notFound := by
  induction p generalizing es with
  | nil => simp [walkIn]
  | cons n p ih =>
    have hfit : nameTooLong n = false := hn n (by simp)
    cases hl : es.lookup n with
    | none =>
      have hfind : findIn (n :: p) es = none := by
        cases p with
        | nil => rw [findIn_singleton, hl]
        | cons m p => exact findIn_cons_of_not_dir (by simp [hl]) (by simp)
      simp [walkIn, hfit, hl, hfind]
    | some e =>
      cases e with
      | file d =>
        have := hnf [n] (by simp) (by simp) d
        rw [findIn_singleton, hl] at this
        exact absurd rfl this
      | dir sub =>
        have hsub : ∀ q, q <+: p → q ≠ [] → ∀ d, findIn q sub ≠ some (.file d) := by
          intro q hq hq0 d
          rw [← findIn_cons_dir hl]
          exact hnf (n :: q) (List.cons_prefix_cons.mpr ⟨rfl, hq⟩) (by simp) d
        simp only [walkIn, hfit, hl, Bool.false_eq_true, if_false]
        rw [ih (fun m hm => hn m (by simp [hm])) hsub, findIn_cons_dir hl]

theorem walkDirs_eq {t : Tree} {p : List String} (hfit : NamesFit p) (hnf : NoFileOn t p) :
    t.walkDirs p = if (t.node? p).isSome then .ok () else .error .notFound :=
  walkIn_eq (fun n hn => (hfit n hn).2) hnf

theorem isDir_eq {t : Tree} {p : List String} {bytes : Nat} (hfit : NamesFit p)
    (hlen : pathTooLong bytes = false) (hnf : NoFileOn t p) : t.isDir p bytes = (t.node? p).isSome := by
  unfold isDir
  rw [walkDirs_eq hfit hnf, hlen]
  split <;> simp_all [Except.toBool]

-- Making a directory: its parent must be there, and the path must be free.
theorem mkdir_eq {t : Tree} {p : List String} (hp : p ≠ []) {bytes : Nat} (hfit : NamesFit p)
    (hlen : pathTooLong bytes = false) (hnf : NoFileOn t p) :
    t.mkdir p bytes =
      if (t.node? p.dropLast).isSome then
        (if (t.node? p).isSome then .error .exists else .ok (t.put p.dropLast (p.getLast hp) (.dir [])))
      else .error .notFound := by
  have hdrop := List.dropLast_prefix p
  have hlast : nameTooLong (p.getLast hp) = false := (hfit _ (List.getLast_mem hp)).2
  unfold mkdir
  simp only [any_contains_nul hfit, hlen, Bool.false_eq_true, if_false, List.getLast?_eq_some_getLast hp, hlast,
    walkDirs_eq (hfit.of_prefix hdrop) (hnf.of_prefix hdrop)]
  by_cases hd : (t.node? p.dropLast).isSome
  · simp only [hd, if_true]
    cases hn : t.node? p <;> rfl
  · simp only [hd]
    rfl

theorem prefix_dropLast_of_ne {p q : List String} (hq : q <+: p) (hne : q ≠ p) : q <+: p.dropLast := by
  obtain ⟨r, rfl⟩ := hq
  have hr : r ≠ [] := by
    rintro rfl
    simp at hne
  rw [List.dropLast_append_of_ne_nil hr]
  exact List.prefix_append q _

-- What making the directories of a path leaves: each of them is a directory, and every other
-- path reads as before.
structure DirsMade (t t' : Tree) (p : List String) : Prop where
  dirs : ∀ q, q <+: p → ∃ es, t'.node? q = some (.dir es)
  rest : ∀ q, ¬ q <+: p → t'.node? q = t.node? q

theorem DirsMade.of_dir {t : Tree} {p : List String} (h : ∃ es, t.node? p = some (.dir es)) :
    DirsMade t t p := by
  obtain ⟨es, h⟩ := h
  exact ⟨fun q hq => findIn_prefix_dir h hq, fun _ _ => rfl⟩

-- Directories made up to the parent, then the path itself.
theorem DirsMade.trans {t t' t'' : Tree} {p : List String} (h₁ : DirsMade t t' p.dropLast)
    (h₂ : DirsMade t' t'' p) : DirsMade t t'' p :=
  ⟨h₂.dirs, fun q hq => (h₂.rest q hq).trans (h₁.rest q fun h => hq (h.trans (List.dropLast_prefix p)))⟩

-- A new directory is empty, so below it there is nothing, as there was nothing before.
theorem dirsMade_put {t : Tree} {p : List String} (hp : p ≠ []) {sub : List (String × Entry)}
    (hparent : t.node? p.dropLast = some (.dir sub)) (habsent : t.node? p = none) :
    DirsMade t (t.put p.dropLast (p.getLast hp) (.dir [])) p := by
  have hsplit : p.dropLast ++ [p.getLast hp] = p := List.dropLast_append_getLast hp
  constructor
  · intro q hq
    by_cases hqp : q = p
    · subst hqp
      have hself := node?_put_self hparent (q.getLast hp) (.dir [])
      rw [hsplit] at hself
      exact ⟨[], hself⟩
    · exact node?_put_prefix hparent (prefix_dropLast_of_ne hq hqp)
  · intro q hq
    by_cases hpq : p <+: q
    · -- strictly below the new directory
      obtain ⟨r, rfl⟩ := hpq
      cases r with
      | nil => simp at hq
      | cons m r =>
        have hbelow : t.node? (p ++ m :: r) = none := findIn_append_of_none habsent (by simp)
        have hpath : p.dropLast ++ p.getLast hp :: m :: r = p ++ m :: r := by
          rw [← List.singleton_append, ← List.append_assoc, hsplit]
        have hl : [(p.getLast hp, Entry.dir [])].lookup (p.getLast hp) = some (.dir []) := by simp
        have hnew := node?_put_append hparent (p.getLast hp) (.dir []) (m :: r)
        rw [hpath, findIn_cons_dir hl, findIn_cons_nil] at hnew
        rw [hnew, hbelow]
    · exact node?_put_other hparent (by rwa [hsplit]) fun h => hq (h.trans (List.dropLast_prefix p))

theorem NoFileOn.dir {t : Tree} {p q : List String} (h : NoFileOn t p) (hq : q <+: p)
    (hs : (t.node? q).isSome) : ∃ es, t.node? q = some (.dir es) := by
  by_cases hq0 : q = []
  · subst hq0
    exact ⟨t.entries, rfl⟩
  · obtain ⟨e, he⟩ := Option.isSome_iff_exists.mp hs
    cases e with
    | file d => exact absurd he (h q hq hq0 d)
    | dir es => exact ⟨es, he⟩

-- Each directory of the path is made, its parents first when they are missing.
theorem createDirAll_spec : ∀ (p : List (String × Nat)) (t : Tree), NamesFit (p.map (·.1)) →
    (∀ x ∈ p, pathTooLong x.2 = false) → NoFileOn t (p.map (·.1)) →
    (createDirAll t p).2 = .ok () ∧ DirsMade t (createDirAll t p).1 (p.map (·.1))
  | [], t, _, _, _ => by
    rw [createDirAll]
    exact ⟨rfl, DirsMade.of_dir ⟨t.entries, rfl⟩⟩
  | x :: xs, t, hfit, hlen, hnf => by
    have hp : (x :: xs).map (·.1) ≠ [] := by simp
    have hbytes : pathTooLong ((x :: xs).getLast (List.cons_ne_nil x xs)).2 = false :=
      hlen _ (List.getLast_mem _)
    have hdrop := List.dropLast_prefix ((x :: xs).map (·.1))
    rw [createDirAll, mkdir_eq hp hfit hbytes hnf]
    by_cases hd : (t.node? ((x :: xs).map (·.1)).dropLast).isSome
    · -- the parent is there: the path is made now, or is a directory already
      obtain ⟨sub, hsub⟩ := hnf.dir hdrop hd
      by_cases hs : (t.node? ((x :: xs).map (·.1))).isSome
      · simp only [hd, hs, if_true, isDir_eq hfit hbytes hnf]
        exact ⟨trivial, DirsMade.of_dir (hnf.dir (List.prefix_refl _) hs)⟩
      · simp only [hd, hs, if_true, Bool.false_eq_true, if_false]
        exact ⟨trivial, dirsMade_put hp hsub (Option.not_isSome_iff_eq_none.mp hs)⟩
    · -- the parent is missing: its directories are made first, then the path
      have ih := createDirAll_spec (x :: xs).dropLast t (by rw [List.map_dropLast]; exact hfit.of_prefix hdrop)
        (fun y hy => hlen y (List.dropLast_subset _ hy)) (by rw [List.map_dropLast]; exact hnf.of_prefix hdrop)
      rw [List.map_dropLast] at ih
      obtain ⟨hok, hmade⟩ := ih
      rcases hrec : t.createDirAll (x :: xs).dropLast with ⟨t', r⟩
      rw [hrec] at hok hmade
      dsimp only at hok hmade
      subst hok
      -- on the way to the path only directories stand now, and the path reads as before
      have hself : t'.node? ((x :: xs).map (·.1)) = t.node? ((x :: xs).map (·.1)) :=
        hmade.rest _ fun h => by simpa using h.length_le
      have hnf' : NoFileOn t' ((x :: xs).map (·.1)) := by
        intro q hq hq0 d
        by_cases hqp : q = (x :: xs).map (·.1)
        · subst hqp
          rw [hself]
          exact hnf _ hq hq0 d
        · obtain ⟨es, he⟩ := hmade.dirs q (prefix_dropLast_of_ne hq hqp)
          rw [he]
          simp
      obtain ⟨sub, hsub⟩ := hmade.dirs _ (List.prefix_refl _)
      have hd' : (t'.node? ((x :: xs).map (·.1)).dropLast).isSome := by rw [hsub]; rfl
      simp only [hd, Bool.false_eq_true, if_false, mkdir_eq hp hfit hbytes hnf', hd', if_true]
      by_cases hs : (t'.node? ((x :: xs).map (·.1))).isSome
      · simp only [hs, if_true, isDir_eq hfit hbytes hnf']
        exact ⟨trivial, hmade.trans (DirsMade.of_dir (hnf'.dir (List.prefix_refl _) hs))⟩
      · simp only [hs, Bool.false_eq_true, if_false]
        exact ⟨trivial, hmade.trans (dirsMade_put hp hsub (Option.not_isSome_iff_eq_none.mp hs))⟩
termination_by p => p.length

theorem findIn_parent {p : List String} {n : String} {es : List (String × Entry)} {e : Entry}
    (h : findIn (p ++ [n]) es = some e) : ∃ sub, findIn p es = some (.dir sub) := by
  induction p generalizing es with
  | nil => exact ⟨es, rfl⟩
  | cons m p ih =>
    cases hl : es.lookup m with
    | none => rw [List.cons_append, findIn_cons_of_not_dir (by simp [hl]) (by simp)] at h; cases h
    | some e' =>
      cases e' with
      | file d => rw [List.cons_append, findIn_cons_of_not_dir (by simp [hl]) (by simp)] at h; cases h
      | dir sub₀ =>
        rw [List.cons_append, findIn_cons_dir hl] at h
        rw [findIn_cons_dir hl]
        exact ih h

theorem walkDirs_of_dir {t : Tree} {p : List String} (hfit : NamesFit p) {sub : List (String × Entry)}
    (h : t.node? p = some (.dir sub)) : t.walkDirs p = .ok () := by
  have hnf : NoFileOn t p := by
    intro q hq _ d
    obtain ⟨es, he⟩ := findIn_prefix_dir h hq
    rw [node?, he]
    simp
  rw [walkDirs_eq hfit hnf, h]
  rfl

theorem RawPath.hasNul_eq_false {p : RawPath} (hfit : NamesFit p.names) : p.hasNul = false := by
  unfold RawPath.hasNul
  apply any_contains_nul
  intro n hn
  exact hfit n (by simp [RawPath.names] at hn ⊢; tauto)

theorem RawPath.fit_dirs {p : RawPath} (hfit : NamesFit p.names) : NamesFit p.dirs :=
  hfit.of_prefix (List.prefix_append _ _)

theorem RawPath.fit_last {p : RawPath} (hfit : NamesFit p.names) : nameTooLong p.last = false :=
  (hfit p.last (by simp [RawPath.names])).2

-- A file is written where its parent directory stands and no directory is in the way.
theorem writeFile_eq {t : Tree} {p : RawPath} (data : List UInt8) (hfit : NamesFit p.names)
    (hlen : pathTooLong p.bytes = false) {sub : List (String × Entry)} (hdir : t.node? p.dirs = some (.dir sub))
    (hnd : ∀ es, t.node? p.names ≠ some (.dir es)) :
    t.writeFile p data = .ok (t.put p.dirs p.last (.file data)) := by
  unfold writeFile
  simp only [RawPath.hasNul_eq_false hfit, hlen, Bool.false_eq_true, if_false,
    walkDirs_of_dir (RawPath.fit_dirs hfit) hdir, RawPath.fit_last hfit]
  cases hn : t.node? p.names with
  | none => rfl
  | some e =>
    cases e with
    | file d => rfl
    | dir es => exact absurd hn (hnd es)

-- A file moves onto a target whose parent stands and where no directory is in the way.
theorem renameFile_eq {t : Tree} {src dst : RawPath} {data : List UInt8} (hsrc : NamesFit src.names)
    (hdst : NamesFit dst.names) (hlen₁ : pathTooLong src.bytes = false) (hlen₂ : pathTooLong dst.bytes = false)
    {sub : List (String × Entry)} (hdir : t.node? dst.dirs = some (.dir sub)) (hdot : dst.last ≠ ".")
    (hslash : dst.slash = false) (hfile : t.node? src.names = some (.file data))
    (hnd : ∀ es, t.node? dst.names ≠ some (.dir es)) :
    t.renameFile src dst = .ok ((t.remove src.dirs src.last).put dst.dirs dst.last (.file data)) := by
  unfold renameFile
  simp only [RawPath.hasNul_eq_false hsrc, RawPath.hasNul_eq_false hdst, hlen₁, hlen₂, Bool.or_false,
    Bool.false_eq_true, if_false, walkDirs_of_dir (RawPath.fit_dirs hdst) hdir, hdot, hfile,
    RawPath.fit_last hdst, hslash]
  cases hn : t.node? dst.names with
  | none => rfl
  | some e =>
    cases e with
    | file d => rfl
    | dir es => exact absurd hn (hnd es)

theorem openPath_of_file {t : Tree} {p : RawPath} {data : List UInt8} (hfit : NamesFit p.names)
    (hlen : pathTooLong p.bytes = false) (hdot : p.last ≠ ".") (hslash : p.slash = false)
    (h : t.node? p.names = some (.file data)) : t.openPath p = .ok (.bytes data) := by
  obtain ⟨sub, hsub⟩ := findIn_parent h
  unfold openPath
  simp only [RawPath.hasNul_eq_false hfit, hlen, Bool.false_eq_true, if_false,
    walkDirs_of_dir (RawPath.fit_dirs hfit) hsub, hdot, RawPath.fit_last hfit, h, hslash]
  rfl

-- A missing file is missing whether or not its directories are there.
theorem openPath_of_absent {t : Tree} {p : RawPath} (hfit : NamesFit p.names) (hlen : pathTooLong p.bytes = false)
    (hnf : NoFileOn t p.dirs) (hdot : p.last ≠ ".") (h : t.node? p.names = none) :
    t.openPath p = .error .notFound := by
  unfold openPath
  simp only [RawPath.hasNul_eq_false hfit, hlen, Bool.false_eq_true, if_false,
    walkDirs_eq (RawPath.fit_dirs hfit) hnf]
  by_cases hd : (t.node? p.dirs).isSome
  · simp only [hd, if_true, hdot, RawPath.fit_last hfit, h, Bool.false_eq_true, if_false]
    rfl
  · simp only [hd, Bool.false_eq_true, if_false]
    rfl

end Steps

end Tree

end JobDispatch
