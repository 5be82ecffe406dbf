import Mathlib
import JobDispatch.Config
import JobDispatch.Orchestrator.Runners
import JobDispatch.Proofs.Orchestrator.Exec

namespace JobDispatch

-- Cutting a text at a character

-- No piece of a cut holds the character cut at.
theorem not_mem_of_mem_splitOn {c : Char} : ∀ {l p : List Char}, p ∈ l.splitOn c → c ∉ p
  | [], p, h => by
    rw [List.splitOn_nil, List.mem_singleton] at h
    simp [h]
  | x :: xs, p, h => by
    rw [List.splitOn_cons_eq_if_modifyHead] at h
    split_ifs at h with hx
    · rcases List.mem_cons.1 h with rfl | h
      · simp
      · exact not_mem_of_mem_splitOn h
    · -- `x` opens the first piece of the rest, and it is not `c`
      obtain ⟨r, rs, hr⟩ := List.exists_cons_of_ne_nil (List.splitOn_ne_nil c xs)
      rw [hr, List.modifyHead_cons] at h
      rcases List.mem_cons.1 h with rfl | h
      · have hc : c ∉ r := not_mem_of_mem_splitOn (hr ▸ List.mem_cons_self ..)
        have hxc : x ≠ c := by simpa using hx
        simp [hc, Ne.symm hxc]
      · exact not_mem_of_mem_splitOn (hr ▸ List.mem_cons_of_mem _ h)

theorem not_mem_of_mem_splitChar {c : Char} {s p : String} (h : p ∈ splitChar c s) :
    c ∉ p.toList := by
  obtain ⟨l, hl, rfl⟩ := List.mem_map.1 h
  rw [String.toList_ofList]
  exact not_mem_of_mem_splitOn hl

-- Joining the pieces with the character gives the text back.
theorem intercalate_splitChar (c : Char) (s : String) :
    (String.singleton c).intercalate (splitChar c s) = s := by
  apply String.ext
  simp [splitChar, Function.comp_def]

-- Pieces free of the character are what the cut of their join gives; no pieces at all join to
-- the empty text, whose cut is one empty piece.
theorem splitChar_intercalate (c : Char) {ps : List String} (hps : ps ≠ [])
    (h : ∀ p ∈ ps, c ∉ p.toList) : splitChar c ((String.singleton c).intercalate ps) = ps := by
  have hx : ∀ l ∈ ps.map String.toList, c ∉ l := by simpa using h
  unfold splitChar
  rw [String.toList_intercalate, String.toList_singleton,
    List.splitOn_intercalate c hx (by simpa using hps)]
  simp [Function.comp_def]

-- Trimming

-- `t` is `s` without its leading and trailing blanks.
def Trimmed (s t : String) : Prop :=
  ∃ pre suf, s.toList = pre ++ t.toList ++ suf ∧ (∀ c ∈ pre, isBlank c) ∧ (∀ c ∈ suf, isBlank c) ∧
    t.toList.head?.any isBlank = false ∧ t.toList.getLast?.any isBlank = false

theorem dropWhile_of_head {p : Char → Bool} {l : List Char} (h : l.head?.any p = false) :
    l.dropWhile p = l := by
  cases l with
  | nil => rfl
  | cons x l => exact List.dropWhile_cons_of_neg (by simpa using h)

theorem head_dropWhile {p : Char → Bool} (l : List Char) : (l.dropWhile p).head?.any p = false := by
  have h := List.head?_dropWhile_not p l
  cases hd : (l.dropWhile p).head? with
  | none => rfl
  | some x =>
    rw [hd] at h
    simpa using h

-- Cutting a leading run off a list, and the run cut off.
theorem takeWhile_append_dropWhile_blank (l : List Char) :
    l = l.takeWhile isBlank ++ l.dropWhile isBlank ∧ ∀ c ∈ l.takeWhile isBlank, isBlank c :=
  ⟨(List.takeWhile_append_dropWhile).symm, fun _ hc => List.mem_takeWhile_imp hc⟩

theorem trimBlanks_trimmed (s : String) : Trimmed s (trimBlanks s) := by
  -- the leading blanks go first, then the trailing ones, cut from the front of the reversal
  set d := s.toList.dropWhile isBlank with hd
  set e := d.reverse.dropWhile isBlank with he
  obtain ⟨hs, hpre⟩ := takeWhile_append_dropWhile_blank s.toList
  obtain ⟨hr, hsuf⟩ := takeWhile_append_dropWhile_blank d.reverse
  have ht : (trimBlanks s).toList = e.reverse := by simp [trimBlanks, hd, he]
  refine ⟨s.toList.takeWhile isBlank, (d.reverse.takeWhile isBlank).reverse, ?_, hpre, ?_, ?_, ?_⟩
  · rw [ht, List.append_assoc, ← List.reverse_append, ← hr, List.reverse_reverse]
    exact hs
  · intro c hc
    exact hsuf c (List.mem_reverse.1 hc)
  · -- the first of what is left is not blank: were it, the trailing run would hold all of `d`
    rw [ht]
    by_cases hne : e = []
    · simp [hne]
    · have hlast : e.reverse.head? = d.head? := by
        rw [List.head?_reverse, ← List.getLast?_reverse (l := d)]
        have h := congrArg List.getLast? hr
        rw [List.getLast?_append_of_ne_nil _ hne] at h
        exact h.symm
      rw [hlast]
      exact head_dropWhile s.toList
  · rw [ht, List.getLast?_reverse]
    exact head_dropWhile d.reverse

theorem trimBlanks_of_ends {s : String} (hh : s.toList.head?.any isBlank = false)
    (hl : s.toList.getLast?.any isBlank = false) : trimBlanks s = s := by
  have hr : s.toList.reverse.head?.any isBlank = false := by rwa [List.head?_reverse]
  unfold trimBlanks
  rw [dropWhile_of_head hh, dropWhile_of_head hr, List.reverse_reverse, String.ofList_toList]

-- Splitting an entry at its first colon

-- `p` is `e` split at the first `c`: the text before it, which holds no `c`, and the rest.
def FirstSplit (c : Char) (e : String) (p : String × String) : Prop :=
  e.toList = p.1.toList ++ c :: p.2.toList ∧ c ∉ p.1.toList

theorem splitOnce_of_firstSplit {c : Char} {e : String} {p : String × String}
    (h : FirstSplit c e p) : splitOnce c e = some p := by
  obtain ⟨he, ha⟩ := h
  have hne : ∀ x ∈ p.1.toList, decide (x ≠ c) = true := fun x hx => by
    have hxc : x ≠ c := fun hxc => ha (hxc ▸ hx)
    simpa using hxc
  have hcont : e.toList.contains c = true := by simp [he]
  unfold splitOnce
  dsimp only
  rw [if_pos hcont, he, List.takeWhile_append_of_pos hne, List.dropWhile_append_of_pos hne,
    List.takeWhile_cons_of_neg (by simp), List.dropWhile_cons_of_neg (by simp)]
  simp

theorem splitOnce_eq_none_iff {c : Char} {e : String} : splitOnce c e = none ↔ c ∉ e.toList := by
  unfold splitOnce
  by_cases hc : c ∈ e.toList <;> simp [hc]

theorem firstSplit_of_splitOnce {c : Char} {e : String} {p : String × String}
    (h : splitOnce c e = some p) : FirstSplit c e p := by
  have hc : c ∈ e.toList := by
    by_contra hc
    rw [splitOnce_eq_none_iff.2 hc] at h
    cases h
  -- the first `c` of `e` is where the split falls
  obtain ⟨a, b, ha, he, -⟩ := List.exists_erase_eq hc
  have hs : FirstSplit c e (String.ofList a, String.ofList b) := ⟨by simp [he], by simpa using ha⟩
  rw [splitOnce_of_firstSplit hs] at h
  cases h
  exact hs

theorem readAccessEntry_eq_ok_iff {e : String} {p : String × String} :
    readAccessEntry e = .ok p ↔ FirstSplit ':' e p := by
  unfold readAccessEntry
  constructor
  · intro h
    split at h
    next q hq =>
      cases h
      exact firstSplit_of_splitOnce hq
    next => cases h
  · intro h
    rw [splitOnce_of_firstSplit h]

theorem readAccessEntry_ok_iff {e : String} : (∃ p, readAccessEntry e = .ok p) ↔ ':' ∈ e.toList := by
  constructor
  · rintro ⟨p, hp⟩
    rw [(readAccessEntry_eq_ok_iff.1 hp).1]
    simp
  · intro hc
    cases h : splitOnce ':' e with
    | none => exact absurd hc (splitOnce_eq_none_iff.1 h)
    | some p => exact ⟨p, readAccessEntry_eq_ok_iff.2 (firstSplit_of_splitOnce h)⟩

-- An entry fails only with the message for a missing colon.
theorem readAccessEntry_error {e m : String} (h : readAccessEntry e = .error m) :
    m = accessTokenEntryError := by
  unfold readAccessEntry at h
  split at h
  · cases h
  · cases h
    rfl

-- Reading every entry

section MapM

variable {α β ε : Type} (f : α → Except ε β)

-- The one case split of a run of `f` in `Except`: on its head, then on its tail.
theorem mapM_cons_eq_ok_iff {x : α} {xs : List α} {ys : List β} :
    (x :: xs).mapM f = .ok ys ↔ ∃ y zs, f x = .ok y ∧ xs.mapM f = .ok zs ∧ ys = y :: zs := by
  rw [List.mapM_cons]
  cases hx : f x with
  | error e => simp [bind, Except.bind]
  | ok y =>
    cases hxs : xs.mapM f with
    | error e => simp [bind, Except.bind]
    | ok zs => simp [bind, Except.bind, pure, Except.pure, eq_comm]

theorem mapM_cons_eq_error_iff {x : α} {xs : List α} {e : ε} :
    (x :: xs).mapM f = .error e ↔ f x = .error e ∨ ∃ y, f x = .ok y ∧ xs.mapM f = .error e := by
  rw [List.mapM_cons]
  cases hx : f x with
  | error e' => simp [bind, Except.bind]
  | ok y =>
    cases hxs : xs.mapM f with
    | error e' => simp [bind, Except.bind]
    | ok zs => simp [bind, Except.bind, pure, Except.pure]

theorem mapM_eq_ok_iff (xs : List α) (ys : List β) :
    xs.mapM f = .ok ys ↔ List.Forall₂ (fun x y => f x = .ok y) xs ys := by
  induction xs generalizing ys with
  | nil => cases ys <;> simp [pure, Except.pure]
  | cons x xs ih =>
    rw [mapM_cons_eq_ok_iff]
    cases ys with
    | nil => simp
    | cons y ys => simp [← ih]

theorem exists_mapM_eq_ok_iff (xs : List α) :
    (∃ ys, xs.mapM f = .ok ys) ↔ ∀ x ∈ xs, ∃ y, f x = .ok y := by
  induction xs with
  | nil => simp [pure, Except.pure]
  | cons x xs ih =>
    rw [List.forall_mem_cons, ← ih]
    simp only [mapM_cons_eq_ok_iff]
    constructor
    · rintro ⟨-, y, zs, hy, hzs, -⟩
      exact ⟨⟨y, hy⟩, zs, hzs⟩
    · rintro ⟨⟨y, hy⟩, zs, hzs⟩
      exact ⟨y :: zs, y, zs, hy, hzs, rfl⟩

-- A run of `f` over a list fails with one of the failures of `f`.
theorem mapM_error {P : ε → Prop} (hf : ∀ x e, f x = .error e → P e) (xs : List α) {e : ε}
    (h : xs.mapM f = .error e) : P e := by
  induction xs with
  | nil => cases h
  | cons x xs ih =>
    rcases (mapM_cons_eq_error_iff f).1 h with hx | ⟨y, -, hxs⟩
    · exact hf x e hx
    · exact ih hxs

end MapM

theorem parseAccessTokens_eq_ok_iff {raw : String} {ps : List (String × String)} :
    parseAccessTokens raw = .ok ps ↔ List.Forall₂ (FirstSplit ':') (accessEntries raw) ps :=
  mapM_eq_ok_iff readAccessEntry _ _ |>.trans (by simp only [readAccessEntry_eq_ok_iff])

theorem parseAccessTokens_ok_iff {raw : String} :
    (∃ ps, parseAccessTokens raw = .ok ps) ↔ ∀ e ∈ accessEntries raw, ':' ∈ e.toList :=
  (exists_mapM_eq_ok_iff readAccessEntry _).trans (by simp only [readAccessEntry_ok_iff])

theorem parseAccessTokens_error {raw : String} (h : ∃ e ∈ accessEntries raw, ':' ∉ e.toList) :
    parseAccessTokens raw = .error accessTokenEntryError := by
  obtain ⟨e, he, hc⟩ := h
  cases hp : parseAccessTokens raw with
  | ok ps => exact absurd (parseAccessTokens_ok_iff.1 ⟨ps, hp⟩ e he) hc
  | error m =>
    rw [mapM_error readAccessEntry (fun _ _ => readAccessEntry_error) _ hp]

example : parseAccessTokens "t1:alice,bob" = .error accessTokenEntryError := by rfl

-- Writing entries back

-- An entry as the list writes it, `token:user`.
def entryText (p : String × String) : String := p.1 ++ ":" ++ p.2

-- The access-token list of some entries: their written forms between commas.
def renderAccessTokens (ps : List (String × String)) : String := ",".intercalate (ps.map entryText)

-- An entry whose written form reads back as itself: no comma anywhere, no colon in the token,
-- no blank opening the token or closing the user.
structure PlainEntry (p : String × String) : Prop where
  token_comma : ',' ∉ p.1.toList
  token_colon : ':' ∉ p.1.toList
  token_start : p.1.toList.head?.any isBlank = false
  user_comma : ',' ∉ p.2.toList
  user_end : p.2.toList.getLast?.any isBlank = false

theorem toList_entryText (p : String × String) :
    (entryText p).toList = p.1.toList ++ ':' :: p.2.toList := by
  simp [entryText]

theorem PlainEntry.firstSplit {p : String × String} (h : PlainEntry p) :
    FirstSplit ':' (entryText p) p :=
  ⟨toList_entryText p, h.token_colon⟩

theorem PlainEntry.no_comma {p : String × String} (h : PlainEntry p) :
    ',' ∉ (entryText p).toList := by
  rw [toList_entryText]
  simp [h.token_comma, h.user_comma]

-- The written form opens with the token's first character, or with the colon if the token is
-- empty, and ends with the user's last, or with the colon: trimming leaves it as it is.
theorem PlainEntry.trim {p : String × String} (h : PlainEntry p) :
    trimBlanks (entryText p) = entryText p := by
  have hcolon : isBlank ':' = false := by decide
  apply trimBlanks_of_ends
  · rw [toList_entryText]
    cases ht : p.1.toList with
    | nil => simpa using hcolon
    | cons x l => simpa [ht] using h.token_start
  · rw [toList_entryText, List.getLast?_append, List.getLast?_cons]
    cases hu : p.2.toList.getLast? with
    | none => simpa using hcolon
    | some x => simpa [hu] using h.user_end

theorem accessEntries_render {ps : List (String × String)} (h : ∀ p ∈ ps, PlainEntry p) :
    accessEntries (renderAccessTokens ps) = ps.map entryText := by
  cases ps with
  | nil => rfl
  | cons q qs =>
    have hcomma : ∀ e ∈ (q :: qs).map entryText, ',' ∉ e.toList := by
      intro e he
      obtain ⟨p, hp, rfl⟩ := List.mem_map.1 he
      exact (h p hp).no_comma
    have hcut : splitChar ',' (renderAccessTokens (q :: qs)) = (q :: qs).map entryText :=
      splitChar_intercalate ',' (by simp) hcomma
    unfold accessEntries
    rw [hcut, List.map_map]
    -- each written entry is its own trim, and none is empty since each holds its colon
    have htrim : ∀ p ∈ q :: qs, (trimBlanks ∘ entryText) p = entryText p :=
      fun p hp => (h p hp).trim
    rw [List.map_congr_left htrim, List.filter_eq_self]
    intro e he
    obtain ⟨p, -, rfl⟩ := List.mem_map.1 he
    have hne : entryText p ≠ "" := fun h0 => by simpa [h0] using toList_entryText p
    simpa using hne

theorem parseAccessTokens_render {ps : List (String × String)} (h : ∀ p ∈ ps, PlainEntry p) :
    parseAccessTokens (renderAccessTokens ps) = .ok ps := by
  rw [parseAccessTokens_eq_ok_iff, accessEntries_render h, List.forall₂_map_left_iff,
    List.forall₂_same]
  exact fun p hp => (h p hp).firstSplit

-- The configuration and registration

theorem fromEnv_accessTokens {env : String → Option String} {raw : String}
    {ps : List (String × String)} (he : env "ACCESS_TOKENS" = some raw)
    (hp : parseAccessTokens raw = .ok ps) :
    ∃ c, Config.fromEnv env = .ok c ∧ c.accessTokens = ps := by
  unfold Config.fromEnv
  simp only [he, hp]
  exact ⟨_, rfl, rfl⟩

-- `(t, u)` is the last entry for the token `t` in `ps`.
def LastEntry (ps : List (String × String)) (t u : String) : Prop :=
  ∃ pre post, ps = pre ++ (t, u) :: post ∧ ∀ p ∈ post, p.1 ≠ t

-- Looking a token up in the reversed list finds its last entry.
theorem reverse_lookup_eq_some_iff {ps : List (String × String)} {t u : String} :
    ps.reverse.lookup t = some u ↔ LastEntry ps t u := by
  rw [List.lookup_eq_some_iff]
  constructor
  · rintro ⟨l₁, l₂, h, hl⟩
    refine ⟨l₂.reverse, l₁.reverse, ?_, ?_⟩
    · rw [← List.reverse_reverse ps, h]
      simp
    · intro p hp
      have hne : t ≠ p.1 := by simpa using hl p (List.mem_reverse.1 hp)
      exact Ne.symm hne
  · rintro ⟨pre, post, rfl, hpost⟩
    refine ⟨post.reverse, pre.reverse, by simp, ?_⟩
    intro p hp
    have hne : t ≠ p.1 := Ne.symm (hpost p (List.mem_reverse.1 hp))
    simpa using hne

namespace Orchestrator

variable {o : Orchestrator} {t : String}

theorem exec_registrant_user (ht : t ≠ "") (hg : o.config.registrationToken ≠ some t) {u : String}
    (hu : o.config.accessTokens.reverse.lookup t = some u) :
    exec (registrant t) o = (.ok (.user u), o) := by
  unfold registrant
  simp only [exec_bind, exec_get, hu]
  rw [if_neg ht, if_neg hg]
  rfl

theorem exec_registrant_unlisted (ht : t ≠ "") (hg : o.config.registrationToken ≠ some t)
    (hu : o.config.accessTokens.reverse.lookup t = none) :
    exec (registrant t) o = (.error (.forbidden "invalid registration token"), o) := by
  unfold registrant
  simp only [exec_bind, exec_get, hu]
  rw [if_neg ht, if_neg hg]
  rfl

-- Past the empty secret and the installation's own, a secret registers for the user of its last
-- entry in the list, and for no one if it has none.
theorem exec_registrant_eq_user_iff (ht : t ≠ "") (hg : o.config.registrationToken ≠ some t)
    (u : String) :
    exec (registrant t) o = (.ok (.user u), o) ↔ LastEntry o.config.accessTokens t u := by
  rw [← reverse_lookup_eq_some_iff]
  cases hl : o.config.accessTokens.reverse.lookup t with
  | none => simp [exec_registrant_unlisted ht hg hl]
  | some v => simp [exec_registrant_user ht hg hl]

end Orchestrator

open Orchestrator in
-- The access-token list, read and written. For every text, its pieces between commas join back
-- to it, and each piece is trimmed of exactly its outer blanks; the list reads exactly when every
-- entry (a piece not empty once trimmed) holds a colon, as those entries split at their first
-- colon, in order, and otherwise fails with the message for a missing colon. Entries written out
-- with commas between them read back as themselves when no token holds a comma or a colon or
-- opens with a blank and no user holds a comma or ends with a blank; the configuration then holds
-- them, and registration takes a token, past the empty one and the installation's own, to the
-- user of its last entry.
theorem access_tokens_read_back :
    (∀ raw : String,
      ",".intercalate (splitChar ',' raw) = raw ∧
      (∀ piece ∈ splitChar ',' raw, ',' ∉ piece.toList ∧ Trimmed piece (trimBlanks piece)) ∧
      accessEntries raw = ((splitChar ',' raw).map trimBlanks).filter (· ≠ "") ∧
      ((∃ ps, parseAccessTokens raw = .ok ps) ↔ ∀ e ∈ accessEntries raw, ':' ∈ e.toList) ∧
      (∀ ps, parseAccessTokens raw = .ok ps ↔ List.Forall₂ (FirstSplit ':') (accessEntries raw) ps) ∧
      ((∃ e ∈ accessEntries raw, ':' ∉ e.toList) →
        parseAccessTokens raw = .error "ACCESS_TOKENS entry must be token:username")) ∧
    ∀ ps : List (String × String), (∀ p ∈ ps, PlainEntry p) →
      parseAccessTokens (renderAccessTokens ps) = .ok ps ∧
      (∀ env : String → Option String, env "ACCESS_TOKENS" = some (renderAccessTokens ps) →
        ∃ c, Config.fromEnv env = .ok c ∧ c.accessTokens = ps) ∧
      ∀ (o : Orchestrator) (t u : String), o.config.accessTokens = ps → t ≠ "" →
        o.config.registrationToken ≠ some t →
        (exec (registrant t) o = (.ok (.user u), o) ↔ LastEntry ps t u) := by
  refine ⟨fun raw => ⟨intercalate_splitChar ',' raw, ?_, rfl, parseAccessTokens_ok_iff,
    fun _ => parseAccessTokens_eq_ok_iff, parseAccessTokens_error⟩, ?_⟩
  · intro piece hp
    exact ⟨not_mem_of_mem_splitChar hp, trimBlanks_trimmed piece⟩
  · intro ps hps
    have hread := parseAccessTokens_render hps
    refine ⟨hread, fun env he => fromEnv_accessTokens he hread, ?_⟩
    intro o t u ho ht hg
    rw [← ho]
    exact exec_registrant_eq_user_iff ht hg u

-- A list that names token `t1` twice.
def repeatedTokens : List (String × String) := [("t1", "alice"), ("t2", "bob"), ("t1", "carol")]

-- The list reads back as itself, both entries of `t1` kept, and registering with `t1` makes a
-- runner of the later entry's user, never of the earlier one's.
theorem repeated_token_registers_last_user :
    (∀ p ∈ repeatedTokens, PlainEntry p) ∧
      parseAccessTokens (renderAccessTokens repeatedTokens) = .ok repeatedTokens ∧
      ∀ o : Orchestrator, o.config.accessTokens = repeatedTokens →
        o.config.registrationToken ≠ some "t1" →
        Orchestrator.exec (Orchestrator.registrant "t1") o = (.ok (.user "carol"), o) ∧
          Orchestrator.exec (Orchestrator.registrant "t1") o ≠ (.ok (.user "alice"), o) := by
  have hplain : ∀ p ∈ repeatedTokens, PlainEntry p := by
    intro p hp
    simp only [repeatedTokens, List.mem_cons, List.not_mem_nil, or_false] at hp
    rcases hp with rfl | rfl | rfl <;> exact ⟨by decide, by decide, by decide, by decide, by decide⟩
  obtain ⟨hread, -, hreg⟩ := access_tokens_read_back.2 repeatedTokens hplain
  refine ⟨hplain, hread, fun o ho hg => ⟨?_, fun h => ?_⟩⟩
  · exact (hreg o "t1" "carol" ho (by decide) hg).mpr (reverse_lookup_eq_some_iff.mp (by decide))
  · -- the reversed list finds `carol` under `t1` first, so `alice` is not the last entry
    have hlast := reverse_lookup_eq_some_iff.mpr ((hreg o "t1" "alice" ho (by decide) hg).mp h)
    exact absurd hlast (by decide)

-- Blanks around entries go, an empty piece is skipped, a second colon stays with the user, and a
-- repeated token keeps both entries in the list.
example : parseAccessTokens " t1:alice , ,t2:bob:x,t1:carol " =
    .ok [("t1", "alice"), ("t2", "bob:x"), ("t1", "carol")] := by rfl

end JobDispatch
