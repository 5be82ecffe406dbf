import Mathlib
import JobDispatch.Proofs.Orchestrator.Namespaces

namespace JobDispatch

-- The collision law of user zones

-- `]-` overlaps itself only in full: it starts `a ++ ]- ++ w` only where `a` is empty or itself
-- starts with `]-`.
theorem sep_append_eq_append_sep {a z w : List Char} :
    ']' :: '-' :: z = a ++ ']' :: '-' :: w ↔
      (a = [] ∧ z = w) ∨ ∃ t, a = ']' :: '-' :: t ∧ z = t ++ ']' :: '-' :: w := by
  rcases a with _ | ⟨c, _ | ⟨d, t⟩⟩
  · simp
  · -- a single character would put `]` under the `-` of the separator
    simp
  · simp [eq_comm, and_assoc]

-- Two texts that put `]-` after a name agree exactly when the names and the tails agree, or when
-- one name runs on past the other's end with `]-` and a piece the other tail starts with.
theorem append_sep_eq_append_sep_iff {u v z w : List Char} :
    u ++ ']' :: '-' :: z = v ++ ']' :: '-' :: w ↔
      (u = v ∧ z = w) ∨ (∃ t, v = u ++ ']' :: '-' :: t ∧ z = t ++ ']' :: '-' :: w) ∨
        ∃ t, u = v ++ ']' :: '-' :: t ∧ w = t ++ ']' :: '-' :: z := by
  rw [List.append_eq_append_iff]
  constructor
  · -- the shorter name ends where the separator of the longer text starts, or before it
    rintro (⟨a, rfl, h⟩ | ⟨b, rfl, h⟩)
    · rcases sep_append_eq_append_sep.mp h with ⟨rfl, rfl⟩ | ⟨t, rfl, rfl⟩
      · exact .inl ⟨by simp, rfl⟩
      · exact .inr (.inl ⟨t, rfl, rfl⟩)
    · rcases sep_append_eq_append_sep.mp h with ⟨rfl, rfl⟩ | ⟨t, rfl, rfl⟩
      · exact .inl ⟨by simp, rfl⟩
      · exact .inr (.inr ⟨t, rfl, rfl⟩)
  · rintro (⟨rfl, rfl⟩ | ⟨t, rfl, rfl⟩ | ⟨t, rfl, rfl⟩)
    · exact .inl ⟨[], by simp, by simp⟩
    · exact .inl ⟨_, rfl, by simp⟩
    · exact .inr ⟨_, rfl, by simp⟩

theorem userZone_toList (user zone : String) :
    (userZone user zone).toList = "[USER:".toList ++ (user.toList ++ ']' :: '-' :: zone.toList) := by
  simp [userZone]

theorem eq_append_sep_append_iff (a b t : String) :
    a = b ++ "]-" ++ t ↔ a.toList = b.toList ++ ']' :: '-' :: t.toList := by
  rw [← String.toList_inj]
  simp

-- The zones of two users are the same text exactly when names and zones agree, or when one name is
-- the other followed by `]-` and a piece `t` that moves from the first zone into the second name.
theorem userZone_eq_userZone_iff {u v z w : String} :
    userZone u z = userZone v w ↔
      (u = v ∧ z = w) ∨ (∃ t, v = u ++ "]-" ++ t ∧ z = t ++ "]-" ++ w) ∨
        ∃ t, u = v ++ "]-" ++ t ∧ w = t ++ "]-" ++ z := by
  have hsurj : Function.Surjective String.toList := fun l => ⟨String.ofList l, by simp⟩
  -- both sides are read as character lists; the common `[USER:` goes first
  rw [← String.toList_inj, userZone_toList, userZone_toList, List.append_cancel_left_eq,
    append_sep_eq_append_sep_iff, String.toList_inj, String.toList_inj]
  simp only [eq_append_sep_append_iff, hsurj.exists]

-- A user name that does not hold `]-`, the text that closes the user's part of a user zone.
def ZoneSeparatorFree (user : String) : Prop := ¬ [']', '-'] <:+: user.toList

instance : DecidablePred ZoneSeparatorFree :=
  fun user => inferInstanceAs (Decidable (¬ [']', '-'] <:+: user.toList))

example : ZoneSeparatorFree "alice" ∧ ¬ ZoneSeparatorFree "a]-b" := by decide

theorem not_zoneSeparatorFree_append (u t : String) : ¬ ZoneSeparatorFree (u ++ "]-" ++ t) := by
  intro h
  exact h ⟨u.toList, t.toList, by simp⟩

-- Without `]-` in either name, a user zone gives back its user and its zone.
theorem userZone_inj {u v z w : String} (hu : ZoneSeparatorFree u) (hv : ZoneSeparatorFree v) :
    userZone u z = userZone v w ↔ u = v ∧ z = w := by
  rw [userZone_eq_userZone_iff]
  constructor
  · rintro (h | ⟨t, rfl, -⟩ | ⟨t, rfl, -⟩)
    · exact h
    · exact absurd hv (not_zoneSeparatorFree_append u t)
    · exact absurd hu (not_zoneSeparatorFree_append v t)
  · exact .inl

namespace Orchestrator

-- Runners and jobs of different users

-- A runner in another user's zone may not take a job of this user's zone.
theorem not_eligible_of_other_user {J : Job} {R : Runner} {u v z w : String}
    (hJ : J.zone = userZone u z) (hR : R.zone = userZone v w) (hne : u ≠ v)
    (hu : ZoneSeparatorFree u) (hv : ZoneSeparatorFree v) : ¬ R.Eligible J := by
  rintro ⟨hzone | hzone, -⟩
  · -- a user zone lifts no zone filter
    rw [hR] at hzone
    exact userZone_ne_unknown v w hzone
  · rw [hJ, hR] at hzone
    exact hne ((userZone_inj hu hv).mp hzone).1

-- Registrations by two users whose names hold no `]-` create runners in different zones.
theorem register_users_apart {o₁ o₂ : Orchestrator} {req₁ req₂ : Registration} {u₁ u₂ : String}
    {reg₁ reg₂ : Registered}
    (hg₁ : o₁.config.registrationToken ≠ some req₁.secret)
    (hu₁ : o₁.config.accessTokens.reverse.lookup req₁.secret = some u₁)
    (hr₁ : (exec (register req₁) o₁).1 = .ok reg₁)
    (hg₂ : o₂.config.registrationToken ≠ some req₂.secret)
    (hu₂ : o₂.config.accessTokens.reverse.lookup req₂.secret = some u₂)
    (hr₂ : (exec (register req₂) o₂).1 = .ok reg₂)
    (hne : u₁ ≠ u₂) (hf₁ : ZoneSeparatorFree u₁) (hf₂ : ZoneSeparatorFree u₂) :
    ∃ X₁ X₂ : Runner, (exec (register req₁) o₁).2.store.data = o₁.store.data.createRunner X₁ ∧
      X₁.id = reg₁.runner ∧
      (exec (register req₂) o₂).2.store.data = o₂.store.data.createRunner X₂ ∧
      X₂.id = reg₂.runner ∧ X₁.zone ≠ X₂.zone := by
  obtain ⟨X₁, hd₁, hid₁, -, -, hz₁, -⟩ := register_user hg₁ hu₁ hr₁
  obtain ⟨X₂, hd₂, hid₂, -, -, hz₂, -⟩ := register_user hg₂ hu₂ hr₂
  refine ⟨X₁, X₂, hd₁, hid₁, hd₂, hid₂, fun h => hne ?_⟩
  rw [hz₁, hz₂] at h
  exact ((userZone_inj hf₁ hf₂).mp h).1

-- A poll by a token that names a runner of user `u`'s zone is handed only jobs of that zone, and
-- no runner in the zone of another user may take them, while neither name holds `]-`.
theorem requestJob_keeps_user_zone {o : Orchestrator} (hi : o.store.data.Indexed) {token : String}
    {R : Runner} (hR : o.store.data.findRunnerByToken token = some R) {u z : String}
    (hz : R.zone = userZone u z) (info : Option RunnerReport) {a : PollAnswer} {d : DispatchedJob}
    (ha : (exec (requestJob token info) o).1 = .ok a) (hd : a.job = some d) :
    ∃ J, (exec (requestJob token info) o).2.store.data.findJob d.jobId = some J ∧
      J.zone = userZone u z ∧
      ∀ (R' : Runner) (v w : String), R'.zone = userZone v w → u ≠ v → ZoneSeparatorFree u →
        ZoneSeparatorFree v → ¬ R'.Eligible J := by
  have hzoned := requestJob_zoned (userZone_ne_unknown u z) token info o ⟨hi, R, hR, hz⟩ a ha d hd
  obtain ⟨J, hJ, hJz⟩ := Option.map_eq_some_iff.mp hzoned
  exact ⟨J, hJ, hJz, fun R' v w hR' hne hu hv => not_eligible_of_other_user hJz hR' hne hu hv⟩

-- The zones of users. Two user zones are the same text exactly when names and zones agree, or
-- when one name is the other followed by `]-` and a piece that the other zone starts with; a user
-- zone is never the unknown zone. So while no user's name holds `]-`, different users' zones are
-- disjoint: the runners they register land in different zones, and a poll by one user's runner is
-- handed only jobs of its own zone, which no runner of another such user may take.
theorem user_zones_meet_only_across_separator :
    (∀ u v z w : String, userZone u z = userZone v w ↔
      (u = v ∧ z = w) ∨ (∃ t, v = u ++ "]-" ++ t ∧ z = t ++ "]-" ++ w) ∨
        ∃ t, u = v ++ "]-" ++ t ∧ w = t ++ "]-" ++ z) ∧
    (∀ u z : String, userZone u z ≠ unknownZone) ∧
    (∀ u v z w : String, ZoneSeparatorFree u → ZoneSeparatorFree v → u ≠ v →
      userZone u z ≠ userZone v w) ∧
    (∀ (o₁ o₂ : Orchestrator) (req₁ req₂ : Registration) (u₁ u₂ : String) (reg₁ reg₂ : Registered),
      o₁.config.registrationToken ≠ some req₁.secret →
      o₁.config.accessTokens.reverse.lookup req₁.secret = some u₁ →
      (exec (register req₁) o₁).1 = .ok reg₁ →
      o₂.config.registrationToken ≠ some req₂.secret →
      o₂.config.accessTokens.reverse.lookup req₂.secret = some u₂ →
      (exec (register req₂) o₂).1 = .ok reg₂ →
      u₁ ≠ u₂ → ZoneSeparatorFree u₁ → ZoneSeparatorFree u₂ →
      ∃ X₁ X₂ : Runner, (exec (register req₁) o₁).2.store.data = o₁.store.data.createRunner X₁ ∧
        X₁.id = reg₁.runner ∧
        (exec (register req₂) o₂).2.store.data = o₂.store.data.createRunner X₂ ∧
        X₂.id = reg₂.runner ∧ X₁.zone ≠ X₂.zone) ∧
    ∀ (o : Orchestrator) (token : String) (info : Option RunnerReport) (R : Runner) (u z : String)
      (a : PollAnswer) (d : DispatchedJob), o.store.data.Indexed →
      o.store.data.findRunnerByToken token = some R → R.zone = userZone u z →
      (exec (requestJob token info) o).1 = .ok a → a.job = some d →
      ∃ J, (exec (requestJob token info) o).2.store.data.findJob d.jobId = some J ∧
        J.zone = userZone u z ∧
        ∀ (R' : Runner) (v w : String), R'.zone = userZone v w → u ≠ v → ZoneSeparatorFree u →
          ZoneSeparatorFree v → ¬ R'.Eligible J := by
  refine ⟨fun _ _ _ _ => userZone_eq_userZone_iff, userZone_ne_unknown,
    fun _ _ _ _ hu hv hne h => hne ((userZone_inj hu hv).mp h).1, ?_, ?_⟩
  · intro o₁ o₂ req₁ req₂ u₁ u₂ reg₁ reg₂ hg₁ hu₁ hr₁ hg₂ hu₂ hr₂ hne hf₁ hf₂
    exact register_users_apart hg₁ hu₁ hr₁ hg₂ hu₂ hr₂ hne hf₁ hf₂
  · intro o token info R u z a d hi hR hz ha hd
    exact requestJob_keeps_user_zone hi hR hz info ha hd

-- A user whose name ends a user zone's prefix shares a zone with the user named by its start.
theorem bracketed_user_shares_zone :
    ("a]-b" : String) ≠ "a" ∧ userZone "a]-b" "c" = userZone "a" "b]-c" := by
  decide

-- Alice and Bob each hold an access token.
def teamState : Orchestrator :=
  Orchestrator.create { accessTokens := [("alice-token", "alice"), ("bob-token", "bob")] }

-- Alice's and Bob's runners both register in zone `eu`.
def aliceSignup : Registration :=
  { name := "laptop", secret := "alice-token", info := { zone := some "eu" } }

def bobSignup : Registration :=
  { name := "desktop", secret := "bob-token", info := { zone := some "eu" } }

def aliceSignedUp : Registered :=
  ⟨Uuid.mint ("runner:" ++ toString 0),
    deriveToken (Uuid.mint ("runner:" ++ toString 0)) "alice-token", RunnerSettings.ofKind .all⟩

def bobSignedUp : Registered :=
  ⟨Uuid.mint ("runner:" ++ toString 1),
    deriveToken (Uuid.mint ("runner:" ++ toString 1)) "bob-token", RunnerSettings.ofKind .all⟩

-- Alice's runner, of every kind, in Alice's namespace of zone `eu`.
def aliceRunner : Runner :=
  { id := ⟨1⟩, name := "laptop", token := "token", kind := .all, zone := userZone "alice" "eu",
    active := true, contactedAt := ⟨0⟩, createdAt := ⟨0⟩ }

-- A runner of every kind in Bob's namespace of zone `eu`.
def bobRunner : Runner :=
  { id := ⟨2⟩, name := "desktop", token := "other", kind := .all, zone := userZone "bob" "eu",
    active := true, contactedAt := ⟨0⟩, createdAt := ⟨0⟩ }

-- Alice's runner and one job created in her namespace.
def aliceStore : JobStore :=
  (StoreOp.create ⟨.labAnalyze, 1, 7, userZone "alice" "eu", none⟩ ⟨0⟩).apply
    ((StoreOp.createRunner aliceRunner).apply {})

def aliceServed : Orchestrator := { Orchestrator.create {} with store := { data := aliceStore } }

-- Alice and Bob, registering in the same zone `eu`, get runners of different zones; and a poll by
-- Alice's runner is handed the job of Alice's namespace, which Bob's runner may not take.
theorem alice_and_bob_kept_apart :
    userZone "alice" "eu" ≠ userZone "bob" "eu" ∧
    (∃ X₁ X₂ : Runner, (exec (register aliceSignup) teamState).2.store.data =
        teamState.store.data.createRunner X₁ ∧
      (exec (register bobSignup) (exec (register aliceSignup) teamState).2).2.store.data =
        (exec (register aliceSignup) teamState).2.store.data.createRunner X₂ ∧ X₁.zone ≠ X₂.zone) ∧
    ∃ a d J, (exec (requestJob "token" none) aliceServed).1 = .ok a ∧ a.job = some d ∧
      (exec (requestJob "token" none) aliceServed).2.store.data.findJob d.jobId = some J ∧
      J.zone = userZone "alice" "eu" ∧ ¬ bobRunner.Eligible J := by
  obtain ⟨-, -, hzones, hreg, hpoll⟩ := user_zones_meet_only_across_separator
  have halice : ZoneSeparatorFree "alice" := by decide
  have hbob : ZoneSeparatorFree "bob" := by decide
  have hne : ("alice" : String) ≠ "bob" := by decide
  refine ⟨hzones _ _ "eu" "eu" halice hbob hne, ?_, ?_⟩
  · obtain ⟨X₁, X₂, hd₁, -, hd₂, -, hz⟩ := hreg teamState (exec (register aliceSignup) teamState).2
      aliceSignup bobSignup "alice" "bob" aliceSignedUp bobSignedUp (by decide) rfl rfl (by decide) rfl
      rfl hne halice hbob
    exact ⟨X₁, X₂, hd₁, hd₂, hz⟩
  · -- the poll is served: one active runner, an open gate, a free lease and a resolvable job
    have hs : aliceServed.Serves "token" aliceRunner := by
      refine ⟨⟨rfl, rfl⟩, rfl, by decide, rfl, rfl, rfl, by decide, fun j hj _ _ => ?_,
        fun j hj _ _ => ?_⟩
      · rw [List.mem_singleton.mp hj]; rfl
      · rw [List.mem_singleton.mp hj]; exact ⟨_, rfl⟩
    have hi : aliceServed.store.data.Indexed :=
      @StoreOp.indexed_apply _ (.create _ _) (@StoreOp.indexed_apply _ (.createRunner _)
        JobStore.indexed_empty trivial) trivial
    obtain ⟨_, _, hans, -⟩ := exec_requestJob hs hi none
      ⟨_, List.mem_singleton_self _, rfl, .inr rfl, .inl rfl⟩
    obtain ⟨J, hJ, hJz, hother⟩ := hpoll aliceServed "token" none aliceRunner "alice" "eu" _ _ hi rfl
      rfl hans rfl
    exact ⟨_, _, J, hans, rfl, hJ, hJz, hother bobRunner "bob" "eu" rfl hne halice hbob⟩

end Orchestrator

end JobDispatch
