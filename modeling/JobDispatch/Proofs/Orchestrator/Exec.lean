import JobDispatch.Proofs.Store.Lifecycle
import JobDispatch.Orchestrator.Dispatch
import JobDispatch.Orchestrator.Reaper

namespace JobDispatch

namespace StoreOp

-- The calls the services make: none puts a job in directly, and a completion seals its job.
def ByService : StoreOp → Prop
  | put _ => False
  | complete _ c => c.status.sealed = true
  | _ => True

theorem ByService.issued {s : JobStore} {op : StoreOp} (h : op.ByService) (hb : op.BelowMax s) :
    op.Issued s := by
  cases op <;> simp_all [ByService, Issued, Sealing, FreshSeed]

end StoreOp

namespace Store

-- A store call either runs on the data, fails leaving the store alone, or answers the empty
-- answer an `absent` fault gives, also leaving it alone.
theorem run_cases {α} (s : Store) (c : StoreCall) (op : JobStore → α × JobStore) (absent : Option α) :
    s.run c op absent = (.ok (op s.data).1, { s with data := (op s.data).2 }) ∨
    (∃ e, s.run c op absent = (.error e, s)) ∨
    (∃ a, absent = some a ∧ s.run c op absent = (.ok a, s)) := by
  unfold run
  split
  · exact .inr (.inl ⟨_, rfl⟩)
  · split
    · exact .inr (.inl ⟨_, rfl⟩)
    · exact .inr (.inr ⟨_, rfl, rfl⟩)
    · exact .inl rfl

end Store

namespace Orchestrator

-- The answer and final state of an operation run from `o`.
def exec {α} (m : Op α) (o : Orchestrator) : Except DispatchError α × Orchestrator := m.run.run o

section Exec

variable {α β : Type} (o : Orchestrator)

theorem exec_bind (m : Op α) (f : α → Op β) :
    exec (m >>= f) o = match exec m o with
      | (.ok a, o') => exec (f a) o'
      | (.error e, o') => (.error e, o') := by
  simp only [exec, ExceptT.run_bind, StateT.run_bind]
  rcases m.run.run o with ⟨_ | _, _⟩ <;> rfl

theorem exec_tryCatch (m : Op α) (h : DispatchError → Op α) :
    exec (tryCatch m h) o = match exec m o with
      | (.ok a, o') => (.ok a, o')
      | (.error e, o') => exec (h e) o' := by
  simp only [exec, ExceptT.run_tryCatch, StateT.run_bind]
  rcases m.run.run o with ⟨_ | _, _⟩ <;> rfl

theorem exec_map (f : α → β) (m : Op α) :
    exec (f <$> m) o = match exec m o with
      | (.ok a, o') => (.ok (f a), o')
      | (.error e, o') => (.error e, o') := by
  simp only [exec, ExceptT.run_map, StateT.run_map]
  rcases m.run.run o with ⟨_ | _, _⟩ <;> rfl

@[simp] theorem exec_pure (a : α) : exec (pure a : Op α) o = (.ok a, o) := rfl
@[simp] theorem exec_throw (e : DispatchError) : exec (throw e : Op α) o = (.error e, o) := rfl
@[simp] theorem exec_get : exec (get : Op Orchestrator) o = (.ok o, o) := rfl
@[simp] theorem exec_modify (f : Orchestrator → Orchestrator) : exec (modify f : Op Unit) o = (.ok (), f o) :=
  rfl
@[simp] theorem exec_modifyGet (f : Orchestrator → α × Orchestrator) :
    exec (modifyGet f : Op α) o = (.ok (f o).1, (f o).2) := rfl

theorem exec_call (c : StoreCall) (op : JobStore → α × JobStore) (absent : Option α) :
    exec (call c op absent) o =
      match o.store.run c op absent with
      | (.ok a, store) => (.ok a, { o with store })
      | (.error e, store) => (.error (.store e), { o with store }) := by
  simp only [call, exec_bind, exec_get]
  rcases o.store.run c op absent with ⟨_ | _, _⟩ <;> rfl

end Exec

-- A reflexive, transitive relation: how far an operation may move the state.
structure Chain (R : Orchestrator → Orchestrator → Prop) : Prop where
  refl : ∀ o, R o o
  trans : ∀ {a b c}, R a b → R b c → R a c

-- How the orchestrator's state may move: a reflexive, transitive relation that allows every
-- step leaving the store's data and the watermarks alone, and every call of the services on
-- the data. The dispatch operations need more of it (see `MarkMoves`).
structure Moves (R : Orchestrator → Orchestrator → Prop) : Prop where
  refl : ∀ o, R o o
  trans : ∀ {a b c}, R a b → R b c → R a c
  frame : ∀ {o o'}, o'.store.data = o.store.data → o'.watermarks = o.watermarks → R o o'
  call : ∀ {o o'} (sop : StoreOp), sop.ByService → o'.store.data = sop.apply o.store.data →
    o'.watermarks = o.watermarks → R o o'

theorem Moves.chain {R : Orchestrator → Orchestrator → Prop} (hR : Moves R) : Chain R :=
  ⟨hR.refl, hR.trans⟩

-- `m` moves the state only as `R` allows, whether it answers or fails.
def Within {α} (R : Orchestrator → Orchestrator → Prop) (m : Op α) : Prop := ∀ o, R o (exec m o).2

namespace Within

section Chain

-- The combinators of `Op` keep every reflexive, transitive bound on the moves: what a step
-- leaves unmoved it leaves to `refl`, and a sequence composes by `trans`.
variable {α β γ : Type} {R : Orchestrator → Orchestrator → Prop} (hR : Chain R)
include hR

theorem pure (a : α) : Within R (pure a : Op α) := fun o => hR.refl o
theorem throw (e : DispatchError) : Within R (throw e : Op α) := fun o => hR.refl o
theorem get : Within R (get : Op Orchestrator) := fun o => hR.refl o

theorem throw_bind (e : DispatchError) (f : α → Op β) :
    Within R ((MonadExcept.throw e : Op α) >>= f) :=
  fun o => hR.refl o

-- A bind whose continuation may rely on what the first operation answers.
theorem bind_of {m : Op α} {f : α → Op β} (P : α → Prop) (hm : Within R m)
    (hP : ∀ o a, (exec m o).1 = .ok a → P a) (hf : ∀ a, P a → Within R (f a)) :
    Within R (m >>= f) := by
  intro o
  have h₁ := hm o
  rw [exec_bind]
  rcases hx : exec m o with ⟨_ | a, o₁⟩
  · rw [hx] at h₁; exact h₁
  · rw [hx] at h₁
    exact hR.trans h₁ (hf a (hP o a (by rw [hx])) o₁)

theorem bind {m : Op α} {f : α → Op β} (hm : Within R m) (hf : ∀ a, Within R (f a)) :
    Within R (m >>= f) :=
  bind_of hR (fun _ => True) hm (fun _ _ _ => trivial) fun a _ => hf a

theorem tryCatch {m : Op α} {h : DispatchError → Op α} (hm : Within R m) (hh : ∀ e, Within R (h e)) :
    Within R (tryCatch m h) := by
  intro o
  have h₁ := hm o
  rw [exec_tryCatch]
  rcases hx : exec m o with ⟨e | a, o₁⟩
  · rw [hx] at h₁
    exact hR.trans h₁ (hh e o₁)
  · rw [hx] at h₁; exact h₁

omit hR in
theorem map {m : Op α} (f : α → β) (hm : Within R m) : Within R (f <$> m) := by
  intro o
  have h := hm o
  rw [exec_map]
  rcases hx : exec m o with ⟨_ | _, _⟩ <;> rw [hx] at h <;> exact h

theorem logged {m : Op Unit} (hm : Within R m) : Within R (Orchestrator.logged m) :=
  tryCatch hR hm fun _ => pure hR _

-- A read followed by what it answers: the continuation starts from the state the read saw, with
-- the answer computed from its data; a read that fails ends the operation there.
theorem read_bind {c : StoreCall} {g : JobStore → α} {f : α → Op β}
    (hf : ∀ o, R o (exec (f (g o.store.data)) o).2) : Within R (Orchestrator.read c g >>= f) := by
  intro o
  rw [exec_bind, Orchestrator.read, exec_call]
  rcases Store.run_cases o.store c (fun s => (g s, s)) none with h | ⟨e, h⟩ | ⟨a, ha, -⟩
  · rw [h]; exact hf o
  · rw [h]; exact hR.refl o
  · cases ha

theorem forIn {f : γ → β → Op (ForInStep β)} (hf : ∀ x b, Within R (f x b)) :
    ∀ (xs : List γ) (b : β), Within R (ForIn.forIn xs b f)
  | [], b => pure hR b
  | x :: xs, b => by
    rw [List.forIn_cons]
    refine bind hR (hf x b) fun r => ?_
    cases r with
    | done b => exact pure hR b
    | yield b => exact forIn hf xs b

theorem filterMapM {f : γ → Op (Option β)} (hf : ∀ x, Within R (f x)) :
    ∀ xs : List γ, Within R (xs.filterMapM f)
  | [] => pure hR _
  | x :: xs => by
    rw [List.filterMapM_cons]
    refine bind hR (hf x) fun r => ?_
    cases r with
    | none => exact filterMapM hf xs
    | some b => exact bind hR (filterMapM hf xs) fun _ => pure hR _

end Chain

section Moves

variable {α : Type} {R : Orchestrator → Orchestrator → Prop} (hR : Moves R)
include hR

theorem of_frame {m : Op α}
    (h : ∀ o, (exec m o).2.store.data = o.store.data ∧ (exec m o).2.watermarks = o.watermarks) :
    Within R m :=
  fun o => hR.frame (h o).1 (h o).2

theorem modify {f : Orchestrator → Orchestrator}
    (hf : ∀ o, (f o).store.data = o.store.data ∧ (f o).watermarks = o.watermarks) :
    Within R (modify f : Op Unit) :=
  of_frame hR hf

theorem modifyGet {f : Orchestrator → α × Orchestrator}
    (hf : ∀ o, (f o).2.store.data = o.store.data ∧ (f o).2.watermarks = o.watermarks) :
    Within R (modifyGet f : Op α) :=
  of_frame hR hf

-- A store call stays within `R` when its effect on the data is one call of the services, or
-- none.
theorem call {c : StoreCall} {op : JobStore → α × JobStore} {absent : Option α}
    (hop : ∀ s, (op s).2 = s ∨ ∃ sop : StoreOp, sop.ByService ∧ sop.apply s = (op s).2) :
    Within R (call c op absent) := by
  intro o
  rw [exec_call]
  rcases Store.run_cases o.store c op absent with h | ⟨e, h⟩ | ⟨a, -, h⟩
  · rw [h]
    rcases hop o.store.data with h' | ⟨sop, hs, h'⟩
    · exact hR.frame h' rfl
    · exact hR.call sop hs h'.symm rfl
  · rw [h]; exact hR.frame rfl rfl
  · rw [h]; exact hR.frame rfl rfl

theorem callOp {c : StoreCall} {op : JobStore → α × JobStore} {absent : Option α} (sop : StoreOp)
    (hs : sop.ByService) (hop : ∀ s, sop.apply s = (op s).2) : Within R (Orchestrator.call c op absent) :=
  call hR fun s => .inr ⟨sop, hs, hop s⟩

theorem read {c : StoreCall} {f : JobStore → α} {absent : Option α} :
    Within R (Orchestrator.read c f absent) := call hR fun _ => .inl rfl

theorem tryCall {c : StoreCall} {op : JobStore → α × JobStore} {absent : Option α}
    (hop : ∀ s, (op s).2 = s ∨ ∃ sop : StoreOp, sop.ByService ∧ sop.apply s = (op s).2) :
    Within R (Orchestrator.tryCall c op absent) :=
  tryCatch hR.chain (map _ (call hR hop)) fun _ => pure hR.chain _

theorem tryCallOp {c : StoreCall} {op : JobStore → α × JobStore} {absent : Option α} (sop : StoreOp)
    (hs : sop.ByService) (hop : ∀ s, sop.apply s = (op s).2) :
    Within R (Orchestrator.tryCall c op absent) :=
  tryCall hR fun s => .inr ⟨sop, hs, hop s⟩

end Moves

end Within

-- The moves that change the store's data only by runs of the services' calls.
def StoreMoves (o o' : Orchestrator) : Prop :=
  ∃ ops, StoreRun (fun _ op => op.ByService) o.store.data ops o'.store.data

theorem storeMoves : Moves StoreMoves where
  refl o := ⟨[], .nil _⟩
  trans := fun ⟨ops₁, h₁⟩ ⟨ops₂, h₂⟩ => ⟨ops₁ ++ ops₂, h₁.append h₂⟩
  frame h _ := ⟨[], by rw [h]; exact .nil _⟩
  call sop hs h _ := ⟨[sop], by rw [h]; exact .single hs⟩

-- The operation changes the store's data only by calls of the services.
def StoreSafe {α} (m : Op α) : Prop :=
  ∀ o, ∃ ops, StoreRun (fun _ op => op.ByService) o.store.data ops (exec m o).2.store.data

-- Steps that leave the store's data alone, whatever they do to the watermarks.
theorem StoreSafe.of_data {α} {m : Op α} (h : ∀ o, (exec m o).2.store.data = o.store.data) :
    StoreSafe m :=
  fun o => ⟨[], by rw [h o]; exact .nil _⟩

end Orchestrator

end JobDispatch
