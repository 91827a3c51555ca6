import Udpcap.Foundation.Resources

/-!
# Memory that is lent

Computations on memory that a library hands out and takes back.  A read logs a use of the
memory, and it faults when the memory is not live.

## Main definitions

* `Lent`, `LentM` — the state with the log of `Udpcap.Foundation.Resources`, and the
  computations.
* `LentM.lend`, `LentM.giveBack`, `LentM.read`, `LentM.deref` — the operations.
* `LentM.AfterReads`, `LentM.Reads` — runs that only read the memory.

## Main results

* `live_replicate_use`, `disciplined_replicate_use` — reads do not change what is live.
* `LentM.exec_bind`, `LentM.exec_read_of_not_live` — how computations run.
* `LentM.Reads.bind`, `LentM.Reads.read` — **runs that read live memory compose.**
-/

namespace Foundation

open ResourceEvent

/-! ### Reads in the log -/

section Log

variable {κ : Type*} [DecidableEq κ] {k : κ} {es : List (ResourceEvent κ)}

/-- **Reads do not change what is live.** -/
theorem live_replicate_use (n : ℕ) : live (List.replicate n (use k) ++ es) = live es := by
  induction n with
  | zero => rfl
  | succ n ih => exact ih

theorem disciplined_replicate_use (h : Disciplined es) (hk : k ∈ live es) (n : ℕ) :
    Disciplined (List.replicate n (use k) ++ es) := by
  induction n with
  | zero => exact h
  | succ n ih =>
    refine ⟨?_, ih⟩
    show k ∈ live (List.replicate n (use k) ++ es)
    rw [live_replicate_use]
    exact hk

theorem count_replicate_use {e : ResourceEvent κ} (he : e ≠ use k) (n : ℕ) :
    (List.replicate n (use k) ++ es).count e = es.count e := by
  rw [List.count_append, List.count_replicate]
  simp [he.symm]

end Log

/-! ### Computations -/

/-- What a computation on lent memory can run into. -/
inductive MemoryFault
  /-- Memory was read that is not live. -/
  | notLive
  | nullPointer
  deriving DecidableEq, Repr

/-- A state with the log of the memory, the latest event first. -/
structure Lent (κ σ : Type) where
  state : σ
  log : List (ResourceEvent κ)

namespace Lent

variable {κ σ : Type}

/-- The event `e` happens. -/
def record (w : Lent κ σ) (e : ResourceEvent κ) : Lent κ σ := { w with log := e :: w.log }

@[simp] theorem state_record (w : Lent κ σ) (e : ResourceEvent κ) :
    (w.record e).state = w.state := rfl

@[simp] theorem log_record (w : Lent κ σ) (e : ResourceEvent κ) :
    (w.record e).log = e :: w.log := rfl

end Lent

/-- Computations on lent memory.  A fault keeps the log. -/
abbrev LentM (κ σ : Type) := ExceptT MemoryFault (StateM (Lent κ σ))

namespace LentM

variable {κ σ α β : Type}

/-- The outcome of a computation. -/
def exec (m : LentM κ σ α) (w : Lent κ σ) : Except MemoryFault α × Lent κ σ :=
  StateT.run (ExceptT.run m) w

/-- The memory is handed out. -/
def lend (k : κ) : LentM κ σ Unit := modify fun w => w.record (acquire k)

/-- The memory is handed back. -/
def giveBack (k : κ) : LentM κ σ Unit := modify fun w => w.record (release k)

/-- A field `x` of the memory is read. -/
def read [DecidableEq κ] (k : κ) (x : α) : LentM κ σ α := ExceptT.mk fun w =>
  (if k ∈ live w.log then .ok x else .error .notLive, w.record (use k))

/-- A pointer, `none` for a null pointer, is dereferenced. -/
def deref : Option α → LentM κ σ α
  | some x => pure x
  | none => throw .nullPointer

/-- A computation that does not touch the memory. -/
def act (f : σ → σ × α) : LentM κ σ α := do
  let w ← get
  set { w with state := (f w.state).1 }
  pure (f w.state).2

@[simp] theorem exec_pure (x : α) (w : Lent κ σ) : exec (pure x) w = (.ok x, w) := rfl

theorem exec_bind (m : LentM κ σ α) (f : α → LentM κ σ β) (w : Lent κ σ) :
    exec (m >>= f) w = match exec m w with
      | (.ok x, w) => exec (f x) w
      | (.error e, w) => (.error e, w) := by
  show StateT.run (ExceptT.run (m >>= f)) w = match StateT.run (ExceptT.run m) w with
    | (.ok x, w) => exec (f x) w
    | (.error e, w) => (.error e, w)
  rw [ExceptT.run_bind, StateT.run_bind]
  generalize StateT.run (ExceptT.run m) w = o
  obtain ⟨r, w⟩ := o
  cases r <;> rfl

@[simp] theorem exec_lend (k : κ) (w : Lent κ σ) :
    exec (lend k) w = (.ok (), w.record (acquire k)) := rfl

@[simp] theorem exec_giveBack (k : κ) (w : Lent κ σ) :
    exec (giveBack k) w = (.ok (), w.record (release k)) := rfl

@[simp] theorem exec_act (f : σ → σ × α) (w : Lent κ σ) :
    exec (act f) w = (.ok (f w.state).2, { w with state := (f w.state).1 }) := rfl

variable {k : κ} {w : Lent κ σ}

theorem exec_read [DecidableEq κ] (k : κ) (x : α) (w : Lent κ σ) :
    exec (read k x) w =
      (if k ∈ live w.log then .ok x else .error .notLive, w.record (use k)) := rfl

theorem exec_read_of_not_live [DecidableEq κ] (hlive : k ∉ live w.log) (x : α) :
    exec (read k x) w = (.error .notLive, w.record (use k)) := by
  rw [exec_read, if_neg hlive]

/-! ### Runs that read -/

/-- Since `w`, nothing has been done to the memory but reading it. -/
def AfterReads (k : κ) (w w' : Lent κ σ) : Prop :=
  ∃ n, w'.log = List.replicate n (use k) ++ w.log

/-- From `w`, the computation reads and returns `x` in `w'`. -/
def Reads (k : κ) (m : LentM κ σ α) (w : Lent κ σ) (x : α) (w' : Lent κ σ) : Prop :=
  exec m w = (.ok x, w') ∧ AfterReads k w w'

namespace AfterReads

variable {w' w'' : Lent κ σ}

theorem refl (k : κ) (w : Lent κ σ) : AfterReads k w w := ⟨0, rfl⟩

theorem trans (h : AfterReads k w w') (h' : AfterReads k w' w'') : AfterReads k w w'' := by
  obtain ⟨n, hlog⟩ := h
  obtain ⟨n', hlog'⟩ := h'
  refine ⟨n' + n, ?_⟩
  rw [hlog', hlog, ← List.append_assoc, List.replicate_append_replicate]

theorem live_eq [DecidableEq κ] (h : AfterReads k w w') : live w'.log = live w.log := by
  obtain ⟨n, hlog⟩ := h
  rw [hlog, live_replicate_use]

theorem disciplined [DecidableEq κ] (h : AfterReads k w w') (hk : k ∈ live w.log)
    (hw : Disciplined w.log) : Disciplined w'.log := by
  obtain ⟨n, hlog⟩ := h
  rw [hlog]
  exact disciplined_replicate_use hw hk n

theorem count_eq [DecidableEq κ] (h : AfterReads k w w') {e : ResourceEvent κ}
    (he : e ≠ use k) : w'.log.count e = w.log.count e := by
  obtain ⟨n, hlog⟩ := h
  rw [hlog, count_replicate_use he]

end AfterReads

namespace Reads

variable {m : LentM κ σ α} {f : α → LentM κ σ β} {x : α} {y : β} {w' w'' : Lent κ σ}

theorem pure (k : κ) (x : α) (w : Lent κ σ) : Reads k (Pure.pure x) w x w := ⟨rfl, .refl k w⟩

theorem act (k : κ) (f : σ → σ × α) (w : Lent κ σ) :
    Reads k (act f) w (f w.state).2 { w with state := (f w.state).1 } := ⟨rfl, 0, rfl⟩

theorem read [DecidableEq κ] (hlive : k ∈ live w.log) (x : α) :
    Reads k (read k x) w x (w.record (use k)) :=
  ⟨by rw [exec_read, if_pos hlive], 1, rfl⟩

theorem exec_bind (h : Reads k m w x w') : exec (m >>= f) w = exec (f x) w' := by
  rw [LentM.exec_bind, h.1]

theorem bind (hm : Reads k m w x w') (hf : Reads k (f x) w' y w'') :
    Reads k (m >>= f) w y w'' :=
  ⟨hm.exec_bind.trans hf.1, hm.2.trans hf.2⟩

end Reads

end LentM

end Foundation
