import Mathlib.Data.Finset.Basic

/-!
# Locks

A mutex and a shared mutex, for threads of any type.  A lock is a state together with
partial operations: an operation that would have to wait is not enabled.

## Main definitions

* `Mutex`, `Mutex.lock`, `Mutex.unlock` — at most one thread holds a mutex.
* `SharedMutex` — held by any number of threads together or by one alone.
* `SharedMutex.HoldsShared`, `SharedMutex.HoldsUnique` — who holds it.

## Main results

* `SharedMutex.not_holdsShared_of_holdsUnique` — **who holds a shared mutex alone
  excludes all others.**
-/

namespace Foundation

variable {θ : Type*}

/-! ### Mutexes -/

/-- A mutex, with the thread that holds it. -/
structure Mutex (θ : Type*) where
  owner : Option θ
  deriving DecidableEq, Repr

namespace Mutex

/-- A mutex that nobody holds. -/
def free : Mutex θ := ⟨none⟩

def lock (m : Mutex θ) (t : θ) : Option (Mutex θ) := if m.owner.isSome then none else some ⟨some t⟩

def unlock (_ : Mutex θ) : Mutex θ := free

theorem lock_eq_some {m m' : Mutex θ} {t : θ} :
    m.lock t = some m' ↔ m.owner = none ∧ m' = ⟨some t⟩ := by
  unfold lock
  cases m.owner with
  | none =>
    constructor
    · intro h
      exact ⟨rfl, (Option.some.inj h).symm⟩
    · rintro ⟨-, rfl⟩
      rfl
  | some t' =>
    constructor
    · intro h
      cases h
    · rintro ⟨h, -⟩
      cases h

theorem lock_eq_none {m : Mutex θ} {t : θ} : m.lock t = none ↔ ∃ t', m.owner = some t' := by
  unfold lock
  cases m.owner <;> simp

end Mutex

/-! ### Shared mutexes -/

/-- A shared mutex; it cannot be held in both ways at once. -/
inductive SharedMutex (θ : Type*)
  /-- The threads that hold the mutex together; nobody does if there are none. -/
  | shared (owners : Finset θ)
  /-- The thread that holds the mutex alone. -/
  | unique (owner : θ)

namespace SharedMutex

/-- A shared mutex that nobody holds. -/
def free : SharedMutex θ := .shared ∅

def HoldsShared : SharedMutex θ → θ → Prop
  | .shared owners, t => t ∈ owners
  | .unique _, _ => False

def HoldsUnique : SharedMutex θ → θ → Prop
  | .shared _, _ => False
  | .unique owner, t => owner = t

/-- **Who holds a shared mutex alone excludes all others.** -/
theorem not_holdsShared_of_holdsUnique {m : SharedMutex θ} {t : θ} (h : m.HoldsUnique t) (t' : θ) :
    ¬m.HoldsShared t' := by
  cases m with
  | shared owners => exact h.elim
  | unique owner => exact id

theorem not_holdsShared_free (t : θ) : ¬(free : SharedMutex θ).HoldsShared t :=
  Finset.notMem_empty t

theorem not_holdsUnique_free (t : θ) : ¬(free : SharedMutex θ).HoldsUnique t := id

variable [DecidableEq θ]

def lockShared : SharedMutex θ → θ → Option (SharedMutex θ)
  | .shared owners, t => some (.shared (insert t owners))
  | .unique _, _ => none

def unlockShared : SharedMutex θ → θ → SharedMutex θ
  | .shared owners, t => .shared (owners.erase t)
  | .unique owner, _ => .unique owner

def lock : SharedMutex θ → θ → Option (SharedMutex θ)
  | .shared owners, t => if owners = ∅ then some (.unique t) else none
  | .unique _, _ => none

def unlock (_ : SharedMutex θ) : SharedMutex θ := free

/-- Locking in shared mode adds a thread to those that hold the mutex together. -/
theorem lockShared_spec {m m' : SharedMutex θ} {t : θ} (h : m.lockShared t = some m') (t' : θ) :
    (m'.HoldsShared t' ↔ t' = t ∨ m.HoldsShared t') ∧ ¬m.HoldsUnique t' ∧ ¬m'.HoldsUnique t' := by
  cases m with
  | shared owners =>
    cases h
    exact ⟨Finset.mem_insert, id, id⟩
  | unique owner => cases h

theorem unlockShared_spec {m : SharedMutex θ} {t : θ} (h : m.HoldsShared t) (t' : θ) :
    ((m.unlockShared t).HoldsShared t' ↔ t' ≠ t ∧ m.HoldsShared t') ∧ ¬m.HoldsUnique t' ∧
      ¬(m.unlockShared t).HoldsUnique t' := by
  cases m with
  | shared owners => exact ⟨Finset.mem_erase, id, id⟩
  | unique owner => exact h.elim

/-- Locking alone needs that nobody holds the mutex. -/
theorem lock_spec {m m' : SharedMutex θ} {t : θ} (h : m.lock t = some m') (t' : θ) :
    (m'.HoldsUnique t' ↔ t = t') ∧ ¬m.HoldsShared t' ∧ ¬m.HoldsUnique t' ∧ ¬m'.HoldsShared t' := by
  cases m with
  | shared owners =>
    unfold lock at h
    simp only at h
    split at h
    next hempty =>
      cases h
      subst hempty
      exact ⟨Iff.rfl, Finset.notMem_empty t', id, id⟩
    next => cases h
  | unique owner => cases h

theorem lockShared_eq_none {m : SharedMutex θ} {t : θ} :
    m.lockShared t = none ↔ ∃ t', m.HoldsUnique t' := by
  cases m with
  | shared owners => exact ⟨nofun, fun ⟨_, h⟩ => h.elim⟩
  | unique owner => exact ⟨fun _ => ⟨owner, rfl⟩, fun _ => rfl⟩

theorem lock_eq_none {m : SharedMutex θ} {t : θ} :
    m.lock t = none ↔ (∃ t', m.HoldsUnique t') ∨ ∃ t', m.HoldsShared t' := by
  cases m with
  | shared owners =>
    unfold lock
    simp only
    by_cases hempty : owners = ∅
    · subst hempty
      rw [if_pos rfl]
      constructor
      · nofun
      · rintro (⟨t', h⟩ | ⟨t', h⟩)
        · exact h.elim
        · exact absurd h (Finset.notMem_empty t')
    · rw [if_neg hempty]
      obtain ⟨t', ht'⟩ := Finset.nonempty_iff_ne_empty.mpr hempty
      exact ⟨fun _ => Or.inr ⟨t', ht'⟩, fun _ => rfl⟩
  | unique owner => exact ⟨fun _ => Or.inl ⟨owner, rfl⟩, fun _ => rfl⟩

end SharedMutex

end Foundation
