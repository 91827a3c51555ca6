import Mathlib.Algebra.BigOperators.Group.Finset.Basic
import Mathlib.Data.Fintype.Basic
import Udpcap.Foundation.Locks
import Udpcap.Foundation.Transition

/-!
# Lock orders

Any number of threads take and release locks, as the functions say that they call.  Locks are
held for a scope, so the lock that is released is the one that was taken last.  If all functions
take their locks in one order, the threads cannot block each other for good.

## Main definitions

* `LockAction`, `withLock` — what a function does with locks.
* `Nested` — a function that consists of scopes and takes locks in the order of their ranks.
* `Locking`, `lockingStep` — the locks and the threads.
* `Locking.Live` — some thread goes on as long as there is something to do.

## Main results

* `Nested.keepsOrder` — a function in scopes keeps to the order, whatever is held already.
* `Locking.Consistent.exists_goesOn` — **a thread that waits, waits for one that can go on.**
* `Locking.live_of_nested` — **functions that take locks in one order never deadlock.**
-/

namespace Foundation

variable {θ Λ κ : Type}

/-! ### Functions -/

/-- How a lock is taken; a mutex is only taken alone. -/
inductive LockMode
  | shared
  | unique
  deriving DecidableEq, Repr

/-- What a thread does with locks. -/
inductive LockAction (Λ : Type)
  | lock (mode : LockMode) (l : Λ)
  /-- Release the lock that was taken last. -/
  | unlock
  deriving DecidableEq, Repr

/-- The locks that a thread holds, the last one first. -/
abbrev LockStack (Λ : Type) := List (LockMode × Λ)

/-- A lock that is held for a scope. -/
def withLock (mode : LockMode) (l : Λ) (body : List (LockAction Λ)) : List (LockAction Λ) :=
  .lock mode l :: (body ++ [.unlock])

/-- A function that consists of scopes: it takes no lock of a rank below `n`, and within the
scope of a lock only locks of higher ranks. -/
inductive Nested (rank : Λ → ℕ) : ℕ → List (LockAction Λ) → Prop
  | nil (n : ℕ) : Nested rank n []
  | cons {n : ℕ} {mode : LockMode} {l : Λ} {body rest : List (LockAction Λ)} (hl : n ≤ rank l)
    (hbody : Nested rank (rank l + 1) body) (hrest : Nested rank n rest) :
    Nested rank n (withLock mode l body ++ rest)

/-- What is left of a function keeps to the order, given the locks that are held. -/
def KeepsOrder (rank : Λ → ℕ) : LockStack Λ → List (LockAction Λ) → Prop
  | held, [] => held = []
  | held, .lock mode l :: rest =>
    (∀ h ∈ held, rank h.2 < rank l) ∧ KeepsOrder rank ((mode, l) :: held) rest
  | [], .unlock :: _ => False
  | _ :: held, .unlock :: rest => KeepsOrder rank held rest

section Functions

variable {rank : Λ → ℕ} {n : ℕ}

theorem Nested.append {p q : List (LockAction Λ)} (hp : Nested rank n p) (hq : Nested rank n q) :
    Nested rank n (p ++ q) := by
  induction hp with
  | nil => exact hq
  | cons hl hbody hrest _ ih =>
    rw [List.append_assoc]
    exact .cons hl hbody (ih hq)

theorem Nested.single {mode : LockMode} {l : Λ} {body : List (LockAction Λ)} (hl : n ≤ rank l)
    (hbody : Nested rank (rank l + 1) body) : Nested rank n (withLock mode l body) := by
  rw [← List.append_nil (withLock mode l body)]
  exact .cons hl hbody (.nil n)

theorem Nested.replicate {p : List (LockAction Λ)} (hp : Nested rank n p) (k : ℕ) :
    Nested rank n (List.replicate k p).flatten := by
  induction k with
  | zero => exact .nil n
  | succ k ih =>
    rw [List.replicate_succ, List.flatten_cons]
    exact hp.append ih

/-- **A function in scopes keeps to the order, whatever is held already**, if what comes after
it does. -/
theorem Nested.keepsOrder {p q : List (LockAction Λ)} {held : LockStack Λ}
    (hp : Nested rank n p) (hheld : ∀ h ∈ held, rank h.2 < n) (hq : KeepsOrder rank held q) :
    KeepsOrder rank held (p ++ q) := by
  induction hp generalizing held q with
  | nil => exact hq
  | @cons n mode l body rest hl _ _ ihbody ihrest =>
    have hbelow : ∀ h ∈ held, rank h.2 < rank l := fun h hh => lt_of_lt_of_le (hheld h hh) hl
    have htop : ∀ h ∈ (mode, l) :: held, rank h.2 < rank l + 1 := by
      intro h hh
      rcases List.mem_cons.mp hh with rfl | hh
      · exact Nat.lt_succ_self _
      · exact (hbelow h hh).trans (Nat.lt_succ_self _)
    have hshape : withLock mode l body ++ rest ++ q =
        .lock mode l :: (body ++ (.unlock :: (rest ++ q))) := by
      simp [withLock]
    rw [hshape]
    exact ⟨hbelow, ihbody htop (ihrest hheld hq)⟩

end Functions

/-! ### Threads -/

/-- The locks that a thread holds, and what is left of the function that it has called. -/
structure LockThread (Λ : Type) where
  held : LockStack Λ
  rest : List (LockAction Λ)

/-- The locks and the threads. -/
structure Locking (θ Λ : Type) where
  locks : Λ → SharedMutex θ
  threads : θ → LockThread Λ

inductive LockLabel (θ κ : Type)
  /-- A thread calls a function. -/
  | call (t : θ) (c : κ)
  /-- A thread takes or releases a lock. -/
  | step (t : θ)
  deriving DecidableEq, Repr

theorem SharedMutex.HoldsUnique.eq {m : SharedMutex θ} {t t' : θ} (h : m.HoldsUnique t)
    (h' : m.HoldsUnique t') : t = t' := by
  cases m with
  | shared owners => exact h.elim
  | unique owner => exact h.symm.trans h'

namespace Locking

/-- All locks are free, and no thread is in a function. -/
def start : Locking θ Λ := ⟨fun _ => .free, fun _ => ⟨[], []⟩⟩

/-- The locks are held as the threads say, and the threads keep to the order. -/
structure Consistent (rank : Λ → ℕ) (s : Locking θ Λ) : Prop where
  shared : ∀ t l, (s.locks l).HoldsShared t ↔ (.shared, l) ∈ (s.threads t).held
  unique : ∀ t l, (s.locks l).HoldsUnique t ↔ (.unique, l) ∈ (s.threads t).held
  keepsOrder : ∀ t, KeepsOrder rank (s.threads t).held (s.threads t).rest
  /-- No lock is held twice. -/
  ranked : ∀ t, (s.threads t).held.Pairwise fun g h => rank h.2 < rank g.2

theorem consistent_start (rank : Λ → ℕ) : (start : Locking θ Λ).Consistent rank where
  shared := fun t _ => iff_of_false (SharedMutex.not_holdsShared_free t) List.not_mem_nil
  unique := fun t _ => iff_of_false (SharedMutex.not_holdsUnique_free t) List.not_mem_nil
  keepsOrder := fun _ => rfl
  ranked := fun _ => List.Pairwise.nil

/-- A thread whose function has returned holds no lock. -/
theorem Consistent.released {rank : Λ → ℕ} {s : Locking θ Λ} (hs : s.Consistent rank)
    {t : θ} (hidle : (s.threads t).rest = []) (l : Λ) :
    ¬(s.locks l).HoldsShared t ∧ ¬(s.locks l).HoldsUnique t := by
  have hkeeps := hs.keepsOrder t
  rw [hidle] at hkeeps
  have hempty : (s.threads t).held = [] := hkeeps
  rw [hs.shared, hs.unique, hempty]
  exact ⟨List.not_mem_nil, List.not_mem_nil⟩

variable [DecidableEq θ]

def setThread (s : Locking θ Λ) (t : θ) (x : LockThread Λ) : Locking θ Λ :=
  { s with threads := Function.update s.threads t x }

@[simp] theorem setThread_self (s : Locking θ Λ) (t : θ) (x : LockThread Λ) :
    (s.setThread t x).threads t = x := Function.update_self ..

@[simp] theorem setThread_of_ne (s : Locking θ Λ) {t t' : θ} (h : t' ≠ t) (x : LockThread Λ) :
    (s.setThread t x).threads t' = s.threads t' := Function.update_of_ne h ..

variable {rank : Λ → ℕ} {s : Locking θ Λ} {t : θ} {l : Λ} {x : LockThread Λ}

theorem not_mem_setThread {h : LockMode × Λ} (hx : h ∈ x.held → h ∈ (s.threads t).held) {t' : θ}
    (hnot : h ∉ (s.threads t').held) : h ∉ ((s.setThread t x).threads t').held := by
  by_cases ht : t' = t
  · subst ht
    rw [setThread_self]
    exact mt hx hnot
  · rw [setThread_of_ne s ht]
    exact hnot

/-- A function that keeps to the order is called. -/
theorem Consistent.call (hs : s.Consistent rank) {p : List (LockAction Λ)}
    (hidle : (s.threads t).rest = []) (hp : Nested rank 0 p) :
    (s.setThread t ⟨(s.threads t).held, p⟩).Consistent rank := by
  have hheld : (s.threads t).held = [] := by
    have hkeeps := hs.keepsOrder t
    rw [hidle] at hkeeps
    exact hkeeps
  have hsame : ∀ t', ((s.setThread t ⟨(s.threads t).held, p⟩).threads t').held =
      (s.threads t').held := by
    intro t'
    by_cases ht : t' = t
    · subst ht
      simp
    · simp [ht]
  refine ⟨fun t' l => ?_, fun t' l => ?_, fun t' => ?_, fun t' => ?_⟩
  · rw [hsame]
    exact hs.shared t' l
  · rw [hsame]
    exact hs.unique t' l
  · by_cases ht : t' = t
    · subst ht
      rw [setThread_self, hheld]
      have hkeeps : KeepsOrder rank [] (p ++ []) := hp.keepsOrder (by simp) rfl
      rwa [List.append_nil] at hkeeps
    · rw [setThread_of_ne s ht]
      exact hs.keepsOrder t'
  · rw [hsame]
    exact hs.ranked t'

variable [DecidableEq Λ]

/-- A thread takes or releases a lock. -/
def setLock (s : Locking θ Λ) (t : θ) (l : Λ) (lock : SharedMutex θ) (x : LockThread Λ) :
    Locking θ Λ :=
  { s.setThread t x with locks := Function.update s.locks l lock }

/-- A thread that keeps to the order takes or releases a lock. -/
theorem Consistent.setLock (hs : s.Consistent rank) {lock : SharedMutex θ}
    (hshared : ∀ t', lock.HoldsShared t' ↔ (.shared, l) ∈ ((s.setThread t x).threads t').held)
    (hunique : ∀ t', lock.HoldsUnique t' ↔ (.unique, l) ∈ ((s.setThread t x).threads t').held)
    (hother : ∀ mode l', l' ≠ l → ((mode, l') ∈ x.held ↔ (mode, l') ∈ (s.threads t).held))
    (hkeeps : KeepsOrder rank x.held x.rest)
    (hranked : x.held.Pairwise fun g h => rank h.2 < rank g.2) :
    (s.setLock t l lock x).Consistent rank := by
  have hsame : ∀ mode l' t', l' ≠ l →
      ((mode, l') ∈ ((s.setThread t x).threads t').held ↔ (mode, l') ∈ (s.threads t').held) := by
    intro mode l' t' hl
    by_cases ht : t' = t
    · subst ht
      rw [setThread_self]
      exact hother mode l' hl
    · rw [setThread_of_ne s ht]
  refine ⟨fun t' l' => ?_, fun t' l' => ?_, fun t' => ?_, fun t' => ?_⟩
  · by_cases hl : l' = l
    · subst hl
      simpa [Locking.setLock] using hshared t'
    · have hlock : (s.setLock t l lock x).locks l' = s.locks l' := Function.update_of_ne hl ..
      rw [hlock, hs.shared]
      exact (hsame _ l' t' hl).symm
  · by_cases hl : l' = l
    · subst hl
      simpa [Locking.setLock] using hunique t'
    · have hlock : (s.setLock t l lock x).locks l' = s.locks l' := Function.update_of_ne hl ..
      rw [hlock, hs.unique]
      exact (hsame _ l' t' hl).symm
  · by_cases ht : t' = t
    · subst ht
      simpa [Locking.setLock] using hkeeps
    · simpa [Locking.setLock, ht] using hs.keepsOrder t'
  · by_cases ht : t' = t
    · subst ht
      simpa [Locking.setLock] using hranked
    · simpa [Locking.setLock, ht] using hs.ranked t'

/-- A lock is taken. -/
theorem Consistent.lock (hs : s.Consistent rank) {mode : LockMode}
    {rest : List (LockAction Λ)} {lock : SharedMutex θ}
    (hrest : (s.threads t).rest = .lock mode l :: rest)
    (hshared : mode = .shared → (s.locks l).lockShared t = some lock)
    (hunique : mode = .unique → (s.locks l).lock t = some lock) :
    (s.setLock t l lock ⟨(mode, l) :: (s.threads t).held, rest⟩).Consistent rank := by
  have hkeeps := hs.keepsOrder t
  rw [hrest] at hkeeps
  refine hs.setLock ?_ ?_ ?_ hkeeps.2 (List.pairwise_cons.mpr ⟨hkeeps.1, hs.ranked t⟩)
  · intro t'
    cases mode with
    | shared =>
      rw [(SharedMutex.lockShared_spec (hshared rfl) t').1, hs.shared]
      by_cases ht : t' = t
      · subst ht
        simp
      · simp [ht]
    | unique =>
      have hspec := SharedMutex.lock_spec (hunique rfl) t'
      exact iff_of_false hspec.2.2.2
        (not_mem_setThread (by simp) (mt (hs.shared t' l).mpr hspec.2.1))
  · intro t'
    cases mode with
    | shared =>
      have hspec := SharedMutex.lockShared_spec (hshared rfl) t'
      exact iff_of_false hspec.2.2
        (not_mem_setThread (by simp) (mt (hs.unique t' l).mpr hspec.2.1))
    | unique =>
      have hspec := SharedMutex.lock_spec (hunique rfl) t'
      rw [hspec.1]
      by_cases ht : t' = t
      · subst ht
        simp
      · have hnot := mt (hs.unique t' l).mpr hspec.2.2.1
        simpa [ht, Ne.symm ht] using hnot
  · intro mode' l' hl
    simp [hl]

/-- The lock that was taken last is released. -/
theorem Consistent.unlock (hs : s.Consistent rank) {mode : LockMode} {held : LockStack Λ}
    {rest : List (LockAction Λ)} {lock : SharedMutex θ}
    (hheld : (s.threads t).held = (mode, l) :: held) (hrest : (s.threads t).rest = .unlock :: rest)
    (hshared : mode = .shared → (s.locks l).unlockShared t = lock)
    (hunique : mode = .unique → (s.locks l).unlock = lock) :
    (s.setLock t l lock ⟨held, rest⟩).Consistent rank := by
  have hkeeps := hs.keepsOrder t
  have hranked := hs.ranked t
  rw [hheld] at hranked
  rw [hheld, hrest] at hkeeps
  have hmem : (mode, l) ∈ (s.threads t).held := by
    rw [hheld]
    exact List.mem_cons_self
  have hbelow : ∀ h, h ∈ held → h ∈ (s.threads t).held := by
    intro h hh
    rw [hheld]
    exact List.mem_cons_of_mem _ hh
  -- the lock is not held a second time
  have hgone : ∀ mode', (mode', l) ∉ held := by
    intro mode' h
    have hlt := (List.pairwise_cons.mp hranked).1 _ h
    exact lt_irrefl _ hlt
  refine hs.setLock ?_ ?_ ?_ hkeeps (List.pairwise_cons.mp hranked).2
  · intro t'
    cases mode with
    | shared =>
      have hholds : (s.locks l).HoldsShared t := (hs.shared t l).mpr hmem
      rw [← hshared rfl, (SharedMutex.unlockShared_spec hholds t').1, hs.shared]
      by_cases ht : t' = t
      · subst ht
        simp [hgone]
      · simp [ht]
    | unique =>
      have hholds : (s.locks l).HoldsUnique t := (hs.unique t l).mpr hmem
      rw [← hunique rfl]
      exact iff_of_false (SharedMutex.not_holdsShared_free t')
        (not_mem_setThread (hbelow _)
          (mt (hs.shared t' l).mpr (SharedMutex.not_holdsShared_of_holdsUnique hholds t')))
  · intro t'
    cases mode with
    | shared =>
      have hholds : (s.locks l).HoldsShared t := (hs.shared t l).mpr hmem
      have hspec := SharedMutex.unlockShared_spec hholds t'
      rw [← hshared rfl]
      exact iff_of_false hspec.2.2
        (not_mem_setThread (hbelow _) (mt (hs.unique t' l).mpr hspec.2.1))
    | unique =>
      have hholds : (s.locks l).HoldsUnique t := (hs.unique t l).mpr hmem
      rw [← hunique rfl]
      refine iff_of_false (SharedMutex.not_holdsUnique_free t') ?_
      by_cases ht : t' = t
      · subst ht
        simp [hgone]
      · rw [setThread_of_ne s ht, ← hs.unique]
        exact fun h => ht (h.eq hholds)
  · intro mode' l' hl
    rw [hheld]
    simp [hl]

/-- A thread waits to take a lock alone, or is about to. -/
def AwaitsUnique (s : Locking θ Λ) (l : Λ) : Prop :=
  ∃ t, (s.threads t).rest.head? = some (.lock .unique l)

instance [Fintype θ] (s : Locking θ Λ) (l : Λ) : Decidable (s.AwaitsUnique l) := by
  unfold AwaitsUnique
  infer_instance

end Locking

/-! ### Steps -/

variable [DecidableEq θ] [DecidableEq Λ] [Fintype θ]

/-- One step of the threads, where `body` is what the functions do with locks; `none` when the
thread has to wait.  With `preferWriters`, a thread that waits to take a lock alone keeps
others out. -/
def lockingStep (preferWriters : Bool) (body : κ → List (LockAction Λ)) (s : Locking θ Λ) :
    LockLabel θ κ → Option (Locking θ Λ)
  | .call t c =>
    if (s.threads t).rest = [] then some (s.setThread t ⟨(s.threads t).held, body c⟩) else none
  | .step t =>
    match (s.threads t).held, (s.threads t).rest with
    | held, .lock .shared l :: rest =>
      if preferWriters ∧ s.AwaitsUnique l then none
      else
        ((s.locks l).lockShared t).map fun lock => s.setLock t l lock ⟨(.shared, l) :: held, rest⟩
    | held, .lock .unique l :: rest =>
      ((s.locks l).lock t).map fun lock => s.setLock t l lock ⟨(.unique, l) :: held, rest⟩
    | (.shared, l) :: held, .unlock :: rest =>
      some (s.setLock t l ((s.locks l).unlockShared t) ⟨held, rest⟩)
    | (.unique, l) :: held, .unlock :: rest => some (s.setLock t l (s.locks l).unlock ⟨held, rest⟩)
    | _, _ => none

variable {preferWriters : Bool} {body : κ → List (LockAction Λ)} {s s' : Locking θ Λ}

/-- What a step of a thread is. -/
theorem lockingStep_cases {a : LockLabel θ κ} (h : lockingStep preferWriters body s a = some s') :
    (∃ t c, a = .call t c ∧ (s.threads t).rest = [] ∧
        s' = s.setThread t ⟨(s.threads t).held, body c⟩) ∨
      (∃ t mode l rest lock, a = .step t ∧ (s.threads t).rest = .lock mode l :: rest ∧
        s' = s.setLock t l lock ⟨(mode, l) :: (s.threads t).held, rest⟩ ∧
        (mode = .shared → (s.locks l).lockShared t = some lock) ∧
        (mode = .unique → (s.locks l).lock t = some lock)) ∨
      (∃ t mode l held rest lock, a = .step t ∧ (s.threads t).held = (mode, l) :: held ∧
        (s.threads t).rest = .unlock :: rest ∧ s' = s.setLock t l lock ⟨held, rest⟩ ∧
        (mode = .shared → (s.locks l).unlockShared t = lock) ∧
        (mode = .unique → (s.locks l).unlock = lock)) := by
  cases a with
  | call t c =>
    unfold lockingStep at h
    simp only at h
    split at h
    next hidle =>
      cases h
      exact Or.inl ⟨t, c, rfl, hidle, rfl⟩
    next => cases h
  | step t =>
    unfold lockingStep at h
    simp only at h
    split at h
    next hrest =>
      split at h
      next => cases h
      next =>
        obtain ⟨lock, hlock, rfl⟩ := Option.map_eq_some_iff.mp h
        exact Or.inr (Or.inl ⟨t, _, _, _, lock, rfl, hrest, rfl, fun _ => hlock, nofun⟩)
    next hrest =>
      obtain ⟨lock, hlock, rfl⟩ := Option.map_eq_some_iff.mp h
      exact Or.inr (Or.inl ⟨t, _, _, _, lock, rfl, hrest, rfl, nofun, fun _ => hlock⟩)
    next hheld hrest =>
      cases h
      exact Or.inr (Or.inr ⟨t, _, _, _, _, _, rfl, hheld, hrest, rfl, fun _ => rfl, nofun⟩)
    next hheld hrest =>
      cases h
      exact Or.inr (Or.inr ⟨t, _, _, _, _, _, rfl, hheld, hrest, rfl, nofun, fun _ => rfl⟩)
    next => cases h



namespace Locking

variable {rank : Λ → ℕ}

/-- **Every step keeps the invariant**, if all functions keep to the order. -/
theorem Consistent.step (hs : s.Consistent rank) (hbody : ∀ c, Nested rank 0 (body c))
    {a : LockLabel θ κ} (h : lockingStep preferWriters body s a = some s') :
    s'.Consistent rank := by
  rcases lockingStep_cases h with ⟨t, c, -, hidle, rfl⟩ |
    ⟨t, mode, l, rest, lock, -, hrest, rfl, hshared, hunique⟩ |
    ⟨t, mode, l, held, rest, lock, -, hheld, hrest, rfl, hshared, hunique⟩
  · exact hs.call hidle (hbody c)
  · exact hs.lock hrest hshared hunique
  · exact hs.unlock hheld hrest hshared hunique

/-! ### Who waits for whom -/

/-- A thread can take or release its next lock. -/
def GoesOn (preferWriters : Bool) (body : κ → List (LockAction Λ)) (s : Locking θ Λ) (t : θ) :
    Prop :=
  ∃ s', lockingStep preferWriters body s (.step t) = some s'

/-- A lock is always released at once. -/
theorem Consistent.goesOn_unlock (hs : s.Consistent rank) {t : θ} {rest : List (LockAction Λ)}
    (hrest : (s.threads t).rest = .unlock :: rest) : s.GoesOn preferWriters body t := by
  have hkeeps := hs.keepsOrder t
  unfold GoesOn lockingStep
  simp only [hrest] at hkeeps ⊢
  cases hheld : (s.threads t).held with
  | nil =>
    rw [hheld] at hkeeps
    exact hkeeps.elim
  | cons top held =>
    obtain ⟨mode, l⟩ := top
    cases mode <;> exact ⟨_, rfl⟩

/-- **What a thread waits for**: another one holds the lock, or waits to take it alone. -/
theorem Consistent.waitsFor (hs : s.Consistent rank) {t : θ} {mode : LockMode} {l : Λ}
    {rest : List (LockAction Λ)} (hrest : (s.threads t).rest = .lock mode l :: rest)
    (hwaits : ¬s.GoesOn preferWriters body t) :
    (∃ t' mode', (mode', l) ∈ (s.threads t').held) ∨ (mode = .shared ∧ s.AwaitsUnique l) := by
  have hnone : lockingStep preferWriters body s (.step t) = none := by
    cases hstep : lockingStep preferWriters body s (.step t) with
    | none => rfl
    | some s' => exact absurd ⟨s', hstep⟩ hwaits
  unfold lockingStep at hnone
  simp only [hrest] at hnone
  cases mode with
  | shared =>
    simp only at hnone
    split at hnone
    next hprefers => exact Or.inr ⟨rfl, hprefers.2⟩
    next =>
      obtain ⟨t', ht'⟩ := SharedMutex.lockShared_eq_none.mp (Option.map_eq_none_iff.mp hnone)
      exact Or.inl ⟨t', .unique, (hs.unique t' l).mp ht'⟩
  | unique =>
    rcases SharedMutex.lock_eq_none.mp (Option.map_eq_none_iff.mp hnone) with ⟨t', ht'⟩ | ⟨t', ht'⟩
    · exact Or.inl ⟨t', .unique, (hs.unique t' l).mp ht'⟩
    · exact Or.inl ⟨t', .shared, (hs.shared t' l).mp ht'⟩

/-- **A thread that waits, waits for one that can go on.** -/
theorem Consistent.exists_goesOn (hs : s.Consistent rank) {bound : ℕ}
    (hbound : ∀ l, rank l ≤ bound) (n : ℕ) :
    ∀ t mode l rest, (s.threads t).rest = .lock mode l :: rest → bound - rank l = n →
      ∃ t', s.GoesOn preferWriters body t' := by
  induction n using Nat.strong_induction_on with
  | _ n ih =>
  intro t mode l rest hrest hn
  -- who holds a lock releases it next, or wants one of a higher rank
  have hholder : ∀ t' mode', (mode', l) ∈ (s.threads t').held →
      ∃ t'', s.GoesOn preferWriters body t'' := by
    intro t' mode' hmem
    have hkeeps := hs.keepsOrder t'
    cases hrest' : (s.threads t').rest with
    | nil =>
      rw [hrest'] at hkeeps
      have hempty : (s.threads t').held = [] := hkeeps
      rw [hempty] at hmem
      cases hmem
    | cons action rest' =>
      cases action with
      | unlock => exact ⟨t', hs.goesOn_unlock hrest'⟩
      | lock mode'' l' =>
        rw [hrest'] at hkeeps
        have hlt : rank l < rank l' := hkeeps.1 _ hmem
        have hle := hbound l'
        exact ih (bound - rank l') (by omega) t' mode'' l' rest' hrest' rfl
  by_cases hgoes : s.GoesOn preferWriters body t
  · exact ⟨t, hgoes⟩
  · rcases hs.waitsFor hrest hgoes with ⟨t', mode', hmem⟩ | ⟨-, t', ht'⟩
    · exact hholder t' mode' hmem
    · -- the one that wants the lock alone goes on, or the lock is held
      by_cases hgoes' : s.GoesOn preferWriters body t'
      · exact ⟨t', hgoes'⟩
      · obtain ⟨rest', hrest'⟩ := List.head?_eq_some_iff.mp ht'
        rcases hs.waitsFor hrest' hgoes' with ⟨t'', mode', hmem⟩ | ⟨hshared, -⟩
        · exact hholder t'' mode' hmem
        · cases hshared

/-! ### Nobody waits for good -/

/-- How much is left of the functions that were called. -/
def work (s : Locking θ Λ) : ℕ := ∑ t, (s.threads t).rest.length

/-- Some thread goes on as long as there is something to do, and that ends. -/
structure Live (preferWriters : Bool) (body : κ → List (LockAction Λ)) (s : Locking θ Λ) :
    Prop where
  /-- Unless all functions have returned, some thread can go on. -/
  progress : (∃ t, (s.threads t).rest ≠ []) → ∃ t, s.GoesOn preferWriters body t
  /-- Whatever the order in which the threads go on, the functions return in the end. -/
  bounded : ∀ (ts : List θ) s', run (lockingStep preferWriters body) s (ts.map .step) = some s' →
    ts.length + s'.work = s.work
  /-- A thread whose function has returned holds no lock. -/
  released : ∀ t, (s.threads t).rest = [] →
    ∀ l, ¬(s.locks l).HoldsShared t ∧ ¬(s.locks l).HoldsUnique t

theorem Consistent.progress (hs : s.Consistent rank) {bound : ℕ} (hbound : ∀ l, rank l ≤ bound)
    (h : ∃ t, (s.threads t).rest ≠ []) : ∃ t, s.GoesOn preferWriters body t := by
  obtain ⟨t, hne⟩ := h
  obtain ⟨action, rest, hrest⟩ := List.exists_cons_of_ne_nil hne
  cases action with
  | unlock => exact ⟨t, hs.goesOn_unlock hrest⟩
  | lock mode l => exact hs.exists_goesOn hbound (bound - rank l) t mode l rest hrest rfl

/-- A thread that goes on leaves one thing less to do. -/
theorem work_step {t : θ} (h : lockingStep preferWriters body s (.step t) = some s') :
    s'.work + 1 = s.work := by
  have hthreads : ∃ held action rest, (s.threads t).rest = action :: rest ∧
      s'.threads = Function.update s.threads t ⟨held, rest⟩ := by
    rcases lockingStep_cases h with ⟨t', c, heq, -⟩ |
      ⟨t', mode, l, rest, lock, heq, hrest, rfl, -⟩ |
      ⟨t', mode, l, held, rest, lock, heq, -, hrest, rfl, -⟩
    · cases heq
    · cases heq
      exact ⟨_, _, rest, hrest, rfl⟩
    · cases heq
      exact ⟨_, _, rest, hrest, rfl⟩
  obtain ⟨held, action, rest, hrest, hthreads⟩ := hthreads
  have hothers : ∀ t' ∈ Finset.univ.erase t, (s'.threads t').rest.length =
      (s.threads t').rest.length := by
    intro t' ht'
    rw [hthreads, Function.update_of_ne (Finset.ne_of_mem_erase ht')]
  have hself : (s'.threads t).rest.length + 1 = (s.threads t).rest.length := by
    rw [hthreads, Function.update_self, hrest, List.length_cons]
  unfold work
  rw [← Finset.add_sum_erase _ _ (Finset.mem_univ t), Finset.sum_congr rfl hothers,
    ← Finset.add_sum_erase _ (fun t => (s.threads t).rest.length) (Finset.mem_univ t)]
  omega

theorem work_run {ts : List θ}
    (h : run (lockingStep preferWriters body) s (ts.map .step) = some s') :
    ts.length + s'.work = s.work := by
  induction ts generalizing s with
  | nil =>
    cases h
    exact Nat.zero_add _
  | cons t ts ih =>
    rw [List.map_cons] at h
    obtain ⟨s₁, hs₁, hrun⟩ := run_cons_eq_some.mp h
    have hrest := ih hrun
    have hstep := work_step hs₁
    rw [List.length_cons]
    omega

theorem Consistent.live (hs : s.Consistent rank) {bound : ℕ} (hbound : ∀ l, rank l ≤ bound)
    (preferWriters : Bool) (body : κ → List (LockAction Λ)) : s.Live preferWriters body where
  progress := hs.progress hbound
  bounded := fun _ _ hrun => work_run hrun
  released := fun _ hidle l => hs.released hidle l

/-- **Functions that take locks in one order never deadlock**, whatever threads call them. -/
theorem live_of_nested {bound : ℕ} (hbound : ∀ l, rank l ≤ bound)
    (hbody : ∀ c, Nested rank 0 (body c)) (preferWriters : Bool) (labels : List (LockLabel θ κ)) :
    HoldsAlong (lockingStep preferWriters body) (Live preferWriters body) start labels :=
  holdsAlong_of_invariant (I := Consistent rank) (fun _ hs => hs.live hbound preferWriters body)
    (fun _ _ _ hs hst => hs.step hbody hst) (consistent_start rank)

end Locking

end Foundation
