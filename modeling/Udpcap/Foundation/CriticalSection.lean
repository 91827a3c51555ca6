import Mathlib.Logic.Function.Basic
import Udpcap.Foundation.Locks
import Udpcap.Foundation.Refinement

/-!
# Critical sections

Functions that work on a shared state in many small accesses, and do so under one mutex.
Any number of threads may call them; their accesses interleave as the mutex lets them.

## Main definitions

* `Prog` — a program that reads and writes the shared state, access by access.
* `Guarded`, `guardedStep` — threads that call programs under a mutex.
* `atomicStep` — the specification: a call takes effect at once, when it returns.

## Main results

* `exec_bind` — one program after another.
* `guarded_atomic` — **linearizability**: whatever the threads see of each other, they also
  see when every call takes effect at once.
-/

namespace Foundation

/-! ### Programs -/

/-- A program over a shared state: it has a result, or it accesses the state, writing what
it makes of it, and goes on with what it has read. -/
inductive Prog (σ ρ : Type)
  | done (result : ρ)
  | access (write : σ → σ) (next : σ → Prog σ ρ)

namespace Prog

variable {σ ρ ρ' : Type}

/-- The whole program, without interruption. -/
def exec : Prog σ ρ → σ → σ × ρ
  | .done result, s => (s, result)
  | .access write next, s => exec (next s) (write s)

/-- One program after another. -/
def bind : Prog σ ρ → (ρ → Prog σ ρ') → Prog σ ρ'
  | .done result, q => q result
  | .access write next, q => .access write fun s => bind (next s) q

/-- Reads the state. -/
def read (f : σ → ρ) : Prog σ ρ := .access id fun s => .done (f s)

/-- Writes the state. -/
def write (f : σ → σ) : Prog σ Unit := .access f fun _ => .done ()

@[simp] theorem exec_done (result : ρ) (s : σ) :
    (Prog.done result : Prog σ ρ).exec s = (s, result) :=
  rfl

@[simp] theorem exec_access (write : σ → σ) (next : σ → Prog σ ρ) (s : σ) :
    (Prog.access write next).exec s = (next s).exec (write s) := rfl

@[simp] theorem exec_read (f : σ → ρ) (s : σ) : (read f).exec s = (s, f s) := rfl

@[simp] theorem exec_write (f : σ → σ) (s : σ) : (write f).exec s = (f s, ()) := rfl

@[simp] theorem exec_ite (b : Prop) [Decidable b] (p q : Prog σ ρ) (s : σ) :
    (if b then p else q).exec s = if b then p.exec s else q.exec s := by
  split <;> rfl

@[simp] theorem exec_bind (p : Prog σ ρ) (q : ρ → Prog σ ρ') (s : σ) :
    (p.bind q).exec s = (q (p.exec s).2).exec (p.exec s).1 := by
  induction p generalizing s with
  | done result => rfl
  | access write next ih => exact ih s (write s)

/-- A program that goes on with what it has read. -/
theorem exec_read_bind (f : σ → ρ) (q : ρ → Prog σ ρ') (s : σ) :
    ((read f).bind q).exec s = (q (f s)).exec s := rfl

theorem exec_write_bind (f : σ → σ) (q : Unit → Prog σ ρ') (s : σ) :
    ((write f).bind q).exec s = (q ()).exec (f s) := rfl

end Prog

/-! ### Threads -/

variable {θ κ σ ρ : Type}

/-- What a thread does. -/
inductive ThreadState (κ σ ρ : Type)
  | idle
  /-- It has called a function, and waits for the mutex. -/
  | waiting (c : κ)
  /-- It holds the mutex, and this is left of the function. -/
  | inside (c : κ) (rest : Prog σ ρ)

/-- The function that a thread has called and not returned from. -/
def ThreadState.pending : ThreadState κ σ ρ → Option κ
  | .idle => none
  | .waiting c => some c
  | .inside c _ => some c

/-- Threads that call functions under a mutex. -/
structure Guarded (θ κ σ ρ : Type) where
  shared : σ
  mutex : Mutex θ
  threads : θ → ThreadState κ σ ρ

/-- What a thread does next. -/
inductive GuardedLabel (θ κ : Type)
  | call (t : θ) (c : κ)
  | lock (t : θ)
  | access (t : θ)
  /-- The mutex is unlocked, and the function returns. -/
  | unlock (t : θ)

/-- What is seen of the threads. -/
inductive CallEvent (θ κ ρ : Type)
  | call (t : θ) (c : κ)
  | ret (t : θ) (result : ρ)
  deriving DecidableEq, Repr

variable [DecidableEq θ]

namespace Guarded

/-- All threads are idle. -/
def start (s : σ) : Guarded θ κ σ ρ := ⟨s, .free, fun _ => .idle⟩

def setThread (g : Guarded θ κ σ ρ) (t : θ) (x : ThreadState κ σ ρ) : Guarded θ κ σ ρ :=
  { g with threads := Function.update g.threads t x }

end Guarded

/-- One step of the threads, where `body` are the functions. -/
def guardedStep (body : κ → Prog σ ρ) (g : Guarded θ κ σ ρ) :
    GuardedLabel θ κ → Option (Guarded θ κ σ ρ × Option (CallEvent θ κ ρ))
  | .call t c =>
    match g.threads t with
    | .idle => some (g.setThread t (.waiting c), some (.call t c))
    | _ => none
  | .lock t =>
    match g.threads t with
    | .waiting c => (g.mutex.lock t).map fun mutex =>
        ({ g.setThread t (.inside c (body c)) with mutex := mutex }, none)
    | _ => none
  | .access t =>
    match g.threads t with
    | .inside c (.access write next) =>
      some ({ g.setThread t (.inside c (next g.shared)) with shared := write g.shared }, none)
    | _ => none
  | .unlock t =>
    match g.threads t with
    | .inside _ (.done result) =>
      some ({ g.setThread t .idle with mutex := g.mutex.unlock }, some (.ret t result))
    | _ => none

/-! ### The specification -/

/-- The shared state, and the calls that have not returned. -/
structure Atomic (θ κ σ : Type) where
  state : σ
  pending : θ → Option κ

/-- All threads are idle. -/
def Atomic.start (s : σ) : Atomic θ κ σ := ⟨s, fun _ => none⟩

/-- **The specification**: a call takes effect at once, when it returns. -/
inductive atomicStep (apply : κ → σ → σ × ρ) :
    Atomic θ κ σ → CallEvent θ κ ρ → Atomic θ κ σ → Prop
  | call (a : Atomic θ κ σ) (t : θ) (c : κ) (hidle : a.pending t = none) :
    atomicStep apply a (.call t c) { a with pending := Function.update a.pending t (some c) }
  | ret (a : Atomic θ κ σ) (t : θ) (c : κ) (hpending : a.pending t = some c) :
    atomicStep apply a (.ret t (apply c a.state).2)
      ⟨(apply c a.state).1, Function.update a.pending t none⟩

/-- How the specification reflects the threads: while a thread is inside, the rest of its
function leads to where the whole function leads from the state of the specification. -/
structure Guarded.Reflected (body : κ → Prog σ ρ) (g : Guarded θ κ σ ρ) (a : Atomic θ κ σ) :
    Prop where
  pending : ∀ t, (g.threads t).pending = a.pending t
  free : g.mutex.owner = none → g.shared = a.state
  inside : ∀ t, g.mutex.owner = some t →
    ∃ c rest, g.threads t = .inside c rest ∧ rest.exec g.shared = (body c).exec a.state
  owner : ∀ t c rest, g.threads t = .inside c rest → g.mutex.owner = some t

namespace Guarded.Reflected

variable {body : κ → Prog σ ρ} {g g' : Guarded θ κ σ ρ} {a : Atomic θ κ σ}

omit [DecidableEq θ] in
theorem start (s : σ) : (Guarded.start s : Guarded θ κ σ ρ).Reflected body (Atomic.start s) :=
  ⟨fun _ => rfl, fun _ => rfl, nofun, nofun⟩

theorem setThread_pending (h : g.Reflected body a) (t : θ) (x : ThreadState κ σ ρ) (t' : θ) :
    ((g.setThread t x).threads t').pending = Function.update a.pending t x.pending t' := by
  unfold Guarded.setThread
  by_cases ht : t' = t
  · subst ht
    simp
  · simp [ht, h.pending]

/-- **A step of the threads is a step of the specification, or not seen at all.** -/
theorem step (h : g.Reflected body a) {l : GuardedLabel θ κ} {b : Option (CallEvent θ κ ρ)}
    (hstep : guardedStep body g l = some (g', b)) :
    (b = none ∧ g'.Reflected body a) ∨
      ∃ e a', b = some e ∧ atomicStep (fun c s => (body c).exec s) a e a' ∧
        g'.Reflected body a' := by
  cases l with
  | call t c =>
    unfold guardedStep at hstep
    simp only at hstep
    split at hstep
    next hidle =>
      cases hstep
      have hnone : a.pending t = none := by rw [← h.pending, hidle]; rfl
      refine Or.inr ⟨_, _, rfl, .call a t c hnone, h.setThread_pending t _, h.free, ?_, ?_⟩
      · intro t' howner
        obtain ⟨c', rest, hinside, hrest⟩ := h.inside t' howner
        have hne : t' ≠ t := by
          rintro rfl
          rw [hidle] at hinside
          cases hinside
        exact ⟨c', rest, (Function.update_of_ne hne _ _).trans hinside, hrest⟩
      · intro t' c' rest hinside
        by_cases ht : t' = t
        · subst ht
          simp [Guarded.setThread] at hinside
        · have hother : g.threads t' = .inside c' rest := by
            simpa [Guarded.setThread, ht] using hinside
          exact h.owner t' c' rest hother
    next => cases hstep
  | lock t =>
    unfold guardedStep at hstep
    simp only at hstep
    split at hstep
    next c hwaiting =>
      obtain ⟨mutex, hlock, heq⟩ := Option.map_eq_some_iff.mp hstep
      cases heq
      obtain ⟨hfree, rfl⟩ := Mutex.lock_eq_some.mp hlock
      refine Or.inl ⟨rfl, ?_, nofun, ?_, ?_⟩
      · intro t'
        refine (h.setThread_pending t (.inside c (body c)) t').trans ?_
        have hpending : a.pending t = some c := by rw [← h.pending, hwaiting]; rfl
        by_cases ht : t' = t
        · subst ht
          simp [ThreadState.pending, hpending]
        · simp [ht]
      · rintro t' howner
        cases howner
        refine ⟨c, body c, Function.update_self .., ?_⟩
        exact congrArg (body c).exec (h.free hfree)
      · intro t' c' rest hinside
        by_cases ht : t' = t
        · rw [ht]
        · have hother : g.threads t' = .inside c' rest := by
            simpa [Guarded.setThread, ht] using hinside
          rw [h.owner t' c' rest hother] at hfree
          cases hfree
    next => cases hstep
  | access t =>
    unfold guardedStep at hstep
    simp only at hstep
    split at hstep
    next c write next hinside =>
      cases hstep
      have howner := h.owner t c _ hinside
      obtain ⟨c', rest, hinside', hrest⟩ := h.inside t howner
      rw [hinside] at hinside'
      cases hinside'
      refine Or.inl ⟨rfl, ?_, ?_, ?_, ?_⟩
      · intro t'
        refine (h.setThread_pending t (.inside c (next g.shared)) t').trans ?_
        have hpending : a.pending t = some c := by rw [← h.pending, hinside]; rfl
        by_cases ht : t' = t
        · subst ht
          simp [ThreadState.pending, hpending]
        · simp [ht]
      · intro hfree
        have hfree' : g.mutex.owner = none := hfree
        rw [howner] at hfree'
        cases hfree'
      · intro t' howner'
        have ht : t' = t := by
          have hsame : g.mutex.owner = some t' := howner'
          rw [howner] at hsame
          exact (Option.some.inj hsame).symm
        subst ht
        exact ⟨c, next g.shared, Function.update_self .., hrest⟩
      · intro t' c' rest' hinside'
        by_cases ht : t' = t
        · rw [ht]
          exact howner
        · have hother : g.threads t' = .inside c' rest' := by
            simpa [Guarded.setThread, ht] using hinside'
          exact h.owner t' c' rest' hother
    next => cases hstep
  | unlock t =>
    unfold guardedStep at hstep
    simp only at hstep
    split at hstep
    next c result hinside =>
      cases hstep
      have howner := h.owner t c _ hinside
      obtain ⟨c', rest, hinside', hrest⟩ := h.inside t howner
      rw [hinside] at hinside'
      cases hinside'
      have hpending : a.pending t = some c := by rw [← h.pending, hinside]; rfl
      have hstate : g.shared = ((body c).exec a.state).1 := congrArg Prod.fst hrest
      have hresult : result = ((body c).exec a.state).2 := congrArg Prod.snd hrest
      right
      refine ⟨_, ⟨((body c).exec a.state).1, Function.update a.pending t none⟩, rfl, ?_,
        h.setThread_pending t .idle, fun _ => hstate, nofun, ?_⟩
      · rw [hresult]
        exact .ret a t c hpending
      · intro t' c' rest' hinside'
        by_cases ht : t' = t
        · subst ht
          simp [Guarded.setThread] at hinside'
        · have hother : g.threads t' = .inside c' rest' := by
            simpa [Guarded.setThread, ht] using hinside'
          have hboth := h.owner t' c' rest' hother
          rw [howner] at hboth
          exact absurd (Option.some.inj hboth).symm ht
    next => cases hstep

end Guarded.Reflected

/-- **Linearizability.** Whatever is seen of any number of threads, the specification allows
it; and when no thread is inside, the shared state is that of the specification. -/
theorem guarded_atomic (body : κ → Prog σ ρ) (s : σ) {labels : List (GuardedLabel θ κ)}
    {g : Guarded θ κ σ ρ} {events : List (CallEvent θ κ ρ)}
    (h : observe (guardedStep body) (Guarded.start s) labels = some (g, events)) :
    ∃ a, Allows (atomicStep fun c s => (body c).exec s) (Atomic.start s) events a ∧
      (g.mutex.owner = none → g.shared = a.state) := by
  obtain ⟨a, hallows, hreflected⟩ := allows_of_simulation
    (R := fun (g : Guarded θ κ σ ρ) (a : Atomic θ κ σ) => g.Reflected body a)
    (fun _ _ _ _ _ hR hstep => hR.step hstep) (Guarded.Reflected.start s) h
  exact ⟨a, hallows, hreflected.free⟩

/-- An invariant of the calls holds of the specification after any events. -/
theorem atomic_invariant {apply : κ → σ → σ × ρ} {I : σ → Prop}
    (hI : ∀ c s, I s → I (apply c s).1) {a a' : Atomic θ κ σ} {events : List (CallEvent θ κ ρ)}
    (h : Allows (atomicStep apply) a events a') (ha : I a.state) : I a'.state := by
  induction h with
  | nil => exact ha
  | cons head tail ih =>
    apply ih
    cases head with
    | call t c hidle => exact ha
    | ret t c hpending => exact hI c _ ha

end Foundation
