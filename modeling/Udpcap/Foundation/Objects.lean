import Udpcap.Foundation.LentMemory

/-!
# Objects on the heap

Computations that create and delete objects.  Objects are numbered in the order in which they
are created, so that no number is used twice.

## Main definitions

* `ObjectM` — the computations.
* `ObjectM.new`, `ObjectM.delete`, `ObjectM.use` — the operations.
* `Sound` — every object so far was created once, and used and deleted only while it existed.
* `Ends` — how a computation ends, and which objects exist then.

## Main results

* `Ends.new`, `Ends.use`, `Ends.delete`, `Ends.bind` — **the rules for `Ends`.**
-/

namespace Foundation

open ResourceEvent

/-- The state is the number of the next object. -/
abbrev ObjectM (α : Type) := LentM ℕ ℕ α

namespace ObjectM

/-- `new` -/
def new : ObjectM ℕ := do
  let k ← LentM.act fun n => (n + 1, n)
  LentM.lend k
  pure k

/-- `delete` -/
def delete (k : ℕ) : ObjectM Unit := LentM.giveBack k

/-- The object is read or written. -/
def use (k : ℕ) : ObjectM Unit := LentM.read k ()

/-- The object is used under a condition. -/
def useIf (b : Bool) (k : ℕ) : ObjectM Unit := if b then use k else pure ()

/-- The object is deleted under a condition. -/
def deleteIf (b : Bool) (k : ℕ) : ObjectM Unit := if b then delete k else pure ()

/-- Every object so far was created once, used and deleted only while it existed, and numbered
in order. -/
structure Sound (w : Lent ℕ ℕ) : Prop where
  disciplined : Disciplined w.log
  fresh : ∀ k, acquire k ∈ w.log → k < w.state

theorem sound_nil : Sound ⟨0, []⟩ := ⟨trivial, fun _ hk => absurd hk List.not_mem_nil⟩

theorem Sound.not_mem_live {w : Lent ℕ ℕ} (h : Sound w) : w.state ∉ live w.log := fun hlive =>
  Nat.lt_irrefl _ (h.fresh _ (Disciplined.acquire_mem hlive))

variable {α β : Type}

/-- From `w`, the computation returns `x`, and the objects `objects` exist then. -/
structure Ends (m : ObjectM α) (w : Lent ℕ ℕ) (x : α) (w' : Lent ℕ ℕ) (objects : List ℕ) :
    Prop where
  exec_eq : LentM.exec m w = (.ok x, w')
  sound : Sound w'
  live_eq : live w'.log = objects

namespace Ends

variable {m : ObjectM α} {f : α → ObjectM β} {w w' w'' : Lent ℕ ℕ} {x : α} {y : β}
  {objects objects' : List ℕ} {k : ℕ}

theorem pure (hw : Sound w) (x : α) : Ends (Pure.pure x) w x w (live w.log) :=
  ⟨rfl, hw, rfl⟩

/-- One computation after another. -/
theorem bind (hm : Ends m w x w' objects) (hf : Ends (f x) w' y w'' objects') :
    Ends (m >>= f) w y w'' objects' :=
  ⟨by rw [LentM.exec_bind, hm.exec_eq]; exact hf.exec_eq, hf.sound, hf.live_eq⟩

/-- **A new object** is none that exists. -/
theorem new (hw : Sound w) :
    Ends new w w.state ⟨w.state + 1, acquire w.state :: w.log⟩ (w.state :: live w.log) := by
  refine ⟨rfl, ⟨⟨fun h => Nat.lt_irrefl _ (hw.fresh _ h), hw.disciplined⟩, fun k hk => ?_⟩, rfl⟩
  rcases List.mem_cons.mp hk with hk | hk
  · cases hk
    exact Nat.lt_succ_self _
  · exact Nat.lt_succ_of_lt (hw.fresh k hk)

/-- **An object that exists is used.** -/
theorem use (hw : Sound w) (hk : k ∈ live w.log) :
    Ends (use k) w () (w.record (.use k)) (live w.log) := by
  refine ⟨?_, ⟨⟨hk, hw.disciplined⟩, fun k' hk' => hw.fresh k' ?_⟩, rfl⟩
  · show LentM.exec (LentM.read k ()) w = _
    rw [LentM.exec_read, if_pos hk]
  · simpa using hk'

/-- **An object that exists is deleted.** -/
theorem delete (hw : Sound w) (hk : k ∈ live w.log) :
    Ends (delete k) w () (w.record (release k)) ((live w.log).erase k) := by
  refine ⟨rfl, ⟨⟨hk, hw.disciplined⟩, fun k' hk' => hw.fresh k' ?_⟩, rfl⟩
  simpa using hk'

theorem useIf (hw : Sound w) (hk : k ∈ live w.log) (b : Bool) :
    ∃ w', Ends (useIf b k) w () w' (live w.log) := by
  cases b with
  | true => exact ⟨_, use hw hk⟩
  | false => exact ⟨_, pure hw ()⟩

theorem deleteIf (hw : Sound w) (hk : k ∈ live w.log) (b : Bool) :
    ∃ w', Ends (deleteIf b k) w () w' (if b then (live w.log).erase k else live w.log) := by
  cases b with
  | true => exact ⟨_, delete hw hk⟩
  | false => exact ⟨_, pure hw ()⟩

end Ends

end ObjectM

end Foundation
