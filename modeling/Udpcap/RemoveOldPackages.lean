import Udpcap.Foundation.EraseIterator
import Udpcap.IpReassembly
import Udpcap.SmallPcpp

/-!
# The loop over the timestamps

The loop of `removeOldPackages` with its iterator.  `erase` returns the iterator to the
following entry, and the loop header increments it once more.

## Main definitions

* `IpReassembly.loopStart`, `IpReassembly.LoopReaches` — the loop in execution.
* `IpReassembly.ExaminesAll` — it examines every entry once and stops at the end.

## Main results

* `removeOldPackages_loop` — `removeOldPackages` is what this loop computes.
* `examines_all_iff` — **the loop examines every entry exactly if none is expired.**
-/

namespace Udpcap

namespace IpReassembly

variable {R : Type} (api : IPReassembly R)

/-- The loop begins. -/
def loopStart (s : IpReassembly R) (env : ProcessEnv) : Foundation.EraseLoop R TimestampEntry :=
  .start s.ipReassembly (env.order.visit s.timestampMap.entries)

/-- One step of the loop; `none` when it has ended. -/
def loopStep (s : IpReassembly R) (env : ProcessEnv) :
    Foundation.EraseLoop R TimestampEntry → Option (Foundation.EraseLoop R TimestampEntry) :=
  Foundation.EraseLoop.step (isExpired s.maxPackageAge env.now)
    fun r e => api.removePacket r e.2.1

/-- The states that the loop gets to. -/
def LoopReaches (s : IpReassembly R) (env : ProcessEnv)
    (m : Foundation.EraseLoop R TimestampEntry) : Prop :=
  Foundation.EraseLoop.Reaches (isExpired s.maxPackageAge env.now)
    (fun r e => api.removePacket r e.2.1) (loopStart s env) m

/-- **`removeOldPackages` is what this loop computes**: it has undefined behaviour exactly
if the loop ends in a fault, and otherwise the packages are those that the loop has left. -/
theorem removeOldPackages_loop (s : IpReassembly R) (env : ProcessEnv) :
    ∃ m, LoopReaches api s env m ∧ loopStep api s env m = none ∧
      (afterLoop api s env).ipReassembly = m.state ∧
      (afterLoop api s env).timestampMap.entries = m.behind ∧
      ((∃ u, removeOldPackages api s env = .error u) ↔ m.pc = .fault) := by
  refine ⟨_, Foundation.reaches_sweep _ _ _ _ _ _ _, Foundation.step_outcome _ _ _, rfl, rfl, ?_⟩
  show _ ↔ (if (removeOldLoop api s env).pastEnd = true then Foundation.LoopPc.fault
    else Foundation.LoopPc.done) = .fault
  unfold removeOldPackages
  simp only
  cases (removeOldLoop api s env).pastEnd with
  | true =>
    rw [if_pos rfl, if_pos rfl]
    exact iff_of_true ⟨_, rfl⟩ rfl
  | false =>
    rw [if_neg Bool.false_ne_true, if_neg Bool.false_ne_true]
    constructor
    · rintro ⟨u, hu⟩
      cases hu
    · intro hpc
      cases hpc

/-- The loop terminates, it never increments or dereferences the end iterator, and it
examines every entry that was in the map at its start exactly once. -/
structure ExaminesAll (s : IpReassembly R) (env : ProcessEnv) : Prop where
  terminates : ∃ m, LoopReaches api s env m ∧ loopStep api s env m = none
  safe : ∀ m, LoopReaches api s env m → m.pc ≠ .fault
  visited_perm : ∀ m, LoopReaches api s env m → loopStep api s env m = none →
    m.visited.Perm s.timestampMap.entries

theorem examinesAll_iff_visitsAll {s : IpReassembly R} {env : ProcessEnv} :
    ExaminesAll api s env ↔ Foundation.VisitsAll (isExpired s.maxPackageAge env.now)
      (fun r e => api.removePacket r e.2.1) s.ipReassembly
      (env.order.visit s.timestampMap.entries) := by
  have hvisit := env.order.visit_perm s.timestampMap.entries
  constructor
  · intro h
    exact ⟨h.terminates, h.safe, fun m hm hend => (h.visited_perm m hm hend).trans hvisit.symm⟩
  · intro h
    exact ⟨h.terminates, h.safe, fun m hm hend => (h.visited_perm m hm hend).trans hvisit⟩

/-- A loop that runs past the end does not examine every entry once. -/
theorem faults_of_pastEnd {s : IpReassembly R} {env : ProcessEnv}
    (h : (removeOldLoop api s env).pastEnd = true) :
    (∃ m, LoopReaches api s env m ∧ m.pc = .fault) ∧ ¬ExaminesAll api s env := by
  have hfault : ∃ m, LoopReaches api s env m ∧ m.pc = .fault :=
    ⟨_, Foundation.reaches_sweep _ _ _ _ _ _ _, if_pos h⟩
  refine ⟨hfault, ?_⟩
  intro hall
  obtain ⟨m, hm, hpc⟩ := hfault
  exact hall.safe m hm hpc

end IpReassembly

open IpReassembly

/-- **The loop of `removeOldPackages` examines every entry exactly if none is expired**,
whatever the order in which the map iterates: after an expired entry it skips the next one,
or increments the end iterator. -/
theorem examines_all_iff {R : Type} (api : IPReassembly R) (s : IpReassembly R) (env : ProcessEnv) :
    ExaminesAll api s env ↔
      ∀ e ∈ s.timestampMap.entries, isExpired s.maxPackageAge env.now e = false := by
  rw [examinesAll_iff_visitsAll, Foundation.visitsAll_iff]
  constructor
  · intro h e he
    exact h e ((env.order.visit_perm _).mem_iff.mpr he)
  · intro h e he
    exact h e ((env.order.visit_perm _).mem_iff.mp he)

/-- The only package has expired, and the loop increments the end iterator. -/
theorem expired_entry_faults :
    ∃ s out, IpReassembly.processPacket SmallPcpp.pcpp SmallPcpp.api
        (IpReassembly.create SmallPcpp.api 5 10) (.at 0 .oldestFirst)
        (SmallPcpp.parse .unknownProtocol (SmallPcpp.firstHalf 1)) = .ok (s, out) ∧
      (∃ m, LoopReaches SmallPcpp.api s (.at 10 .oldestFirst) m ∧ m.pc = .fault) ∧
      ¬ExaminesAll SmallPcpp.api s (.at 10 .oldestFirst) := by
  exact ⟨_, _, rfl, faults_of_pastEnd _ (by decide +kernel)⟩

end Udpcap
