import Mathlib.Data.List.Nodup

/-!
# Resources

A log of the acquisitions, uses and releases of resources, with the latest event
first, and the discipline that every resource is acquired once, used only while it is
live, and released at most once.

## Main definitions

* `ResourceEvent` — the events.
* `live` — the resources that have been acquired and not yet released.
* `Disciplined` — the discipline.

## Main results

* `Disciplined.mem_live` — **live means acquired and not released.**
* `Disciplined.after_release` — **a released resource does not occur again.**
-/

namespace Foundation

/-- An event in the life of a resource. -/
inductive ResourceEvent (κ : Type*)
  | acquire (k : κ)
  | use (k : κ)
  | release (k : κ)
  deriving DecidableEq, Repr

variable {κ : Type*} [DecidableEq κ]

open ResourceEvent

/-- The resources that have been acquired and not yet released. -/
def live : List (ResourceEvent κ) → List κ
  | [] => []
  | .acquire k :: es => k :: live es
  | .use _ :: es => live es
  | .release k :: es => (live es).erase k

/-- Every resource is acquired at most once, and used and released only while it is
live. -/
def Disciplined : List (ResourceEvent κ) → Prop
  | [] => True
  | .acquire k :: es => acquire k ∉ es ∧ Disciplined es
  | .use k :: es => k ∈ live es ∧ Disciplined es
  | .release k :: es => k ∈ live es ∧ Disciplined es

namespace Disciplined

variable {es later : List (ResourceEvent κ)} {k : κ}

theorem tail {e : ResourceEvent κ} (h : Disciplined (e :: es)) : Disciplined es := by
  cases e with
  | acquire k => exact h.2
  | use k => exact h.2
  | release k => exact h.2

theorem of_append (h : Disciplined (later ++ es)) : Disciplined es := by
  induction later with
  | nil => exact h
  | cons e later ih => exact ih h.tail

/-- What is live has been acquired. -/
theorem acquire_mem (h : k ∈ live es) : acquire k ∈ es := by
  induction es with
  | nil => cases h
  | cons e es ih =>
    cases e with
    | acquire k' =>
      rcases List.mem_cons.mp h with rfl | h
      · exact List.mem_cons_self
      · exact List.mem_cons_of_mem _ (ih h)
    | use k' => exact List.mem_cons_of_mem _ (ih h)
    | release k' => exact List.mem_cons_of_mem _ (ih (List.mem_of_mem_erase h))

theorem nodup_live (h : Disciplined es) : (live es).Nodup := by
  induction es with
  | nil => exact List.nodup_nil
  | cons e es ih =>
    have hes := ih h.tail
    cases e with
    | acquire k => exact List.nodup_cons.mpr ⟨fun hk => h.1 (acquire_mem hk), hes⟩
    | use k => exact hes
    | release k => exact hes.erase k

/-- **Live means acquired and not released.** -/
theorem mem_live (h : Disciplined es) : k ∈ live es ↔ acquire k ∈ es ∧ release k ∉ es := by
  induction es with
  | nil => simp [live]
  | cons e es ih =>
    have hes := ih h.tail
    cases e with
    | acquire k' =>
      by_cases hk : k = k'
      · subst hk
        have hnot : release k ∉ es := by
          intro hrelease
          -- what is released was live at that time, so it was acquired before
          obtain ⟨later, earlier, rfl⟩ := List.append_of_mem hrelease
          have hlive : k ∈ live earlier := (of_append h.2).1
          apply h.1
          exact List.mem_append_right _ (List.mem_cons_of_mem _ (acquire_mem hlive))
        simp [live, hnot]
      · simp [live, hk, hes]
    | use k' => simp [live, hes]
    | release k' =>
      show k ∈ (live es).erase k' ↔ _
      rw [h.tail.nodup_live.mem_erase_iff, hes]
      simp only [List.mem_cons, reduceCtorEq, false_or, release.injEq, not_or]
      constructor
      · rintro ⟨hne, hacq, hrel⟩
        exact ⟨hacq, hne, hrel⟩
      · rintro ⟨hacq, hne, hrel⟩
        exact ⟨hne, hacq, hrel⟩

/-- **A released resource does not occur again.** -/
theorem after_release (h : Disciplined (later ++ release k :: es)) :
    acquire k ∉ later ∧ use k ∉ later ∧ release k ∉ later := by
  induction later with
  | nil => simp
  | cons e later ih =>
    obtain ⟨hacquire, huse, hrelease⟩ := ih h.tail
    have hdead : k ∉ live (later ++ release k :: es) := by
      intro hlive
      apply (h.tail.mem_live.mp hlive).2
      exact List.mem_append_right _ List.mem_cons_self
    have hacquired : acquire k ∈ later ++ release k :: es := by
      have hlive : k ∈ live es := (of_append h.tail).1
      exact List.mem_append_right _ (List.mem_cons_of_mem _ (acquire_mem hlive))
    refine ⟨?_, ?_, ?_⟩
    · intro hmem
      rcases List.mem_cons.mp hmem with rfl | hmem
      · exact h.1 hacquired
      · exact hacquire hmem
    · intro hmem
      rcases List.mem_cons.mp hmem with rfl | hmem
      · exact hdead h.1
      · exact huse hmem
    · intro hmem
      rcases List.mem_cons.mp hmem with rfl | hmem
      · exact hdead h.1
      · exact hrelease hmem

end Disciplined

end Foundation
