import Mathlib.Data.List.Basic

/-!
# Delimited text

The text between the first opening delimiter and the first closing delimiter behind it.

## Main definitions

* `splitFirst x l` — what stands in front of the first `x` and behind it.
* `between o c l` — the text between the first `o` and the first `c` behind it.
* `Marks enc x y` — an encoding keeps `x` apart from the rest, as `y`.

## Main results

* `splitFirst_eq_some_iff`, `between_eq_some_iff` — what they are.
* `splitFirst_flatMap` — **an encoding that keeps the delimiter apart may be applied before
  or afterwards.**
-/

namespace Delimited

variable {α β : Type*}

/-! ### Encodings -/

/-- The encoding of `x` is `y` alone, and `y` occurs in no other one. -/
structure Marks (enc : α → List β) (x : α) (y : β) : Prop where
  self : enc x = [y]
  other : ∀ a, a ≠ x → y ∉ enc a

theorem Marks.not_mem {enc : α → List β} {x : α} {y : β} (h : Marks enc x y) {l : List α}
    (hl : x ∉ l) : y ∉ l.flatMap enc := by
  intro hy
  obtain ⟨a, ha, hya⟩ := List.mem_flatMap.mp hy
  exact h.other a (ne_of_mem_of_not_mem ha hl) hya

/-! ### Splitting -/

variable [DecidableEq α] [DecidableEq β]

/-- What stands in front of the first `x`, and behind it. -/
def splitFirst (x : α) : List α → Option (List α × List α)
  | [] => none
  | a :: l => if a = x then some ([], l) else (splitFirst x l).map fun o => (a :: o.1, o.2)

theorem splitFirst_cons_self (x : α) (l : List α) : splitFirst x (x :: l) = some ([], l) :=
  if_pos rfl

theorem splitFirst_cons_of_ne {x a : α} (h : a ≠ x) (l : List α) :
    splitFirst x (a :: l) = (splitFirst x l).map fun o => (a :: o.1, o.2) :=
  if_neg h

theorem splitFirst_eq_some_iff {x : α} {l u v : List α} :
    splitFirst x l = some (u, v) ↔ l = u ++ x :: v ∧ x ∉ u := by
  induction l generalizing u with
  | nil => simp [splitFirst]
  | cons a l ih =>
    by_cases ha : a = x
    · subst ha
      rw [splitFirst_cons_self]
      constructor
      · intro h
        cases h
        exact ⟨rfl, List.not_mem_nil⟩
      · rintro ⟨hl, hu⟩
        cases u with
        | nil =>
          cases hl
          rfl
        | cons b u =>
          cases hl
          exact absurd List.mem_cons_self hu
    · rw [splitFirst_cons_of_ne ha, Option.map_eq_some_iff]
      constructor
      · rintro ⟨⟨u', v'⟩, ho, heq⟩
        cases heq
        obtain ⟨rfl, hu⟩ := ih.mp ho
        exact ⟨rfl, by simpa [hu] using Ne.symm ha⟩
      · rintro ⟨hl, hu⟩
        cases u with
        | nil =>
          cases hl
          exact absurd rfl ha
        | cons b u =>
          cases hl
          exact ⟨(u, v), ih.mpr ⟨rfl, fun h => hu (List.mem_cons_of_mem _ h)⟩, rfl⟩

theorem splitFirst_eq_none_iff {x : α} {l : List α} : splitFirst x l = none ↔ x ∉ l := by
  induction l with
  | nil => simp [splitFirst]
  | cons a l ih =>
    by_cases ha : a = x
    · subst ha
      simp [splitFirst]
    · rw [splitFirst_cons_of_ne ha, Option.map_eq_none_iff, ih, List.mem_cons, not_or]
      exact ⟨fun h => ⟨Ne.symm ha, h⟩, fun h => h.2⟩

/-- The text between the first `o` and the first `c` behind it. -/
def between (o c : α) (l : List α) : Option (List α) :=
  (splitFirst o l).bind fun p => (splitFirst c p.2).map Prod.fst

theorem between_eq_some_iff {o c : α} {l t : List α} :
    between o c l = some t ↔ ∃ u v, l = u ++ o :: t ++ c :: v ∧ o ∉ u ∧ c ∉ t := by
  unfold between
  constructor
  · intro h
    obtain ⟨⟨u, w⟩, hu, h⟩ := Option.bind_eq_some_iff.mp h
    obtain ⟨⟨t', v⟩, ht, rfl⟩ := Option.map_eq_some_iff.mp h
    obtain ⟨rfl, hou⟩ := splitFirst_eq_some_iff.mp hu
    obtain ⟨hw, hct⟩ := splitFirst_eq_some_iff.mp ht
    simp only at hw
    exact ⟨u, v, by rw [hw]; simp, hou, hct⟩
  · rintro ⟨u, v, rfl, hou, hct⟩
    have hu : splitFirst o (u ++ o :: t ++ c :: v) = some (u, t ++ c :: v) :=
      splitFirst_eq_some_iff.mpr ⟨by simp, hou⟩
    have ht : splitFirst c (t ++ c :: v) = some (t, v) := splitFirst_eq_some_iff.mpr ⟨rfl, hct⟩
    rw [hu, Option.bind_some, ht]
    rfl

/-! ### Splitting what is encoded -/

/-- **An encoding that keeps the delimiter apart may be applied before or afterwards.** -/
theorem splitFirst_flatMap {enc : α → List β} {x : α} {y : β} (h : Marks enc x y) (l : List α) :
    splitFirst y (l.flatMap enc) =
      (splitFirst x l).map fun p => (p.1.flatMap enc, p.2.flatMap enc) := by
  cases hsplit : splitFirst x l with
  | none => exact splitFirst_eq_none_iff.mpr (h.not_mem (splitFirst_eq_none_iff.mp hsplit))
  | some p =>
    obtain ⟨hl, hx⟩ := splitFirst_eq_some_iff.mp hsplit
    rw [Option.map_some]
    refine splitFirst_eq_some_iff.mpr ⟨?_, h.not_mem hx⟩
    rw [hl, List.flatMap_append, List.flatMap_cons, h.self]
    rfl

end Delimited
