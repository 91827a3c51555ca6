import Mathlib.Data.List.Basic

/-!
# Ordered sets over a comparison

A `std::set` compares its elements only with `operator<`: two of them are the same
element when neither is less than the other.  The set is the list of its elements
in iteration order.

## Main definitions

* `StdSet.contains`, `StdSet.emplace`, `StdSet.erase` — the operations.

## Main results

* `contains_iff_mem`, `mem_emplace`, `mem_erase` — they are those of a set as long
  as incomparable means equal.
-/

namespace StdSet

variable {α : Type*} (lt : α → α → Bool)

/-- Neither element is less than the other. -/
def equiv (a b : α) : Bool := !lt a b && !lt b a

/-- `find(a) != end()`. -/
def contains (a : α) (l : List α) : Bool := l.any (equiv lt a)

/-- `emplace(a)`: no effect if an equivalent element is there already. -/
def emplace (a : α) : List α → List α
  | [] => [a]
  | b :: l => if lt a b then a :: b :: l else if lt b a then b :: emplace a l else b :: l

/-- `erase(find(a))`. -/
def erase (a : α) (l : List α) : List α := l.filter fun b => !equiv lt a b

/-- Incomparable to `a` means equal to `a`, among the elements of `l`. -/
def Separates (a : α) (l : List α) : Prop := ∀ b ∈ l, equiv lt a b = true ↔ b = a

variable {lt}

theorem Separates.tail {a b : α} {l : List α} (h : Separates lt a (b :: l)) :
    Separates lt a l := fun c hc => h c (List.mem_cons_of_mem b hc)

theorem contains_iff_mem {a : α} {l : List α} (h : Separates lt a l) :
    contains lt a l = true ↔ a ∈ l := by
  rw [contains, List.any_eq_true]
  constructor
  · rintro ⟨b, hb, heq⟩
    exact (h b hb).mp heq ▸ hb
  · intro ha
    exact ⟨a, ha, (h a ha).mpr rfl⟩

theorem mem_emplace {a c : α} {l : List α} (h : Separates lt a l) :
    c ∈ emplace lt a l ↔ c = a ∨ c ∈ l := by
  induction l with
  | nil => simp [emplace]
  | cons b l ih =>
    rw [emplace]
    split
    · rw [List.mem_cons]
    · next hab =>
      split
      · rw [List.mem_cons, List.mem_cons, ih h.tail, or_left_comm]
      · next hba =>
        -- `b` is the element itself
        have hb : b = a := (h b List.mem_cons_self).mp (by simp [equiv, hab, hba])
        subst hb
        simp

theorem mem_erase {a c : α} {l : List α} (h : Separates lt a l) :
    c ∈ erase lt a l ↔ c ∈ l ∧ c ≠ a := by
  rw [erase, List.mem_filter]
  refine and_congr_right ?_
  intro hc
  rw [Bool.not_eq_true', ← Bool.not_eq_true, h c hc]

/-- A set is in order, without equivalent elements. -/
def Ordered (lt : α → α → Bool) (l : List α) : Prop := l.Pairwise fun a b => lt a b = true

theorem Ordered.nodup {l : List α} (h : Ordered lt l) (hirrefl : ∀ a, lt a a = false) :
    l.Nodup := by
  refine List.Pairwise.imp ?_ h
  rintro a _ hlt rfl
  rw [hirrefl] at hlt
  cases hlt

theorem mem_of_mem_emplace {a c : α} {l : List α} (h : c ∈ emplace lt a l) : c = a ∨ c ∈ l := by
  induction l with
  | nil => exact Or.inl (List.mem_singleton.mp h)
  | cons b l ih =>
    rw [emplace] at h
    split at h
    · exact List.mem_cons.mp h
    · split at h
      · rcases List.mem_cons.mp h with rfl | h
        · exact Or.inr List.mem_cons_self
        · exact (ih h).imp_right (List.mem_cons_of_mem b)
      · exact Or.inr h

/-- `emplace` keeps a set in order. -/
theorem Ordered.emplace {l : List α} (h : Ordered lt l) (a : α)
    (htrans : ∀ a b c, lt a b = true → lt b c = true → lt a c = true) :
    Ordered lt (emplace lt a l) := by
  induction l with
  | nil => exact List.pairwise_singleton _ a
  | cons b l ih =>
    obtain ⟨hb, hl⟩ := List.pairwise_cons.mp h
    rw [StdSet.emplace]
    split
    next hab =>
      refine List.pairwise_cons.mpr ⟨?_, h⟩
      intro c hc
      rcases List.mem_cons.mp hc with rfl | hc
      · exact hab
      · exact htrans a b c hab (hb c hc)
    next =>
      split
      next hba =>
        refine List.pairwise_cons.mpr ⟨?_, ih hl⟩
        intro c hc
        rcases mem_of_mem_emplace hc with rfl | hc
        · exact hba
        · exact hb c hc
      next => exact h

/-- `erase` keeps a set in order. -/
theorem Ordered.erase {l : List α} (h : Ordered lt l) (a : α) : Ordered lt (erase lt a l) :=
  List.Pairwise.filter _ h

end StdSet
