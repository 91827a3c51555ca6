import Mathlib.Data.List.Perm.Basic
import Mathlib.Logic.Function.Basic

/-!
# Unique pointers

Objects that hold a `std::unique_ptr` each, and the heap that the pointers point into.
An object can be constructed with a new value, moved from, assigned to and destroyed.

## Main definitions

* `UniquePtrs` — the objects and the heap.
* `makeUnique`, `moveConstruct`, `moveAssign`, `destroy` — the operations; the value that an
  operation deletes is handed to a destructor.
* `Sound` — every value on the heap is owned by exactly one object.
* `owned` — the resources that the values on the heap own.

## Main results

* `Sound.makeUnique`, `Sound.moveConstruct`, `Sound.moveAssign`, `Sound.destroy` — **the
  operations keep the ownership.**
* `owned_set` — a value can be replaced without touching what the others own.
-/

namespace Foundation

variable {ο α β : Type*}

/-- The objects that are constructed, with their pointers, `none` for a null pointer; and
the values that were ever allocated, `none` for one that is deleted. -/
structure UniquePtrs (ο α : Type*) where
  pointer : ο → Option (Option ℕ)
  heap : List (Option α)

namespace UniquePtrs

/-- No object is constructed yet. -/
def empty : UniquePtrs ο α := ⟨fun _ => none, []⟩

/-- The value that a pointer points to. -/
def get (u : UniquePtrs ο α) (i : ℕ) : Option α := u.heap[i]?.join

/-- The value that an object points to, and where it is. -/
def deref (u : UniquePtrs ο α) (o : ο) : Option (ℕ × α) :=
  (u.pointer o).join.bind fun i => (u.get i).map fun a => (i, a)

/-- Replaces a value. -/
def store (u : UniquePtrs ο α) (i : ℕ) (a : α) : UniquePtrs ο α :=
  { u with heap := u.heap.set i (some a) }

/-- Deletes a value. -/
def delete (u : UniquePtrs ο α) (i : ℕ) : UniquePtrs ο α := { u with heap := u.heap.set i none }

/-- What the values on the heap own. -/
def owned (f : α → List β) (u : UniquePtrs ο α) : List β :=
  u.heap.flatMap fun cell => cell.toList.flatMap f

@[simp] theorem store_pointer (u : UniquePtrs ο α) (i : ℕ) (a : α) :
    (u.store i a).pointer = u.pointer := rfl

@[simp] theorem delete_pointer (u : UniquePtrs ο α) (i : ℕ) :
    (u.delete i).pointer = u.pointer := rfl

theorem get_eq_some {u : UniquePtrs ο α} {i : ℕ} {a : α} :
    u.get i = some a ↔ u.heap[i]? = some (some a) := by
  unfold get
  cases u.heap[i]? <;> simp

theorem deref_eq_some {u : UniquePtrs ο α} {o : ο} {i : ℕ} {a : α} :
    u.deref o = some (i, a) ↔ u.pointer o = some (some i) ∧ u.get i = some a := by
  unfold deref
  rw [Option.bind_eq_some_iff]
  constructor
  · rintro ⟨j, hj, h⟩
    obtain ⟨b, hb, heq⟩ := Option.map_eq_some_iff.mp h
    cases heq
    exact ⟨Option.join_eq_some_iff.mp hj, hb⟩
  · rintro ⟨hi, ha⟩
    exact ⟨i, Option.join_eq_some_iff.mpr hi, Option.map_eq_some_iff.mpr ⟨a, ha, rfl⟩⟩

@[simp] theorem get_empty (i : ℕ) : (empty : UniquePtrs ο α).get i = none := by simp [get, empty]

theorem lt_of_get {u : UniquePtrs ο α} {i : ℕ} {a : α} (h : u.get i = some a) :
    i < u.heap.length := by
  obtain ⟨hlt, -⟩ := List.getElem?_eq_some_iff.mp (get_eq_some.mp h)
  exact hlt

theorem get_set {u : UniquePtrs ο α} {i j : ℕ} {a : α} (h : u.get i = some a) (cell : Option α) :
    ({ u with heap := u.heap.set i cell } : UniquePtrs ο α).get j =
      if i = j then cell else u.get j := by
  have hlt := lt_of_get h
  unfold get
  simp only [List.getElem?_set]
  by_cases hij : i = j
  · subst hij
    simp [hlt]
  · simp [hij]

theorem get_store {u : UniquePtrs ο α} {i j : ℕ} {a : α} (h : u.get i = some a) (b : α) :
    (u.store i b).get j = if i = j then some b else u.get j := get_set h (some b)

theorem get_delete {u : UniquePtrs ο α} {i j : ℕ} {a : α} (h : u.get i = some a) :
    (u.delete i).get j = if i = j then none else u.get j := get_set h none

/-! ### What is owned -/

theorem mem_owned {f : α → List β} {u : UniquePtrs ο α} {x : β} :
    x ∈ u.owned f ↔ ∃ i a, u.get i = some a ∧ x ∈ f a := by
  unfold owned
  rw [List.mem_flatMap]
  constructor
  · rintro ⟨cell, hcell, hx⟩
    obtain ⟨i, hi⟩ := List.mem_iff_getElem?.mp hcell
    obtain ⟨a, ha, hx⟩ := List.mem_flatMap.mp hx
    rw [Option.mem_toList.mp ha] at hi
    exact ⟨i, a, get_eq_some.mpr hi, hx⟩
  · rintro ⟨i, a, hi, hx⟩
    refine ⟨some a, List.mem_of_getElem? (get_eq_some.mp hi), ?_⟩
    simpa using hx

/-- **A value can be replaced without touching what the others own.** -/
theorem owned_set {u : UniquePtrs ο α} {i : ℕ} {a : α} (h : u.get i = some a) (f : α → List β) :
    ∃ others, (u.owned f).Perm (f a ++ others) ∧
      (∀ b, ((u.store i b).owned f).Perm (f b ++ others)) ∧
      ((u.delete i).owned f).Perm others ∧
      ∀ j b, j ≠ i → u.get j = some b → f b ⊆ others := by
  have hlt := lt_of_get h
  have hcell := get_eq_some.mp h
  rw [List.getElem?_eq_getElem hlt, Option.some.injEq] at hcell
  have hset : ∀ cell, u.heap.set i cell = u.heap.take i ++ cell :: u.heap.drop (i + 1) :=
    fun cell => (List.set_eq_take_append_cons_drop).trans (if_pos hlt)
  have hsplit : u.heap = u.heap.take i ++ some a :: u.heap.drop (i + 1) := by
    rw [← hset, ← hcell, List.set_getElem_self]
  let own : Option α → List β := fun cell => cell.toList.flatMap f
  have hown : ∀ cell, ((u.heap.take i ++ cell :: u.heap.drop (i + 1)).flatMap own).Perm
      (own cell ++ ((u.heap.take i).flatMap own ++ (u.heap.drop (i + 1)).flatMap own)) := by
    intro cell
    rw [List.flatMap_append, List.flatMap_cons]
    exact List.perm_append_comm_assoc _ _ _
  have hsome : ∀ b, own (some b) = f b := fun b => by simp [own]
  refine ⟨(u.heap.take i).flatMap own ++ (u.heap.drop (i + 1)).flatMap own, ?_, ?_, ?_, ?_⟩
  · have hall := hown (some a)
    rw [← hsplit, hsome] at hall
    exact hall
  · intro b
    rw [← hsome b]
    show ((u.heap.set i (some b)).flatMap own).Perm _
    rw [hset]
    exact hown (some b)
  · show ((u.heap.set i none).flatMap own).Perm _
    rw [hset]
    exact hown none
  · intro j b hj hb x hx
    rw [← List.flatMap_append, List.mem_flatMap]
    refine ⟨some b, ?_, by rwa [hsome]⟩
    have hmem : some b ∈ u.heap.eraseIdx i :=
      List.mem_eraseIdx_iff_getElem?.mpr ⟨j, hj, get_eq_some.mp hb⟩
    rwa [List.eraseIdx_eq_take_drop_succ] at hmem

theorem owned_append (u : UniquePtrs ο α) (pointer : ο → Option (Option ℕ)) (f : α → List β)
    (a : α) :
    (⟨pointer, u.heap ++ [some a]⟩ : UniquePtrs ο α).owned f = u.owned f ++ f a := by
  unfold owned
  rw [List.flatMap_append]
  simp

theorem get_append (u : UniquePtrs ο α) (pointer : ο → Option (Option ℕ)) (a : α) (j : ℕ) :
    (⟨pointer, u.heap ++ [some a]⟩ : UniquePtrs ο α).get j =
      if u.heap.length = j then some a else u.get j := by
  unfold get
  simp only
  by_cases hj : u.heap.length = j
  · subst hj
    simp
  · rw [if_neg hj]
    rcases Nat.lt_or_gt_of_ne hj with hlt | hlt
    · rw [List.getElem?_eq_none (by simp; omega), List.getElem?_eq_none (by omega)]
    · rw [List.getElem?_append_left hlt]

/-- Deletes what a pointer points to, after the destructor; nothing happens for a null
pointer.  The destructor works on a state `σ`, and `none` means undefined behaviour. -/
def reset {σ : Type*} (destructor : α → σ → Option σ) (u : UniquePtrs ο α) (p : Option ℕ)
    (s : σ) : Option (UniquePtrs ο α × σ) :=
  match p with
  | none => some (u, s)
  | some i => (u.get i).bind fun a => (destructor a s).map fun s => (u.delete i, s)

/-! ### Ownership -/

/-- Every value on the heap is owned by exactly one object, apart from a pending one, which
is owned by none and is going to be deleted. -/
structure Sound (u : UniquePtrs ο α) (pending : Option ℕ) : Prop where
  valid : ∀ o i, u.pointer o = some (some i) → ∃ a, u.get i = some a
  unique : ∀ o o' i, u.pointer o = some (some i) → u.pointer o' = some (some i) → o = o'
  owner : ∀ i a, u.get i = some a → pending ≠ some i → ∃ o, u.pointer o = some (some i)
  not_owned : ∀ i, pending = some i → ∀ o, u.pointer o ≠ some (some i)

namespace Sound

variable {u u' : UniquePtrs ο α}

theorem empty : (UniquePtrs.empty : UniquePtrs ο α).Sound none where
  valid := nofun
  unique := nofun
  owner := fun i a h => by simp at h
  not_owned := nofun

/-- Replacing a value leaves the ownership alone. -/
theorem store (h : u.Sound none) {i : ℕ} {a : α} (hi : u.get i = some a) (b : α) :
    (u.store i b).Sound none where
  valid := by
    intro o j hj
    obtain ⟨c, hc⟩ := h.valid o j hj
    rw [get_store hi]
    by_cases hij : i = j
    · exact ⟨b, if_pos hij⟩
    · exact ⟨c, (if_neg hij).trans hc⟩
  unique := h.unique
  owner := by
    intro j c hc hpending
    rw [get_store hi] at hc
    by_cases hij : i = j
    · exact h.owner j a (hij ▸ hi) hpending
    · rw [if_neg hij] at hc
      exact h.owner j c hc hpending
  not_owned := nofun

/-- Deleting what is pending. -/
theorem reset {σ : Type*} {destructor : α → σ → Option σ} {pending : Option ℕ} {s s' : σ}
    (h : u.Sound pending) (hstep : UniquePtrs.reset destructor u pending s = some (u', s')) :
    u'.Sound none := by
  cases pending with
  | none =>
    cases hstep
    exact h
  | some i =>
    obtain ⟨a, ha, hstep⟩ := Option.bind_eq_some_iff.mp hstep
    obtain ⟨t, -, heq⟩ := Option.map_eq_some_iff.mp hstep
    cases heq
    have hne : ∀ o j, u.pointer o = some (some j) → i ≠ j := by
      rintro o j hj rfl
      exact h.not_owned i rfl o hj
    refine ⟨?_, h.unique, ?_, nofun⟩
    · intro o j hj
      rw [get_delete ha, if_neg (hne o j hj)]
      exact h.valid o j hj
    · intro j b hb _
      rw [get_delete ha] at hb
      by_cases hij : i = j
      · rw [if_pos hij] at hb
        cases hb
      · rw [if_neg hij] at hb
        exact h.owner j b hb (fun heq => hij (Option.some.inj heq))

end Sound

/-! ### The operations -/

section Operations

variable [DecidableEq ο]

theorem update_eq_some {f : ο → Option (Option ℕ)} {o o' : ο} {v : Option (Option ℕ)} {i : ℕ} :
    Function.update f o v o' = some (some i) ↔
      (o' = o ∧ v = some (some i)) ∨ (o' ≠ o ∧ f o' = some (some i)) := by
  by_cases ho : o' = o
  · subst ho
    simp
  · simp [ho]

/-- An object is constructed, and `std::make_unique` gives it a value. -/
def makeUnique (u : UniquePtrs ο α) (o : ο) (a : α) : Option (UniquePtrs ο α) :=
  if u.pointer o = none then
    some ⟨Function.update u.pointer o (some (some u.heap.length)), u.heap ++ [some a]⟩
  else none

/-- An object is constructed from another one, and takes its pointer. -/
def moveConstruct (u : UniquePtrs ο α) (o source : ο) : Option (UniquePtrs ο α) :=
  match u.pointer o, u.pointer source with
  | none, some p =>
    some { u with
      pointer := Function.update (Function.update u.pointer source (some none)) o (some p) }
  | _, _ => none

/-- An object gets the pointer of another one, and then deletes what it had. -/
def moveAssign {σ : Type*} (destructor : α → σ → Option σ) (u : UniquePtrs ο α) (o source : ο)
    (s : σ) : Option (UniquePtrs ο α × σ) :=
  (u.pointer source).bind fun p =>
    -- the source is null before the old pointer is looked at
    let u := { u with pointer := Function.update u.pointer source (some none) }
    (u.pointer o).bind fun old =>
      reset destructor { u with pointer := Function.update u.pointer o (some p) } old s

/-- An object is destroyed. -/
def destroy {σ : Type*} (destructor : α → σ → Option σ) (u : UniquePtrs ο α) (o : ο) (s : σ) :
    Option (UniquePtrs ο α × σ) :=
  (u.pointer o).bind fun old =>
    reset destructor { u with pointer := Function.update u.pointer o none } old s

namespace Sound

variable {u u' : UniquePtrs ο α} {o source : ο} {p : Option ℕ}

/-- **A new object owns its value.** -/
theorem makeUnique (h : u.Sound none) {a : α} (hstep : u.makeUnique o a = some u') :
    u'.Sound none := by
  unfold UniquePtrs.makeUnique at hstep
  split at hstep
  next hnew =>
    cases hstep
    have hfresh : ∀ o', u.pointer o' ≠ some (some u.heap.length) := by
      intro o' ho'
      obtain ⟨b, hb⟩ := h.valid o' _ ho'
      exact absurd (lt_of_get hb) (Nat.lt_irrefl _)
    refine ⟨?_, ?_, ?_, nofun⟩
    · intro o' i hi
      rw [get_append]
      rcases update_eq_some.mp hi with ⟨-, hv⟩ | ⟨-, hi⟩
      · cases hv
        exact ⟨a, if_pos rfl⟩
      · obtain ⟨b, hb⟩ := h.valid o' i hi
        have hlt := lt_of_get hb
        exact ⟨b, (if_neg (by omega)).trans hb⟩
    · intro o₁ o₂ i h₁ h₂
      rcases update_eq_some.mp h₁ with ⟨ho₁, hv₁⟩ | ⟨-, h₁⟩
      · cases hv₁
        rcases update_eq_some.mp h₂ with ⟨ho₂, -⟩ | ⟨-, h₂⟩
        · exact ho₁.trans ho₂.symm
        · exact absurd h₂ (hfresh o₂)
      · rcases update_eq_some.mp h₂ with ⟨-, hv₂⟩ | ⟨-, h₂⟩
        · cases hv₂
          exact absurd h₁ (hfresh o₁)
        · exact h.unique o₁ o₂ i h₁ h₂
    · intro i b hb hpending
      rw [get_append] at hb
      by_cases hlength : u.heap.length = i
      · subst hlength
        exact ⟨o, update_eq_some.mpr (Or.inl ⟨rfl, rfl⟩)⟩
      · rw [if_neg hlength] at hb
        obtain ⟨o', ho'⟩ := h.owner i b hb hpending
        refine ⟨o', update_eq_some.mpr (Or.inr ⟨?_, ho'⟩)⟩
        rintro rfl
        rw [hnew] at ho'
        cases ho'
  next => cases hstep

/-- The pointer of one object moves to another one, and what that one had is pending. -/
theorem moved (h : u.Sound none) (hne : o ≠ source) (hsource : u.pointer source = some p) :
    (⟨Function.update (Function.update u.pointer source (some none)) o (some p), u.heap⟩ :
      UniquePtrs ο α).Sound (u.pointer o).join := by
  -- an object points to a value afterwards if it did before, or if it has taken it over
  have hcases : ∀ o' i,
      Function.update (Function.update u.pointer source (some none)) o (some p) o' =
        some (some i) →
      (o' = o ∧ u.pointer source = some (some i)) ∨
        (o' ≠ o ∧ o' ≠ source ∧ u.pointer o' = some (some i)) := by
    intro o' i hi
    rcases update_eq_some.mp hi with ⟨ho, hv⟩ | ⟨ho, hi⟩
    · exact Or.inl ⟨ho, hsource.trans hv⟩
    · rcases update_eq_some.mp hi with ⟨-, hv⟩ | ⟨hs, hi⟩
      · cases hv
      · exact Or.inr ⟨ho, hs, hi⟩
  refine ⟨?_, ?_, ?_, ?_⟩
  · intro o' i hi
    rcases hcases o' i hi with ⟨-, hi⟩ | ⟨-, -, hi⟩
    · exact h.valid source i hi
    · exact h.valid o' i hi
  · intro o₁ o₂ i h₁ h₂
    rcases hcases o₁ i h₁ with ⟨ho₁, h₁⟩ | ⟨-, hs₁, h₁⟩
    · rcases hcases o₂ i h₂ with ⟨ho₂, -⟩ | ⟨-, hs₂, h₂⟩
      · exact ho₁.trans ho₂.symm
      · exact absurd (h.unique _ _ i h₂ h₁) hs₂
    · rcases hcases o₂ i h₂ with ⟨-, h₂⟩ | ⟨-, -, h₂⟩
      · exact absurd (h.unique _ _ i h₁ h₂) hs₁
      · exact h.unique o₁ o₂ i h₁ h₂
  · intro i a ha hpending
    obtain ⟨o', ho'⟩ := h.owner i a ha nofun
    by_cases hs : o' = source
    · refine ⟨o, update_eq_some.mpr (Or.inl ⟨rfl, ?_⟩)⟩
      rw [← hsource, ← hs, ho']
    · refine ⟨o', update_eq_some.mpr (Or.inr ⟨?_, update_eq_some.mpr (Or.inr ⟨hs, ho'⟩)⟩)⟩
      rintro rfl
      exact hpending (by rw [ho']; rfl)
  · intro i hpending o' hi
    have hoi : u.pointer o = some (some i) := Option.join_eq_some_iff.mp hpending
    rcases hcases o' i hi with ⟨-, hi⟩ | ⟨ho, -, hi⟩
    · exact hne (h.unique _ _ i hoi hi)
    · exact ho (h.unique _ _ i hi hoi)

/-- **An object that is constructed from another one takes its value.** -/
theorem moveConstruct (h : u.Sound none) (hstep : u.moveConstruct o source = some u') :
    u'.Sound none := by
  unfold UniquePtrs.moveConstruct at hstep
  split at hstep
  next p ho hsource =>
    cases hstep
    have hne : o ≠ source := by
      rintro rfl
      rw [ho] at hsource
      cases hsource
    have hmoved := h.moved hne hsource
    rw [ho] at hmoved
    exact hmoved
  next => cases hstep

/-- **An object that is assigned to deletes its value and takes the other one.** -/
theorem moveAssign {σ : Type*} {destructor : α → σ → Option σ} {s s' : σ} (h : u.Sound none)
    (hstep : u.moveAssign destructor o source s = some (u', s')) : u'.Sound none := by
  obtain ⟨p, hsource, hstep⟩ := Option.bind_eq_some_iff.mp hstep
  obtain ⟨old, hold, hstep⟩ := Option.bind_eq_some_iff.mp hstep
  simp only at hold hstep
  by_cases hne : o = source
  · -- nothing changes when an object is assigned to itself
    subst hne
    rw [Function.update_self] at hold
    cases hold
    cases hstep
    have hsame : Function.update (Function.update u.pointer o (some none)) o (some p) =
        u.pointer := by
      rw [Function.update_idem, ← hsource, Function.update_eq_self]
    show Sound ⟨Function.update (Function.update u.pointer o (some none)) o (some p), u.heap⟩ none
    rw [hsame]
    exact h
  · rw [Function.update_of_ne hne] at hold
    have hmoved := h.moved hne hsource
    rw [hold] at hmoved
    exact hmoved.reset hstep

/-- **An object that is destroyed deletes its value.** -/
theorem destroy {σ : Type*} {destructor : α → σ → Option σ} {s s' : σ} (h : u.Sound none)
    (hstep : u.destroy destructor o s = some (u', s')) : u'.Sound none := by
  obtain ⟨old, hold, hstep⟩ := Option.bind_eq_some_iff.mp hstep
  have hkeeps : ∀ o' i, Function.update u.pointer o none o' = some (some i) →
      o' ≠ o ∧ u.pointer o' = some (some i) := by
    intro o' i hi
    rcases update_eq_some.mp hi with ⟨-, hv⟩ | hi
    · cases hv
    · exact hi
  have hpending : Sound ⟨Function.update u.pointer o none, u.heap⟩ old := by
    refine ⟨?_, ?_, ?_, ?_⟩
    · intro o' i hi
      exact h.valid o' i (hkeeps o' i hi).2
    · intro o₁ o₂ i h₁ h₂
      exact h.unique o₁ o₂ i (hkeeps o₁ i h₁).2 (hkeeps o₂ i h₂).2
    · intro i a ha hpending
      obtain ⟨o', ho'⟩ := h.owner i a ha nofun
      refine ⟨o', update_eq_some.mpr (Or.inr ⟨?_, ho'⟩)⟩
      rintro rfl
      rw [hold] at ho'
      exact hpending (Option.some.inj ho')
    · rintro i rfl o' hi
      exact (hkeeps o' i hi).1 (h.unique o' o i (hkeeps o' i hi).2 hold)
  exact hpending.reset hstep

end Sound

end Operations

end UniquePtrs

end Foundation
