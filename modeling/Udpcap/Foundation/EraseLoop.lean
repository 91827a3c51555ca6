import Mathlib.Data.List.Basic
import Mathlib.Data.List.Perm.Basic

/-!
# Loops that erase while they iterate

`for (it = begin; it != end; it++) if (p(*it)) { f(*it); it = erase(it); }`

The iterator returned by `erase` already stands on the following element, and
the loop header advances it once more.  So the element after an erased one is
never examined, and when the erased element was the last one the header
increments the end iterator.

## Main definitions

* `sweep p f s l` — the loop over `l`, with the effect `f` of each erasure on a
  state.
* `Sparse p l` — no element satisfying `p` is the last one of `l` or stands
  directly in front of another one.

## Main results

* `sweep_state`, `sweep_perm` — the effects are those of the erased elements, in
  order, and nothing is lost or duplicated, whatever the loop skips.
* `sweep_of_sparse` — on a sparse list the loop is a filter.
* `sweep_exact_iff_sparse` — **and only there.**
-/

namespace Foundation

variable {σ α : Type*}

/-- The outcome of a sweep. -/
structure Sweep (σ α : Type*) where
  /-- The state after the effects of the erasures. -/
  state : σ
  /-- The elements erased, in the order of their erasure. -/
  erased : List α
  /-- The elements left, in order. -/
  kept : List α
  /-- The loop incremented the end iterator. -/
  pastEnd : Bool
  deriving Repr

/-- The loop steps over an element without erasing it. -/
def Sweep.keep (a : α) (o : Sweep σ α) : Sweep σ α := { o with kept := a :: o.kept }

/-- The loop erases an element. -/
def Sweep.erase (a : α) (o : Sweep σ α) : Sweep σ α := { o with erased := a :: o.erased }

/-- The erasing loop, from the iterator that stands at the head of the list. -/
def sweep (p : α → Bool) (f : σ → α → σ) : σ → List α → Sweep σ α
  | s, [] => ⟨s, [], [], false⟩
  | s, [a] => if p a then ⟨f s a, [a], [], true⟩ else ⟨s, [], [a], false⟩
  | s, a :: b :: l =>
    -- after an erasure the iterator stands on `b`, and the header moves on to `l`
    if p a then ((sweep p f (f s a) l).keep b).erase a else (sweep p f s (b :: l)).keep a

/-- The state is the fold of the effect over the erased elements. -/
theorem sweep_state (p : α → Bool) (f : σ → α → σ) (s : σ) (l : List α) :
    (sweep p f s l).state = (sweep p f s l).erased.foldl f s := by
  fun_induction sweep p f s l with
  | case1 s => rfl
  | case2 s a ha => rfl
  | case3 s a ha => rfl
  | case4 s a b l ha ih => exact ih
  | case5 s a b l ha ih => exact ih

/-- **Nothing is lost or duplicated**: the erased and the kept elements are those
of the list. -/
theorem sweep_perm (p : α → Bool) (f : σ → α → σ) (s : σ) (l : List α) :
    ((sweep p f s l).erased ++ (sweep p f s l).kept).Perm l := by
  fun_induction sweep p f s l with
  | case1 s => rfl
  | case2 s a ha => rfl
  | case3 s a ha => rfl
  | case4 s a b l ha ih =>
    simp only [Sweep.erase, Sweep.keep, List.cons_append]
    exact (List.perm_middle.trans (ih.cons b)).cons a
  | case5 s a b l ha ih =>
    simp only [Sweep.keep]
    exact List.perm_middle.trans (ih.cons a)

/-! ### When the loop is a filter -/

/-- No element satisfying `p` is the last one or directly followed by another
one satisfying `p`. -/
def Sparse (p : α → Bool) : List α → Prop
  | [] => True
  | [a] => p a = false
  | a :: b :: l => (p a = true → p b = false) ∧ Sparse p (b :: l)

instance Sparse.decidable (p : α → Bool) : (l : List α) → Decidable (Sparse p l)
  | [] => isTrue trivial
  | [a] => inferInstanceAs (Decidable (p a = false))
  | a :: b :: l =>
    have := Sparse.decidable p (b :: l)
    inferInstanceAs (Decidable ((p a = true → p b = false) ∧ Sparse p (b :: l)))

theorem Sparse.tail {p : α → Bool} {a : α} {l : List α} (h : Sparse p (a :: l)) :
    Sparse p l := by
  cases l with
  | nil => trivial
  | cons b l => exact h.2

/-- A list without elements to erase is sparse. -/
theorem sparse_of_forall {p : α → Bool} : ∀ {l : List α}, (∀ a ∈ l, p a = false) → Sparse p l
  | [], _ => trivial
  | [a], h => h a List.mem_cons_self
  | a :: b :: _, h =>
    ⟨fun _ => h b (List.mem_cons_of_mem a List.mem_cons_self),
      sparse_of_forall fun c hc => h c (List.mem_cons_of_mem a hc)⟩

/-- **On a sparse list the loop is a filter**: it erases every element satisfying
the predicate, keeps every other one, and stops at the end. -/
theorem sweep_of_sparse {p : α → Bool} {f : σ → α → σ} {s : σ} {l : List α} (h : Sparse p l) :
    (sweep p f s l).erased = l.filter p ∧ (sweep p f s l).kept = l.filter (fun a => !p a) ∧
      (sweep p f s l).pastEnd = false := by
  fun_induction sweep p f s l with
  | case1 s => simp
  | case2 s a ha =>
    have hna : p a = false := h
    rw [hna] at ha
    cases ha
  | case3 s a ha => simp [ha]
  | case4 s a b l ha ih =>
    -- the skipped element does not satisfy the predicate
    have hb : p b = false := h.1 ha
    obtain ⟨h₁, h₂, h₃⟩ := ih h.2.tail
    simp only [Sweep.erase, Sweep.keep, h₁, h₂, h₃]
    simp [ha, hb]
  | case5 s a b l ha ih =>
    obtain ⟨h₁, h₂, h₃⟩ := ih h.2
    have hna : p a = false := by simpa using ha
    simp only [Sweep.keep, h₁, h₂, h₃]
    simp [hna]

/-- **The loop is exact only on sparse lists**: elsewhere it keeps an element it
should erase, or increments the end iterator. -/
theorem sweep_exact_iff_sparse (p : α → Bool) (f : σ → α → σ) (s : σ) (l : List α) :
    ((∀ a ∈ (sweep p f s l).kept, p a = false) ∧ (sweep p f s l).pastEnd = false) ↔
      Sparse p l := by
  constructor
  · rintro ⟨hkept, hend⟩
    fun_induction sweep p f s l with
    | case1 s => trivial
    | case2 s a ha => cases hend
    | case3 s a ha => simpa [Sparse] using ha
    | case4 s a b l ha ih =>
      have hb : p b = false := hkept b (by simp [Sweep.erase, Sweep.keep])
      refine ⟨fun _ => hb, ?_⟩
      have hl : Sparse p l :=
        ih (fun c hc => hkept c (List.mem_cons_of_mem b hc)) hend
      cases l with
      | nil => exact hb
      | cons c l => exact ⟨fun h => absurd h (by simp [hb]), hl⟩
    | case5 s a b l ha ih =>
      refine ⟨fun h => absurd h ha, ih ?_ hend⟩
      intro c hc
      exact hkept c (List.mem_cons_of_mem a hc)
  · intro h
    obtain ⟨-, hkept, hend⟩ := sweep_of_sparse (f := f) (s := s) h
    refine ⟨?_, hend⟩
    intro a ha
    rw [hkept] at ha
    simpa using (List.mem_filter.mp ha).2

end Foundation
