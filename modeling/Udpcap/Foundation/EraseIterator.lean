import Mathlib.Logic.Relation
import Udpcap.Foundation.EraseLoop

/-!
# Loops that erase while they iterate, step by step

The loop of `Udpcap.Foundation.EraseLoop` with its iterator: the check against the end
iterator, the body, which dereferences the iterator and may erase, and the header, which
increments it.

## Main definitions

* `EraseLoop`, `EraseLoop.step` — the loop in execution, and one step of it.
* `visits p l` — the elements that the loop dereferences.
* `VisitsAll` — the loop terminates, dereferences every element once, and leaves the end
  iterator alone.

## Main results

* `reaches_sweep` — **the loop terminates with the outcome of `sweep`.**
* `length_visits` — every erasure costs the visit of an element, or is the last one.
* `visitsAll_iff` — **the loop visits all elements exactly if there is none to erase.**
-/

namespace Foundation

variable {σ α : Type*}

/-- Where a loop is. -/
inductive LoopPc
  /-- Compare the iterator with the end iterator. -/
  | check
  | body
  /-- Increment the iterator. -/
  | header
  | done
  /-- The end iterator has been dereferenced or incremented. -/
  | fault
  deriving DecidableEq, Repr

/-- An erasing loop in execution. -/
structure EraseLoop (σ α : Type*) where
  pc : LoopPc
  state : σ
  /-- The elements that have been dereferenced, in order. -/
  visited : List α
  erased : List α
  /-- The elements in front of the iterator. -/
  behind : List α
  /-- The elements from the iterator on: none for the end iterator. -/
  ahead : List α
  deriving Repr

namespace EraseLoop

/-- The loop begins. -/
def start (s : σ) (l : List α) : EraseLoop σ α := ⟨.check, s, [], [], [], l⟩

variable (p : α → Bool) (f : σ → α → σ)

/-- One step; `none` when the loop has ended. -/
def step (m : EraseLoop σ α) : Option (EraseLoop σ α) :=
  match m.pc, m.ahead with
  | .check, [] => some { m with pc := .done }
  | .check, _ :: _ => some { m with pc := .body }
  | .body, [] => some { m with pc := .fault }
  | .body, a :: l =>
    -- the iterator that `erase` returns stands on the following element
    if p a then some { m with
      pc := .header
      state := f m.state a
      visited := m.visited ++ [a]
      erased := m.erased ++ [a]
      ahead := l }
    else some { m with pc := .header, visited := m.visited ++ [a] }
  | .header, [] => some { m with pc := .fault }
  | .header, a :: l => some { m with pc := .check, behind := m.behind ++ [a], ahead := l }
  | .done, _ => none
  | .fault, _ => none

/-- The states that the loop gets to. -/
def Reaches : EraseLoop σ α → EraseLoop σ α → Prop :=
  Relation.ReflTransGen fun m m' => step p f m = some m'

variable {p f}

theorem Reaches.cons {m m' m'' : EraseLoop σ α} (h : step p f m = some m')
    (h' : Reaches p f m' m'') : Reaches p f m m'' :=
  Relation.ReflTransGen.head h h'

/-- The loop has one run: what it gets to lies on the way to its end. -/
theorem Reaches.to_end {m m' e : EraseLoop σ α} (h : Reaches p f m m') (he : Reaches p f m e)
    (hend : step p f e = none) : Reaches p f m' e := by
  have hunique : Relator.RightUnique fun m m' : EraseLoop σ α => step p f m = some m' := by
    intro a b c hb hc
    exact Option.some.inj (hb.symm.trans hc)
  rcases Relation.ReflTransGen.total_of_right_unique hunique h he with hto | hfrom
  · exact hto
  · rcases Relation.ReflTransGen.cases_head hfrom with heq | ⟨e', he', -⟩
    · rw [heq]
      exact Relation.ReflTransGen.refl
    · rw [hend] at he'
      cases he'

/-- The state in which a run ends is the only one. -/
theorem Reaches.eq_end {m m' e : EraseLoop σ α} (h : Reaches p f m m') (he : Reaches p f m e)
    (hend : step p f e = none) (hend' : step p f m' = none) : m' = e := by
  rcases Relation.ReflTransGen.cases_head (h.to_end he hend) with heq | ⟨e', he', -⟩
  · exact heq
  · rw [hend'] at he'
    cases he'

end EraseLoop

/-! ### The outcome -/

/-- The elements that the loop dereferences: the one after an erased element is skipped. -/
def visits (p : α → Bool) : List α → List α
  | [] => []
  | [a] => [a]
  | a :: b :: l => if p a then a :: visits p l else a :: visits p (b :: l)

/-- The state in which the loop ends. -/
def EraseLoop.outcome (p : α → Bool) (f : σ → α → σ) (m : EraseLoop σ α) : EraseLoop σ α where
  pc := if (sweep p f m.state m.ahead).pastEnd then .fault else .done
  state := (sweep p f m.state m.ahead).state
  visited := m.visited ++ visits p m.ahead
  erased := m.erased ++ (sweep p f m.state m.ahead).erased
  behind := m.behind ++ (sweep p f m.state m.ahead).kept
  ahead := []

theorem step_outcome (p : α → Bool) (f : σ → α → σ) (m : EraseLoop σ α) :
    EraseLoop.step p f (m.outcome p f) = none := by
  unfold EraseLoop.outcome
  cases (sweep p f m.state m.ahead).pastEnd <;> rfl

/-- **The loop terminates with the outcome of `sweep`.** -/
theorem reaches_sweep (p : α → Bool) (f : σ → α → σ) (s : σ) (l : List α)
    (visited erased behind : List α) :
    EraseLoop.Reaches p f ⟨.check, s, visited, erased, behind, l⟩
      (EraseLoop.outcome p f ⟨.check, s, visited, erased, behind, l⟩) := by
  fun_induction sweep p f s l generalizing visited erased behind with
  | case1 s =>
    refine .cons rfl ?_
    simp only [EraseLoop.outcome, sweep, visits, List.append_nil]
    exact Relation.ReflTransGen.refl
  | case2 s a ha =>
    refine .cons rfl (.cons (by simp only [EraseLoop.step]; rw [if_pos ha]) (.cons rfl ?_))
    simp only [EraseLoop.outcome, sweep, visits, ha, if_true, List.append_nil]
    exact Relation.ReflTransGen.refl
  | case3 s a ha =>
    refine .cons rfl (.cons (by simp only [EraseLoop.step]; rw [if_neg ha]) (.cons rfl
      (.cons rfl ?_)))
    simp only [EraseLoop.outcome, sweep, visits, ha, Bool.false_eq_true, if_false,
      List.append_nil]
    exact Relation.ReflTransGen.refl
  | case4 s a b l ha ih =>
    -- `a` is erased, and the header moves over `b`
    refine .cons rfl (.cons (by simp only [EraseLoop.step]; rw [if_pos ha]) (.cons rfl ?_))
    have hrest := ih (visited ++ [a]) (erased ++ [a]) (behind ++ [b])
    simp only [EraseLoop.outcome, sweep, visits, ha, if_true, Sweep.keep, Sweep.erase] at hrest ⊢
    simpa only [List.append_assoc, List.singleton_append] using hrest
  | case5 s a b l ha ih =>
    refine .cons rfl (.cons (by simp only [EraseLoop.step]; rw [if_neg ha]) (.cons rfl ?_))
    have hrest := ih (visited ++ [a]) erased (behind ++ [a])
    simp only [EraseLoop.outcome, sweep, visits, ha, Sweep.keep] at hrest ⊢
    simpa only [List.append_assoc, List.singleton_append, Bool.false_eq_true, if_false] using hrest

/-- Every erasure costs the visit of an element, or is the last one. -/
theorem length_visits (p : α → Bool) (f : σ → α → σ) (s : σ) (l : List α) :
    (visits p l).length + (sweep p f s l).erased.length =
      l.length + if (sweep p f s l).pastEnd then 1 else 0 := by
  fun_induction sweep p f s l with
  | case1 s => rfl
  | case2 s a ha => rfl
  | case3 s a ha => rfl
  | case4 s a b l ha ih =>
    show _ + ((sweep p f (f s a) l).erased.length + 1) =
      l.length + 1 + 1 + if (sweep p f (f s a) l).pastEnd then 1 else 0
    rw [visits, if_pos ha, List.length_cons]
    omega
  | case5 s a b l ha ih =>
    show _ + (sweep p f s (b :: l)).erased.length =
      (b :: l).length + 1 + if (sweep p f s (b :: l)).pastEnd then 1 else 0
    rw [visits, if_neg ha, List.length_cons]
    omega

/-- Without an element to erase, the loop goes through the list. -/
theorem visits_eq_self {p : α → Bool} {l : List α} (h : ∀ a ∈ l, p a = false) :
    visits p l = l := by
  fun_induction visits p l with
  | case1 => rfl
  | case2 a => rfl
  | case3 a b l ha ih =>
    rw [h a List.mem_cons_self] at ha
    cases ha
  | case4 a b l ha ih => rw [ih fun c hc => h c (List.mem_cons_of_mem a hc)]

/-- The first element to erase is erased. -/
theorem forall_of_erased_eq_nil {p : α → Bool} {f : σ → α → σ} {s : σ} {l : List α}
    (h : (sweep p f s l).erased = []) : ∀ a ∈ l, p a = false := by
  fun_induction sweep p f s l with
  | case1 s => simp
  | case2 s a ha => cases h
  | case3 s a ha => simpa using ha
  | case4 s a b l ha ih => cases h
  | case5 s a b l ha ih =>
    intro c hc
    rcases List.mem_cons.mp hc with rfl | hc
    · simpa using ha
    · exact ih h c hc

/-! ### Loops that visit all elements -/

/-- The loop terminates, dereferences every element once, and leaves the end iterator
alone. -/
structure VisitsAll (p : α → Bool) (f : σ → α → σ) (s : σ) (l : List α) : Prop where
  terminates : ∃ e, EraseLoop.Reaches p f (.start s l) e ∧ EraseLoop.step p f e = none
  safe : ∀ m, EraseLoop.Reaches p f (.start s l) m → m.pc ≠ .fault
  visited_perm : ∀ e, EraseLoop.Reaches p f (.start s l) e → EraseLoop.step p f e = none →
    e.visited.Perm l

/-- **The loop visits all elements exactly if there is none to erase.** -/
theorem visitsAll_iff (p : α → Bool) (f : σ → α → σ) (s : σ) (l : List α) :
    VisitsAll p f s l ↔ ∀ a ∈ l, p a = false := by
  have hreach := reaches_sweep p f s l [] [] []
  have hend := step_outcome p f (.start s l)
  constructor
  · intro h
    have hperm : (visits p l).Perm l := h.visited_perm _ hreach hend
    have hsafe := h.safe _ hreach
    have hpast : (sweep p f s l).pastEnd = false := by
      cases hpast : (sweep p f s l).pastEnd with
      | false => rfl
      | true => exact absurd (if_pos hpast) hsafe
    have hlength := length_visits p f s l
    rw [hperm.length_eq, hpast, if_neg Bool.false_ne_true] at hlength
    have herased : (sweep p f s l).erased.length = 0 := by omega
    exact forall_of_erased_eq_nil (List.length_eq_zero_iff.mp herased)
  · intro h
    obtain ⟨-, -, hpast⟩ := sweep_of_sparse (f := f) (s := s) (sparse_of_forall h)
    refine ⟨⟨_, hreach, hend⟩, ?_, ?_⟩
    · intro m hm hfault
      -- a fault would be the end of the loop
      have hmend : EraseLoop.step p f m = none := by
        unfold EraseLoop.step
        rw [hfault]
      have hpc := congrArg EraseLoop.pc (hm.eq_end hreach hend hmend)
      rw [hfault] at hpc
      unfold EraseLoop.outcome at hpc
      simp only [hpast] at hpc
      cases hpc
    · intro e he heend
      rw [he.eq_end hreach hend heend]
      show (visits p l).Perm l
      rw [visits_eq_self h]

end Foundation
