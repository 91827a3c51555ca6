import Mathlib.Data.List.Basic
import Mathlib.Data.Option.Basic

/-!
# Runs of deterministic labelled transition systems

A system is a partial step function `step : σ → α → Option σ`: the label says
everything the environment decides, so a run is a list of labels.  `none` means
that the label is not enabled.

## Main definitions

* `run step s ls` — the state after the labels `ls`, when all of them are enabled.
* `StepsMeet step C s ls` — every step of the run meets the side condition `C`.
* `HoldsAlong step P s ls` — every state of the run has the property `P`.
* `outputs step s ls` — the outputs of a run of a system that also answers.

## Main results

* `holdsAlong_of_invariant` — **what holds initially and is preserved by every step
  holds in every state of every run.**
* `holdsAlong_of_stepsMeet` — the same along one run whose steps meet a side
  condition.
* `length_le_of_ranking` — a run whose steps lower a rank is no longer than the rank.
* `outputs_eq_of_simulation` — a simulation that matches every step meeting a
  side condition makes the outputs of two systems agree.
-/

namespace Foundation

variable {σ τ α β : Type*}

/-! ### Runs -/

/-- The state after the labels `ls`; `none` when some label is not enabled. -/
def run (step : σ → α → Option σ) : σ → List α → Option σ
  | s, [] => some s
  | s, a :: ls => (step s a).bind fun s' => run step s' ls

@[simp] theorem run_nil (step : σ → α → Option σ) (s : σ) : run step s [] = some s := rfl

theorem run_cons (step : σ → α → Option σ) (s : σ) (a : α) (ls : List α) :
    run step s (a :: ls) = (step s a).bind fun s' => run step s' ls := rfl

theorem run_cons_eq_some {step : σ → α → Option σ} {s t : σ} {a : α} {ls : List α} :
    run step s (a :: ls) = some t ↔ ∃ s', step s a = some s' ∧ run step s' ls = some t := by
  rw [run_cons, Option.bind_eq_some_iff]

theorem run_append (step : σ → α → Option σ) (s : σ) (ls ms : List α) :
    run step s (ls ++ ms) = (run step s ls).bind fun s' => run step s' ms := by
  induction ls generalizing s with
  | nil => rfl
  | cons a ls ih =>
    rw [List.cons_append, run_cons, run_cons, Option.bind_assoc]
    congr 1
    funext s'
    exact ih s'

/-- **Lockstep.** If related states stay related at every step that the first of them can
take, the second one follows every run of the first. -/
theorem run_of_lockstep {step : σ → α → Option σ} {step' : τ → α → Option τ} {R : σ → τ → Prop}
    (hstep : ∀ s t a s', R s t → step s a = some s' → ∃ t', step' t a = some t' ∧ R s' t') :
    ∀ {ls : List α} {s s' : σ} {t : τ}, R s t → run step s ls = some s' →
      ∃ t', run step' t ls = some t' ∧ R s' t' := by
  intro ls
  induction ls with
  | nil =>
    intro s s' t hR hrun
    cases hrun
    exact ⟨t, rfl, hR⟩
  | cons a ls ih =>
    intro s s' t hR hrun
    obtain ⟨s₁, hs₁, hrun'⟩ := run_cons_eq_some.mp hrun
    obtain ⟨t₁, ht₁, hR₁⟩ := hstep s t a s₁ hR hs₁
    obtain ⟨t', ht', hR'⟩ := ih hR₁ hrun'
    exact ⟨t', run_cons_eq_some.mpr ⟨t₁, ht₁, ht'⟩, hR'⟩

/-! ### Runs whose steps meet a side condition -/

/-- Every step of the run of `ls` from `s` meets `C`; steps after a label that
is not enabled are not constrained. -/
def StepsMeet (step : σ → α → Option σ) (C : σ → α → Prop) : σ → List α → Prop
  | _, [] => True
  | s, a :: ls => C s a ∧ ∀ s', step s a = some s' → StepsMeet step C s' ls

@[simp] theorem stepsMeet_nil (step : σ → α → Option σ) (C : σ → α → Prop) (s : σ) :
    StepsMeet step C s [] := trivial

theorem stepsMeet_cons {step : σ → α → Option σ} {C : σ → α → Prop} {s : σ} {a : α}
    {ls : List α} : StepsMeet step C s (a :: ls) ↔
      C s a ∧ ∀ s', step s a = some s' → StepsMeet step C s' ls := Iff.rfl

theorem stepsMeet_of_forall {step : σ → α → Option σ} {C : σ → α → Prop} (h : ∀ s a, C s a)
    (ls : List α) (s : σ) : StepsMeet step C s ls := by
  induction ls generalizing s with
  | nil => trivial
  | cons a ls ih => exact ⟨h s a, fun s' _ => ih s'⟩

theorem stepsMeet_of_forall_mem {step : σ → α → Option σ} {C : α → Prop} {ls : List α}
    (h : ∀ a ∈ ls, C a) (s : σ) : StepsMeet step (fun _ a => C a) s ls := by
  induction ls generalizing s with
  | nil => trivial
  | cons a ls ih =>
    obtain ⟨ha, hls⟩ := List.forall_mem_cons.mp h
    exact ⟨ha, fun s' _ => ih hls s'⟩

theorem stepsMeet_congr {step : σ → α → Option σ} {C D : σ → α → Prop} (h : ∀ s a, C s a ↔ D s a)
    {s : σ} {ls : List α} : StepsMeet step C s ls ↔ StepsMeet step D s ls := by
  have hCD : C = D := funext fun s => funext fun a => propext (h s a)
  rw [hCD]

theorem stepsMeet_and {step : σ → α → Option σ} {C D : σ → α → Prop} {s : σ} {ls : List α} :
    StepsMeet step (fun s a => C s a ∧ D s a) s ls ↔
      StepsMeet step C s ls ∧ StepsMeet step D s ls := by
  induction ls generalizing s with
  | nil => simp
  | cons a ls ih =>
    simp only [stepsMeet_cons, ih]
    constructor
    · rintro ⟨⟨hC, hD⟩, h⟩
      exact ⟨⟨hC, fun s' hs' => (h s' hs').1⟩, hD, fun s' hs' => (h s' hs').2⟩
    · rintro ⟨⟨hC, h⟩, hD, h'⟩
      exact ⟨⟨hC, hD⟩, fun s' hs' => ⟨h s' hs', h' s' hs'⟩⟩

instance StepsMeet.decidable (step : σ → α → Option σ) (C : σ → α → Prop)
    [∀ s a, Decidable (C s a)] : (s : σ) → (ls : List α) → Decidable (StepsMeet step C s ls)
  | _, [] => isTrue trivial
  | s, a :: ls =>
    match h : step s a with
    | none => decidable_of_iff (C s a) (by simp [stepsMeet_cons, h])
    | some s' =>
      have := StepsMeet.decidable step C s' ls
      decidable_of_iff (C s a ∧ StepsMeet step C s' ls) (by simp [stepsMeet_cons, h])

/-- `P` holds in every state of the run of `ls` from `s`. -/
def HoldsAlong (step : σ → α → Option σ) (P : σ → Prop) : σ → List α → Prop
  | s, [] => P s
  | s, a :: ls => P s ∧ ∀ s', step s a = some s' → HoldsAlong step P s' ls

theorem HoldsAlong.head {step : σ → α → Option σ} {P : σ → Prop} {s : σ} {ls : List α}
    (h : HoldsAlong step P s ls) : P s := by
  cases ls with
  | nil => exact h
  | cons a ls => exact h.1

theorem HoldsAlong.mono {step : σ → α → Option σ} {P Q : σ → Prop} (hPQ : ∀ s, P s → Q s) :
    ∀ {ls : List α} {s : σ}, HoldsAlong step P s ls → HoldsAlong step Q s ls := by
  intro ls
  induction ls with
  | nil => intro s h; exact hPQ s h
  | cons a ls ih => intro s h; exact ⟨hPQ s h.1, fun s' hs' => ih (h.2 s' hs')⟩

theorem holdsAlong_and {step : σ → α → Option σ} {P Q : σ → Prop} {s : σ} {ls : List α} :
    HoldsAlong step (fun s => P s ∧ Q s) s ls ↔
      HoldsAlong step P s ls ∧ HoldsAlong step Q s ls := by
  constructor
  · intro h
    exact ⟨h.mono fun _ hs => hs.1, h.mono fun _ hs => hs.2⟩
  · induction ls generalizing s with
    | nil => exact id
    | cons a ls ih =>
      rintro ⟨⟨hP, hPs⟩, hQ, hQs⟩
      exact ⟨⟨hP, hQ⟩, fun s' hs' => ih ⟨hPs s' hs', hQs s' hs'⟩⟩

/-- What holds along a run holds before each of its steps. -/
theorem HoldsAlong.before {step : σ → α → Option σ} {P : σ → Prop} :
    ∀ {ls : List α} {s : σ}, HoldsAlong step P s ls → StepsMeet step (fun s _ => P s) s ls := by
  intro ls
  induction ls with
  | nil => intro s _; trivial
  | cons a ls ih => intro s h; exact ⟨h.1, fun s' hs' => ih (h.2 s' hs')⟩

/-- What holds along a run holds at its end. -/
theorem HoldsAlong.last {step : σ → α → Option σ} {P : σ → Prop} :
    ∀ {ls : List α} {s t : σ}, HoldsAlong step P s ls → run step s ls = some t → P t := by
  intro ls
  induction ls with
  | nil =>
    intro s t h hrun
    cases hrun
    exact h
  | cons a ls ih =>
    intro s t h hrun
    obtain ⟨s', hs', ht⟩ := run_cons_eq_some.mp hrun
    exact ih (h.2 s' hs') ht

/-- A run whose end is checked not to have a property. -/
theorem not_holdsAlong {step : σ → α → Option σ} {P : σ → Prop} {s : σ} {ls : List α}
    (test : σ → Bool) (htest : ∀ t, test t = true → ¬P t)
    (hrun : (run step s ls).any test = true) : ¬HoldsAlong step P s ls := by
  intro h
  obtain ⟨t, ht, hend⟩ := (Option.any_eq_true _ _).mp hrun
  exact htest t hend (h.last ht)

/-- An invariant of the steps that meet `C` holds along a run whose steps all do. -/
theorem holdsAlong_of_stepsMeet {step : σ → α → Option σ} {C : σ → α → Prop} {I P : σ → Prop}
    (hP : ∀ s, I s → P s) (hstep : ∀ s a t, I s → C s a → step s a = some t → I t) :
    ∀ {ls : List α} {s : σ}, I s → StepsMeet step C s ls → HoldsAlong step P s ls := by
  intro ls
  induction ls with
  | nil => intro s hI _; exact hP s hI
  | cons a ls ih =>
    intro s hI hC
    obtain ⟨hCa, hCls⟩ := stepsMeet_cons.mp hC
    exact ⟨hP s hI, fun s' hs' => ih (hstep s a s' hI hCa hs') (hCls s' hs')⟩

/-- An invariant holds along every run. -/
theorem holdsAlong_of_invariant {step : σ → α → Option σ} {I P : σ → Prop} (hP : ∀ s, I s → P s)
    (hstep : ∀ s a t, I s → step s a = some t → I t) :
    ∀ {ls : List α} {s : σ}, I s → HoldsAlong step P s ls := by
  intro ls
  induction ls with
  | nil => intro s hI; exact hP s hI
  | cons a ls ih => intro s hI; exact ⟨hP s hI, fun s' hs' => ih (hstep s a s' hI hs')⟩

/-- **Ranking.** While a run stays in states whose steps lower a rank, it takes no more steps
than the rank says. -/
theorem length_le_of_ranking {step : σ → α → Option σ} {I P : σ → Prop} {rank : σ → ℕ}
    (hI : ∀ s a t, I s → step s a = some t → I t)
    (hrank : ∀ s a t, I s → P s → step s a = some t → rank t < rank s) :
    ∀ {ls : List α} {s t : σ}, I s → HoldsAlong step P s ls → run step s ls = some t →
      ls.length ≤ rank s := by
  intro ls
  induction ls with
  | nil => intro s t _ _ _; exact Nat.zero_le _
  | cons a ls ih =>
    intro s t hs hP hrun
    obtain ⟨s', hs', hrun'⟩ := run_cons_eq_some.mp hrun
    have hrest := ih (hI s a s' hs hs') (hP.2 s' hs') hrun'
    have hless := hrank s a s' hs hP.1 hs'
    rw [List.length_cons]
    omega

/-- Along a run whose steps meet `C`, every step meets what the invariant and `C` imply. -/
theorem StepsMeet.mono_of_invariant {step : σ → α → Option σ} {C D : σ → α → Prop} {I : σ → Prop}
    (hD : ∀ s a, I s → C s a → D s a) (hstep : ∀ s a t, I s → C s a → step s a = some t → I t) :
    ∀ {ls : List α} {s : σ}, I s → StepsMeet step C s ls → StepsMeet step D s ls := by
  intro ls
  induction ls with
  | nil => intro s _ _; trivial
  | cons a ls ih =>
    intro s hI hC
    obtain ⟨hCa, hCls⟩ := stepsMeet_cons.mp hC
    exact ⟨hD s a hI hCa, fun s' hs' => ih (hstep s a s' hI hCa hs') (hCls s' hs')⟩

/-- If a step that does not meet `C` leads out of `P`, a run that stays in `P` meets
`C` at every step. -/
theorem HoldsAlong.stepsMeet {step : σ → α → Option σ} {C : σ → α → Prop} {P : σ → Prop}
    (hleave : ∀ s a, P s → ¬C s a → ∃ t, step s a = some t ∧ ¬P t) :
    ∀ {ls : List α} {s : σ}, HoldsAlong step P s ls → StepsMeet step C s ls := by
  intro ls
  induction ls with
  | nil => intro s _; trivial
  | cons a ls ih =>
    intro s h
    refine ⟨?_, fun s' hs' => ih (h.2 s' hs')⟩
    by_contra hC
    obtain ⟨t, ht, hPt⟩ := hleave s a h.1 hC
    exact hPt (h.2 t ht).head

/-! ### Systems with outputs -/

/-- The system that forgets the outputs. -/
def silent (step : σ → α → Option (σ × β)) : σ → α → Option σ :=
  fun s a => (step s a).map Prod.fst

theorem silent_eq_some {step : σ → α → Option (σ × β)} {s t : σ} {a : α} :
    silent step s a = some t ↔ ∃ b, step s a = some (t, b) := by
  simp [silent]

/-- The outputs of a run; `none` when some label is not enabled. -/
def outputs (step : σ → α → Option (σ × β)) : σ → List α → Option (List β)
  | _, [] => some []
  | s, a :: ls => (step s a).bind fun o => (outputs step o.1 ls).map (o.2 :: ·)

/-- **Simulation.** If related states answer alike and stay related at every
step that meets `C`, a run whose steps all meet `C` has the same outputs in the
two systems. -/
theorem outputs_eq_of_simulation {step : σ → α → Option (σ × β)} {ref : τ → α → Option (τ × β)}
    {C : σ → α → Prop} {R : σ → τ → Prop}
    (hsim : ∀ s t a, R s t → C s a →
      ∃ s' t' b, step s a = some (s', b) ∧ ref t a = some (t', b) ∧ R s' t') :
    ∀ {ls : List α} {s : σ} {t : τ}, R s t → StepsMeet (silent step) C s ls →
      ∃ bs, outputs step s ls = some bs ∧ outputs ref t ls = some bs := by
  intro ls
  induction ls with
  | nil => intro s t _ _; exact ⟨[], rfl, rfl⟩
  | cons a ls ih =>
    intro s t hR hC
    obtain ⟨hCa, hCls⟩ := stepsMeet_cons.mp hC
    obtain ⟨s', t', b, hs, ht, hR'⟩ := hsim s t a hR hCa
    obtain ⟨bs, hbs, hbt⟩ := ih hR' (hCls s' (silent_eq_some.mpr ⟨b, hs⟩))
    refine ⟨b :: bs, ?_, ?_⟩
    · simp [outputs, hs, hbs]
    · simp [outputs, ht, hbt]

end Foundation
