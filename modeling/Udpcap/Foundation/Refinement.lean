import Mathlib.Data.List.Basic
import Mathlib.Data.Option.Basic

/-!
# Refinement

A system whose steps may be seen from outside, against a specification that says which
sequences of events are allowed.

## Main definitions

* `observe` — a run together with the events that are seen of it.
* `Allows` — the specification allows a sequence of events.

## Main results

* `allows_of_simulation` — **forward simulation**: if every step of the system is followed
  by the specification, or not seen at all, the specification allows what is seen of any
  run.
-/

namespace Foundation

variable {σ τ α β : Type*}

/-- The run of the labels `ls`, and the events that are seen of it; a step that is not seen
has none. -/
def observe (step : σ → α → Option (σ × Option β)) : σ → List α → Option (σ × List β)
  | s, [] => some (s, [])
  | s, a :: ls => (step s a).bind fun o =>
    (observe step o.1 ls).map fun r => (r.1, o.2.toList ++ r.2)

theorem observe_cons_eq_some {step : σ → α → Option (σ × Option β)} {s t : σ} {a : α}
    {ls : List α} {bs : List β} : observe step s (a :: ls) = some (t, bs) ↔
      ∃ s' b later, step s a = some (s', b) ∧ observe step s' ls = some (t, later) ∧
        bs = b.toList ++ later := by
  rw [observe, Option.bind_eq_some_iff]
  constructor
  · rintro ⟨⟨s', b⟩, hstep, h⟩
    obtain ⟨⟨t', later⟩, hlater, heq⟩ := Option.map_eq_some_iff.mp h
    cases heq
    exact ⟨s', b, later, hstep, hlater, rfl⟩
  · rintro ⟨s', b, later, hstep, hlater, rfl⟩
    exact ⟨(s', b), hstep, Option.map_eq_some_iff.mpr ⟨(t, later), hlater, rfl⟩⟩

/-- The specification leads from one state to another by a sequence of events. -/
inductive Allows (spec : τ → β → τ → Prop) : τ → List β → τ → Prop
  | nil (t : τ) : Allows spec t [] t
  | cons {t t' t'' : τ} {b : β} {bs : List β} (head : spec t b t') (tail : Allows spec t' bs t'') :
    Allows spec t (b :: bs) t''

/-- **Forward simulation.** -/
theorem allows_of_simulation {step : σ → α → Option (σ × Option β)} {spec : τ → β → τ → Prop}
    {R : σ → τ → Prop}
    (hsim : ∀ s t a s' b, R s t → step s a = some (s', b) →
      (b = none ∧ R s' t) ∨ ∃ c t', b = some c ∧ spec t c t' ∧ R s' t') :
    ∀ {ls : List α} {s s' : σ} {t : τ} {bs : List β}, R s t → observe step s ls = some (s', bs) →
      ∃ t', Allows spec t bs t' ∧ R s' t' := by
  intro ls
  induction ls with
  | nil =>
    intro s s' t bs hR h
    cases h
    exact ⟨t, .nil t, hR⟩
  | cons a ls ih =>
    intro s s' t bs hR h
    obtain ⟨s₁, b, later, hstep, hlater, rfl⟩ := observe_cons_eq_some.mp h
    rcases hsim s t a s₁ b hR hstep with ⟨rfl, hR₁⟩ | ⟨c, t₁, rfl, hspec, hR₁⟩
    · exact ih hR₁ hlater
    · obtain ⟨t', hallows, hR'⟩ := ih hR₁ hlater
      exact ⟨t', .cons hspec hallows, hR'⟩

end Foundation
