import Mathlib.Data.List.Basic
import Udpcap.Foundation.CriticalSection
import Udpcap.Foundation.Transition

/-!
# Footprints

Which cells of a shared state a step reads and writes.  Two steps of different threads race
when one of them writes a cell that the other one touches; where they do not, it makes no
difference which of them comes first.

## Main definitions

* `Cells` — a state that consists of cells.
* `Footprint`, `Footprint.Conflicts` — what a step touches, and when two steps race.
* `Within` — a step keeps to a footprint.
* `Prog.Within` — every access of a program does.
* `eitherStep` — two parties that take steps on one state.

## Main results

* `Within.commute` — **steps whose footprints do not conflict commute.**
* `Commutes.run_eitherStep` — **runs of two parties whose steps commute**: the first party may
  run before the second one.
-/

namespace Foundation

variable {μ σ ρ ρ' : Type}

/-! ### Cells -/

/-- A state that consists of cells, and of nothing else. -/
structure Cells (μ σ : Type) where
  Value : μ → Type
  read : (m : μ) → σ → Value m
  ext : ∀ s t, (∀ m, read m s = read m t) → s = t

/-- The cells that a step reads and writes. -/
structure Footprint (μ : Type) where
  reads : List μ
  writes : List μ
  deriving DecidableEq, Repr

namespace Footprint

/-- The footprint of a step that does nothing. -/
def empty : Footprint μ := ⟨[], []⟩

def Touches (f : Footprint μ) (m : μ) : Prop := m ∈ f.reads ∨ m ∈ f.writes

/-- One step writes a cell that the other one touches. -/
def Conflicts (f g : Footprint μ) : Prop :=
  ∃ m, (m ∈ f.writes ∧ g.Touches m) ∨ (f.Touches m ∧ m ∈ g.writes)

theorem Conflicts.symm {f g : Footprint μ} (h : f.Conflicts g) : g.Conflicts f := by
  obtain ⟨m, ⟨hf, hg⟩ | ⟨hf, hg⟩⟩ := h
  · exact ⟨m, Or.inr ⟨hg, hf⟩⟩
  · exact ⟨m, Or.inl ⟨hg, hf⟩⟩

@[simp] theorem not_conflicts_empty (f : Footprint μ) : ¬f.Conflicts empty := by
  simp [Conflicts, Touches, empty]

@[simp] theorem not_empty_conflicts (f : Footprint μ) : ¬empty.Conflicts f :=
  fun h => f.not_conflicts_empty h.symm

/-- A conflict is looked for among the cells that are written. -/
theorem conflicts_iff {f g : Footprint μ} :
    f.Conflicts g ↔ (∃ m ∈ f.writes, g.Touches m) ∨ ∃ m ∈ g.writes, f.Touches m := by
  constructor
  · rintro ⟨m, ⟨hf, hg⟩ | ⟨hf, hg⟩⟩
    · exact Or.inl ⟨m, hf, hg⟩
    · exact Or.inr ⟨m, hg, hf⟩
  · rintro (⟨m, hf, hg⟩ | ⟨m, hg, hf⟩)
    · exact ⟨m, Or.inl ⟨hf, hg⟩⟩
    · exact ⟨m, Or.inr ⟨hf, hg⟩⟩

/-- A step that writes one cell conflicts with those that touch it. -/
theorem conflicts_write_iff {f : Footprint μ} {m : μ} :
    f.Conflicts ⟨[], [m]⟩ ↔ f.Touches m := by
  rw [conflicts_iff]
  constructor
  · rintro (⟨m', hm', hread | hwrite⟩ | ⟨m', hm', htouches⟩)
    · cases hread
    · exact List.mem_singleton.mp hwrite ▸ Or.inr hm'
    · exact List.mem_singleton.mp hm' ▸ htouches
  · exact fun htouches => Or.inr ⟨m, List.mem_singleton_self m, htouches⟩

theorem not_conflicts_left {f g : Footprint μ} (h : ¬f.Conflicts g) {m : μ} (hm : m ∈ f.writes) :
    ¬g.Touches m :=
  fun hg => h ⟨m, Or.inl ⟨hm, hg⟩⟩

end Footprint

variable (c : Cells μ σ)

/-- Two states agree on all cells that are touched. -/
def Cells.Agree (f : Footprint μ) (s t : σ) : Prop := ∀ m, f.Touches m → c.read m s = c.read m t

/-! ### Steps that keep to a footprint -/

/-- **In the state `s`, a step keeps to a footprint**: what it does depends on the cells that it
touches alone, and it changes no cell that it does not write. -/
structure Within (f : Footprint μ) (step : σ → Option (σ × ρ)) (s : σ) : Prop where
  /-- The step reads nothing else. -/
  local_iff : ∀ t, c.Agree f s t → ∀ r, (∃ s', step s = some (s', r)) ↔ ∃ t', step t = some (t', r)
  /-- What it writes depends on nothing else. -/
  writes : ∀ t, c.Agree f s t → ∀ r s' t', step s = some (s', r) → step t = some (t', r) →
    ∀ m ∈ f.writes, c.read m s' = c.read m t'
  /-- It writes nothing else. -/
  frame : ∀ t, c.Agree f s t → ∀ r t', step t = some (t', r) →
    ∀ m, m ∉ f.writes → c.read m t' = c.read m t

namespace Within

variable {c} {f g : Footprint μ} {step : σ → Option (σ × ρ)} {step' : σ → Option (σ × ρ')}
  {s s' t : σ} {r : ρ} {q : ρ'}

/-- A step leaves what another one touches, if they do not conflict. -/
theorem agree_of_step (h : Within c f step s) (hfg : ¬f.Conflicts g)
    (hstep : step s = some (s', r)) : c.Agree g s s' := by
  intro m hm
  have hwrites : m ∉ f.writes := fun hf => Footprint.not_conflicts_left hfg hf hm
  exact (h.frame s (fun _ _ => rfl) r s' hstep m hwrites).symm

/-- **Two steps whose footprints do not conflict**, the one after the other, can also be taken
in the other order. -/
theorem swap (hf : Within c f step s) (hg : Within c g step' s) (hfg : ¬f.Conflicts g)
    (hstep : step s = some (s', r)) (hstep' : step' s' = some (t, q)) :
    ∃ u, step' s = some (u, q) ∧ step u = some (t, r) := by
  have hagree := hf.agree_of_step hfg hstep
  obtain ⟨u, hu⟩ := (hg.local_iff s' hagree q).mpr ⟨t, hstep'⟩
  have hagree' := hg.agree_of_step (fun h => hfg h.symm) hu
  obtain ⟨v, hv⟩ := (hf.local_iff u hagree' r).mp ⟨s', hstep⟩
  refine ⟨u, hu, ?_⟩
  have hvt : v = t := by
    apply c.ext
    intro m
    by_cases hmf : m ∈ f.writes
    · -- written by the first step only
      have hmg : m ∉ g.writes := fun h => Footprint.not_conflicts_left hfg hmf (Or.inr h)
      rw [← hf.writes u hagree' r s' v hstep hv m hmf]
      exact (hg.frame s' hagree q t hstep' m hmg).symm
    · rw [hf.frame u hagree' r v hv m hmf]
      by_cases hmg : m ∈ g.writes
      · exact hg.writes s' hagree q u t hu hstep' m hmg
      · rw [hg.frame s (fun _ _ => rfl) q u hu m hmg, hg.frame s' hagree q t hstep' m hmg]
        exact (hf.frame s (fun _ _ => rfl) r s' hstep m hmf).symm
  rw [hv, hvt]

/-- **Steps whose footprints do not conflict commute.** -/
theorem commute (hf : Within c f step s) (hg : Within c g step' s) (hfg : ¬f.Conflicts g) :
    ((step s).bind fun o => (step' o.1).map fun o' => (o'.1, o.2, o'.2)) =
      (step' s).bind fun o' => (step o'.1).map fun o => (o.1, o.2, o'.2) := by
  ext ⟨t, r, q⟩
  simp only [Option.bind_eq_some_iff, Option.map_eq_some_iff, Prod.exists, Prod.mk.injEq]
  constructor
  · rintro ⟨s', r, hs', t, q, ht, rfl, rfl, rfl⟩
    obtain ⟨u, hu, hut⟩ := hf.swap hg hfg hs' ht
    exact ⟨u, q, hu, t, r, hut, rfl, rfl, rfl⟩
  · rintro ⟨u, q, hu, t, r, ht, rfl, rfl, rfl⟩
    obtain ⟨s', hs', hst⟩ := hg.swap hf (fun h => hfg h.symm) hu ht
    exact ⟨s', r, hs', t, q, hst, rfl, rfl, rfl⟩

/-- A step that can be replayed on every state with the same footprint. -/
theorem of_replay (replay : σ → σ → σ)
    (hin : ∀ t u, ∀ m ∈ f.writes, c.read m (replay t u) = c.read m u)
    (hout : ∀ t u, ∀ m, m ∉ f.writes → c.read m (replay t u) = c.read m t)
    (h : ∀ t, c.Agree f s t → step t = (step s).map fun o => (replay t o.1, o.2)) :
    Within c f step s := by
  refine ⟨fun t ht r => ?_, fun t ht r s' t' hs' ht' m hm => ?_,
    fun t ht r t' ht' m hm => ?_⟩
  · rw [h t ht]
    cases step s <;> simp [Prod.ext_iff]
  · rw [h t ht, hs'] at ht'
    obtain ⟨rfl, -⟩ := Prod.mk.inj (Option.some.inj ht')
    exact (hin t s' m hm).symm
  · rw [h t ht] at ht'
    obtain ⟨o, -, ho⟩ := Option.map_eq_some_iff.mp ht'
    obtain ⟨rfl, -⟩ := Prod.mk.inj ho
    exact hout t o.1 m hm

end Within

/-! ### Programs that keep to a footprint -/

namespace Prog

/-- Every access of the program keeps to the footprint. -/
def Within (c : Cells μ σ) (f : Footprint μ) : Prog σ ρ → Prop
  | .done _ => True
  | .access write next =>
    (∀ s, Foundation.Within c f (fun t => some (write t, next t)) s) ∧ ∀ s, Within c f (next s)

variable {c} {f : Footprint μ}

@[simp] theorem within_done (result : ρ) : (Prog.done result : Prog σ ρ).Within c f := trivial

theorem within_access {write : σ → σ} {next : σ → Prog σ ρ}
    (hlocal : ∀ s t, c.Agree f s t → next s = next t)
    (hwrites : ∀ s t, c.Agree f s t → ∀ m ∈ f.writes, c.read m (write s) = c.read m (write t))
    (hframe : ∀ s, ∀ m, m ∉ f.writes → c.read m (write s) = c.read m s)
    (hnext : ∀ s, (next s).Within c f) : (Prog.access write next).Within c f := by
  refine ⟨fun s => ⟨fun t ht r => ?_, fun t ht r s' t' hs' ht' m hm => ?_,
    fun t ht r t' ht' m hm => ?_⟩, hnext⟩
  · simp [hlocal s t ht]
  · obtain ⟨rfl, -⟩ := Prod.mk.inj (Option.some.inj hs')
    obtain ⟨rfl, -⟩ := Prod.mk.inj (Option.some.inj ht')
    exact hwrites s t ht m hm
  · cases ht'
    exact hframe t m hm

theorem within_ite {b : Prop} [Decidable b] {p q : Prog σ ρ} (hp : p.Within c f)
    (hq : q.Within c f) : (if b then p else q).Within c f := by
  split
  · exact hp
  · exact hq

/-- A program that reads keeps to a footprint in which it finds what it reads. -/
theorem within_read {g : σ → ρ} (h : ∀ s t, c.Agree f s t → g s = g t) :
    (read g).Within c f :=
  within_access (fun s t ht => by rw [h s t ht]) (fun s t ht m hm => ht m (Or.inr hm))
    (fun _ _ _ => rfl) fun _ => trivial

theorem within_bind {p : Prog σ ρ} {q : ρ → Prog σ ρ'} (hp : p.Within c f)
    (hq : ∀ result, (q result).Within c f) : (p.bind q).Within c f := by
  induction p with
  | done result => exact hq result
  | access write next ih =>
    refine ⟨fun s => ⟨fun t ht r => ?_, fun t ht r s' t' hs' ht' m hm => ?_,
      fun t ht r t' ht' m hm => ?_⟩, fun s => ih s (hp.2 s)⟩
    · obtain ⟨t', ht'⟩ := ((hp.1 s).local_iff t ht (next s)).mp ⟨_, rfl⟩
      obtain ⟨-, hnext⟩ := Prod.mk.inj (Option.some.inj ht')
      simp [hnext]
    · obtain ⟨rfl, -⟩ := Prod.mk.inj (Option.some.inj hs')
      obtain ⟨rfl, -⟩ := Prod.mk.inj (Option.some.inj ht')
      obtain ⟨u, hu⟩ := ((hp.1 s).local_iff t ht (next s)).mp ⟨_, rfl⟩
      obtain ⟨rfl, -⟩ := Prod.mk.inj (Option.some.inj hu)
      exact (hp.1 s).writes t ht (next s) _ _ rfl hu m hm
    · cases ht'
      exact (hp.1 s).frame t ht (next t) _ rfl m hm

end Prog

/-! ### Two parties on one state -/

section Either

variable {α β : Type}

/-- Either of two parties takes a step. -/
def eitherStep (step : σ → α → Option σ) (step' : σ → β → Option σ) (s : σ) :
    α ⊕ β → Option σ
  | .inl a => step s a
  | .inr b => step' s b

variable {step : σ → α → Option σ} {step' : σ → β → Option σ}

/-- Where an invariant holds, the steps of the first party commute with the steps of the
second one that have the property. -/
structure Commutes (step : σ → α → Option σ) (step' : σ → β → Option σ) (I : σ → Prop)
    (B : β → Prop) : Prop where
  swap : ∀ s, I s → ∀ a b, B b → (step s a).bind (step' · b) = (step' s b).bind (step · a)
  first : ∀ s, I s → ∀ a t, step s a = some t → I t
  second : ∀ s, I s → ∀ b, B b → ∀ t, step' s b = some t → I t

variable {I : σ → Prop} {B : β → Prop}

/-- A step of the second party commutes with a run of the first. -/
theorem Commutes.run_swap (h : Commutes step step' I B) {s : σ} (hs : I s) {b : β} (hb : B b)
    (as : List α) :
    (step' s b).bind (run step · as) = (run step s as).bind (step' · b) := by
  induction as generalizing s with
  | nil => simp
  | cons a as ih =>
    simp only [run_cons, Option.bind_assoc]
    calc ((step' s b).bind fun t => (step t a).bind fun t' => run step t' as)
        = ((step' s b).bind (step · a)).bind (run step · as) := (Option.bind_assoc ..).symm
      _ = ((step s a).bind (step' · b)).bind (run step · as) := by rw [h.swap s hs a b hb]
      _ = (step s a).bind fun t => (step' t b).bind (run step · as) := Option.bind_assoc ..
      _ = (step s a).bind fun t => (run step t as).bind (step' · b) :=
        Option.bind_congr fun t ht => ih (h.first s hs a t ht)

/-- **Runs of two parties whose steps commute**: the first party may run before the second
one. -/
theorem Commutes.run_eitherStep (h : Commutes step step' I B) {s : σ} (hs : I s)
    (ls : List (α ⊕ β)) (hls : ∀ b, Sum.inr b ∈ ls → B b) :
    run (eitherStep step step') s ls =
      (run step s (ls.filterMap Sum.getLeft?)).bind
        (run step' · (ls.filterMap Sum.getRight?)) := by
  induction ls generalizing s with
  | nil => simp
  | cons l ls ih =>
    have hrest : ∀ b, Sum.inr b ∈ ls → B b := fun b hb => hls b (List.mem_cons_of_mem l hb)
    cases l with
    | inl a =>
      simp only [run_cons, eitherStep, Option.bind_assoc, List.filterMap_cons,
        Sum.getLeft?_inl, Sum.getRight?_inl]
      exact Option.bind_congr fun t ht => ih (h.first s hs a t ht) hrest
    | inr b =>
      have hb : B b := hls b List.mem_cons_self
      simp only [run_cons, eitherStep, List.filterMap_cons, Sum.getLeft?_inr, Sum.getRight?_inr]
      calc ((step' s b).bind fun t => run (eitherStep step step') t ls)
          = (step' s b).bind fun t => (run step t (ls.filterMap Sum.getLeft?)).bind
              (run step' · (ls.filterMap Sum.getRight?)) :=
            Option.bind_congr fun t ht => ih (h.second s hs b hb t ht) hrest
        _ = ((step' s b).bind (run step · (ls.filterMap Sum.getLeft?))).bind
              (run step' · (ls.filterMap Sum.getRight?)) := (Option.bind_assoc ..).symm
        _ = _ := by rw [h.run_swap hs hb, Option.bind_assoc]

end Either

end Foundation
