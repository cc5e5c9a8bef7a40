import Mathlib.Data.List.Basic

/-! # Runs with their steps

A **trace** of a labelled step relation lists the steps of a run, each with the state before it, its
label and the state after it.  `Trace.forall_iff` is the rule for a property of the steps that holds
in a run exactly if all its steps meet a condition: an invariant is kept by the steps that meet the
condition and implies the property of their results, and the first step that does not meet the
condition breaks the property. -/

namespace FlowMemory

variable {σ ℓ : Type}

structure TraceStep (σ ℓ : Type) where
  before : σ
  label : ℓ
  after : σ

inductive Trace (step : σ → ℓ → σ → Prop) : σ → List (TraceStep σ ℓ) → σ → Prop
  | nil {s : σ} : Trace step s [] s
  | cons {s s' s'' : σ} {l : ℓ} {steps : List (TraceStep σ ℓ)} (hstep : step s l s')
      (hrest : Trace step s' steps s'') : Trace step s (⟨s, l, s'⟩ :: steps) s''

namespace Trace

variable {step : σ → ℓ → σ → Prop} {s s' : σ} {steps : List (TraceStep σ ℓ)}

theorem invariant {I : σ → Prop} (hkeeps : ∀ {s l s'}, step s l s' → I s → I s')
    (htrace : Trace step s steps s') (hinv : I s) : I s' := by
  induction htrace with
  | nil => exact hinv
  | cons hstep _ ih => exact ih (hkeeps hstep hinv)

theorem forall_iff {I : σ → Prop} {P : TraceStep σ ℓ → Prop} {C : σ → ℓ → Prop}
    (hkeeps : ∀ {s l s'}, step s l s' → I s → C s l → I s' ∧ P ⟨s, l, s'⟩)
    (hbreaks : ∀ {s l s'}, step s l s' → I s → ¬ C s l → ¬ P ⟨s, l, s'⟩)
    (htrace : Trace step s steps s') (hinv : I s) :
    (∀ t ∈ steps, P t) ↔ ∀ t ∈ steps, C t.before t.label := by
  induction htrace with
  | nil => exact ⟨fun _ => nofun, fun _ => nofun⟩
  | @cons s s' _ l _ hstep _ ih =>
    rw [List.forall_mem_cons, List.forall_mem_cons]
    constructor
    · rintro ⟨hp, hrest⟩
      have hcond : C s l := by
        by_contra hcond
        exact hbreaks hstep hinv hcond hp
      exact ⟨hcond, (ih (hkeeps hstep hinv hcond).1).mp hrest⟩
    · rintro ⟨hcond, hrest⟩
      obtain ⟨hinv', hp⟩ := hkeeps hstep hinv hcond
      exact ⟨hp, (ih hinv').mpr hrest⟩

/-! ### Traces of executable steps -/

/-- Execute the labels one after the other and list the steps. -/
def execute (exec : ℓ → σ → Option σ) : List ℓ → σ → Option (List (TraceStep σ ℓ) × σ)
  | [], s => some ([], s)
  | l :: labels, s =>
    (exec l s).bind fun s' => (execute exec labels s').map fun r => (⟨s, l, s'⟩ :: r.1, r.2)

theorem of_execute {exec : ℓ → σ → Option σ}
    (hexec : ∀ {l s s'}, exec l s = some s' → step s l s') {labels : List ℓ}
    (h : execute exec labels s = some (steps, s')) :
    Trace step s steps s' ∧ steps.map (·.label) = labels := by
  induction labels generalizing s steps with
  | nil =>
    cases h
    exact ⟨.nil, rfl⟩
  | cons l labels ih =>
    obtain ⟨s₁, hs₁, hlabels⟩ := Option.bind_eq_some_iff.mp h
    obtain ⟨⟨rest, _⟩, hrest, hsteps⟩ := Option.map_eq_some_iff.mp hlabels
    cases hsteps
    obtain ⟨htrace, hmap⟩ := ih hrest
    exact ⟨.cons (hexec hs₁) htrace, congrArg (l :: ·) hmap⟩

/-- The trace of an execution, with what is known about its end. -/
theorem exists_of_execute {exec : ℓ → σ → Option σ}
    (hexec : ∀ {l s s'}, exec l s = some s' → step s l s') {labels : List ℓ}
    {P : List (TraceStep σ ℓ) → σ → Prop} (h : ∃ r ∈ execute exec labels s, P r.1 r.2) :
    ∃ steps s', Trace step s steps s' ∧ steps.map (·.label) = labels ∧ P steps s' := by
  obtain ⟨⟨steps, s'⟩, hrun, hP⟩ := h
  obtain ⟨htrace, hlabels⟩ := of_execute hexec hrun
  exact ⟨steps, s', htrace, hlabels, hP⟩

end Trace

end FlowMemory
