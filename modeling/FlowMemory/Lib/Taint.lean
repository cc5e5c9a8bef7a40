import Mathlib.Data.Set.Basic

/-! # Taint along moves

A system moves things between holders and keeps a mark on some of them.  A **flow** says what
one step does: at which holders tainted things appear, and from which holder to which others it
moves them.  The tainted holders of a run are those that the flows of its steps reach
(`Flow.spread`, `TaintRun`).  A set of holders is **safe** if every one of them is marked.

`Flow.safe_spread_iff` reduces safety after a step to the holders that the step taints, and
`TaintRun.safe` is the induction over runs. -/

namespace FlowMemory

/-- What a step does: new taint, and moves from one holder to another. -/
structure Flow (H : Type) where
  sources : List H
  moves : List (H × H)

namespace Flow

variable {H : Type}

/-- A step that moves nothing. -/
def idle : Flow H := ⟨[], []⟩

/-- The tainted holders after a step. -/
def spread (f : Flow H) (T : Set H) : Set H :=
  {h | h ∈ T ∨ h ∈ f.sources ∨ ∃ a ∈ T, (a, h) ∈ f.moves}

/-- Every tainted holder is marked. -/
def Safe (marked : H → Prop) (T : Set H) : Prop := ∀ h ∈ T, marked h

theorem spread_idle (T : Set H) : (idle : Flow H).spread T = T := by
  ext h
  simp [spread, idle]

/-- If no mark is lost in a step, then the holders that it taints decide on safety. -/
theorem safe_spread_iff {f : Flow H} {T : Set H} {marked marked' : H → Prop}
    (hkeep : ∀ h, marked h → marked' h) (hsafe : Safe marked T) :
    Safe marked' (f.spread T) ↔
      (∀ h ∈ f.sources, marked' h) ∧ ∀ a ∈ T, ∀ h, (a, h) ∈ f.moves → marked' h := by
  constructor
  · intro hs
    exact ⟨fun h hh => hs h (Or.inr (Or.inl hh)),
      fun a ha h hm => hs h (Or.inr (Or.inr ⟨a, ha, hm⟩))⟩
  · rintro ⟨hsources, hmoves⟩ h (hh | hh | ⟨a, ha, hm⟩)
    · exact hkeep h (hsafe h hh)
    · exact hsources h hh
    · exact hmoves a ha h hm

end Flow

/-- The states of runs with their tainted holders. -/
inductive TaintRun {σ H : Type} (step : σ → Set H → Flow H → σ → Prop) (init : σ) :
    σ → Set H → Prop
  | init : TaintRun step init init ∅
  | step {s s' : σ} {T : Set H} {f : Flow H} (h : TaintRun step init s T) (hs : step s T f s') :
      TaintRun step init s' (f.spread T)

/-- What every step keeps safe is safe along runs. -/
theorem TaintRun.safe {σ H : Type} {step : σ → Set H → Flow H → σ → Prop} {init s : σ}
    {T : Set H} {marked : σ → H → Prop} (h : TaintRun step init s T)
    (hstep : ∀ s T f s', step s T f s' → Flow.Safe (marked s) T →
      Flow.Safe (marked s') (f.spread T)) : Flow.Safe (marked s) T := by
  induction h with
  | init => exact fun _ hh => absurd hh (Set.notMem_empty _)
  | step _ hs ih => exact hstep _ _ _ _ hs ih

end FlowMemory
