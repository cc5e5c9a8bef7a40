import FlowMemory.Lib.Revert

/-! # Runs that keep their nesting

A call of a contract may hand over control to other code, which may call the contract again.  Here,
in contrast to `Reentrancy`, the contract sees whether the other code **failed** and goes on in both
cases, and a run keeps which calls were made inside which: a **call tree** is a call together with
the calls made while control was away.  What a failing code did is undone, so the calls made inside
it are not seen.

`Executes P ts s s'` says that the calls `ts` of the contract `P` return one after the other and take
the state from `s` to `s'`, and `runAll` computes `s'`.  `Visible P s s'` says that other code may see
the state `s'` in a run from `s`, between two calls or inside one.  A reflexive and transitive
relation that both parts of every routine respect holds over every run (`Executes.relates`). -/

namespace FlowMemory

/-- A routine that ends, or hands over control and keeps a value for its second part. -/
structure Handover (σ ε α : Type) where
  before : Call σ ε (Option α)
  after : α → Bool → Call σ ε Unit

/-- A routine that hands over to nobody. -/
def Handover.plain {σ ε α : Type} (m : Call σ ε Unit) : Handover σ ε α where
  before := do
    m
    pure none
  after _ _ := pure ()

inductive CallTree (ι : Type) where
  /-- The call hands over to nobody. -/
  | quiet (i : ι)
  /-- The code it hands over to fails. -/
  | failed (i : ι)
  /-- The code it hands over to returns, after the calls `inner`. -/
  | around (i : ι) (inner : List (CallTree ι))

variable {ι σ ε α : Type}

/-- The outermost call. -/
def CallTree.call : CallTree ι → ι
  | .quiet i => i
  | .failed i => i
  | .around i _ => i

/-- The calls made while control was away. -/
def CallTree.inner : CallTree ι → List (CallTree ι)
  | .around _ inner => inner
  | _ => []

mutual

/-- The calls of a tree, the outermost first. -/
def CallTree.calls : CallTree ι → List (CallTree ι)
  | .quiet i => [.quiet i]
  | .failed i => [.failed i]
  | .around i inner => .around i inner :: CallTree.callsAll inner

def CallTree.callsAll : List (CallTree ι) → List (CallTree ι)
  | [] => []
  | t :: ts => t.calls ++ CallTree.callsAll ts

end

inductive Executes (P : ι → Handover σ ε α) : List (CallTree ι) → σ → σ → Prop
  | nil (s : σ) : Executes P [] s s
  | quiet {i : ι} {ts : List (CallTree ι)} {s s₁ s' : σ} (hbefore : (P i).before s = .ok (none, s₁))
      (hrest : Executes P ts s₁ s') : Executes P (.quiet i :: ts) s s'
  | failed {i : ι} {ts : List (CallTree ι)} {s s₁ s₂ s' : σ} {a : α}
      (hbefore : (P i).before s = .ok (some a, s₁)) (hafter : (P i).after a false s₁ = .ok ((), s₂))
      (hrest : Executes P ts s₂ s') : Executes P (.failed i :: ts) s s'
  | around {i : ι} {inner ts : List (CallTree ι)} {s s₁ s₂ s₃ s' : σ} {a : α}
      (hbefore : (P i).before s = .ok (some a, s₁)) (hinner : Executes P inner s₁ s₂)
      (hafter : (P i).after a true s₂ = .ok ((), s₃)) (hrest : Executes P ts s₃ s') :
      Executes P (.around i inner :: ts) s s'

inductive Visible (P : ι → Handover σ ε α) (s : σ) : σ → Prop
  | start : Visible P s s
  | calls {ts : List (CallTree ι)} {s₁ s' : σ} (h : Visible P s s₁) (hruns : Executes P ts s₁ s') :
      Visible P s s'
  | inside {i : ι} {s₁ s' : σ} {a : α} (h : Visible P s s₁)
      (hbefore : (P i).before s₁ = .ok (some a, s')) : Visible P s s'

/-! ### Running a tree -/

/-- The state a routine leaves. -/
def leaves {β : Type} : Except ε (β × σ) → Option σ
  | .ok (_, s) => some s
  | .error _ => none

mutual

def CallTree.run (P : ι → Handover σ ε α) : CallTree ι → σ → Option σ
  | .quiet i, s =>
    match (P i).before s with
    | .ok (none, s') => some s'
    | _ => none
  | .failed i, s =>
    match (P i).before s with
    | .ok (some a, s₁) => leaves ((P i).after a false s₁)
    | _ => none
  | .around i inner, s =>
    match (P i).before s with
    | .ok (some a, s₁) =>
      match CallTree.runAll P inner s₁ with
      | some s₂ => leaves ((P i).after a true s₂)
      | none => none
    | _ => none

def CallTree.runAll (P : ι → Handover σ ε α) : List (CallTree ι) → σ → Option σ
  | [], s => some s
  | t :: ts, s =>
    match t.run P s with
    | some s₁ => CallTree.runAll P ts s₁
    | none => none

end

section rules

variable {P : ι → Handover σ ε α} {ts : List (CallTree ι)} {s s' : σ}

theorem leaves_eq_some {x : Except ε (Unit × σ)} : leaves x = some s ↔ x = .ok ((), s) := by
  rcases x with e | ⟨⟨⟩, s'⟩ <;> simp [leaves]

mutual

theorem executes_of_run : ∀ (t : CallTree ι) {ts : List (CallTree ι)} {s s₁ s' : σ},
    t.run P s = some s₁ → Executes P ts s₁ s' → Executes P (t :: ts) s s'
  | .quiet i, ts, s, s₁, s', h, hrest => by
      rw [CallTree.run] at h
      split at h
      · rename_i hbefore
        obtain rfl := Option.some.inj h
        exact .quiet hbefore hrest
      · cases h
  | .failed i, ts, s, s₁, s', h, hrest => by
      rw [CallTree.run] at h
      split at h
      · rename_i hbefore
        exact .failed hbefore (leaves_eq_some.mp h) hrest
      · cases h
  | .around i inner, ts, s, s₁, s', h, hrest => by
      rw [CallTree.run] at h
      split at h
      · rename_i hbefore
        split at h
        · rename_i hinner
          exact .around hbefore (executes_of_runAll inner hinner) (leaves_eq_some.mp h) hrest
        · cases h
      · cases h

theorem executes_of_runAll : ∀ (ts : List (CallTree ι)) {s s' : σ},
    CallTree.runAll P ts s = some s' → Executes P ts s s'
  | [], s, s', h => by
      rw [CallTree.runAll] at h
      obtain rfl := Option.some.inj h
      exact .nil s
  | t :: ts, s, s', h => by
      rw [CallTree.runAll] at h
      split at h
      · rename_i hrun
        exact executes_of_run t hrun (executes_of_runAll ts h)
      · cases h

end

@[simp] theorem CallTree.callsAll_nil : CallTree.callsAll ([] : List (CallTree ι)) = [] := by
  rw [CallTree.callsAll]

variable {i : ι}

@[simp] theorem CallTree.callsAll_quiet :
    CallTree.callsAll (.quiet i :: ts) = .quiet i :: CallTree.callsAll ts := by
  simp [CallTree.callsAll, CallTree.calls]

@[simp] theorem CallTree.callsAll_failed :
    CallTree.callsAll (.failed i :: ts) = .failed i :: CallTree.callsAll ts := by
  simp [CallTree.callsAll, CallTree.calls]

@[simp] theorem CallTree.callsAll_around {inner : List (CallTree ι)} :
    CallTree.callsAll (.around i inner :: ts) =
      .around i inner :: (CallTree.callsAll inner ++ CallTree.callsAll ts) := by
  simp [CallTree.callsAll, CallTree.calls]

/-- A reflexive and transitive relation between states that both parts of the calls with `Q` respect.
The second part runs after the calls that were made while control was away. -/
structure RespectsParts (P : ι → Handover σ ε α) (Q : CallTree ι → Prop) (R : σ → σ → Prop) :
    Prop where
  refl : ∀ s, R s s
  trans : ∀ {s₁ s₂ s₃}, R s₁ s₂ → R s₂ s₃ → R s₁ s₃
  before : ∀ {t s o s'}, Q t → (P t.call).before s = .ok (o, s') → R s s'
  after : ∀ {t s₀ a s₁ b s s'}, Q t → (P t.call).before s₀ = .ok (some a, s₁) →
    Executes P t.inner s₁ s → (P t.call).after a b s = .ok ((), s') → R s s'

variable {Q : CallTree ι → Prop}

/-- The relation holds over every run whose calls have `Q`. -/
theorem Executes.relatesOf {R : σ → σ → Prop} (hR : RespectsParts P Q R)
    (h : Executes P ts s s') (hts : ∀ t ∈ CallTree.callsAll ts, Q t) : R s s' := by
  induction h with
  | nil s => exact hR.refl s
  | @quiet i _ _ _ _ hb _ ih =>
    rw [CallTree.callsAll_quiet, List.forall_mem_cons] at hts
    exact hR.trans (hR.before (t := .quiet i) hts.1 hb) (ih hts.2)
  | @failed i _ _ _ _ _ _ hb ha _ ih =>
    rw [CallTree.callsAll_failed, List.forall_mem_cons] at hts
    have hbefore := hR.before (t := .failed i) hts.1 hb
    have hafter := hR.after (t := .failed i) hts.1 hb (.nil _) ha
    exact hR.trans (hR.trans hbefore hafter) (ih hts.2)
  | @around i inner _ _ _ _ _ _ _ hb hi ha _ ihinner ih =>
    rw [CallTree.callsAll_around, List.forall_mem_cons, List.forall_mem_append] at hts
    obtain ⟨ht, hinner, hrest⟩ := hts
    have hbefore := hR.before (t := .around i inner) ht hb
    have hafter := hR.after (t := .around i inner) ht hb hi ha
    exact hR.trans (hR.trans (hR.trans hbefore (ihinner hinner)) hafter) (ih hrest)

/-- An invariant that both parts of the calls with `Q` keep.  It may be used for the state in which the
call began. -/
structure KeepsParts (P : ι → Handover σ ε α) (Q : CallTree ι → Prop) (Inv : σ → Prop) : Prop where
  before : ∀ {t s o s'}, Q t → (P t.call).before s = .ok (o, s') → Inv s → Inv s'
  after : ∀ {t s₀ a s₁ b s s'}, Q t → (P t.call).before s₀ = .ok (some a, s₁) → Inv s₀ →
    Executes P t.inner s₁ s → (P t.call).after a b s = .ok ((), s') → Inv s → Inv s'

theorem Executes.preserves {Inv : σ → Prop} (hInv : KeepsParts P Q Inv)
    (h : Executes P ts s s') (hts : ∀ t ∈ CallTree.callsAll ts, Q t) (hs : Inv s) : Inv s' := by
  induction h with
  | nil => exact hs
  | @quiet i _ _ _ _ hb _ ih =>
    rw [CallTree.callsAll_quiet, List.forall_mem_cons] at hts
    exact ih hts.2 (hInv.before (t := .quiet i) hts.1 hb hs)
  | @failed i _ _ _ _ _ _ hb ha _ ih =>
    rw [CallTree.callsAll_failed, List.forall_mem_cons] at hts
    have hs₁ := hInv.before (t := .failed i) hts.1 hb hs
    exact ih hts.2 (hInv.after (t := .failed i) hts.1 hb hs (.nil _) ha hs₁)
  | @around i inner _ _ _ _ _ _ _ hb hi ha _ ihinner ih =>
    rw [CallTree.callsAll_around, List.forall_mem_cons, List.forall_mem_append] at hts
    obtain ⟨ht, hinner, hrest⟩ := hts
    have hs₂ := ihinner hinner (hInv.before (t := .around i inner) ht hb hs)
    exact ih hrest (hInv.after (t := .around i inner) ht hb hs hi ha hs₂)

section everywhere

variable {R : σ → σ → Prop}

theorem Executes.relates (hR : RespectsParts P (fun _ => True) R) (h : Executes P ts s s') :
    R s s' :=
  h.relatesOf hR fun _ _ => trivial

theorem RespectsParts.hands {o : Option α} (hR : RespectsParts P (fun _ => True) R)
    (h : (P i).before s = .ok (o, s')) : R s s' :=
  hR.before (t := .quiet i) trivial h

theorem RespectsParts.resumes {inner : List (CallTree ι)} {a : α} {b : Bool} {s₀ s₁ : σ}
    (hR : RespectsParts P (fun _ => True) R) (hbefore : (P i).before s₀ = .ok (some a, s₁))
    (hinner : Executes P inner s₁ s) (hafter : (P i).after a b s = .ok ((), s')) : R s s' :=
  hR.after (t := .around i inner) trivial hbefore hinner hafter

theorem Visible.relates (hR : RespectsParts P (fun _ => True) R) (h : Visible P s s') :
    R s s' := by
  induction h with
  | start => exact hR.refl s
  | calls _ hruns ih => exact hR.trans ih (hruns.relates hR)
  | inside _ hb ih => exact hR.trans ih (hR.hands hb)

/-- Every call of a run has its place in it. -/
theorem Executes.occurs (hR : RespectsParts P (fun _ => True) R) (h : Executes P ts s s')
    {t : CallTree ι} (ht : t ∈ CallTree.callsAll ts) :
    ∃ s₁ s₂, R s s₁ ∧ Executes P [t] s₁ s₂ ∧ R s₂ s' := by
  induction h with
  | nil s => simp at ht
  | @quiet i ts s _ s' hb hrest ih =>
    rw [CallTree.callsAll_quiet, List.mem_cons] at ht
    rcases ht with rfl | ht
    · exact ⟨s, _, hR.refl s, .quiet hb (.nil _), hrest.relates hR⟩
    · obtain ⟨s₁, s₂, h₁, hrun, h₂⟩ := ih ht
      exact ⟨s₁, s₂, hR.trans (hR.hands hb) h₁, hrun, h₂⟩
  | @failed i ts s _ _ s' a hb ha hrest ih =>
    rw [CallTree.callsAll_failed, List.mem_cons] at ht
    rcases ht with rfl | ht
    · exact ⟨s, _, hR.refl s, .failed hb ha (.nil _), hrest.relates hR⟩
    · obtain ⟨s₁, s₂, h₁, hrun, h₂⟩ := ih ht
      have hcall := hR.trans (hR.hands hb) (hR.resumes hb (.nil _) ha)
      exact ⟨s₁, s₂, hR.trans hcall h₁, hrun, h₂⟩
  | @around i inner ts s _ _ _ s' a hb hinner ha hrest ihinner ih =>
    rw [CallTree.callsAll_around, List.mem_cons, List.mem_append] at ht
    rcases ht with rfl | ht | ht
    · exact ⟨s, _, hR.refl s, .around hb hinner ha (.nil _), hrest.relates hR⟩
    · obtain ⟨s₁, s₂, h₁, hrun, h₂⟩ := ihinner ht
      exact ⟨s₁, s₂, hR.trans (hR.hands hb) h₁, hrun,
        hR.trans (hR.trans h₂ (hR.resumes hb hinner ha)) (hrest.relates hR)⟩
    · obtain ⟨s₁, s₂, h₁, hrun, h₂⟩ := ih ht
      have hcall := hR.trans (hR.trans (hR.hands hb) (hinner.relates hR))
        (hR.resumes hb hinner ha)
      exact ⟨s₁, s₂, hR.trans hcall h₁, hrun, h₂⟩

end everywhere

end rules

end FlowMemory
