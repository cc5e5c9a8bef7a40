import Mathlib.Tactic.SplitIfs

/-! # Programs over a mutable state that may stop with an error

`Txn σ ε α` is the meaning of a routine that receives a state by mutable reference, writes to
it in place and returns either a value or an error.  A routine that stops early keeps the
writes made so far: the state component is returned in both cases.  Tests that only read are
pure functions into `Except`, with the same two instructions and the same inversion lemmas in
the namespace `Check`.

* **Inversion** (`bind_ok`, `bind_error` and the lemmas for the single instructions): what a
  returning or a stopping run did.  Applied from left to right as a simp set they turn a run
  of a straight-line program into the list of the tests it passed and the state it left.
* **Frame** (`Keeps π m`): the program `m` never changes the observation `π` of the state,
  whether it returns or stops.
* **Invariants** (`Preserves P m`): the program keeps `P`, whether it returns or stops.
* **Atomicity** (`Atomic m`): a run that stops with an error leaves the state as it was.
  Tests before the first write are harmless (`Atomic.bind`), and so is a tail that cannot
  stop (`Atomic.bind_total`).
* **Failure** (`Fails m s`): the run from `s` stops.  The failure of a chain of independent
  tests is the disjunction of their failures (`fails_okOr_bind`, `fails_bind`). -/

namespace FlowMemory

/-! ### Pure checks -/

namespace Check

variable {ε α β : Type}

/-- Fail with `e` when `c` holds. -/
def rejectIf (c : Prop) [Decidable c] (e : ε) : Except ε Unit :=
  if c then .error e else .ok ()

/-- Unwrap an option, failing with `e` on `none`. -/
def okOr (o : Option α) (e : ε) : Except ε α :=
  match o with
  | some a => .ok a
  | none => .error e

variable {e : ε}

theorem bind_ok {x : Except ε α} {f : α → Except ε β} {b : β} :
    (x >>= f) = .ok b ↔ ∃ a, x = .ok a ∧ f a = .ok b := by
  change x.bind f = .ok b ↔ _
  cases x <;> simp [Except.bind]

theorem pure_ok {a b : α} : (Pure.pure a : Except ε α) = .ok b ↔ b = a := by
  change Except.ok a = _ ↔ _
  simp [eq_comm]

theorem rejectIf_ok {c : Prop} [Decidable c] {u : Unit} :
    (rejectIf c e : Except ε Unit) = .ok u ↔ ¬ c := by
  unfold rejectIf
  split_ifs with hc <;> simp [hc]

theorem okOr_ok {o : Option α} {a : α} : okOr o e = .ok a ↔ o = some a := by
  cases o <;> simp [okOr]

end Check

/-- A program on the state `σ`: a value or an error, and the state reached. -/
def Txn (σ ε α : Type) : Type := σ → Except ε α × σ

namespace Txn

variable {σ ε α β : Type} {c : Prop}

instance : Monad (Txn σ ε) where
  pure a := fun s => (.ok a, s)
  bind m f := fun s =>
    match m s with
    | (.ok a, s') => f a s'
    | (.error e, s') => (.error e, s')

/-- The current state. -/
def get : Txn σ ε σ := fun s => (.ok s, s)

/-- Write to the state. -/
def modify (f : σ → σ) : Txn σ ε Unit := fun s => (.ok (), f s)

/-- Stop with `e` when `c` holds. -/
def rejectIf (c : Prop) [Decidable c] (e : ε) : Txn σ ε Unit :=
  fun s => if c then (.error e, s) else (.ok (), s)

/-- Unwrap an option, stopping with `e` on `none`. -/
def okOr (o : Option α) (e : ε) : Txn σ ε α :=
  fun s => match o with
    | some a => (.ok a, s)
    | none => (.error e, s)

/-- Run a pure fallible computation. -/
def ofExcept (r : Except ε α) : Txn σ ε α := fun s => (r, s)

/-! ### Inversion of returning runs -/

section inversion

variable {m : Txn σ ε α} {f : α → Txn σ ε β} {s s' : σ} {b : β} {e e' : ε} {u : Unit} {c : Prop}
  {o : Option α} {r : Except ε α}

theorem bind_apply : (m >>= f) s = match m s with
    | (.ok a, s') => f a s'
    | (.error e, s') => (.error e, s') := rfl

theorem bind_ok : (m >>= f) s = (.ok b, s') ↔
    ∃ a s₁, m s = (.ok a, s₁) ∧ f a s₁ = (.ok b, s') := by
  rw [bind_apply]
  rcases m s with ⟨_ | a, s₁⟩
  · simp
  · constructor
    · intro h
      exact ⟨a, s₁, rfl, h⟩
    · rintro ⟨a', s₁', h, h'⟩
      cases h
      exact h'

theorem bind_error : (m >>= f) s = (.error e, s') ↔
    m s = (.error e, s') ∨ ∃ a s₁, m s = (.ok a, s₁) ∧ f a s₁ = (.error e, s') := by
  rw [bind_apply]
  rcases m s with ⟨_ | a, s₁⟩
  · simp
  · constructor
    · intro h
      exact Or.inr ⟨a, s₁, rfl, h⟩
    · rintro (h | ⟨a', s₁', h, h'⟩)
      · cases h
      · cases h
        exact h'

theorem bind_of_ok {a : α} {s₁ : σ} (h : m s = (.ok a, s₁)) : (m >>= f) s = f a s₁ := by
  rw [bind_apply, h]

theorem pure_ok {a a' : α} : (Pure.pure a : Txn σ ε α) s = (.ok a', s') ↔ a' = a ∧ s' = s := by
  change ((Except.ok a, s) : Except ε α × σ) = _ ↔ _
  simp [eq_comm]

theorem modify_ok {g : σ → σ} :
    (modify g : Txn σ ε Unit) s = (.ok u, s') ↔ s' = g s := by
  simp [modify, eq_comm]

theorem get_bind {f : σ → Txn σ ε β} : (get >>= f) s = f s s := rfl

theorem modify_bind {g : σ → σ} {f : Unit → Txn σ ε β} : (modify g >>= f) s = f () (g s) := rfl

theorem rejectIf_bind [Decidable c] {f : Unit → Txn σ ε β} :
    (rejectIf c e >>= f) s = if c then (.error e, s) else f () s := by
  rw [bind_apply, rejectIf]
  split_ifs <;> rfl

theorem rejectIf_bind_ok [Decidable c] {f : Unit → Txn σ ε β} :
    (rejectIf c e >>= f) s = (.ok b, s') ↔ ¬ c ∧ f () s = (.ok b, s') := by
  rw [rejectIf_bind]
  split_ifs with hc <;> simp [hc]

theorem rejectIf_bind_error [Decidable c] {f : Unit → Txn σ ε β} :
    (rejectIf c e >>= f) s = (.error e', s') ↔
      (c ∧ e' = e ∧ s' = s) ∨ (¬ c ∧ f () s = (.error e', s')) := by
  rw [rejectIf_bind]
  split_ifs with hc <;> simp [hc, eq_comm]

theorem okOr_bind_ok :
    (okOr o e >>= f) s = (.ok b, s') ↔ ∃ a, o = some a ∧ f a s = (.ok b, s') := by
  cases o <;> simp [bind_apply, okOr]

theorem okOr_bind_error :
    (okOr o e >>= f) s = (.error e', s') ↔
      (o = none ∧ e' = e ∧ s' = s) ∨ ∃ a, o = some a ∧ f a s = (.error e', s') := by
  cases o <;> simp [bind_apply, okOr, eq_comm]

theorem ofExcept_bind_ok :
    (ofExcept r >>= f) s = (.ok b, s') ↔ ∃ a, r = .ok a ∧ f a s = (.ok b, s') := by
  rw [bind_apply, ofExcept]
  cases r <;> simp

theorem ofExcept_bind_error :
    (ofExcept r >>= f) s = (.error e', s') ↔
      (r = .error e' ∧ s' = s) ∨ ∃ a, r = .ok a ∧ f a s = (.error e', s') := by
  rw [bind_apply, ofExcept]
  cases r <;> simp [eq_comm]

end inversion

/-! ### Frame -/

/-- The program never changes the observation `π`. -/
def Keeps (π : σ → β) (m : Txn σ ε α) : Prop := ∀ s, π (m s).2 = π s

section frame

variable {γ : Type} {π : σ → γ} {c : Prop} {r : Except ε α}

theorem Keeps.pure {a : α} : Keeps π (Pure.pure a : Txn σ ε α) := fun _ => rfl

theorem Keeps.get : Keeps π (Txn.get : Txn σ ε σ) := fun _ => rfl

theorem Keeps.modify {g : σ → σ} (h : ∀ s, π (g s) = π s) :
    Keeps π (Txn.modify g : Txn σ ε Unit) := h

theorem Keeps.rejectIf [Decidable c] {e : ε} :
    Keeps π (Txn.rejectIf c e : Txn σ ε Unit) := by
  intro s
  unfold Txn.rejectIf
  split_ifs <;> rfl

theorem Keeps.okOr {o : Option α} {e : ε} : Keeps π (Txn.okOr o e : Txn σ ε α) := by
  intro s
  cases o <;> rfl

theorem Keeps.ofExcept : Keeps π (Txn.ofExcept r : Txn σ ε α) := fun _ => rfl

theorem Keeps.bind {m : Txn σ ε α} {f : α → Txn σ ε β} (hm : Keeps π m)
    (hf : ∀ a, Keeps π (f a)) : Keeps π (m >>= f) := by
  intro s
  have h := hm s
  rw [bind_apply]
  rcases hs : m s with ⟨_ | a, s₁⟩
  · rw [hs] at h
    exact h
  · rw [hs] at h
    exact (hf a s₁).trans h

theorem Keeps.ite [Decidable c] {m₁ m₂ : Txn σ ε α} (h₁ : Keeps π m₁)
    (h₂ : Keeps π m₂) : Keeps π (if c then m₁ else m₂) := by
  split_ifs
  · exact h₁
  · exact h₂

theorem Keeps.of_run (π : σ → γ) {m : Txn σ ε α} {s s' : σ}
    (hr : m s = (r, s')) (h : Keeps π m) : π s' = π s := by
  have := h s
  rwa [hr] at this

end frame

/-! ### Invariants of a program -/

/-- Whatever the outcome, the program keeps `P`. -/
def Preserves (P : σ → Prop) (m : Txn σ ε α) : Prop := ∀ s, P s → P (m s).2

section preserves

variable {P : σ → Prop}

theorem Preserves.of_keeps {m : Txn σ ε α} (h : Keeps id m) : Preserves P m := by
  intro s hs
  have hm : (m s).2 = s := h s
  rwa [hm]

theorem Preserves.okOr {o : Option α} {e : ε} : Preserves P (Txn.okOr o e : Txn σ ε α) :=
  .of_keeps Keeps.okOr

theorem Preserves.modify {g : σ → σ} (h : ∀ s, P s → P (g s)) :
    Preserves P (Txn.modify g : Txn σ ε Unit) := h

/-- A run leaves a state with `P` if its first part does and so does the rest where that returns. -/
theorem leaves_bind {m : Txn σ ε α} {f : α → Txn σ ε β} {s : σ} (hm : P (m s).2)
    (hf : ∀ a s₁, m s = (.ok a, s₁) → P s₁ → P (f a s₁).2) : P ((m >>= f) s).2 := by
  rw [bind_apply]
  rcases hr : m s with ⟨_ | a, s₁⟩
  · rw [hr] at hm
    exact hm
  · rw [hr] at hm
    exact hf a s₁ hr hm

theorem leaves_okOr_bind {o : Option α} {e : ε} {f : α → Txn σ ε β} {s : σ}
    (hs : o = none → P s) (hf : ∀ a, o = some a → P (f a s).2) : P ((Txn.okOr o e >>= f) s).2 := by
  cases o with
  | none => exact hs rfl
  | some a => exact hf a rfl

theorem leaves_ofExcept_bind {r : Except ε α} {f : α → Txn σ ε β} {s : σ} (hs : P s)
    (hf : ∀ a, r = .ok a → P (f a s).2) : P ((Txn.ofExcept r >>= f) s).2 := by
  cases r with
  | error e => exact hs
  | ok a => exact hf a rfl

theorem Preserves.bind {m : Txn σ ε α} {f : α → Txn σ ε β} (hm : Preserves P m)
    (hf : ∀ a, Preserves P (f a)) : Preserves P (m >>= f) :=
  fun s hs => leaves_bind (hm s hs) fun a s₁ _ h => hf a s₁ h

theorem Preserves.of_run {m : Txn σ ε α} {s s' : σ} {r : Except ε α} (hr : m s = (r, s'))
    (h : Preserves P m) (hs : P s) : P s' := by
  have := h s hs
  rwa [hr] at this

end preserves

/-! ### Atomicity -/

/-- The program only reads. -/
def ReadOnly (m : Txn σ ε α) : Prop := Keeps id m

/-- A run that stops with an error leaves the state unchanged. -/
def Atomic (m : Txn σ ε α) : Prop := ∀ s e s', m s = (.error e, s') → s' = s

/-- The program always returns. -/
def Total (m : Txn σ ε α) : Prop := ∀ s e s', m s ≠ (.error e, s')

theorem ReadOnly.atomic {m : Txn σ ε α} (h : ReadOnly m) : Atomic m :=
  fun _ _ _ hr => Keeps.of_run id hr h

theorem Total.atomic {m : Txn σ ε α} (h : Total m) : Atomic m :=
  fun s e s' hr => absurd hr (h s e s')

theorem Total.modify {g : σ → σ} : Total (Txn.modify g : Txn σ ε Unit) := by
  intro s e s' h
  simp [Txn.modify] at h

theorem Total.pure {a : α} : Total (Pure.pure a : Txn σ ε α) := by
  intro s e s' h
  change ((Except.ok a, s) : Except ε α × σ) = _ at h
  simp at h

theorem Total.bind {m : Txn σ ε α} {f : α → Txn σ ε β} (hm : Total m) (hf : ∀ a, Total (f a)) :
    Total (m >>= f) := by
  intro s e s' h
  rcases bind_error.mp h with h | ⟨a, s₁, _, h⟩
  · exact hm s e s' h
  · exact hf a s₁ e s' h

theorem Atomic.bind {m : Txn σ ε α} {f : α → Txn σ ε β} (hm : ReadOnly m)
    (hf : ∀ a, Atomic (f a)) : Atomic (m >>= f) := by
  intro s e s' h
  rcases bind_error.mp h with h | ⟨a, s₁, h₁, h⟩
  · exact hm.atomic s e s' h
  · have hs : s₁ = s := Keeps.of_run id h₁ hm
    rw [hf a s₁ e s' h, hs]

theorem Atomic.get_bind {f : σ → Txn σ ε β} (hf : ∀ s, Atomic (f s)) : Atomic (Txn.get >>= f) :=
  .bind Keeps.get hf

theorem Atomic.rejectIf_bind [Decidable c] {e : ε} {f : Unit → Txn σ ε β}
    (hf : ∀ u, Atomic (f u)) : Atomic (Txn.rejectIf c e >>= f) :=
  .bind Keeps.rejectIf hf

theorem Atomic.okOr_bind {o : Option α} {e : ε} {f : α → Txn σ ε β} (hf : ∀ a, Atomic (f a)) :
    Atomic (Txn.okOr o e >>= f) :=
  .bind Keeps.okOr hf

theorem Atomic.ofExcept_bind {r : Except ε α} {f : α → Txn σ ε β} (hf : ∀ a, Atomic (f a)) :
    Atomic (Txn.ofExcept r >>= f) :=
  .bind Keeps.ofExcept hf

theorem Atomic.bind_total {m : Txn σ ε α} {f : α → Txn σ ε β} (hm : Atomic m)
    (hf : ∀ a, Total (f a)) : Atomic (m >>= f) := by
  intro s e s' h
  rcases bind_error.mp h with h | ⟨a, s₁, _, h⟩
  · exact hm s e s' h
  · exact absurd h (hf a s₁ e s')

theorem Atomic.ite [Decidable c] {m₁ m₂ : Txn σ ε α} (h₁ : Atomic m₁)
    (h₂ : Atomic m₂) : Atomic (if c then m₁ else m₂) := by
  split_ifs
  · exact h₁
  · exact h₂

/-! ### Failing runs -/

/-- The run from `s` stops with an error. -/
def Fails (m : Txn σ ε α) (s : σ) : Prop := ∃ e s', m s = (.error e, s')

section fails

variable {m : Txn σ ε α} {f : α → Txn σ ε β} {s : σ} {e : ε} {Q : Prop}

theorem not_fails_of_ok {a : α} {s' : σ} (h : m s = (.ok a, s')) : ¬ Fails m s := by
  rintro ⟨e, s₁, h'⟩
  rw [h] at h'
  cases h'

theorem fails_or_ok (m : Txn σ ε α) (s : σ) : Fails m s ∨ ∃ a s', m s = (.ok a, s') := by
  rcases h : m s with ⟨e | a, s'⟩
  · exact Or.inl ⟨e, s', h⟩
  · exact Or.inr ⟨a, s', rfl⟩

theorem fails_iff : Fails m s ↔ ∀ a s', m s ≠ (.ok a, s') := by
  constructor
  · intro h a s' hok
    exact not_fails_of_ok hok h
  · intro h
    rcases fails_or_ok m s with hf | ⟨a, s', hok⟩
    · exact hf
    · exact absurd hok (h a s')

theorem Total.not_fails (h : Total m) (s : σ) : ¬ Fails m s := by
  rintro ⟨e, s', h'⟩
  exact h s e s' h'

theorem fails_bind_of_ok {a : α} {s₁ : σ} (h : m s = (.ok a, s₁)) :
    Fails (m >>= f) s ↔ Fails (f a) s₁ := by
  rw [Fails, bind_of_ok h, Fails]

theorem fails_bind_of_fails (h : Fails m s) : Fails (m >>= f) s := by
  obtain ⟨e, s', h⟩ := h
  exact ⟨e, s', by rw [bind_apply, h]⟩

theorem fails_modify_bind {g : σ → σ} {f : Unit → Txn σ ε β} :
    Fails (modify g >>= f) s ↔ Fails (f ()) (g s) := Iff.rfl

/-- A test followed by a program whose failure does not depend on the value tested for. -/
theorem fails_okOr_bind {o : Option α} (h : ∀ a, o = some a → (Fails (f a) s ↔ Q)) :
    Fails (okOr o e >>= f) s ↔ o = none ∨ Q := by
  cases o with
  | none => simp [Fails, bind_apply, okOr]
  | some a => simpa [Fails, bind_apply, okOr] using h a rfl

theorem fails_ofExcept_bind {r : Except ε α} (h : ∀ a, r = .ok a → (Fails (f a) s ↔ Q)) :
    Fails (ofExcept r >>= f) s ↔ (∀ a, r ≠ .ok a) ∨ Q := by
  cases r with
  | error e => simp [Fails, bind_apply, ofExcept]
  | ok a => simpa [Fails, bind_apply, ofExcept] using h a rfl

/-- A program followed by one whose failure does not depend on the result. -/
theorem fails_bind (h : ∀ a s₁, m s = (.ok a, s₁) → (Fails (f a) s₁ ↔ Q)) :
    Fails (m >>= f) s ↔ Fails m s ∨ Q := by
  rcases fails_or_ok m s with hm | ⟨a, s₁, hm⟩
  · exact iff_of_true (fails_bind_of_fails hm) (Or.inl hm)
  · rw [fails_bind_of_ok hm, h a s₁ hm, or_iff_right (not_fails_of_ok hm)]

/-- If the run from `s` stops, it leaves the state as it was. -/
def Unchanged (m : Txn σ ε α) (s : σ) : Prop := ∀ e s', m s = (.error e, s') → s' = s

theorem Atomic.unchanged (h : Atomic m) (s : σ) : Unchanged m s := h s

/-- A program that tests first and writes then.  If every run that stops after the tests has
changed the state, the program keeps the state exactly when no later test fails. -/
theorem unchanged_iff {c : Except ε α} {Q : α → Prop}
    (hfail : ∀ a, c = .ok a → (Fails (f a) s ↔ Q a))
    (hdirty : ∀ a e s', c = .ok a → f a s = (.error e, s') → s' ≠ s) :
    Unchanged (ofExcept c >>= f) s ↔ ¬ ∃ a, c = .ok a ∧ Q a := by
  constructor
  · rintro h ⟨a, ha, hQ⟩
    obtain ⟨e, s', hrun⟩ := (hfail a ha).mpr hQ
    exact hdirty a e s' ha hrun (h e s' (ofExcept_bind_error.mpr (Or.inr ⟨a, ha, hrun⟩)))
  · intro h e s' hrun
    rcases ofExcept_bind_error.mp hrun with ⟨-, rfl⟩ | ⟨a, ha, hrun⟩
    · rfl
    · exact absurd ⟨a, ha, (hfail a ha).mp ⟨e, s', hrun⟩⟩ h

end fails

end Txn

end FlowMemory
