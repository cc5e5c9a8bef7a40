import Mathlib.Algebra.GroupWithZero.Nat
import Mathlib.Logic.Function.Basic
import Mathlib.Tactic.SplitIfs

/-! # Programs whose errors undo all writes

`Call σ ε α` is the meaning of a contract routine: it reads and writes the state `σ` and returns
a value, or it **reverts** with an error and leaves no trace in the state.  A routine of one
contract runs inside the state of a larger system with `within`.

The lemmas `bind_ok`, `get_ok` and so on say what a returning run did.  They are simp lemmas: a
run of a straight-line program becomes the list of the tests it passed and the state it left,
and a program all of whose tests pass is seen to return.

Arithmetic is checked: `addChecked`, `subChecked` and `mulChecked` have no value when the
result does not fit the width. -/

namespace FlowMemory

/-! ### Checked arithmetic -/

/-- Addition of words of the given width. -/
def addChecked (width a b : ℕ) : Option ℕ := if a + b < 2 ^ width then some (a + b) else none

/-- Multiplication of words of the given width. -/
def mulChecked (width a b : ℕ) : Option ℕ := if a * b < 2 ^ width then some (a * b) else none

/-- Subtraction of words. -/
def subChecked (a b : ℕ) : Option ℕ := if b ≤ a then some (a - b) else none

variable {width a b c : ℕ}

@[simp] theorem addChecked_eq_some :
    addChecked width a b = some c ↔ a + b < 2 ^ width ∧ a + b = c := by
  unfold addChecked
  split_ifs with h <;> simp [h]

@[simp] theorem mulChecked_eq_some :
    mulChecked width a b = some c ↔ a * b < 2 ^ width ∧ a * b = c := by
  unfold mulChecked
  split_ifs with h <;> simp [h]

@[simp] theorem addChecked_eq_none : addChecked width a b = none ↔ 2 ^ width ≤ a + b := by
  unfold addChecked
  split_ifs with h <;> simp [h]
  omega

@[simp] theorem subChecked_eq_none : subChecked a b = none ↔ a < b := by
  unfold subChecked
  split_ifs with h <;> simp [h]
  omega

@[simp] theorem subChecked_eq_some : subChecked a b = some c ↔ b ≤ a ∧ a - b = c := by
  unfold subChecked
  split_ifs with h <;> simp [h]

/-! ### Tables -/

/-- What holds of an entry of a table in which one entry was written. -/
theorem of_update {ι ρ : Type} [DecidableEq ι] {f f' : ι → ρ} {i j : ι} {r : ρ} {P : ρ → Prop}
    (h : f' = Function.update f i r) (hnew : j = i → P r) (hold : P (f j)) : P (f' j) := by
  rw [h, Function.update_apply]
  split_ifs with hj
  exacts [hnew hj, hold]

/-! ### Programs -/

/-- A program on the state `σ`: an error, or a value and the state reached. -/
def Call (σ ε α : Type) : Type := σ → Except ε (α × σ)

namespace Call

variable {σ ρ ε ε' α β : Type}

instance : Monad (Call σ ε) where
  pure a := fun s => .ok (a, s)
  bind m f := fun s =>
    match m s with
    | .ok (a, s') => f a s'
    | .error e => .error e

/-- The current state. -/
def get : Call σ ε σ := fun s => .ok (s, s)

/-- Write to the state. -/
def modify (f : σ → σ) : Call σ ε Unit := fun s => .ok ((), f s)

/-- Revert with `e`. -/
def revert (e : ε) : Call σ ε α := fun _ => .error e

/-- Revert with `e` when `c` holds. -/
def revertIf (c : Prop) [Decidable c] (e : ε) : Call σ ε Unit :=
  fun s => if c then .error e else .ok ((), s)

/-- Unwrap an option, reverting with `e` on `none`. -/
def okOr (o : Option α) (e : ε) : Call σ ε α :=
  fun s => match o with
    | some a => .ok (a, s)
    | none => .error e

/-- Run a program on a part of the state. -/
def within (view : σ → ρ) (put : σ → ρ → σ) (wrap : ε → ε') (m : Call ρ ε α) : Call σ ε' α :=
  fun s => match m (view s) with
    | .ok (a, r) => .ok (a, put s r)
    | .error e => .error (wrap e)

/-! ### What a returning run did -/

theorem toOption_eq_some {x : Except ε α} {a : α} : x.toOption = some a ↔ x = .ok a := by
  cases x <;> simp [Except.toOption]

/-- The value of a program that returns nothing. -/
theorem exists_unit {p : Unit → Prop} : (∃ u, p u) ↔ p () :=
  ⟨fun ⟨_, h⟩ => h, fun h => ⟨(), h⟩⟩

/-- The state that a call leaves, executed. -/
def after (m : Call σ ε Unit) (s : σ) : Option σ := (m s).toOption.map Prod.snd

theorem after_eq_some {m : Call σ ε Unit} {s s' : σ} : after m s = some s' ↔ m s = .ok ((), s') := by
  simp [after, toOption_eq_some, exists_unit]

section inversion

variable {m : Call σ ε α} {f : α → Call σ ε β} {s s' : σ} {e : ε} {r : β × σ} {g : σ → σ}
  {u : Unit} {o : Option α} {k : Unit → Call σ ε β}

@[simp] theorem bind_ok : (m >>= f) s = .ok r ↔
    ∃ a s₁, m s = .ok (a, s₁) ∧ f a s₁ = .ok r := by
  change (match m s with
    | .ok (a, s') => f a s'
    | .error e => .error e) = _ ↔ _
  rcases m s with e | ⟨a, s₁⟩
  · simp
  · constructor
    · intro h
      exact ⟨a, s₁, rfl, h⟩
    · rintro ⟨a', s₁', h, h'⟩
      cases h
      exact h'

@[simp] theorem pure_ok {a b : α} : (pure a : Call σ ε α) s = .ok (b, s') ↔ b = a ∧ s' = s := by
  change Except.ok (a, s) = Except.ok (b, s') ↔ _
  simp [eq_comm]

@[simp] theorem get_ok {t : σ} : (get : Call σ ε σ) s = .ok (t, s') ↔ t = s ∧ s' = s := by
  simp [get, eq_comm]

@[simp] theorem modify_ok : (modify g : Call σ ε Unit) s = .ok (u, s') ↔
    s' = g s := by
  simp [modify, eq_comm]

@[simp] theorem revertIf_ok {c : Prop} [Decidable c] :
    (revertIf c e : Call σ ε Unit) s = .ok (u, s') ↔ ¬ c ∧ s' = s := by
  unfold revertIf
  split_ifs with h <;> simp [h, eq_comm]

@[simp] theorem revert_ok {r : α × σ} : (revert e : Call σ ε α) s = .ok r ↔ False := by
  simp [revert]

@[simp] theorem okOr_ok {a : α} :
    (okOr o e : Call σ ε α) s = .ok (a, s') ↔ o = some a ∧ s' = s := by
  cases o <;> simp [okOr, eq_comm]

@[simp] theorem within_ok {view : σ → ρ} {put : σ → ρ → σ} {wrap : ε → ε'} {m : Call ρ ε α}
    {a : α} :
    within view put wrap m s = .ok (a, s') ↔ ∃ r, m (view s) = .ok (a, r) ∧ s' = put s r := by
  unfold within
  rcases m (view s) with e | ⟨b, r⟩
  · simp
  · constructor
    · intro h
      cases h
      exact ⟨r, rfl, rfl⟩
    · rintro ⟨r', h, rfl⟩
      cases h
      rfl

/-! The same for the first command of a program. -/

theorem revertIf_bind_ok {c : Prop} [Decidable c] :
    (revertIf c e >>= k) s = .ok r ↔ ¬ c ∧ k () s = .ok r := by
  simp [and_assoc, exists_unit]

/-! Why a run reverted. -/

@[simp] theorem bind_error : (m >>= f) s = .error e ↔
    m s = .error e ∨ ∃ a s₁, m s = .ok (a, s₁) ∧ f a s₁ = .error e := by
  change (match m s with
    | .ok (a, s') => f a s'
    | .error e => .error e) = _ ↔ _
  rcases m s with e' | ⟨a, s₁⟩
  · simp
  · constructor
    · intro h
      exact .inr ⟨a, s₁, rfl, h⟩
    · rintro (h | ⟨a', s₁', h, h'⟩)
      · cases h
      · cases h
        exact h'

@[simp] theorem get_error : (get : Call σ ε σ) s = .error e ↔ False :=
  ⟨nofun, nofun⟩

@[simp] theorem modify_error : (modify g : Call σ ε Unit) s = .error e ↔ False :=
  ⟨nofun, nofun⟩

@[simp] theorem revertIf_error {c : Prop} [Decidable c] {e' : ε} :
    (revertIf c e' : Call σ ε Unit) s = .error e ↔ c ∧ e' = e := by
  unfold revertIf
  split_ifs with h <;> simp [h]

@[simp] theorem okOr_error {e' : ε} :
    (okOr o e' : Call σ ε α) s = .error e ↔ o = none ∧ e' = e := by
  cases o <;> simp [okOr]

end inversion

/-! ### Programs that return -/

/-- The program does not revert in the state. -/
def Returns (m : Call σ ε α) (s : σ) : Prop := ∃ r, m s = .ok r

section returns

variable {m : Call σ ε α} {f : α → Call σ ε β} {s : σ} {e : ε}

end returns

end Call

end FlowMemory
