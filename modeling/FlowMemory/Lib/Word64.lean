import Mathlib.Algebra.Group.Nat.Defs
import Mathlib.Tactic.SplitIfs

/-! # Checked arithmetic on 64-bit words

The checked operations return `none` when the exact result is not representable.  Each one is
described by the exact equation between natural numbers that its result satisfies
(`checkedAdd_eq_some`, `checkedSub_eq_some`, `toU64_eq_some`); the bound `x.toNat < 2 ^ 64`
is a property of the type, so the equations are all a caller needs.

Products are formed at twice the width: `checkedMul128` is the exact product of two words,
which always fits (`checkedMul128_words`), and a quotient is narrowed back by `toU64`. -/

namespace FlowMemory

/-- Addition without wrap-around. -/
def checkedAdd (a b : UInt64) : Option UInt64 :=
  if a.toNat + b.toNat < 2 ^ 64 then some (a + b) else none

/-- Subtraction without wrap-around. -/
def checkedSub (a b : UInt64) : Option UInt64 :=
  if b ≤ a then some (a - b) else none

/-- Addition of 128-bit words without wrap-around. -/
def checkedAdd128 (a b : ℕ) : Option ℕ := if a + b < 2 ^ 128 then some (a + b) else none

/-- Multiplication of 128-bit words without wrap-around. -/
def checkedMul128 (a b : ℕ) : Option ℕ := if a * b < 2 ^ 128 then some (a * b) else none

/-- Narrowing to 64 bits. -/
def toU64 (n : ℕ) : Option UInt64 := if n < 2 ^ 64 then some (UInt64.ofNat n) else none

variable {a b c : UInt64}

theorem checkedAdd_eq_some :
    checkedAdd a b = some c ↔ c.toNat = a.toNat + b.toNat := by
  unfold checkedAdd
  have hc := c.toNat_lt
  split_ifs with h
  · rw [Option.some.injEq, ← UInt64.toNat_inj, UInt64.toNat_add, Nat.mod_eq_of_lt h, eq_comm]
  · constructor
    · intro h'
      cases h'
    · intro h'
      omega

theorem checkedAdd_eq_none :
    checkedAdd a b = none ↔ 2 ^ 64 ≤ a.toNat + b.toNat := by
  unfold checkedAdd
  split_ifs with h <;> simp <;> omega

theorem checkedSub_eq_some :
    checkedSub a b = some c ↔ a.toNat = c.toNat + b.toNat := by
  unfold checkedSub
  split_ifs with h
  · have hle : b.toNat ≤ a.toNat := UInt64.le_iff_toNat_le.mp h
    rw [Option.some.injEq, ← UInt64.toNat_inj, UInt64.toNat_sub_of_le _ _ h]
    omega
  · have hlt : ¬ b.toNat ≤ a.toNat := fun h' => h (UInt64.le_iff_toNat_le.mpr h')
    constructor
    · intro h'
      cases h'
    · intro h'
      omega

theorem checkedSub_eq_none : checkedSub a b = none ↔ a.toNat < b.toNat := by
  unfold checkedSub
  split_ifs with h
  · have := UInt64.le_iff_toNat_le.mp h
    simp
    omega
  · have : ¬ b.toNat ≤ a.toNat := fun h' => h (UInt64.le_iff_toNat_le.mpr h')
    simp
    omega

theorem toU64_eq_some {n : ℕ} : toU64 n = some c ↔ c.toNat = n := by
  unfold toU64
  have hc := c.toNat_lt
  split_ifs with h
  · rw [Option.some.injEq, ← UInt64.toNat_inj, UInt64.toNat_ofNat_of_lt' h, eq_comm]
  · constructor
    · intro h'
      cases h'
    · intro h'
      omega

theorem checkedMul128_words (a b : UInt64) :
    checkedMul128 a.toNat b.toNat = some (a.toNat * b.toNat) := by
  have ha := a.toNat_lt
  have hb := b.toNat_lt
  have h : a.toNat * b.toNat < 2 ^ 128 :=
    calc a.toNat * b.toNat < 2 ^ 64 * 2 ^ 64 := Nat.mul_lt_mul'' ha hb
      _ = 2 ^ 128 := by decide
  exact if_pos h

theorem checkedAdd128_words (a b : UInt64) :
    checkedAdd128 a.toNat b.toNat = some (a.toNat + b.toNat) := by
  have ha := a.toNat_lt
  have hb := b.toNat_lt
  have h : a.toNat + b.toNat < 2 ^ 128 := by omega
  exact if_pos h

theorem toNat_ne_zero (h : a ≠ 0) : a.toNat ≠ 0 := by
  intro h'
  exact h (UInt64.toNat_inj.mp h')

/-- An in-place decrement that does not wrap. -/
theorem toNat_sub_add (h : b ≤ a) : a.toNat = (a - b).toNat + b.toNat := by
  have := UInt64.le_iff_toNat_le.mp h
  rw [UInt64.toNat_sub_of_le _ _ h]
  omega

end FlowMemory
