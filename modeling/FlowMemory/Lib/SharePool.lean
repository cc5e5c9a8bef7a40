import Mathlib.Tactic.Linarith
import Mathlib.Tactic.Ring

/-! # Pools of two assets with shares

A `Pool` holds two reserves and a number of shares.  `Step` is one operation on it, with every
quotient rounded towards zero: a deposit that issues no more shares than either amount is worth,
a withdrawal of the part of the reserves that the shares stand for, or a swap that pays the
constant-product amount.

* **No loss per share.**  `Worth p p'` compares the product of the reserves for each squared
  share without division.  Every step between pools with shares keeps it (`Step.worth`), and it
  is transitive over pools with shares (`Worth.trans`).
* **Backed shares.**  `Backed p` bounds the shares by the geometric mean of the reserves; steps
  between pools with shares keep it, and it bounds what a deposit issues (`Backed.issued_sq_le`).
* **No drained side.**  In a `Solvent` pool a reserve is empty only if there are no shares.
  Every step keeps this (`Step.solvent`); it needs that the quotients are strictly below the
  reserve as long as shares remain. -/

namespace FlowMemory

/-- Two reserves and the number of shares in them. -/
structure Pool where
  (base quote shares : ℕ)

namespace Pool

/-- One operation on a pool. -/
inductive Step : Pool → Pool → Prop
  | deposit {p : Pool} {b q l : ℕ} (hb : b ≠ 0) (hq : q ≠ 0) (hl : l ≠ 0)
      (hbase : l * p.base ≤ b * p.shares) (hquote : l * p.quote ≤ q * p.shares) :
      Step p ⟨p.base + b, p.quote + q, p.shares + l⟩
  | withdraw {p : Pool} {l : ℕ} (hshares : p.shares ≠ 0) (hl : l ≤ p.shares) :
      Step p ⟨p.base - p.base * l / p.shares, p.quote - p.quote * l / p.shares, p.shares - l⟩
  | swapBase {p : Pool} {n : ℕ} (hbase : p.base ≠ 0) (hquote : p.quote ≠ 0) :
      Step p ⟨p.base + n, p.quote - p.quote * n / (p.base + n), p.shares⟩
  | swapQuote {p : Pool} {n : ℕ} (hbase : p.base ≠ 0) (hquote : p.quote ≠ 0) :
      Step p ⟨p.base - p.base * n / (p.quote + n), p.quote + n, p.shares⟩

/-! ### Value per share -/

/-- The product of the reserves per squared share has not fallen. -/
def Worth (p p' : Pool) : Prop :=
  p.base * p.quote * p'.shares ^ 2 ≤ p'.base * p'.quote * p.shares ^ 2

theorem Worth.refl (p : Pool) : Worth p p := le_refl _

variable {p : Pool}

theorem Worth.trans {q r : Pool} (hq : q.shares ≠ 0) (h₁ : Worth p q) (h₂ : Worth q r) :
    Worth p r := by
  unfold Worth at *
  have hpos : 0 < q.shares ^ 2 := by positivity
  -- multiply both sides by the squared shares in the middle
  apply Nat.le_of_mul_le_mul_right _ hpos
  calc p.base * p.quote * r.shares ^ 2 * q.shares ^ 2
      = p.base * p.quote * q.shares ^ 2 * r.shares ^ 2 := by ring
    _ ≤ q.base * q.quote * p.shares ^ 2 * r.shares ^ 2 := Nat.mul_le_mul_right _ h₁
    _ = q.base * q.quote * r.shares ^ 2 * p.shares ^ 2 := by ring
    _ ≤ r.base * r.quote * q.shares ^ 2 * p.shares ^ 2 := Nat.mul_le_mul_right _ h₂
    _ = r.base * r.quote * p.shares ^ 2 * q.shares ^ 2 := by ring

/-- It is enough that neither reserve has fallen per share. -/
theorem worth_of_sides {p' : Pool} (hbase : p.base * p'.shares ≤ p'.base * p.shares)
    (hquote : p.quote * p'.shares ≤ p'.quote * p.shares) : Worth p p' := by
  unfold Worth
  calc p.base * p.quote * p'.shares ^ 2
      = p.base * p'.shares * (p.quote * p'.shares) := by ring
    _ ≤ p'.base * p.shares * (p'.quote * p.shares) := Nat.mul_le_mul hbase hquote
    _ = p'.base * p'.quote * p.shares ^ 2 := by ring

variable {r : ℕ}

/-- What remains of a reserve after its part for `l` of `t` shares has been paid, rounded down. -/
theorem remainder_ge {l t : ℕ} : r * (t - l) ≤ (r - r * l / t) * t := by
  have hdiv : r * l / t * t ≤ r * l := Nat.div_mul_le_self _ _
  rw [Nat.sub_mul, Nat.mul_sub]
  omega

/-- The product of the reserves after a swap is at least the product before. -/
theorem swap_product_ge {o n : ℕ} : r * o ≤ (r + n) * (o - o * n / (r + n)) := by
  have hdiv : o * n / (r + n) * (r + n) ≤ o * n := Nat.div_mul_le_self _ _
  have hprod : (r + n) * o = r * o + o * n := by ring
  rw [Nat.mul_sub, hprod, Nat.mul_comm (r + n)]
  omega

theorem Step.worth {p' : Pool} (h : Step p p') : Worth p p' := by
  cases h with
  | deposit hb hq hl hbase hquote =>
    apply worth_of_sides
    · simp only [Nat.mul_add, Nat.add_mul]
      linarith
    · simp only [Nat.mul_add, Nat.add_mul]
      linarith
  | withdraw hshares hl => exact worth_of_sides remainder_ge remainder_ge
  | swapBase hbase hquote => exact Nat.mul_le_mul_right _ swap_product_ge
  | swapQuote hbase hquote =>
    unfold Worth
    apply Nat.mul_le_mul_right
    rw [Nat.mul_comm p.base, Nat.mul_comm (p.base - _)]
    exact swap_product_ge

/-! ### Shares below the geometric mean -/

/-- The shares are at most the geometric mean of the reserves. -/
def Backed (p : Pool) : Prop := p.shares ^ 2 ≤ p.base * p.quote

theorem Step.backed {p' : Pool} (h : Step p p') (hshares : p.shares ≠ 0) (hp : Backed p) :
    Backed p' := by
  have hpos : 0 < p.shares ^ 2 := by positivity
  apply Nat.le_of_mul_le_mul_right _ hpos
  calc p'.shares ^ 2 * p.shares ^ 2
      ≤ p'.shares ^ 2 * (p.base * p.quote) := Nat.mul_le_mul_left _ hp
    _ = p.base * p.quote * p'.shares ^ 2 := Nat.mul_comm _ _
    _ ≤ p'.base * p'.quote * p.shares ^ 2 := h.worth

/-- The shares that a deposit is worth are at most the geometric mean of its two amounts. -/
theorem Backed.issued_sq_le (hp : Backed p) (b q : ℕ) :
    min (b * p.shares / p.base) (q * p.shares / p.quote) ^ 2 ≤ b * q := by
  set m := min (b * p.shares / p.base) (q * p.shares / p.quote) with hm
  have hbase : m * p.base ≤ b * p.shares :=
    (Nat.mul_le_mul_right _ (min_le_left _ _)).trans (Nat.div_mul_le_self _ _)
  have hquote : m * p.quote ≤ q * p.shares :=
    (Nat.mul_le_mul_right _ (min_le_right _ _)).trans (Nat.div_mul_le_self _ _)
  rcases Nat.eq_zero_or_pos (p.base * p.quote) with hzero | hpos
  · -- without reserves there are no shares, and the deposit is worth none
    have hshares : p.shares = 0 := by
      rw [Backed, hzero] at hp
      exact pow_eq_zero_iff two_ne_zero |>.mp (Nat.le_zero.mp hp)
    simp [hm, hshares]
  · apply Nat.le_of_mul_le_mul_right _ hpos
    calc m ^ 2 * (p.base * p.quote) = m * p.base * (m * p.quote) := by ring
      _ ≤ b * p.shares * (q * p.shares) := Nat.mul_le_mul hbase hquote
      _ = b * q * p.shares ^ 2 := by ring
      _ ≤ b * q * (p.base * p.quote) := Nat.mul_le_mul_left _ hp

/-! ### Empty reserves -/

/-- A reserve is empty exactly when there are no shares. -/
structure Solvent (p : Pool) : Prop where
  base : p.base = 0 ↔ p.shares = 0
  quote : p.quote = 0 ↔ p.shares = 0

/-- A part of the shares takes less than the whole of a reserve. -/
theorem part_lt {l t : ℕ} (hr : r ≠ 0) (hl : l < t) : r * l / t < r := by
  apply Nat.div_lt_of_lt_mul
  rw [Nat.mul_comm t]
  exact Nat.mul_lt_mul_of_pos_left hl (Nat.pos_of_ne_zero hr)

theorem swap_out_lt {o n : ℕ} (hr : r ≠ 0) (ho : o ≠ 0) : o * n / (r + n) < o :=
  part_lt ho (by omega)

/-- A reserve after a withdrawal is empty exactly when the last shares have left. -/
theorem withdrawn_eq_zero {l t : ℕ} (hr : r ≠ 0) (ht : t ≠ 0) (hl : l ≤ t) :
    r - r * l / t = 0 ↔ t - l = 0 := by
  rcases Nat.lt_or_eq_of_le hl with hlt | rfl
  · have := part_lt hr hlt
    omega
  · rw [Nat.mul_div_cancel _ (Nat.pos_of_ne_zero ht)]
    omega

theorem Step.solvent {p' : Pool} (h : Step p p') (hs : Solvent p) : Solvent p' := by
  cases h with
  | deposit hb hq hl hbase hquote => constructor <;> simp only <;> omega
  | withdraw hshares hl =>
    have hbase : p.base ≠ 0 := fun h => hshares (hs.base.mp h)
    have hquote : p.quote ≠ 0 := fun h => hshares (hs.quote.mp h)
    exact ⟨withdrawn_eq_zero hbase hshares hl, withdrawn_eq_zero hquote hshares hl⟩
  | @swapBase n hbase hquote =>
    have hshares : p.shares ≠ 0 := fun h => hbase (hs.base.mpr h)
    have := swap_out_lt (n := n) hbase hquote
    constructor <;> simp only <;> omega
  | @swapQuote n hbase hquote =>
    have hshares : p.shares ≠ 0 := fun h => hbase (hs.base.mpr h)
    have := swap_out_lt (n := n) hquote hbase
    constructor <;> simp only <;> omega

end Pool

end FlowMemory
