import Mathlib.Logic.Function.Basic
import Mathlib.Data.Nat.Notation

/-! # A budget for every period

Amounts are first **reserved** and later spent or released.  What is spent is booked in the
current period, and in every period at most `cap` may be spent.  If a reservation has to fit next
to what the current period has spent and what is reserved already, then everything reserved can be
spent, in this period or in any later one: the invariant is `Within`. -/

namespace FlowMemory

/-- What the period has spent and what is reserved fit the budget, and later periods have spent
nothing. -/
structure Within (cap : ℕ) (spent : ℕ → ℕ) (reserved period : ℕ) : Prop where
  fits : spent period + reserved ≤ cap
  later : ∀ p, period < p → spent p = 0

variable {cap reserved period n m : ℕ} {spent : ℕ → ℕ}

theorem Within.reserve (h : Within cap spent reserved period)
    (hn : spent period + reserved + n ≤ cap) : Within cap spent (reserved + n) period :=
  ⟨by omega, h.later⟩

theorem Within.release (h : Within cap spent reserved period) (n : ℕ) :
    Within cap spent (reserved - n) period :=
  ⟨by have := h.fits; omega, h.later⟩

/-- At most the reservation is spent. -/
theorem Within.spend (h : Within cap spent reserved period) (hnm : n ≤ m) (hm : m ≤ reserved) :
    Within cap (Function.update spent period (spent period + n)) (reserved - m) period := by
  refine ⟨?_, fun p hp => ?_⟩
  · rw [Function.update_self]
    have := h.fits
    omega
  · rw [Function.update_of_ne (by omega)]
    exact h.later p hp

theorem Within.advance (h : Within cap spent reserved period) {p : ℕ} (hp : period ≤ p) :
    Within cap spent reserved p := by
  refine ⟨?_, fun q hq => h.later q (by omega)⟩
  have hfits := h.fits
  rcases Nat.eq_or_lt_of_le hp with rfl | hlt
  · exact hfits
  · rw [h.later p hlt]
    omega

end FlowMemory
