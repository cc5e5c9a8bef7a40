import Mathlib.Algebra.BigOperators.Group.Finset.Piecewise
import Mathlib.Data.Fintype.BigOperators

/-! # Totals over a table of records

A table maps every key to a record, and a **tally** is the total of one amount of each record.
Replacing one record changes the tally by the difference of the two amounts. -/

namespace FlowMemory

open Function

variable {ι ρ : Type} [DecidableEq ι]

section totals

variable [Fintype ι]

theorem tally_update (amount : ρ → ℕ) (table : ι → ρ) (i : ι) (r : ρ) :
    ∑ j, amount (update table i r j) + amount (table i) =
      ∑ j, amount (table j) + amount r := by
  have hrest := Finset.sum_update_of_mem (Finset.mem_univ i) (fun j => amount (table j)) (amount r)
  have hold := Finset.sum_update_of_mem (Finset.mem_univ i) (fun j => amount (table j))
    (amount (table i))
  rw [update_eq_self] at hold
  rw [Finset.sum_congr rfl fun j _ => apply_update (fun _ => amount) table i r j, hrest, hold]
  omega

/-- The same for a table of amounts. -/
theorem sum_update (f : ι → ℕ) (i : ι) (n : ℕ) :
    ∑ j, update f i n j + f i = ∑ j, f j + n :=
  tally_update (fun n => n) f i n

end totals

/-- Raising one entry. -/
theorem update_add_apply (f : ι → ℕ) (i j : ι) (n : ℕ) :
    update f i (f i + n) j = f j + if i = j then n else 0 := by
  simp only [update_apply, eq_comm (a := j)]
  split_ifs with h
  exacts [h ▸ rfl, rfl]

/-- Lowering one entry. -/
theorem update_sub_apply {f : ι → ℕ} {i : ι} {n : ℕ} (hn : n ≤ f i) (j : ι) :
    update f i (f i - n) j + (if i = j then n else 0) = f j := by
  simp only [update_apply, eq_comm (a := j)]
  split_ifs with h
  exacts [h ▸ Nat.sub_add_cancel hn, rfl]

end FlowMemory
