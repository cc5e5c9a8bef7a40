import FlowMemory.AgentBonds.AgentStakeRegistry
import Mathlib.Data.Nat.Size
import Mathlib.Tactic.Linarith
import Mathlib.Tactic.Ring

/-! # The square root of a stake

The capacity of an agent is taken from a square root that makes five **Newton steps** from a power of
two.  The steps never overflow, and the root is never too large.  How far the steps get depends on the
**length** of the number, its bits: `sqrt_exact_iff` says for which lengths all roots are exact.  For
the others a larger stake can have a smaller capacity. -/

namespace FlowMemory.AgentBonds.AgentStakeRegistry

variable {v x n : ℕ} {s part : ℕ × ℕ}

/-! ### The guess -/

/-- What is left of `v` is its quotient by the square of the guess. -/
structure Scaled (v bits : ℕ) (s : ℕ × ℕ) : Prop where
  pos : 0 < s.1
  lt : s.1 < 2 ^ bits
  low : s.1 * s.2 ^ 2 ≤ v
  high : v < (s.1 + 1) * s.2 ^ 2

theorem Scaled.shift (bits : ℕ) (hbits : 2 ∣ bits) (h : Scaled v (2 * bits) s) :
    Scaled v bits (sqrtShift s bits) := by
  obtain ⟨x, r⟩ := s
  unfold sqrtShift
  split
  case isTrue hle =>
    have hd : 0 < 2 ^ bits := by positivity
    have hsq : (r <<< (bits / 2)) ^ 2 = 2 ^ bits * r ^ 2 := by
      rw [Nat.shiftLeft_eq, mul_pow, ← pow_mul, Nat.div_mul_cancel hbits, mul_comm]
    have hlt : x < 2 ^ bits * 2 ^ bits := by
      rw [← pow_add, ← two_mul]
      exact h.lt
    rw [Nat.shiftRight_eq_div_pow]
    refine ⟨Nat.div_pos hle hd, Nat.div_lt_of_lt_mul hlt, ?_, ?_⟩
    · rw [hsq, ← mul_assoc]
      exact (Nat.mul_le_mul_right _ (Nat.div_mul_le_self x _)).trans h.low
    · rw [hsq, ← mul_assoc]
      refine h.high.trans_le (Nat.mul_le_mul_right _ ?_)
      rw [mul_comm]
      exact Nat.lt_mul_div_succ x hd
  case isFalse hlt => exact ⟨h.pos, not_le.mp hlt, h.low, h.high⟩

theorem sqrtGuess_bounds (hpos : 0 < v) (hlt : v < 2 ^ 256) :
    sqrtGuess v ^ 2 ≤ v ∧ v < 4 * sqrtGuess v ^ 2 := by
  have hstart : Scaled v 256 (v, 1) := ⟨hpos, hlt, by simp, by simp⟩
  have hend := hstart.shift 128 (by decide) |>.shift 64 (by decide) |>.shift 32 (by decide)
    |>.shift 16 (by decide) |>.shift 8 (by decide) |>.shift 4 (by decide) |>.shift 2 (by decide)
  simp only [sqrtGuess, List.foldl]
  refine ⟨(Nat.le_mul_of_pos_left _ hend.pos).trans hend.low, ?_⟩
  exact hend.high.trans_le (Nat.mul_le_mul_right _ hend.lt)

theorem sqrtShift_pow {k : ℕ} (bits : ℕ) (h : s.2 = 2 ^ k) : ∃ k, (sqrtShift s bits).2 = 2 ^ k := by
  unfold sqrtShift
  split
  · exact ⟨k + bits / 2, by rw [h, Nat.shiftLeft_eq, pow_add]⟩
  · exact ⟨k, h⟩

theorem sqrtGuess_pow (v : ℕ) : ∃ k, sqrtGuess v = 2 ^ k := by
  unfold sqrtGuess
  generalize [128, 64, 32, 16, 8, 4, 2] = shifts
  suffices ∀ s : ℕ × ℕ, (∃ k, s.2 = 2 ^ k) → ∃ k, (shifts.foldl sqrtShift s).2 = 2 ^ k from
    this (v, 1) ⟨0, rfl⟩
  induction shifts with
  | nil => exact fun _ h => h
  | cons bits shifts ih =>
    rintro s ⟨k, hk⟩
    exact ih _ (sqrtShift_pow bits hk)

/-- The guess for a number of odd length is closer. -/
theorem lt_two_mul_sqrtGuess (hpos : 0 < v) (hlt : v < 2 ^ 256) (hodd : Nat.size v % 2 = 1) :
    v < 2 * sqrtGuess v ^ 2 := by
  obtain ⟨hlow, hhigh⟩ := sqrtGuess_bounds hpos hlt
  obtain ⟨k, hk⟩ := sqrtGuess_pow v
  have hsq : sqrtGuess v ^ 2 = 2 ^ (2 * k) := by rw [hk, ← pow_mul, mul_comm]
  have hmore : 2 * k < Nat.size v := Nat.lt_size.mpr (hsq ▸ hlow)
  have hless : Nat.size v ≤ 2 * k + 2 := Nat.size_le.mpr (by rw [pow_add, ← hsq]; omega)
  have hsize : Nat.size v ≤ 2 * k + 1 := by omega
  rw [hsq, ← pow_succ']
  exact Nat.size_le.mp hsize

/-! ### Newton steps -/

theorem pos_of_lt_sq (hpos : 0 < v) (hlt : v < (x + 1) ^ 2) : 0 < x := by
  rcases Nat.eq_zero_or_pos x with rfl | hx
  · omega
  · exact hx

/-- A step is at least the root. -/
theorem lt_step_sq (hx : 0 < x) : v < ((x + v / x) / 2 + 1) ^ 2 := by
  have hdiv := Nat.lt_mul_div_succ v hx
  have hmean := four_mul_le_sq_add x (v / x + 1)
  have hhalf : x + (v / x + 1) ≤ 2 * ((x + v / x) / 2 + 1) := by omega
  have := Nat.pow_le_pow_left hhalf 2
  nlinarith

theorem step_sq_le : 4 * x ^ 2 * ((x + v / x) / 2) ^ 2 ≤ (x ^ 2 + v) ^ 2 := by
  have hmul : x * (v / x) ≤ v := Nat.mul_div_le v x
  have hdouble : 2 * ((x + v / x) / 2) ≤ x + v / x := Nat.mul_div_le _ 2
  calc 4 * x ^ 2 * ((x + v / x) / 2) ^ 2 = (x * (2 * ((x + v / x) / 2))) ^ 2 := by ring
    _ ≤ (x ^ 2 + v) ^ 2 := Nat.pow_le_pow_left (by nlinarith) 2

/-- The square is above `v` by at most one or by at most the given part of `v`. -/
def Near (v : ℕ) (part : ℕ × ℕ) (x : ℕ) : Prop :=
  x ^ 2 ≤ v + 1 ∨ part.2 * x ^ 2 ≤ (part.2 + part.1) * v

/-- What a step makes of a part. -/
def tighten (part : ℕ × ℕ) : ℕ × ℕ := (part.1 ^ 2, 4 * part.2 * (part.2 + part.1))

theorem Near.step (hx : 0 < x) (hlt : v < (x + 1) ^ 2) (h : Near v part x) :
    Near v (tighten part) ((x + v / x) / 2) := by
  have hy := step_sq_le (v := v) (x := x)
  generalize (x + v / x) / 2 = y at hy ⊢
  obtain ⟨q, p⟩ := part
  have hsq : 0 < x ^ 2 := by positivity
  rcases le_or_gt (x ^ 2) v with hle | hgt
  · obtain ⟨d, rfl⟩ := Nat.exists_eq_add_of_le hle
    have hd : d ≤ 2 * x := by nlinarith
    refine .inl (Nat.le_of_mul_le_mul_left ?_ hsq)
    nlinarith [Nat.pow_le_pow_left hd 2]
  · obtain ⟨d, hd⟩ := Nat.exists_eq_add_of_le hgt.le
    rcases h with h | h
    · have hone : d ≤ 1 := by omega
      refine .inl (Nat.le_of_mul_le_mul_left ?_ hsq)
      nlinarith [Nat.pow_le_pow_left hone 2]
    · have hpart : p * d ≤ q * v := by nlinarith
      have hfirst := Nat.pow_le_pow_left hpart 2
      have hsecond := Nat.mul_le_mul_left (q * d) hpart
      refine .inr (Nat.le_of_mul_le_mul_left ?_ hsq)
      calc x ^ 2 * (4 * p * (p + q) * y ^ 2) = p * (p + q) * (4 * x ^ 2 * y ^ 2) := by ring
        _ ≤ p * (p + q) * (x ^ 2 + v) ^ 2 := Nat.mul_le_mul_left _ hy
        _ ≤ x ^ 2 * ((4 * p * (p + q) + q ^ 2) * v) := by
          rw [hd]
          nlinarith

theorem sqrtStep_eq (hx : 0 < x) (h : x + v / x < 2 ^ 256) :
    sqrtStep v x = some ((x + v / x) / 2) := by
  rw [sqrtStep, if_neg hx.ne', addChecked, if_pos h]
  rfl

/-- Steps from a number that is at least the root. -/
theorem sqrtLoop_near (hpos : 0 < v) (hlt : v < (x + 1) ^ 2) (hfits : x + n < 2 ^ 254)
    (hnear : Near v part x) :
    ∃ y, sqrtLoop v n x = some y ∧ v < (y + 1) ^ 2 ∧ Near v (tighten^[n] part) y := by
  induction n generalizing x part with
  | zero => exact ⟨x, rfl, hlt, hnear⟩
  | succ n ih =>
    have hx := pos_of_lt_sq hpos hlt
    have hdiv : v / x ≤ x + 2 := by
      rw [Nat.div_le_iff_le_mul_add_pred hx]
      nlinarith
    obtain ⟨y, hloop, hy⟩ := ih (lt_step_sq hx) (by omega) (hnear.step hx hlt)
    refine ⟨y, ?_, hy⟩
    rw [sqrtLoop, sqrtStep_eq hx (by omega)]
    exact hloop

/-- The steps from the guess, where the first is near the root by the given part. -/
theorem sqrtLoop_guess (hpos : 0 < v) (hlt : v < 2 ^ 256)
    (hnear : Near v part ((sqrtGuess v + v / sqrtGuess v) / 2)) :
    ∃ x, sqrtLoop v 5 (sqrtGuess v) = some x ∧ v < (x + 1) ^ 2 ∧
      Near v (tighten^[4] part) x := by
  obtain ⟨hlow, hhigh⟩ := sqrtGuess_bounds hpos hlt
  generalize sqrtGuess v = g at hlow hhigh hnear
  have hg : 0 < g := by
    by_contra hzero
    obtain rfl : g = 0 := by omega
    omega
  have hfits : g < 2 ^ 128 := lt_of_pow_lt_pow_left₀ 2 (Nat.zero_le _) (by omega)
  have hdiv : v / g < 4 * g := Nat.div_lt_of_lt_mul (by nlinarith)
  obtain ⟨y, hloop, hy⟩ := sqrtLoop_near (n := 4) hpos (lt_step_sq hg) (by omega) hnear
  refine ⟨y, ?_, hy⟩
  rw [sqrtLoop, sqrtStep_eq hg (by omega)]
  exact hloop

/-- The first step from a guess whose square is at least the given part of the number. -/
theorem near_guess {g c : ℕ} (hg : 0 < g) (hlow : g ^ 2 ≤ v) (hhigh : v ≤ (c + 1) * g ^ 2) :
    Near v (c ^ 2, 4 * (c + 1)) ((g + v / g) / 2) := by
  have hy := step_sq_le (v := v) (x := g)
  obtain ⟨a, ha⟩ : ∃ a, (c + 1) * v = g ^ 2 + a :=
    Nat.exists_eq_add_of_le (hlow.trans (Nat.le_mul_of_pos_left v c.succ_pos))
  obtain ⟨b, hb⟩ := Nat.exists_eq_add_of_le hhigh
  refine .inr (Nat.le_of_mul_le_mul_left ?_ (show 0 < g ^ 2 by positivity))
  generalize (g + v / g) / 2 = y at hy
  calc g ^ 2 * (4 * (c + 1) * y ^ 2) = (c + 1) * (4 * g ^ 2 * y ^ 2) := by ring
    _ ≤ (c + 1) * (g ^ 2 + v) ^ 2 := Nat.mul_le_mul_left _ hy
    _ ≤ (c + 1) * (g ^ 2 + v) ^ 2 + a * b := Nat.le_add_right _ _
    _ = g ^ 2 * ((4 * (c + 1) + c ^ 2) * v) := by
      have hproduct : (g ^ 2 + a) * (v + b) = (c + 1) * v * ((c + 1) * g ^ 2) := by rw [ha, hb]
      nlinarith

/-! ### Exact roots -/

/-- A part that is small against the root leaves less than the root. -/
theorem sq_le_of_near (hx : 0 < x) (hpart : part.1 ^ 2 * v ≤ part.2 ^ 2) (hp : 0 < part.2)
    (h : Near v part x) : x ^ 2 ≤ v + x := by
  rcases h with h | h
  · omega
  by_contra hfar
  rw [not_le] at hfar
  obtain ⟨q, p⟩ := part
  have hroot : p * x < q * v := by
    have := Nat.mul_lt_mul_of_pos_left hfar hp
    linarith
  have hsq : (p * x) ^ 2 < (q * v) ^ 2 := Nat.pow_lt_pow_left hroot two_ne_zero
  have hle : (q * v) ^ 2 ≤ (p * x) ^ 2 := calc
    (q * v) ^ 2 = q ^ 2 * v * v := by ring
    _ ≤ p ^ 2 * x ^ 2 := Nat.mul_le_mul hpart (by omega)
    _ = (p * x) ^ 2 := by ring
  omega

/-- The smaller of a number that is at least the root and its cofactor, if the number is next to
it. -/
theorem lt_min_cofactor_sq (hx : 0 < x) (hlt : v < (x + 1) ^ 2) (hsq : x ^ 2 ≤ v + x) :
    v < (min x (v / x) + 1) * (min x (v / x) + 1) := by
  have hnext : x ≤ v / x + 1 := by
    rw [← Nat.sub_le_iff_le_add, Nat.le_div_iff_mul_le hx, Nat.sub_mul, one_mul, ← sq]
    omega
  have hhigh : v < x * (v / x + 1) := Nat.lt_mul_div_succ v hx
  rcases le_or_gt x (v / x) with hle | hgt
  · rw [min_eq_left hle, ← sq]
    exact hlt
  · rw [min_eq_right hgt.le]
    exact hhigh.trans_le (Nat.mul_le_mul_right _ hnext)

theorem sqrt_eq (hpos : 0 < v) (hlt : v < 2 ^ 256)
    (hnear : Near v part ((sqrtGuess v + v / sqrtGuess v) / 2)) :
    ∃ root, sqrt v = some root ∧ root * root ≤ v ∧
      ((tighten^[4] part).1 ^ 2 * v ≤ (tighten^[4] part).2 ^ 2 → 0 < (tighten^[4] part).2 →
        v < (root + 1) * (root + 1)) := by
  obtain ⟨x, hloop, hsq, hx⟩ := sqrtLoop_guess hpos hlt hnear
  have hpos' := pos_of_lt_sq hpos hsq
  refine ⟨min x (v / x), ?_, ?_, fun hpart hp => ?_⟩
  · rw [sqrt, if_neg hpos.ne', hloop, Option.bind_some, if_neg hpos'.ne', min_def_lt]
  · exact (Nat.mul_le_mul (min_le_left _ _) (min_le_right _ _)).trans (Nat.mul_div_le v x)
  · exact lt_min_cofactor_sq hpos' hsq (sq_le_of_near hpos' hpart hp hx)

theorem sqrt_le (hlt : v < 2 ^ 256) : ∃ root, sqrt v = some root ∧ root * root ≤ v := by
  rcases Nat.eq_zero_or_pos v with rfl | hpos
  · exact ⟨0, rfl, le_rfl⟩
  obtain ⟨hlow, hhigh⟩ := sqrtGuess_bounds hpos hlt
  have hg : 0 < sqrtGuess v := by
    by_contra hzero
    simp_all
  obtain ⟨root, hroot, hle, -⟩ := sqrt_eq hpos hlt (near_guess (c := 3) hg hlow hhigh.le)
  exact ⟨root, hroot, hle⟩

/-- The lengths of numbers whose roots are exact. -/
def ExactLength (length : ℕ) : Prop := length ≤ 97 ∨ length % 2 = 1 ∧ length ≤ 157

instance : DecidablePred ExactLength := fun _ => inferInstanceAs (Decidable (_ ∨ _))

/-- The root of a number is exact. -/
def ExactRoot (v : ℕ) : Prop :=
  ∃ root, sqrt v = some root ∧ root * root ≤ v ∧ v < (root + 1) * (root + 1)

theorem exactRoot_of_length (h : ExactLength (Nat.size v)) : ExactRoot v := by
  rcases Nat.eq_zero_or_pos v with rfl | hpos
  · exact ⟨0, rfl, le_rfl, by decide⟩
  have hsize : v < 2 ^ 157 := Nat.size_le.mp (by unfold ExactLength at h; omega)
  have hlt : v < 2 ^ 256 := by omega
  obtain ⟨hlow, hhigh⟩ := sqrtGuess_bounds hpos hlt
  have hg : 0 < sqrtGuess v := by
    by_contra hzero
    simp_all
  rcases Nat.mod_two_eq_zero_or_one (Nat.size v) with heven | hodd
  · have hsmall : v < 2 ^ 96 := Nat.size_le.mp (by unfold ExactLength at h; omega)
    obtain ⟨root, hroot, hle, hexact⟩ := sqrt_eq hpos hlt (near_guess (c := 3) hg hlow hhigh.le)
    refine ⟨root, hroot, hle, hexact ?_ ?_⟩ <;> norm_num [tighten]
    omega
  · obtain ⟨root, hroot, hle, hexact⟩ := sqrt_eq hpos hlt
      (near_guess (c := 1) hg hlow (lt_two_mul_sqrtGuess hpos hlt hodd).le)
    refine ⟨root, hroot, hle, hexact ?_ ?_⟩ <;> norm_num [tighten]
    omega

/-- A number of the given length whose root is too small. -/
def inexact (length : ℕ) : ℕ :=
  if length % 2 = 0 then 2 ^ length - 2 ^ (length / 2) - 1
  else if length = 159 then 730750818665451459101842351570589571224542937221
  else 2 ^ length - 1

theorem inexact_spec : ∀ length < 257, ExactLength length ∨
    (2 ^ (length - 1) ≤ inexact length ∧ inexact length < 2 ^ length) ∧
      ∀ root ∈ sqrt (inexact length), (root + 1) * (root + 1) ≤ inexact length := by
  decide +kernel

variable {r : AgentStakeRegistry} {a b : ℕ}

theorem capacityUnitsAt_mono (hunit : r.capacityUnit ≠ 0) (hle : a ≤ b) (hlt : b < 2 ^ 256)
    (hexact : ExactRoot (b / r.capacityUnit)) :
    ∃ m n, r.capacityUnitsAt a = some m ∧ r.capacityUnitsAt b = some n ∧ m ≤ n := by
  have hdiv := Nat.div_le_div_right (c := r.capacityUnit) hle
  have hb := (Nat.div_le_self b r.capacityUnit).trans_lt hlt
  obtain ⟨m, hm, hlow⟩ := sqrt_le (hdiv.trans_lt hb)
  obtain ⟨n, hn, -, hhigh⟩ := hexact
  refine ⟨m, n, (if_neg hunit).trans hm, (if_neg hunit).trans hn, Nat.le_of_lt_succ ?_⟩
  exact Nat.mul_self_lt_mul_self_iff.mp ((hlow.trans hdiv).trans_lt hhigh)

theorem maxOpenBondAt_mono {m n bond : ℕ} (hm : r.capacityUnitsAt a = some m)
    (hn : r.capacityUnitsAt b = some n) (hle : m ≤ n) (h : r.maxOpenBondAt b = some bond) :
    ∃ bond' ≤ bond, r.maxOpenBondAt a = some bond' := by
  simp only [maxOpenBondAt, hm, hn, Option.bind_some] at h ⊢
  rcases Nat.eq_zero_or_pos m with rfl | hpos
  · exact ⟨0, Nat.zero_le _, rfl⟩
  rw [if_neg (hpos.trans_le hle).ne'] at h
  rw [if_neg hpos.ne']
  obtain ⟨product, hproduct, hbond⟩ := Option.bind_eq_some_iff.mp h
  obtain ⟨hfits, rfl⟩ := mulChecked_eq_some.mp hproduct
  obtain ⟨hfits', rfl⟩ := mulChecked_eq_some.mp hbond
  have hunits := Nat.mul_le_mul_left r.capacityBondUnit hle
  have hsquare := Nat.mul_le_mul hunits hle
  refine ⟨_, hsquare, Option.bind_eq_some_iff.mpr ⟨_, mulChecked_eq_some.mpr ⟨?_, rfl⟩,
    mulChecked_eq_some.mpr ⟨?_, rfl⟩⟩⟩
  · exact hunits.trans_lt hfits
  · exact hsquare.trans_lt hfits'

/-- The root never overflows and is never too large.  All roots of numbers of a length are exact if and
only if the length is at most 97, or odd and at most 157, and up to a stake with a quotient of such a
length the capacities of agents are monotone. -/
theorem sqrt_exact_iff (v : Uint256) (r : AgentStakeRegistry) (agent agent' : Address) :
    (∃ root, sqrt v = some root ∧ root * root ≤ v) ∧
    ((∀ u, Nat.size u = Nat.size v → ExactRoot u) ↔ ExactLength (Nat.size v)) ∧
    (r.capacityUnit ≠ 0 → r.stakeOf agent ≤ r.stakeOf agent' → r.stakeOf agent' < 2 ^ 256 →
      ExactLength (Nat.size (r.stakeOf agent' / r.capacityUnit)) →
      (∃ m n, r.capacityUnits agent = some m ∧ r.capacityUnits agent' = some n ∧ m ≤ n) ∧
        ∀ bond, r.maxOpenBond agent' = some bond →
          ∃ bond' ≤ bond, r.maxOpenBond agent = some bond') := by
  refine ⟨sqrt_le v.isLt, ⟨fun hall => ?_, ?_⟩, ?_⟩
  · have hlength : Nat.size v ≤ 256 := Nat.size_le.mpr v.isLt
    generalize Nat.size v = length at *
    refine (inexact_spec length (by omega)).resolve_right ?_
    rintro ⟨⟨hlow, hhigh⟩, hsmall⟩
    have hsize : Nat.size (inexact length) = length := by
      have hmore : length - 1 < Nat.size (inexact length) := Nat.lt_size.mpr hlow
      have hless : Nat.size (inexact length) ≤ length := Nat.size_le.mpr hhigh
      omega
    obtain ⟨root, hroot, -, hlarge⟩ := hall _ hsize
    exact absurd (hsmall root hroot) hlarge.not_ge
  · intro h u hu
    exact exactRoot_of_length (hu ▸ h)
  · intro hunit hle hlt hlength
    obtain ⟨m, n, hm, hn, hmn⟩ :=
      capacityUnitsAt_mono hunit hle hlt (exactRoot_of_length hlength)
    exact ⟨⟨m, n, hm, hn, hmn⟩, fun _ => maxOpenBondAt_mono hm hn hmn⟩

theorem sqrt_exact_sample : ExactRoot (10 ^ 18) ∧ ExactRoot (2 ^ 157 - 1) :=
  ⟨(sqrt_exact_iff (10 ^ 18) (deployed 1 0 0 1 1) 1 2).2.1.mpr (by decide +kernel) _
      (by decide +kernel),
    (sqrt_exact_iff (2 ^ 157 - 1) (deployed 1 0 0 1 1) 1 2).2.1.mpr (by decide +kernel) _
      (by decide +kernel)⟩

/-- With capacity units of one, a stake just below `2 ^ 104` has a root that is too small by four, and
one more token of stake lowers it, and with it the capacity. -/
theorem larger_stake_less_capacity : let r := deployed 1 0 0 1 1
    r.capacityUnitsAt 20282409603650518756056960399128 = some 4503599627370364 ∧
      4503599627370368 * 4503599627370368 ≤ 20282409603650518756056960399128 ∧
      r.capacityUnitsAt 20282409603650518756056960399129 = some 4503599627370363 ∧
      r.maxOpenBondAt 20282409603650518756056960399128 = some (4503599627370364 ^ 2) ∧
      r.maxOpenBondAt 20282409603650518756056960399129 = some (4503599627370363 ^ 2) := by
  decide +kernel

end FlowMemory.AgentBonds.AgentStakeRegistry
