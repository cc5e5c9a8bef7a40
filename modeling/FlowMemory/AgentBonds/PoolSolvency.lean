import Mathlib.Algebra.Order.BigOperators.Group.Finset
import Mathlib.Logic.Relation
import FlowMemory.Lib.PeriodBudget
import FlowMemory.Lib.Tally
import FlowMemory.AgentBonds.AgentUnderwriterPool

/-! # Solvency of the underwriter pool

Runs of one pool: calls by anyone in any order, time passing, and tokens sent to the pool.  The
risk controls are set before the first coverage is locked.

`pool_solvent`: the pool always holds the tokens it has locked, the locked total is the sum of
the coverage of the tasks, and the current **epoch** has room for all of it.  So a claim on locked
coverage is always paid, with the amount claimed or all that is locked. -/

namespace FlowMemory.AgentBonds

open Relation ERC20SettlementToken AgentUnderwriterPool Function

variable {τ : Type} [ERC20SettlementToken τ] {here : Address} {p : AgentUnderwriterPool}
  {token : τ}

/-! ### Runs -/

/-- A pool, its token and the time. -/
structure PoolSystem (τ : Type) where
  pool : AgentUnderwriterPool
  token : τ
  now : ℕ

/-- One step: a call that returns and satisfies `ok`, time, or calls of others to the token, which
do not spend the tokens of the pool. -/
inductive PoolStep (here : Address) (ok : Address → Msg → PoolSystem τ → Prop) :
    PoolSystem τ → PoolSystem τ → Prop
  | call {s : PoolSystem τ} {sender : Address} {msg : Msg} {r : WithToken AgentUnderwriterPool τ}
      (hok : ok sender msg s)
      (h : AgentUnderwriterPool.call here ⟨sender, s.now⟩ msg ⟨s.pool, s.token⟩ = .ok ((), r)) :
      PoolStep here ok s ⟨r.contract, r.token, s.now⟩
  | time {s : PoolSystem τ} {later : ℕ} (h : s.now ≤ later) :
      PoolStep here ok s { s with now := later }
  | token {s : PoolSystem τ} {token : τ} (h : balanceOf here s.token ≤ balanceOf here token) :
      PoolStep here ok s { s with token }

def PoolRun (here : Address) (ok : Address → Msg → PoolSystem τ → Prop) :
    PoolSystem τ → PoolSystem τ → Prop := ReflTransGen (PoolStep here ok)

/-- Coverage was locked at some time. -/
def everLocked (p : AgentUnderwriterPool) : Bool :=
  p.logs.any fun e => match e.2 with
    | .coverageLocked _ _ => true
    | _ => false

/-- The risk controls are not set any more once coverage was locked. -/
def ControlsFixed (_ : Address) : Msg → PoolSystem τ → Prop
  | .setPoolRiskControls _ _ _, s => everLocked s.pool = false
  | _, _ => True

/-- A pool right after its constructor. -/
def PoolSystem.Deployed (s : PoolSystem τ) : Prop :=
  ∃ initialOwner maxCoveragePerTask maxRiskTier,
    s.pool = deployed initialOwner maxCoveragePerTask maxRiskTier

/-! ### The invariant -/

structure Solvent (here : Address) (s : PoolSystem τ) : Prop where
  covered : s.pool.totalLocked ≤ balanceOf here s.token
  allocated : s.pool.totalAllocated = s.pool.totalLocked
  locked : ∑ t, s.pool.lockedByTask t = s.pool.totalLocked
  budget : s.pool.maxLossPerEpoch ≠ 0 → Within s.pool.maxLossPerEpoch s.pool.lossPaidByEpoch
    s.pool.totalLocked (s.pool.currentEpoch s.now)
  untouched : everLocked s.pool = false →
    s.pool.totalLocked = 0 ∧ ∀ e, s.pool.lossPaidByEpoch e = 0
  word : s.pool.maxLossPerEpoch < 2 ^ 256

theorem Solvent.deployed {s : PoolSystem τ} (h : s.Deployed) : Solvent here s := by
  obtain ⟨owner, cap, tier, hp⟩ := h
  constructor <;> simp [hp, AgentUnderwriterPool.deployed]

/-- The books of two pools agree. -/
structure SameBooks (p p' : AgentUnderwriterPool) : Prop where
  totalLocked : p'.totalLocked = p.totalLocked
  totalAllocated : p'.totalAllocated = p.totalAllocated
  lockedByTask : p'.lockedByTask = p.lockedByTask
  lossPaidByEpoch : p'.lossPaidByEpoch = p.lossPaidByEpoch
  epochDuration : p'.epochDuration = p.epochDuration
  maxLossPerEpoch : p'.maxLossPerEpoch = p.maxLossPerEpoch
  everLocked : everLocked p' = everLocked p

theorem Solvent.congr {s : PoolSystem τ}
    (h : Solvent here s) (hp : SameBooks s.pool p) (ht : p.totalLocked ≤ balanceOf here token) :
    Solvent here ⟨p, token, s.now⟩ := by
  refine ⟨ht, ?_, ?_, ?_, ?_, ?_⟩ <;>
    simp only [hp.totalAllocated, hp.totalLocked, hp.lockedByTask, hp.maxLossPerEpoch,
      hp.lossPaidByEpoch, currentEpoch, hp.epochDuration, hp.everLocked]
  exacts [h.allocated, h.locked, h.budget, h.untouched, h.word]

/-- Time only moves the epoch forward. -/
theorem currentEpoch_mono (p : AgentUnderwriterPool) {t t' : ℕ} (h : t ≤ t') :
    p.currentEpoch t ≤ p.currentEpoch t' := by
  unfold currentEpoch
  split_ifs
  · exact le_rfl
  · exact Nat.div_le_div_right h

/-- New coverage fits the epoch. -/
theorem fits_of_remaining {now amount remaining : ℕ}
    (h : p.remainingEpochLossCapacity now = some remaining) (hle : amount ≤ remaining)
    (hpos : amount ≠ 0) (hmax : p.maxLossPerEpoch ≠ 0) :
    p.lossPaidByEpoch (p.currentEpoch now) + p.totalLocked + amount ≤ p.maxLossPerEpoch := by
  rw [remainingEpochLossCapacity, if_neg hmax, Option.map_eq_some_iff] at h
  obtain ⟨used, hused, hremaining⟩ := h
  rw [addChecked_eq_some] at hused
  split_ifs at hremaining <;> omega

theorem availableCapacity_eq (s : WithToken AgentUnderwriterPool τ) :
    availableCapacity here s = balanceOf here s.token - s.contract.totalLocked := by
  unfold availableCapacity
  split_ifs <;> omega

theorem lockedByTask_le (s : PoolSystem τ) (h : Solvent here s) (t : Bytes32) :
    s.pool.lockedByTask t ≤ s.pool.totalLocked :=
  h.locked ▸ Finset.single_le_sum (fun _ _ => Nat.zero_le _) (Finset.mem_univ t)

/-! ### Steps -/

section steps

variable {s : PoolSystem τ} (h : Solvent here s) {t : Bytes32}
  {r : WithToken AgentUnderwriterPool τ}
include h

theorem Solvent.lockCoverage {env : Env} (hnow : env.timestamp = s.now) {amount : ℕ}
    (hr : AgentUnderwriterPool.lockCoverage here env t amount ⟨s.pool, s.token⟩ = .ok ((), r)) :
    Solvent here ⟨r.contract, r.token, s.now⟩ := by
  obtain ⟨-, -, hpos, hfree, -, havail, ⟨remaining, hrem, hle⟩, -, -, rfl⟩ := lockCoverage_ok.mp hr
  rw [availableCapacity_eq] at havail
  have hcov := h.covered
  constructor
  · change s.pool.totalLocked + amount ≤ balanceOf here s.token
    simp only at havail
    omega
  · simp only [h.allocated]
  · have hsum := sum_update s.pool.lockedByTask t amount
    simp only at hfree
    rw [hfree, h.locked, Nat.add_zero] at hsum
    exact hsum
  · intro hmax
    rw [hnow] at hrem
    exact (h.budget hmax).reserve (fits_of_remaining hrem hle hpos hmax)
  · intro hnever
    simp [everLocked] at hnever
  · exact h.word

theorem Solvent.unlock {paid : ℕ} (hle : paid ≤ s.pool.lockedByTask t)
    (htoken : balanceOf here s.token ≤ balanceOf here token + paid)
    (hlocked : p.totalLocked = s.pool.totalLocked - s.pool.lockedByTask t)
    (halloc : p.totalAllocated = s.pool.totalAllocated - s.pool.lockedByTask t)
    (htask : p.lockedByTask = update s.pool.lockedByTask t 0)
    (hloss : p.lossPaidByEpoch = s.pool.lossAfter s.now paid)
    (hdur : p.epochDuration = s.pool.epochDuration)
    (hmax : p.maxLossPerEpoch = s.pool.maxLossPerEpoch)
    (hever : everLocked p = everLocked s.pool) (hne : s.pool.lockedByTask t ≠ 0) :
    Solvent here ⟨p, token, s.now⟩ := by
  have htot := lockedByTask_le s h t
  have hcov := h.covered
  constructor
  · simp only [hlocked]
    omega
  · simp only [hlocked, halloc, h.allocated]
  · have hsum := sum_update s.pool.lockedByTask t 0
    rw [h.locked] at hsum
    simp only [htask, hlocked]
    omega
  · intro hmax'
    simp only [hmax] at hmax'
    have hepoch : p.currentEpoch s.now = s.pool.currentEpoch s.now := by
      simp only [currentEpoch, hdur]
    simp only [hmax, hloss, hlocked, hepoch, lossAfter]
    split_ifs with hc
    · exact (h.budget hmax').spend hle htot
    · exact (h.budget hmax').release _
  · intro hnever
    simp only [hever] at hnever
    have := (h.untouched hnever).1
    omega
  · simp only [hmax]
    exact h.word

/-- The effect of a call on the books and on the balance. -/
theorem Solvent.call (hτ : ExactTransfers τ) {sender : Address} {msg : Msg}
    (hok : ControlsFixed sender msg s)
    (hr : AgentUnderwriterPool.call here ⟨sender, s.now⟩ msg ⟨s.pool, s.token⟩ = .ok ((), r)) :
    Solvent here ⟨r.contract, r.token, s.now⟩ := by
  cases effect_of_call hr with
  | administered | requested => exact h.congr (by constructor <;> rfl) h.covered
  | @controlled duration maxLoss cooldown =>
    -- nothing was ever locked, so nothing is reserved and no epoch has a loss
    obtain ⟨hzero, hloss⟩ := h.untouched hok
    refine ⟨h.covered, h.allocated, h.locked, fun _ => ⟨?_, fun e _ => hloss e⟩, h.untouched,
      maxLoss.isLt⟩
    simp [hzero, hloss]
  | @deposited amount shares token _ _ hmove =>
    refine h.congr (by constructor <;> rfl) ?_
    have hcov := h.covered
    have hbal := (hτ.transferFrom_moved hmove).2 here
    rw [if_pos rfl] at hbal
    change s.pool.totalLocked ≤ balanceOf here token
    split_ifs at hbal <;> simp only at hbal <;> omega
  | @withdrawn shares token _ _ _ havail hmove =>
    refine h.congr (by constructor <;> rfl) ?_
    have hcov := h.covered
    have hbal := (hτ.transfer_moved hmove).2 here
    rw [if_pos rfl] at hbal
    rw [availableCapacity_eq] at havail
    change s.pool.totalLocked ≤ balanceOf here token
    split_ifs at hbal <;> simp only at hbal havail <;> omega
  | locked hlock => exact h.lockCoverage rfl hlock
  | @released t _ _ hrel =>
    obtain ⟨-, rfl, hne, -, -, rfl⟩ := releaseForTask_ok.mp hrel
    refine h.unlock (t := t) (Nat.zero_le _) (Nat.le_add_right _ _) rfl rfl rfl ?_ rfl rfl rfl hne
    simp [lossAfter]
  | @claimed t reason recipient amount paid _ hpay =>
    obtain ⟨rfl, -, hne, -, -, -, -, token, hpaid, rfl⟩ := payClaim_ok.mp hpay
    refine h.unlock (Nat.min_le_right _ _) ?_ rfl rfl rfl rfl rfl rfl ?_ hne
    · change balanceOf here s.token ≤ balanceOf here token + min amount.val (s.pool.lockedByTask t)
      simp only [PaidFrom] at hpaid
      split_ifs at hpaid with hpos
      · have hbal := (hτ.transfer_moved hpaid).2 here
        rw [if_pos rfl] at hbal
        omega
      · rw [hpaid]
        exact Nat.le_add_right _ _
    · simp only [afterClaim, claimLogs, everLocked]
      split_ifs <;> simp

end steps

theorem PoolRun.solvent (hτ : ExactTransfers τ) {s₀ s : PoolSystem τ} (h₀ : s₀.Deployed)
    (hrun : PoolRun here ControlsFixed s₀ s) : Solvent here s := by
  induction hrun with
  | refl => exact .deployed h₀
  | tail _ hstep ih =>
    cases hstep with
    | call hok hr => exact ih.call hτ hok hr
    | time hle =>
      exact ⟨ih.covered, ih.allocated, ih.locked,
        fun hmax => (ih.budget hmax).advance (currentEpoch_mono _ hle), ih.untouched, ih.word⟩
    | token hle => exact ih.congr (by constructor <;> rfl) (ih.covered.trans hle)

/-! ### Solvency -/

/-- An exact token makes the payments that are covered. -/
theorem exists_paidFrom (hτ : ExactTransfers τ) {recipient : Address} {paid : ℕ}
    (hle : paid ≤ balanceOf here token) (hrec : recipient ≠ 0)
    (hroom : balanceOf recipient token + paid < 2 ^ 256) :
    ∃ token', PaidFrom here recipient paid token token' ∧
      MovedExactly here recipient paid token token' := by
  by_cases hpos : paid > 0
  · obtain ⟨token', htransfer⟩ := hτ.transfer_of_balance hle hrec hroom
    refine ⟨token', ?_, hτ.transfer_moved htransfer⟩
    rwa [PaidFrom, if_pos hpos]
  · obtain rfl : paid = 0 := by omega
    refine ⟨token, ?_, Nat.zero_le _, fun a => by simp⟩
    rw [PaidFrom, if_neg hpos]

/-- **Solvency**: in every run of a pool with an exact token whose risk controls are fixed before
the first coverage is locked, the pool holds what it has locked, the locked total is the sum over
the tasks, and the loss of the current epoch leaves room for it.  An allocator's claim on locked
coverage is paid, with the smaller one of the amount claimed and the coverage. -/
theorem pool_solvent (hτ : ExactTransfers τ) {s₀ s : PoolSystem τ} (h₀ : s₀.Deployed)
    (hrun : PoolRun here ControlsFixed s₀ s) :
    s.pool.totalLocked ≤ balanceOf here s.token ∧
    s.pool.totalLocked = s.pool.totalAllocated ∧
    s.pool.totalLocked = ∑ t, s.pool.lockedByTask t ∧
    (s.pool.maxLossPerEpoch ≠ 0 →
      s.pool.lossPaidByEpoch (s.pool.currentEpoch s.now) + s.pool.totalLocked ≤
        s.pool.maxLossPerEpoch) ∧
    ∀ (allocator recipient : Address) (t reason : Bytes32) (amount : ℕ),
      s.pool.isAllocator allocator = true → s.pool.lockedByTask t ≠ 0 → recipient ≠ 0 →
      balanceOf recipient s.token + min amount (s.pool.lockedByTask t) < 2 ^ 256 →
        ∃ r, payClaim here ⟨allocator, s.now⟩ t recipient amount reason ⟨s.pool, s.token⟩ =
            .ok (min amount (s.pool.lockedByTask t), r) ∧
          MovedExactly here recipient (min amount (s.pool.lockedByTask t)) s.token r.token := by
  have h := hrun.solvent hτ h₀
  refine ⟨h.covered, h.allocated.symm, h.locked.symm, fun hmax => (h.budget hmax).fits, ?_⟩
  intro allocator recipient t reason amount hall hne hrec hroom
  have hle := lockedByTask_le s h t
  have hcov := h.covered
  have hfits : s.pool.FitsEpoch s.now (min amount (s.pool.lockedByTask t)) := by
    rintro ⟨hmax, -⟩
    have hbudget := (h.budget hmax).fits
    have hword := h.word
    omega
  have hexists : ∃ token, PaidFrom here recipient (min amount (s.pool.lockedByTask t)) s.token token ∧
      MovedExactly here recipient (min amount (s.pool.lockedByTask t)) s.token token :=
    exists_paidFrom hτ (by omega) hrec hroom
  obtain ⟨token, hpaid, hmoved⟩ := hexists
  refine ⟨_, payClaim_ok.mpr ⟨rfl, hall, hne, hrec, hfits, hle, ?_, token, hpaid, rfl⟩, hmoved⟩
  rw [h.allocated]
  exact hle

/-! ### A pool with one locked coverage -/

/-- An account with 100 tokens, all of which the pool may take. -/
def sampleToken : TestToken where
  balances := update (fun _ => 0) 3 100
  allowance := update (fun _ => fun _ => 0) 3 (update (fun _ => 0) 9 100)

/-- The owner names an allocator, a provider deposits, and the allocator locks coverage. -/
def sampleCalls : List (Address × Msg) :=
  [(1, .setAllocator 2 true), (3, .deposit 100), (2, .lockCoverage 7 60)]

/-- Make the calls one after the other. -/
def PoolSystem.runCalls (here : Address) :
    List (Address × Msg) → PoolSystem τ → Option (PoolSystem τ)
  | [], s => some s
  | (sender, msg) :: rest, s =>
    match AgentUnderwriterPool.call here ⟨sender, s.now⟩ msg ⟨s.pool, s.token⟩ with
    | .ok (_, r) => PoolSystem.runCalls here rest ⟨r.contract, r.token, s.now⟩
    | .error _ => none

theorem PoolRun.of_runCalls {ok : Address → Msg → PoolSystem τ → Prop}
    {calls : List (Address × Msg)} {s s' : PoolSystem τ}
    (h : PoolSystem.runCalls here calls s = some s') (hok : ∀ c ∈ calls, ∀ t, ok c.1 c.2 t) :
    PoolRun here ok s s' := by
  induction calls generalizing s with
  | nil =>
    obtain rfl := Option.some.inj h
    exact .refl
  | cons c rest ih =>
    rw [PoolSystem.runCalls] at h
    split at h
    · next u r hr =>
        exact .head (.call (hok c List.mem_cons_self s) hr)
          (ih h fun d hd => hok d (List.mem_cons_of_mem c hd))
    · cases h

/-- The owner limits the loss in 100 seconds to 70.  The pool after the sample calls has 60 tokens
locked and pays a claim of 80 with them. -/
theorem pool_solvent_sample : ∃ r s,
    call 9 ⟨1, 5⟩ (.setPoolRiskControls 100 70 0) ⟨deployed 1 0 0, sampleToken⟩ = .ok ((), r) ∧
      PoolSystem.runCalls 9 sampleCalls ⟨r.contract, r.token, 5⟩ = some s ∧
      s.pool.lossPaidByEpoch (s.pool.currentEpoch s.now) + s.pool.totalLocked ≤ 70 ∧
      ∃ r', payClaim 9 ⟨2, s.now⟩ 7 4 80 0 ⟨s.pool, s.token⟩ = .ok (60, r') := by
  let s₀ : PoolSystem TestToken := ⟨deployed 1 0 0, sampleToken, 5⟩
  have hfacts : ((call 9 ⟨1, 5⟩ (.setPoolRiskControls 100 70 0) ⟨s₀.pool, s₀.token⟩).toOption.bind
      fun v => (PoolSystem.runCalls 9 sampleCalls ⟨v.2.contract, v.2.token, 5⟩).map fun s =>
        (s.pool.lockedByTask 7, s.pool.isAllocator 2, s.token.balances 4,
          s.pool.maxLossPerEpoch)) = some (60, true, 0, 70) := by decide +kernel
  obtain ⟨⟨⟨⟩, r⟩, hcontrols, hfacts⟩ := Option.bind_eq_some_iff.mp hfacts
  obtain ⟨s, hs, hfields⟩ := Option.map_eq_some_iff.mp hfacts
  simp only [Prod.mk.injEq] at hfields
  obtain ⟨hlocked, hall, hbalance, hmax⟩ := hfields
  have hcontrols := Call.toOption_eq_some.mp hcontrols
  have hrun : PoolRun 9 ControlsFixed s₀ s := by
    have hfixed : ControlsFixed 1 (.setPoolRiskControls 100 70 0) s₀ := rfl
    refine .head (.call hfixed hcontrols) (PoolRun.of_runCalls hs fun c hc t => ?_)
    simp only [sampleCalls, List.mem_cons, List.not_mem_nil, or_false] at hc
    rcases hc with rfl | rfl | rfl <;> trivial
  obtain ⟨-, -, -, hbudget, hpay⟩ := pool_solvent TestToken.exactTransfers ⟨1, 0, 0, rfl⟩ hrun
  obtain ⟨r', hr', -⟩ := hpay 2 4 7 0 80 hall (by omega) (by decide) (by
    change (s.token.balances 4).val + _ < 2 ^ 256
    rw [hbalance, hlocked]
    decide)
  rw [hlocked] at hr'
  rw [hmax] at hbudget
  exact ⟨r, s, hcontrols, hs, hbudget (by decide), r', hr'⟩

end FlowMemory.AgentBonds
