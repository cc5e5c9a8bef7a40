import Mathlib.Tactic.Linarith
import FlowMemory.Lib.SharePool
import FlowMemory.AgentBonds.PoolSolvency

/-! # The value of underwriter shares

A share of the underwriter pool is worth the balance of the pool over the number of shares.  Every
mint and every payment to a holder is rounded towards the pool, so `shares_not_diluted`: no call but
a claim lowers the value of a share, and a claim lowers the balance by what it pays.

The mint is rounded down as far as to zero.  `deposit_mints_iff` says when a deposit gets a share at
all, and `deposit_mints_nothing` is a run in which a holder first raises the balance by a plain
transfer and then the next deposit goes to that holder. -/

namespace FlowMemory.AgentBonds

open Relation ERC20SettlementToken AgentUnderwriterPool Function

variable {τ : Type} [ERC20SettlementToken τ] {here : Address}

/-- The pool does not call itself. -/
def FromOutside (here sender : Address) (_ : Msg) (_ : PoolSystem τ) : Prop := sender ≠ here

/-- A call from outside that pays no claim. -/
def PaysNoClaim (here sender : Address) : Msg → PoolSystem τ → Prop
  | .payClaim _ _ _ _, _ => False
  | _, _ => sender ≠ here

/-- The shares of the accounts make up the total. -/
def SharesAdd (p : AgentUnderwriterPool) : Prop := ∑ a, p.sharesOf a = p.totalShares

/-- No share lost value, for a balance `b` that becomes `b'` and `t` shares that become `t'`. -/
def ValueKept (b t b' t' : ℕ) : Prop := b * t' ≤ b' * t

theorem valueKept_of_mints {amount t b shares : ℕ} (h : Mints amount t b shares) (ht : 0 < t) :
    ValueKept b t (b + amount) (t + shares) := by
  rw [Mints, if_neg (by omega)] at h
  obtain ⟨-, -, rfl⟩ := h
  have hdiv : amount * t / b * b ≤ amount * t := Nat.div_mul_le_self _ _
  unfold ValueKept
  rw [Nat.mul_add, Nat.add_mul, Nat.mul_comm b (_ / _)]
  omega

section steps

variable {s : PoolSystem τ} {sender : Address} {msg : Msg} {r : WithToken AgentUnderwriterPool τ}

theorem SharesAdd.deposit {p : AgentUnderwriterPool} (h : SharesAdd p) (timestamp : ℕ)
    (provider : Address) (amount shares : ℕ) :
    SharesAdd (p.afterDeposit timestamp provider amount shares) := by
  have hsum := sum_update p.sharesOf provider (p.sharesOf provider + shares)
  rw [h] at hsum
  unfold SharesAdd
  simp only [afterDeposit]
  omega

theorem SharesAdd.withdraw {p : AgentUnderwriterPool} (h : SharesAdd p) (timestamp : ℕ)
    {provider : Address} (amount : ℕ) {shares : ℕ} (hle : shares ≤ p.sharesOf provider) :
    SharesAdd (p.afterWithdraw timestamp provider amount shares) := by
  have hsum := sum_update p.sharesOf provider (p.sharesOf provider - shares)
  rw [h] at hsum
  unfold SharesAdd
  simp only [afterWithdraw]
  omega

theorem AgentUnderwriterPool.PaidFrom.balance (hτ : ExactTransfers τ) {recipient : Address}
    {paid : ℕ} {token token' : τ} (h : PaidFrom here recipient paid token token') :
    balanceOf here token' + (if recipient = here then 0 else paid) = balanceOf here token := by
  unfold PaidFrom at h
  split_ifs at h with hpos
  · have hbal := (hτ.transfer_moved h).2 here
    by_cases hself : recipient = here
    · rw [if_pos rfl, if_pos hself.symm] at hbal
      rw [if_pos hself]
      omega
    · rw [if_pos rfl, if_neg (Ne.symm hself)] at hbal
      rw [if_neg hself]
      exact hbal
  · rw [h]
    split_ifs <;> omega

/-- What a call does to the shares: they still add up, and they keep their value unless a claim is
paid. -/
theorem call_shares (hτ : ExactTransfers τ) (hsender : sender ≠ here)
    (h : call here ⟨sender, s.now⟩ msg ⟨s.pool, s.token⟩ = .ok ((), r)) :
    (SharesAdd s.pool → SharesAdd r.contract) ∧
      (PaysNoClaim here sender msg s → 0 < s.pool.totalShares →
        ValueKept (balanceOf here s.token) s.pool.totalShares (balanceOf here r.token)
          r.contract.totalShares) := by
  cases effect_of_call h with
  | administered | controlled | requested => exact ⟨id, fun _ _ => le_rfl⟩
  | @deposited amount shares token _ hmints hmove =>
    refine ⟨fun hs => hs.deposit _ _ _ _, fun _ hpos => ?_⟩
    have hbal := (hτ.transferFrom_moved hmove).2 here
    rw [if_neg hsender.symm, if_pos rfl, Nat.add_zero] at hbal
    change ValueKept _ _ (balanceOf here token) (s.pool.totalShares + shares)
    rw [hbal]
    exact valueKept_of_mints hmints hpos
  | @withdrawn shares token _ _ hle _ hmove =>
    refine ⟨fun hs => hs.withdraw _ _ hle, fun _ _ => ?_⟩
    have hbal := (hτ.transfer_moved hmove).2 here
    rw [if_pos rfl, if_neg hsender.symm, Nat.add_zero] at hbal
    change ValueKept _ _ (balanceOf here token) (s.pool.totalShares - shares)
    rw [Nat.eq_sub_of_add_eq hbal]
    exact Pool.remainder_ge
  | locked hlock =>
    obtain ⟨-, -, -, -, -, -, -, -, -, rfl⟩ := lockCoverage_ok.mp hlock
    exact ⟨id, fun _ _ => le_rfl⟩
  | released hrel =>
    obtain ⟨-, -, -, -, -, rfl⟩ := releaseForTask_ok.mp hrel
    exact ⟨id, fun _ _ => le_rfl⟩
  | claimed hpay =>
    obtain ⟨-, -, -, -, -, -, -, token, -, rfl⟩ := payClaim_ok.mp hpay
    exact ⟨id, fun hno => hno.elim⟩

end steps

theorem PoolRun.sharesAdd (hτ : ExactTransfers τ) {s₀ s : PoolSystem τ} (h₀ : s₀.Deployed)
    (hrun : PoolRun here (FromOutside here) s₀ s) : SharesAdd s.pool := by
  induction hrun with
  | refl =>
    obtain ⟨owner, cap, tier, hpool⟩ := h₀
    rw [hpool, SharesAdd]
    simp [deployed]
  | tail _ hstep ih =>
    cases hstep with
    | call hsender hr => exact (call_shares hτ hsender hr).1 ih
    | time | token => exact ih

/-- **No dilution**: in every run of a pool with an exact token, the shares of the accounts add up to
the total; a step that pays no claim keeps the balance per share; and a claim lowers the balance by
what it pays, unless it is paid to the pool. -/
theorem shares_not_diluted (hτ : ExactTransfers τ) {s₀ s : PoolSystem τ} (h₀ : s₀.Deployed)
    (hrun : PoolRun here (FromOutside here) s₀ s) :
    ∑ a, s.pool.sharesOf a = s.pool.totalShares ∧
    (∀ s', PoolStep here (PaysNoClaim here) s s' → 0 < s.pool.totalShares →
      0 < s'.pool.totalShares →
        balanceOf here s.token * s'.pool.totalShares ≤
          balanceOf here s'.token * s.pool.totalShares) ∧
    ∀ (allocator recipient : Address) (t reason : Bytes32) (amount paid : ℕ)
      (r : WithToken AgentUnderwriterPool τ),
      payClaim here ⟨allocator, s.now⟩ t recipient amount reason ⟨s.pool, s.token⟩ =
        .ok (paid, r) →
      r.contract.totalShares = s.pool.totalShares ∧
        balanceOf here r.token + (if recipient = here then 0 else paid) =
          balanceOf here s.token := by
  refine ⟨hrun.sharesAdd hτ h₀, fun s' hstep hpos _ => ?_, ?_⟩
  · cases hstep with
    | @call sender msg _ hno hr =>
      have hsender : sender ≠ here := by
        cases msg with
        | payClaim => exact hno.elim
        | _ => exact hno
      exact (call_shares hτ hsender hr).2 hno hpos
    | time => exact le_rfl
    | token hle => exact Nat.mul_le_mul_right _ hle
  · intro allocator recipient t reason amount paid r hpay
    obtain ⟨-, -, -, -, -, -, -, token, hpaid, rfl⟩ := payClaim_ok.mp hpay
    exact ⟨rfl, hpaid.balance hτ⟩

/-! ### Deposits that mint nothing -/

/-- A deposit mints a share exactly if the pool has no shares yet or the amount, times the shares,
reaches the balance. -/
theorem deposit_mints_iff {s r : WithToken AgentUnderwriterPool τ} {env : Env} {amount : Uint256}
    (h : call here env (.deposit amount) s = .ok ((), r)) :
    s.contract.sharesOf env.sender + 1 ≤ r.contract.sharesOf env.sender ↔
      s.contract.totalShares = 0 ∨
        balanceOf here s.token ≤ amount.val * s.contract.totalShares := by
  simp [call, deposit, sharesFor_ok] at h
  obtain ⟨hpos, shares, hmints, -, -, token, -, rfl⟩ := h
  simp only [update_self, Nat.add_le_add_iff_left]
  unfold Mints at hmints
  split_ifs at hmints with hnone
  · subst hmints
    have hzero : s.contract.totalShares = 0 := by omega
    exact ⟨fun _ => .inl hzero, fun _ => Nat.one_le_iff_ne_zero.mpr (by simpa using hpos)⟩
  · obtain ⟨hbalance, -, rfl⟩ := hmints
    rw [Nat.le_div_iff_mul_le hbalance, Nat.one_mul]
    have hsome : s.contract.totalShares ≠ 0 := by omega
    exact ⟨.inr, fun hor => hor.resolve_left hsome⟩

/-! ### A pool with a donation -/

/-- The accounts 3 and 4 have tokens, and the pool may take them. -/
def donorToken : TestToken where
  balances := update (update (fun _ => 0) 3 1001) 4 500
  allowance := fun _ _ => 1001

/-- The account 3 takes the first shares and sends tokens to the pool. -/
def donated (shares donation : Uint256) : Option (PoolSystem TestToken) :=
  (PoolSystem.runCalls 9 [(3, .deposit shares)] ⟨deployed 1 0 0, donorToken, 5⟩).bind fun s =>
    (transfer 3 9 donation s.token).map fun token => { s with token }

/-- After one share and 1000 donated tokens the account 4 deposits 500 and gets no share, and the one
share of the account 3 is worth all that the pool has. -/
theorem deposit_mints_nothing : ∃ s₀ s r r', s₀.Deployed ∧ PoolRun 9 (FromOutside 9) s₀ s ∧
    call 9 ⟨4, s.now⟩ (.deposit 500) ⟨s.pool, s.token⟩ = .ok ((), r) ∧
    (r.contract.sharesOf 4 = 0 ∧ balanceOf 4 s.token = 500 ∧ balanceOf (4 : Address) r.token = 0) ∧
    call 9 ⟨3, s.now⟩ (.withdraw 1) r = .ok ((), r') ∧
      balanceOf (3 : Address) (r'.token : TestToken) = 1501 := by
  have hsteps : ((donated 1 1000).bind fun s =>
      (call 9 ⟨4, s.now⟩ (.deposit 500) ⟨s.pool, s.token⟩).toOption.bind fun v =>
        (call 9 ⟨3, s.now⟩ (.withdraw 1) v.2).toOption.map fun w =>
          (v.2.contract.sharesOf 4, s.token.balances 4, v.2.token.balances 4,
            w.2.token.balances 3)) = some (0, 500, 0, 1501) := by decide +kernel
  obtain ⟨s, hs, hrest⟩ := Option.bind_eq_some_iff.mp hsteps
  obtain ⟨⟨⟨⟩, r⟩, hdeposit, hrest⟩ := Option.bind_eq_some_iff.mp hrest
  obtain ⟨⟨⟨⟩, r'⟩, hwithdraw, hfields⟩ := Option.map_eq_some_iff.mp hrest
  simp only [Prod.mk.injEq] at hfields
  obtain ⟨hshares, hbefore, hafter, hworth⟩ := hfields
  obtain ⟨s₁, hfirst, hdonate⟩ := Option.bind_eq_some_iff.mp hs
  obtain ⟨token, htransfer, rfl⟩ := Option.map_eq_some_iff.mp hdonate
  have hrun : PoolRun 9 (FromOutside 9) ⟨deployed 1 0 0, donorToken, 5⟩ s₁ := by
    refine .of_runCalls hfirst fun c hc t => ?_
    rw [List.mem_singleton.mp hc]
    exact (by decide : (3 : Address) ≠ 9)
  have hraised := (TestToken.exactTransfers.transfer_moved htransfer).le_of_ne
    (by decide : (9 : Address) ≠ 3)
  exact ⟨_, _, r, r', ⟨1, 0, 0, rfl⟩, hrun.tail (.token hraised), Call.toOption_eq_some.mp hdeposit,
    ⟨hshares, congrArg Fin.val hbefore, congrArg Fin.val hafter⟩,
    Call.toOption_eq_some.mp hwithdraw, congrArg Fin.val hworth⟩

/-- After two shares and 998 donated tokens the same deposit mints a share. -/
theorem deposit_mints_donated : ∃ s r, donated 2 998 = some s ∧
    call 9 ⟨4, 5⟩ (.deposit 500) ⟨s.pool, s.token⟩ = .ok ((), r) ∧
      s.pool.sharesOf 4 + 1 ≤ r.contract.sharesOf 4 := by
  have hcall : ((donated 2 998).bind fun s =>
      (call 9 ⟨4, 5⟩ (.deposit 500) ⟨s.pool, s.token⟩).toOption.map fun _ =>
        (s.token.balances 9, s.pool.totalShares)) = some (1000, 2) := by decide +kernel
  obtain ⟨s, hs, hcall⟩ := Option.bind_eq_some_iff.mp hcall
  obtain ⟨⟨⟨⟩, r⟩, hr, hfields⟩ := Option.map_eq_some_iff.mp hcall
  obtain ⟨hbalance, hshares⟩ := Prod.mk.inj hfields
  have hr := Call.toOption_eq_some.mp hr
  refine ⟨s, r, hs, hr, (deposit_mints_iff hr).mpr (.inr ?_)⟩
  change (s.token.balances 9).val ≤ _
  rw [hbalance, hshares]
  decide

/-! ### A claim paid to the pool -/

theorem sampleCalls_outside (c : Address × Msg) (hc : c ∈ sampleCalls) (s : PoolSystem TestToken) :
    FromOutside 9 c.1 c.2 s := by
  simp only [sampleCalls, List.mem_cons, List.not_mem_nil, or_false] at hc
  rcases hc with rfl | rfl | rfl <;> simp [FromOutside]

/-- The sample pool has 60 tokens locked; a claim of them that names the pool as its recipient
returns 60 and moves nothing. -/
theorem claim_paid_to_pool : ∃ s₀ s r, s₀.Deployed ∧ PoolRun 9 (FromOutside 9) s₀ s ∧
    payClaim 9 ⟨2, s.now⟩ 7 9 60 0 ⟨s.pool, s.token⟩ = .ok (60, r) ∧
      balanceOf 9 s.token = 100 ∧ balanceOf (9 : Address) (r.token : TestToken) = 100 := by
  have hsteps : ((PoolSystem.runCalls 9 sampleCalls ⟨deployed 1 0 0, sampleToken, 5⟩).bind fun s =>
      (payClaim 9 ⟨2, s.now⟩ 7 9 60 0 ⟨s.pool, s.token⟩).toOption.map fun v =>
        (v.1, s.token.balances 9, v.2.token.balances 9)) = some (60, 100, 100) := by decide +kernel
  obtain ⟨s, hs, hrest⟩ := Option.bind_eq_some_iff.mp hsteps
  obtain ⟨⟨paid, r⟩, hpay, hfields⟩ := Option.map_eq_some_iff.mp hrest
  simp only [Prod.mk.injEq] at hfields
  obtain ⟨rfl, hbefore, hafter⟩ := hfields
  exact ⟨_, s, r, ⟨1, 0, 0, rfl⟩, .of_runCalls hs sampleCalls_outside,
    Call.toOption_eq_some.mp hpay, congrArg Fin.val hbefore, congrArg Fin.val hafter⟩

/-- The shares of the sample pool add up. -/
theorem shares_not_diluted_sample : ∃ s,
    PoolSystem.runCalls 9 sampleCalls ⟨deployed 1 0 0, sampleToken, 5⟩ = some s ∧
      ∑ a, s.pool.sharesOf a = s.pool.totalShares ∧ s.pool.totalShares = 100 := by
  have hfacts : (PoolSystem.runCalls 9 sampleCalls ⟨deployed 1 0 0, sampleToken, 5⟩).map
      (·.pool.totalShares) = some 100 := by decide +kernel
  obtain ⟨s, hs, htotal⟩ := Option.map_eq_some_iff.mp hfacts
  have hrun : PoolRun 9 (FromOutside 9) _ s := .of_runCalls hs sampleCalls_outside
  exact ⟨s, hs, (shares_not_diluted TestToken.exactTransfers ⟨1, 0, 0, rfl⟩ hrun).1, htotal⟩

end FlowMemory.AgentBonds
