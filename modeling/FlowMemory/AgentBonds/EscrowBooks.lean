import FlowMemory.AgentBonds.CoverageMoves

/-! # The books of the escrow

The manager keeps the terms of the tasks, and the escrow keeps the tokens.  In every run in which
the escrow has no other manager, what is locked for a task is a function of its record, and the
exposure and the number of open tasks are totals over the tasks.  What the escrow **owes** are the
locked, the credited and the reserved tokens: a call changes it by the tokens that the escrow takes
and pays in the call, as the token itself records them. -/

namespace FlowMemory.AgentBonds

open Call ERC20SettlementToken Function

variable {τ : Type} [ERC20SettlementToken τ] {D : Deployment} {w w' : World τ} {t : Bytes32}
  {msg : TaskBondEscrow.Msg} {u : Unit} {sender : Address}

structure EscrowBooks (D : Deployment) (w : World τ) : Prop where
  manager : w.escrow.manager = 0 ∨ w.escrow.manager = D.manager
  locked : ∀ t, w.escrow.lockedByTask t = (w.manager.tasks t).locked
  exposure : w.manager.openExposure = ∑ t, (w.manager.tasks t).locked
  count : w.manager.openTaskCount = ∑ t, (w.manager.tasks t).live

/-- What the escrow owes. -/
def World.owed (w : World τ) : ℕ := ∑ t, (w.manager.tasks t).locked + w.escrow.credited

omit [ERC20SettlementToken τ] in
theorem deployed_books (h : w.Deployed D) : EscrowBooks D w ∧ w.owed = 0 := by
  obtain ⟨owner, guardian, authority, hm⟩ := h.manager
  obtain ⟨escrowOwner, he⟩ := h.escrow
  have hlocked : Task.empty.locked = 0 := rfl
  have hlive : Task.empty.live = 0 := rfl
  refine ⟨?_, ?_⟩
  · constructor <;> simp [hm, he, AgentBondManager.deployed, TaskBondEscrow.deployed, hlocked, hlive]
  · simp [World.owed, hm, he, AgentBondManager.deployed, TaskBondEscrow.deployed, hlocked,
      TaskBondEscrow.credited]

omit [ERC20SettlementToken τ] in
/-- The books after a call that leaves the manager and the escrow alone. -/
theorem EscrowBooks.congr (h : EscrowBooks D w) (htasks : w'.manager.tasks = w.manager.tasks)
    (hexposure : w'.manager.openExposure = w.manager.openExposure)
    (hcount : w'.manager.openTaskCount = w.manager.openTaskCount) (hescrow : w'.escrow = w.escrow) :
    EscrowBooks D w' := by
  constructor
  · rw [hescrow]
    exact h.manager
  · rw [hescrow, htasks]
    exact h.locked
  · rw [hexposure, htasks]
    exact h.exposure
  · rw [hcount, htasks]
    exact h.count

/-! ### The tokens of the escrow -/

/-- In a call that takes the settlement token from `token` to `token'` the escrow takes `inc` and
pays `out`. -/
inductive EscrowFlow (D : Deployment) (token token' : τ) : (inc out : ℕ) → Prop
  | idle (h : token' = token) : EscrowFlow D token token' 0 0
  | others {self caller : Address} (h : TokenCall self caller token token')
      (hself : self ≠ D.escrow) (hcaller : caller ≠ D.escrow) : EscrowFlow D token token' 0 0
  | takes {payer : Address} {inc : ℕ} (hpayer : payer ≠ D.escrow)
      (h : transferFrom D.escrow payer D.escrow inc token = some token') :
      EscrowFlow D token token' inc 0
  | pays {recipient : Address} {out : ℕ} (h : transfer D.escrow recipient out token = some token') :
      EscrowFlow D token token' 0 out

/-- What the escrow owes changes by what it takes and pays. -/
def FlowStep (D : Deployment) (w w' : World τ) : Prop :=
  ∃ inc out, EscrowFlow D (w.tokens D.settlementToken) (w'.tokens D.settlementToken) inc out ∧
    w'.owed + out = w.owed + inc

section flow

variable {token token' : τ} {inc out : ℕ}

theorem EscrowFlow.funds (hτ : ExactTransfers τ) (h : EscrowFlow D token token' inc out) :
    balanceOf D.escrow token + inc ≤ balanceOf D.escrow token' + out := by
  cases h with
  | idle h => rw [h]
  | others h hself hcaller => exact h.le_of_ne hτ hself.symm hcaller.symm
  | takes hpayer h =>
    have hmoved := (hτ.transferFrom_moved h).2 D.escrow
    rw [if_neg hpayer.symm, if_pos rfl] at hmoved
    exact hmoved.ge
  | pays h => exact (hτ.transfer_moved h).le_add

/-- Another contract calls its own token. -/
theorem EscrowFlow.of_update {self caller k : Address} (h : TokenCall self caller (w.tokens k) token)
    (hself : self ≠ D.escrow) (hcaller : caller ≠ D.escrow) :
    EscrowFlow D (w.tokens D.settlementToken) (update w.tokens k token D.settlementToken) 0 0 := by
  by_cases hk : D.settlementToken = k
  · subst hk
    rw [update_self]
    exact .others h hself hcaller
  · rw [update_of_ne hk]
    exact .idle rfl

theorem Deployment.pool_ne_escrow {pool : Address} (h : D.isPool pool = true) :
    pool ≠ D.escrow := by
  rintro rfl
  rw [D.isPool_escrow] at h
  cases h

theorem TokenMove.flow (h : TokenMove D t w w' inc) :
    EscrowFlow D (w.tokens D.settlementToken) (w'.tokens D.settlementToken) inc 0 := by
  cases h with
  | none htokens => exact .idle (by rw [htokens])
  | lock hpayer h htokens =>
    rw [htokens, update_self]
    exact .takes hpayer.2.2.1 h
  | slash h htokens =>
    rw [htokens]
    exact .of_update (h D.stakeRegistry) D.escrow_ne_stakeRegistry.symm
      D.escrow_ne_stakeRegistry.symm
  | claim hpool h htokens hlogs =>
    rw [htokens]
    exact .of_update (h.tokenCall _) (D.pool_ne_escrow hpool) (D.pool_ne_escrow hpool)

/-- The tokens that the transfers bring to `escrow` on its own call. -/
def received (escrow : Address) (made : List TokenTransfer) : ℕ :=
  (made.map fun x => if x.caller = escrow ∧ x.payer ≠ escrow ∧ x.recipient = escrow then x.amount
    else 0).sum

/-- The tokens that `escrow` pays by the transfers. -/
def paidOut (escrow : Address) (made : List TokenTransfer) : ℕ :=
  (made.map fun x => if x.caller = escrow ∧ x.payer = escrow then x.amount else 0).sum

theorem EscrowFlow.made {token token' : Recorder τ} (h : EscrowFlow D token token' inc out) :
    ∃ made, token'.transfers = made ++ token.transfers ∧ received D.escrow made = inc ∧
      paidOut D.escrow made = out := by
  cases h with
  | idle h => exact ⟨[], by rw [h]; rfl, rfl, rfl⟩
  | others h hself hcaller =>
    obtain ⟨made, hmade, hcallers⟩ := h.transfers
    refine ⟨made, hmade, ?_, ?_⟩
    all_goals
      refine List.sum_eq_zero fun n hn => ?_
      obtain ⟨x, hx, rfl⟩ := List.mem_map.mp hn
      simp [hcallers x hx, hself]
  | takes hpayer h =>
    exact ⟨_, transfers_of_transferFrom h, by simp [received, hpayer], by simp [paidOut, hpayer]⟩
  | pays h => exact ⟨_, transfers_of_transfer h, by simp [received], by simp [paidOut]⟩

end flow

/-! ### Calls to the manager and to the escrow -/

/-- The books after a call about a task. -/
theorem EscrowBooks.move (h : EscrowBooks D w) (hmove : TaskMove D w w' t) :
    EscrowBooks D w' ∧ FlowStep D w w' := by
  obtain ⟨inc, out, hescrow, hexposure, hlocked, htokens⟩ := hmove.escrow
  have htotal := tally_update Task.locked w.manager.tasks t (w'.manager.tasks t)
  have hlive := tally_update Task.live w.manager.tasks t (w'.manager.tasks t)
  rw [← hmove.tasks] at htotal hlive
  have hcount := hmove.count
  obtain ⟨hmanager, hbooks, hopen, hlives⟩ := h
  refine ⟨⟨?_, ?_, ?_, ?_⟩, inc, 0, htokens.flow, ?_⟩
  · rw [hescrow.manager]
    exact hmanager
  · intro t'
    rw [hescrow.locked]
    by_cases ht : t' = t
    · subst ht
      rw [update_self, hbooks]
      omega
    · rw [update_of_ne ht, hmove.tasks, update_of_ne ht]
      exact hbooks t'
  · omega
  · omega
  · simp only [World.owed, hescrow.credited]
    omega

/-- What a call to the escrow does when it is not the manager who calls: it pays `n` out of what is
credited. -/
structure Outflow (D : Deployment) (s s' : WithToken TaskBondEscrow τ) (n : ℕ) : Prop where
  lockedByTask : s'.contract.lockedByTask = s.contract.lockedByTask
  credited : s'.contract.credited + n = s.contract.credited
  tokens : EscrowFlow D s.token s'.token 0 n

theorem escrowCall_outflow {env : Env} {s s' : WithToken TaskBondEscrow τ}
    (hsender : env.sender ≠ s.contract.manager)
    (h : TaskBondEscrow.call D.escrow env msg s = .ok (u, s')) :
    ∃ n, Outflow D s s' n ∧ (s'.contract.manager = s.contract.manager ∨
      msg = .setManager s'.contract.manager) := by
  cases msg with
  | ownership c =>
    simp [TaskBondEscrow.call] at h
    obtain ⟨o, -, rfl⟩ := h
    exact ⟨0, ⟨rfl, Nat.add_zero _, .idle rfl⟩, .inl rfl⟩
  | setManager manager =>
    simp [TaskBondEscrow.call, TaskBondEscrow.setManager] at h
    obtain ⟨-, -, rfl⟩ := h
    exact ⟨0, ⟨rfl, Nat.add_zero _, .idle rfl⟩, .inr rfl⟩
  | lockFrom taskId payer amount =>
    exact absurd (TaskBondEscrow.lockFrom_ok.mp h).1 hsender
  | releaseTo taskId account amount =>
    obtain ⟨e, he, -⟩ := inContract_ok.mp h
    exact absurd (TaskBondEscrow.releaseTo_ok.mp he).1 hsender
  | moveToReserve taskId amount =>
    obtain ⟨e, he, -⟩ := inContract_ok.mp h
    exact absurd (TaskBondEscrow.moveToReserve_ok.mp he).1 hsender
  | withdraw =>
    simp [TaskBondEscrow.call, TaskBondEscrow.withdraw, and_assoc] at h
    obtain ⟨hne, token, htransfer, rfl⟩ := h
    refine ⟨s.contract.withdrawable env.sender, ⟨rfl, ?_, .pays htransfer⟩, .inl rfl⟩
    have := sum_update s.contract.withdrawable env.sender 0
    simp only [TaskBondEscrow.credited]
    omega
  | withdrawReserve account amount =>
    simp [TaskBondEscrow.call, TaskBondEscrow.withdrawReserve, and_assoc] at h
    obtain ⟨-, -, -, hle, token, htransfer, rfl⟩ := h
    refine ⟨amount, ⟨rfl, ?_, .pays htransfer⟩, .inl rfl⟩
    simp only [TaskBondEscrow.credited]
    omega

/-- The books after a call of an outside account to the escrow. -/
theorem EscrowBooks.escrowCall (h : EscrowBooks D w) (hsender : D.External sender)
    (hwired : EscrowWired D sender (.escrow msg) w)
    (hcall : bondCall D sender (.escrow msg) w = .ok (u, w')) :
    EscrowBooks D w' ∧ FlowStep D w w' := by
  obtain ⟨s, hs, rfl⟩ := within_ok.mp hcall
  have hnot : sender ≠ (w.withEscrow D).contract.manager := by
    intro heq
    rcases h.manager with hm | hm
    · exact hsender.1 (heq.trans hm)
    · exact hsender.2.1 (heq.trans hm)
  obtain ⟨n, hout, hmanager⟩ := escrowCall_outflow hnot hs
  refine ⟨⟨?_, ?_, h.exposure, h.count⟩, 0, n, ?_, ?_⟩
  · rcases hmanager with hm | hm
    · change s.contract.manager = _ ∨ s.contract.manager = _
      rw [hm]
      exact h.manager
    · subst hm
      exact .inr hwired
  · change ∀ t, s.contract.lockedByTask t = _
    rw [hout.lockedByTask]
    exact h.locked
  · simp only [World.putEscrow, update_self]
    exact hout.tokens
  · have hcredited : s.contract.credited + n = w.escrow.credited := hout.credited
    change ∑ t, (w.manager.tasks t).locked + s.contract.credited + n = _ + _ + 0
    omega

/-! ### Runs -/

/-- The books after any call. -/
theorem EscrowBooks.call (h : EscrowBooks D w) (hw : AllRecorded D w)
    (hsender : D.External sender) {msg : BondMsg}
    (hwired : EscrowWired D sender msg w) (hcall : bondCall D sender msg w = .ok (u, w')) :
    EscrowBooks D w' ∧ FlowStep D w w' := by
  have hescrow : sender ≠ D.escrow := hsender.2.2.1
  cases msg with
  | manager m =>
    rcases taskMove_of_call hsender hw hcall with ⟨s, rfl⟩ | ⟨t, -, hmove, -⟩
    · exact ⟨h.congr rfl rfl rfl rfl, 0, 0, .idle rfl, rfl⟩
    · exact h.move hmove
  | escrow m => exact h.escrowCall hsender hwired hcall
  | stakes m =>
    obtain ⟨s, hs, rfl⟩ := within_ok.mp hcall
    exact ⟨h.congr rfl rfl rfl rfl, 0, 0, .of_update (AgentStakeRegistry.call_token hs)
      D.escrow_ne_stakeRegistry.symm hescrow, rfl⟩
  | pool p m =>
    obtain ⟨hpool, s, hs, rfl⟩ := bondCall_pool_ok.mp hcall
    exact ⟨h.congr rfl rfl rfl rfl, 0, 0,
      .of_update (AgentUnderwriterPool.effect_of_call hs).token (D.pool_ne_escrow hpool) hescrow, rfl⟩
  | policies | poolRegistry | attestations =>
    simp [bondCall] at hcall
    obtain ⟨r, -, rfl⟩ := hcall
    exact ⟨h.congr rfl rfl rfl rfl, 0, 0, .idle rfl, rfl⟩

theorem BondRun.escrowBooks {w₀ : World τ} {l : List (BondEntry τ)} (h₀ : w₀.Deployed D)
    (hrun : BondRun D (EscrowWired D) w₀ l w) : EscrowBooks D w := by
  induction hrun with
  | start => exact (deployed_books h₀).1
  | call hrun hsender hok h ih => exact (ih.call (hrun.recorded h₀) hsender hok h).1
  | time _ _ ih | token _ _ ih => exact ih.congr rfl rfl rfl rfl

/-- The escrow has the tokens it owes. -/
theorem BondRun.owed_le (hτ : ExactTransfers τ) {w₀ : World τ} {l : List (BondEntry τ)}
    (h₀ : w₀.Deployed D) (hrun : BondRun D (EscrowWired D) w₀ l w) :
    w.owed ≤ balanceOf D.escrow (w.tokens D.settlementToken) := by
  induction hrun with
  | start =>
    rw [(deployed_books h₀).2]
    exact Nat.zero_le _
  | call hrun hsender hok h ih =>
    obtain ⟨-, inc, out, hflow, howed⟩ :=
      (hrun.escrowBooks h₀).call (hrun.recorded h₀) hsender hok h
    have hfunds := hflow.funds hτ
    omega
  | time _ _ ih => exact ih
  | token _ h ih => exact ih.trans (h D.escrow D.settlementToken (.inl rfl))

/-- The transfers of the settlement token in the calls of a run. -/
def settlementTransfers (D : Deployment) (l : List (BondEntry (Recorder τ))) : List TokenTransfer :=
  l.flatMap fun e => gained (e.before.tokens D.settlementToken).transfers
    ((e.after D).tokens D.settlementToken).transfers

theorem BondRun.flow {w₀ w : World (Recorder τ)} {l : List (BondEntry (Recorder τ))}
    (h₀ : w₀.Deployed D) (hrun : BondRun D (EscrowWired D) w₀ l w) :
    received D.escrow (settlementTransfers D l) =
      paidOut D.escrow (settlementTransfers D l) + w.owed := by
  induction hrun with
  | start =>
    rw [(deployed_books h₀).2]
    rfl
  | call hrun hsender hok h ih =>
    obtain ⟨-, inc, out, hflow, howed⟩ :=
      (hrun.escrowBooks h₀).call (hrun.recorded h₀) hsender hok h
    obtain ⟨made, hmade, hin, hout⟩ := hflow.made
    rw [settlementTransfers, List.flatMap_cons, after_of_ok h, hmade, gained_append]
    simp only [received, paidOut, settlementTransfers, List.map_append, List.sum_append] at *
    omega
  | time _ _ ih | token _ _ ih => exact ih

/-! ### The accounts -/

/-- A task is counted as long as it exists and has not ended. -/
theorem Recorded.live_eq {policies : TaskPolicyRegistry} {task : Task}
    (h : Recorded D policies t task) :
    task.live = if task.exists_ = true ∧ task.status.isTerminal = false then 1 else 0 := by
  unfold Task.live
  refine if_congr ?_ rfl rfl
  by_cases hexists : task.exists_ = true
  · have hknown := h.known hexists
    simp only [hexists, true_and]
    revert hknown
    cases task.status <;> simp [TaskStatus.isBonded, TaskStatus.isTerminal]
  · rw [h.empty (Bool.eq_false_of_not_eq_true hexists)]
    simp [Task.empty, TaskStatus.isBonded]

/-- **Escrow accounts**: in every run in which the escrow has no manager but the manager, and for
a token that moves exact amounts, what is locked for a task is given by its record, the exposure is
the total that is locked, the task count is the number of tasks that have not ended, and the tokens
that the escrow has taken, less those it has paid, are the locked, the credited and the reserved
ones.  The escrow has the tokens it owes. -/
theorem escrow_accounts (hτ : ExactTransfers τ) {w₀ w : World (Recorder τ)}
    {l : List (BondEntry (Recorder τ))} (h₀ : w₀.Deployed D)
    (hrun : BondRun D (EscrowWired D) w₀ l w) :
    (∀ t, w.escrow.lockedByTask t = (w.manager.tasks t).locked) ∧
    w.manager.openExposure = ∑ t, w.escrow.lockedByTask t ∧
    w.manager.openTaskCount = (Finset.univ.filter fun t => (w.manager.tasks t).exists_ = true ∧
      (w.manager.tasks t).status.isTerminal = false).card ∧
    received D.escrow (settlementTransfers D l) = paidOut D.escrow (settlementTransfers D l) +
      (∑ t, w.escrow.lockedByTask t + (∑ a, w.escrow.withdrawable a + w.escrow.reserveBalance)) ∧
    ∑ t, w.escrow.lockedByTask t + (∑ a, w.escrow.withdrawable a + w.escrow.reserveBalance) ≤
      balanceOf D.escrow (w.tokens D.settlementToken) := by
  have h := hrun.escrowBooks h₀
  have hrecorded := hrun.recorded h₀
  have htotal : ∑ t, w.escrow.lockedByTask t = ∑ t, (w.manager.tasks t).locked :=
    Finset.sum_congr rfl fun t _ => h.locked t
  rw [htotal, Finset.card_filter]
  refine ⟨h.locked, h.exposure, ?_, hrun.flow h₀, hrun.owed_le hτ.recorder h₀⟩
  rw [h.count]
  exact Finset.sum_congr rfl fun t _ => (hrecorded t).live_eq

/-- The small deployment with a token that records its transfers. -/
def recordedWorld : World (Recorder TestToken) :=
  { sampleWorld with tokens := fun _ => ⟨sampleTokens, []⟩ }

/-- A task is opened and accepted, another one is opened and cancelled, and its requester
withdraws. -/
def sampleAccepted : List BondInput :=
  sampleSetup samplePolicy ++
    [.call 1 (.manager (.openTask 1 1 1 1000 3)), .call 2 (.manager (.acceptTask 100)),
      .call 1 (.manager (.openTask 1 1 2 500 3)), .call 1 (.manager (.cancelOpenTask 101)),
      .call 1 (.escrow .withdraw)]

/-- The escrow has taken 1060 and 100 for the first task and 530 for the second, which it has paid
back. -/
theorem escrow_accounts_sample :
    ∃ l w, follow sampleDeployment sampleAccepted ([], recordedWorld) = some (l, w) ∧
      w.manager.openExposure = 1160 ∧ w.manager.openExposure = ∑ t, w.escrow.lockedByTask t ∧
      received 11 (settlementTransfers sampleDeployment l) = 1690 ∧
      received 11 (settlementTransfers sampleDeployment l) =
        paidOut 11 (settlementTransfers sampleDeployment l) + (∑ t, w.escrow.lockedByTask t +
          (∑ a, w.escrow.withdrawable a + w.escrow.reserveBalance)) := by
  have hfacts : (follow sampleDeployment sampleAccepted ([], recordedWorld)).map
      (fun s => (s.2.manager.openExposure, received 11 (settlementTransfers sampleDeployment s.1))) =
        some (1160, 1690) := by rfl
  obtain ⟨⟨l, w⟩, hw, hfacts⟩ := Option.map_eq_some_iff.mp hfacts
  obtain ⟨hexposure, hreceived⟩ := Prod.mk.inj hfacts
  have hdeployed : recordedWorld.Deployed sampleDeployment := by
    obtain ⟨hmanager, hescrow, hstakes, hpools⟩ := deployed_sampleWorld
    exact ⟨hmanager, hescrow, hstakes, hpools⟩
  have hrun : BondRun sampleDeployment (EscrowWired sampleDeployment) recordedWorld l w :=
    BondRun.start.follow (by decide)
      (by simp [calls, sampleAccepted, sampleSetup, EscrowWired, sampleDeployment]) hw
  obtain ⟨-, hopen, -, hflow, -⟩ := escrow_accounts TestToken.exactTransfers hdeployed hrun
  exact ⟨l, w, hw, hexposure, hopen, hreceived, hflow⟩

end FlowMemory.AgentBonds
