import FlowMemory.AgentBonds.TaskSteps

/-! # How a call moves the books

Each ledger of the system is a sum over the tasks: what is locked in the escrow, the number of open
tasks, the bonds of an agent and the coverage that counts for a requester, an agent or a verifier.
The amount that a task adds to a ledger is a function of its record.

A call about a task replaces one record and changes every ledger by the difference of the two
amounts (`TaskMove`).  The rest of the system only sees this. -/

namespace FlowMemory.AgentBonds

open Call ERC20SettlementToken Function

/-! ### What a task adds to the ledgers -/

namespace Task

variable (task : Task)

/-- The tokens in the escrow. -/
def locked : ℕ :=
  match task.status with
  | .unknown => 0
  | .open_ => task.requesterHeld
  | .accepted => task.held
  | .started => task.held
  | .evidenceCommitted => task.held
  | .verified => task.held
  | .failed => task.held
  | .challenged => task.held + task.disputeBondLocked
  | .settled => 0
  | .refunded => 0
  | .slashed => 0
  | .unsupported => task.held
  | .reorged => task.held

/-- One, for a task that is open. -/
def live : ℕ := if task.status = .open_ ∨ task.status.isBonded = true then 1 else 0

/-- The bond of the agent `a`. -/
def bondOf (a : Address) : ℕ :=
  if task.status.isBonded = true ∧ task.agent = a then task.agentBond else 0

/-- The coverage in use. -/
def cover : ℕ := if task.status.isBonded = true then task.coverage else 0

/-- The coverage in use that counts for `a` in the role `party`. -/
def coverOf (party : Task → Address) (a : Address) : ℕ :=
  if party task = a then task.cover else 0

variable {task}

theorem bondOf_of_unbonded (h : task.status.isBonded = false) (a : Address) :
    task.bondOf a = 0 := by
  simp [bondOf, h]

theorem coverOf_of_unbonded (h : task.status.isBonded = false) (party : Task → Address)
    (a : Address) : task.coverOf party a = 0 := by
  simp [coverOf, cover, h]

theorem bondOf_of_bonded (h : task.status.isBonded = true) (a : Address) :
    task.bondOf a = if task.agent = a then task.agentBond else 0 := by
  simp [bondOf, h]

theorem coverOf_of_bonded (h : task.status.isBonded = true) (party : Task → Address)
    (a : Address) : task.coverOf party a = if party task = a then task.coverage else 0 := by
  simp [coverOf, cover, h]

theorem live_of_bonded (h : task.status.isBonded = true) : task.live = 1 := by
  simp [live, h]

end Task

section terms

variable {old new : Task} (h : SameTerms old new)
include h

theorem SameTerms.coverage : new.coverage = old.coverage := by
  refine if_congr ?_ h.recourseCoverage rfl
  simp only [Task.Covered, h.recoursePool, h.recourseCoverage]

variable (hstatus : new.status.isBonded = old.status.isBonded)
include hstatus

theorem SameTerms.bondOf (hagent : new.agent = old.agent) (a : Address) :
    new.bondOf a = old.bondOf a := by
  simp only [Task.bondOf, hstatus, hagent, h.agentBond]

theorem SameTerms.cover : new.cover = old.cover := by
  simp only [Task.cover, hstatus, h.coverage]

end terms

/-! ### Moves -/

variable {τ : Type} [ERC20SettlementToken τ] {D : Deployment} {w w' : World τ} {t : Bytes32}
  {token : τ}

/-- The tokens that a call about the task `t` moves: the escrow takes the given amount from an
outside account, or takes nothing and the stake registry or a pool pays. -/
inductive TokenMove (D : Deployment) (t : Bytes32) (w w' : World τ) : ℕ → Prop
  | none (htokens : w'.tokens = w.tokens) : TokenMove D t w w' 0
  | lock {payer : Address} {amount : ℕ} {token : τ} (hpayer : D.External payer)
      (h : transferFrom D.escrow payer D.escrow amount (w.tokens D.settlementToken) = some token)
      (htokens : w'.tokens = update w.tokens D.settlementToken token) : TokenMove D t w w' amount
  | slash {token : τ}
      (h : ∀ caller, TokenCall D.stakeRegistry caller (w.tokens D.stakeToken) token)
      (htokens : w'.tokens = update w.tokens D.stakeToken token) : TokenMove D t w w' 0
  | claim {pool recipient : Address} {reason : Bytes32} {locked paid : ℕ} {token : τ}
      (hpool : D.isPool pool = true)
      (h : AgentUnderwriterPool.PaidFrom pool recipient paid (w.tokens (D.asset pool)) token)
      (htokens : w'.tokens = update w.tokens (D.asset pool) token)
      (hlogs : (w'.pools pool).logs =
        AgentUnderwriterPool.claimLogs w.now t recipient reason locked paid ++
          (w.pools pool).logs) : TokenMove D t w w' 0

/-- The escrow, its tokens and the exposure follow the locked amount of the task. -/
def EscrowStep (D : Deployment) (w w' : World τ) (t : Bytes32) : Prop :=
  ∃ inc out, w.escrow.Move w'.escrow t inc out ∧
    w'.manager.openExposure + out = w.manager.openExposure + inc ∧
    (w'.manager.tasks t).locked + out = (w.manager.tasks t).locked + inc ∧
    TokenMove D t w w' inc

/-- One record was replaced, and the ledgers follow. -/
structure TaskMove (D : Deployment) (w w' : World τ) (t : Bytes32) : Prop where
  tasks : w'.manager.tasks = update w.manager.tasks t (w'.manager.tasks t)
  escrow : EscrowStep D w w' t
  count : w'.manager.openTaskCount + (w.manager.tasks t).live =
    w.manager.openTaskCount + (w'.manager.tasks t).live
  bonds : ∀ a, w'.stakes.openBondExposure a + (w.manager.tasks t).bondOf a =
    w.stakes.openBondExposure a + (w'.manager.tasks t).bondOf a
  byRequester : ∀ a, w'.manager.recourseCoverageByRequester a +
      (w.manager.tasks t).coverOf Task.requester a =
    w.manager.recourseCoverageByRequester a + (w'.manager.tasks t).coverOf Task.requester a
  byAgent : ∀ a, w'.manager.recourseCoverageByAgent a +
      (w.manager.tasks t).coverOf Task.agent a =
    w.manager.recourseCoverageByAgent a + (w'.manager.tasks t).coverOf Task.agent a
  byVerifier : ∀ a, w'.manager.recourseCoverageByVerifier a +
      (w.manager.tasks t).coverOf Task.verifier a =
    w.manager.recourseCoverageByVerifier a + (w'.manager.tasks t).coverOf Task.verifier a

/-! ### Calls that keep the bonds -/

/-- The bonds and the coverage are as before. -/
structure LedgersKept (w w' : World τ) : Prop where
  bonds : w'.stakes.openBondExposure = w.stakes.openBondExposure
  byRequester : w'.manager.recourseCoverageByRequester = w.manager.recourseCoverageByRequester
  byAgent : w'.manager.recourseCoverageByAgent = w.manager.recourseCoverageByAgent
  byVerifier : w'.manager.recourseCoverageByVerifier = w.manager.recourseCoverageByVerifier

/-- A call that replaces a record by one with the same bond and the same coverage. -/
theorem TaskMove.kept {new : Task} (hledgers : LedgersKept w w')
    (htasks : w'.manager.tasks = update w.manager.tasks t new)
    (hescrow : EscrowStep D w w' t)
    (hcount : w'.manager.openTaskCount + (w.manager.tasks t).live =
      w.manager.openTaskCount + new.live)
    (hbond : ∀ a, new.bondOf a = (w.manager.tasks t).bondOf a)
    (hrequester : ∀ a, new.coverOf Task.requester a = (w.manager.tasks t).coverOf Task.requester a)
    (hagent : ∀ a, new.coverOf Task.agent a = (w.manager.tasks t).coverOf Task.agent a)
    (hverifier : ∀ a, new.coverOf Task.verifier a = (w.manager.tasks t).coverOf Task.verifier a) :
    TaskMove D w w' t := by
  have hself : w'.manager.tasks t = new := by rw [htasks, update_self]
  refine ⟨?_, hescrow, ?_, fun a => ?_, fun a => ?_, fun a => ?_, fun a => ?_⟩
  · rw [hself, htasks]
  · rw [hself, hcount]
  · rw [hself, hbond, hledgers.bonds]
  · rw [hself, hrequester, hledgers.byRequester]
  · rw [hself, hagent, hledgers.byAgent]
  · rw [hself, hverifier, hledgers.byVerifier]

/-- Both records are without a bond. -/
theorem TaskMove.unbonded {new : Task} (hledgers : LedgersKept w w')
    (hold : (w.manager.tasks t).status.isBonded = false) (hnew : new.status.isBonded = false)
    (htasks : w'.manager.tasks = update w.manager.tasks t new)
    (hescrow : EscrowStep D w w' t)
    (hcount : w'.manager.openTaskCount + (w.manager.tasks t).live =
      w.manager.openTaskCount + new.live) : TaskMove D w w' t := by
  have hcover (party : Task → Address) (a : Address) :
      new.coverOf party a = (w.manager.tasks t).coverOf party a := by
    rw [Task.coverOf_of_unbonded hold, Task.coverOf_of_unbonded hnew]
  refine .kept hledgers htasks hescrow hcount (fun a => ?_) (hcover _) (hcover _) (hcover _)
  rw [Task.bondOf_of_unbonded hold, Task.bondOf_of_unbonded hnew]

/-- Both records have a bond, with the same terms. -/
theorem TaskMove.works {new : Task} (hledgers : LedgersKept w w')
    (hold : (w.manager.tasks t).status.isBonded = true) (hnew : new.status.isBonded = true)
    (hterms : SameTerms (w.manager.tasks t) new)
    (htasks : w'.manager.tasks = update w.manager.tasks t new)
    (hescrow : EscrowStep D w w' t)
    (hcount : w'.manager.openTaskCount = w.manager.openTaskCount)
    (hagent : new.agent = (w.manager.tasks t).agent) : TaskMove D w w' t := by
  have hbonded : new.status.isBonded = (w.manager.tasks t).status.isBonded := by rw [hold, hnew]
  have hcover := hterms.cover hbonded
  refine .kept hledgers htasks hescrow ?_ (hterms.bondOf hbonded hagent) ?_ ?_ ?_
  · rw [hcount, Task.live_of_bonded hold, Task.live_of_bonded hnew]
  · intro a
    simp only [Task.coverOf, hterms.requester, hcover]
  · intro a
    simp only [Task.coverOf, hagent, hcover]
  · intro a
    simp only [Task.coverOf, hterms.verifier, hcover]

/-- Nothing happens in the escrow. -/
theorem EscrowStep.none (hescrow : w'.escrow = w.escrow) (htokens : w'.tokens = w.tokens)
    (hexposure : w'.manager.openExposure = w.manager.openExposure)
    (hlocked : (w'.manager.tasks t).locked = (w.manager.tasks t).locked) : EscrowStep D w w' t := by
  refine ⟨0, 0, ?_, ?_, ?_, .none htokens⟩
  · rw [hescrow]
    exact .refl ..
  · rw [hexposure]
  · rw [hlocked]

/-! ### Opening and cancelling -/

theorem TaskMove.opens {task : Task}
    (hempty : w.manager.tasks t = .empty) (hstatus : task.status = .open_)
    (hpayer : D.External task.requester)
    (htransfer : transferFrom D.escrow task.requester D.escrow task.requesterHeld
      (w.tokens D.settlementToken) = some token) :
    TaskMove D w (AgentBondManager.afterOpen D w t task token) t := by
  have hnew : (AgentBondManager.afterOpen D w t task token).manager.tasks t = task.bump :=
    update_self ..
  have hbump : task.bump.status = .open_ := hstatus
  refine .unbonded (by constructor <;> rfl) (by rw [hempty]; rfl) (by rw [hbump]; rfl) rfl
    ⟨task.requesterHeld, 0, .lock .., rfl, ?_, .lock hpayer htransfer rfl⟩ ?_
  · rw [hnew, hempty]
    simp [Task.locked, hbump, Task.empty]
    rfl
  · rw [hempty]
    simp [Task.live, hbump, Task.empty, TaskStatus.isBonded, AgentBondManager.afterOpen]

theorem TaskMove.opensTask {sender : Address} (hsender : D.External sender)
    (hempty : (w.manager.tasks t).exists_ = false → w.manager.tasks t = .empty)
    {rootfieldId policyId termsHash : Bytes32} {payout : ℕ} {verifier pool : Address} {coverage : ℕ}
    (h : AgentBondManager.openTaskWithRecourse D sender rootfieldId policyId termsHash payout verifier
      pool coverage w = .ok (t, w')) : TaskMove D w w' t := by
  obtain ⟨policy, quote, token, task, rfl, -, -, -, -, -, -, hnew, -, -, htransfer, rfl⟩ :=
    AgentBondManager.openTaskWithRecourse_ok h
  exact .opens (hempty hnew) rfl hsender htransfer

theorem TaskMove.cancels {sender : Address} {u : Unit}
    (h : AgentBondManager.cancelOpenTask D sender t w = .ok (u, w')) : TaskMove D w w' t := by
  obtain ⟨-, -, hstatus, hexposure, hcount, hlocked, rfl⟩ := AgentBondManager.cancelOpenTask_ok h
  refine .unbonded (by constructor <;> rfl) (by rw [hstatus]; rfl) rfl rfl
    ⟨0, _, (TaskBondEscrow.distributed_release hlocked).move, ?_, ?_, .none rfl⟩ ?_
  · simp only
    omega
  · simp only [update_self]
    simp [Task.locked, hstatus]
    rfl
  · simp [Task.live, hstatus, Task.bump, Task.withStatus, TaskStatus.isBonded]
    omega

/-! ### Work on an accepted task -/

section work

open AgentBondManager

variable {sender : Address} {u : Unit} {digest : Bytes32} {reportStatus : ReportStatus}

/-- While it is not disputed, the tokens of the requester and the bond of the agent are locked. -/
theorem locked_of_bonded {task : Task} (h : task.status.isBonded = true)
    (hne : task.status ≠ .challenged) : task.locked = task.held := by
  unfold Task.locked
  generalize task.status = status at h hne
  cases status <;> first | rfl | exact absurd rfl hne | cases h

theorem locked_of_reportBacked {task : Task} (h : task.status.isReportBacked = true) :
    task.locked = task.held :=
  locked_of_bonded (isBonded_of_reportBacked h) (ne_of_reportBacked h rfl)

omit [ERC20SettlementToken τ] in
/-- A call that changes nothing but the record keeps what is locked. -/
theorem TaskStep.locked_of_quiet {msg : AgentBondManager.Msg} {old new : Task}
    (h : TaskStep D w sender t msg old new) (hmsg : msg.quiet = true) :
    new.locked = old.locked := by
  cases h with
  | opens hopens => cases msg <;> first | cases hmsg; done | cases hopens
  | starts hexists hstatus =>
    simp only [Task.locked, hstatus]
    rfl
  | commits hexists hstatus =>
    rcases hstatus with hstatus | hstatus <;> simp only [Task.locked, hstatus] <;> rfl
  | reports hexists hstatus hsender havailable hreport =>
    rw [locked_of_reportBacked (isReportBacked_of_taskStatus hreport)]
    simp only [Task.locked, hstatus]
    rfl
  | confirms => rfl
  | _ => cases hmsg

theorem TaskMove.quiet {msg : AgentBondManager.Msg} (hstep : ManagerStep D sender msg w w' t)
    (hmsg : msg.quiet = true) : TaskMove D w w' t := by
  obtain ⟨hexists, hold, hnew⟩ := hstep.step.bonded_of_works (Msg.works_of_quiet hmsg)
  have hagent : (w'.manager.tasks t).agent = (w.manager.tasks t).agent := by
    rcases hstep.step.bonded_cases hnew with rfl | ⟨-, -, hagent⟩
    · cases hmsg
    · exact hagent
  have hworld := hstep.quiet hmsg
  have hlocked := hstep.step.locked_of_quiet hmsg
  have htasks := hstep.tasks
  have hterms := hstep.step.terms hexists
  refine .works ?_ hold hnew hterms htasks (.none ?_ ?_ ?_ hlocked) ?_ hagent
  · constructor <;> rw [hworld]
  all_goals rw [hworld]

theorem TaskMove.challenges (hsender : D.External sender)
    {commitment : Bytes32} (h : challengeTask D sender t commitment w = .ok (u, w')) :
    TaskMove D w w' t := by
  obtain ⟨token, -, hbacked, -, -, -, htransfer, rfl⟩ := challengeTask_ok h
  refine .works (by constructor <;> rfl) (isBonded_of_reportBacked hbacked) rfl
    (by constructor <;> rfl) rfl
    ⟨_, 0, .lock .., rfl, ?_, .lock hsender htransfer rfl⟩ rfl rfl
  simp only [update_self]
  rw [locked_of_reportBacked hbacked]
  rfl

theorem TaskMove.resolves {slashBps : UInt16}
    (h : resolveChallenge D sender t reportStatus digest slashBps w = .ok (u, w')) :
    TaskMove D w w' t := by
  obtain ⟨status, amount, overturned, recipient, -, hstatus, hreport, hexposure, -, hlocked, hslash⟩ :=
    resolveChallenge_ok h
  have hbacked := isReportBacked_of_taskStatus hreport
  obtain ⟨s, token, rfl, hbonds, -, -, -, htoken⟩ := slashPositive_frame hslash
  refine .works ⟨hbonds, rfl, rfl, rfl⟩ (by rw [hstatus]; rfl)
    (isBonded_of_reportBacked hbacked) (by constructor <;> rfl) rfl
    ⟨0, _, (TaskBondEscrow.distributed_release hlocked).move, ?_, ?_, .slash htoken rfl⟩ rfl rfl
  · simp only [afterResolve]
    omega
  · simp only [afterResolve, update_self]
    rw [locked_of_reportBacked hbacked]
    simp only [Task.locked, hstatus]
    rfl

end work

/-! ### Accepting -/

section accept

open AgentBondManager

variable {sender : Address} {u : Unit}

theorem TaskMove.afterAccept (hsender : D.External sender) (deadline : ℕ)
    (hstatus : (w.manager.tasks t).status = .open_)
    (htransfer : transferFrom D.escrow sender D.escrow (w.manager.tasks t).agentBond
      (w.tokens D.settlementToken) = some token) (pools : Address → AgentUnderwriterPool) :
    TaskMove D w { AgentBondManager.afterAccept D w t (w.manager.tasks t) sender deadline token with
      pools } t := by
  have hold : (w.manager.tasks t).status.isBonded = false := by rw [hstatus]; rfl
  have hnew : (AgentBondManager.afterAccept D w t (w.manager.tasks t) sender deadline
      token).manager.tasks t = ((w.manager.tasks t).accept sender w.now deadline).bump :=
    update_self ..
  refine ⟨?_, ⟨_, 0, .lock .., rfl, ?_, .lock hsender htransfer rfl⟩, ?_, ?_, ?_, ?_, ?_⟩
  · rw [hnew]
    rfl
  · rw [hnew]
    simp only [Task.locked, hstatus]
    rfl
  · rw [hnew]
    simp only [Task.live, hstatus]
    rfl
  all_goals
    intro a
    rw [hnew]
  · rw [Task.bondOf_of_unbonded hold, Task.bondOf_of_bonded rfl]
    exact update_add_apply w.stakes.openBondExposure sender a _
  · rw [Task.coverOf_of_unbonded hold, Task.coverOf_of_bonded rfl]
    exact update_add_apply w.manager.recourseCoverageByRequester _ a _
  · rw [Task.coverOf_of_unbonded hold, Task.coverOf_of_bonded rfl]
    exact update_add_apply w.manager.recourseCoverageByAgent sender a _
  · rw [Task.coverOf_of_unbonded hold, Task.coverOf_of_bonded rfl]
    exact update_add_apply w.manager.recourseCoverageByVerifier _ a _

theorem TaskMove.accepts (hsender : D.External sender)
    (h : acceptTask D sender t w = .ok (u, w')) : TaskMove D w w' t := by
  obtain ⟨policy, token, task, w₁, rfl, rfl, -, hstatus, -, -, -, -, -, -, -, -, -, htransfer,
    hcovered, hnot⟩ := acceptTask_ok h
  have hmove := TaskMove.afterAccept hsender (w.now + policy.submissionWindow.toNat) hstatus
    htransfer
  by_cases hc : (w.manager.tasks t).Covered
  · obtain ⟨-, s, hlock, rfl⟩ := hcovered hc
    obtain ⟨-, -, -, -, -, -, -, -, -, rfl⟩ := AgentUnderwriterPool.lockCoverage_ok.mp hlock
    -- the pool notes the coverage and leaves its token alone
    rw [World.putPool]
    simp only [World.withPool, update_eq_self]
    exact hmove _
  · rw [hnot hc]
    exact hmove w.pools

end accept

/-! ### Settlement -/

section settlement

open AgentBondManager

variable {task : Task} {final : TaskStatus}

/-- What the end of recourse does to the ledgers of recourse. -/
structure RecourseEnds (D : Deployment) (t : Bytes32) (task : Task) (w w' : World τ) : Prop where
  tokens : TokenMove D t w w' 0
  byRequester : ∀ a, w'.manager.recourseCoverageByRequester a +
    (if task.requester = a then task.coverage else 0) = w.manager.recourseCoverageByRequester a
  byAgent : ∀ a, w'.manager.recourseCoverageByAgent a +
    (if task.agent = a then task.coverage else 0) = w.manager.recourseCoverageByAgent a
  byVerifier : ∀ a, w'.manager.recourseCoverageByVerifier a +
    (if task.verifier = a then task.coverage else 0) = w.manager.recourseCoverageByVerifier a

theorem recoverable_iff (hpaid : task.recourseClaimPaid = false) :
    Recoverable task ↔ task.Covered := by
  simp only [Recoverable, Task.Covered, hpaid]
  tauto

theorem AgentBondManager.PoolEnd.tokens {s : WithToken AgentUnderwriterPool τ}
    (hisPool : D.isPool task.recoursePool = true)
    (h : PoolEnd t task ⟨D.manager, w.now⟩ (w.withPool D task.recoursePool) s final)
    (hpools : w'.pools = update w.pools task.recoursePool s.contract)
    (htokens : w'.tokens = update w.tokens (D.asset task.recoursePool) s.token) :
    TokenMove D t w w' 0 := by
  cases h with
  | release hfinal hrelease =>
    obtain ⟨-, -, -, -, -, rfl⟩ := AgentUnderwriterPool.releaseForTask_ok.mp hrelease
    exact .none (htokens.trans (update_eq_self _ _))
  | claim hclaim =>
    obtain ⟨-, -, -, -, -, -, -, token, hpay, rfl⟩ := AgentUnderwriterPool.payClaim_ok.mp hclaim
    exact .claim hisPool hpay htokens (by rw [hpools, update_self]; rfl)

theorem AgentBondManager.RecourseEnd.ends (hpaid : task.recourseClaimPaid = false)
    (h : RecourseEnd D t task final w w') : RecourseEnds D t task w w' := by
  obtain ⟨hcovered, hnot⟩ := h
  rw [recoverable_iff hpaid] at hcovered hnot
  by_cases hc : task.Covered
  · obtain ⟨⟨hrequester, hagent, hverifier⟩, hisPool, s, hpool, rfl⟩ := hcovered hc
    have hcoverage : task.coverage = task.recourseCoverage := if_pos hc
    refine ⟨hpool.tokens hisPool rfl rfl, ?_, ?_, ?_⟩ <;> rw [hcoverage]
    · exact update_sub_apply hrequester
    · exact update_sub_apply hagent
    · exact update_sub_apply hverifier
  · have hzero : task.coverage = 0 := if_neg hc
    rw [hnot hc]
    refine ⟨.none rfl, ?_, ?_, ?_⟩ <;> intro a <;> simp [hzero]

theorem TokenMove.of_close {e : TaskBondEscrow} {n : ℕ}
    (h : TokenMove D t (afterClose w t final e) w' n) : TokenMove D t w w' n := by
  cases h with
  | none htokens => exact .none htokens
  | lock hpayer h htokens => exact .lock hpayer h htokens
  | slash h htokens => exact .slash h htokens
  | claim hpool h htokens hlogs => exact .claim hpool h htokens hlogs

theorem TaskMove.ends (hpaid : (w.manager.tasks t).recourseClaimPaid = false)
    (h : TaskEnd D t final w w') : TaskMove D w w' t := by
  obtain ⟨e, hdistributed, hend⟩ := h.ended
  have hframe := hend.frame (update_self ..)
  have hends := hend.ends hpaid
  have hself : w'.manager.tasks t = (w.manager.tasks t).ended final := by rw [h.tasks, update_self]
  have hnew : (w'.manager.tasks t).status = final := by rw [hself, Task.status_ended]
  have hunbonded : (w'.manager.tasks t).status.isBonded = false := by
    rw [hnew, isBonded_of_terminal h.terminal]
  have hexposure := h.exposure
  have hcount := h.count
  refine ⟨?_, ⟨0, (w.manager.tasks t).held, ?_, ?_, ?_, hends.tokens.of_close⟩, ?_, fun a => ?_,
    fun a => ?_, fun a => ?_, fun a => ?_⟩
  · rw [hself, h.tasks]
  · rw [hframe.escrow]
    exact hdistributed.move
  · rw [hframe.openExposure]
    simp only [afterClose]
    omega
  · have hzero : (w'.manager.tasks t).locked = 0 := by
      have hterminal := h.terminal
      unfold Task.locked
      rw [hnew]
      cases final <;> first | rfl | cases hterminal
    rw [hzero, locked_of_bonded h.bonded h.unchallenged]
    omega
  · have hdead : (w'.manager.tasks t).live = 0 := by
      have hterminal := h.terminal
      unfold Task.live
      rw [hunbonded, hnew]
      cases final <;> first | rfl | cases hterminal
    rw [hframe.openTaskCount, hdead, Task.live_of_bonded h.bonded]
    simp only [afterClose]
    omega
  · rw [hframe.stakes, Task.bondOf_of_unbonded hunbonded, Task.bondOf_of_bonded h.bonded]
    exact update_sub_apply h.bond a
  all_goals rw [Task.coverOf_of_unbonded hunbonded, Task.coverOf_of_bonded h.bonded]
  · exact hends.byRequester a
  · exact hends.byAgent a
  · exact hends.byVerifier a

end settlement

end FlowMemory.AgentBonds
