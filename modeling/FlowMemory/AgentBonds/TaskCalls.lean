import FlowMemory.AgentBonds.ManagerCalls

/-! # What a returning call about a task did

One lemma for each call: the tests that the call passed and the world it left.  A settlement is
given by the payments that it makes out of the escrow (`Settles`). -/

namespace FlowMemory.AgentBonds

open Call ERC20SettlementToken Function TaskBondEscrow

namespace AgentBondManager

open TaskBondEscrow (Payment payAll)
open AgentStakeRegistry (recordClosedBond)

variable {τ : Type} [ERC20SettlementToken τ] {D : Deployment} {sender : Address} {w w' : World τ}
  {u : Unit} {taskId : Bytes32} {task : Task} {digest : Bytes32} {reportStatus : ReportStatus}

/-! ### Opening and cancelling -/

/-- The world after a task was opened. -/
def afterOpen (D : Deployment) (w : World τ) (taskId : Bytes32) (task : Task) (token : τ) :
    World τ :=
  { w with
    manager := { w.manager with
      taskNonce := w.manager.taskNonce + 1
      openExposure := w.manager.openExposure + task.requesterHeld
      openTaskCount := w.manager.openTaskCount + 1
      tasks := update w.manager.tasks taskId task.bump }
    escrow := w.escrow.afterLock taskId task.requester task.requesterHeld
    tokens := update w.tokens D.settlementToken token }

theorem openTaskWithRecourse_ok {rootfieldId policyId termsHash : Bytes32} {payout : ℕ}
    {verifier pool : Address} {coverage : ℕ}
    (h : openTaskWithRecourse D sender rootfieldId policyId termsHash payout verifier pool coverage
      w = .ok (taskId, w')) :
    ∃ policy quote token task,
      task = (w.manager.tasks taskId).opened sender w.now rootfieldId policyId termsHash payout
        verifier pool coverage policy quote ∧
      payout ≠ 0 ∧ verifier ≠ 0 ∧ (pool = 0 ↔ coverage = 0) ∧ (pool ≠ 0 → D.isPool pool = true) ∧
      w.policies.getPolicy policyId = some policy ∧ w.policies.quote policyId payout = some quote ∧
      (w.manager.tasks taskId).exists_ = false ∧ taskId ≠ 0 ∧ sender ≠ 0 ∧
      transferFrom D.escrow sender D.escrow task.requesterHeld (w.tokens D.settlementToken) =
        some token ∧
      w' = afterOpen D w taskId task token := by
  simp only [openTaskWithRecourse, bind_ok] at h
  obtain ⟨_, w₁, hpaused, _, w₂, hstopped, _, w₃, hinput, policy, w₄, hpolicy, _, w₅, hactive, _, w₆,
    hrecourse, h⟩ := h
  simp at hpaused hstopped hpolicy hactive
  obtain ⟨⟨rfl, -⟩, rfl, -⟩ := And.intro hpaused hstopped
  obtain ⟨hpayout, hverifier, rfl⟩ := validateOpenTaskInput_ok hinput
  obtain ⟨⟨rfl, hpolicy⟩, -, rfl⟩ := And.intro hpolicy hactive
  obtain ⟨hiff, hisPool, rfl⟩ := validateRecourseConfiguration_ok hrecourse
  simp [nextTaskId, lockFrom_ok, and_assoc] at h
  obtain ⟨quote, hquote, -, -, hnew, -, -, -, -, -, -, hid, hsender, -, -, token, htransfer, rfl,
    rfl⟩ := h
  exact ⟨policy, quote, token, _, rfl, hpayout, hverifier, hiff, hisPool, hpolicy, hquote, hnew,
    hid, hsender, htransfer, rfl⟩

omit [ERC20SettlementToken τ] in
theorem cancelOpenTask_ok (h : cancelOpenTask D sender taskId w = .ok (u, w')) :
    let task := w.manager.tasks taskId
    task.exists_ = true ∧ sender = task.requester ∧ task.status = .open_ ∧
      task.requesterHeld ≤ w.manager.openExposure ∧ 1 ≤ w.manager.openTaskCount ∧
      task.requesterHeld ≤ w.escrow.lockedByTask taskId ∧
      w' = { w with
        manager := { w.manager with
          openExposure := w.manager.openExposure - task.requesterHeld
          openTaskCount := w.manager.openTaskCount - 1
          tasks := update w.manager.tasks taskId (task.withStatus .refunded).bump }
        escrow := w.escrow.afterRelease taskId task.requester task.requesterHeld } := by
  simp [cancelOpenTask, releaseTo_ok, and_assoc] at h
  tauto

/-! ### Working on a task -/

/-- The world after a task was accepted, before its coverage is locked. -/
def afterAccept (D : Deployment) (w : World τ) (taskId : Bytes32) (task : Task) (agent : Address)
    (deadline : ℕ) (token : τ) : World τ :=
  { w with
    manager := withRecourse
      { w.manager with
        openExposure := w.manager.openExposure + task.agentBond
        tasks := update w.manager.tasks taskId (task.accept agent w.now deadline).bump }
      task.requester agent task.verifier (· + task.coverage)
    escrow := w.escrow.afterLock taskId agent task.agentBond
    tokens := update w.tokens D.settlementToken token
    stakes := w.stakes.withExposure agent (w.stakes.openBondExposure agent + task.agentBond) }

omit [ERC20SettlementToken τ] in
theorem raiseCover_ok {agent : Address}
    (h : ifCovered task (inManager (increaseRecourseExposure task.requester agent task.verifier
      task.recourseCoverage)) w = .ok (u, w')) :
    w' = { w with
      manager := w.manager.withRecourse task.requester agent task.verifier
        (· + task.coverage) } := by
  obtain ⟨hcovered, hnot⟩ := ifCovered_ok.mp h
  unfold Task.coverage
  split_ifs with hc
  · obtain ⟨m', hm, rfl⟩ := within_ok.mp (hcovered hc)
    obtain ⟨-, -, -, rfl⟩ := (increaseRecourseExposure_ok hc.2).mp hm
    rfl
  · rw [hnot hc]
    simp [withRecourse]

theorem acceptTask_ok (h : acceptTask D sender taskId w = .ok (u, w')) :
    ∃ policy token task w₁, task = w.manager.tasks taskId ∧
      w₁ = afterAccept D w taskId task sender (w.now + policy.submissionWindow.toNat) token ∧
      task.exists_ = true ∧ task.status = .open_ ∧
      w.stakes.canOpenAgentBond sender task.agentBond = some true ∧
      w.policies.getPolicy task.policyId = some policy ∧ CoverageAllowed w task sender ∧
      w.now + policy.submissionWindow.toNat < 2 ^ 64 ∧
      D.manager = w.escrow.manager ∧ D.manager = w.stakes.slashAuthority ∧ taskId ≠ 0 ∧
      sender ≠ 0 ∧ task.agentBond ≠ 0 ∧
      transferFrom D.escrow sender D.escrow task.agentBond (w.tokens D.settlementToken) =
        some token ∧
      (task.Covered → D.isPool task.recoursePool = true ∧
        ∃ s, AgentUnderwriterPool.lockCoverage task.recoursePool ⟨D.manager, w.now⟩ taskId
            task.recourseCoverage (w₁.withPool D task.recoursePool) = .ok (u, s) ∧
          w' = w₁.putPool D task.recoursePool s) ∧
      (¬ task.Covered → w' = w₁) := by
  simp [acceptTask, lockFrom_ok, AgentStakeRegistry.recordOpenBond_ok,
    and_assoc] at h
  obtain ⟨-, -, hexists, hstatus, -, hcapacity, -, -, policy, hpolicy, hallowed, -, hdeadline, -, -,
    u₁, w₂, hraise, hmanager, hid, hsender, hbond, -, token, htransfer, hauthority, -, -, -, h⟩ := h
  obtain rfl := raiseCover_ok hraise
  obtain ⟨hcovered, hnot⟩ := ifCovered_ok.mp h
  refine ⟨policy, token, _, _, rfl, rfl, hexists, hstatus, hcapacity, hpolicy, hallowed, hdeadline,
    hmanager, hauthority, hid, hsender, hbond, htransfer, fun hc => ?_, hnot⟩
  obtain ⟨hpool, hlock⟩ := revertIf_bind_ok.mp (hcovered hc)
  exact ⟨Bool.eq_true_of_not_eq_false hpool, within_ok.mp hlock⟩

/-! ### Challenges -/

theorem challengeTask_ok {commitment : Bytes32}
    (h : challengeTask D sender taskId commitment w = .ok (u, w')) :
    let task := w.manager.tasks taskId
    ∃ token, task.exists_ = true ∧ task.status.isReportBacked = true ∧
      w.now ≤ task.reportedAt + task.disputeWindow ∧ sender ≠ 0 ∧ task.disputeBondQuote ≠ 0 ∧
      transferFrom D.escrow sender D.escrow task.disputeBondQuote (w.tokens D.settlementToken) =
        some token ∧
      w' = { w with
        manager := { w.manager with
          openExposure := w.manager.openExposure + task.disputeBondQuote
          tasks := update w.manager.tasks taskId (task.challenge sender).bump }
        escrow := w.escrow.afterLock taskId sender task.disputeBondQuote
        tokens := update w.tokens D.settlementToken token } := by
  simp [challengeTask, lockFrom_ok, and_assoc, World.putEscrow] at h
  tauto

/-- The world after a challenge was resolved, before the verifier is slashed. -/
def afterResolve (w : World τ) (taskId : Bytes32) (task : Task) (finalStatus : TaskStatus)
    (digest : Bytes32) (recipient : Address) : World τ :=
  { w with
    manager := { w.manager with
      openExposure := w.manager.openExposure - task.disputeBondLocked
      tasks := update w.manager.tasks taskId (task.resolve finalStatus digest).bump }
    escrow := w.escrow.afterRelease taskId recipient task.disputeBondLocked }

theorem resolveChallenge_ok {slashBps : UInt16}
    (h : resolveChallenge D sender taskId reportStatus digest slashBps w = .ok (u, w')) :
    let task := w.manager.tasks taskId
    ∃ status amount overturned recipient, task.exists_ = true ∧ task.status = .challenged ∧
      reportStatus.taskStatus = some status ∧ task.disputeBondLocked ≤ w.manager.openExposure ∧
      slashAmount overturned (w.stakes.stakeOf task.verifier) slashBps = some amount ∧
      task.disputeBondLocked ≤ w.escrow.lockedByTask taskId ∧
      slashPositive D task.verifier amount (afterResolve w taskId task status digest recipient) =
        .ok (u, w') := by
  simp [resolveChallenge, releaseTo_ok, and_assoc] at h
  obtain ⟨-, hexists, hstatus, -, status, hreport, -, hexposure, amount, hamount, -, -, -, -, -,
    hlocked, -, -, hslash⟩ := h
  exact ⟨status, amount, _, _, hexists, hstatus, hreport, hexposure, hamount, hlocked, hslash⟩

/-! ### Settlement -/

section settlement

omit [ERC20SettlementToken τ]

/-- A settlement closes the task, makes payments out of the escrow and ends the recourse. -/
def Settles (D : Deployment) (taskId : Bytes32) (task : Task) (final : TaskStatus)
    (payments : List Payment) (recourse : BondAction τ Unit) (w w' : World τ) : Prop :=
  ∃ w₁ e, closeTask D taskId task final w = .ok ((), w₁) ∧
    payAll ⟨D.manager, w₁.now⟩ taskId payments w₁.escrow = .ok ((), e) ∧
    recourse { w₁ with escrow := e } = .ok ((), w')

variable {env : Env} {amount : ℕ}

theorem releasePositive_ok {account : Address} {e e' : TaskBondEscrow} :
    releasePositive env taskId account amount e = .ok (u, e') ↔
      payAll env taskId (Payment.optional (some account) amount) e = .ok (u, e') := by
  unfold releasePositive Payment.optional
  split_ifs <;> simp [pay]

theorem reservePositive_ok {e e' : TaskBondEscrow} :
    reservePositive env taskId amount e = .ok (u, e') ↔
      payAll env taskId (Payment.optional none amount) e = .ok (u, e') := by
  unfold reservePositive Payment.optional
  split_ifs <;> simp [pay]

/-- The payments out of a slashed bond. -/
def slashPayments (requester verifierShareRecipient : Address) (shares : SlashShares) :
    List Payment :=
  ⟨some requester, shares.toRequester⟩ ::
    (Payment.optional (some verifierShareRecipient) shares.middleShare ++
      Payment.optional none shares.reserveShare)

theorem releaseSlash_ok {requester recipient : Address} {verifierShare : Bool} :
    releaseSlash D taskId requester recipient amount verifierShare w = .ok (u, w') ↔
      ∃ shares e, slashShares amount verifierShare = some shares ∧
        payAll ⟨D.manager, w.now⟩ taskId (slashPayments requester recipient shares) w.escrow =
          .ok ((), e) ∧
        w' = { w with escrow := e } := by
  simp [releaseSlash, slashPayments, pay, releasePositive_ok, reservePositive_ok,
    exists_unit]

end settlement

/-- The payments for a verified task. -/
def verifiedPayments (task : Task) (late : LateShares) : List Payment :=
  Payment.optional (some task.requester) late.requesterLateSlash ++
    (Payment.optional none late.reserveAmount ++
      [⟨some task.agent, task.payout + late.returnedBond⟩,
        ⟨some task.requester, task.requesterCancelBond⟩, ⟨some task.verifier, task.verifierFee⟩])

omit [ERC20SettlementToken τ] in
theorem settleVerified_ok : settleVerified D taskId task w = .ok (u, w') ↔
    ∃ late, lateShares task = some late ∧ task.payout + late.returnedBond < 2 ^ 256 ∧
      Settles D taskId task .settled (verifiedPayments task late) (releaseRecourse D taskId task)
        w w' := by
  simp [settleVerified, Settles, verifiedPayments, releasePositive_ok, reservePositive_ok,
    payAll_append_ok, payAll_cons_ok, payAll_nil_ok, pay, exists_unit, and_assoc]
  tauto

/-- The payments for a failed task. -/
def failedPayments (task : Task) (shares : SlashShares) (feeRecipient : Address) : List Payment :=
  ⟨some task.requester, task.payout + task.requesterCancelBond⟩ ::
    ⟨some feeRecipient, task.verifierFee⟩ :: slashPayments task.requester task.verifier shares

theorem settleFailed_ok : settleFailed D taskId task w = .ok (u, w') ↔
    ∃ shares, slashShares task.agentBond true = some shares ∧
      task.payout + task.requesterCancelBond < 2 ^ 256 ∧
      Settles D taskId task .slashed (failedPayments task shares (feeRecipient task .failed))
        (payRecourseClaim D taskId task task.requester (D.reason "task_failed")) w w' := by
  simp [settleFailed, Settles, failedPayments, releaseSlash_ok,
    payAll_cons_ok, pay, exists_unit, and_assoc]
  tauto

/-- The payments for a task that is refunded. -/
def refundPayments (task : Task) (feeRecipient : Address) : List Payment :=
  [⟨some task.requester, task.payout + task.requesterCancelBond⟩,
    ⟨some task.agent, task.agentBond⟩, ⟨some feeRecipient, task.verifierFee⟩]

omit [ERC20SettlementToken τ] in
theorem settleRefund_ok : settleRefund D taskId task w = .ok (u, w') ↔
    task.payout + task.requesterCancelBond < 2 ^ 256 ∧
      Settles D taskId task .refunded (refundPayments task (feeRecipient task .refunded))
        (releaseRecourse D taskId task) w w' := by
  simp [settleRefund, Settles, refundPayments, payAll_cons_ok, payAll_nil_ok, pay, exists_unit, and_assoc]
  tauto

/-- The payments for a task without evidence. -/
def expiredPayments (task : Task) (shares : SlashShares) : List Payment :=
  ⟨some task.requester, task.requesterHeld⟩ :: slashPayments task.requester task.requester shares

theorem slashExpiredNoSubmission_ok : slashExpiredNoSubmission D taskId w = .ok (u, w') ↔
    ∃ task shares, task = w.manager.tasks taskId ∧ task.exists_ = true ∧
      (task.status = .accepted ∨ task.status = .started) ∧
      task.submissionDeadline + task.graceWindow < 2 ^ 64 ∧ w.now < 2 ^ 64 ∧
      task.submissionDeadline + task.graceWindow < w.now ∧
      slashShares task.agentBond false = some shares ∧ task.requesterHeld < 2 ^ 256 ∧
      Settles D taskId task .slashed (expiredPayments task shares)
        (payRecourseClaim D taskId task task.requester (D.reason "expired_no_submission"))
        w w' := by
  simp [slashExpiredNoSubmission, Settles, expiredPayments, releaseSlash_ok,
    payAll_cons_ok, pay, exists_unit, and_assoc]
  tauto

/-! The payments of every settlement add up to what is locked. -/

section totals

variable {late : LateShares} {amount : ℕ} {verifierShare : Bool} {shares : SlashShares}

theorem total_verified (h : lateShares task = some late) :
    Payment.total (verifiedPayments task late) = task.held := by
  simp only [verifiedPayments, Payment.total_append, Payment.total_optional, Payment.total_cons,
    Payment.total_nil, Task.held, Task.requesterHeld]
  unfold lateShares at h
  split_ifs at h
  · simp [Option.bind_eq_some_iff, -Nat.reducePow] at h
    obtain ⟨-, hbond, -, hslash, rfl⟩ := h
    dsimp only
    omega
  · cases h
    dsimp only
    omega

theorem total_slash
    (h : slashShares amount verifierShare = some shares) (requester recipient : Address) :
    Payment.total (slashPayments requester recipient shares) = amount := by
  simp only [slashPayments, Payment.total_cons, Payment.total_append, Payment.total_optional]
  cases verifierShare with
  | true =>
    simp [slashShares, Option.bind_eq_some_iff, -Nat.reducePow] at h
    obtain ⟨-, -, -, hrequester, hmiddle, hreserve, -, rfl⟩ := h
    dsimp only
    omega
  | false =>
    simp [slashShares, Option.bind_eq_some_iff, -Nat.reducePow] at h
    obtain ⟨-, -, hrequester, hreserve, -, rfl⟩ := h
    dsimp only
    omega

theorem total_failed (h : slashShares task.agentBond true = some shares) (feeRecipient : Address) :
    Payment.total (failedPayments task shares feeRecipient) = task.held := by
  simp only [failedPayments, Payment.total_cons, total_slash h, Task.held, Task.requesterHeld]
  omega

theorem total_refund (feeRecipient : Address) :
    Payment.total (refundPayments task feeRecipient) = task.held := by
  simp only [refundPayments, Payment.total_cons, Payment.total_nil, Task.held, Task.requesterHeld]
  omega

theorem total_expired (h : slashShares task.agentBond false = some shares) :
    Payment.total (expiredPayments task shares) = task.held := by
  simp only [expiredPayments, Payment.total_cons, total_slash h, Task.held]

end totals

/-- The report is final: decided by a resolution, or past its window with its confirmations. -/
def Final (task : Task) (now : ℕ) : Prop :=
  (task.status = .verified ∨ task.status = .failed) ∧ task.challengeResolved = false →
    task.reportedAt + task.disputeWindow < 2 ^ 64 ∧ now < 2 ^ 64 ∧
    task.reportedAt + task.disputeWindow < now ∧
    task.requiredConfirmations ≤ task.reportConfirmations

omit [ERC20SettlementToken τ] in
@[simp] theorem finalityGate_ok : (finalityGate taskId task : BondAction τ Unit) w = .ok (u, w') ↔
    Final task w.now ∧ w' = w := by
  unfold finalityGate Final
  split_ifs with h
  · rw [forall_prop_of_true h]
    simp [and_assoc]
  · rw [forall_prop_of_false h]
    simp

theorem settleByStatus_ok : settleByStatus D taskId task w = .ok (u, w') ↔
    (task.status = .verified ∧ settleVerified D taskId task w = .ok (u, w')) ∨
    (task.status = .failed ∧ settleFailed D taskId task w = .ok (u, w')) ∨
    ((task.status = .unsupported ∨ task.status = .reorged) ∧
      settleRefund D taskId task w = .ok (u, w')) := by
  unfold settleByStatus
  cases task.status <;> simp

theorem settleTask_ok (h : settleTask D taskId w = .ok (u, w')) :
    ∃ task, task = w.manager.tasks taskId ∧ task.exists_ = true ∧
      task.status.isReportBacked = true ∧ Final task w.now ∧
      settleByStatus D taskId task w = .ok (u, w') := by
  simp [settleTask, and_assoc] at h
  obtain ⟨hexists, -, hfinal, hsettle⟩ := h
  refine ⟨_, rfl, hexists, ?_, hfinal, hsettle⟩
  rcases settleByStatus_ok.mp hsettle with ⟨h, -⟩ | ⟨h, -⟩ | ⟨h | h, -⟩ <;> rw [h] <;> rfl

/-! ### The end of recourse -/

/-- The world without the coverage of the task in the recourse ledgers. -/
def lowerRecourse (w : World τ) (task : Task) : World τ :=
  { w with
    manager := w.manager.withRecourse task.requester task.agent task.verifier
      (· - task.recourseCoverage) }

/-- The recourse ledgers contain the coverage of the task. -/
def CanLower (w : World τ) (task : Task) : Prop :=
  task.recourseCoverage ≤ w.manager.recourseCoverageByRequester task.requester ∧
  task.recourseCoverage ≤ w.manager.recourseCoverageByAgent task.agent ∧
  task.recourseCoverage ≤ w.manager.recourseCoverageByVerifier task.verifier

/-- What the pool of a task does when the task ends: a slashed task claims its coverage. -/
inductive PoolEnd (taskId : Bytes32) (task : Task) (env : Env)
    (s s' : WithToken AgentUnderwriterPool τ) : TaskStatus → Prop
  | release {final : TaskStatus} {released : ℕ} (hfinal : final ≠ .slashed)
      (hrelease : AgentUnderwriterPool.releaseForTask env taskId s = .ok (released, s')) :
      PoolEnd taskId task env s s' final
  | claim {recipient : Address} {reason : Bytes32} {paid : ℕ}
      (hclaim : AgentUnderwriterPool.payClaim task.recoursePool env taskId recipient
        task.recourseCoverage reason s = .ok (paid, s')) :
      PoolEnd taskId task env s s' .slashed

/-- The end of the recourse of a task with the status `final`.  The claim is noted in the record. -/
def RecourseEnd (D : Deployment) (taskId : Bytes32) (task : Task) (final : TaskStatus)
    (w w' : World τ) : Prop :=
  (Recoverable task → CanLower w task ∧ D.isPool task.recoursePool = true ∧
    ∃ s, PoolEnd taskId task ⟨D.manager, w.now⟩ (w.withPool D task.recoursePool) s final ∧
      w' = World.putPool D (lowerRecourse { w with manager := { w.manager with
        tasks := update w.manager.tasks taskId (if final = .slashed then
          (w.manager.tasks taskId).payClaim else w.manager.tasks taskId) } } task)
        task.recoursePool s) ∧
  (¬ Recoverable task → w' = w)

theorem RecourseEnd.of_release {final : TaskStatus} (hfinal : final ≠ .slashed)
    (h : releaseRecourse D taskId task w = .ok (u, w')) : RecourseEnd D taskId task final w w' := by
  unfold releaseRecourse at h
  split_ifs at h with hr
  · have hne : task.recourseCoverage ≠ 0 := fun hzero => hr (.inr (.inl hzero))
    simp [decreaseRecourseExposure_ok hne, and_assoc] at h
    obtain ⟨hrequester, hagent, hverifier, hisPool, released, s, hrelease, rfl⟩ := h
    refine ⟨fun _ => ⟨⟨hrequester, hagent, hverifier⟩, hisPool, s, .release hfinal hrelease, ?_⟩,
      fun hnot => absurd hr hnot⟩
    rw [if_neg hfinal, update_eq_self]
    rfl
  · exact ⟨fun hrecoverable => absurd hrecoverable hr, fun _ => (pure_ok.mp h).2⟩

theorem RecourseEnd.of_claim {recipient : Address} {reason : Bytes32}
    (h : payRecourseClaim D taskId task recipient reason w = .ok (u, w')) :
    RecourseEnd D taskId task .slashed w w' := by
  unfold payRecourseClaim at h
  split_ifs at h with hr
  · have hne : task.recourseCoverage ≠ 0 := fun hzero => hr (.inr (.inl hzero))
    simp [decreaseRecourseExposure_ok hne, and_assoc] at h
    obtain ⟨hrequester, hagent, hverifier, hisPool, paid, s, hclaim, rfl⟩ := h
    exact ⟨fun _ => ⟨⟨hrequester, hagent, hverifier⟩, hisPool, s, .claim hclaim, rfl⟩,
      fun hnot => absurd hr hnot⟩
  · exact ⟨fun hrecoverable => absurd hrecoverable hr, fun _ => (pure_ok.mp h).2⟩

end AgentBondManager

end FlowMemory.AgentBonds
