import FlowMemory.AgentBonds.BondSystem

/-! # The life of a task

A call to the manager changes its settings or the record of one task.  A **step** of a task
(`TaskStep`) says how the record changes in each call and what the call has tested.  Everything that
holds of the records in all runs (`Recorded`) follows from the steps. -/

namespace FlowMemory.AgentBonds

open Call ERC20SettlementToken Function

/-! ### Statuses -/

/-- The status of an accepted task that has not ended. -/
def TaskStatus.isBonded : TaskStatus → Bool
  | .accepted => true
  | .started => true
  | .evidenceCommitted => true
  | .verified => true
  | .failed => true
  | .challenged => true
  | .unsupported => true
  | .reorged => true
  | _ => false

variable {status : TaskStatus}

/-- A report-backed status has a bond. -/
theorem isBonded_of_reportBacked (h : status.isReportBacked = true) :
    status.isBonded = true := by
  cases status <;> first | rfl | cases h

/-- The status of a task with a report, disputed or not. -/
def TaskStatus.isReported (status : TaskStatus) : Bool :=
  status.isReportBacked || decide (status = .challenged)

theorem isReported_of_reportBacked (h : status.isReportBacked = true) :
    status.isReported = true := by
  rw [TaskStatus.isReported, h]
  rfl

theorem isBonded_of_terminal (h : status.isTerminal = true) :
    status.isBonded = false := by
  cases status <;> first | rfl | cases h

theorem isReported_of_terminal (h : status.isTerminal = true) :
    status.isReported = false := by
  cases status <;> first | rfl | cases h

/-- Two statuses of which only one is report-backed differ. -/
theorem ne_of_reportBacked {other : TaskStatus} (h : status.isReportBacked = true)
    (hother : other.isReportBacked = false) : status ≠ other := by
  rintro rfl
  rw [h] at hother
  cases hother

theorem isReportBacked_of_taskStatus {report : ReportStatus}
    (h : report.taskStatus = some status) : status.isReportBacked = true := by
  cases report <;> first | cases h; rfl | cases h

/-- The status after the settlement of a report. -/
def TaskStatus.settlement : TaskStatus → TaskStatus
  | .verified => .settled
  | .failed => .slashed
  | _ => .refunded

theorem TaskStatus.isTerminal_settlement (status : TaskStatus) :
    status.settlement.isTerminal = true := by
  cases status <;> rfl

/-- The record of a task that has ended.  A slashed task uses its coverage. -/
def Task.ended (task : Task) (final : TaskStatus) : Task :=
  if final = .slashed ∧ AgentBondManager.Recoverable task then
    (task.withStatus final).bump.payClaim
  else (task.withStatus final).bump

theorem Task.status_ended (task : Task) (final : TaskStatus) :
    (task.ended final).status = final := by
  unfold Task.ended
  split_ifs <;> rfl

/-! ### Steps -/

namespace AgentBondManager

/-- The calls that open a task. -/
def Msg.opens : Msg → Bool
  | .openTask .. => true
  | .openTaskWithRecourse .. => true
  | _ => false

/-- The task that a call names. -/
def Msg.taskId? : Msg → Option Bytes32
  | .settings .. => none
  | .openTask .. => none
  | .openTaskWithRecourse .. => none
  | .cancelOpenTask t => some t
  | .acceptTask t => some t
  | .startTask t => some t
  | .commitEvidence t .. => some t
  | .submitVerifierReport t .. => some t
  | .confirmVerifierReport t .. => some t
  | .challengeTask t .. => some t
  | .resolveChallenge t .. => some t
  | .settleTask t => some t
  | .slashExpiredNoSubmission t => some t

/-- The calls about an accepted task that do not end it. -/
def Msg.works : Msg → Bool
  | .startTask .. => true
  | .commitEvidence .. => true
  | .submitVerifierReport .. => true
  | .confirmVerifierReport .. => true
  | .challengeTask .. => true
  | .resolveChallenge .. => true
  | _ => false

/-- The calls that change nothing but the record and the confirmations. -/
def Msg.quiet : Msg → Bool
  | .startTask .. => true
  | .commitEvidence .. => true
  | .submitVerifierReport .. => true
  | .confirmVerifierReport .. => true
  | _ => false

theorem Msg.works_of_quiet {msg : Msg} (h : msg.quiet = true) : msg.works = true := by
  cases msg <;> first | rfl | cases h

/-- The calls that may slash stake. -/
def Msg.slashes : Msg → Bool
  | .resolveChallenge _ _ _ slashBps => decide (slashBps > 0)
  | _ => false

/-- The calls that count as taking part in a report. -/
def Msg.attests : Msg → Bool
  | .submitVerifierReport .. => true
  | .confirmVerifierReport .. => true
  | _ => false

end AgentBondManager

open AgentBondManager

variable {τ : Type}

/-- How a call of `sender` in the world `w` changes the record of the task `t`. -/
inductive TaskStep (D : Deployment) (w : World τ) (sender : Address) (t : Bytes32) :
    AgentBondManager.Msg → Task → Task → Prop
  | opens {msg : AgentBondManager.Msg} {old : Task} {rootfieldId policyId termsHash : Bytes32}
      {payout : ℕ} {verifier pool : Address} {coverage : ℕ} {policy : TaskPolicy}
      {quote : TaskQuote} (hmsg : msg.opens = true) (hnew : old.exists_ = false) (hid : t ≠ 0)
      (hsender : sender ≠ 0) (hpayout : payout ≠ 0) (hverifier : verifier ≠ 0)
      (hpool : pool = 0 ↔ coverage = 0) (hisPool : pool ≠ 0 → D.isPool pool = true)
      (hpolicy : w.policies.getPolicy policyId = some policy)
      (hquote : w.policies.quote policyId payout = some quote) :
      TaskStep D w sender t msg old (old.opened sender w.now rootfieldId policyId termsHash payout
        verifier pool coverage policy quote).bump
  | cancels {old : Task} (hexists : old.exists_ = true) (hstatus : old.status = .open_)
      (hsender : sender = old.requester) :
      TaskStep D w sender t (.cancelOpenTask t) old (old.withStatus .refunded).bump
  | accepts {old : Task} {policy : TaskPolicy} (hexists : old.exists_ = true)
      (hstatus : old.status = .open_) (hsender : sender ≠ 0) (hbond : old.agentBond ≠ 0)
      (hauthority : w.stakes.slashAuthority = D.manager)
      (hcapacity : w.stakes.canOpenAgentBond sender old.agentBond = some true)
      (hallowed : CoverageAllowed w old sender)
      (hpolicy : w.policies.getPolicy old.policyId = some policy)
      (hdeadline : w.now + policy.submissionWindow.toNat < 2 ^ 64) :
      TaskStep D w sender t (.acceptTask t) old
        (old.accept sender w.now (w.now + policy.submissionWindow.toNat)).bump
  | starts {old : Task} (hexists : old.exists_ = true) (hstatus : old.status = .accepted)
      (hsender : sender = old.agent) :
      TaskStep D w sender t (.startTask t) old (old.withStatus .started).bump
  | commits {old : Task} {evidence availability : Bytes32} {availabilityUntil : UInt64}
      {policy : TaskPolicy} (hexists : old.exists_ = true)
      (hstatus : old.status = .accepted ∨ old.status = .started) (hsender : sender = old.agent)
      (hexpiry : old.submissionDeadline + old.graceWindow < 2 ^ 64)
      (hnow : w.now ≤ old.submissionDeadline + old.graceWindow)
      (hpolicy : w.policies.getPolicy old.policyId = some policy)
      (havailable : w.now + policy.minAvailabilityWindow.toNat ≤ availabilityUntil.toNat) :
      TaskStep D w sender t (.commitEvidence t evidence availability availabilityUntil) old
        (old.commit evidence availability availabilityUntil.toNat w.now).bump
  | reports {old : Task} {reportId digest : Bytes32} {reportStatus : ReportStatus}
      {status : TaskStatus} (hexists : old.exists_ = true) (hstatus : old.status = .evidenceCommitted)
      (hsender : sender = old.verifier)
      (havailable : w.now + old.disputeWindow ≤ old.evidenceAvailabilityUntil)
      (hreport : reportStatus.taskStatus = some status) :
      TaskStep D w sender t (.submitVerifierReport t reportId reportStatus digest) old
        (old.report reportId digest w.now status).bump
  | confirms {old : Task} {digest : Bytes32} {reportStatus : ReportStatus}
      (hexists : old.exists_ = true) (hstatus : old.status.isReportBacked = true)
      (heligible : w.stakes.isVerifierEligible sender = true)
      (hnew : w.manager.reportConfirmedBy t sender = false)
      (hnow : w.now ≤ old.reportedAt + old.disputeWindow)
      (hreport : reportStatus.taskStatus = some old.status) (hdigest : old.reportDigest = digest) :
      TaskStep D w sender t (.confirmVerifierReport t reportStatus digest) old old.confirm
  | challenges {old : Task} {commitment : Bytes32} (hexists : old.exists_ = true)
      (hstatus : old.status.isReportBacked = true) (hsender : sender ≠ 0)
      (hbond : old.disputeBondQuote ≠ 0) (hnow : w.now ≤ old.reportedAt + old.disputeWindow) :
      TaskStep D w sender t (.challengeTask t commitment) old (old.challenge sender).bump
  | resolves {old : Task} {reportStatus : ReportStatus} {digest : Bytes32} {slashBps : UInt16}
      {status : TaskStatus} (hexists : old.exists_ = true) (hstatus : old.status = .challenged)
      (hreport : reportStatus.taskStatus = some status) :
      TaskStep D w sender t (.resolveChallenge t reportStatus digest slashBps) old
        (old.resolve status digest).bump
  | settles {old : Task} (hexists : old.exists_ = true) (hstatus : old.status.isReportBacked = true)
      (hfinal : Final old w.now) :
      TaskStep D w sender t (.settleTask t) old (old.ended old.status.settlement)
  | expires {old : Task} (hexists : old.exists_ = true)
      (hstatus : old.status = .accepted ∨ old.status = .started)
      (hexpiry : old.submissionDeadline + old.graceWindow < 2 ^ 64) (hclock : w.now < 2 ^ 64)
      (hnow : old.submissionDeadline + old.graceWindow < w.now) :
      TaskStep D w sender t (.slashExpiredNoSubmission t) old (old.ended .slashed)

/-- What a call about the task `t` leaves alone. -/
structure StepFrame (sender : Address) (msg : AgentBondManager.Msg) (t : Bytes32)
    (w w' : World τ) : Prop where
  confirmedBy : w'.manager.reportConfirmedBy = if msg.attests = true then
    update w.manager.reportConfirmedBy t
      (update (w.manager.reportConfirmedBy t) sender true)
    else w.manager.reportConfirmedBy
  settings : w'.manager.settings = w.manager.settings
  policies : w'.policies = w.policies
  now : w'.now = w.now
  quiet : msg.quiet = true → w' = { w with
    manager := { w.manager with
      tasks := w'.manager.tasks, reportConfirmedBy := w'.manager.reportConfirmedBy } }
  pools : msg.works = true → w'.pools = w.pools
  rules : w.stakes.SameRules w'.stakes
  stakeOf : w'.stakes.slashedStake = w.stakes.slashedStake → w'.stakes.stakeOf = w.stakes.stakeOf
  slashedStake : msg.slashes = false → w'.stakes.slashedStake = w.stakes.slashedStake

/-- A call to the manager about the task `t`. -/
structure ManagerStep (D : Deployment) (sender : Address) (msg : AgentBondManager.Msg)
    (w w' : World τ) (t : Bytes32) : Prop extends StepFrame sender msg t w w' where
  step : TaskStep D w sender t msg (w.manager.tasks t) (w'.manager.tasks t)
  tasks : w'.manager.tasks = update w.manager.tasks t (w'.manager.tasks t)

section steps

variable {D : Deployment} {sender : Address} {w w' : World τ} {t : Bytes32} {u : Unit}
  {task : Task} {digest : Bytes32} {reportStatus : ReportStatus} {final : TaskStatus}

/-- A step is about the new record. -/
theorem ManagerStep.of_update {msg : AgentBondManager.Msg} {new : Task}
    (htasks : w'.manager.tasks = update w.manager.tasks t new)
    (hstep : TaskStep D w sender t msg (w.manager.tasks t) new)
    (hframe : StepFrame sender msg t w w') : ManagerStep D sender msg w w' t := by
  have hself : w'.manager.tasks t = new := by rw [htasks, update_self]
  exact { hframe with
    step := by rw [hself]; exact hstep
    tasks := by rw [hself, htasks] }

theorem ManagerStep.opens [ERC20SettlementToken τ] {msg : AgentBondManager.Msg}
    (hmsg : msg.opens = true)
    {rootfieldId policyId termsHash : Bytes32} {payout : ℕ} {verifier pool : Address} {coverage : ℕ}
    (h : openTaskWithRecourse D sender rootfieldId policyId termsHash payout verifier pool coverage
      w = .ok (t, w')) : ManagerStep D sender msg w w' t := by
  obtain ⟨policy, quote, token, task, rfl, hpayout, hverifier, hpool, hisPool, hpolicy, hquote, hnew,
    hid, hsender, -, rfl⟩ := openTaskWithRecourse_ok h
  refine .of_update rfl (.opens hmsg hnew hid hsender hpayout hverifier hpool hisPool hpolicy hquote)
    ⟨?_, rfl, rfl, rfl, ?_, ?_, .refl _, fun _ => rfl, fun _ => rfl⟩
  all_goals cases msg <;> first | rfl | (intro h; cases h; done) | cases hmsg

theorem ManagerStep.cancels (h : cancelOpenTask D sender t w = .ok (u, w')) :
    ManagerStep D sender (.cancelOpenTask t) w w' t := by
  obtain ⟨hexists, hsender, hstatus, -, -, -, rfl⟩ := cancelOpenTask_ok h
  exact .of_update rfl (.cancels hexists hstatus hsender)
    ⟨rfl, rfl, rfl, rfl, nofun, nofun, .refl _, fun _ => rfl, fun _ => rfl⟩

theorem ManagerStep.accepts [ERC20SettlementToken τ] (h : acceptTask D sender t w = .ok (u, w')) :
    ManagerStep D sender (.acceptTask t) w w' t := by
  obtain ⟨policy, token, task, w₁, rfl, rfl, hexists, hstatus, hcapacity, hpolicy, hallowed,
    hdeadline, -, hauthority, -, hsender, hbond, -, hcovered, hnot⟩ := acceptTask_ok h
  have hstep : TaskStep D w sender t (.acceptTask t) (w.manager.tasks t) _ :=
    .accepts hexists hstatus hsender hbond hauthority.symm hcapacity hallowed hpolicy hdeadline
  by_cases hc : (w.manager.tasks t).Covered
  · obtain ⟨-, s, -, rfl⟩ := hcovered hc
    exact .of_update rfl hstep
      ⟨rfl, rfl, rfl, rfl, nofun, nofun, ⟨rfl, rfl, rfl, rfl, rfl⟩, fun _ => rfl, fun _ => rfl⟩
  · rw [hnot hc]
    exact .of_update rfl hstep
      ⟨rfl, rfl, rfl, rfl, nofun, nofun, ⟨rfl, rfl, rfl, rfl, rfl⟩, fun _ => rfl, fun _ => rfl⟩

theorem ManagerStep.starts (h : (startTask sender t : BondAction τ Unit) w = .ok (u, w')) :
    ManagerStep D sender (.startTask t) w w' t := by
  simp [startTask] at h
  obtain ⟨-, hexists, hsender, hstatus, -, rfl⟩ := h
  exact .of_update rfl (.starts hexists hstatus hsender)
    ⟨rfl, rfl, rfl, rfl, fun _ => rfl, fun _ => rfl, .refl _, fun _ => rfl, fun _ => rfl⟩

theorem ManagerStep.commits {evidence availability : Bytes32} {availabilityUntil : UInt64}
    (h : (commitEvidence sender t evidence availability availabilityUntil : BondAction τ Unit) w =
      .ok (u, w')) :
    ManagerStep D sender (.commitEvidence t evidence availability availabilityUntil) w w' t := by
  simp [commitEvidence, -Nat.reducePow] at h
  obtain ⟨-, hexists, hsender, hstatus, -, -, -, hexpiry, hnow, policy, hpolicy, havailable, -,
    rfl⟩ := h
  exact .of_update rfl
    (.commits hexists (or_iff_not_imp_left.mpr hstatus) hsender hexpiry hnow hpolicy havailable)
    ⟨rfl, rfl, rfl, rfl, fun _ => rfl, fun _ => rfl, .refl _, fun _ => rfl, fun _ => rfl⟩

theorem ManagerStep.reports {reportId : Bytes32}
    (h : (submitVerifierReport sender t reportId reportStatus digest : BondAction τ Unit) w =
      .ok (u, w')) :
    ManagerStep D sender (.submitVerifierReport t reportId reportStatus digest) w w' t := by
  simp [submitVerifierReport, setConfirmed] at h
  obtain ⟨hexists, hstatus, hsender, -, -, -, status, hreport, -, havailable, -, rfl⟩ := h
  exact .of_update rfl (.reports hexists hstatus hsender havailable hreport)
    ⟨rfl, rfl, rfl, rfl, fun _ => rfl, fun _ => rfl, .refl _, fun _ => rfl, fun _ => rfl⟩

theorem ManagerStep.confirms
    (h : (confirmVerifierReport sender t reportStatus digest : BondAction τ Unit) w =
      .ok (u, w')) :
    ManagerStep D sender (.confirmVerifierReport t reportStatus digest) w w' t := by
  simp [confirmVerifierReport, setConfirmed] at h
  obtain ⟨hexists, hstatus, -, heligible, hnew, -, -, hnow, hreport, hdigest, -, rfl⟩ := h
  exact .of_update rfl (.confirms hexists hstatus heligible hnew hnow hreport hdigest)
    ⟨rfl, rfl, rfl, rfl, fun _ => rfl, fun _ => rfl, .refl _, fun _ => rfl, fun _ => rfl⟩

theorem ManagerStep.challenges [ERC20SettlementToken τ] {commitment : Bytes32}
    (h : challengeTask D sender t commitment w = .ok (u, w')) :
    ManagerStep D sender (.challengeTask t commitment) w w' t := by
  obtain ⟨token, hexists, hstatus, hnow, hsender, hbond, -, rfl⟩ := challengeTask_ok h
  exact .of_update rfl (.challenges hexists hstatus hsender hbond hnow)
    ⟨rfl, rfl, rfl, rfl, nofun, fun _ => rfl, .refl _, fun _ => rfl, fun _ => rfl⟩

/-- Slashing stake touches only stakes and the stake token. -/
theorem slashPositive_frame [ERC20SettlementToken τ] {account : Address} {amount : ℕ}
    (h : slashPositive D account amount w = .ok (u, w')) :
    ∃ s token, w' = { w with
        stakes := s, tokens := update w.tokens D.stakeToken token } ∧
      s.openBondExposure = w.stakes.openBondExposure ∧ w.stakes.SameRules s ∧
      (s.slashedStake = w.stakes.slashedStake → s.stakeOf = w.stakes.stakeOf) ∧
      (amount = 0 → s.slashedStake = w.stakes.slashedStake) ∧
      ∀ caller, TokenCall D.stakeRegistry caller (w.tokens D.stakeToken) token := by
  unfold slashPositive at h
  split_ifs at h with hpos
  · obtain ⟨s, hs, rfl⟩ := within_ok.mp h
    obtain ⟨-, -, -, -, -, token, htransfer, rfl⟩ := AgentStakeRegistry.slashStake_ok.mp hs
    refine ⟨_, token, rfl, rfl, ⟨rfl, rfl, rfl, rfl, rfl⟩, fun hsame => ?_,
      fun hzero => absurd hzero hpos.ne', fun _ => .push htransfer⟩
    have hslashed := congrFun hsame account
    simp only [AgentStakeRegistry.afterSlash, update_self, World.withStakes] at hslashed
    omega
  · obtain ⟨-, rfl⟩ := pure_ok.mp h
    exact ⟨_, w'.tokens D.stakeToken, by rw [update_eq_self], rfl, .refl _, fun _ => rfl,
      fun _ => rfl, fun _ => .none rfl⟩

theorem ManagerStep.resolves [ERC20SettlementToken τ] {slashBps : UInt16}
    (h : resolveChallenge D sender t reportStatus digest slashBps w = .ok (u, w')) :
    ManagerStep D sender (.resolveChallenge t reportStatus digest slashBps) w w' t := by
  obtain ⟨status, amount, overturned, recipient, hexists, hstatus, hreport, -, hamount, -, hslash⟩ :=
    resolveChallenge_ok h
  obtain ⟨s, token, rfl, -, hrules, hstakes, hslashed, -⟩ := slashPositive_frame hslash
  refine .of_update rfl (.resolves hexists hstatus hreport)
    ⟨rfl, rfl, rfl, rfl, nofun, fun _ => rfl, hrules, hstakes, fun hslashes => hslashed ?_⟩
  have hzero : ¬ slashBps > 0 := of_decide_eq_false hslashes
  simp only [slashAmount, hzero, and_false, if_false, Option.some.injEq] at hamount
  exact hamount.symm

/-! ### The end of a task -/

/-- The world after a task was closed and the tokens were paid out of the escrow. -/
def afterClose (w : World τ) (t : Bytes32) (final : TaskStatus) (e : TaskBondEscrow) : World τ :=
  { w with
    manager := { w.manager with
      openExposure := w.manager.openExposure - (w.manager.tasks t).held
      openTaskCount := w.manager.openTaskCount - 1
      tasks := update w.manager.tasks t ((w.manager.tasks t).withStatus final).bump }
    stakes := w.stakes.withExposure (w.manager.tasks t).agent
      (w.stakes.openBondExposure (w.manager.tasks t).agent - (w.manager.tasks t).agentBond)
    escrow := e }

/-- What the end of recourse does to the records. -/
structure RecourseFrame (t : Bytes32) (new : Task) (w w' : World τ) : Prop where
  tasks : w'.manager.tasks = update w.manager.tasks t new
  confirmedBy : w'.manager.reportConfirmedBy = w.manager.reportConfirmedBy
  settings : w'.manager.settings = w.manager.settings
  openExposure : w'.manager.openExposure = w.manager.openExposure
  openTaskCount : w'.manager.openTaskCount = w.manager.openTaskCount
  escrow : w'.escrow = w.escrow
  stakes : w'.stakes = w.stakes
  policies : w'.policies = w.policies
  now : w'.now = w.now

variable [ERC20SettlementToken τ]

/-- A call has ended a task with a bond: all that is held for it is paid out, and its recourse
ends. -/
structure TaskEnd (D : Deployment) (t : Bytes32) (final : TaskStatus) (w w' : World τ) :
    Prop where
  exists_ : (w.manager.tasks t).exists_ = true
  bonded : (w.manager.tasks t).status.isBonded = true
  unchallenged : (w.manager.tasks t).status ≠ .challenged
  terminal : final.isTerminal = true
  exposure : (w.manager.tasks t).held ≤ w.manager.openExposure
  count : 1 ≤ w.manager.openTaskCount
  bond : (w.manager.tasks t).agentBond ≤ w.stakes.openBondExposure (w.manager.tasks t).agent
  ended : ∃ e, w.escrow.Distributed e t (w.manager.tasks t).held ∧
    RecourseEnd D t (w.manager.tasks t) final (afterClose w t final e) w'

theorem TaskEnd.of_settles {payments : List TaskBondEscrow.Payment} {recourse : BondAction τ Unit}
    (hexists : (w.manager.tasks t).exists_ = true)
    (hbonded : (w.manager.tasks t).status.isBonded = true)
    (hne : (w.manager.tasks t).status ≠ .challenged) (hfinal : final.isTerminal = true)
    (htotal : TaskBondEscrow.Payment.total payments = (w.manager.tasks t).held)
    (hrecourse : ∀ {w₁ w₂}, recourse w₁ = .ok ((), w₂) →
      RecourseEnd D t (w.manager.tasks t) final w₁ w₂)
    (h : Settles D t (w.manager.tasks t) final payments recourse w w') : TaskEnd D t final w w' := by
  obtain ⟨w₁, e, hclose, hpay, hend⟩ := h
  simp [closeTask, AgentStakeRegistry.recordClosedBond_ok, -Nat.reducePow] at hclose
  obtain ⟨-, hexposure, hcount, -, ⟨-, -, -, hbond⟩, rfl⟩ := hclose
  obtain ⟨hdistributed, -⟩ := TaskBondEscrow.payAll_distributed hpay
  rw [htotal] at hdistributed
  exact ⟨hexists, hbonded, hne, hfinal, hexposure, hcount, hbond, e, hdistributed, hrecourse hend⟩

theorem TaskEnd.settles (h : settleTask D t w = .ok (u, w')) :
    TaskEnd D t (w.manager.tasks t).status.settlement w w' := by
  obtain ⟨task, rfl, hexists, hbacked, -, hsettle⟩ := settleTask_ok h
  have hbonded := isBonded_of_reportBacked hbacked
  have hne : _ ≠ TaskStatus.challenged := ne_of_reportBacked hbacked rfl
  rcases settleByStatus_ok.mp hsettle with ⟨hstatus, hsettle⟩ | ⟨hstatus, hsettle⟩ |
    ⟨hstatus, hsettle⟩
  · obtain ⟨late, hlate, -, hsettles⟩ := settleVerified_ok.mp hsettle
    have hfinal : (w.manager.tasks t).status.settlement = .settled := by rw [hstatus]; rfl
    rw [hfinal]
    exact .of_settles hexists hbonded hne rfl (total_verified hlate) (.of_release nofun) hsettles
  · obtain ⟨shares, hshares, -, hsettles⟩ := settleFailed_ok.mp hsettle
    have hfinal : (w.manager.tasks t).status.settlement = .slashed := by rw [hstatus]; rfl
    rw [hfinal]
    exact .of_settles hexists hbonded hne rfl (total_failed hshares _) .of_claim hsettles
  · obtain ⟨-, hsettles⟩ := settleRefund_ok.mp hsettle
    have hfinal : (w.manager.tasks t).status.settlement = .refunded := by
      rcases hstatus with h | h <;> rw [h] <;> rfl
    rw [hfinal]
    exact .of_settles hexists hbonded hne rfl (total_refund _) (.of_release nofun) hsettles

theorem TaskEnd.expires (h : slashExpiredNoSubmission D t w = .ok (u, w')) :
    TaskEnd D t .slashed w w' := by
  obtain ⟨task, shares, rfl, hexists, hstatus, -, -, -, hshares, -, hsettles⟩ :=
    slashExpiredNoSubmission_ok.mp h
  refine .of_settles hexists ?_ ?_ rfl (total_expired hshares) .of_claim hsettles
  · rcases hstatus with h | h <;> rw [h] <;> rfl
  · rcases hstatus with h | h <;> rw [h] <;> decide

/-- The record after the end of recourse is that of a task that has ended. -/
theorem AgentBondManager.RecourseEnd.frame (hw : w.manager.tasks t = (task.withStatus final).bump)
    (h : RecourseEnd D t task final w w') : RecourseFrame t (task.ended final) w w' := by
  unfold Task.ended
  rw [← hw]
  by_cases hr : Recoverable task
  · obtain ⟨-, -, s, -, rfl⟩ := h.1 hr
    simp only [hr, and_true]
    exact ⟨rfl, rfl, rfl, rfl, rfl, rfl, rfl, rfl, rfl⟩
  · rw [h.2 hr, if_neg fun hslashed => hr hslashed.2]
    exact ⟨(update_eq_self ..).symm, rfl, rfl, rfl, rfl, rfl, rfl, rfl, rfl⟩

theorem TaskEnd.tasks (h : TaskEnd D t final w w') :
    w'.manager.tasks = update w.manager.tasks t ((w.manager.tasks t).ended final) := by
  obtain ⟨e, -, hend⟩ := h.ended
  exact (hend.frame (update_self ..)).tasks.trans (update_idem ..)

/-- The records after the end of a task. -/
theorem ManagerStep.ends {msg : AgentBondManager.Msg} (hattests : msg.attests = false)
    (hworks : msg.works = false)
    (hstep : TaskStep D w sender t msg (w.manager.tasks t) ((w.manager.tasks t).ended final))
    (h : TaskEnd D t final w w') : ManagerStep D sender msg w w' t := by
  obtain ⟨e, -, hend⟩ := h.ended
  have hframe := hend.frame (update_self ..)
  refine .of_update h.tasks hstep ⟨?_, hframe.settings, hframe.policies, hframe.now,
    fun hquiet => ?_, by simp [hworks], ?_, fun _ => ?_, fun _ => ?_⟩
  · rw [hframe.confirmedBy, hattests]
    rfl
  · rw [Msg.works_of_quiet hquiet] at hworks
    cases hworks
  all_goals rw [hframe.stakes]
  · exact ⟨rfl, rfl, rfl, rfl, rfl⟩
  all_goals rfl

theorem ManagerStep.settles (h : settleTask D t w = .ok (u, w')) :
    ManagerStep D sender (.settleTask t) w w' t := by
  obtain ⟨task, rfl, hexists, hbacked, hfinal, -⟩ := settleTask_ok h
  exact .ends rfl rfl (.settles hexists hbacked hfinal) (.settles h)

theorem ManagerStep.expires (h : slashExpiredNoSubmission D t w = .ok (u, w')) :
    ManagerStep D sender (.slashExpiredNoSubmission t) w w' t := by
  obtain ⟨task, shares, rfl, hexists, hstatus, hexpiry, hclock, hnow, -⟩ :=
    slashExpiredNoSubmission_ok.mp h
  exact .ends rfl rfl (.expires hexists hstatus hexpiry hclock hnow) (.expires h)

/-- A call to the manager changes its settings or the record of one task. -/
theorem managerStep_of_call {msg : AgentBondManager.Msg}
    (h : AgentBondManager.call D sender msg w = .ok (u, w')) :
    (∃ smsg s, msg = .settings smsg ∧
      ManagerSettings.call ⟨sender, w.now⟩ smsg w.manager.settings = .ok (u, s) ∧
      w' = { w with manager := { w.manager with settings := s } }) ∨
    ∃ t, ManagerStep D sender msg w w' t := by
  cases msg with
  | settings smsg =>
    simp [AgentBondManager.call] at h
    obtain ⟨s, hs, rfl⟩ := h
    exact .inl ⟨smsg, s, rfl, hs, rfl⟩
  | openTask rootfieldId policyId termsHash payout verifier
  | openTaskWithRecourse rootfieldId policyId termsHash payout verifier pool coverage =>
    obtain ⟨t, w₁, hopen, hw⟩ := bind_ok.mp h
    obtain ⟨-, rfl⟩ := pure_ok.mp hw
    exact .inr ⟨t, .opens rfl hopen⟩
  | cancelOpenTask t => exact .inr ⟨t, .cancels h⟩
  | acceptTask t => exact .inr ⟨t, .accepts h⟩
  | startTask t => exact .inr ⟨t, .starts h⟩
  | commitEvidence t evidence availability availabilityUntil => exact .inr ⟨t, .commits h⟩
  | submitVerifierReport t reportId status digest => exact .inr ⟨t, .reports h⟩
  | confirmVerifierReport t status digest => exact .inr ⟨t, .confirms h⟩
  | challengeTask t commitment => exact .inr ⟨t, .challenges h⟩
  | resolveChallenge t status digest slashBps => exact .inr ⟨t, .resolves h⟩
  | settleTask t => exact .inr ⟨t, .settles h⟩
  | slashExpiredNoSubmission t => exact .inr ⟨t, .expires h⟩

end steps

/-! ### What holds of every record -/

/-- The terms of a task that never change after it was opened. -/
structure SameTerms (old new : Task) : Prop where
  exists_ : new.exists_ = old.exists_
  requester : new.requester = old.requester
  verifier : new.verifier = old.verifier
  policyId : new.policyId = old.policyId
  payout : new.payout = old.payout
  agentBond : new.agentBond = old.agentBond
  verifierFee : new.verifierFee = old.verifierFee
  requesterCancelBond : new.requesterCancelBond = old.requesterCancelBond
  disputeBondQuote : new.disputeBondQuote = old.disputeBondQuote
  recoursePool : new.recoursePool = old.recoursePool
  recourseCoverage : new.recourseCoverage = old.recourseCoverage
  disputeWindow : new.disputeWindow = old.disputeWindow
  graceWindow : new.graceWindow = old.graceWindow
  requiredConfirmations : new.requiredConfirmations = old.requiredConfirmations

section records

variable {D : Deployment} {sender : Address} {w : World τ} {t : Bytes32}
  {msg : AgentBondManager.Msg} {old new : Task} {policies : TaskPolicyRegistry}

theorem SameTerms.ended (old : Task) (final : TaskStatus) : SameTerms old (old.ended final) := by
  unfold Task.ended
  split_ifs <;> constructor <;> rfl

/-- A call changes the task that it names. -/
theorem TaskStep.eq_of_names (h : TaskStep D w sender t msg old new) {t' : Bytes32}
    (hnames : msg.taskId? = some t') : t' = t := by
  cases h with
  | opens hopens => cases msg <;> first | cases hnames; done | cases hopens
  | _ => exact (Option.some.inj hnames).symm

/-- A task keeps its terms. -/
theorem TaskStep.terms (h : TaskStep D w sender t msg old new) (hexists : old.exists_ = true) :
    SameTerms old new := by
  cases h
  case opens hnew => rw [hnew] at hexists; cases hexists
  case settles => exact .ended ..
  case expires => exact .ended ..
  all_goals constructor <;> rfl

/-- Work on a task keeps it accepted. -/
theorem TaskStep.bonded_of_works (h : TaskStep D w sender t msg old new) (hmsg : msg.works = true) :
    old.exists_ = true ∧ old.status.isBonded = true ∧ new.status.isBonded = true := by
  cases h with
  | opens hopens => cases msg <;> first | cases hmsg; done | cases hopens
  | starts hexists hstatus => exact ⟨hexists, by rw [hstatus]; rfl, rfl⟩
  | commits hexists hstatus =>
    exact ⟨hexists, by rcases hstatus with h | h <;> rw [h] <;> rfl, rfl⟩
  | reports hexists hstatus hsender havailable hreport =>
    exact ⟨hexists, by rw [hstatus]; rfl,
      isBonded_of_reportBacked (isReportBacked_of_taskStatus hreport)⟩
  | confirms hexists hstatus =>
    have hbonded := isBonded_of_reportBacked hstatus
    exact ⟨hexists, hbonded, hbonded⟩
  | challenges hexists hstatus => exact ⟨hexists, isBonded_of_reportBacked hstatus, rfl⟩
  | resolves hexists hstatus hreport =>
    exact ⟨hexists, by rw [hstatus]; rfl,
      isBonded_of_reportBacked (isReportBacked_of_taskStatus hreport)⟩
  | _ => cases hmsg

/-- The agent who accepts a task has the capacity for its bond. -/
theorem TaskStep.accepted (h : TaskStep D w sender t (.acceptTask t) old new) :
    old.exists_ = true ∧ old.status = .open_ ∧ new.status = .accepted ∧
      w.stakes.slashAuthority = D.manager ∧ new.agent = sender ∧
      w.stakes.canOpenAgentBond sender old.agentBond = some true := by
  cases h with
  | opens hopens => cases hopens
  | accepts hexists hstatus hsender hbond hauthority hcapacity =>
    exact ⟨hexists, hstatus, rfl, hauthority, rfl, hcapacity⟩

theorem TaskStep.cancelled (h : TaskStep D w sender t (.cancelOpenTask t) old new) :
    old.status = .open_ ∧ new = (old.withStatus .refunded).bump := by
  cases h with
  | opens hopens => cases hopens
  | cancels hexists hstatus => exact ⟨hstatus, rfl⟩

/-- A task with a bond was accepted by this call or was accepted before. -/
theorem TaskStep.bonded_cases (h : TaskStep D w sender t msg old new)
    (hnew : new.status.isBonded = true) : msg = .acceptTask t ∨
      old.exists_ = true ∧ old.status.isBonded = true ∧ new.agent = old.agent := by
  have hworks (hmsg : msg.works = true) (hagent : new.agent = old.agent) :
      old.exists_ = true ∧ old.status.isBonded = true ∧ new.agent = old.agent := by
    obtain ⟨hexists, hold, -⟩ := h.bonded_of_works hmsg
    exact ⟨hexists, hold, hagent⟩
  cases h with
  | opens | cancels => cases hnew
  | accepts => exact .inl rfl
  | starts | commits | reports | confirms | challenges | resolves => exact .inr (hworks rfl rfl)
  | settles =>
    rw [Task.status_ended, isBonded_of_terminal (TaskStatus.isTerminal_settlement _)] at hnew
    cases hnew
  | expires =>
    rw [Task.status_ended] at hnew
    cases hnew

theorem TaskStep.settled (h : TaskStep D w sender t (.settleTask t) old new) :
    old.exists_ = true ∧ old.status.isReportBacked = true ∧ Final old w.now ∧
      new = old.ended old.status.settlement := by
  cases h with
  | opens hopens => cases hopens
  | settles hexists hstatus hfinal => exact ⟨hexists, hstatus, hfinal, rfl⟩

theorem TaskStep.expired (h : TaskStep D w sender t (.slashExpiredNoSubmission t) old new) :
    old.exists_ = true ∧ (old.status = .accepted ∨ old.status = .started) ∧
      new = old.ended .slashed := by
  cases h with
  | opens hopens => cases hopens
  | expires hexists hstatus => exact ⟨hexists, hstatus, rfl⟩

/-- The calls that end a task. -/
theorem TaskStep.ended_cases (h : TaskStep D w sender t msg old new)
    (hnew : new.status.isTerminal = true) :
    msg = .cancelOpenTask t ∨ msg = .settleTask t ∨ msg = .slashExpiredNoSubmission t := by
  have hworks (hmsg : msg.works = true) : False := by
    have hbonded := (h.bonded_of_works hmsg).2.2
    rw [isBonded_of_terminal hnew] at hbonded
    cases hbonded
  cases h with
  | opens | accepts => cases hnew
  | cancels => exact .inl rfl
  | starts | commits | reports | confirms | challenges | resolves => exact (hworks rfl).elim
  | settles => exact .inr (.inl rfl)
  | expires => exact .inr (.inr rfl)

/-- A task with a report ends by its settlement. -/
theorem TaskStep.settles_of_ended (h : TaskStep D w sender t msg old new)
    (hold : old.status.isReportBacked = true) (hnew : new.status.isTerminal = true) :
    msg = .settleTask t ∧ Final old w.now := by
  rcases h.ended_cases hnew with rfl | rfl | rfl
  · exact absurd h.cancelled.1 (ne_of_reportBacked hold rfl)
  · exact ⟨rfl, h.settled.2.2.1⟩
  · exact h.expired.2.1.elim (fun hs => absurd hs (ne_of_reportBacked hold rfl))
      fun hs => absurd hs (ne_of_reportBacked hold rfl)

/-- What is true of a task that was opened. -/
structure Opened (D : Deployment) (policies : TaskPolicyRegistry) (t : Bytes32) (task : Task) :
    Prop where
  id : t ≠ 0
  requester : task.requester ≠ 0
  verifier : task.verifier ≠ 0
  payout : task.payout ≠ 0
  covered : task.recoursePool = 0 ↔ task.recourseCoverage = 0
  isPool : task.recoursePool ≠ 0 → D.isPool task.recoursePool = true
  quoted : policies.quote task.policyId task.payout =
    some ⟨task.agentBond, task.verifierFee, task.requesterCancelBond, task.disputeBondQuote⟩
  confirmations : task.requiredConfirmations < 2 ^ 8

theorem Opened.of_sameTerms (h : Opened D policies t old)
    (hterms : SameTerms old new) : Opened D policies t new := by
  obtain ⟨hid, hrequester, hverifier, hpayout, hcovered, hisPool, hquoted, hconfirmations⟩ := h
  rw [← hterms.requester] at hrequester
  rw [← hterms.verifier] at hverifier
  rw [← hterms.recoursePool] at hcovered hisPool
  rw [← hterms.recourseCoverage] at hcovered
  rw [← hterms.payout] at hpayout hquoted
  rw [← hterms.policyId, ← hterms.agentBond, ← hterms.verifierFee, ← hterms.requesterCancelBond,
    ← hterms.disputeBondQuote] at hquoted
  rw [← hterms.requiredConfirmations] at hconfirmations
  exact ⟨hid, hrequester, hverifier, hpayout, hcovered, hisPool, hquoted, hconfirmations⟩

/-- What is true of the record of the task `t`. -/
structure Recorded (D : Deployment) (policies : TaskPolicyRegistry) (t : Bytes32) (task : Task) :
    Prop where
  empty : task.exists_ = false → task = .empty
  known : task.exists_ = true → task.status ≠ .unknown
  opened : task.exists_ = true → Opened D policies t task
  unaccepted : task.status = .open_ → task.agent = 0
  bonded : task.status.isBonded = true → task.agent ≠ 0 ∧ task.agentBond ≠ 0
  unpaid : task.status ≠ .slashed → task.recourseClaimPaid = false
  reported : task.status.isReported = true → task.reportedAt + task.disputeWindow < 2 ^ 64
  available : task.evidenceAvailabilityUntil < 2 ^ 64
  challenged : task.status = .challenged → task.challenger ≠ 0 ∧ task.disputeBondLocked ≠ 0

/-- A record with something in it is the record of a task. -/
theorem Recorded.exists_of_ne {task : Task} {α : Type}
    (h : Recorded D policies t task) (f : Task → α) (hne : f task ≠ f .empty) :
    task.exists_ = true := by
  by_contra hnot
  exact hne (congrArg f (h.empty (Bool.eq_false_of_not_eq_true hnot)))

theorem Recorded.exists_of_bonded {task : Task}
    (h : Recorded D policies t task) (hbonded : task.status.isBonded = true) :
    task.exists_ = true :=
  h.exists_of_ne (·.status.isBonded) (by rw [hbonded]; exact Bool.noConfusion)

theorem Recorded.of_empty (policies : TaskPolicyRegistry) : Recorded D policies t .empty := by
  constructor <;> simp [Task.empty, TaskStatus.isBonded, TaskStatus.isReported,
    TaskStatus.isReportBacked]

/-- A task that has ended stays as it is. -/
theorem TaskStep.not_terminal (h : TaskStep D w sender t msg old new)
    (hold : Recorded D policies t old) : old.status.isTerminal = false := by
  have hbacked (hstatus : old.status.isReportBacked = true) : old.status.isTerminal = false := by
    cases hs : old.status <;> rw [hs] at hstatus <;> first | rfl | cases hstatus
  cases h with
  | opens hmsg hnew => rw [hold.empty hnew]; rfl
  | cancels _ hstatus | accepts _ hstatus | starts _ hstatus | reports _ hstatus
  | resolves _ hstatus => rw [hstatus]; rfl
  | commits _ hstatus | expires _ hstatus => rcases hstatus with hs | hs <;> rw [hs] <;> rfl
  | confirms _ hstatus | challenges _ hstatus | settles _ hstatus => exact hbacked hstatus

theorem Recorded.ended (hold : Recorded D policies t old) (hexists : old.exists_ = true)
    (hunpaid : old.recourseClaimPaid = false) {final : TaskStatus}
    (hfinal : final.isTerminal = true) : Recorded D policies t (old.ended final) := by
  have hterms := SameTerms.ended old final
  have hstatus := old.status_ended final
  have hne {status : TaskStatus} (hlive : status.isTerminal = false) :
      (old.ended final).status ≠ status := by
    rw [hstatus]
    rintro rfl
    rw [hfinal] at hlive
    cases hlive
  refine ⟨?_, fun _ => hne rfl, fun _ => (hold.opened hexists).of_sameTerms hterms,
    fun h => absurd h (hne rfl), ?_, ?_, ?_, ?_, fun h => absurd h (hne rfl)⟩
  · rw [hterms.exists_, hexists]
    nofun
  · rw [hstatus, isBonded_of_terminal hfinal]
    nofun
  · rw [hstatus]
    intro h
    rw [Task.ended, if_neg fun hslashed => h hslashed.1]
    exact hunpaid
  · rw [hstatus, isReported_of_terminal hfinal]
    nofun
  · unfold Task.ended
    split_ifs <;> exact hold.available

theorem TaskStep.recorded (h : TaskStep D w sender t msg old new)
    (hold : Recorded D w.policies t old) : Recorded D w.policies t new := by
  have hopened (hexists : old.exists_ = true) : Opened D w.policies t new :=
    (hold.opened hexists).of_sameTerms (h.terms hexists)
  have hempty (hexists : old.exists_ = true) (hnew : new.exists_ = false) : new = .empty := by
    rw [(h.terms hexists).exists_, hexists] at hnew
    cases hnew
  have hunpaid : old.recourseClaimPaid = false := by
    refine hold.unpaid fun hslashed => ?_
    have hlive := h.not_terminal hold
    rw [hslashed] at hlive
    cases hlive
  have hbonded (hmsg : msg.works = true) : old.agent ≠ 0 ∧ old.agentBond ≠ 0 :=
    hold.bonded (h.bonded_of_works hmsg).2.1
  cases h with
  | opens hmsg hnew hid hsender hpayout hverifier hpool hisPool hpolicy hquote =>
    obtain rfl := hold.empty hnew
    refine ⟨nofun, nofun, fun _ => ⟨hid, hsender, hverifier, hpayout, hpool, hisPool, hquote, ?_⟩,
      fun _ => rfl, nofun, fun _ => rfl, nofun, hold.available, nofun⟩
    exact UInt8.toNat_lt ..
  | cancels hexists =>
    exact ⟨hempty hexists, nofun, fun _ => hopened hexists, nofun, nofun, fun _ => hunpaid, nofun,
      hold.available, nofun⟩
  | accepts hexists hstatus hsender hbond =>
    exact ⟨hempty hexists, nofun, fun _ => hopened hexists, nofun, fun _ => ⟨hsender, hbond⟩,
      fun _ => hunpaid, nofun, hold.available, nofun⟩
  | starts hexists =>
    exact ⟨hempty hexists, nofun, fun _ => hopened hexists, nofun, fun _ => hbonded rfl,
      fun _ => hunpaid, nofun, hold.available, nofun⟩
  | @commits _ _ _ availabilityUntil _ hexists =>
    exact ⟨hempty hexists, nofun, fun _ => hopened hexists, nofun, fun _ => hbonded rfl,
      fun _ => hunpaid, nofun, availabilityUntil.toNat_lt, nofun⟩
  | reports hexists hstatus hsender havailable hreport =>
    have hbacked := isReportBacked_of_taskStatus hreport
    exact ⟨hempty hexists, fun _ => ne_of_reportBacked hbacked rfl, fun _ => hopened hexists,
      fun h => absurd h (ne_of_reportBacked hbacked rfl), fun _ => hbonded rfl, fun _ => hunpaid,
      fun _ => lt_of_le_of_lt havailable hold.available, hold.available,
      fun h => absurd h (ne_of_reportBacked hbacked rfl)⟩
  | confirms hexists =>
    exact ⟨hempty hexists, hold.known, fun _ => hopened hexists, hold.unaccepted, hold.bonded,
      hold.unpaid, hold.reported, hold.available, hold.challenged⟩
  | challenges hexists hstatus hsender hbond =>
    exact ⟨hempty hexists, nofun, fun _ => hopened hexists, nofun, fun _ => hbonded rfl,
      fun _ => hunpaid, fun _ => hold.reported (isReported_of_reportBacked hstatus),
      hold.available, fun _ => ⟨hsender, hbond⟩⟩
  | resolves hexists hstatus hreport =>
    have hbacked := isReportBacked_of_taskStatus hreport
    exact ⟨hempty hexists, fun _ => ne_of_reportBacked hbacked rfl, fun _ => hopened hexists,
      fun h => absurd h (ne_of_reportBacked hbacked rfl), fun _ => hbonded rfl, fun _ => hunpaid,
      fun _ => hold.reported (by rw [hstatus]; rfl), hold.available,
      fun h => absurd h (ne_of_reportBacked hbacked rfl)⟩
  | settles hexists => exact hold.ended hexists hunpaid (TaskStatus.isTerminal_settlement _)
  | expires hexists => exact hold.ended hexists hunpaid rfl

/-- Policies may be added and switched on and off. -/
theorem Recorded.of_policies {policies' : TaskPolicyRegistry}
    (hkept : ∀ policyId payout q, policies.quote policyId payout = some q →
      policies'.quote policyId payout = some q)
    (h : Recorded D policies t old) : Recorded D policies' t old := by
  refine { h with opened := fun hexists => ?_ }
  exact { h.opened hexists with quoted := hkept _ _ _ (h.opened hexists).quoted }

end records

/-! ### Runs -/

section runs

variable [ERC20SettlementToken τ] {D : Deployment} {sender : Address} {w w' : World τ}
  {ok : Address → BondMsg → World τ → Prop} {w₀ : World τ} {l : List (BondEntry τ)}

/-- What a call to a contract other than the manager leaves alone. -/
structure BondFrame (msg : BondMsg) (w w' : World τ) : Prop where
  manager : w'.manager = w.manager
  now : w'.now = w.now
  quote : ∀ policyId payout q, w.policies.quote policyId payout = some q →
    w'.policies.quote policyId payout = some q
  stakes : (∀ m, msg ≠ .stakes m) → w'.stakes = w.stakes
  pools : (∀ p m, msg ≠ .pool p m) → w'.pools = w.pools

theorem bondCall_frame {msg : BondMsg} {u : Unit} (h : bondCall D sender msg w = .ok (u, w'))
    (hmsg : ∀ m, msg ≠ .manager m) : BondFrame msg w w' := by
  cases msg with
  | manager m => exact absurd rfl (hmsg m)
  | escrow m =>
    obtain ⟨s, -, rfl⟩ := within_ok.mp h
    exact ⟨rfl, rfl, fun _ _ _ => id, fun _ => rfl, fun _ => rfl⟩
  | stakes m =>
    obtain ⟨s, -, rfl⟩ := within_ok.mp h
    exact ⟨rfl, rfl, fun _ _ _ => id, fun hm => absurd rfl (hm m), fun _ => rfl⟩
  | policies m =>
    simp [bondCall] at h
    obtain ⟨r, hr, rfl⟩ := h
    exact ⟨rfl, rfl, fun _ _ _ => TaskPolicyRegistry.call_quote hr, fun _ => rfl, fun _ => rfl⟩
  | pool p m =>
    obtain ⟨-, s, -, rfl⟩ := bondCall_pool_ok.mp h
    exact ⟨rfl, rfl, fun _ _ _ => id, fun _ => rfl, fun hm => absurd rfl (hm p m)⟩
  | poolRegistry | attestations =>
    simp [bondCall] at h
    obtain ⟨r, -, rfl⟩ := h
    exact ⟨rfl, rfl, fun _ _ _ => id, fun _ => rfl, fun _ => rfl⟩

/-- No time passes during a call, and a policy that exists keeps its quotes. -/
theorem bondCall_now_quote {msg : BondMsg} {u : Unit} (h : bondCall D sender msg w = .ok (u, w')) :
    w'.now = w.now ∧ ∀ policyId payout q, w.policies.quote policyId payout = some q →
      w'.policies.quote policyId payout = some q := by
  by_cases hmsg : ∃ m, msg = .manager m
  · obtain ⟨m, rfl⟩ := hmsg
    rcases managerStep_of_call h with ⟨-, s, -, -, rfl⟩ | ⟨t, hstep⟩
    · exact ⟨rfl, fun _ _ _ => id⟩
    · exact ⟨hstep.now, hstep.policies ▸ fun _ _ _ => id⟩
  · have hframe := bondCall_frame h fun m hm => hmsg ⟨m, hm⟩
    exact ⟨hframe.now, hframe.quote⟩

/-- What a call does to the record of the task `t`. -/
theorem taskStep_of_bondCall {msg : BondMsg} {u : Unit} (h : bondCall D sender msg w = .ok (u, w'))
    (t : Bytes32) :
    ((∀ m, msg = .manager m → m.taskId? ≠ some t) ∧ w'.manager.tasks t = w.manager.tasks t ∧
      w'.manager.reportConfirmedBy t = w.manager.reportConfirmedBy t) ∨
    ∃ m, msg = .manager m ∧ ManagerStep D sender m w w' t := by
  by_cases hmsg : ∃ m, msg = .manager m
  · obtain ⟨m, rfl⟩ := hmsg
    rcases managerStep_of_call h with ⟨c, s, rfl, -, rfl⟩ | ⟨t', hstep⟩
    · exact .inl ⟨fun _ hm => BondMsg.manager.inj hm ▸ nofun, rfl, rfl⟩
    · by_cases ht : t = t'
      · exact .inr ⟨m, rfl, ht ▸ hstep⟩
      · refine .inl ⟨fun _ hm hnames => ?_, by rw [hstep.tasks, update_of_ne ht], ?_⟩
        · cases hm
          exact ht (hstep.step.eq_of_names hnames)
        · rw [hstep.confirmedBy]
          split_ifs
          exacts [update_of_ne ht _ _, rfl]
  · rw [(bondCall_frame h fun m hm => hmsg ⟨m, hm⟩).manager]
    exact .inl ⟨fun m hm => absurd ⟨m, hm⟩ hmsg, rfl, rfl⟩

/-- The records of all tasks. -/
def AllRecorded (D : Deployment) (w : World τ) : Prop :=
  ∀ t, Recorded D w.policies t (w.manager.tasks t)

theorem AllRecorded.call {msg : BondMsg} {u : Unit} (hw : AllRecorded D w)
    (h : bondCall D sender msg w = .ok (u, w')) : AllRecorded D w' := by
  intro t
  refine .of_policies (bondCall_now_quote h).2 ?_
  rcases taskStep_of_bondCall h t with ⟨-, htask, -⟩ | ⟨m, rfl, hstep⟩
  · rw [htask]
    exact hw t
  · exact hstep.step.recorded (hw t)

/-- The records are in order in every run. -/
theorem BondRun.recorded (h₀ : w₀.Deployed D) (hrun : BondRun D ok w₀ l w) :
    AllRecorded D w := by
  induction hrun with
  | start =>
    obtain ⟨owner, guardian, authority, hm⟩ := h₀.manager
    intro t
    rw [hm]
    exact .of_empty _
  | call _ _ _ h ih => exact ih.call h
  | time _ _ ih | token _ _ ih => exact ih

/-! ### Acceptance -/

omit [ERC20SettlementToken τ] in
theorem TaskStep.agent_cases {msg : AgentBondManager.Msg} {t : Bytes32} {old new : Task}
    (h : TaskStep D w sender t msg old new) (hold : Recorded D w.policies t old) :
    msg = .acceptTask t ∨ new.agent = old.agent := by
  cases h with
  | accepts => exact .inl rfl
  | opens hmsg hnew =>
    rw [hold.empty hnew]
    exact .inr rfl
  | settles | expires =>
    unfold Task.ended
    split_ifs <;> exact .inr rfl
  | _ => exact .inr rfl

/-- The call `msg` to the manager is one of the calls `l`. -/
def Called (msg : AgentBondManager.Msg) (l : List (BondEntry τ)) : Prop :=
  ∃ e ∈ l, e.msg = .manager msg

omit [ERC20SettlementToken τ] in
theorem called_cons {msg : AgentBondManager.Msg} {e : BondEntry τ} :
    Called msg (e :: l) ↔ e.msg = .manager msg ∨ Called msg l := by
  simp [Called]

/-- The agent of a task is the one who accepted it. -/
theorem BondRun.accepted_iff (h₀ : w₀.Deployed D) (hrun : BondRun D ok w₀ l w) (t : Bytes32) :
    Called (.acceptTask t) l ↔ (w.manager.tasks t).agent ≠ 0 := by
  induction hrun with
  | start =>
    obtain ⟨owner, guardian, authority, hm⟩ := h₀.manager
    simp [Called, hm, AgentBondManager.deployed, Task.empty]
  | @call l w w' sender msg hrun hsender hok h ih =>
    have hw := hrun.recorded h₀
    have hw' := hw.call h
    rw [called_cons, ih]
    rcases taskStep_of_bondCall h t with ⟨hother, htask, -⟩ | ⟨m, rfl, hstep⟩
    · rw [htask]
      exact or_iff_right fun hmsg => hother _ hmsg rfl
    · have hnew (hm : m = .acceptTask t) : (w'.manager.tasks t).agent ≠ 0 := by
        subst hm
        exact ((hw' t).bonded (by rw [hstep.step.accepted.2.2.1]; rfl)).1
      rcases hstep.step.agent_cases (hw t) with rfl | hagent
      · exact iff_of_true (.inl rfl) (hnew rfl)
      · rw [← hagent]
        exact or_iff_right_of_imp fun hmsg => hnew (BondMsg.manager.inj hmsg)
  | time _ _ ih | token _ _ ih => exact ih

/-- A task that was cancelled was never accepted. -/
theorem BondRun.not_accepted_of_cancelled (h₀ : w₀.Deployed D) (hrun : BondRun D ok w₀ l w)
    {t : Bytes32}
    (hcancel : Called (.cancelOpenTask t) l) :
    (w.manager.tasks t).agent = 0 ∧ (w.manager.tasks t).status.isTerminal = true := by
  induction hrun with
  | start => simp [Called] at hcancel
  | @call l w w' sender msg hrun hsender hok h ih =>
    have hw := hrun.recorded h₀
    rw [called_cons] at hcancel
    rcases taskStep_of_bondCall h t with ⟨hother, htask, -⟩ | ⟨m, rfl, hstep⟩
    · rw [htask]
      exact ih (hcancel.resolve_left fun hmsg => hother _ hmsg rfl)
    · rcases hcancel with hmsg | hcancel
      · cases hmsg
        obtain ⟨hopen, hnew⟩ := hstep.step.cancelled
        rw [hnew]
        exact ⟨(hw t).unaccepted hopen, rfl⟩
      · have hlive := hstep.step.not_terminal (hw t)
        rw [(ih hcancel).2] at hlive
        cases hlive
  | time _ _ ih | token _ _ ih => exact ih hcancel

end runs

end FlowMemory.AgentBonds
