import FlowMemory.AgentBonds.ReportFinality

/-! # Who gets the verifier fee

The record of a task keeps the newest challenge but not its outcome: the settlement compares the
status the challenge was made in with a status.  For a failed task this is the status of the report;
for a refunded one it is **Refunded**, which no report has, so that an upheld report costs the verifier
the fee as well (`fee_follows_iff`).

The **dispute trace** of a task says what its record tells of the calls of a run. -/

namespace FlowMemory.AgentBonds

open AgentBondManager Call Function TaskBondEscrow

variable {τ : Type}

/-- A challenge that was resolved: who made it, in which status, and the status that was decided. -/
structure ResolvedChallenge where
  challenger : Address
  (challenged final : TaskStatus)

/-- The newest challenge of the task `t`, with its status. -/
def lastChallenge (t : Bytes32) : List (BondEntry τ) → Option (Address × TaskStatus)
  | [] => none
  | e :: older =>
    match e.msg with
    | .manager (.challengeTask t' _) =>
      if t' = t then some (e.sender, (e.before.manager.tasks t).status) else lastChallenge t older
    | _ => lastChallenge t older

/-- The newest challenge of the task `t` that was resolved. -/
def lastResolved (t : Bytes32) : List (BondEntry τ) → Option ResolvedChallenge
  | [] => none
  | e :: older =>
    match e.msg with
    | .manager (.resolveChallenge t' report _ _) =>
      if t' = t then do
        let (challenger, status) ← lastChallenge t older
        some ⟨challenger, status, ← report.taskStatus⟩
      else lastResolved t older
    | _ => lastResolved t older

/-- The account that is owed the fee after the calls `l`: the last challenger if the challenge
overturned the report, and otherwise the verifier. -/
def feeOwedTo (t : Bytes32) (verifier : Address) (l : List (BondEntry τ)) : Address :=
  match lastResolved t l with
  | some r => if r.final ≠ r.challenged then r.challenger else verifier
  | none => verifier

/-- The call that has ended the task `t` has made the payments of its settlement, with the fee to
`a`. -/
inductive FeePaidTo (D : Deployment) (t : Bytes32) (a : Address) (w w' : World τ) : Prop
  | slashed {shares : SlashShares} (hstatus : (w'.manager.tasks t).status = .slashed)
      (hshares : slashShares (w.manager.tasks t).agentBond true = some shares)
      (hpaid : payAll ⟨D.manager, w.now⟩ t (failedPayments (w.manager.tasks t) shares a) w.escrow =
        .ok ((), w'.escrow))
  | refunded (hstatus : (w'.manager.tasks t).status = .refunded)
      (hpaid : payAll ⟨D.manager, w.now⟩ t (refundPayments (w.manager.tasks t) a) w.escrow =
        .ok ((), w'.escrow))

/-! ### The dispute trace -/

/-- What the record of the task `t` tells of its challenges in the calls `l`. -/
structure DisputeTrace (t : Bytes32) (task : Task) (l : List (BondEntry τ)) : Prop where
  unreported : task.status.isReported = false → task.status.isTerminal = false →
    lastResolved t l = none
  unresolved : task.status.isReportBacked = true → task.challengeResolved = false →
    lastResolved t l = none
  challenged : task.status = .challenged →
    lastChallenge t l = some (task.challenger, task.preChallengeStatus) ∧ task.challenger ≠ 0 ∧
      task.preChallengeStatus.isReportBacked = true
  resolved : task.status.isReportBacked = true → task.challengeResolved = true →
    lastResolved t l = some ⟨task.challenger, task.preChallengeStatus, task.status⟩ ∧
      task.challenger ≠ 0 ∧ task.preChallengeStatus.isReportBacked = true

section traces

variable {D : Deployment} {w w' : World τ} {t : Bytes32} {task : Task} {l : List (BondEntry τ)}
  {e : BondEntry τ}

/-- A call that does not name the task. -/
theorem lastResolved_cons (h : ∀ m, e.msg = .manager m → m.taskId? ≠ some t) :
    lastResolved t (e :: l) = lastResolved t l ∧ lastChallenge t (e :: l) = lastChallenge t l := by
  obtain ⟨sender, msg, before⟩ := e
  cases msg with
  | manager m =>
    have hnames := h m rfl
    cases m <;> first
      | exact ⟨rfl, rfl⟩
      | simp_all [lastResolved, lastChallenge, AgentBondManager.Msg.taskId?]
  | _ => exact ⟨rfl, rfl⟩

theorem DisputeTrace.of_terminal (h : task.status.isTerminal = true) : DisputeTrace t task l := by
  cases hs : task.status <;> rw [hs] at h <;> first | cases h; done | constructor <;> rw [hs] <;> nofun

theorem TaskStep.disputeTrace {sender : Address} {msg : AgentBondManager.Msg} {old new : Task}
    (h : TaskStep D w sender t msg old new) (hw : w.manager.tasks t = old)
    (hold : Recorded D w.policies t old) (htrace : DisputeTrace t old l) :
    DisputeTrace t new (⟨sender, .manager msg, w⟩ :: l) := by
  cases h with
  | opens hmsg hnew =>
    have hother : ∀ m, BondMsg.manager msg = .manager m → m.taskId? ≠ some t := by
      rintro m ⟨⟩
      cases msg <;> first | (cases hmsg; done) | simp [AgentBondManager.Msg.taskId?]
    rw [hold.empty hnew] at htrace
    refine ⟨fun _ _ => ?_, by rintro ⟨⟩, by rintro ⟨⟩, by rintro ⟨⟩⟩
    rw [(lastResolved_cons hother).1]
    exact htrace.unreported rfl rfl
  | cancels => exact .of_terminal rfl
  | accepts hexists hstatus | starts hexists hstatus =>
    exact ⟨fun _ _ => htrace.unreported (by rw [hstatus]; rfl) (by rw [hstatus]; rfl), by rintro ⟨⟩,
      by rintro ⟨⟩, by rintro ⟨⟩⟩
  | commits hexists hstatus =>
    refine ⟨fun _ _ => htrace.unreported ?_ ?_, by rintro ⟨⟩, by rintro ⟨⟩, by rintro ⟨⟩⟩ <;>
      rcases hstatus with hs | hs <;> rw [hs] <;> rfl
  | reports hexists hstatus hsender havailable hreport =>
    have hbacked := isReportBacked_of_taskStatus hreport
    have hnone := htrace.unreported (by rw [hstatus]; rfl) (by rw [hstatus]; rfl)
    exact ⟨fun _ _ => hnone, fun _ _ => hnone, fun h => absurd h (ne_of_reportBacked hbacked rfl),
      by rintro - ⟨⟩⟩
  | confirms => exact ⟨htrace.unreported, htrace.unresolved, htrace.challenged, htrace.resolved⟩
  | challenges hexists hstatus hsender =>
    refine ⟨by rintro ⟨⟩, by rintro ⟨⟩, fun _ => ⟨?_, hsender, hstatus⟩, by rintro ⟨⟩⟩
    simp [lastChallenge, hw, Task.challenge, Task.bump]
  | resolves hexists hstatus hreport =>
    obtain ⟨hchallenge, hchallenger, hpre⟩ := htrace.challenged hstatus
    have hbacked := isReportBacked_of_taskStatus hreport
    refine ⟨fun hreported => ?_, by rintro - ⟨⟩, fun h => absurd h (ne_of_reportBacked hbacked rfl),
      fun _ _ => ⟨?_, hchallenger, hpre⟩⟩
    · exact absurd (isReported_of_reportBacked hbacked) (ne_true_of_eq_false hreported)
    · simp [lastResolved, hchallenge, hreport, Task.resolve, Task.bump]
  | settles =>
    exact .of_terminal (by rw [Task.status_ended]; exact TaskStatus.isTerminal_settlement _)
  | expires => exact .of_terminal (by rw [Task.status_ended]; rfl)

variable [ERC20SettlementToken τ] {ok : Address → BondMsg → World τ → Prop} {w₀ : World τ}

theorem BondRun.disputeTrace (h₀ : w₀.Deployed D) (hrun : BondRun D ok w₀ l w) (t : Bytes32) :
    DisputeTrace t (w.manager.tasks t) l := by
  induction hrun with
  | start =>
    obtain ⟨owner, guardian, authority, hm⟩ := h₀.manager
    rw [hm]
    exact ⟨fun _ _ => rfl, nofun, nofun, nofun⟩
  | @call l w w' sender msg hrun hsender hok h ih =>
    rcases taskStep_of_bondCall h t with ⟨hother, htask, -⟩ | ⟨m, rfl, hstep⟩
    · obtain ⟨hresolved, hchallenge⟩ := lastResolved_cons (e := ⟨sender, msg, w⟩) (l := l) hother
      rw [htask]
      constructor <;> simp only [hresolved, hchallenge]
      exacts [ih.unreported, ih.unresolved, ih.challenged, ih.resolved]
    · exact hstep.step.disputeTrace rfl (hrun.recorded h₀ t) ih
  | time _ _ ih | token _ _ ih => exact ih

end traces

/-! ### The payments -/

section payments

variable {D : Deployment} {w w' : World τ} {t : Bytes32} {task : Task} {u : Unit} {env : Env}
  {e e' : TaskBondEscrow} {payments payments' : List Payment} {a : Address} {final : TaskStatus}

/-- The entry of a payment in the log of the escrow. -/
def paymentEntry (t : Bytes32) : Payment → EscrowEvent
  | ⟨some account, amount⟩ => .released t account amount
  | ⟨none, amount⟩ => .reserved t amount

theorem paymentEntry_injective (t : Bytes32) : Injective (paymentEntry t) := by
  rintro ⟨_ | account, amount⟩ ⟨_ | account', amount'⟩ h <;> cases h <;> rfl

theorem payAll_logs (h : payAll env t payments e = .ok (u, e')) :
    e'.logs = (payments.map (paymentEntry t)).reverse ++ e.logs := by
  induction payments generalizing e with
  | nil =>
    rw [payAll_nil_ok.mp h]
    rfl
  | cons payment rest ih =>
    obtain ⟨e₁, hpay, hrest⟩ := payAll_cons_ok.mp h
    have hlogs : e₁.logs = paymentEntry t payment :: e.logs := by
      obtain ⟨_ | account, amount⟩ := payment
      · obtain ⟨-, -, -, -, -, rfl⟩ := moveToReserve_ok.mp hpay
        rfl
      · obtain ⟨-, -, -, -, -, -, rfl⟩ := releaseTo_ok.mp hpay
        rfl
    rw [ih hrest, hlogs]
    simp

/-- The log tells which payments were made. -/
theorem payments_eq (h : payAll env t payments e = .ok (u, e'))
    (h' : payAll env t payments' e = .ok (u, e')) : payments = payments' := by
  have hlogs := (payAll_logs h).symm.trans (payAll_logs h')
  exact List.map_injective_iff.mpr (paymentEntry_injective t)
    (List.reverse_injective (List.append_cancel_right hlogs))

/-- A cancelled task pays no fee. -/
theorem not_feePaidTo_of_cancelled {sender : Address}
    (h : cancelOpenTask D sender t w = .ok (u, w')) : ¬ FeePaidTo D t a w w' := by
  obtain ⟨-, -, -, -, -, -, rfl⟩ := cancelOpenTask_ok h
  rintro (⟨hslashed, -, -⟩ | ⟨-, hpaid⟩)
  · simp [Task.withStatus, Task.bump] at hslashed
  · have hlogs := congrArg List.length (payAll_logs hpaid)
    simp [TaskBondEscrow.afterRelease, refundPayments] at hlogs

variable [ERC20SettlementToken τ]

theorem AgentBondManager.Settles.paid {recourse : BondAction τ Unit}
    (hrecourse : ∀ {w₁ w₂}, recourse w₁ = .ok ((), w₂) → RecourseEnd D t task final w₁ w₂)
    (h : Settles D t task final payments recourse w w') :
    payAll ⟨D.manager, w.now⟩ t payments w.escrow = .ok ((), w'.escrow) := by
  obtain ⟨w₁, e, hclose, hpay, hend⟩ := h
  simp [closeTask] at hclose
  obtain ⟨-, -, -, -, s, -, rfl⟩ := hclose
  obtain ⟨hrecoverable, hnot⟩ := hrecourse hend
  by_cases hr : Recoverable task
  · obtain ⟨-, -, s, -, rfl⟩ := hrecoverable hr
    exact hpay
  · rw [hnot hr]
    exact hpay

/-- The fee of a settlement goes to the account that the settlement computes. -/
theorem feePaidTo_iff (h : settleTask D t w = .ok (u, w'))
    (hends : (w'.manager.tasks t).status = .slashed ∨ (w'.manager.tasks t).status = .refunded) :
    FeePaidTo D t a w w' ↔ feeRecipient (w.manager.tasks t)
      (if (w.manager.tasks t).status = .failed then .failed else .refunded) = a := by
  have hnew : (w'.manager.tasks t).status = (w.manager.tasks t).status.settlement := by
    rw [(TaskEnd.settles h).tasks, update_self, Task.status_ended]
  obtain ⟨task, rfl, -, -, -, hsettle⟩ := settleTask_ok h
  rcases settleByStatus_ok.mp hsettle with ⟨hstatus, hsettle⟩ | ⟨hstatus, hsettle⟩ |
    ⟨hstatus, hsettle⟩
  · rw [hnew, hstatus] at hends
    exact absurd hends (by decide)
  · obtain ⟨shares, hshares, -, hsettles⟩ := settleFailed_ok.mp hsettle
    have hpaid := hsettles.paid .of_claim
    have hslashed : (w'.manager.tasks t).status = .slashed := by rw [hnew, hstatus]; rfl
    rw [if_pos hstatus]
    constructor
    · rintro (⟨-, hshares', hpaid'⟩ | ⟨hrefunded, -⟩)
      · cases hshares.symm.trans hshares'
        simpa [failedPayments] using payments_eq hpaid hpaid'
      · cases hslashed.symm.trans hrefunded
    · rintro rfl
      exact .slashed hslashed hshares hpaid
  · obtain ⟨-, hsettles⟩ := settleRefund_ok.mp hsettle
    have hpaid := hsettles.paid fun hrelease => .of_release (by decide) hrelease
    have hne : (w.manager.tasks t).status ≠ .failed := by
      rcases hstatus with hs | hs <;> rw [hs] <;> decide
    have hrefunded : (w'.manager.tasks t).status = .refunded := by
      rw [hnew]
      rcases hstatus with hs | hs <;> rw [hs] <;> rfl
    rw [if_neg hne]
    constructor
    · rintro (⟨hslashed, -, -⟩ | ⟨-, hpaid'⟩)
      · cases hslashed.symm.trans hrefunded
      · simpa [refundPayments] using payments_eq hpaid hpaid'
    · rintro rfl
      exact .refunded hrefunded hpaid

end payments

/-! ### Runs -/

theorem DisputeTrace.feeRecipient_iff {t : Bytes32} {task : Task} {l : List (BondEntry τ)}
    (h : DisputeTrace t task l) (hbacked : task.status.isReportBacked = true) :
    feeRecipient task (if task.status = .failed then .failed else .refunded) =
        feeOwedTo t task.verifier l ↔
      (task.status ≠ .failed → ∀ r ∈ lastResolved t l,
        r.final ≠ r.challenged ∨ r.challenger = task.verifier) := by
  cases hresolved : task.challengeResolved with
  | false =>
    have hnone := h.unresolved hbacked hresolved
    simp [feeRecipient, feeOwedTo, hnone, hresolved]
  | true =>
    obtain ⟨hlast, hchallenger, hpre⟩ := h.resolved hbacked hresolved
    have hne : task.preChallengeStatus ≠ .refunded := ne_of_reportBacked hpre rfl
    by_cases hfailed : task.status = .failed
    · simp [feeRecipient, feeOwedTo, hlast, hresolved, hchallenger, hfailed, eq_comm]
    · simp [feeRecipient, feeOwedTo, hlast, hresolved, hchallenger, hfailed, hne]
      tauto

section runs

variable [ERC20SettlementToken τ] {D : Deployment} {ok : Address → BondMsg → World τ → Prop}
  {w₀ w w' : World τ} {l : List (BondEntry τ)}

/-- **The fee follows the outcome** of the last challenge exactly if the call that ends the task
settles it, and if a challenge of a refunded task that was resolved has overturned the report or was
made by the verifier. -/
theorem fee_follows_iff (h₀ : w₀.Deployed D) (hrun : BondRun D ok w₀ l w) {sender : Address}
    {msg : BondMsg} (h : bondCall D sender msg w = .ok ((), w')) {t : Bytes32} {task : Task}
    (htask : task = w.manager.tasks t) (hlive : task.status.isTerminal = false)
    (hends : msg = .manager (.settleTask t) ∧ (w'.manager.tasks t).status = .slashed ∨
      (w'.manager.tasks t).status = .refunded) :
    FeePaidTo D t (feeOwedTo t task.verifier l) w w' ↔
      msg = .manager (.settleTask t) ∧ (task.status ≠ .failed → ∀ r ∈ lastResolved t l,
        r.final ≠ r.challenged ∨ r.challenger = task.verifier) := by
  subst htask
  have hstatus : (w'.manager.tasks t).status = .slashed ∨ (w'.manager.tasks t).status = .refunded :=
    hends.imp_left And.right
  have hended : (w'.manager.tasks t).status.isTerminal = true := by
    rcases hstatus with hs | hs <;> rw [hs] <;> rfl
  rcases taskStep_of_bondCall h t with ⟨-, hsame, -⟩ | ⟨m, rfl, hstep⟩
  · rw [hsame, hlive] at hended
    cases hended
  rcases hstep.step.ended_cases hended with rfl | rfl | rfl
  · exact iff_of_false (not_feePaidTo_of_cancelled h) nofun
  · rw [feePaidTo_iff h hstatus, (hrun.disputeTrace h₀ t).feeRecipient_iff hstep.step.settled.2.1]
    exact (and_iff_right rfl).symm
  · have hslashed : (w'.manager.tasks t).status = .slashed := by
      rw [hstep.step.expired.2.2, Task.status_ended]
    rcases hends with ⟨hmsg, -⟩ | hrefunded
    · cases hmsg
    · cases hslashed.symm.trans hrefunded

end runs

/-! ### A report that is upheld -/

/-- The report that a task is unsupported is challenged by the account 4, and then a status is
decided. -/
def sampleDisputed (decided : ReportStatus) : List BondInput :=
  sampleSetup samplePolicy ++
    [.call 1 (.manager (.openTask 1 1 1 1000 3)), .call 2 (.manager (.acceptTask 100)),
      .call 2 (.manager (.commitEvidence 100 1 1 2000)),
      .call 3 (.manager (.submitVerifierReport 100 1 .unsupported 7)),
      .call 4 (.manager (.challengeTask 100 9)),
      .call 6 (.manager (.resolveChallenge 100 decided 8 0))]

/-- The settlement of the disputed task, as a reader of the records sees it. -/
theorem exists_sampleDisputed (decided : ReportStatus) (status : TaskStatus) (owed paid : Address)
    (h : (follow sampleDeployment (sampleDisputed decided) ([], sampleWorld)).bind (fun s =>
      (bondCall sampleDeployment 9 (.manager (.settleTask 100)) s.2).toOption.map fun s' =>
        ((s.2.manager.tasks 100).status, (s'.2.manager.tasks 100).status,
          (s.2.manager.tasks 100).verifier, feeOwedTo 100 3 s.1,
          feeRecipient (s.2.manager.tasks 100) .refunded)) =
        some (status, .refunded, 3, owed, paid)) :
    ∃ l w w', follow sampleDeployment (sampleDisputed decided) ([], sampleWorld) = some (l, w) ∧
      bondCall sampleDeployment 9 (.manager (.settleTask 100)) w = .ok ((), w') ∧
      (w.manager.tasks 100).status = status ∧ (w'.manager.tasks 100).status = .refunded ∧
      (w.manager.tasks 100).verifier = 3 ∧ feeOwedTo 100 3 l = owed ∧
      feeRecipient (w.manager.tasks 100) .refunded = paid := by
  obtain ⟨⟨l, w⟩, hw, h⟩ := Option.bind_eq_some_iff.mp h
  obtain ⟨⟨⟨⟩, w'⟩, hcall, h⟩ := Option.map_eq_some_iff.mp h
  simp only [Prod.mk.injEq] at h
  exact ⟨l, w, w', hw, toOption_eq_some.mp hcall, h⟩

/-- The report was upheld, but the challenger gets the fee of the verifier 3. -/
theorem fee_paid_to_challenger :
    ∃ l w w', follow sampleDeployment (sampleDisputed .unsupported) ([], sampleWorld) = some (l, w) ∧
      bondCall sampleDeployment 9 (.manager (.settleTask 100)) w = .ok ((), w') ∧
      (w.manager.tasks 100).verifier = 3 ∧ feeOwedTo 100 3 l = 3 ∧
      FeePaidTo sampleDeployment 100 4 w w' ∧ ¬ FeePaidTo sampleDeployment 100 3 w w' := by
  obtain ⟨l, w, w', hw, h, hstatus, hrefunded, hverifier, howed, hpaid⟩ :=
    exists_sampleDisputed .unsupported .unsupported 3 4 (by decide +kernel)
  have hfee (a : Address) : FeePaidTo sampleDeployment 100 a w w' ↔ 4 = a := by
    rw [feePaidTo_iff h (.inr hrefunded), hstatus, if_neg (by decide), hpaid]
  exact ⟨l, w, w', hw, h, hverifier, howed, (hfee 4).mpr rfl, fun h => absurd ((hfee 3).mp h) (by decide)⟩

/-- The report was overturned, and the challenger gets the fee. -/
theorem fee_follows_iff_overturned :
    ∃ l w w', follow sampleDeployment (sampleDisputed .reorged) ([], sampleWorld) = some (l, w) ∧
      bondCall sampleDeployment 9 (.manager (.settleTask 100)) w = .ok ((), w') ∧
      FeePaidTo sampleDeployment 100 4 w w' := by
  obtain ⟨l, w, w', hw, h, hstatus, hrefunded, hverifier, howed, -⟩ :=
    exists_sampleDisputed .reorged .reorged 4 4 (by decide +kernel)
  have hrun : BondRun sampleDeployment (fun _ _ _ => True) sampleWorld l w :=
    BondRun.start.follow (by decide) (fun _ _ _ => trivial) hw
  have hfollows := fee_follows_iff deployed_sampleWorld hrun h rfl (by rw [hstatus]; rfl) (.inr hrefunded)
  rw [hverifier, howed] at hfollows
  refine ⟨l, w, w', hw, h, hfollows.mpr ⟨rfl, fun _ r hr => .inl ?_⟩⟩
  intro heq
  simp [feeOwedTo, Option.mem_def.mp hr, heq] at howed

end FlowMemory.AgentBonds
