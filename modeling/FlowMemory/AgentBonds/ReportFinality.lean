import FlowMemory.AgentBonds.Recourse

/-! # The finality of a report

A report is settled in one of two ways: a resolution has decided it, or its window has passed and it
has its confirmations.  Each confirmation is a call of an eligible verifier who is not the reporter,
inside the window and with the status and the digest of the report.  The **report trace** of a task
says so of the calls of a run. -/

namespace FlowMemory.AgentBonds

open AgentBondManager Function

variable {τ : Type} {D : Deployment} {w w' : World τ} {t : Bytes32}

/-- The account `a` has confirmed the report on the task `t`. -/
def ConfirmedIn (t : Bytes32) (task : Task) (l : List (BondEntry τ)) (a : Address) : Prop :=
  ∃ e ∈ l, e.sender = a ∧
    (∃ reportStatus : ReportStatus, reportStatus.taskStatus = some task.status ∧
      e.msg = .manager (.confirmVerifierReport t reportStatus task.reportDigest)) ∧
    e.before.stakes.isVerifierEligible a = true ∧
    task.reportedAt ≤ e.before.now ∧ e.before.now ≤ task.reportedAt + task.disputeWindow

/-- The status of the task `t` was set by a resolution. -/
def SetByResolution (t : Bytes32) (task : Task) (l : List (BondEntry τ)) : Prop :=
  ∃ newer e older, l = newer ++ e :: older ∧
    (∃ (reportStatus : ReportStatus) (digest : Bytes32) (slashBps : UInt16),
      reportStatus.taskStatus = some task.status ∧
      e.msg = .manager (.resolveChallenge t reportStatus digest slashBps)) ∧
    ∀ e' ∈ newer, (e'.before.manager.tasks t).status = task.status

/-- What the calls `l` have to do with the report on the task `t`. -/
structure ReportTrace (t : Bytes32) (task : Task) (confirmedBy : Address → Bool) (now : ℕ)
    (l : List (BondEntry τ)) : Prop where
  unreported : task.status.isReported = false → task.status.isTerminal = false →
    ∀ a, confirmedBy a = false
  reportedAt : task.status.isReported = true → task.reportedAt ≤ now
  confirmed : task.status.isReportBacked = true → task.challengeResolved = false →
    confirmedBy task.verifier = true ∧ ∃ confirmers : List Address, confirmers.Nodup ∧
      confirmers.length = task.reportConfirmations ∧ task.verifier ∉ confirmers ∧
      ∀ a ∈ confirmers, confirmedBy a = true ∧ ConfirmedIn t task l a
  resolved : task.status.isReportBacked = true → task.challengeResolved = true →
    SetByResolution t task l

section traces

variable {task : Task} {confirmedBy : Address → Bool} {now : ℕ} {l : List (BondEntry τ)}
  {e : BondEntry τ}

theorem ConfirmedIn.cons {a : Address} (h : ConfirmedIn t task l a) (e : BondEntry τ) :
    ConfirmedIn t task (e :: l) a := by
  obtain ⟨e', he', h⟩ := h
  exact ⟨e', List.mem_cons_of_mem e he', h⟩

theorem SetByResolution.cons (h : SetByResolution t task l)
    (hsame : (e.before.manager.tasks t).status = task.status) :
    SetByResolution t task (e :: l) := by
  obtain ⟨newer, e', older, rfl, hmsg, hnewer⟩ := h
  refine ⟨e :: newer, e', older, rfl, hmsg, fun x hx => ?_⟩
  rcases List.mem_cons.mp hx with rfl | hx
  · exact hsame
  · exact hnewer x hx

/-- A call that leaves the task alone. -/
theorem ReportTrace.cons (h : ReportTrace t task confirmedBy now l)
    (hsame : (e.before.manager.tasks t).status = task.status) :
    ReportTrace t task confirmedBy now (e :: l) := by
  refine ⟨h.unreported, h.reportedAt, fun hbacked hresolved => ?_,
    fun hbacked hresolved => (h.resolved hbacked hresolved).cons hsame⟩
  obtain ⟨hverifier, confirmers, hnodup, hlength, hnot, hall⟩ := h.confirmed hbacked hresolved
  exact ⟨hverifier, confirmers, hnodup, hlength, hnot,
    fun a ha => ⟨(hall a ha).1, (hall a ha).2.cons e⟩⟩

theorem ReportTrace.later (h : ReportTrace t task confirmedBy now l) {later : ℕ}
    (hlater : now ≤ later) : ReportTrace t task confirmedBy later l :=
  ⟨h.unreported, fun hreported => (h.reportedAt hreported).trans hlater, h.confirmed, h.resolved⟩

/-- A task without a report has no confirmations. -/
theorem ReportTrace.of_unreported (hstatus : task.status.isReported = false)
    (h : task.status.isTerminal = false → ∀ a, confirmedBy a = false) :
    ReportTrace t task confirmedBy now l := by
  have hnot : task.status.isReportBacked = true → False := fun hbacked =>
    ne_true_of_eq_false hstatus (isReported_of_reportBacked hbacked)
  exact ⟨fun _ => h, fun hreported => absurd hreported (ne_true_of_eq_false hstatus),
    fun hbacked => (hnot hbacked).elim, fun hbacked => (hnot hbacked).elim⟩

theorem ReportTrace.of_terminal (hstatus : task.status.isTerminal = true) :
    ReportTrace t task confirmedBy now l := by
  exact .of_unreported (isReported_of_terminal hstatus) fun hlive =>
    absurd hstatus (ne_true_of_eq_false hlive)

/-- A task that the newest call has resolved. -/
theorem ReportTrace.of_resolved (hbacked : task.status.isReportBacked = true)
    (hresolved : task.challengeResolved = true) (hat : task.reportedAt ≤ now)
    {reportStatus : ReportStatus} {digest : Bytes32} {slashBps : UInt16}
    (hreport : reportStatus.taskStatus = some task.status)
    (hmsg : e.msg = .manager (.resolveChallenge t reportStatus digest slashBps)) :
    ReportTrace t task confirmedBy now (e :: l) := by
  exact ⟨fun hreported => absurd (isReported_of_reportBacked hbacked) (ne_true_of_eq_false hreported),
    fun _ => hat, fun _ hnot => absurd hresolved (ne_true_of_eq_false hnot),
    fun _ _ => ⟨[], e, l, rfl, ⟨_, _, _, hreport, hmsg⟩, by simp⟩⟩

/-- A confirmation adds its sender to the confirmers. -/
theorem ReportTrace.confirms {sender : Address}
    (h : ReportTrace t task confirmedBy now l) (hstatus : task.status.isReportBacked = true)
    (hnew : confirmedBy sender = false)
    (hconfirmed : ConfirmedIn t task (e :: l) sender)
    (hsame : (e.before.manager.tasks t).status = task.status) :
    ReportTrace t task.confirm (update confirmedBy sender true) now (e :: l) := by
  refine ⟨fun hreported => ?_, h.reportedAt, fun hbacked hresolved => ?_,
    fun hbacked hresolved => (h.resolved hbacked hresolved).cons hsame⟩
  · exact absurd (isReported_of_reportBacked hstatus) (ne_true_of_eq_false hreported)
  · obtain ⟨hverifier, confirmers, hnodup, hlength, hnot, hall⟩ := h.confirmed hbacked hresolved
    have hne : task.verifier ≠ sender := by
      rintro rfl
      rw [hverifier] at hnew
      cases hnew
    refine ⟨(update_of_ne hne _ _).trans hverifier, sender :: confirmers,
      List.nodup_cons.mpr ⟨fun hmem => ?_, hnodup⟩, by simp [hlength, Task.confirm],
      fun hmem => ?_, fun a ha => ?_⟩
    · rw [(hall sender hmem).1] at hnew
      cases hnew
    · exact (List.mem_cons.mp hmem).elim hne hnot
    · by_cases hsender : a = sender
      · subst hsender
        exact ⟨update_self .., hconfirmed⟩
      · have hmem := (List.mem_cons.mp ha).resolve_left hsender
        rw [update_of_ne hsender]
        exact ⟨(hall a hmem).1, (hall a hmem).2.cons e⟩

end traces

/-! ### Steps -/

/-- A call about the task `t`. -/
theorem ManagerStep.reportTrace {sender : Address} {msg : AgentBondManager.Msg}
    {l : List (BondEntry τ)} (hstep : ManagerStep D sender msg w w' t) (hw : AllRecorded D w)
    (h : ReportTrace t (w.manager.tasks t) (w.manager.reportConfirmedBy t) w.now l) :
    ReportTrace t (w'.manager.tasks t) (w'.manager.reportConfirmedBy t) w'.now
      (⟨sender, .manager msg, w⟩ :: l) := by
  have hconfirmedBy := hstep.confirmedBy
  have hkept (hmsg : msg.attests = false) :
      w'.manager.reportConfirmedBy t = w.manager.reportConfirmedBy t := by
    rw [hconfirmedBy, hmsg]
    rfl
  have hattested (hmsg : msg.attests = true) : w'.manager.reportConfirmedBy t =
      update (w.manager.reportConfirmedBy t) sender true := by
    rw [hconfirmedBy, if_pos hmsg, update_self]
  rw [hstep.now]
  generalize hnew : w'.manager.tasks t = new
  generalize w'.manager.reportConfirmedBy t = confirmedBy at *
  have hstep' := hstep.step
  rw [hnew] at hstep'
  cases hstep' with
  | opens hmsg hnone =>
    have hempty := (hw t).empty hnone
    refine .of_unreported rfl fun _ => ?_
    rw [hkept (by cases msg <;> first | rfl | cases hmsg)]
    exact h.unreported (by rw [hempty]; rfl) (by rw [hempty]; rfl)
  | cancels => exact .of_terminal rfl
  | accepts hexists hstatus | starts hexists hstatus =>
    refine .of_unreported rfl fun _ => ?_
    rw [hkept rfl]
    exact h.unreported (by rw [hstatus]; rfl) (by rw [hstatus]; rfl)
  | commits hexists hstatus =>
    refine .of_unreported rfl fun _ => ?_
    rw [hkept rfl]
    exact h.unreported (by rcases hstatus with hs | hs <;> rw [hs] <;> rfl)
      (by rcases hstatus with hs | hs <;> rw [hs] <;> rfl)
  | reports hexists hstatus hsender havailable hreport =>
    have hbacked := isReportBacked_of_taskStatus hreport
    refine ⟨fun hreported => ?_, fun _ => le_rfl, fun _ _ => ⟨?_, [], ?_⟩, fun _ hresolved => ?_⟩
    · exact absurd (isReported_of_reportBacked hbacked) (ne_true_of_eq_false hreported)
    · rw [hattested rfl, hsender]
      exact update_self ..
    · exact ⟨List.nodup_nil, rfl, List.not_mem_nil, nofun⟩
    · cases hresolved
  | confirms hexists hstatus heligible hnone hnow hreport hdigest =>
    rw [hattested rfl]
    refine h.confirms hstatus hnone ⟨_, List.mem_cons_self, rfl, ⟨_, hreport, ?_⟩, heligible,
      h.reportedAt (isReported_of_reportBacked hstatus), hnow⟩ rfl
    rw [hdigest]
  | challenges hexists hstatus =>
    have hreported := isReported_of_reportBacked hstatus
    exact ⟨nofun, fun _ => h.reportedAt hreported, nofun, nofun⟩
  | resolves hexists hstatus hreport =>
    exact .of_resolved (isReportBacked_of_taskStatus hreport) rfl
      (h.reportedAt (by rw [hstatus]; rfl)) hreport rfl
  | settles =>
    refine .of_terminal ?_
    rw [Task.status_ended]
    exact TaskStatus.isTerminal_settlement _
  | expires =>
    refine .of_terminal ?_
    rw [Task.status_ended]
    rfl

/-! ### Runs -/

section runs

variable [ERC20SettlementToken τ] {ok : Address → BondMsg → World τ → Prop} {w₀ : World τ}
  {l : List (BondEntry τ)}

theorem BondRun.reportTrace (h₀ : w₀.Deployed D) (hrun : BondRun D ok w₀ l w) (t : Bytes32) :
    ReportTrace t (w.manager.tasks t) (w.manager.reportConfirmedBy t) w.now l := by
  induction hrun with
  | start =>
    obtain ⟨owner, guardian, authority, hm⟩ := h₀.manager
    rw [hm]
    exact .of_unreported rfl fun _ _ => rfl
  | @call l w w' sender msg hrun hsender hok h ih =>
    have hnow := (bondCall_now_quote h).1
    rcases taskStep_of_bondCall h t with ⟨-, htask, hconfirmed⟩ | ⟨m, rfl, hstep⟩
    · rw [htask, hconfirmed, hnow]
      exact ih.cons rfl
    · exact hstep.reportTrace (hrun.recorded h₀) ih
  | time _ hlater ih => exact ih.later hlater
  | token _ _ ih => exact ih

/-- **Report finality**: a call that takes a task from Verified to Settled or from Failed to Slashed
is a settlement, and before it a resolution had set the status, or the window of the report had
passed and enough distinct eligible verifiers other than the reporter had confirmed the report
inside the window. -/
theorem report_finality {e : BondEntry τ} (h₀ : w₀.Deployed D)
    (hrun : BondRun D ok w₀ (e :: l) w) {t : Bytes32} {task : Task}
    (htask : task = e.before.manager.tasks t)
    (hends : task.status = .verified ∧ (w.manager.tasks t).status = .settled ∨
      task.status = .failed ∧ (w.manager.tasks t).status = .slashed) :
    e.msg = .manager (.settleTask t) ∧ (SetByResolution t task l ∨
      task.reportedAt + task.disputeWindow < e.before.now ∧
      ∃ confirmers : List Address, confirmers.Nodup ∧
        task.requiredConfirmations ≤ confirmers.length ∧
        ∀ a ∈ confirmers, a ≠ task.verifier ∧ ConfirmedIn t task l a) := by
  obtain ⟨hbefore, -, -, w', h, hw⟩ := hrun.newest
  have htasks : w.manager.tasks = w'.manager.tasks := by rw [hw]
  have hbacked : task.status.isReportBacked = true := by
    rcases hends with ⟨hs, -⟩ | ⟨hs, -⟩ <;> rw [hs] <;> rfl
  have hended : (w'.manager.tasks t).status.isTerminal = true := by
    rw [← htasks]
    rcases hends with ⟨-, hs⟩ | ⟨-, hs⟩ <;> rw [hs] <;> rfl
  rcases taskStep_of_bondCall h t with ⟨-, hsame, -⟩ | ⟨m, hmsg, hstep⟩
  · rw [hsame, ← htask] at hended
    exact absurd (isBonded_of_terminal hended)
      (ne_false_of_eq_true (isBonded_of_reportBacked hbacked))
  · obtain ⟨rfl, hfinal⟩ := hstep.step.settles_of_ended (htask ▸ hbacked) hended
    have htrace := hbefore.reportTrace h₀ t
    rw [← htask] at hfinal htrace
    refine ⟨hmsg, ?_⟩
    by_cases hresolved : task.challengeResolved = true
    · exact .inl (htrace.resolved hbacked hresolved)
    · have hopen := Bool.eq_false_of_not_eq_true hresolved
      obtain ⟨-, -, hpassed, henough⟩ := hfinal ⟨hends.imp And.left And.left, hopen⟩
      obtain ⟨-, confirmers, hnodup, hlength, hnot, hall⟩ := htrace.confirmed hbacked hopen
      refine .inr ⟨hpassed, confirmers, hnodup, hlength ▸ henough, fun a ha => ⟨?_, (hall a ha).2⟩⟩
      rintro rfl
      exact hnot ha

end runs

/-- A failed task is settled on the confirmation of another verifier. -/
theorem report_finality_sample :
    ∃ e l w, follow sampleDeployment sampleClaimed ([], sampleWorld) = some (e :: l, w) ∧
      e.msg = .manager (.settleTask 100) ∧ (w.manager.tasks 100).status = .slashed ∧
      (SetByResolution 100 (e.before.manager.tasks 100) l ∨
        ∃ confirmers : List Address, confirmers.Nodup ∧ 1 ≤ confirmers.length) := by
  have hfacts : (follow sampleDeployment sampleClaimed ([], sampleWorld)).bind
      (fun s => s.1.head?.map fun e => ((e.before.manager.tasks 100).status,
        (e.before.manager.tasks 100).requiredConfirmations, (s.2.manager.tasks 100).status)) =
        some (.failed, 1, .slashed) := by rfl
  obtain ⟨⟨l, w⟩, hw, htask⟩ := Option.bind_eq_some_iff.mp hfacts
  obtain ⟨e, he, htask⟩ := Option.map_eq_some_iff.mp htask
  obtain ⟨l, rfl⟩ := List.head?_eq_some_iff.mp he
  simp only [Prod.mk.injEq] at htask
  obtain ⟨hbefore, hrequired, hafter⟩ := htask
  have hrun : BondRun sampleDeployment (fun _ _ _ => True) sampleWorld (e :: l) w :=
    BondRun.start.follow (by decide) (fun _ _ _ => trivial) hw
  obtain ⟨hmsg, hfinal⟩ := report_finality deployed_sampleWorld hrun rfl (.inr ⟨hbefore, hafter⟩)
  refine ⟨e, l, w, hw, hmsg, hafter, hfinal.imp_right ?_⟩
  rintro ⟨-, confirmers, hnodup, henough, -⟩
  rw [hrequired] at henough
  exact ⟨confirmers, hnodup, henough⟩

end FlowMemory.AgentBonds
