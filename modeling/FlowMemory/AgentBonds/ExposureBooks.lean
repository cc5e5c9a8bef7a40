import FlowMemory.AgentBonds.CoverageMoves

/-! # The books of bonds and recourse

The stake registry keeps the bonds of each agent, and the manager keeps the coverage of each
requester, agent and verifier.  In every run in which the manager is the only one to record bonds
and to allocate coverage, each entry is a total over the accepted tasks that have not ended.  So the
end of a task always finds the amounts that it takes back. -/

namespace FlowMemory.AgentBonds

open Call ERC20SettlementToken AgentBondManager

variable {τ : Type} {D : Deployment} {w w' : World τ} {sender : Address}
  {msg : AgentBondManager.Msg} {w₀ : World τ} {l : List (BondEntry τ)}

/-! ### Ledgers -/

/-- A ledger of coverage with the limit of its entries. -/
structure RecourseLedger where
  entry : AgentBondManager → Address → ℕ
  cap : ManagerSettings → ℕ
  party : Task → Address
  deployed : ∀ owner guardian authority a, entry (.deployed owner guardian authority) a = 0
  settings : ∀ m s a, entry { m with settings := s } a = entry m a
  moves : ∀ {D : Deployment} {τ : Type} [ERC20SettlementToken τ] {w w' : World τ} {t : Bytes32},
    TaskMove D w w' t → ∀ a, entry w'.manager a + (w.manager.tasks t).coverOf party a =
      entry w.manager a + (w'.manager.tasks t).coverOf party a
  kept : ∀ {old new : Task}, SameTerms old new → new.agent = old.agent → party new = party old
  limit : ∀ {D : Deployment} {τ : Type} {w : World τ} {sender : Address} {t : Bytes32}
    {old new : Task}, TaskStep D w sender t (.acceptTask t) old new → old.Covered →
      UnderCap (cap w.manager.settings) (entry w.manager (party new)) old.recourseCoverage

theorem TaskStep.coverageAllowed {D : Deployment} {τ : Type} {w : World τ}
    {t : Bytes32} {old new : Task} (h : TaskStep D w sender t (.acceptTask t) old new) :
    CoverageAllowed w old sender ∧ new.agent = sender ∧ new.requester = old.requester ∧
      new.verifier = old.verifier := by
  cases h with
  | opens hopens => cases hopens
  | accepts hexists hstatus hsender hbond hauthority hcapacity hallowed =>
    exact ⟨hallowed, rfl, rfl, rfl⟩

def requesterLedger : RecourseLedger where
  entry := recourseCoverageByRequester
  cap := ManagerSettings.maxRecourseCoveragePerRequester
  party := Task.requester
  deployed _ _ _ _ := rfl
  settings _ _ _ := rfl
  moves h := h.byRequester
  kept h _ := h.requester
  limit h hcovered := by
    obtain ⟨hallowed, -, hparty, -⟩ := h.coverageAllowed
    rw [hparty]
    exact (hallowed hcovered).2.1

def agentLedger : RecourseLedger where
  entry := recourseCoverageByAgent
  cap := ManagerSettings.maxRecourseCoveragePerAgent
  party := Task.agent
  deployed _ _ _ _ := rfl
  settings _ _ _ := rfl
  moves h := h.byAgent
  kept _ hagent := hagent
  limit h hcovered := by
    obtain ⟨hallowed, hparty, -, -⟩ := h.coverageAllowed
    rw [hparty]
    exact (hallowed hcovered).2.2.1

def verifierLedger : RecourseLedger where
  entry := recourseCoverageByVerifier
  cap := ManagerSettings.maxRecourseCoveragePerVerifier
  party := Task.verifier
  deployed _ _ _ _ := rfl
  settings _ _ _ := rfl
  moves h := h.byVerifier
  kept h _ := h.verifier
  limit h hcovered := by
    obtain ⟨hallowed, -, -, hparty⟩ := h.coverageAllowed
    rw [hparty]
    exact (hallowed hcovered).2.2.2

/-- The limit was `c` whenever a task was accepted. -/
def CapFixed (cap : ManagerSettings → ℕ) (c : ℕ) (l : List (BondEntry τ)) : Prop :=
  ∀ e ∈ l, ∀ t, e.msg = .manager (.acceptTask t) → cap e.before.manager.settings = c

/-! ### Totals -/

structure ExposureBooks (D : Deployment) (w : World τ) : Prop where
  authority : w.stakes.slashAuthority = D.manager ∨
    w.stakes.slashAuthority = 0 ∧ ∀ t, (w.manager.tasks t).status.isBonded = false
  bonds : ∀ a, w.stakes.openBondExposure a = ∑ t, (w.manager.tasks t).bondOf a
  coverage : ∀ (ledger : RecourseLedger) a, ledger.entry w.manager a =
    ∑ t, (w.manager.tasks t).coverOf ledger.party a

theorem ExposureBooks.deployed (h : w.Deployed D) : ExposureBooks D w := by
  obtain ⟨owner, guardian, authority, hm⟩ := h.manager
  obtain ⟨stakeOwner, a, b, c, d, hs⟩ := h.stakes
  have hbond (x : Address) : Task.empty.bondOf x = 0 := Task.bondOf_of_unbonded rfl x
  refine ⟨.inr ⟨by rw [hs]; rfl, fun t => by rw [hm]; rfl⟩, ?_, fun ledger a => ?_⟩
  · simp [hm, hs, AgentBondManager.deployed, AgentStakeRegistry.deployed, hbond]
  · have hcover : Task.empty.coverOf ledger.party a = 0 := Task.coverOf_of_unbonded rfl ledger.party a
    rw [hm, ledger.deployed]
    simp [AgentBondManager.deployed, hcover]

/-- The books after a call that leaves the ledgers alone. -/
theorem ExposureBooks.congr (h : ExposureBooks D w) (hmanager : w'.manager = w.manager)
    (hexposure : w'.stakes.openBondExposure = w.stakes.openBondExposure)
    (hauthority : w'.stakes.slashAuthority = w.stakes.slashAuthority ∨
      w'.stakes.slashAuthority = D.manager) : ExposureBooks D w' := by
  refine ⟨?_, ?_, ?_⟩
  · rcases hauthority with heq | heq
    · rw [heq, hmanager]
      exact h.authority
    · exact .inl heq
  · rw [hexposure, hmanager]
    exact h.bonds
  · rw [hmanager]
    exact h.coverage

theorem ExposureBooks.ne_slashAuthority (h : ExposureBooks D w) (hsender : D.External sender) :
    sender ≠ w.stakes.slashAuthority := by
  rintro rfl
  rcases h.authority with hm | ⟨hzero, -⟩
  · exact hsender.2.1 hm
  · exact hsender.1 hzero

/-- A total follows the amount of the task. -/
theorem total_follows (amount : Task → ℕ) {t : Bytes32} {old new : ℕ}
    (htasks : w'.manager.tasks = Function.update w.manager.tasks t (w'.manager.tasks t))
    (hold : old = ∑ t, amount (w.manager.tasks t))
    (hmove : new + amount (w.manager.tasks t) = old + amount (w'.manager.tasks t)) :
    new = ∑ t, amount (w'.manager.tasks t) := by
  have htotal := tally_update amount w.manager.tasks t (w'.manager.tasks t)
  rw [← htasks] at htotal
  omega

/-! ### The end of a task -/

section ends

variable {t : Bytes32}

/-- The amount of one task is a part of the total. -/
theorem amount_le_total (amount : Task → ℕ) (w : World τ) (t : Bytes32) :
    amount (w.manager.tasks t) ≤ ∑ t, amount (w.manager.tasks t) :=
  Finset.single_le_sum (f := fun t => amount (w.manager.tasks t)) (fun _ _ => Nat.zero_le _)
    (Finset.mem_univ t)

theorem ExposureBooks.bond_le (h : ExposureBooks D w)
    (hbonded : (w.manager.tasks t).status.isBonded = true) :
    (w.manager.tasks t).agentBond ≤
      w.stakes.openBondExposure (w.manager.tasks t).agent := by
  have hle := amount_le_total (Task.bondOf · (w.manager.tasks t).agent) w t
  simp only [Task.bondOf_of_bonded hbonded, if_true] at hle
  rw [h.bonds]
  exact hle

theorem ExposureBooks.authority_of_bonded (h : ExposureBooks D w)
    (hbonded : (w.manager.tasks t).status.isBonded = true) :
    w.stakes.slashAuthority = D.manager := by
  rcases h.authority with hm | ⟨-, hunbonded⟩
  · exact hm
  · rw [hunbonded] at hbonded
    cases hbonded

/-- The bond of a task can be closed. -/
theorem ExposureBooks.exists_closedBond (h : ExposureBooks D w) (hw : AllRecorded D w)
    (hbonded : (w.manager.tasks t).status.isBonded = true) :
    ∃ r, AgentStakeRegistry.recordClosedBond ⟨D.manager, w.now⟩ (w.manager.tasks t).agent
      (w.manager.tasks t).agentBond w.stakes = .ok ((), r) := by
  obtain ⟨hagent, hbond⟩ := (hw t).bonded hbonded
  exact ⟨_, AgentStakeRegistry.recordClosedBond_ok.mpr
    ⟨(h.authority_of_bonded hbonded).symm, hagent, hbond, h.bond_le hbonded, rfl⟩⟩

/-- The coverage of a task is in the ledgers. -/
theorem ExposureBooks.canLower (h : ExposureBooks D w)
    (hbonded : (w.manager.tasks t).status.isBonded = true)
    (hcovered : (w.manager.tasks t).Covered) : CanLower w (w.manager.tasks t) := by
  have hcoverage : (w.manager.tasks t).coverage = (w.manager.tasks t).recourseCoverage :=
    if_pos hcovered
  have hle (ledger : RecourseLedger) : (w.manager.tasks t).recourseCoverage ≤
      ledger.entry w.manager (ledger.party (w.manager.tasks t)) := by
    have := amount_le_total (Task.coverOf · ledger.party (ledger.party (w.manager.tasks t))) w t
    simp only [Task.coverOf_of_bonded hbonded, if_true, hcoverage] at this
    rw [h.coverage]
    exact this
  exact ⟨hle requesterLedger, hle agentLedger, hle verifierLedger⟩

/-- The ledgers of recourse can be lowered. -/
theorem ExposureBooks.exists_decrease (h : ExposureBooks D w) (hw : AllRecorded D w)
    (hbonded : (w.manager.tasks t).status.isBonded = true) :
    ∃ m, decreaseRecourseExposure (w.manager.tasks t).requester (w.manager.tasks t).agent
      (w.manager.tasks t).verifier (w.manager.tasks t).recourseCoverage w.manager =
        .ok ((), m) := by
  by_cases hzero : (w.manager.tasks t).recourseCoverage = 0
  · rw [hzero]
    exact ⟨w.manager, rfl⟩
  · have hexists : (w.manager.tasks t).exists_ = true := by
      by_contra hnot
      rw [(hw t).empty (Bool.eq_false_of_not_eq_true hnot)] at hzero
      exact hzero rfl
    have hcovered : (w.manager.tasks t).Covered :=
      ⟨fun hpool => hzero (((hw t).opened hexists).covered.mp hpool), hzero⟩
    obtain ⟨hrequester, hagent, hverifier⟩ := h.canLower hbonded hcovered
    exact ⟨_, (decreaseRecourseExposure_ok hzero).mpr ⟨hrequester, hagent, hverifier, rfl⟩⟩

/-- The pool of a task can release its coverage. -/
theorem PoolBooks.exists_release (h : PoolBooks D (w.manager.tasks t).recoursePool w)
    (hbonded : (w.manager.tasks t).status.isBonded = true)
    (hcovered : (w.manager.tasks t).Covered) :
    ∃ s, AgentUnderwriterPool.releaseForTask ⟨D.manager, w.now⟩ t
      (w.withPool D (w.manager.tasks t).recoursePool) =
        .ok ((w.manager.tasks t).recourseCoverage, s) := by
  have hcover := Task.coverAt_of_bonded hbonded hcovered (w.manager.tasks t).recoursePool
  rw [if_pos rfl] at hcover
  have hlocked := h.locked t
  rw [hcover] at hlocked
  have hle : (w.pools (w.manager.tasks t).recoursePool).lockedByTask t ≤
      ∑ t', (w.pools (w.manager.tasks t).recoursePool).lockedByTask t' :=
    Finset.single_le_sum (fun _ _ => Nat.zero_le _) (Finset.mem_univ t)
  have hallocated := h.allocated t (by rw [hcover]; exact hcovered.2)
  refine ⟨_, AgentUnderwriterPool.releaseForTask_ok.mpr
    ⟨hallocated, hlocked.symm, hcovered.2, ?_, ?_, rfl⟩⟩
  · rw [← hlocked]
    exact hle.trans h.balanced.totalLocked.ge
  · rw [← hlocked]
    exact hle.trans h.balanced.totalAllocated.ge

end ends

/-! ### Runs -/

variable [ERC20SettlementToken τ]

/-- The books after a call about a task. -/
theorem ExposureBooks.move (h : ExposureBooks D w)
    {t : Bytes32} (hstep : ManagerStep D sender msg w w' t) (hmove : TaskMove D w w' t) :
    ExposureBooks D w' := by
  refine ⟨?_, fun a => ?_, fun ledger a => ?_⟩
  · rw [hstep.rules.slashAuthority]
    rcases h.authority with hm | ⟨hzero, hunbonded⟩
    · exact .inl hm
    · by_cases hnew : (w'.manager.tasks t).status.isBonded = true
      · rcases hstep.step.bonded_cases hnew with rfl | ⟨-, hold, -⟩
        · exact .inl hstep.step.accepted.2.2.2.1
        · rw [hunbonded] at hold
          cases hold
      · refine .inr ⟨hzero, fun t' => ?_⟩
        rw [hstep.tasks]
        by_cases ht : t' = t
        · rw [ht, Function.update_self]
          exact Bool.eq_false_of_not_eq_true hnew
        · rw [Function.update_of_ne ht]
          exact hunbonded t'
  · exact total_follows (Task.bondOf · a) hmove.tasks (h.bonds a) (hmove.bonds a)
  · exact total_follows (Task.coverOf · ledger.party a) hmove.tasks (h.coverage ledger a)
      (ledger.moves hmove a)

theorem ExposureBooks.call (h : ExposureBooks D w) (hw : AllRecorded D w)
    (hsender : D.External sender) {msg : BondMsg} {u : Unit} (hwired : StakesWired D sender msg w)
    (hcall : bondCall D sender msg w = .ok (u, w')) : ExposureBooks D w' := by
  cases msg with
  | manager m =>
    rcases taskMove_of_call hsender hw hcall with ⟨s, rfl⟩ | ⟨t, hstep, hmove, -⟩
    · exact ⟨h.authority, h.bonds,
        fun ledger a => (ledger.settings _ s a).trans (h.coverage ledger a)⟩
    · exact h.move hstep hmove
  | stakes m =>
    obtain ⟨s, hs, rfl⟩ := within_ok.mp hcall
    obtain ⟨hexposure, hauthority, -⟩ :=
      AgentStakeRegistry.call_outside (h.ne_slashAuthority hsender) hs
    refine h.congr rfl hexposure (hauthority.imp_right fun hmsg => ?_)
    subst hmsg
    exact hwired
  | _ =>
    have hframe := bondCall_frame hcall nofun
    have hstakes := hframe.stakes nofun
    exact h.congr hframe.manager (by rw [hstakes]) (.inl (by rw [hstakes]))

theorem BondRun.exposureBooks (h₀ : w₀.Deployed D)
    (hrun : BondRun D (StakesWired D) w₀ l w) : ExposureBooks D w := by
  induction hrun with
  | start => exact .deployed h₀
  | call hrun hsender hok h ih => exact ih.call (hrun.recorded h₀) hsender hok h
  | time _ _ ih | token _ _ ih => exact ih.congr rfl rfl (.inl rfl)

/-- A call about a task keeps the limit. -/
theorem RecourseLedger.move (ledger : RecourseLedger) {c : ℕ} (hc : c ≠ 0) {t : Bytes32}
    (hcap : msg = .acceptTask t → ledger.cap w.manager.settings = c)
    (hstep : ManagerStep D sender msg w w' t) (hmove : TaskMove D w w' t) {a : Address}
    (h : ledger.entry w.manager a ≤ c) : ledger.entry w'.manager a ≤ c := by
  have hentry := ledger.moves hmove a
  by_cases hnew : (w'.manager.tasks t).status.isBonded = true
  · rcases hstep.step.bonded_cases hnew with rfl | ⟨hexists, hold, hagent⟩
    · obtain ⟨hexists, hopen, -⟩ := hstep.step.accepted
      have hterms := hstep.step.terms hexists
      have hunbonded : (w.manager.tasks t).status.isBonded = false := by rw [hopen]; rfl
      rw [Task.coverOf_of_unbonded hunbonded, Task.coverOf_of_bonded hnew, hterms.coverage]
        at hentry
      unfold Task.coverage at hentry
      split_ifs at hentry with hparty hcovered
      · have hlimit := ledger.limit hstep.step hcovered
        rw [hcap rfl, hparty] at hlimit
        have := (hlimit hc).2
        omega
      · omega
      · omega
    · have hterms := hstep.step.terms hexists
      have hsame : (w'.manager.tasks t).coverOf ledger.party a =
          (w.manager.tasks t).coverOf ledger.party a := by
        simp only [Task.coverOf, ledger.kept hterms hagent, hterms.cover (hnew.trans hold.symm)]
      omega
  · rw [Task.coverOf_of_unbonded (Bool.eq_false_of_not_eq_true hnew)] at hentry
    omega

theorem BondRun.entry_le_cap (ledger : RecourseLedger) {ok : Address → BondMsg → World τ → Prop}
    (h₀ : w₀.Deployed D) (hrun : BondRun D ok w₀ l w)
    {c : ℕ} (hc : c ≠ 0) (hcap : CapFixed ledger.cap c l) (a : Address) :
    ledger.entry w.manager a ≤ c := by
  induction hrun with
  | start =>
    obtain ⟨owner, guardian, authority, hm⟩ := h₀.manager
    rw [hm, ledger.deployed]
    exact Nat.zero_le _
  | @call l w w' sender msg hrun hsender hok h ih =>
    rw [CapFixed, List.forall_mem_cons] at hcap
    have hold := ih hcap.2
    by_cases hmsg : ∃ m, msg = .manager m
    · obtain ⟨m, rfl⟩ := hmsg
      rcases taskMove_of_call hsender (hrun.recorded h₀) h with ⟨s, rfl⟩ | ⟨t, hstep, hmove, -⟩
      · rw [ledger.settings]
        exact hold
      · exact ledger.move hc (fun hm => hcap.1 t (by rw [hm])) hstep hmove hold
    · rw [(bondCall_frame h fun m hm => hmsg ⟨m, hm⟩).manager]
      exact hold
  | time _ _ ih | token _ _ ih => exact ih hcap

/-- **Exposure books**: in every run in which the manager is the only one to record bonds and to
allocate coverage, the open bonds of an agent and the coverage of a requester, an agent and a
verifier are the totals over the accepted tasks that have not ended, a limit on coverage that is
fixed holds, and a pool has locked the coverage of these tasks and nothing else.  So the bond of
such a task can be closed, its coverage can be taken out of the ledgers and its pool can release
it. -/
theorem exposure_books {w₀ : World τ} {l : List (BondEntry τ)} (h₀ : w₀.Deployed D)
    (hrun : BondRun D (LedgersWired D) w₀ l w) :
    (∀ a, w.stakes.openBondExposure a = ∑ t, (w.manager.tasks t).bondOf a) ∧
    (∀ a, w.manager.recourseCoverageByRequester a =
      ∑ t, (w.manager.tasks t).coverOf Task.requester a) ∧
    (∀ a, w.manager.recourseCoverageByAgent a = ∑ t, (w.manager.tasks t).coverOf Task.agent a) ∧
    (∀ a, w.manager.recourseCoverageByVerifier a =
      ∑ t, (w.manager.tasks t).coverOf Task.verifier a) ∧
    (∀ ledger ∈ [requesterLedger, agentLedger, verifierLedger], ∀ c, c ≠ 0 →
      CapFixed ledger.cap c l → ∀ a, ledger.entry w.manager a ≤ c) ∧
    (∀ p, D.isPool p = true → ∀ t,
      (w.pools p).lockedByTask t = (w.manager.tasks t).coverAt p) ∧
    ∀ t task, task = w.manager.tasks t → task.status.isBonded = true →
      (∃ r, AgentStakeRegistry.recordClosedBond ⟨D.manager, w.now⟩ task.agent task.agentBond
        w.stakes = .ok ((), r)) ∧
      (∃ m, decreaseRecourseExposure task.requester task.agent task.verifier
        task.recourseCoverage w.manager = .ok ((), m)) ∧
      (task.Covered → ∃ s, AgentUnderwriterPool.releaseForTask ⟨D.manager, w.now⟩ t
        (w.withPool D task.recoursePool) = .ok (task.recourseCoverage, s)) := by
  have hw := hrun.recorded h₀
  have hbooks := (hrun.mono D fun _ _ _ h => h.1).exposureBooks h₀
  have hpools {p : Address} := (hrun.mono D fun _ _ _ h => h.2).poolBooks h₀ (p := p)
  refine ⟨hbooks.bonds, hbooks.coverage requesterLedger, hbooks.coverage agentLedger,
    hbooks.coverage verifierLedger,
    fun ledger _ c hc hcap a => hrun.entry_le_cap ledger h₀ hc hcap a,
    fun p hp => (hpools hp).locked, ?_⟩
  rintro t task rfl hbonded
  refine ⟨hbooks.exists_closedBond hw hbonded, hbooks.exists_decrease hw hbonded,
    fun hcovered => ?_⟩
  have hexists : (w.manager.tasks t).exists_ = true := by
    by_contra hnot
    rw [(hw t).empty (Bool.eq_false_of_not_eq_true hnot)] at hcovered
    exact hcovered.1 rfl
  exact (hpools (((hw t).opened hexists).isPool hcovered.1)).exists_release hbonded hcovered

/-- A covered task is opened and accepted. -/
def sampleCovered : List BondInput :=
  sampleSetup samplePolicy ++ samplePoolSetup ++
    [.call 1 (.manager (.openTaskWithRecourse 1 1 1 1000 3 30 500)),
      .call 2 (.manager (.acceptTask 100))]

/-- A bond of 100 and a coverage of 500 are on the books. -/
theorem exposure_books_sample :
    ∃ l w, follow sampleDeployment sampleCovered ([], sampleWorld) = some (l, w) ∧
      w.manager.recourseCoverageByAgent 2 = 500 ∧
      w.stakes.openBondExposure 2 = ∑ t, (w.manager.tasks t).bondOf 2 ∧
      (w.pools 30).lockedByTask 100 = (w.manager.tasks 100).coverAt 30 := by
  have hfacts : (follow sampleDeployment sampleCovered ([], sampleWorld)).map
      (fun s => s.2.manager.recourseCoverageByAgent 2) = some 500 := by rfl
  obtain ⟨⟨l, w⟩, hw, hcoverage⟩ := Option.map_eq_some_iff.mp hfacts
  have hrun : BondRun sampleDeployment (LedgersWired sampleDeployment) sampleWorld l w :=
    BondRun.start.follow (by decide)
      (by simp [calls, sampleCovered, sampleSetup, samplePoolSetup, LedgersWired, StakesWired,
        PoolsWired, sampleDeployment]) hw
  obtain ⟨hbonds, -, -, -, -, hlocked, -⟩ := exposure_books deployed_sampleWorld hrun
  exact ⟨l, w, hw, hcoverage, hbonds 2, hlocked 30 rfl 100⟩

end FlowMemory.AgentBonds
