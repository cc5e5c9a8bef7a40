import FlowMemory.AgentBonds.AgentBondManager

/-! # What a returning call of the manager did -/

namespace FlowMemory.AgentBonds

open Call ERC20SettlementToken Function

/-! ### Sums -/

/-- What the requester has put into the escrow. -/
def Task.requesterHeld (task : Task) : ℕ :=
  task.payout + task.verifierFee + task.requesterCancelBond

/-- What is in the escrow for an accepted task. -/
def Task.held (task : Task) : ℕ := task.requesterHeld + task.agentBond

@[simp] theorem sumChecked_eq_some {a b c n : ℕ} :
    sumChecked a b c = some n ↔ n = a + b + c ∧ n < 2 ^ 256 := by
  simp only [sumChecked, Option.bind_eq_some_iff, addChecked_eq_some]
  grind

@[simp] theorem Task.requesterEscrow_eq_some {task : Task} {n : ℕ} :
    task.requesterEscrow = some n ↔ n = task.requesterHeld ∧ n < 2 ^ 256 :=
  sumChecked_eq_some

@[simp] theorem Task.heldEscrow_eq_some {task : Task} {n : ℕ} :
    task.heldEscrow = some n ↔ n = task.held ∧ n < 2 ^ 256 := by
  simp only [Task.heldEscrow, Task.held, Option.bind_eq_some_iff, addChecked_eq_some,
    Task.requesterEscrow_eq_some]
  grind

/-! ### The ledgers of the manager -/

namespace AgentBondManager

section ledgers

variable {m m' : AgentBondManager} {u : Unit} {taskId : Bytes32} {task : Task} {n : ℕ}

@[simp] theorem blockTimestamp_eq_some {timestamp : ℕ} :
    blockTimestamp timestamp = some n ↔ timestamp < 2 ^ 64 ∧ n = timestamp := by
  unfold blockTimestamp
  split_ifs with h
  · simp
    omega
  · simp [eq_comm]
    omega

@[simp] theorem requireTask_ok : requireTask taskId m = .ok (task, m') ↔
    (m.tasks taskId).exists_ = true ∧ task = m.tasks taskId ∧ m' = m := by
  simp [requireTask, and_assoc, and_comm]

@[simp] theorem setTask_ok : setTask taskId task m = .ok (u, m') ↔
    m' = { m with tasks := update m.tasks taskId task } :=
  modify_ok

@[simp] theorem increaseOpenExposure_ok : increaseOpenExposure n m = .ok (u, m') ↔
    (n ≠ 0 → m.openExposure + n < 2 ^ 256 ∧
      (m.settings.maxOpenExposure ≠ 0 → m.openExposure + n ≤ m.settings.maxOpenExposure)) ∧
    m' = { m with openExposure := m.openExposure + n } := by
  unfold increaseOpenExposure
  split_ifs with h
  · simp [h]
  · simp [h, and_assoc]

@[simp] theorem decreaseOpenExposure_ok : decreaseOpenExposure n m = .ok (u, m') ↔
    n ≤ m.openExposure ∧ m' = { m with openExposure := m.openExposure - n } := by
  unfold decreaseOpenExposure
  split_ifs with h
  · simp [h]
  · simp [and_assoc]

attribute [simp] raiseTaskCount lowerTaskCount emitTaskPulse

/-- The recourse ledgers with three entries replaced. -/
def withRecourse (m : AgentBondManager) (requester agent verifier : Address)
    (f : ℕ → ℕ) : AgentBondManager :=
  { m with
    recourseCoverageByRequester := update m.recourseCoverageByRequester requester
      (f (m.recourseCoverageByRequester requester))
    recourseCoverageByAgent := update m.recourseCoverageByAgent agent
      (f (m.recourseCoverageByAgent agent))
    recourseCoverageByVerifier := update m.recourseCoverageByVerifier verifier
      (f (m.recourseCoverageByVerifier verifier)) }

theorem increaseRecourseExposure_ok {requester agent verifier : Address} (hn : n ≠ 0) :
    increaseRecourseExposure requester agent verifier n m = .ok (u, m') ↔
      m.recourseCoverageByRequester requester + n < 2 ^ 256 ∧
      m.recourseCoverageByAgent agent + n < 2 ^ 256 ∧
      m.recourseCoverageByVerifier verifier + n < 2 ^ 256 ∧
      m' = m.withRecourse requester agent verifier (· + n) := by
  rw [increaseRecourseExposure, if_neg (by omega)]
  simp [withRecourse, and_assoc]

theorem decreaseRecourseExposure_ok {requester agent verifier : Address} (hn : n ≠ 0) :
    decreaseRecourseExposure requester agent verifier n m = .ok (u, m') ↔
      n ≤ m.recourseCoverageByRequester requester ∧ n ≤ m.recourseCoverageByAgent agent ∧
      n ≤ m.recourseCoverageByVerifier verifier ∧
      m' = m.withRecourse requester agent verifier (· - n) := by
  rw [decreaseRecourseExposure, if_neg hn]
  simp [withRecourse, and_assoc]

end ledgers

end AgentBondManager

/-! ### Calls to the other contracts -/

attribute [simp] inManager callEscrow callEscrowToken callStakes callStakesToken callPool

namespace AgentBondManager

open TaskBondEscrow (Payment payAll)

variable {τ : Type} {D : Deployment} {sender : Address} {w w' : World τ}
  {u : Unit} {taskId : Bytes32} {task : Task}

/-! ### Checks -/

section checks

attribute [simp] whenNotPaused whenNotEmergencyStopped pilotCheck now64 verifierEligible getPolicy

variable {verifier : Address} {policyId : Bytes32}

theorem validateOpenTaskInput_ok {rootfieldId termsHash : Bytes32} {payout : ℕ}
    (h : (validateOpenTaskInput sender rootfieldId policyId termsHash payout verifier :
      BondAction τ Unit) w = .ok (u, w')) : payout ≠ 0 ∧ verifier ≠ 0 ∧ w' = w := by
  simp [validateOpenTaskInput, and_assoc] at h
  obtain ⟨-, -, -, hpayout, hverifier, -, -, -, -, -, rfl⟩ := h
  exact ⟨hpayout, hverifier, rfl⟩

/-- A limit holds, where zero is no limit. -/
def UnderCap (cap exposure coverage : ℕ) : Prop :=
  cap ≠ 0 → exposure + coverage < 2 ^ 256 ∧ exposure + coverage ≤ cap

@[simp] theorem recourseCap_ok {cap exposure coverage : ℕ} {e : ℕ → ℕ → BondError} :
    (recourseCap cap exposure coverage e : BondAction τ Unit) w = .ok (u, w') ↔
      UnderCap cap exposure coverage ∧ w' = w := by
  unfold recourseCap UnderCap
  split_ifs with h
  · simp [h]
  · simp [h, and_assoc]

/-- The attestation that the settings ask for is there. -/
def Attested (w : World τ) (task : Task) (agent : Address) : Prop :=
  w.manager.settings.requireRecourseAttestations = true →
    w.manager.settings.creditAttestationRegistry ≠ 0 ∧
    (w.attestations w.manager.settings.creditAttestationRegistry).isAttestationValid w.now agent
      task.policyId w.manager.settings.minimumRecourseScore
      w.manager.settings.maximumRecourseRiskBand = true

variable {agent : Address}

@[simp] theorem requireAttestation_ok :
    (requireAttestation task agent : BondAction τ Unit) w = .ok (u, w') ↔
      Attested w task agent ∧ w' = w := by
  simp only [requireAttestation, Attested, bind_ok, get_ok, and_assoc, exists_and_left,
    exists_eq_left]
  split_ifs with h
  · simp [h, and_assoc]
  · simp [h]

/-- The coverage of the task may be used by the agent. -/
def CoverageAllowed (w : World τ) (task : Task) (agent : Address) : Prop :=
  task.Covered → Attested w task agent ∧
    UnderCap w.manager.settings.maxRecourseCoveragePerRequester
      (w.manager.recourseCoverageByRequester task.requester) task.recourseCoverage ∧
    UnderCap w.manager.settings.maxRecourseCoveragePerAgent
      (w.manager.recourseCoverageByAgent agent) task.recourseCoverage ∧
    UnderCap w.manager.settings.maxRecourseCoveragePerVerifier
      (w.manager.recourseCoverageByVerifier task.verifier) task.recourseCoverage

@[simp] theorem validateRecourseAcceptance_ok :
    (validateRecourseAcceptance task agent : BondAction τ Unit) w = .ok (u, w') ↔
      CoverageAllowed w task agent ∧ w' = w := by
  unfold validateRecourseAcceptance CoverageAllowed Task.Covered
  split_ifs with h
  · have hnot : ¬ (task.recoursePool ≠ 0 ∧ task.recourseCoverage ≠ 0) := by tauto
    simp [hnot]
  · have hcovered : task.recoursePool ≠ 0 ∧ task.recourseCoverage ≠ 0 := by tauto
    simp [hcovered, and_assoc]

theorem ifCovered_ok {m : BondAction τ Unit} : ifCovered task m w = .ok (u, w') ↔
    (task.Covered → m w = .ok (u, w')) ∧ (¬ task.Covered → w' = w) := by
  unfold ifCovered
  by_cases h : task.Covered
  · rw [if_pos h]
    exact ⟨fun hm => ⟨fun _ => hm, fun hn => absurd h hn⟩, fun hm => hm.1 h⟩
  · rw [if_neg h]
    exact ⟨fun hw => ⟨fun hc => absurd hc h, fun _ => (pure_ok.mp hw).2⟩,
      fun hw => pure_ok.mpr ⟨rfl, hw.2 h⟩⟩

theorem validateRecourseConfiguration_ok [ERC20SettlementToken τ] {riskTier : UInt8}
    {pool : Address} {coverage : ℕ}
    (h : (validateRecourseConfiguration D riskTier pool coverage : BondAction τ Unit) w =
      .ok (u, w')) :
    (pool = 0 ↔ coverage = 0) ∧ (pool ≠ 0 → D.isPool pool = true) ∧ w' = w := by
  simp only [validateRecourseConfiguration, bind_ok, revertIf_ok] at h
  obtain ⟨-, w₁, ⟨hzero, rfl⟩, -, w₂, ⟨hne, rfl⟩, h⟩ := h
  have hiff : pool = 0 ↔ coverage = 0 := by tauto
  split_ifs at h with hpool
  · obtain ⟨-, rfl⟩ := pure_ok.mp h
    exact ⟨hiff, fun hne => absurd hpool hne, rfl⟩
  · simp [validatePool, UnderwriterPoolRegistry.requirePoolAsset, and_assoc] at h
    obtain ⟨-, -, -, -, -, hisPool, -, rfl⟩ := h
    exact ⟨hiff, fun _ => hisPool, rfl⟩

end checks

end AgentBondManager

end FlowMemory.AgentBonds
