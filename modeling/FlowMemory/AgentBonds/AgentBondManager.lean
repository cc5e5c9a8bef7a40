import FlowMemory.AgentBonds.AgentUnderwriterPool
import FlowMemory.AgentBonds.TaskBondEscrow
import FlowMemory.AgentBonds.AgentStakeRegistry
import FlowMemory.AgentBonds.Registries

/-! # The bond manager

The manager runs the life of a task: a requester opens it, an agent accepts it with a bond and
commits evidence, a verifier reports on it and others confirm the report, anyone may challenge the
report and the resolution authority decides, and at the end the tokens in the escrow are split.
A task may have **recourse**: coverage of an underwriter pool that is paid to the requester when
the task fails.

The manager calls the escrow, the stake registry, the policy registry, and the pools and registries
at the addresses it is given, so its calls act on the `World` of all these contracts.  Events and
pulses are not recorded, but the sequence number of the pulses is, as its overflow reverts.  The
flag against re-entrant calls is left out: no contract of the world calls back. -/

namespace FlowMemory.AgentBonds

open Call ERC20SettlementToken Function

/-! ### Storage -/

inductive TaskStatus where
  | unknown
  | open_
  | accepted
  | started
  | evidenceCommitted
  | verified
  | failed
  | challenged
  | settled
  | refunded
  | slashed
  | unsupported
  | reorged
  deriving DecidableEq

inductive ReportStatus where
  | unknown
  | valid
  | invalid
  | unresolved
  | unsupported
  | reorged
  deriving DecidableEq

structure Task where
  (requester agent verifier challenger : Address)
  (rootfieldId policyId termsHash : Bytes32)
  (evidenceCommitment evidenceAvailabilityCommitment reportId reportDigest : Bytes32)
  (payout agentBond verifierFee requesterCancelBond : ℕ)
  (disputeBondQuote disputeBondLocked recourseCoverage : ℕ)
  (openedAt acceptedAt submissionDeadline evidenceCommittedAt evidenceAvailabilityUntil : ℕ)
  (reportedAt disputeWindow graceWindow sequence : ℕ)
  (requiredConfirmations reportConfirmations : ℕ)
  (status preChallengeStatus : TaskStatus)
  (challengeResolved recourseClaimPaid exists_ : Bool)
  recoursePool : Address

/-- The record of a task that was never opened. -/
def Task.empty : Task where
  requester := 0
  agent := 0
  verifier := 0
  challenger := 0
  rootfieldId := 0
  policyId := 0
  termsHash := 0
  evidenceCommitment := 0
  evidenceAvailabilityCommitment := 0
  reportId := 0
  reportDigest := 0
  payout := 0
  agentBond := 0
  verifierFee := 0
  requesterCancelBond := 0
  disputeBondQuote := 0
  disputeBondLocked := 0
  recourseCoverage := 0
  openedAt := 0
  acceptedAt := 0
  submissionDeadline := 0
  evidenceCommittedAt := 0
  evidenceAvailabilityUntil := 0
  reportedAt := 0
  disputeWindow := 0
  graceWindow := 0
  sequence := 0
  requiredConfirmations := 0
  reportConfirmations := 0
  status := .unknown
  preChallengeStatus := .unknown
  challengeResolved := false
  recourseClaimPaid := false
  exists_ := false
  recoursePool := 0

/-! The records after the writes of each call. -/

namespace Task

/-- The next pulse of the task was sent. -/
def bump (task : Task) : Task := { task with sequence := task.sequence + 1 }

def withStatus (task : Task) (status : TaskStatus) : Task := { task with status }

def opened (task : Task) (requester : Address) (openedAt : ℕ)
    (rootfieldId policyId termsHash : Bytes32) (payout : ℕ) (verifier recoursePool : Address)
    (recourseCoverage : ℕ) (policy : TaskPolicy) (quote : TaskQuote) : Task :=
  { task with
    requester
    verifier
    rootfieldId
    policyId
    termsHash
    payout
    agentBond := quote.agentBond
    verifierFee := quote.verifierFee
    requesterCancelBond := quote.requesterCancelBond
    disputeBondQuote := quote.disputeBond
    recoursePool
    recourseCoverage
    openedAt
    disputeWindow := policy.disputeWindow.toNat
    graceWindow := policy.graceWindow.toNat
    requiredConfirmations := policy.requiredConfirmations.toNat
    status := .open_
    exists_ := true }

def accept (task : Task) (agent : Address) (acceptedAt submissionDeadline : ℕ) : Task :=
  { task with
    agent, acceptedAt, submissionDeadline
    status := .accepted }

def commit (task : Task) (evidenceCommitment availabilityCommitment : Bytes32)
    (availabilityUntil committedAt : ℕ) : Task :=
  { task with
    evidenceCommitment
    evidenceAvailabilityCommitment := availabilityCommitment
    evidenceAvailabilityUntil := availabilityUntil
    evidenceCommittedAt := committedAt
    status := .evidenceCommitted }

def report (task : Task) (reportId reportDigest : Bytes32) (reportedAt : ℕ)
    (status : TaskStatus) : Task :=
  { task with
    reportId, reportDigest, reportedAt
    reportConfirmations := 0, challengeResolved := false, status }

def confirm (task : Task) : Task :=
  { task with reportConfirmations := task.reportConfirmations + 1 }

def challenge (task : Task) (challenger : Address) : Task :=
  { task with
    challenger, disputeBondLocked := task.disputeBondQuote
    preChallengeStatus := task.status, status := .challenged }

def resolve (task : Task) (finalStatus : TaskStatus) (resolutionDigest : Bytes32) : Task :=
  { task with
    challengeResolved := true, status := finalStatus, reportDigest := resolutionDigest
    reportConfirmations := task.requiredConfirmations, disputeBondLocked := 0 }

def payClaim (task : Task) : Task := { task with recourseClaimPaid := true }

end Task

/-- The part of the storage that only the owner and the guardian write. -/
structure ManagerSettings where
  ownable : TwoStepOwnable
  (underwriterPoolRegistry creditAttestationRegistry : Address)
  (resolutionAuthority pauseGuardian : Address)
  (paused emergencyStopped pilotMode : Bool)
  (maxPayoutPerTask maxOpenExposure maxOpenTasks : ℕ)
  (maxRecourseCoveragePerAgent maxRecourseCoveragePerRequester : ℕ)
  maxRecourseCoveragePerVerifier : ℕ
  minimumRecourseScore : UInt16
  maximumRecourseRiskBand : UInt8
  requireRecourseAttestations : Bool
  (requesterAuthorization agentAuthorization verifierAuthorization : Address → Bool)

structure AgentBondManager where
  settings : ManagerSettings
  (taskNonce openExposure openTaskCount : ℕ)
  tasks : Bytes32 → Task
  reportConfirmedBy : Bytes32 → Address → Bool
  (recourseCoverageByRequester recourseCoverageByAgent : Address → ℕ)
  recourseCoverageByVerifier : Address → ℕ

inductive BondError where
  | ownable (e : OwnableError)
  | escrow (e : EscrowError)
  | stakes (e : StakeError)
  | policies (e : PolicyError)
  | pool (e : PoolError)
  | poolRegistry (e : PoolRegistryError)
  | attestations (e : AttestationError)
  | notAPool (pool : Address)
  | notResolutionAuthority (caller : Address)
  | notPauseGuardian (caller : Address)
  | zeroRootfieldId
  | zeroPolicyId
  | zeroTermsHash
  | zeroPayout
  | zeroVerifier
  | zeroPauseGuardian
  | zeroResolutionAuthority
  | zeroEvidenceCommitment
  | zeroAvailabilityCommitment
  | zeroReport
  | zeroChallengeCommitment
  | policyInactive (policyId : Bytes32)
  | verifierNotEligible (verifier : Address)
  | agentNotEligible (agent : Address)
  | agentCapacityExceeded (agent : Address) (additionalBond : ℕ)
  | requesterNotAuthorized (requester : Address)
  | agentNotAuthorized (agent : Address)
  | verifierNotAuthorizedForPilot (verifier : Address)
  | payoutExceedsCap (payout cap : ℕ)
  | openExposureCapExceeded (attempted cap : ℕ)
  | openTaskCapExceeded (attempted cap : ℕ)
  | taskNotFound (taskId : Bytes32)
  | taskExists (taskId : Bytes32)
  | invalidTaskStatus (taskId : Bytes32) (status : TaskStatus)
  | notTaskAgent (caller agent : Address)
  | notTaskRequester (caller requester : Address)
  | invalidReportStatus (status : ReportStatus)
  | submissionDeadlinePassed (deadline nowTime : ℕ)
  | challengeWindowOpen (deadline nowTime : ℕ)
  | challengeWindowClosed (deadline nowTime : ℕ)
  | confirmationWindowClosed (deadline nowTime : ℕ)
  | noSubmissionExpiryNotReached (deadline nowTime : ℕ)
  | alreadySettled (taskId : Bytes32)
  | reportAlreadyConfirmed (taskId : Bytes32) (verifier : Address)
  | reportDigestMismatch (expected provided : Bytes32)
  | reportStatusMismatch (expected provided : TaskStatus)
  | availabilityWindowTooShort (minimumRequired provided : ℕ)
  | insufficientReportConfirmations (taskId : Bytes32) (required actual : ℕ)
  | paused
  | emergencyStopped
  | recoursePoolRequired
  | zeroRecourseCoverage
  | recoursePoolNotApproved (pool : Address)
  | recoursePoolTypeUnsupported (pool : Address) (poolType : PoolType)
  | recourseCoverageUnavailable (pool : Address) (amount : ℕ)
  | creditAttestationRegistryRequired
  | creditAttestationMissing (agent : Address) (scope : Bytes32)
  | recourseRequesterExposureCapExceeded (attempted cap : ℕ)
  | recourseAgentExposureCapExceeded (attempted cap : ℕ)
  | recourseVerifierExposureCapExceeded (attempted cap : ℕ)
  | panic

/-! ### Settings -/

namespace ManagerSettings

/-- The settings after the constructor. -/
def deployed (initialOwner pauseGuardian resolutionAuthority : Address) : ManagerSettings where
  ownable := ⟨initialOwner, 0⟩
  underwriterPoolRegistry := 0
  creditAttestationRegistry := 0
  resolutionAuthority
  pauseGuardian
  paused := false
  emergencyStopped := false
  pilotMode := false
  maxPayoutPerTask := 0
  maxOpenExposure := 0
  maxOpenTasks := 0
  maxRecourseCoveragePerAgent := 0
  maxRecourseCoveragePerRequester := 0
  maxRecourseCoveragePerVerifier := 0
  minimumRecourseScore := 0
  maximumRecourseRiskBand := 5
  requireRecourseAttestations := false
  requesterAuthorization := fun _ => false
  agentAuthorization := fun _ => false
  verifierAuthorization := fun _ => false

inductive Msg where
  | ownership (call : OwnableCall)
  | setResolutionAuthority (authority : Address)
  | setPauseGuardian (guardian : Address)
  | setPaused (value : Bool)
  | setEmergencyStopped (value : Bool)
  | setPilotMode (enabled : Bool)
  | setPilotCaps (maxPayoutPerTask maxOpenExposure maxOpenTasks : Uint256)
  | setRequesterAuthorization (requester : Address) (authorized : Bool)
  | setAgentAuthorization (agent : Address) (authorized : Bool)
  | setVerifierAuthorization (verifier : Address) (authorized : Bool)
  | setUnderwriterPoolRegistry (registry : Address)
  | setCreditAttestationRegistry (registry : Address)
  | setRecourseExposureCaps (maxPerAgent maxPerRequester maxPerVerifier : Uint256)
  | setRecourseAttestationRequirements (required : Bool) (minimumScore : UInt16)
      (maximumRiskBand : UInt8)

variable (env : Env)

def onlyOwner : Call ManagerSettings BondError Unit :=
  within ManagerSettings.ownable (fun s o => { s with ownable := o }) .ownable
    (TwoStepOwnable.onlyOwner env)

def onlyPauseGuardianOrOwner : Call ManagerSettings BondError Unit := do
  let s ← get
  revertIf (env.sender ≠ s.pauseGuardian ∧ env.sender ≠ s.ownable.owner)
    (.notPauseGuardian env.sender)

def setEmergencyStopped (value : Bool) : Call ManagerSettings BondError Unit := do
  onlyPauseGuardianOrOwner env
  let s ← get
  revertIf (value = false ∧ env.sender ≠ s.ownable.owner) (.ownable (.notOwner env.sender))
  modify fun s => { s with emergencyStopped := value, paused := value || s.paused }

/-- The setters of the owner, and the emergency stop. -/
def call : Msg → Call ManagerSettings BondError Unit
  | .ownership c =>
    within ManagerSettings.ownable (fun s o => { s with ownable := o }) .ownable
      (TwoStepOwnable.call env c)
  | .setResolutionAuthority authority => do
      onlyOwner env
      revertIf (authority = 0) .zeroResolutionAuthority
      modify fun s => { s with resolutionAuthority := authority }
  | .setPauseGuardian guardian => do
      onlyOwner env
      revertIf (guardian = 0) .zeroPauseGuardian
      modify fun s => { s with pauseGuardian := guardian }
  | .setPaused value => do
      onlyOwner env
      modify fun s => { s with paused := value }
  | .setEmergencyStopped value => setEmergencyStopped env value
  | .setPilotMode enabled => do
      onlyOwner env
      modify fun s => { s with pilotMode := enabled }
  | .setPilotCaps maxPayoutPerTask maxOpenExposure maxOpenTasks => do
      onlyOwner env
      modify fun s => { s with
        maxPayoutPerTask, maxOpenExposure
        maxOpenTasks }
  | .setRequesterAuthorization requester authorized => do
      onlyOwner env
      modify fun s => { s with
        requesterAuthorization := update s.requesterAuthorization requester authorized }
  | .setAgentAuthorization agent authorized => do
      onlyOwner env
      modify fun s => { s with
        agentAuthorization := update s.agentAuthorization agent authorized }
  | .setVerifierAuthorization verifier authorized => do
      onlyOwner env
      modify fun s => { s with
        verifierAuthorization := update s.verifierAuthorization verifier authorized }
  | .setUnderwriterPoolRegistry registry => do
      onlyOwner env
      modify fun s => { s with underwriterPoolRegistry := registry }
  | .setCreditAttestationRegistry registry => do
      onlyOwner env
      modify fun s => { s with creditAttestationRegistry := registry }
  | .setRecourseExposureCaps maxPerAgent maxPerRequester maxPerVerifier => do
      onlyOwner env
      modify fun s => { s with
        maxRecourseCoveragePerAgent := maxPerAgent
        maxRecourseCoveragePerRequester := maxPerRequester
        maxRecourseCoveragePerVerifier := maxPerVerifier }
  | .setRecourseAttestationRequirements required minimumScore maximumRiskBand => do
      onlyOwner env
      modify fun s => { s with
        requireRecourseAttestations := required, minimumRecourseScore := minimumScore
        maximumRecourseRiskBand := maximumRiskBand }

end ManagerSettings

/-! ### The ledgers of the manager -/

namespace AgentBondManager

/-- The manager after its constructor. -/
def deployed (initialOwner pauseGuardian resolutionAuthority : Address) : AgentBondManager where
  settings := .deployed initialOwner pauseGuardian resolutionAuthority
  taskNonce := 0
  openExposure := 0
  openTaskCount := 0
  tasks := fun _ => .empty
  reportConfirmedBy := fun _ _ => false
  recourseCoverageByRequester := fun _ => 0
  recourseCoverageByAgent := fun _ => 0
  recourseCoverageByVerifier := fun _ => 0

/-- The calls that only use the storage of the manager. -/
abbrev ManagerAction : Type → Type := Call AgentBondManager BondError

/-- The time as a 64-bit number, if it fits. -/
def blockTimestamp (timestamp : ℕ) : Option ℕ :=
  if timestamp > 2 ^ 64 - 1 then none else some timestamp

/-- The error of a time that does not fit. -/
def clockError : BondError := .submissionDeadlinePassed (2 ^ 64 - 1) (2 ^ 64 - 1)

def requireTask (taskId : Bytes32) : ManagerAction Task := do
  let m ← get
  revertIf ((m.tasks taskId).exists_ = false) (.taskNotFound taskId)
  pure (m.tasks taskId)

def setTask (taskId : Bytes32) (task : Task) : ManagerAction Unit :=
  modify fun m => { m with tasks := update m.tasks taskId task }

def increaseOpenExposure (amount : ℕ) : ManagerAction Unit :=
  if amount = 0 then pure ()
  else do
    let m ← get
    let attempted ← okOr (addChecked 256 m.openExposure amount) .panic
    revertIf (m.settings.maxOpenExposure ≠ 0 ∧ attempted > m.settings.maxOpenExposure)
      (.openExposureCapExceeded attempted m.settings.maxOpenExposure)
    modify fun m => { m with openExposure := attempted }

def decreaseOpenExposure (amount : ℕ) : ManagerAction Unit :=
  if amount = 0 then pure ()
  else do
    let m ← get
    let left ← okOr (subChecked m.openExposure amount) .panic
    modify fun m => { m with openExposure := left }

/-- `openTaskCount += 1` -/
def raiseTaskCount : ManagerAction Unit := do
  let m ← get
  let count ← okOr (addChecked 256 m.openTaskCount 1) .panic
  modify fun m => { m with openTaskCount := count }

/-- `openTaskCount -= 1` -/
def lowerTaskCount : ManagerAction Unit := do
  let m ← get
  let count ← okOr (subChecked m.openTaskCount 1) .panic
  modify fun m => { m with openTaskCount := count }

def increaseRecourseExposure (requester agent verifier : Address) (amount : ℕ) :
    ManagerAction Unit :=
  if amount < 1 then pure ()
  else do
    let m ← get
    let byRequester ← okOr (addChecked 256 (m.recourseCoverageByRequester requester) amount) .panic
    let byAgent ← okOr (addChecked 256 (m.recourseCoverageByAgent agent) amount) .panic
    let byVerifier ← okOr (addChecked 256 (m.recourseCoverageByVerifier verifier) amount) .panic
    modify fun m => { m with
      recourseCoverageByRequester :=
        update m.recourseCoverageByRequester requester byRequester
      recourseCoverageByAgent := update m.recourseCoverageByAgent agent byAgent
      recourseCoverageByVerifier :=
        update m.recourseCoverageByVerifier verifier byVerifier }

def decreaseRecourseExposure (requester agent verifier : Address) (amount : ℕ) :
    ManagerAction Unit :=
  if amount = 0 then pure ()
  else do
    let m ← get
    let byRequester ← okOr (subChecked (m.recourseCoverageByRequester requester) amount) .panic
    let byAgent ← okOr (subChecked (m.recourseCoverageByAgent agent) amount) .panic
    let byVerifier ← okOr (subChecked (m.recourseCoverageByVerifier verifier) amount) .panic
    modify fun m => { m with
      recourseCoverageByRequester :=
        update m.recourseCoverageByRequester requester byRequester
      recourseCoverageByAgent := update m.recourseCoverageByAgent agent byAgent
      recourseCoverageByVerifier :=
        update m.recourseCoverageByVerifier verifier byVerifier }

/-- The next pulse of a task has the next sequence number. -/
def emitTaskPulse (timestamp : ℕ) (taskId : Bytes32) : ManagerAction Unit := do
  let m ← get
  let _ ← okOr (addChecked 64 (m.tasks taskId).sequence 1) .panic
  setTask taskId (m.tasks taskId).bump
  let _ ← okOr (blockTimestamp timestamp) clockError

end AgentBondManager

/-- Three amounts summed with checks. -/
def sumChecked (payout verifierFee requesterCancelBond : ℕ) : Option ℕ :=
  (addChecked 256 payout verifierFee).bind fun sum => addChecked 256 sum requesterCancelBond

/-- What the requester has put into the escrow. -/
def Task.requesterEscrow (task : Task) : Option ℕ :=
  sumChecked task.payout task.verifierFee task.requesterCancelBond

/-- What is in the escrow for a task that was accepted. -/
def Task.heldEscrow (task : Task) : Option ℕ :=
  task.requesterEscrow.bind fun sum => addChecked 256 sum task.agentBond

/-- The task has recourse. -/
def Task.Covered (task : Task) : Prop := task.recoursePool ≠ 0 ∧ task.recourseCoverage ≠ 0

instance (task : Task) : Decidable task.Covered := inferInstanceAs (Decidable (_ ∧ _))

/-- The amount of recourse. -/
def Task.coverage (task : Task) : ℕ := if task.Covered then task.recourseCoverage else 0

def ReportStatus.taskStatus : ReportStatus → Option TaskStatus
  | .valid => some .verified
  | .invalid => some .failed
  | .unsupported => some .unsupported
  | .reorged => some .reorged
  | .unknown => none
  | .unresolved => none

def TaskStatus.isReportBacked : TaskStatus → Bool
  | .verified => true
  | .failed => true
  | .unsupported => true
  | .reorged => true
  | _ => false

def TaskStatus.isTerminal : TaskStatus → Bool
  | .settled => true
  | .refunded => true
  | .slashed => true
  | _ => false

/-! ### The world -/

/-- The addresses that never change: the contracts, their tokens and the pools.  The names of tasks
and the reasons of claims are hashes. -/
structure Deployment where
  (manager escrow stakeRegistry settlementToken stakeToken : Address)
  isPool : Address → Bool
  asset : Address → Address
  taskId : (requester : Address) → (rootfieldId policyId termsHash : Bytes32) → (nonce : ℕ) → Bytes32
  reason : String → Bytes32
  escrow_ne_stakeRegistry : escrow ≠ stakeRegistry
  isPool_escrow : isPool escrow = false
  isPool_stakeRegistry : isPool stakeRegistry = false

/-- The contracts and the tokens.  Contracts that the manager is told the address of are given by
address. -/
structure World (τ : Type) where
  now : ℕ
  tokens : Address → τ
  manager : AgentBondManager
  escrow : TaskBondEscrow
  stakes : AgentStakeRegistry
  policies : TaskPolicyRegistry
  pools : Address → AgentUnderwriterPool
  poolRegistries : Address → UnderwriterPoolRegistry
  attestations : Address → AgentCreditAttestationRegistry

abbrev BondAction (τ : Type) : Type → Type := Call (World τ) BondError

section calls

variable {τ : Type} {α : Type} (D : Deployment)

def inManager (m : AgentBondManager.ManagerAction α) : BondAction τ α :=
  within World.manager (fun w m => { w with manager := m }) (fun e => e) m

/-- The escrow and its token. -/
def World.withEscrow (w : World τ) : WithToken TaskBondEscrow τ :=
  ⟨w.escrow, w.tokens D.settlementToken⟩

def World.putEscrow (w : World τ) (s : WithToken TaskBondEscrow τ) : World τ :=
  { w with
    escrow := s.contract, tokens := update w.tokens D.settlementToken s.token }

/-- The stake registry and its token. -/
def World.withStakes (w : World τ) : WithToken AgentStakeRegistry τ :=
  ⟨w.stakes, w.tokens D.stakeToken⟩

def World.putStakes (w : World τ) (s : WithToken AgentStakeRegistry τ) : World τ :=
  { w with stakes := s.contract, tokens := update w.tokens D.stakeToken s.token }

/-- A pool and its token. -/
def World.withPool (w : World τ) (pool : Address) : WithToken AgentUnderwriterPool τ :=
  ⟨w.pools pool, w.tokens (D.asset pool)⟩

def World.putPool (w : World τ) (pool : Address) (s : WithToken AgentUnderwriterPool τ) : World τ :=
  { w with
    pools := update w.pools pool s.contract
    tokens := update w.tokens (D.asset pool) s.token }

/-! Calls of the manager to the other contracts. -/

def callEscrow (f : Env → TaskBondEscrow.EscrowAction α) : BondAction τ α := do
  let w ← get
  within World.escrow (fun w e => { w with escrow := e }) .escrow (f ⟨D.manager, w.now⟩)

def callEscrowToken (f : Env → TaskBondEscrow.EscrowTokenAction τ α) : BondAction τ α := do
  let w ← get
  within (World.withEscrow D) (World.putEscrow D) .escrow (f ⟨D.manager, w.now⟩)

def callStakes (f : Env → AgentStakeRegistry.StakeAction α) : BondAction τ α := do
  let w ← get
  within World.stakes (fun w s => { w with stakes := s }) .stakes (f ⟨D.manager, w.now⟩)

def callStakesToken (f : Env → AgentStakeRegistry.StakeTokenAction τ α) : BondAction τ α := do
  let w ← get
  within (World.withStakes D) (World.putStakes D) .stakes (f ⟨D.manager, w.now⟩)

/-- An address without a pool reverts. -/
def callPool (pool : Address) (f : Env → AgentUnderwriterPool.PoolAction τ α) : BondAction τ α := do
  revertIf (D.isPool pool = false) (.notAPool pool)
  let w ← get
  within (fun w => World.withPool D w pool) (fun w s => World.putPool D w pool s) .pool
    (f ⟨D.manager, w.now⟩)

end calls

/-! ### Opening, accepting and working on a task -/

namespace AgentBondManager

open TaskBondEscrow (releaseTo moveToReserve lockFrom)
open AgentStakeRegistry (recordOpenBond recordClosedBond slashStake)
open AgentUnderwriterPool (canBackTask lockCoverage releaseForTask payClaim)

variable {τ : Type} [ERC20SettlementToken τ] (D : Deployment) (sender : Address)

def whenNotPaused : BondAction τ Unit := do
  let w ← get
  revertIf (w.manager.settings.paused = true) .paused

def whenNotEmergencyStopped : BondAction τ Unit := do
  let w ← get
  revertIf (w.manager.settings.emergencyStopped = true) .emergencyStopped

/-- In pilot mode only authorized accounts take part. -/
def pilotCheck (authorization : ManagerSettings → Address → Bool) (account : Address)
    (e : BondError) : BondAction τ Unit := do
  let w ← get
  revertIf (w.manager.settings.pilotMode = true ∧
    authorization w.manager.settings account = false) e

def now64 : BondAction τ ℕ := do
  let w ← get
  okOr (blockTimestamp w.now) clockError

def verifierEligible (verifier : Address) : BondAction τ Unit := do
  let w ← get
  revertIf (w.stakes.isVerifierEligible verifier = false) (.verifierNotEligible verifier)

def getPolicy (policyId : Bytes32) : BondAction τ TaskPolicy := do
  let w ← get
  okOr (w.policies.getPolicy policyId) (.policies (.policyNotFound policyId))

def validateOpenTaskInput (rootfieldId policyId termsHash : Bytes32) (payout : ℕ)
    (verifier : Address) : BondAction τ Unit := do
  revertIf (rootfieldId = 0) .zeroRootfieldId
  revertIf (policyId = 0) .zeroPolicyId
  revertIf (termsHash = 0) .zeroTermsHash
  revertIf (payout = 0) .zeroPayout
  revertIf (verifier = 0) .zeroVerifier
  verifierEligible verifier
  pilotCheck ManagerSettings.requesterAuthorization sender (.requesterNotAuthorized sender)
  pilotCheck ManagerSettings.verifierAuthorization verifier
    (.verifierNotAuthorizedForPilot verifier)
  let w ← get
  let s := w.manager.settings
  revertIf (s.maxPayoutPerTask ≠ 0 ∧ payout > s.maxPayoutPerTask)
    (.payoutExceedsCap payout s.maxPayoutPerTask)
  revertIf (s.maxOpenTasks ≠ 0 ∧ w.manager.openTaskCount + 1 > s.maxOpenTasks)
    (.openTaskCapExceeded (w.manager.openTaskCount + 1) s.maxOpenTasks)

/-- The checks on a pool that is to back a task. -/
def validatePool (riskTier : UInt8) (recoursePool : Address) (recourseCoverage : ℕ) :
    BondAction τ Unit := do
  let w ← get
  let registry := w.manager.settings.underwriterPoolRegistry
  revertIf (registry = 0 ∨ (w.poolRegistries registry).isPoolApproved recoursePool = false)
    (.recoursePoolNotApproved recoursePool)
  let record ← within (fun w => w.poolRegistries registry) (fun w _ => w) .poolRegistry
    (UnderwriterPoolRegistry.requirePoolAsset recoursePool D.settlementToken)
  revertIf (record.poolType ≠ .usdcRecoursePool)
    (.recoursePoolTypeUnsupported recoursePool record.poolType)
  revertIf (D.isPool recoursePool = false) (.notAPool recoursePool)
  let backed ← okOr (canBackTask recoursePool w.now recourseCoverage riskTier.toNat
    (w.withPool D recoursePool)) .panic
  revertIf (backed = false) (.recourseCoverageUnavailable recoursePool recourseCoverage)

def validateRecourseConfiguration (riskTier : UInt8) (recoursePool : Address)
    (recourseCoverage : ℕ) : BondAction τ Unit := do
  revertIf (recoursePool = 0 ∧ recourseCoverage ≠ 0) .recoursePoolRequired
  revertIf (recoursePool ≠ 0 ∧ recourseCoverage = 0) .zeroRecourseCoverage
  if recoursePool = 0 then pure () else validatePool D riskTier recoursePool recourseCoverage

/-- The name of the next task, which has to be new. -/
def nextTaskId (rootfieldId policyId termsHash : Bytes32) : ManagerAction Bytes32 := do
  let m ← get
  let taskId := D.taskId sender rootfieldId policyId termsHash m.taskNonce
  revertIf ((m.tasks taskId).exists_ = true) (.taskExists taskId)
  let nonce ← okOr (addChecked 256 m.taskNonce 1) .panic
  modify fun m => { m with taskNonce := nonce }
  pure taskId

def openTaskWithRecourse (rootfieldId policyId termsHash : Bytes32) (payout : ℕ)
    (verifier : Address) (recoursePool : Address) (recourseCoverage : ℕ) :
    BondAction τ Bytes32 := do
  whenNotPaused
  whenNotEmergencyStopped
  validateOpenTaskInput sender rootfieldId policyId termsHash payout verifier
  let policy ← getPolicy policyId
  revertIf (policy.active = false) (.policyInactive policyId)
  validateRecourseConfiguration D policy.riskTier recoursePool recourseCoverage
  let w ← get
  let quote ← okOr (w.policies.quote policyId payout) (.policies .panic)
  let requesterEscrow ← okOr (sumChecked payout quote.verifierFee quote.requesterCancelBond) .panic
  inManager (increaseOpenExposure requesterEscrow)
  let taskId ← inManager (nextTaskId D sender rootfieldId policyId termsHash)
  let openedAt ← now64
  let w ← get
  inManager (setTask taskId ((w.manager.tasks taskId).opened sender openedAt rootfieldId policyId
    termsHash payout verifier recoursePool recourseCoverage policy quote))
  inManager raiseTaskCount
  inManager (emitTaskPulse w.now taskId)
  callEscrowToken D fun env => lockFrom D.escrow env taskId sender requesterEscrow
  pure taskId

def openTask (rootfieldId policyId termsHash : Bytes32) (payout : ℕ) (verifier : Address) :
    BondAction τ Bytes32 :=
  openTaskWithRecourse D sender rootfieldId policyId termsHash payout verifier 0 0

def cancelOpenTask (taskId : Bytes32) : BondAction τ Unit := do
  let task ← inManager (requireTask taskId)
  revertIf (sender ≠ task.requester) (.notTaskRequester sender task.requester)
  revertIf (task.status ≠ .open_) (.invalidTaskStatus taskId task.status)
  inManager (setTask taskId (task.withStatus .refunded))
  let requesterEscrow ← okOr task.requesterEscrow .panic
  inManager (decreaseOpenExposure requesterEscrow)
  inManager lowerTaskCount
  callEscrow D fun env => releaseTo env taskId task.requester requesterEscrow
  let w ← get
  inManager (emitTaskPulse w.now taskId)

/-- A limit on recourse, where zero is no limit. -/
def recourseCap (cap exposure coverage : ℕ) (e : ℕ → ℕ → BondError) : BondAction τ Unit :=
  if cap = 0 then pure ()
  else do
    let attempted ← okOr (addChecked 256 exposure coverage) .panic
    revertIf (attempted > cap) (e attempted cap)

/-- The agent of a covered task may need an attestation. -/
def requireAttestation (task : Task) (agent : Address) : BondAction τ Unit := do
  let w ← get
  let s := w.manager.settings
  if s.requireRecourseAttestations = true then
    revertIf (s.creditAttestationRegistry = 0) .creditAttestationRegistryRequired
    revertIf ((w.attestations s.creditAttestationRegistry).isAttestationValid w.now agent
      task.policyId s.minimumRecourseScore s.maximumRecourseRiskBand = false)
      (.creditAttestationMissing agent task.policyId)
  else pure ()

def validateRecourseAcceptance (task : Task) (agent : Address) : BondAction τ Unit :=
  if task.recoursePool = 0 ∨ task.recourseCoverage = 0 then pure ()
  else do
    requireAttestation task agent
    let w ← get
    let s := w.manager.settings
    recourseCap s.maxRecourseCoveragePerRequester
      (w.manager.recourseCoverageByRequester task.requester) task.recourseCoverage
      .recourseRequesterExposureCapExceeded
    recourseCap s.maxRecourseCoveragePerAgent
      (w.manager.recourseCoverageByAgent agent) task.recourseCoverage
      .recourseAgentExposureCapExceeded
    recourseCap s.maxRecourseCoveragePerVerifier
      (w.manager.recourseCoverageByVerifier task.verifier) task.recourseCoverage
      .recourseVerifierExposureCapExceeded

/-- Do something only for a task with recourse. -/
def ifCovered (task : Task) (m : BondAction τ Unit) : BondAction τ Unit :=
  if task.Covered then m else pure ()

def acceptTask (taskId : Bytes32) : BondAction τ Unit := do
  whenNotPaused
  whenNotEmergencyStopped
  let task ← inManager (requireTask taskId)
  revertIf (task.status ≠ .open_) (.invalidTaskStatus taskId task.status)
  let w ← get
  revertIf (w.stakes.isAgentEligible sender = false) (.agentNotEligible sender)
  let capacity ← okOr (w.stakes.canOpenAgentBond sender task.agentBond) (.stakes .panic)
  revertIf (capacity = false) (.agentCapacityExceeded sender task.agentBond)
  pilotCheck ManagerSettings.agentAuthorization sender (.agentNotAuthorized sender)
  inManager (increaseOpenExposure task.agentBond)
  let policy ← getPolicy task.policyId
  validateRecourseAcceptance task sender
  let now64 ← now64
  let submissionDeadline ← okOr (addChecked 64 now64 policy.submissionWindow.toNat) .panic
  inManager (setTask taskId (task.accept sender now64 submissionDeadline))
  inManager (emitTaskPulse w.now taskId)
  ifCovered task (inManager
    (increaseRecourseExposure task.requester sender task.verifier task.recourseCoverage))
  callEscrowToken D fun env => lockFrom D.escrow env taskId sender task.agentBond
  callStakes D fun env => recordOpenBond env sender task.agentBond
  ifCovered task (callPool D task.recoursePool fun env =>
    lockCoverage task.recoursePool env taskId task.recourseCoverage)

def startTask (taskId : Bytes32) : BondAction τ Unit := do
  whenNotEmergencyStopped
  let task ← inManager (requireTask taskId)
  revertIf (sender ≠ task.agent) (.notTaskAgent sender task.agent)
  revertIf (task.status ≠ .accepted) (.invalidTaskStatus taskId task.status)
  inManager (setTask taskId (task.withStatus .started))
  let w ← get
  inManager (emitTaskPulse w.now taskId)

def commitEvidence (taskId evidenceCommitment availabilityCommitment : Bytes32)
    (availabilityUntil : UInt64) : BondAction τ Unit := do
  whenNotEmergencyStopped
  let task ← inManager (requireTask taskId)
  revertIf (sender ≠ task.agent) (.notTaskAgent sender task.agent)
  revertIf (task.status ≠ .accepted ∧ task.status ≠ .started)
    (.invalidTaskStatus taskId task.status)
  revertIf (evidenceCommitment = 0) .zeroEvidenceCommitment
  revertIf (availabilityCommitment = 0) .zeroAvailabilityCommitment
  let now64 ← now64
  let finalDeadline ← okOr (addChecked 64 task.submissionDeadline task.graceWindow) .panic
  revertIf (now64 > finalDeadline) (.submissionDeadlinePassed finalDeadline now64)
  let policy ← getPolicy task.policyId
  let minimumAvailabilityUntil := now64 + policy.minAvailabilityWindow.toNat
  revertIf (availabilityUntil.toNat < minimumAvailabilityUntil)
    (.availabilityWindowTooShort minimumAvailabilityUntil availabilityUntil.toNat)
  inManager (setTask taskId (task.commit evidenceCommitment availabilityCommitment
    availabilityUntil.toNat now64))
  inManager (emitTaskPulse now64 taskId)

/-! ### Reports and challenges -/

/-- Remember that the account has taken part in the report. -/
def setConfirmed (taskId : Bytes32) (account : Address) : ManagerAction Unit :=
  modify fun m => { m with
    reportConfirmedBy := update m.reportConfirmedBy taskId
      (update (m.reportConfirmedBy taskId) account true) }

def submitVerifierReport (taskId reportId : Bytes32) (reportStatus : ReportStatus)
    (reportDigest : Bytes32) : BondAction τ Unit := do
  let task ← inManager (requireTask taskId)
  revertIf (task.status ≠ .evidenceCommitted) (.invalidTaskStatus taskId task.status)
  revertIf (sender ≠ task.verifier) (.verifierNotEligible sender)
  pilotCheck ManagerSettings.verifierAuthorization sender (.verifierNotAuthorizedForPilot sender)
  verifierEligible sender
  revertIf (reportId = 0 ∨ reportDigest = 0) .zeroReport
  let status ← okOr reportStatus.taskStatus (.invalidReportStatus reportStatus)
  let now64 ← now64
  let minimumAvailabilityUntil := now64 + task.disputeWindow
  revertIf (task.evidenceAvailabilityUntil < minimumAvailabilityUntil)
    (.availabilityWindowTooShort minimumAvailabilityUntil task.evidenceAvailabilityUntil)
  inManager (setTask taskId (task.report reportId reportDigest now64 status))
  inManager (setConfirmed taskId sender)
  inManager (emitTaskPulse now64 taskId)

def confirmVerifierReport (taskId : Bytes32) (reportStatus : ReportStatus)
    (reportDigest : Bytes32) : BondAction τ Unit := do
  let task ← inManager (requireTask taskId)
  revertIf (task.status.isReportBacked = false) (.invalidTaskStatus taskId task.status)
  pilotCheck ManagerSettings.verifierAuthorization sender (.verifierNotAuthorizedForPilot sender)
  verifierEligible sender
  let w ← get
  revertIf (w.manager.reportConfirmedBy taskId sender = true)
    (.reportAlreadyConfirmed taskId sender)
  let now64 ← now64
  let confirmationDeadline ← okOr (addChecked 64 task.reportedAt task.disputeWindow) .panic
  revertIf (now64 > confirmationDeadline) (.confirmationWindowClosed confirmationDeadline now64)
  let providedStatus ← okOr reportStatus.taskStatus (.invalidReportStatus reportStatus)
  revertIf (task.status ≠ providedStatus) (.reportStatusMismatch task.status providedStatus)
  revertIf (task.reportDigest ≠ reportDigest) (.reportDigestMismatch task.reportDigest reportDigest)
  inManager (setConfirmed taskId sender)
  let _ ← okOr (addChecked 8 task.reportConfirmations 1) .panic
  inManager (setTask taskId task.confirm)

def challengeTask (taskId challengeCommitment : Bytes32) : BondAction τ Unit := do
  let task ← inManager (requireTask taskId)
  revertIf (task.status.isReportBacked = false) (.invalidTaskStatus taskId task.status)
  revertIf (challengeCommitment = 0) .zeroChallengeCommitment
  let now64 ← now64
  let challengeDeadline ← okOr (addChecked 64 task.reportedAt task.disputeWindow) .panic
  revertIf (now64 > challengeDeadline) (.challengeWindowClosed challengeDeadline now64)
  inManager (increaseOpenExposure task.disputeBondQuote)
  callEscrowToken D fun env => lockFrom D.escrow env taskId sender task.disputeBondQuote
  inManager (setTask taskId (task.challenge sender))
  inManager (emitTaskPulse now64 taskId)

/-- The part of a verifier's stake that a lost challenge costs. -/
def slashAmount (challengerWon : Bool) (stake : ℕ) (verifierSlashBps : UInt16) : Option ℕ :=
  if challengerWon = true ∧ verifierSlashBps > 0 then
    (mulChecked 256 stake verifierSlashBps.toNat).map fun product => product / 10000
  else some 0

/-- `slashStake`, unless the amount is zero -/
def slashPositive (account : Address) (amount : ℕ) : BondAction τ Unit :=
  if amount > 0 then
    callStakesToken D fun env => slashStake D.stakeRegistry env account amount
  else pure ()

def resolveChallenge (taskId : Bytes32) (finalReportStatus : ReportStatus)
    (resolutionDigest : Bytes32) (verifierSlashBps : UInt16) : BondAction τ Unit := do
  let w ← get
  revertIf (sender ≠ w.manager.settings.resolutionAuthority) (.notResolutionAuthority sender)
  let task ← inManager (requireTask taskId)
  revertIf (task.status ≠ .challenged) (.invalidTaskStatus taskId task.status)
  revertIf (resolutionDigest = 0) .zeroReport
  let finalStatus ← okOr finalReportStatus.taskStatus (.invalidReportStatus finalReportStatus)
  revertIf (verifierSlashBps > 10000) (.invalidReportStatus finalReportStatus)
  let challengerWon := decide (finalStatus ≠ task.preChallengeStatus)
  let disputeBondRecipient := if challengerWon = true then task.challenger else task.agent
  inManager (decreaseOpenExposure task.disputeBondLocked)
  inManager (setTask taskId (task.resolve finalStatus resolutionDigest))
  let slashAmount ← okOr (slashAmount challengerWon (w.stakes.stakeOf task.verifier)
    verifierSlashBps) .panic
  inManager (emitTaskPulse w.now taskId)
  callEscrow D fun env => releaseTo env taskId disputeBondRecipient task.disputeBondLocked
  slashPositive D task.verifier slashAmount

/-! ### Settlement -/

/-- A task with coverage that was not paid yet. -/
def Recoverable (task : Task) : Prop :=
  ¬ (task.recoursePool = 0 ∨ task.recourseCoverage = 0 ∨ task.recourseClaimPaid = true)

instance (task : Task) : Decidable (Recoverable task) := inferInstanceAs (Decidable (¬ _))

def releaseRecourse (taskId : Bytes32) (task : Task) : BondAction τ Unit :=
  if Recoverable task then do
    inManager (decreaseRecourseExposure task.requester task.agent task.verifier
      task.recourseCoverage)
    let _ ← callPool D task.recoursePool fun env => releaseForTask env taskId
  else pure ()

def payRecourseClaim (taskId : Bytes32) (task : Task) (recipient : Address) (reason : Bytes32) :
    BondAction τ Unit :=
  if Recoverable task then do
    inManager (modify fun m => { m with
      tasks := update m.tasks taskId (m.tasks taskId).payClaim })
    inManager (decreaseRecourseExposure task.requester task.agent task.verifier
      task.recourseCoverage)
    let _ ← callPool D task.recoursePool fun env =>
      payClaim task.recoursePool env taskId recipient task.recourseCoverage reason
  else pure ()

/-- How the bond of a slashed agent is split. -/
structure SlashShares where
  (toRequester middleShare reserveShare : ℕ)

def slashShares (amount : ℕ) (verifierShare : Bool) : Option SlashShares := do
  let requesterShare := (← mulChecked 256 amount 8500) / 10000
  let middleShare ← if verifierShare = true then
    (mulChecked 256 amount 1000).map fun product => product / 10000 else some 0
  let reserveShare := (← mulChecked 256 amount 500) / 10000
  let rest ← subChecked amount requesterShare
  let rest ← subChecked rest middleShare
  let remainder ← subChecked rest reserveShare
  let toRequester ← addChecked 256 requesterShare remainder
  some ⟨toRequester, middleShare, reserveShare⟩

/-- `releaseTo`, unless the amount is zero -/
def releasePositive (env : Env) (taskId : Bytes32) (account : Address) (amount : ℕ) :
    TaskBondEscrow.EscrowAction Unit :=
  if amount > 0 then releaseTo env taskId account amount else pure ()

/-- `moveToReserve`, unless the amount is zero -/
def reservePositive (env : Env) (taskId : Bytes32) (amount : ℕ) :
    TaskBondEscrow.EscrowAction Unit :=
  if amount > 0 then moveToReserve env taskId amount else pure ()

def releaseSlash (taskId : Bytes32) (requester verifierShareRecipient : Address) (amount : ℕ)
    (verifierShare : Bool) : BondAction τ Unit := do
  let shares ← okOr (slashShares amount verifierShare) .panic
  callEscrow D fun env => do
    releaseTo env taskId requester shares.toRequester
    releasePositive env taskId verifierShareRecipient shares.middleShare
    reservePositive env taskId shares.reserveShare

/-- What every settlement begins with: the task gets its final status, its tokens are no longer
exposed, it is no longer counted, and the bond of the agent is closed. -/
def closeTask (taskId : Bytes32) (task : Task) (final : TaskStatus) : BondAction τ Unit := do
  inManager (setTask taskId (task.withStatus final))
  let held ← okOr task.heldEscrow .panic
  inManager (decreaseOpenExposure held)
  inManager lowerTaskCount
  let w ← get
  inManager (emitTaskPulse w.now taskId)
  callStakes D fun env => recordClosedBond env task.agent task.agentBond

/-- How the bond of an agent that delivered is split. -/
structure LateShares where
  (returnedBond reserveAmount requesterLateSlash : ℕ)

/-- Late evidence costs a part of the bond. -/
def lateShares (task : Task) : Option LateShares :=
  if task.evidenceCommittedAt > task.submissionDeadline then do
    let product ← mulChecked 256 task.agentBond 1000
    let lateSlash := product / 10000
    let returnedBond ← subChecked task.agentBond lateSlash
    let reserveShare := (← mulChecked 256 product 500) / 100000000
    let requesterLateSlash ← subChecked lateSlash reserveShare
    some ⟨returnedBond, reserveShare, requesterLateSlash⟩
  else some ⟨task.agentBond, 0, 0⟩

def settleVerified (taskId : Bytes32) (task : Task) : BondAction τ Unit := do
  closeTask D taskId task .settled
  let late ← okOr (lateShares task) .panic
  let toAgent ← okOr (addChecked 256 task.payout late.returnedBond) .panic
  callEscrow D fun env => do
    releasePositive env taskId task.requester late.requesterLateSlash
    reservePositive env taskId late.reserveAmount
    releaseTo env taskId task.agent toAgent
    releaseTo env taskId task.requester task.requesterCancelBond
    releaseTo env taskId task.verifier task.verifierFee
  releaseRecourse D taskId task

/-- Who gets the fee when a report was overturned. -/
def feeRecipient (task : Task) (upheld : TaskStatus) : Address :=
  if task.challengeResolved = true ∧ task.challenger ≠ 0 ∧ task.preChallengeStatus ≠ upheld then
    task.challenger
  else task.verifier

def settleFailed (taskId : Bytes32) (task : Task) : BondAction τ Unit := do
  closeTask D taskId task .slashed
  let toRequester ← okOr (addChecked 256 task.payout task.requesterCancelBond) .panic
  callEscrow D fun env => do
    releaseTo env taskId task.requester toRequester
    releaseTo env taskId (feeRecipient task .failed) task.verifierFee
  releaseSlash D taskId task.requester task.verifier task.agentBond true
  payRecourseClaim D taskId task task.requester (D.reason "task_failed")

/-- The status before the challenge is compared with the final status, which is set already. -/
def settleRefund (taskId : Bytes32) (task : Task) : BondAction τ Unit := do
  closeTask D taskId task .refunded
  let toRequester ← okOr (addChecked 256 task.payout task.requesterCancelBond) .panic
  callEscrow D fun env => do
    releaseTo env taskId task.requester toRequester
    releaseTo env taskId task.agent task.agentBond
    releaseTo env taskId (feeRecipient task .refunded) task.verifierFee
  releaseRecourse D taskId task

/-- A report that was not decided by a resolution is final after the window, with its
confirmations. -/
def finalityGate (taskId : Bytes32) (task : Task) : BondAction τ Unit :=
  if (task.status = .verified ∨ task.status = .failed) ∧ task.challengeResolved = false then do
    let challengeDeadline ← okOr (addChecked 64 task.reportedAt task.disputeWindow) .panic
    let now64 ← now64
    revertIf (now64 ≤ challengeDeadline) (.challengeWindowOpen challengeDeadline now64)
    revertIf (task.reportConfirmations < task.requiredConfirmations)
      (.insufficientReportConfirmations taskId task.requiredConfirmations task.reportConfirmations)
  else pure ()

def settleByStatus (taskId : Bytes32) (task : Task) : BondAction τ Unit :=
  match task.status with
  | .verified => settleVerified D taskId task
  | .failed => settleFailed D taskId task
  | .unsupported => settleRefund D taskId task
  | .reorged => settleRefund D taskId task
  | status => revert (.invalidTaskStatus taskId status)

def settleTask (taskId : Bytes32) : BondAction τ Unit := do
  let task ← inManager (requireTask taskId)
  revertIf (task.status.isTerminal = true) (.alreadySettled taskId)
  finalityGate taskId task
  settleByStatus D taskId task

def slashExpiredNoSubmission (taskId : Bytes32) : BondAction τ Unit := do
  let task ← inManager (requireTask taskId)
  revertIf (task.status ≠ .accepted ∧ task.status ≠ .started)
    (.invalidTaskStatus taskId task.status)
  let expiry ← okOr (addChecked 64 task.submissionDeadline task.graceWindow) .panic
  let now64 ← now64
  revertIf (now64 ≤ expiry) (.noSubmissionExpiryNotReached expiry now64)
  closeTask D taskId task .slashed
  let requesterEscrow ← okOr task.requesterEscrow .panic
  callEscrow D fun env => releaseTo env taskId task.requester requesterEscrow
  releaseSlash D taskId task.requester task.requester task.agentBond false
  payRecourseClaim D taskId task task.requester (D.reason "expired_no_submission")

/-! ### Messages -/

/-- The calls about tasks. -/
inductive Msg where
  | settings (msg : ManagerSettings.Msg)
  | openTask (rootfieldId policyId termsHash : Bytes32) (payout : Uint256) (verifier : Address)
  | openTaskWithRecourse (rootfieldId policyId termsHash : Bytes32) (payout : Uint256)
      (verifier : Address) (recoursePool : Address) (recourseCoverage : Uint256)
  | cancelOpenTask (taskId : Bytes32)
  | acceptTask (taskId : Bytes32)
  | startTask (taskId : Bytes32)
  | commitEvidence (taskId evidenceCommitment availabilityCommitment : Bytes32)
      (availabilityUntil : UInt64)
  | submitVerifierReport (taskId reportId : Bytes32) (reportStatus : ReportStatus)
      (reportDigest : Bytes32)
  | confirmVerifierReport (taskId : Bytes32) (reportStatus : ReportStatus) (reportDigest : Bytes32)
  | challengeTask (taskId challengeCommitment : Bytes32)
  | resolveChallenge (taskId : Bytes32) (finalReportStatus : ReportStatus)
      (resolutionDigest : Bytes32) (verifierSlashBps : UInt16)
  | settleTask (taskId : Bytes32)
  | slashExpiredNoSubmission (taskId : Bytes32)

def call : Msg → BondAction τ Unit
  | .settings msg => do
      let w ← get
      inManager (within AgentBondManager.settings (fun m s => { m with settings := s }) (fun e => e)
        (ManagerSettings.call ⟨sender, w.now⟩ msg))
  | .openTask rootfieldId policyId termsHash payout verifier => do
      let _ ← openTask D sender rootfieldId policyId termsHash payout verifier
  | .openTaskWithRecourse rootfieldId policyId termsHash payout verifier pool coverage => do
      let _ ← openTaskWithRecourse D sender rootfieldId policyId termsHash payout verifier pool
        coverage
  | .cancelOpenTask taskId => cancelOpenTask D sender taskId
  | .acceptTask taskId => acceptTask D sender taskId
  | .startTask taskId => startTask sender taskId
  | .commitEvidence taskId evidence availability availabilityUntil =>
    commitEvidence sender taskId evidence availability availabilityUntil
  | .submitVerifierReport taskId reportId status digest =>
    submitVerifierReport sender taskId reportId status digest
  | .confirmVerifierReport taskId status digest =>
    confirmVerifierReport sender taskId status digest
  | .challengeTask taskId commitment => challengeTask D sender taskId commitment
  | .resolveChallenge taskId status digest slashBps =>
    resolveChallenge D sender taskId status digest slashBps
  | .settleTask taskId => settleTask D taskId
  | .slashExpiredNoSubmission taskId => slashExpiredNoSubmission D taskId

end AgentBondManager

end FlowMemory.AgentBonds
