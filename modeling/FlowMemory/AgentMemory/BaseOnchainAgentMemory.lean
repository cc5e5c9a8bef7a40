import FlowMemory.AgentBonds.Basic
import FlowMemory.Lib.CallTree

/-! # The memory of on-chain agents

An agent keeps a chain of **memory commitments**.  A **step** previews what the agent does about a
task, calls the tool of the agent if the task is accepted, and then appends a commitment; the owner
of the agent appends a commitment with a **correction**.  The tool may call the contract again before
it returns, so a step is a routine in two parts (`Handover`).

All hashes are parameters, in which the chain and the address of the contract are fixed.  The
identifiers that the source computes as hashes of fixed texts are parameters too. -/

namespace FlowMemory.AgentMemory

open Call AgentBonds Function

abbrev Bytes4 : Type := Fin (2 ^ 32)

instance bytes4_neZero : NeZero (2 ^ 32) := ⟨by decide⟩

inductive AgentStatus where
  | unknown | active | paused | finalized | failed
  deriving DecidableEq

inductive AgentAction where
  | noop | escalate | acceptTask | rejectTask | commitEvidence | updateMemoryOnly | pauseSelf
  deriving DecidableEq

inductive MemoryType where
  | unknown | episodic | semantic | procedural | goal | scarTissue | selfModel
  deriving DecidableEq

structure AgentConfig where
  owner : Address
  rootfieldId : Bytes32
  kernel : Address
  (policyRoot toolAllowlistRoot latestMemoryRoot kernelClass : Bytes32)
  (sequence autonomyLevel : ℕ)
  status : AgentStatus

structure HotMemory where
  (latestMemoryRoot activeGoal lastActionReceiptId lastVerifierReportId lastPulseId : Bytes32)
  (sequence failureCount spendUsedThisEpoch : ℕ)

structure ToolPolicy where
  target : Address
  selector : Bytes4
  (perActionValueCap epochValueCap maxTaskReward : Uint256)
  enabled : Bool

structure TaskObservation where
  (taskId taskKind evidenceRequirement : Bytes32)
  rewardAmount : Uint256
  deadline : UInt64
  taskStatus : UInt8
  recentFailureCount : UInt64
  humanReviewRequired : Bool

structure StepPreview where
  action : AgentAction
  toolId : Bytes32
  target : Address
  selector : Bytes4
  (callDataHash observationRoot memoryDeltaRoot previewHash : Bytes32)
  (sequence reasonCode maxValue : ℕ)

structure MemoryCommitment where
  (parentRoot deltaRoot newRoot sourceReceiptRoot metadataCommitment : Bytes32)
  sequence : ℕ
  memoryType : MemoryType
  actionSucceeded : Bool

structure MemoryCorrection where
  (targetMemoryRoot correctedMemoryRoot evidenceRoot : Bytes32)
  (targetSequence correctionSequence : ℕ)
  accepted : Bool

/-- A preview of an action without a tool; the hashes are filled in later. -/
def StepPreview.plain (action : AgentAction) (reasonCode : ℕ) : StepPreview :=
  ⟨action, 0, 0, 0, 0, 0, 0, 0, 0, reasonCode, 0⟩

def AgentConfig.empty : AgentConfig := ⟨0, 0, 0, 0, 0, 0, 0, 0, 0, .unknown⟩

def HotMemory.empty : HotMemory := ⟨0, 0, 0, 0, 0, 0, 0, 0⟩

def ToolPolicy.empty : ToolPolicy := ⟨0, 0, 0, 0, 0, false⟩

def MemoryCommitment.empty : MemoryCommitment := ⟨0, 0, 0, 0, 0, 0, .unknown, false⟩

def MemoryCorrection.empty : MemoryCorrection := ⟨0, 0, 0, 0, 0, false⟩

inductive MemoryEvent where
  | flowPulse (pulseId rootfieldId : Bytes32) (actor : Address) (pulseType : ℕ)
      (subject commitment parentPulseId : Bytes32) (sequence occurredAt : ℕ) (uri : String)
  | agentRegistered (agentId rootfieldId : Bytes32) (owner : Address)
      (policyRoot toolAllowlistRoot initialMemoryRoot kernelClass : Bytes32) (uri : String)
  | agentToolPolicySet (agentId toolId : Bytes32) (policy : ToolPolicy)
  | agentStatusSet (agentId : Bytes32) (status : AgentStatus) (uri : String)
  | agentStepCommitted (agentId actionReceiptId observationRoot : Bytes32) (action : AgentAction)
      (actionSucceeded : Bool) (sequence reasonCode : ℕ) (newMemoryRoot : Bytes32)
  | agentMemoryCommitted (agentId newMemoryRoot actionReceiptId parentRoot deltaRoot : Bytes32)
      (memoryType : MemoryType) (sequence : ℕ)
  | agentMemoryCorrected (agentId correctionId previousRoot correctedMemoryRoot : Bytes32)
      (evidenceRoot : Bytes32) (targetSequence correctionSequence : ℕ) (uri : String)

/-- The storage of the contract, and its log, the newest first. -/
structure BaseOnchainAgentMemory where
  agents : Bytes32 → AgentConfig
  hotMemory : Bytes32 → HotMemory
  toolPolicies : Bytes32 → Bytes32 → ToolPolicy
  pulseCounts : Bytes32 → ℕ
  memoryCommitments : Bytes32 → ℕ → MemoryCommitment
  memoryCorrections : Bytes32 → MemoryCorrection
  logs : List MemoryEvent

inductive MemoryError where
  | zeroAgentOwner
  | zeroRootfieldId
  | zeroPolicyRoot
  | zeroToolAllowlistRoot
  | zeroMemoryRoot
  | zeroKernelClass
  | zeroToolId
  | zeroToolTarget
  | zeroToolSelector
  | agentAlreadyRegistered (agentId : Bytes32)
  | agentNotRegistered (agentId : Bytes32)
  | notAgentOwner (agentId : Bytes32) (caller : Address)
  | agentNotActive (agentId : Bytes32) (status : AgentStatus)
  | previewMismatch (expectedPreviewHash actualPreviewHash : Bytes32)
  | sequenceMismatch (expected actual : ℕ)
  | toolNotAllowed (agentId toolId : Bytes32)
  | capExceeded (attempted cap : ℕ)
  | timestampOverflow (timestamp : ℕ)
  | zeroEvidenceRoot
  | invalidCorrectionTarget (agentId : Bytes32) (targetSequence : ℕ)
  | zeroCorrectionDeltaRoot
  | panic

/-- The address of the contract, the identifiers of fixed texts and the hashes. -/
structure MemoryDeployment where
  self : Address
  (acceptTaskToolId publicEvidenceRequirement docsReviewTaskKind : Bytes32)
  acceptTaskSelector : Bytes4
  agentId : (owner : Address) → (rootfieldId policyRoot toolAllowlistRoot initialMemoryRoot
    kernelClass salt : Bytes32) → Bytes32
  registration : (policyRoot toolAllowlistRoot initialMemoryRoot kernelClass : Bytes32) → Bytes32
  toolAllowlistRoot : (previous toolId : Bytes32) → ToolPolicy → Bytes32
  pausedCommitment : (agentId : Bytes32) → (paused : Bool) → Bytes32
  observationRoot : TaskObservation → Bytes32
  callDataHash : (selector : Bytes4) → (taskId : Bytes32) → Bytes32
  memoryDeltaRoot : (agentId : Bytes32) → (sequence : ℕ) → (parentRoot observationRoot : Bytes32) →
    AgentAction → (reasonCode : ℕ) → Bytes32
  previewHash : (agentId : Bytes32) → StepPreview → Bytes32
  actionReceiptId : (agentId : Bytes32) → (sequence : ℕ) → (previewHash : Bytes32) →
    AgentAction → (actionSucceeded : Bool) → Bytes32
  newMemoryRoot : (agentId : Bytes32) → (sequence : ℕ) →
    (parentRoot deltaRoot actionReceiptId : Bytes32) → (actionSucceeded : Bool) → Bytes32
  memoryCommitment : (parentRoot deltaRoot newMemoryRoot actionReceiptId : Bytes32) →
    (actionSucceeded : Bool) → Bytes32
  correctionId : (agentId : Bytes32) → (targetSequence correctionSequence : ℕ) →
    (evidenceRoot correctedMemoryRoot : Bytes32) → Bytes32
  correctionCommitment : (targetRoot correctedDeltaRoot correctedMemoryRoot evidenceRoot : Bytes32) →
    (targetSequence : ℕ) → Bytes32
  pulseId : (rootfieldId : Bytes32) → (actor : Address) → (pulseType : ℕ) →
    (subject commitment parentPulseId : Bytes32) → (sequence : ℕ) → Bytes32

namespace BaseOnchainAgentMemory

abbrev MemoryAction : Type → Type := Call BaseOnchainAgentMemory MemoryError

def deployed : BaseOnchainAgentMemory where
  agents _ := .empty
  hotMemory _ := .empty
  toolPolicies _ _ := .empty
  pulseCounts _ := 0
  memoryCommitments _ _ := .empty
  memoryCorrections _ := .empty
  logs := []

def reasonSafeNoop : ℕ := 1
def reasonTaskKindAllowed : ℕ := 2
def reasonTaskKindUnsupported : ℕ := 3
def reasonEvidencePublicRequired : ℕ := 4
def reasonRecentFailure : ℕ := 5
def reasonHumanReviewRequired : ℕ := 6
def reasonCapExceeded : ℕ := 7
def reasonToolNotAllowed : ℕ := 8

variable (D : MemoryDeployment) (env : Env)

/-! ### Pulses -/

def blockTimestamp : MemoryAction ℕ := do
  revertIf (env.timestamp > 2 ^ 64 - 1) (.timestampOverflow env.timestamp)
  pure env.timestamp

def emit (event : MemoryEvent) : MemoryAction Unit :=
  modify fun s => { s with logs := event :: s.logs }

def emitAgentPulse (rootfieldId : Bytes32) (actor : Address) (pulseType : ℕ)
    (subject commitment parentPulseId : Bytes32) (uri : String) : MemoryAction Bytes32 := do
  let s ← get
  let sequence ← okOr (addChecked 64 (s.pulseCounts rootfieldId) 1) .panic
  modify fun s => { s with pulseCounts := update s.pulseCounts rootfieldId sequence }
  let occurredAt ← blockTimestamp env
  let pulseId := D.pulseId rootfieldId actor pulseType subject commitment parentPulseId sequence
  emit (.flowPulse pulseId rootfieldId actor pulseType subject commitment parentPulseId sequence
    occurredAt uri)
  pure pulseId

def setLastPulseId (agentId pulseId : Bytes32) : MemoryAction Unit :=
  modify fun s => { s with
    hotMemory := update s.hotMemory agentId
      { s.hotMemory agentId with lastPulseId := pulseId } }

/-! ### Administration of agents -/

def requireAgent (agentId : Bytes32) : MemoryAction AgentConfig := do
  let s ← get
  revertIf ((s.agents agentId).owner = 0) (.agentNotRegistered agentId)
  pure (s.agents agentId)

def requireAgentOwner (agentId : Bytes32) : MemoryAction AgentConfig := do
  let agent ← requireAgent agentId
  revertIf (agent.owner ≠ env.sender) (.notAgentOwner agentId env.sender)
  pure agent

/-- The arguments of a registration. -/
structure Registration where
  owner : Address
  (rootfieldId policyRoot toolAllowlistRoot initialMemoryRoot activeGoal : Bytes32)
  autonomyLevel : UInt64
  (kernelClass salt : Bytes32)
  uri : String

/-- The identifier the agent gets. -/
def Registration.agentId (r : Registration) : Bytes32 :=
  D.agentId r.owner r.rootfieldId r.policyRoot r.toolAllowlistRoot r.initialMemoryRoot
    r.kernelClass r.salt

def registerAgent (r : Registration) : MemoryAction Bytes32 := do
  revertIf (r.owner = 0) .zeroAgentOwner
  revertIf (r.rootfieldId = 0) .zeroRootfieldId
  revertIf (r.policyRoot = 0) .zeroPolicyRoot
  revertIf (r.toolAllowlistRoot = 0) .zeroToolAllowlistRoot
  revertIf (r.initialMemoryRoot = 0) .zeroMemoryRoot
  revertIf (r.kernelClass = 0) .zeroKernelClass
  let agentId := r.agentId D
  let s ← get
  revertIf ((s.agents agentId).owner ≠ 0) (.agentAlreadyRegistered agentId)
  modify fun s => { s with
    agents := update s.agents agentId
      ⟨r.owner, r.rootfieldId, D.self, r.policyRoot, r.toolAllowlistRoot, r.initialMemoryRoot,
        r.kernelClass, 0, r.autonomyLevel.toNat, .active⟩
    hotMemory := update s.hotMemory agentId
      ⟨r.initialMemoryRoot, r.activeGoal, 0, 0, 0, 0, 0, 0⟩ }
  let pulseId ← emitAgentPulse D env r.rootfieldId r.owner 14 agentId
    (D.registration r.policyRoot r.toolAllowlistRoot r.initialMemoryRoot r.kernelClass) 0 r.uri
  setLastPulseId agentId pulseId
  emit (.agentRegistered agentId r.rootfieldId r.owner r.policyRoot r.toolAllowlistRoot
    r.initialMemoryRoot r.kernelClass r.uri)
  pure agentId

def setToolPolicy (agentId toolId : Bytes32) (policy : ToolPolicy) (uri : String) :
    MemoryAction Unit := do
  let agent ← requireAgentOwner env agentId
  revertIf (toolId = 0) .zeroToolId
  revertIf (policy.enabled = true ∧ policy.target = 0) .zeroToolTarget
  revertIf (policy.enabled = true ∧ policy.selector = 0) .zeroToolSelector
  let toolAllowlistRoot := D.toolAllowlistRoot agent.toolAllowlistRoot toolId policy
  modify fun s => { s with
    toolPolicies := update s.toolPolicies agentId
      (update (s.toolPolicies agentId) toolId policy)
    agents := update s.agents agentId
      { s.agents agentId with toolAllowlistRoot } }
  let s ← get
  let pulseId ← emitAgentPulse D env agent.rootfieldId env.sender 15 agentId toolAllowlistRoot
    (s.hotMemory agentId).lastPulseId uri
  setLastPulseId agentId pulseId
  emit (.agentToolPolicySet agentId toolId policy)

def setAgentPaused (agentId : Bytes32) (paused : Bool) (uri : String) : MemoryAction Unit := do
  let agent ← requireAgentOwner env agentId
  let status := if paused = true then AgentStatus.paused else AgentStatus.active
  modify fun s => { s with
    agents := update s.agents agentId { s.agents agentId with status } }
  let s ← get
  let pulseId ← emitAgentPulse D env agent.rootfieldId env.sender 19 agentId
    (D.pausedCommitment agentId paused) (s.hotMemory agentId).lastPulseId uri
  setLastPulseId agentId pulseId
  emit (.agentStatusSet agentId status uri)

/-! ### Previews -/

/-- The action, its tool and its reason. -/
def chooseAction (agentId : Bytes32) (observation : TaskObservation) :
    MemoryAction StepPreview := do
  let s ← get
  let acceptPolicy := s.toolPolicies agentId D.acceptTaskToolId
  if (s.agents agentId).status ≠ .active ∨ observation.taskId = 0 ∨ observation.taskStatus ≠ 1 then
    pure (.plain .noop reasonSafeNoop)
  else if observation.humanReviewRequired = true then
    pure (.plain .escalate reasonHumanReviewRequired)
  else if observation.evidenceRequirement ≠ D.publicEvidenceRequirement then
    pure (.plain .escalate reasonEvidencePublicRequired)
  else do
    let failures ← okOr (addChecked 64 (s.hotMemory agentId).failureCount
      observation.recentFailureCount.toNat) .panic
    if failures ≥ 3 then
      pure (.plain .rejectTask reasonRecentFailure)
    else if acceptPolicy.enabled = false ∨ acceptPolicy.target = 0 ∨
        acceptPolicy.selector ≠ D.acceptTaskSelector then
      pure (.plain .noop reasonToolNotAllowed)
    else if acceptPolicy.maxTaskReward ≠ 0 ∧ observation.rewardAmount > acceptPolicy.maxTaskReward
      then pure (.plain .escalate reasonCapExceeded)
    else if observation.taskKind ≠ D.docsReviewTaskKind then
      pure (.plain .rejectTask reasonTaskKindUnsupported)
    else
      pure { StepPreview.plain .acceptTask reasonTaskKindAllowed with
        toolId := D.acceptTaskToolId
        target := acceptPolicy.target
        selector := acceptPolicy.selector
        callDataHash := D.callDataHash acceptPolicy.selector observation.taskId
        maxValue := acceptPolicy.perActionValueCap }

def previewStep (agentId : Bytes32) (observation : TaskObservation) :
    MemoryAction StepPreview := do
  let _ ← requireAgent agentId
  let s ← get
  let hot := s.hotMemory agentId
  let obsRoot := D.observationRoot observation
  let chosen ← chooseAction D agentId observation
  let nextSequence ← okOr (addChecked 64 hot.sequence 1) .panic
  let deltaRoot := D.memoryDeltaRoot agentId nextSequence hot.latestMemoryRoot obsRoot chosen.action
    chosen.reasonCode
  let preview := { chosen with
    observationRoot := obsRoot, memoryDeltaRoot := deltaRoot, sequence := hot.sequence }
  pure { preview with previewHash := D.previewHash agentId preview }

/-! ### Steps -/

def requireAllowedTool (agentId toolId : Bytes32) (policy : ToolPolicy) (value spent : ℕ) :
    MemoryAction Unit := do
  revertIf (policy.enabled = false ∨ policy.target = 0 ∨ policy.selector ≠ D.acceptTaskSelector)
    (.toolNotAllowed agentId toolId)
  revertIf (value > policy.perActionValueCap.val) (.capExceeded value policy.perActionValueCap)
  let attempted ← okOr (addChecked 256 spent value) .panic
  revertIf (policy.epochValueCap ≠ 0 ∧ attempted > policy.epochValueCap.val)
    (.capExceeded attempted policy.epochValueCap)

def validatedPreview (agentId : Bytes32) (observation : TaskObservation)
    (expectedPreview : StepPreview) (value currentSequence : ℕ) : MemoryAction StepPreview := do
  let actualPreview ← previewStep D agentId observation
  revertIf (expectedPreview.sequence ≠ currentSequence)
    (.sequenceMismatch expectedPreview.sequence currentSequence)
  revertIf (expectedPreview.previewHash ≠ actualPreview.previewHash)
    (.previewMismatch expectedPreview.previewHash actualPreview.previewHash)
  revertIf (value > actualPreview.maxValue) (.capExceeded value actualPreview.maxValue)
  pure actualPreview

def commitStepMemory (agentId parentRoot : Bytes32) (preview : StepPreview)
    (actionReceiptId newMemoryRoot : Bytes32) (nextSequence : ℕ) (actionSucceeded : Bool)
    (valueSpent : ℕ) : MemoryAction Unit := do
  let s ← get
  let hot := s.hotMemory agentId
  let spendUsedThisEpoch ← okOr (addChecked 256 hot.spendUsedThisEpoch valueSpent) .panic
  let failureCount ← okOr (if actionSucceeded = true then some hot.failureCount
    else addChecked 64 hot.failureCount 1) .panic
  modify fun s => { s with
    memoryCommitments := update s.memoryCommitments agentId
      (update (s.memoryCommitments agentId) nextSequence
        ⟨parentRoot, preview.memoryDeltaRoot, newMemoryRoot, actionReceiptId,
          preview.observationRoot, nextSequence,
          if actionSucceeded = true then .episodic else .scarTissue, actionSucceeded⟩)
    hotMemory := update s.hotMemory agentId
      { hot with
        latestMemoryRoot := newMemoryRoot
        lastActionReceiptId := actionReceiptId
        sequence := nextSequence
        spendUsedThisEpoch
        failureCount }
    agents := update s.agents agentId
      { s.agents agentId with latestMemoryRoot := newMemoryRoot, sequence := nextSequence } }

def emitStepOutput (agentId rootfieldId parentPulseId actionReceiptId : Bytes32)
    (preview : StepPreview) (actionSucceeded : Bool) (nextSequence : ℕ)
    (parentRoot newMemoryRoot : Bytes32) (uri : String) : MemoryAction Unit := do
  let stepPulseId ← emitAgentPulse D env rootfieldId env.sender 16 agentId actionReceiptId
    parentPulseId uri
  let memoryPulseId ← emitAgentPulse D env rootfieldId env.sender 18 newMemoryRoot
    (D.memoryCommitment parentRoot preview.memoryDeltaRoot newMemoryRoot actionReceiptId
      actionSucceeded) stepPulseId (uri ++ "#memory")
  setLastPulseId agentId memoryPulseId
  emit (.agentStepCommitted agentId actionReceiptId preview.observationRoot preview.action
    actionSucceeded nextSequence preview.reasonCode newMemoryRoot)
  emit (.agentMemoryCommitted agentId newMemoryRoot actionReceiptId parentRoot
    preview.memoryDeltaRoot (if actionSucceeded = true then .episodic else .scarTissue)
    nextSequence)

/-- The step after its action. -/
def finishStep (agentId : Bytes32) (preview : StepPreview) (value : ℕ) (uri : String)
    (actionSucceeded : Bool) : MemoryAction Unit := do
  let s ← get
  let hot := s.hotMemory agentId
  let nextSequence ← okOr (addChecked 64 hot.sequence 1) .panic
  let parentRoot := hot.latestMemoryRoot
  let actionReceiptId := D.actionReceiptId agentId nextSequence preview.previewHash preview.action
    actionSucceeded
  let newMemoryRoot := D.newMemoryRoot agentId nextSequence parentRoot preview.memoryDeltaRoot
    actionReceiptId actionSucceeded
  commitStepMemory agentId parentRoot preview actionReceiptId newMemoryRoot nextSequence
    actionSucceeded value
  emitStepOutput D env agentId (s.agents agentId).rootfieldId hot.lastPulseId actionReceiptId preview
    actionSucceeded nextSequence parentRoot newMemoryRoot uri

/-- The step up to the call of the tool.  A step that calls no tool ends here. -/
def beginStep (agentId : Bytes32) (observation : TaskObservation) (expectedPreview : StepPreview)
    (uri : String) (value : ℕ) : MemoryAction (Option StepPreview) := do
  let agent ← requireAgent agentId
  revertIf (agent.status ≠ .active) (.agentNotActive agentId agent.status)
  let s ← get
  let hot := s.hotMemory agentId
  let preview ← validatedPreview D agentId observation expectedPreview value hot.sequence
  if preview.action = .acceptTask then do
    requireAllowedTool D agentId preview.toolId (s.toolPolicies agentId preview.toolId) value
      hot.spendUsedThisEpoch
    pure (some preview)
  else do
    revertIf (value ≠ 0) (.capExceeded value 0)
    finishStep D env agentId preview value uri true
    pure none

/-! ### Corrections -/

def correctMemory (agentId : Bytes32) (targetSequence : ℕ)
    (correctedDeltaRoot evidenceRoot : Bytes32) (uri : String) : MemoryAction Unit := do
  let agent ← requireAgentOwner env agentId
  revertIf (evidenceRoot = 0) .zeroEvidenceRoot
  revertIf (correctedDeltaRoot = 0) .zeroCorrectionDeltaRoot
  let s ← get
  let targetCommitment := s.memoryCommitments agentId targetSequence
  revertIf (targetSequence = 0 ∨ targetCommitment.sequence ≠ targetSequence ∨
    targetCommitment.newRoot = 0) (.invalidCorrectionTarget agentId targetSequence)
  let hot := s.hotMemory agentId
  let correctionSequence ← okOr (addChecked 64 hot.sequence 1) .panic
  let parentRoot := hot.latestMemoryRoot
  let correctedMemoryRoot := D.newMemoryRoot agentId correctionSequence parentRoot correctedDeltaRoot
    targetCommitment.sourceReceiptRoot true
  let correctionId := D.correctionId agentId targetSequence correctionSequence evidenceRoot
    correctedMemoryRoot
  modify fun s => { s with
    memoryCorrections := update s.memoryCorrections correctionId
      ⟨targetCommitment.newRoot, correctedMemoryRoot, evidenceRoot, targetSequence,
        correctionSequence, true⟩
    memoryCommitments := update s.memoryCommitments agentId
      (update (s.memoryCommitments agentId) correctionSequence
        ⟨parentRoot, correctedDeltaRoot, correctedMemoryRoot, targetCommitment.sourceReceiptRoot,
          evidenceRoot, correctionSequence, .scarTissue, true⟩)
    hotMemory := update s.hotMemory agentId
      { s.hotMemory agentId with
        latestMemoryRoot := correctedMemoryRoot, sequence := correctionSequence }
    agents := update s.agents agentId
      { s.agents agentId with
        latestMemoryRoot := correctedMemoryRoot
        sequence := correctionSequence
        status := .active } }
  let correctionPulseId ← emitAgentPulse D env agent.rootfieldId env.sender 34 correctedMemoryRoot
    (D.correctionCommitment targetCommitment.newRoot correctedDeltaRoot correctedMemoryRoot
      evidenceRoot targetSequence) hot.lastPulseId uri
  setLastPulseId agentId correctionPulseId
  emit (.agentMemoryCorrected agentId correctionId parentRoot correctedMemoryRoot evidenceRoot
    targetSequence correctionSequence uri)

/-! ### The contract -/

/-- The calls of the contract, as messages. -/
inductive Msg where
  | registerAgent (r : Registration)
  | setToolPolicy (agentId toolId : Bytes32) (policy : ToolPolicy) (uri : String)
  | setAgentPaused (agentId : Bytes32) (paused : Bool) (uri : String)
  | step (agentId : Bytes32) (observation : TaskObservation) (expectedPreview : StepPreview)
      (uri : String) (value : Uint256)
  | correctMemory (agentId : Bytes32) (targetSequence : UInt64)
      (correctedDeltaRoot evidenceRoot : Bytes32) (uri : String)

def routine : Env × Msg → Handover BaseOnchainAgentMemory MemoryError StepPreview
  | (env, .registerAgent r) => .plain do
      let _ ← registerAgent D env r
  | (env, .setToolPolicy agentId toolId policy uri) =>
    .plain (setToolPolicy D env agentId toolId policy uri)
  | (env, .setAgentPaused agentId paused uri) => .plain (setAgentPaused D env agentId paused uri)
  | (env, .step agentId observation expectedPreview uri value) =>
    { before := beginStep D env agentId observation expectedPreview uri value
      after := fun preview => finishStep D env agentId preview value uri }
  | (env, .correctMemory agentId targetSequence correctedDeltaRoot evidenceRoot uri) =>
    .plain (correctMemory D env agentId targetSequence.toNat correctedDeltaRoot evidenceRoot uri)

end BaseOnchainAgentMemory

end FlowMemory.AgentMemory
