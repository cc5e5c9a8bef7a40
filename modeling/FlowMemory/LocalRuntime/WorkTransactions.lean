import FlowMemory.LocalRuntime.Ledger

/-! # Transactions on rootfields, agents, work and anchors

Registrations, commitments, work receipts with their verifier reports, challenges and finality,
memory cells, anchors and imports. -/

namespace FlowMemory

open LocalRuntimeError Txn Serialize

/-! ### Registrations -/

def registerRootfield (tx : RegisterRootfield) : Action Unit := do
  let s ← get
  rejectIf (s.rootfields.contains tx.rootfieldId) (rootfieldAlreadyExists tx.rootfieldId)
  modify fun s => { s with
    rootfields := s.rootfields.insert tx.rootfieldId
      { rootfieldId := tx.rootfieldId, owner := tx.owner, schemaHash := tx.schemaHash,
        metadataHash := tx.metadataHash, latestRoot := none, pulseCount := 1, rootCount := 0,
        active := true } }

def registerAgent (tx : RegisterAgent) : Action Unit := do
  let s ← get
  rejectIf (s.agentAccounts.contains tx.agentId) (agentAlreadyExists tx.agentId)
  ofExcept (match tx.modelPassportId with
    | some passport =>
      Check.rejectIf (¬ s.modelPassports.contains passport) (modelPassportMissing passport)
    | none => .ok ())
  modify fun s => { s with
    agentAccounts := s.agentAccounts.insert tx.agentId
      { agentId := tx.agentId, controller := tx.controller,
        modelPassportId := tx.modelPassportId, metadataHash := tx.metadataHash,
        memoryRoot := zeroHash, active := true } }

def registerModelPassport (tx : RegisterModelPassport) : Action Unit := do
  let s ← get
  rejectIf (s.modelPassports.contains tx.modelPassportId)
    (modelPassportAlreadyExists tx.modelPassportId)
  modify fun s => { s with
    modelPassports := s.modelPassports.insert tx.modelPassportId
      { modelPassportId := tx.modelPassportId, issuer := tx.issuer,
        modelFamily := tx.modelFamily, modelHash := tx.modelHash,
        metadataHash := tx.metadataHash, active := true } }

def registerVerifierModule (tx : RegisterVerifierModule) : Action Unit := do
  let s ← get
  rejectIf (s.verifierModules.contains tx.verifierId) (verifierModuleAlreadyExists tx.verifierId)
  modify fun s => { s with
    verifierModules := s.verifierModules.insert tx.verifierId
      { verifierId := tx.verifierId, operator := tx.operator, moduleHash := tx.moduleHash,
        ruleSet := tx.ruleSet, metadataHash := tx.metadataHash, active := true } }

/-! ### Roots and artifacts -/

def commitRoot (tx : CommitRoot) : Action Unit := do
  let s ← get
  let rootfield ← okOr s.rootfields[tx.rootfieldId]? (rootfieldMissing tx.rootfieldId)
  rejectIf (rootfield.active = false) (rootfieldInactive tx.rootfieldId)
  modify fun s => { s with
    rootfields := s.rootfields.insert tx.rootfieldId
      { rootfield with
        latestRoot := some tx.root, pulseCount := rootfield.pulseCount + 1,
        rootCount := rootfield.rootCount + 1 } }

def submitArtifactCommitment (tx : SubmitArtifactCommitment) : Action Unit := do
  let s ← get
  ofExcept (ensureRootfieldExists s tx.rootfieldId)
  rejectIf (s.artifactCommitments.contains tx.artifactId) (artifactAlreadyExists tx.artifactId)
  modify fun s => { s with
    artifactCommitments := s.artifactCommitments.insert tx.artifactId
      { artifactId := tx.artifactId, rootfieldId := tx.rootfieldId,
        commitment := tx.commitment, uriHint := tx.uriHint } }

def markArtifactAvailability (tx : MarkArtifactAvailability) : Action Unit := do
  let s ← get
  ofExcept (ensureRootfieldExists s tx.rootfieldId)
  rejectIf (s.artifactAvailabilityProofs.contains tx.proofId)
    (artifactAvailabilityAlreadyExists tx.proofId)
  let artifact ← okOr s.artifactCommitments[tx.artifactId]? (artifactMissing tx.artifactId)
  rejectIf (artifact.rootfieldId ≠ tx.rootfieldId) (artifactRootfieldMismatch tx.artifactId)
  modify fun s => { s with
    artifactAvailabilityProofs := s.artifactAvailabilityProofs.insert tx.proofId
      { proofId := tx.proofId, artifactId := tx.artifactId, rootfieldId := tx.rootfieldId,
        commitment := artifact.commitment, proofDigest := tx.proofDigest,
        storageBackend := tx.storageBackend, status := tx.status,
        checkedAtBlock := s.nextBlockNumber } }

/-! ### Work receipts and reports -/

def submitWorkReceipt (tx : SubmitWorkReceipt) : Action Unit := do
  let s ← get
  ofExcept (ensureRootfieldExists s tx.rootfieldId)
  rejectIf (¬ (OrderedMap.vals s.artifactCommitments).any fun artifact =>
      artifact.rootfieldId = tx.rootfieldId && artifact.commitment = tx.artifactCommitment)
    (artifactMissing tx.artifactCommitment)
  rejectIf (s.workReceipts.contains tx.receiptId) (workReceiptAlreadyExists tx.receiptId)
  modify fun s => { s with
    workReceipts := s.workReceipts.insert tx.receiptId
      { receiptId := tx.receiptId, rootfieldId := tx.rootfieldId, workerId := tx.workerId,
        inputRoot := tx.inputRoot, outputRoot := tx.outputRoot,
        artifactCommitment := tx.artifactCommitment, ruleSet := tx.ruleSet } }

def submitVerifierReport (tx : SubmitVerifierReport) : Action Unit := do
  let s ← get
  ofExcept (ensureRootfieldExists s tx.rootfieldId)
  ofExcept (ensureVerifierModuleActive s tx.verifierId)
  let receipt ← okOr s.workReceipts[tx.receiptId]? (workReceiptMissing tx.receiptId)
  rejectIf (receipt.rootfieldId ≠ tx.rootfieldId) (workReceiptRootfieldMismatch tx.receiptId)
  rejectIf (s.verifierReports.contains tx.reportId) (verifierReportAlreadyExists tx.reportId)
  modify fun s => { s with
    verifierReports := s.verifierReports.insert tx.reportId
      { reportId := tx.reportId, rootfieldId := tx.rootfieldId, receiptId := tx.receiptId,
        verifierId := tx.verifierId, reportDigest := tx.reportDigest, status := tx.status,
        reasonCodes := tx.reasonCodes } }

/-! ### Memory cells -/

/-- The parent root and the update count of the next version of a memory cell. -/
def nextMemoryCell (s : ChainState) (tx : UpdateMemoryCell) : Checked (String × UInt64) :=
  match s.memoryCells[tx.memoryCellId]? with
  | some cell => do
      Check.rejectIf (cell.agentId ≠ tx.agentId ∨ cell.rootfieldId ≠ tx.rootfieldId)
        (memoryCellOwnershipMismatch tx.memoryCellId)
      return (cell.currentRoot, cell.updateCount + 1)
  | none => .ok (zeroHash, 1)

def updateMemoryCell (tx : UpdateMemoryCell) : Action Unit := do
  let s ← get
  ofExcept (ensureRootfieldExists s tx.rootfieldId)
  ofExcept (ensureAgentActive s tx.agentId)
  let _ ← ofExcept (ensureReceiptAccepted s tx.sourceReceiptId tx.rootfieldId)
  let (parentRoot, updateCount) ← ofExcept (nextMemoryCell s tx)
  modify fun s => { s with
    memoryCells := s.memoryCells.insert tx.memoryCellId
      { memoryCellId := tx.memoryCellId, agentId := tx.agentId, rootfieldId := tx.rootfieldId,
        currentRoot := tx.newRoot, parentRoot,
        sourceReceiptId := tx.sourceReceiptId, memoryDeltaRoot := tx.memoryDeltaRoot,
        status := "active", updateCount, updatedAtBlock := s.nextBlockNumber } }
  modify fun s => { s with
    agentAccounts :=
      s.agentAccounts.update tx.agentId fun agent => { agent with memoryRoot := tx.newRoot } }

/-! ### Challenges and finality -/

/-- The receipt has a finality receipt. -/
def isFinalized (s : ChainState) (receiptId : String) : Bool :=
  (OrderedMap.vals s.finalityReceipts).any fun receipt => receipt.receiptId = receiptId

/-- The receipt has a challenge that is not resolved. -/
def hasOpenChallenge (s : ChainState) (receiptId : String) : Bool :=
  (OrderedMap.vals s.challenges).any fun challenge =>
    challenge.receiptId = receiptId && challenge.status = "open"

/-- The number of challenges recorded for the receipt. -/
def challengeCount (s : ChainState) (receiptId : String) : ℕ :=
  OrderedMap.countVals s.challenges fun challenge => challenge.receiptId = receiptId

def openChallenge (tx : OpenChallenge) : Action Unit := do
  let s ← get
  rejectIf (s.challenges.contains tx.challengeId) (challengeAlreadyExists tx.challengeId)
  rejectIf (¬ s.workReceipts.contains tx.receiptId) (workReceiptMissing tx.receiptId)
  rejectIf (isFinalized s tx.receiptId) (workReceiptAlreadyFinalized tx.receiptId)
  modify fun s => { s with
    challenges := s.challenges.insert tx.challengeId
      { challengeId := tx.challengeId, receiptId := tx.receiptId, challenger := tx.challenger,
        evidenceHash := tx.evidenceHash, reasonCode := tx.reasonCode, status := "open",
        resolution := none, openedAtBlock := s.nextBlockNumber, resolvedAtBlock := none } }

def resolveChallenge (tx : ResolveChallenge) : Action Unit := do
  let s ← get
  let challenge ← okOr s.challenges[tx.challengeId]? (challengeMissing tx.challengeId)
  rejectIf (challenge.status ≠ "open") (challengeAlreadyResolved tx.challengeId)
  modify fun s => { s with
    challenges := s.challenges.insert tx.challengeId
      { challenge with
        status := "resolved", resolution := some tx.resolution,
        resolvedAtBlock := some s.nextBlockNumber } }

section keccak

variable [Keccak]

def finalizeWorkReceipt (tx : FinalizeWorkReceipt) : Action Unit := do
  let s ← get
  rejectIf (¬ isValidFinalityStatus tx.finalityStatus) (invalidFinalityStatus tx.finalityStatus)
  rejectIf (s.finalityReceipts.contains tx.finalityReceiptId)
    (finalityReceiptAlreadyExists tx.finalityReceiptId)
  let receipt ← ofExcept (ensureReceiptAcceptedForAnyRootfield s tx.receiptId)
  rejectIf (hasOpenChallenge s tx.receiptId) (challengeUnresolved tx.receiptId)
  rejectIf (isFinalized s tx.receiptId) (workReceiptAlreadyFinalized tx.receiptId)
  modify fun s => { s with
    finalityReceipts := s.finalityReceipts.insert tx.finalityReceiptId
      { finalityReceiptId := tx.finalityReceiptId, receiptId := tx.receiptId,
        rootfieldId := receipt.rootfieldId, finalizedBy := tx.finalizedBy,
        finalityStatus := tx.finalityStatus, challengeCount := challengeCount s tx.receiptId,
        finalizedAtBlock := s.nextBlockNumber, stateRoot := stateRoot s } }

/-! ### Anchors -/

/-- The last identifier in key order. -/
def previousAnchorId (s : ChainState) : String := s.baseAnchors.keys.getLast?.getD zeroHash

/-- What the identifier of an anchor is computed from: all its other fields. -/
def anchorIdInput (anchor : BaseAnchorPlaceholder) : Json := .obj
  [("schema", toJson "flowmemory.base_anchor.placeholder.v0"),
   ("localRuntimeChainId", toJson anchor.localRuntimeChainId),
   ("blockRangeStart", toJson anchor.blockRangeStart),
   ("blockRangeEnd", toJson anchor.blockRangeEnd), ("stateRoot", toJson anchor.stateRoot),
   ("workReceiptRoot", toJson anchor.workReceiptRoot),
   ("verifierReportRoot", toJson anchor.verifierReportRoot),
   ("rootfieldStateRoot", toJson anchor.rootfieldStateRoot),
   ("artifactCommitmentRoot", toJson anchor.artifactCommitmentRoot),
   ("operatorKeyReferenceRoot", toJson anchor.operatorKeyReferenceRoot),
   ("agentAccountRoot", toJson anchor.agentAccountRoot),
   ("localTestUnitBalanceRoot", toJson anchor.localTestUnitBalanceRoot),
   ("faucetRecordRoot", toJson anchor.faucetRecordRoot),
   ("balanceTransferRoot", toJson anchor.balanceTransferRoot),
   ("tokenDefinitionRoot", toJson anchor.tokenDefinitionRoot),
   ("tokenBalanceRoot", toJson anchor.tokenBalanceRoot),
   ("tokenMintReceiptRoot", toJson anchor.tokenMintReceiptRoot),
   ("dexPoolRoot", toJson anchor.dexPoolRoot),
   ("lpPositionRoot", toJson anchor.lpPositionRoot),
   ("liquidityReceiptRoot", toJson anchor.liquidityReceiptRoot),
   ("swapReceiptRoot", toJson anchor.swapReceiptRoot),
   ("bridgeAssetMappingRoot", toJson anchor.bridgeAssetMappingRoot),
   ("bridgeAccountMappingRoot", toJson anchor.bridgeAccountMappingRoot),
   ("bridgeCreditRoot", toJson anchor.bridgeCreditRoot),
   ("bridgeCreditReceiptRoot", toJson anchor.bridgeCreditReceiptRoot),
   ("bridgeReplayIndexRoot", toJson anchor.bridgeReplayIndexRoot),
   ("bridgeEventReceiptIndexRoot", toJson anchor.bridgeEventReceiptIndexRoot),
   ("modelPassportRoot", toJson anchor.modelPassportRoot),
   ("memoryCellRoot", toJson anchor.memoryCellRoot),
   ("challengeRoot", toJson anchor.challengeRoot),
   ("finalityReceiptRoot", toJson anchor.finalityReceiptRoot),
   ("artifactAvailabilityProofRoot", toJson anchor.artifactAvailabilityProofRoot),
   ("verifierModuleRoot", toJson anchor.verifierModuleRoot),
   ("previousAnchorId", toJson anchor.previousAnchorId),
   ("finalityStatus", toJson anchor.finalityStatus)]

/-- The anchor of a state, with its identifier still open. -/
def anchorBody (s : ChainState) (localRuntimeChainId finalityStatus : String) :
    BaseAnchorPlaceholder :=
  let roots := stateMapRoots s
  { anchorId := ""
    localRuntimeChainId
    blockRangeStart := s.blocks.head?.elim 0 (·.blockNumber)
    blockRangeEnd := s.blocks.getLast?.elim 0 (·.blockNumber)
    stateRoot := stateRoot s
    workReceiptRoot := roots.workReceiptRoot
    verifierReportRoot := roots.verifierReportRoot
    rootfieldStateRoot := roots.rootfieldStateRoot
    artifactCommitmentRoot := roots.artifactCommitmentRoot
    operatorKeyReferenceRoot := roots.operatorKeyReferenceRoot
    agentAccountRoot := roots.agentAccountRoot
    localTestUnitBalanceRoot := roots.localTestUnitBalanceRoot
    faucetRecordRoot := roots.faucetRecordRoot
    balanceTransferRoot := roots.balanceTransferRoot
    tokenDefinitionRoot := roots.tokenDefinitionRoot
    tokenBalanceRoot := roots.tokenBalanceRoot
    tokenMintReceiptRoot := roots.tokenMintReceiptRoot
    dexPoolRoot := roots.dexPoolRoot
    lpPositionRoot := roots.lpPositionRoot
    liquidityReceiptRoot := roots.liquidityReceiptRoot
    swapReceiptRoot := roots.swapReceiptRoot
    bridgeAssetMappingRoot := roots.bridgeAssetMappingRoot
    bridgeAccountMappingRoot := roots.bridgeAccountMappingRoot
    bridgeCreditRoot := roots.bridgeCreditRoot
    bridgeCreditReceiptRoot := roots.bridgeCreditReceiptRoot
    bridgeReplayIndexRoot := roots.bridgeReplayIndexRoot
    bridgeEventReceiptIndexRoot := roots.bridgeEventReceiptIndexRoot
    modelPassportRoot := roots.modelPassportRoot
    memoryCellRoot := roots.memoryCellRoot
    challengeRoot := roots.challengeRoot
    finalityReceiptRoot := roots.finalityReceiptRoot
    artifactAvailabilityProofRoot := roots.artifactAvailabilityProofRoot
    verifierModuleRoot := roots.verifierModuleRoot
    previousAnchorId := previousAnchorId s
    finalityStatus }

def anchorFromState (s : ChainState) (localRuntimeChainId finalityStatus : String) :
    BaseAnchorPlaceholder :=
  let body := anchorBody s localRuntimeChainId finalityStatus
  { body with
    anchorId := hashJson "flowmemory.local_runtime.base_anchor_placeholder.v0"
      (anchorIdInput body) }

def anchorBatchToBasePlaceholder (tx : AnchorBatchToBasePlaceholder) : Action Unit := do
  let s ← get
  let anchor := anchorFromState s tx.localRuntimeChainId tx.finalityStatus
  rejectIf (s.baseAnchors.contains anchor.anchorId) (anchorAlreadyExists anchor.anchorId)
  modify fun s => { s with baseAnchors := s.baseAnchors.insert anchor.anchorId anchor }

end keccak

/-! ### Imports -/

/-- The comparison with the event signature is made in lower case.  The signature consists of
ASCII digits and letters that are the lower case of ASCII characters only, so lowering ASCII
letters decides it. -/
def importFlowPulseObservation (observation : ImportedFlowPulseObservation) : Action Unit := do
  let s ← get
  rejectIf (toAsciiLowercase observation.eventSignature ≠ flowpulseTopic0)
    (invalidEventSignature observation.eventSignature)
  rejectIf (s.importedObservations.contains observation.observationId)
    (importedObservationAlreadyExists observation.observationId)
  modify fun s => { s with
    importedObservations :=
      s.importedObservations.insert observation.observationId observation }

def importVerifierReport (report : ImportedVerifierReport) : Action Unit := do
  let s ← get
  rejectIf (s.importedVerifierReports.contains report.reportId)
    (importedVerifierReportAlreadyExists report.reportId)
  modify fun s => { s with
    importedVerifierReports := s.importedVerifierReports.insert report.reportId report }

end FlowMemory
