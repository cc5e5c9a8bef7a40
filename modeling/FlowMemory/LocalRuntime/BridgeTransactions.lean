import FlowMemory.LocalRuntime.Ledger

/-! # Bridge transactions

Mappings of assets and accounts of another chain, and the credit of an event observed there.
A credit must present a replay key and a credit id that match one of two formulas each, and is
refused when its replay key, its credit id or its event reference key is already in an index. -/

namespace FlowMemory

open LocalRuntimeError Txn Check

variable [Keccak]

def mapBridgeAsset (tx : MapBridgeAsset) : Action Unit := do
  let s ← get
  ofExcept (ensureValidBridgeRuntimeMode tx.localOnly tx.productionReady tx.mappingId)
  ofExcept (ensureExpectedId "bridge asset mapping" tx.mappingId
    (deterministicBridgeAssetMappingId tx.sourceChainId tx.sourceToken tx.localAssetId))
  rejectIf (s.bridgeAssetMappings.contains tx.mappingId)
    (bridgeAssetMappingAlreadyExists tx.mappingId)
  ofExcept (if tx.localAssetId ≠ localTestUnitAssetId then ensureAssetExists s tx.localAssetId
    else .ok ())
  modify fun s => { s with
    bridgeAssetMappings := s.bridgeAssetMappings.insert tx.mappingId
      { mappingId := tx.mappingId, sourceChainId := tx.sourceChainId,
        sourceToken := tx.sourceToken, localAssetId := tx.localAssetId,
        createdAtBlock := s.nextBlockNumber, localOnly := tx.localOnly,
        productionReady := tx.productionReady } }

def mapBridgeAccount (tx : MapBridgeAccount) : Action Unit := do
  let s ← get
  ofExcept (ensureValidBridgeRuntimeMode tx.localOnly tx.productionReady tx.mappingId)
  ofExcept (ensureExpectedId "bridge account mapping" tx.mappingId
    (deterministicBridgeAccountMappingId tx.flowmemoryRecipient tx.accountId))
  rejectIf (s.bridgeAccountMappings.contains tx.mappingId)
    (bridgeAccountMappingAlreadyExists tx.mappingId)
  modify fun s => { s with
    bridgeAccountMappings := s.bridgeAccountMappings.insert tx.mappingId
      { mappingId := tx.mappingId, flowmemoryRecipient := tx.flowmemoryRecipient,
        accountId := tx.accountId, owner := tx.owner, createdAtBlock := s.nextBlockNumber,
        localOnly := tx.localOnly, productionReady := tx.productionReady } }

/-! ### Credits -/

namespace CreditBridgeFromBaseEvent

variable (tx : CreditBridgeFromBaseEvent)

def expectedReplayKeys : List String :=
  deterministicBridgeReplayKey tx.sourceChainId tx.sourceContract tx.txHash tx.logIndex
      tx.depositId ::
    (flowmemoryBridgeSourceEventReplayKey tx.sourceChainId tx.sourceContract tx.txHash
      tx.logIndex).toList

def expectedCreditIds : List String :=
  deterministicBridgeCreditId tx.observationId tx.depositId tx.replayKey tx.sourceChainId
      tx.sourceContract tx.txHash tx.logIndex ::
    (flowmemoryBridgeCreditId tx.observationId tx.flowmemoryRecipient
      flowmemoryLocalRuntimeChainId tx.amountUnits).toList

def liveCredit : Bool := isLiveBridgeCredit tx.localOnly tx.productionReady

def eventRefKey : String :=
  bridgeEventReferenceKey tx.sourceChainId tx.sourceContract tx.txHash tx.logIndex

def eventRef : BridgeEventReference where
  sourceChainId := tx.sourceChainId
  sourceContract := tx.sourceContract
  txHash := tx.txHash
  logIndex := tx.logIndex
  depositId := tx.depositId

def assetMappingId : String :=
  deterministicBridgeAssetMappingId tx.sourceChainId tx.sourceToken tx.assetId

def accountMappingId : String :=
  deterministicBridgeAccountMappingId tx.flowmemoryRecipient tx.accountId

end CreditBridgeFromBaseEvent

/-- The tests on the identifiers, the amount and the proofs of a credit. -/
def creditBridgeRequestChecks (tx : CreditBridgeFromBaseEvent) : Checked Unit := do
  ensureValidBridgeRuntimeMode tx.localOnly tx.productionReady tx.bridgeCreditId
  ensureExpectedIdOneOf "bridge replay key" tx.replayKey tx.expectedReplayKeys
  ensureExpectedIdOneOf "bridge credit" tx.bridgeCreditId tx.expectedCreditIds
  ensureExpectedId "bridge credit receipt" tx.receiptId tx.bridgeCreditId
  rejectIf (tx.amountUnits = 0) (bridgeCreditAmountMustBePositive tx.bridgeCreditId)
  if tx.liveCredit then
    validateLiveBridgeCredit tx.bridgeCreditId tx.sourceChainId tx.sourceToken tx.amountUnits
      tx.confirmationProof tx.pilotCapProof
  else .ok ()

/-- The tests against the three indexes of consumed events. -/
def creditBridgeReplayChecks (s : ChainState) (tx : CreditBridgeFromBaseEvent) :
    Checked Unit := do
  rejectIf (s.bridgeReplayIndex.contains tx.replayKey)
    (bridgeCreditReplayAlreadyConsumed tx.replayKey)
  rejectIf (s.bridgeCredits.contains tx.bridgeCreditId ∨
    s.bridgeCreditReceipts.contains tx.receiptId) (bridgeCreditAlreadyExists tx.bridgeCreditId)
  rejectIf (s.bridgeEventReceiptIndex.contains tx.eventRefKey)
    (bridgeCreditEventReferenceAlreadyConsumed tx.eventRefKey)

/-- The tests against the mappings; the result is the owner of the mapped account. -/
def creditBridgeMappingChecks (s : ChainState) (tx : CreditBridgeFromBaseEvent) :
    Checked String := do
  let assetMapping ← okOr s.bridgeAssetMappings[tx.assetMappingId]?
    (bridgeAssetMappingMissing tx.assetMappingId)
  rejectIf (assetMapping.localAssetId ≠ tx.assetId)
    (bridgeAssetMappingMissing tx.assetMappingId)
  rejectIf (assetMapping.localOnly ≠ tx.localOnly ∨
    assetMapping.productionReady ≠ tx.productionReady)
    (bridgeCreditUnsupportedAsset tx.bridgeCreditId)
  let accountMapping ← okOr s.bridgeAccountMappings[tx.accountMappingId]?
    (bridgeAccountMappingMissing tx.accountMappingId)
  rejectIf (accountMapping.accountId ≠ tx.accountId)
    (bridgeAccountMappingMissing tx.accountMappingId)
  rejectIf (accountMapping.localOnly ≠ tx.localOnly ∨
    accountMapping.productionReady ≠ tx.productionReady)
    (bridgeAccountMappingMissing tx.accountMappingId)
  rejectIf (¬ s.localTestUnitBalances.contains tx.accountId)
    (localTestUnitBalanceMissing tx.accountId)
  return accountMapping.owner

def creditBridgeChecks (s : ChainState) (tx : CreditBridgeFromBaseEvent) : Checked String := do
  creditBridgeRequestChecks tx
  creditBridgeReplayChecks s tx
  creditBridgeMappingChecks s tx

/-- The credit that is stored. -/
def bridgeCredit (s : ChainState) (tx : CreditBridgeFromBaseEvent) (mappedOwner : String) :
    BridgeCredit where
  bridgeCreditId := tx.bridgeCreditId
  receiptId := tx.receiptId
  accountId := tx.accountId
  recipient := mappedOwner
  flowmemoryRecipient := tx.flowmemoryRecipient
  assetId := tx.assetId
  sourceToken := tx.sourceToken
  amountUnits := tx.amountUnits
  eventRef := tx.eventRef
  observationId := tx.observationId
  replayKey := tx.replayKey
  memo := tx.memo
  creditedAtBlock := s.nextBlockNumber
  status := "applied"
  localOnly := tx.localOnly
  productionReady := tx.productionReady
  noValue := !tx.liveCredit
  confirmationProof := tx.confirmationProof
  pilotCapProof := tx.pilotCapProof

/-- The receipt that is stored with the credit. -/
def bridgeCreditReceipt (s : ChainState) (tx : CreditBridgeFromBaseEvent) :
    BridgeCreditReceipt where
  receiptId := tx.receiptId
  bridgeCreditId := tx.bridgeCreditId
  accountId := tx.accountId
  assetId := tx.assetId
  amountUnits := tx.amountUnits
  eventRef := tx.eventRef
  replayKey := tx.replayKey
  status := "applied"
  includedAtBlock := s.nextBlockNumber
  evidence :=
    if tx.liveCredit then "base-event-confirmation-and-pilot-cap-proof"
    else "base-event-reference-and-replay-key"
  localOnly := tx.localOnly
  productionReady := tx.productionReady
  confirmationProof := tx.confirmationProof
  pilotCapProof := tx.pilotCapProof

/-- A live credit marks the credited balance as bearing value. -/
def markIfLive (tx : CreditBridgeFromBaseEvent) : Action Unit :=
  if tx.liveCredit then markAssetBalanceValueBearing tx.accountId tx.assetId else pure ()

def creditBridgeFromBaseEvent (tx : CreditBridgeFromBaseEvent) : Action Unit := do
  let s ← get
  let mappedOwner ← ofExcept (creditBridgeChecks s tx)
  creditAssetUnits tx.accountId tx.assetId tx.amountUnits
  markIfLive tx
  modify fun s => { s with
    bridgeCredits := s.bridgeCredits.insert tx.bridgeCreditId (bridgeCredit s tx mappedOwner) }
  modify fun s => { s with
    bridgeCreditReceipts := s.bridgeCreditReceipts.insert tx.receiptId
      (bridgeCreditReceipt s tx) }
  modify fun s => { s with
    bridgeReplayIndex := s.bridgeReplayIndex.insert tx.replayKey
      { replayKey := tx.replayKey, bridgeCreditId := tx.bridgeCreditId,
        receiptId := tx.receiptId, eventRef := tx.eventRef,
        consumedAtBlock := s.nextBlockNumber } }
  modify fun s => { s with
    bridgeEventReceiptIndex := s.bridgeEventReceiptIndex.insert tx.eventRefKey tx.receiptId }

end FlowMemory
