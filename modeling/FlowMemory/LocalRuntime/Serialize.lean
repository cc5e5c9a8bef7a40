import FlowMemory.LocalRuntime.Model

/-! # The JSON form of the data

Each record is written as an object with the field names of the source in camel case.  An
optional field is `null` when it is absent, except for the few fields that are then left out
(`optional`).  A transaction is written as its payload with the name of the variant under
`type`. -/

namespace FlowMemory

open Json

/-- Values with a JSON form. -/
class Serialize (α : Type) where
  toJson : α → Json

open Serialize (toJson)

instance : Serialize String := ⟨.str⟩
instance : Serialize Bool := ⟨.bool⟩
instance : Serialize ℕ := ⟨.num⟩
instance : Serialize UInt8 := ⟨fun n => .num n.toNat⟩
instance : Serialize UInt64 := ⟨fun n => .num n.toNat⟩

section containers

variable {α : Type} [Serialize α]

instance : CoeOut α Json := ⟨toJson⟩

instance : Serialize (Option α) := ⟨fun o => o.elim .null toJson⟩
instance : Serialize (List α) := ⟨fun xs => .arr (xs.map toJson)⟩
instance : Serialize (BTreeMap α) := ⟨fun m => .obj (m.toList.map fun e => (e.1, toJson e.2))⟩

/-- A member that is left out when it is absent. -/
def optional (key : String) (o : Option α) : List (String × Json) :=
  o.elim [] fun v => [(key, toJson v)]

end containers

/-- The payload of a variant with the name of the variant. -/
def tagged (variant : String) : Json → Json
  | .obj members => .obj (("type", .str variant) :: members)
  | v => v

/-! ### Records of the state -/

instance : Serialize LocalRuntimeConfig where
  toJson x := .obj [("schema", x.schema), ("chainId", x.chainId), ("networkId", x.networkId),
    ("genesisHash", x.genesisHash), ("genesisLogicalTime", x.genesisLogicalTime),
    ("blockTimeSeconds", x.blockTimeSeconds), ("operatorKeyReferenceId", x.operatorKeyReferenceId),
    ("noValue", x.noValue), ("consensus", x.consensus), ("cryptoSchemaRefs", x.cryptoSchemaRefs)]

instance : Serialize OperatorKeyReference where
  toJson x := .obj [("schema", x.schema), ("keyReferenceId", x.keyReferenceId),
    ("operatorId", x.operatorId), ("workerKeyId", x.workerKeyId),
    ("verifierKeyId", x.verifierKeyId), ("verifierSetRoot", x.verifierSetRoot),
    ("signatureScheme", x.signatureScheme), ("publicKeyHint", x.publicKeyHint),
    ("secretMaterialBoundary", x.secretMaterialBoundary), ("cryptoSchemaRefs", x.cryptoSchemaRefs)]

instance : Serialize Rootfield where
  toJson x := .obj [("rootfieldId", x.rootfieldId), ("owner", x.owner),
    ("schemaHash", x.schemaHash), ("metadataHash", x.metadataHash), ("latestRoot", x.latestRoot),
    ("pulseCount", x.pulseCount), ("rootCount", x.rootCount), ("active", x.active)]

instance : Serialize AgentAccount where
  toJson x := .obj [("agentId", x.agentId), ("controller", x.controller),
    ("modelPassportId", x.modelPassportId), ("metadataHash", x.metadataHash),
    ("memoryRoot", x.memoryRoot), ("active", x.active)]

instance : Serialize LocalTestUnitBalance where
  toJson x := .obj [("accountId", x.accountId), ("owner", x.owner), ("units", x.units),
    ("totalFaucetUnits", x.totalFaucetUnits), ("lastFaucetRecordId", x.lastFaucetRecordId),
    ("updatedAtBlock", x.updatedAtBlock), ("noValue", x.noValue)]

instance : Serialize FaucetRecord where
  toJson x := .obj [("faucetRecordId", x.faucetRecordId), ("accountId", x.accountId),
    ("recipient", x.recipient), ("amountUnits", x.amountUnits), ("reason", x.reason),
    ("creditedAtBlock", x.creditedAtBlock), ("noValue", x.noValue)]

instance : Serialize BalanceTransfer where
  toJson x := .obj [("transferId", x.transferId), ("fromAccountId", x.fromAccountId),
    ("toAccountId", x.toAccountId), ("amountUnits", x.amountUnits), ("memo", x.memo),
    ("transferredAtBlock", x.transferredAtBlock), ("noValue", x.noValue)]

instance : Serialize LocalTestToken where
  toJson x := .obj [("tokenId", x.tokenId), ("symbol", x.symbol), ("name", x.name),
    ("decimals", x.decimals), ("launcherAccountId", x.launcherAccountId),
    ("totalSupplyUnits", x.totalSupplyUnits), ("launchedAtBlock", x.launchedAtBlock),
    ("noValue", x.noValue)]

instance : Serialize LocalTestTokenBalance where
  toJson x := .obj [("tokenBalanceId", x.tokenBalanceId), ("tokenId", x.tokenId),
    ("accountId", x.accountId), ("units", x.units), ("updatedAtBlock", x.updatedAtBlock),
    ("noValue", x.noValue)]

instance : Serialize LocalTestTokenMintReceipt where
  toJson x := .obj [("mintId", x.mintId), ("tokenId", x.tokenId), ("toAccountId", x.toAccountId),
    ("amountUnits", x.amountUnits), ("reason", x.reason), ("mintedAtBlock", x.mintedAtBlock),
    ("noValue", x.noValue)]

instance : Serialize DexPool where
  toJson x := .obj [("poolId", x.poolId), ("baseAssetId", x.baseAssetId),
    ("quoteAssetId", x.quoteAssetId), ("createdByAccountId", x.createdByAccountId),
    ("reserveBaseUnits", x.reserveBaseUnits), ("reserveQuoteUnits", x.reserveQuoteUnits),
    ("totalLpUnits", x.totalLpUnits), ("createdAtBlock", x.createdAtBlock),
    ("updatedAtBlock", x.updatedAtBlock), ("lastLiquidityReceiptId", x.lastLiquidityReceiptId),
    ("lastSwapReceiptId", x.lastSwapReceiptId), ("noValue", x.noValue)]

instance : Serialize LpPosition where
  toJson x := .obj [("lpPositionId", x.lpPositionId), ("poolId", x.poolId),
    ("ownerAccountId", x.ownerAccountId), ("lpUnits", x.lpUnits),
    ("baseUnitsDeposited", x.baseUnitsDeposited), ("quoteUnitsDeposited", x.quoteUnitsDeposited),
    ("baseUnitsWithdrawn", x.baseUnitsWithdrawn), ("quoteUnitsWithdrawn", x.quoteUnitsWithdrawn),
    ("updatedAtBlock", x.updatedAtBlock), ("noValue", x.noValue)]

instance : Serialize LiquidityReceipt where
  toJson x := .obj [("liquidityId", x.liquidityId), ("poolId", x.poolId),
    ("providerAccountId", x.providerAccountId), ("action", x.action),
    ("baseAmountUnits", x.baseAmountUnits), ("quoteAmountUnits", x.quoteAmountUnits),
    ("lpUnits", x.lpUnits), ("reserveBaseBefore", x.reserveBaseBefore),
    ("reserveQuoteBefore", x.reserveQuoteBefore), ("reserveBaseAfter", x.reserveBaseAfter),
    ("reserveQuoteAfter", x.reserveQuoteAfter), ("executedAtBlock", x.executedAtBlock),
    ("noValue", x.noValue)]

instance : Serialize SwapReceipt where
  toJson x := .obj [("swapId", x.swapId), ("poolId", x.poolId),
    ("traderAccountId", x.traderAccountId), ("assetInId", x.assetInId),
    ("assetOutId", x.assetOutId), ("amountInUnits", x.amountInUnits),
    ("amountOutUnits", x.amountOutUnits), ("reserveBaseBefore", x.reserveBaseBefore),
    ("reserveQuoteBefore", x.reserveQuoteBefore), ("reserveBaseAfter", x.reserveBaseAfter),
    ("reserveQuoteAfter", x.reserveQuoteAfter), ("executedAtBlock", x.executedAtBlock),
    ("noValue", x.noValue)]

instance : Serialize BridgeAssetMapping where
  toJson x := .obj [("mappingId", x.mappingId), ("sourceChainId", x.sourceChainId),
    ("sourceToken", x.sourceToken), ("localAssetId", x.localAssetId),
    ("createdAtBlock", x.createdAtBlock), ("localOnly", x.localOnly),
    ("productionReady", x.productionReady)]

instance : Serialize BridgeAccountMapping where
  toJson x := .obj [("mappingId", x.mappingId), ("flowmemoryRecipient", x.flowmemoryRecipient),
    ("accountId", x.accountId), ("owner", x.owner), ("createdAtBlock", x.createdAtBlock),
    ("localOnly", x.localOnly), ("productionReady", x.productionReady)]

instance : Serialize BridgeEventReference where
  toJson x := .obj [("sourceChainId", x.sourceChainId), ("sourceContract", x.sourceContract),
    ("txHash", x.txHash), ("logIndex", x.logIndex), ("depositId", x.depositId)]

instance : Serialize BridgeConfirmationProof where
  toJson x := .obj
    ([("depth", toJson x.depth), ("satisfied", toJson x.satisfied)] ++
      optional "latestBlockNumber" x.latestBlockNumber ++
      optional "requiredConfirmedBlockNumber" x.requiredConfirmedBlockNumber ++
      optional "requestedToBlock" x.requestedToBlock)

instance : Serialize BridgePilotCapProof where
  toJson x := .obj
    ([("approvedLockbox", toJson x.approvedLockbox),
      ("operatorAcknowledged", toJson x.operatorAcknowledged),
      ("noSecrets", toJson x.noSecrets),
      ("maxDepositAmountUnits", toJson x.maxDepositAmountUnits),
      ("totalCapAmountUnits", toJson x.totalCapAmountUnits),
      ("supportedTokens", toJson x.supportedTokens)] ++
      optional "maxUsd" x.maxUsd ++
      optional "pilotModeTag" x.pilotModeTag)

instance : Serialize BridgeCredit where
  toJson x := .obj
    ([("bridgeCreditId", toJson x.bridgeCreditId), ("receiptId", toJson x.receiptId),
      ("accountId", toJson x.accountId), ("recipient", toJson x.recipient),
      ("flowmemoryRecipient", toJson x.flowmemoryRecipient),
      ("assetId", toJson x.assetId), ("sourceToken", toJson x.sourceToken),
      ("amountUnits", toJson x.amountUnits), ("eventRef", toJson x.eventRef),
      ("observationId", toJson x.observationId), ("replayKey", toJson x.replayKey),
      ("memo", toJson x.memo), ("creditedAtBlock", toJson x.creditedAtBlock),
      ("status", toJson x.status), ("localOnly", toJson x.localOnly),
      ("productionReady", toJson x.productionReady), ("noValue", toJson x.noValue)] ++
      optional "confirmationProof" x.confirmationProof ++
      optional "pilotCapProof" x.pilotCapProof)

instance : Serialize BridgeCreditReceipt where
  toJson x := .obj
    ([("receiptId", toJson x.receiptId), ("bridgeCreditId", toJson x.bridgeCreditId),
      ("accountId", toJson x.accountId), ("assetId", toJson x.assetId),
      ("amountUnits", toJson x.amountUnits), ("eventRef", toJson x.eventRef),
      ("replayKey", toJson x.replayKey), ("status", toJson x.status),
      ("includedAtBlock", toJson x.includedAtBlock), ("evidence", toJson x.evidence),
      ("localOnly", toJson x.localOnly), ("productionReady", toJson x.productionReady)] ++
      optional "confirmationProof" x.confirmationProof ++
      optional "pilotCapProof" x.pilotCapProof)

instance : Serialize BridgeReplayRecord where
  toJson x := .obj [("replayKey", x.replayKey), ("bridgeCreditId", x.bridgeCreditId),
    ("receiptId", x.receiptId), ("eventRef", x.eventRef), ("consumedAtBlock", x.consumedAtBlock)]

instance : Serialize ModelPassport where
  toJson x := .obj [("modelPassportId", x.modelPassportId), ("issuer", x.issuer),
    ("modelFamily", x.modelFamily), ("modelHash", x.modelHash), ("metadataHash", x.metadataHash),
    ("active", x.active)]

instance : Serialize MemoryCell where
  toJson x := .obj [("memoryCellId", x.memoryCellId), ("agentId", x.agentId),
    ("rootfieldId", x.rootfieldId), ("currentRoot", x.currentRoot), ("parentRoot", x.parentRoot),
    ("sourceReceiptId", x.sourceReceiptId), ("memoryDeltaRoot", x.memoryDeltaRoot),
    ("status", x.status), ("updateCount", x.updateCount), ("updatedAtBlock", x.updatedAtBlock)]

instance : Serialize Challenge where
  toJson x := .obj [("challengeId", x.challengeId), ("receiptId", x.receiptId),
    ("challenger", x.challenger), ("evidenceHash", x.evidenceHash), ("reasonCode", x.reasonCode),
    ("status", x.status), ("resolution", x.resolution), ("openedAtBlock", x.openedAtBlock),
    ("resolvedAtBlock", x.resolvedAtBlock)]

instance : Serialize FinalityReceipt where
  toJson x := .obj [("finalityReceiptId", x.finalityReceiptId), ("receiptId", x.receiptId),
    ("rootfieldId", x.rootfieldId), ("finalizedBy", x.finalizedBy),
    ("finalityStatus", x.finalityStatus), ("challengeCount", x.challengeCount),
    ("finalizedAtBlock", x.finalizedAtBlock), ("stateRoot", x.stateRoot)]

instance : Serialize ArtifactCommitment where
  toJson x := .obj [("artifactId", x.artifactId), ("rootfieldId", x.rootfieldId),
    ("commitment", x.commitment), ("uriHint", x.uriHint)]

instance : Serialize ArtifactAvailabilityProof where
  toJson x := .obj [("proofId", x.proofId), ("artifactId", x.artifactId),
    ("rootfieldId", x.rootfieldId), ("commitment", x.commitment), ("proofDigest", x.proofDigest),
    ("storageBackend", x.storageBackend), ("status", x.status),
    ("checkedAtBlock", x.checkedAtBlock)]

instance : Serialize WorkReceipt where
  toJson x := .obj [("receiptId", x.receiptId), ("rootfieldId", x.rootfieldId),
    ("workerId", x.workerId), ("inputRoot", x.inputRoot), ("outputRoot", x.outputRoot),
    ("artifactCommitment", x.artifactCommitment), ("ruleSet", x.ruleSet)]

instance : Serialize VerifierReport where
  toJson x := .obj [("reportId", x.reportId), ("rootfieldId", x.rootfieldId),
    ("receiptId", x.receiptId), ("verifierId", x.verifierId), ("reportDigest", x.reportDigest),
    ("status", x.status), ("reasonCodes", x.reasonCodes)]

instance : Serialize VerifierModule where
  toJson x := .obj [("verifierId", x.verifierId), ("operator", x.operator),
    ("moduleHash", x.moduleHash), ("ruleSet", x.ruleSet), ("metadataHash", x.metadataHash),
    ("active", x.active)]

instance : Serialize ImportedFlowPulseObservation where
  toJson x := .obj [("observationId", x.observationId), ("chainId", x.chainId),
    ("emittingContract", x.emittingContract), ("blockNumber", x.blockNumber),
    ("blockHash", x.blockHash), ("txHash", x.txHash), ("transactionIndex", x.transactionIndex),
    ("logIndex", x.logIndex), ("eventSignature", x.eventSignature), ("pulseId", x.pulseId),
    ("rootfieldId", x.rootfieldId)]

instance : Serialize ImportedVerifierReport where
  toJson x := .obj [("reportId", x.reportId), ("rootfieldId", x.rootfieldId),
    ("receiptId", x.receiptId), ("reportDigest", x.reportDigest), ("status", x.status),
    ("source", x.source)]

instance : Serialize BaseAnchorPlaceholder where
  toJson x := .obj
    [("anchorId", toJson x.anchorId), ("localRuntimeChainId", toJson x.localRuntimeChainId),
     ("blockRangeStart", toJson x.blockRangeStart),
     ("blockRangeEnd", toJson x.blockRangeEnd), ("stateRoot", toJson x.stateRoot),
     ("workReceiptRoot", toJson x.workReceiptRoot),
     ("verifierReportRoot", toJson x.verifierReportRoot),
     ("rootfieldStateRoot", toJson x.rootfieldStateRoot),
     ("artifactCommitmentRoot", toJson x.artifactCommitmentRoot),
     ("operatorKeyReferenceRoot", toJson x.operatorKeyReferenceRoot),
     ("agentAccountRoot", toJson x.agentAccountRoot),
     ("localTestUnitBalanceRoot", toJson x.localTestUnitBalanceRoot),
     ("faucetRecordRoot", toJson x.faucetRecordRoot),
     ("balanceTransferRoot", toJson x.balanceTransferRoot),
     ("tokenDefinitionRoot", toJson x.tokenDefinitionRoot),
     ("tokenBalanceRoot", toJson x.tokenBalanceRoot),
     ("tokenMintReceiptRoot", toJson x.tokenMintReceiptRoot),
     ("dexPoolRoot", toJson x.dexPoolRoot), ("lpPositionRoot", toJson x.lpPositionRoot),
     ("liquidityReceiptRoot", toJson x.liquidityReceiptRoot),
     ("swapReceiptRoot", toJson x.swapReceiptRoot),
     ("bridgeAssetMappingRoot", toJson x.bridgeAssetMappingRoot),
     ("bridgeAccountMappingRoot", toJson x.bridgeAccountMappingRoot),
     ("bridgeCreditRoot", toJson x.bridgeCreditRoot),
     ("bridgeCreditReceiptRoot", toJson x.bridgeCreditReceiptRoot),
     ("bridgeReplayIndexRoot", toJson x.bridgeReplayIndexRoot),
     ("bridgeEventReceiptIndexRoot", toJson x.bridgeEventReceiptIndexRoot),
     ("modelPassportRoot", toJson x.modelPassportRoot),
     ("memoryCellRoot", toJson x.memoryCellRoot),
     ("challengeRoot", toJson x.challengeRoot),
     ("finalityReceiptRoot", toJson x.finalityReceiptRoot),
     ("artifactAvailabilityProofRoot", toJson x.artifactAvailabilityProofRoot),
     ("verifierModuleRoot", toJson x.verifierModuleRoot),
     ("previousAnchorId", toJson x.previousAnchorId),
     ("finalityStatus", toJson x.finalityStatus)]

/-! ### Transactions -/

instance : Serialize RegisterRootfield where
  toJson tx := .obj [("rootfieldId", tx.rootfieldId), ("owner", tx.owner),
    ("schemaHash", tx.schemaHash), ("metadataHash", tx.metadataHash)]

instance : Serialize RegisterAgent where
  toJson tx := .obj [("agentId", tx.agentId), ("controller", tx.controller),
    ("modelPassportId", tx.modelPassportId), ("metadataHash", tx.metadataHash)]

instance : Serialize CreateLocalTestUnitBalance where
  toJson tx := .obj [("accountId", toJson tx.accountId), ("owner", toJson tx.owner)]

instance : Serialize FaucetLocalTestUnits where
  toJson tx := .obj [("faucetRecordId", tx.faucetRecordId), ("accountId", tx.accountId),
    ("recipient", tx.recipient), ("amountUnits", tx.amountUnits), ("reason", tx.reason)]

instance : Serialize TransferLocalTestUnits where
  toJson tx := .obj [("transferId", tx.transferId), ("fromAccountId", tx.fromAccountId),
    ("toAccountId", tx.toAccountId), ("amountUnits", tx.amountUnits), ("memo", tx.memo)]

instance : Serialize LaunchToken where
  toJson tx := .obj [("tokenId", tx.tokenId), ("symbol", tx.symbol), ("name", tx.name),
    ("decimals", tx.decimals), ("initialOwnerAccountId", tx.initialOwnerAccountId),
    ("initialSupplyUnits", tx.initialSupplyUnits)]

instance : Serialize MintLocalTestToken where
  toJson tx := .obj [("mintId", tx.mintId), ("tokenId", tx.tokenId),
    ("toAccountId", tx.toAccountId), ("amountUnits", tx.amountUnits), ("reason", tx.reason)]

instance : Serialize CreatePool where
  toJson tx := .obj [("poolId", tx.poolId), ("baseAssetId", tx.baseAssetId),
    ("quoteAssetId", tx.quoteAssetId), ("createdByAccountId", tx.createdByAccountId)]

instance : Serialize AddLiquidity where
  toJson tx := .obj [("liquidityId", tx.liquidityId), ("poolId", tx.poolId),
    ("providerAccountId", tx.providerAccountId), ("baseAmountUnits", tx.baseAmountUnits),
    ("quoteAmountUnits", tx.quoteAmountUnits), ("minLpUnits", tx.minLpUnits)]

instance : Serialize RemoveLiquidity where
  toJson tx := .obj [("liquidityId", tx.liquidityId), ("poolId", tx.poolId),
    ("providerAccountId", tx.providerAccountId), ("lpUnits", tx.lpUnits),
    ("minBaseAmountUnits", tx.minBaseAmountUnits), ("minQuoteAmountUnits", tx.minQuoteAmountUnits)]

instance : Serialize SwapExactIn where
  toJson tx := .obj [("swapId", tx.swapId), ("poolId", tx.poolId),
    ("traderAccountId", tx.traderAccountId), ("assetInId", tx.assetInId),
    ("amountInUnits", tx.amountInUnits), ("minAmountOutUnits", tx.minAmountOutUnits)]

instance : Serialize MapBridgeAsset where
  toJson tx := .obj [("mappingId", tx.mappingId), ("sourceChainId", tx.sourceChainId),
    ("sourceToken", tx.sourceToken), ("localAssetId", tx.localAssetId), ("localOnly", tx.localOnly),
    ("productionReady", tx.productionReady)]

instance : Serialize MapBridgeAccount where
  toJson tx := .obj [("mappingId", tx.mappingId), ("flowmemoryRecipient", tx.flowmemoryRecipient),
    ("accountId", tx.accountId), ("owner", tx.owner), ("localOnly", tx.localOnly),
    ("productionReady", tx.productionReady)]

instance : Serialize CreditBridgeFromBaseEvent where
  toJson tx := .obj
    ([("bridgeCreditId", toJson tx.bridgeCreditId), ("receiptId", toJson tx.receiptId),
      ("accountId", toJson tx.accountId),
      ("flowmemoryRecipient", toJson tx.flowmemoryRecipient),
      ("assetId", toJson tx.assetId), ("sourceToken", toJson tx.sourceToken),
      ("amountUnits", toJson tx.amountUnits), ("sourceChainId", toJson tx.sourceChainId),
      ("sourceContract", toJson tx.sourceContract), ("txHash", toJson tx.txHash),
      ("logIndex", toJson tx.logIndex), ("depositId", toJson tx.depositId),
      ("observationId", toJson tx.observationId), ("replayKey", toJson tx.replayKey),
      ("memo", toJson tx.memo), ("localOnly", toJson tx.localOnly),
      ("productionReady", toJson tx.productionReady)] ++
      optional "confirmationProof" tx.confirmationProof ++
      optional "pilotCapProof" tx.pilotCapProof)

instance : Serialize RegisterModelPassport where
  toJson tx := .obj [("modelPassportId", tx.modelPassportId), ("issuer", tx.issuer),
    ("modelFamily", tx.modelFamily), ("modelHash", tx.modelHash), ("metadataHash", tx.metadataHash)]

instance : Serialize CommitRoot where
  toJson tx := .obj [("rootfieldId", tx.rootfieldId), ("actor", tx.actor), ("root", tx.root),
    ("artifactCommitment", tx.artifactCommitment)]

instance : Serialize SubmitArtifactCommitment where
  toJson tx := .obj [("artifactId", tx.artifactId), ("rootfieldId", tx.rootfieldId),
    ("commitment", tx.commitment), ("uriHint", tx.uriHint)]

instance : Serialize MarkArtifactAvailability where
  toJson tx := .obj [("proofId", tx.proofId), ("artifactId", tx.artifactId),
    ("rootfieldId", tx.rootfieldId), ("proofDigest", tx.proofDigest),
    ("storageBackend", tx.storageBackend), ("status", tx.status)]

instance : Serialize SubmitWorkReceipt where
  toJson tx := .obj [("receiptId", tx.receiptId), ("rootfieldId", tx.rootfieldId),
    ("workerId", tx.workerId), ("inputRoot", tx.inputRoot), ("outputRoot", tx.outputRoot),
    ("artifactCommitment", tx.artifactCommitment), ("ruleSet", tx.ruleSet)]

instance : Serialize SubmitVerifierReport where
  toJson tx := .obj [("reportId", tx.reportId), ("rootfieldId", tx.rootfieldId),
    ("receiptId", tx.receiptId), ("verifierId", tx.verifierId), ("reportDigest", tx.reportDigest),
    ("status", tx.status), ("reasonCodes", tx.reasonCodes)]

instance : Serialize RegisterVerifierModule where
  toJson tx := .obj [("verifierId", tx.verifierId), ("operator", tx.operator),
    ("moduleHash", tx.moduleHash), ("ruleSet", tx.ruleSet), ("metadataHash", tx.metadataHash)]

instance : Serialize UpdateMemoryCell where
  toJson tx := .obj [("memoryCellId", tx.memoryCellId), ("agentId", tx.agentId),
    ("rootfieldId", tx.rootfieldId), ("sourceReceiptId", tx.sourceReceiptId),
    ("newRoot", tx.newRoot), ("memoryDeltaRoot", tx.memoryDeltaRoot)]

instance : Serialize OpenChallenge where
  toJson tx := .obj [("challengeId", tx.challengeId), ("receiptId", tx.receiptId),
    ("challenger", tx.challenger), ("evidenceHash", tx.evidenceHash), ("reasonCode", tx.reasonCode)]

instance : Serialize ResolveChallenge where
  toJson tx := .obj [("challengeId", tx.challengeId), ("resolver", tx.resolver),
    ("resolution", tx.resolution)]

instance : Serialize FinalizeWorkReceipt where
  toJson tx := .obj [("finalityReceiptId", tx.finalityReceiptId), ("receiptId", tx.receiptId),
    ("finalizedBy", tx.finalizedBy), ("finalityStatus", tx.finalityStatus)]

instance : Serialize AnchorBatchToBasePlaceholder where
  toJson tx := .obj [("localRuntimeChainId", tx.localRuntimeChainId),
    ("finalityStatus", tx.finalityStatus)]

instance : Serialize Transaction where
  toJson
    | .registerRootfield tx => tagged "RegisterRootfield" tx
    | .registerAgent tx => tagged "RegisterAgent" tx
    | .createLocalTestUnitBalance tx => tagged "CreateLocalTestUnitBalance" tx
    | .faucetLocalTestUnits tx => tagged "FaucetLocalTestUnits" tx
    | .transferLocalTestUnits tx => tagged "TransferLocalTestUnits" tx
    | .launchToken tx => tagged "LaunchToken" tx
    | .mintLocalTestToken tx => tagged "MintLocalTestToken" tx
    | .createPool tx => tagged "CreatePool" tx
    | .addLiquidity tx => tagged "AddLiquidity" tx
    | .removeLiquidity tx => tagged "RemoveLiquidity" tx
    | .swapExactIn tx => tagged "SwapExactIn" tx
    | .mapBridgeAsset tx => tagged "MapBridgeAsset" tx
    | .mapBridgeAccount tx => tagged "MapBridgeAccount" tx
    | .creditBridgeFromBaseEvent tx => tagged "CreditBridgeFromBaseEvent" tx
    | .registerModelPassport tx => tagged "RegisterModelPassport" tx
    | .commitRoot tx => tagged "CommitRoot" tx
    | .submitArtifactCommitment tx => tagged "SubmitArtifactCommitment" tx
    | .markArtifactAvailability tx => tagged "MarkArtifactAvailability" tx
    | .submitWorkReceipt tx => tagged "SubmitWorkReceipt" tx
    | .submitVerifierReport tx => tagged "SubmitVerifierReport" tx
    | .registerVerifierModule tx => tagged "RegisterVerifierModule" tx
    | .updateMemoryCell tx => tagged "UpdateMemoryCell" tx
    | .openChallenge tx => tagged "OpenChallenge" tx
    | .resolveChallenge tx => tagged "ResolveChallenge" tx
    | .finalizeWorkReceipt tx => tagged "FinalizeWorkReceipt" tx
    | .anchorBatchToBasePlaceholder tx => tagged "AnchorBatchToBasePlaceholder" tx
    | .importFlowPulseObservation tx => tagged "ImportFlowPulseObservation" tx
    | .importVerifierReport tx => tagged "ImportVerifierReport" tx

/-! ### Blocks -/

instance : Serialize LocalAuthorization where
  toJson x := .obj [("mode", x.mode), ("signer", x.signer), ("digest", x.digest)]

instance : Serialize BlockReceipt where
  toJson x := .obj
    ([("txId", toJson x.txId), ("status", toJson x.status), ("error", toJson x.error)] ++
      optional "authorization" x.authorization)

instance : Serialize Block where
  toJson x := .obj [("schema", x.schema), ("blockNumber", x.blockNumber),
    ("parentHash", x.parentHash), ("logicalTime", x.logicalTime), ("txIds", x.txIds),
    ("receipts", x.receipts), ("stateRoot", x.stateRoot), ("blockHash", x.blockHash)]

end FlowMemory
